import EditorBridge.CommandLine.Arguments
import EditorBridge.Grammar.Format
import EditorBridge.Grammar.Resolution
import EditorBridge.Notification.Document
import EditorBridge.Settings
import EditorBridge.Tokenizer.Synthesis
import EditorBridge.Tree.Containment
import EditorBridge.Tree.Render
import EditorBridge.Tree.Statistics
/-!
Running the program.  Files are read through a function, so that the same program runs on real files
and on files in memory; what it prints is its result.
-/

set_option autoImplicit false

namespace EditorBridge.CommandLine

/-! ## Environment -/

/-- Why a file cannot be read. -/
inductive FileError
  | notFound
  | isDirectory
  | notDirectory
  | other (message : String)
deriving DecidableEq, Repr

def FileError.message : FileError → String
  | notFound => "No such file or directory (os error 2)"
  | isDirectory => "Is a directory (os error 21)"
  | notDirectory => "Not a directory (os error 20)"
  | other message => message

/-- What the program leaves behind: its exit code and what it printed. -/
structure Outcome where
  code : Nat
  output : String := ""
  errors : String := ""
deriving DecidableEq, Repr

/-! ## Log -/

/-- The greatest rank of records that are shown, given the name of a level; case does not matter. -/
def rankOfLevel? (name : String) : Option Nat :=
  match name.toLower with
  | "off" => some 0
  | "error" => some 1
  | "warn" => some 2
  | "info" => some 3
  | "debug" => some 4
  | "trace" => some 5
  | _ => none

/-- The line of a record.  The details of debugging name the thread and the part of the program. -/
def logLine (record : LogRecord) : String :=
  let origin := if LogLevel.debug.rank ≤ record.level.rank then "(1) " ++ record.source ++ ": " else ""
  " [" ++ record.level.name ++ "] " ++ origin ++ record.message ++ "\n"

/-- The lines of all records that are shown. -/
def logLines (rank : Nat) (log : List LogRecord) : String :=
  String.join ((log.filter fun record => record.level.rank ≤ rank).map logLine)

/-! ## Commands -/

/-- A failure: its message, then that of its cause, and so on. -/
abbrev Failure : Type := List String

/-- A computation that writes a log and can fail, over a way to read files. -/
abbrev Run (m : Type → Type) (α : Type) : Type := ExceptT Failure (StateT (List LogRecord) m) α

variable {m : Type → Type} [Monad m]

/-- A way to read files by their names. -/
abbrev ReadFile (m : Type → Type) : Type := String → m (Except FileError String)

/-- Adds records to the log. -/
def report (log : List LogRecord) : Run m Unit := modify (· ++ log)

/-- Reads a file; `what` says which kind of file it is. -/
def readFile (files : ReadFile m) (what path : String) : Run m String := do
  match ← (files path : m (Except FileError String)) with
  | .ok text => pure text
  | .error error => throw ["Failed to read " ++ what ++ "`" ++ path ++ "`", error.message]

/-- The settings in a file, or the default ones. -/
def loadSettings (files : ReadFile m) : Option String → Run m Settings
  | none => pure {}
  | some path => do
    let text ← readFile files "config " path
    match Json.parse text with
    | .error fault => throw ["Failed to parse config `" ++ path ++ "`", fault.message]
    | .ok value =>
      match Settings.ofJson value with
      | .error error => throw error.messages
      | .ok (settings, log) =>
        report log
        pure settings

/-- JSON as the settings want it printed. -/
def printed (settings : Settings) (value : Json) : String :=
  (if settings.pretty then value.pretty else value.compact) ++ "\n"

/-- The failure to link what a file holds. -/
def linkFailure (path : String) (error : LinkError) : Failure :=
  ["Failed to link `" ++ path ++ "`", error.message] ++ error.cause.toList

def linkFile (files : ReadFile m) (settings : Settings) (path : String) : Run m LinkedTree := do
  let text ← readFile files "" path
  match LinkedTree.parse settings.conventions text with
  | .error error => throw (linkFailure path error)
  | .ok tree =>
    report tree.linkLog
    pure tree

/-- The tokenizer description of the grammar in a file. -/
def runTokenizer (files : ReadFile m) (settings : Settings) (path : String) : Run m String := do
  let text ← readFile files "" path
  match GrammarModel.decoder.run text with
  | .error fault => throw ["Failed to parse grammar `" ++ path ++ "`", fault.message]
  | .ok model =>
    let (grammar, diagnostics) := model.load {}
    let (description, log) := grammar.tokenizer
    report log
    report (diagnostics.problems.map fun problem => ⟨.warn, "weft", path ++ ": " ++ problem.text⟩)
    pure (printed settings description.toJson)

/-- The summary of the document in a notification. -/
def runDocument (files : ReadFile m) (settings : Settings) (path : String) : Run m String := do
  let text ← readFile files "" path
  match LinkedDocument.parse settings.conventions text with
  | .error error => throw (linkFailure path error)
  | .ok document =>
    report document.linkLog
    pure ("uri\t" ++ document.uri.text ++ "\n" ++
      "diagnostics\t" ++ toString document.diagnostics.length ++
        " (" ++ toString document.errors.length ++ " errors)\n" ++ document.tree.statistics.text)

/-- Runs a command; the result is what it prints. -/
def runCommand (files : ReadFile m) (settings : Settings) : Command → Run m String
  | .tokenizer path => runTokenizer files settings path
  | .link path json => do
    let tree ← linkFile files settings path
    pure (if json then printed settings tree.toJson else tree.statistics.text)
  | .graph path json => do
    let tree ← linkFile files settings path
    let graph := tree.containment
    pure (if json then printed settings graph.toJson else graph.toDot)
  | .document path => runDocument files settings path

/-! ## Program -/

def failureLine (failure : Failure) : String := "Error: " ++ ": ".intercalate failure ++ "\n"

/-- Runs a request.  `environmentLevel` is the level of the log unless the request has one. -/
def runRequest (files : ReadFile m) (environmentLevel : Option String) (request : Request) :
    m Outcome := do
  let level := (request.options.logLevel.orElse fun _ => environmentLevel).getD "WARN"
  match rankOfLevel? level with
  | none => return ⟨1, "", failureLine ["Unknown log level `" ++ level ++ "`"]⟩
  | some rank =>
    let program : Run m String := do
      let settings ← loadSettings files request.options.config
      runCommand files settings request.command
    let (result, log) ← program.run.run []
    match result with
    | .ok output => return ⟨0, output, logLines rank log⟩
    | .error failure => return ⟨1, "", logLines rank log ++ failureLine failure⟩

/-- How the program is called. -/
def usage : String :=
  "Usage: weft [--config <CONFIG>] [--log-level <LEVEL>] <tokenizer|link|graph|document> <FILE>\n"

/-- Runs the program on its arguments. -/
def run (files : ReadFile m) (environmentLevel : Option String) (arguments : List String) :
    m Outcome :=
  match parse arguments with
  | .version => return ⟨0, "weft 0.1.0\n", ""⟩
  | .help => return ⟨0, usage, ""⟩
  | .usageError => return ⟨2, "", usage⟩
  | .request request => runRequest files environmentLevel request

end EditorBridge.CommandLine
