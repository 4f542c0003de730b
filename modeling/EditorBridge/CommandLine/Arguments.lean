/-!
The arguments of the program.  Options may stand before and after the command; after `--` every
argument is a file name.
-/

set_option autoImplicit false

namespace EditorBridge.CommandLine

/-- What the program is asked to do with a file. -/
inductive Command
  | tokenizer (grammar : String)
  | link (document : String) (json : Bool)
  | graph (document : String) (json : Bool)
  | document (notification : String)
deriving DecidableEq, Repr

/-- Options that take a value. -/
structure Options where
  config : Option String := none
  logLevel : Option String := none
deriving DecidableEq, Repr

/-- A complete request. -/
structure Request where
  options : Options
  command : Command
deriving DecidableEq, Repr

/-- What arguments can amount to. -/
inductive Parsed
  | request (request : Request)
  | version
  | help
  | usageError
deriving DecidableEq, Repr

/-! ## Options -/

/-- The options that take a value. -/
inductive OptionName
  | config | logLevel
deriving DecidableEq, Repr

/-- Sets an option that has not been set.  A file name is not empty. -/
def Options.set? (options : Options) (name : OptionName) (value : String) : Option Options :=
  match name with
  | .config =>
    if options.config.isSome || value = "" then none else some { options with config := some value }
  | .logLevel => if options.logLevel.isSome then none else some { options with logLevel := some value }

/-- The options of a command win over those in front of it. -/
def Options.override (outer inner : Options) : Options :=
  ⟨inner.config <|> outer.config, inner.logLevel <|> outer.logLevel⟩

/-- Whether an argument looks like an option.  A single dash does not. -/
def looksLikeOption (argument : String) : Bool := argument.startsWith "-" && argument != "-"

/-- What an argument does to the options. -/
inductive OptionUse
  /-- It is no option with a value. -/
  | other
  /-- It is an option that cannot be used so. -/
  | misused
  /-- The options that result, and the arguments after the value. -/
  | used (options : Options) (rest : List String)

/-- Uses an argument that names an option whose value follows it. -/
def useSeparate (options : Options) (name : OptionName) : List String → OptionUse
  | [] => .misused
  | value :: rest =>
    if looksLikeOption value then .misused
    else (options.set? name value).elim .misused fun options => .used options rest

/-- Uses an argument if it is an option with a value. -/
def useOption (options : Options) (argument : String) (rest : List String) : OptionUse :=
  let attached (name : OptionName) (mark : String) : OptionUse :=
    (options.set? name (argument.drop mark.length).toString).elim .misused fun options =>
      .used options rest
  if argument = "--config" then useSeparate options .config rest
  else if argument = "--log-level" then useSeparate options .logLevel rest
  else if argument.startsWith "--config=" then attached .config "--config="
  else if argument.startsWith "--log-level=" then attached .logLevel "--log-level="
  else .other

def asksForHelp (argument : String) : Bool := argument == "--help" || argument.startsWith "-h"

/-! ## Commands -/

/-- The kinds of command. -/
inductive CommandName
  | tokenizer | link | graph | document
deriving DecidableEq, Repr

namespace CommandName

def ofString? (name : String) : Option CommandName :=
  match name with
  | "tokenizer" => some tokenizer
  | "link" => some link
  | "graph" => some graph
  | "document" => some document
  | _ => none

/-- Whether a command can print JSON instead. -/
def takesJson : CommandName → Bool
  | link | graph => true
  | tokenizer | document => false

/-- The command on a file. -/
def on (name : CommandName) (file : String) (json : Bool) : Command :=
  match name with
  | tokenizer => .tokenizer file
  | link => .link file json
  | graph => .graph file json
  | document => .document file

end CommandName

/-- What has been read of the arguments of a command. -/
structure CommandState where
  options : Options := {}
  file : Option String := none
  json : Bool := false

namespace CommandState

/-- Adds a file name, of which there is exactly one and which is not empty. -/
def addFile? (state : CommandState) (file : String) : Option CommandState :=
  if state.file.isSome || file = "" then none else some { state with file := some file }

/-- The command once all arguments are read. -/
def finish (state : CommandState) (name : CommandName) (outer : Options) : Parsed :=
  match state.file with
  | none => .usageError
  | some file => .request ⟨outer.override state.options, name.on file state.json⟩

end CommandState

/-- Reads the arguments of a command.  `steps` is at least their number. -/
def parseCommand (outer : Options) (name : CommandName) : Nat → CommandState → List String → Parsed
  | _, state, [] => state.finish name outer
  | 0, _, _ => .usageError
  | steps + 1, state, argument :: rest =>
    if argument = "--" then
      match rest.foldl (fun state file => state.bind fun state => state.addFile? file) (some state) with
      | some state => state.finish name outer
      | none => .usageError
    else
      match useOption state.options argument rest with
      | .misused => .usageError
      | .used options rest => parseCommand outer name steps { state with options } rest
      | .other =>
        if asksForHelp argument then .help
        else if argument = "--json" then
          if name.takesJson && !state.json then
            parseCommand outer name steps { state with json := true } rest
          else .usageError
        else if looksLikeOption argument then .usageError
        else
          match state.addFile? argument with
          | some state => parseCommand outer name steps state rest
          | none => .usageError

/-- Reads the arguments after `help`: the command it is asked about, if any. -/
def parseHelp : List String → Parsed
  | [] => .help
  | [name] => if name = "help" || (CommandName.ofString? name).isSome then .help else .usageError
  | _ => .usageError

def parseFront : Nat → Options → List String → Parsed
  | 0, _, _ => .usageError
  | _, _, [] => .usageError
  | steps + 1, options, argument :: rest =>
    match useOption options argument rest with
    | .misused => .usageError
    | .used options rest => parseFront steps options rest
    | .other =>
      if argument = "--version" || argument.startsWith "-V" then .version
      else if asksForHelp argument then .help
      else if argument = "help" then parseHelp rest
      else
        match CommandName.ofString? argument with
        | some name => parseCommand options name rest.length {} rest
        | none => .usageError

/-- What the arguments amount to. -/
def parse (arguments : List String) : Parsed := parseFront arguments.length {} arguments

end EditorBridge.CommandLine
