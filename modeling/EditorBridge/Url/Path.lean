import EditorBridge.Url.Percent
/-!
Paths of addresses as lists of segments.  A segment of one dot stands for the place it is in, one of
two dots for the place above; the drive letter of a file system is never left.
-/

set_option autoImplicit false

namespace EditorBridge.UrlPath

/-! ## Segments -/

/-- How many dots a segment consists of, escaped ones included, if it consists of one or two. -/
def dots? (segment : List Char) : Option Nat :=
  match undot segment with
  | ['.'] => some 1
  | ['.', '.'] => some 2
  | _ => none
where
  /-- Undoes the escape of dots. -/
  undot : List Char → List Char
    | '%' :: '2' :: 'e' :: rest | '%' :: '2' :: 'E' :: rest => '.' :: undot rest
    | c :: rest => c :: undot rest
    | [] => []

/-- Whether a segment is a drive letter. -/
def isDriveLetter : List Char → Bool
  | [letter, mark] => letter.isAlpha && (mark == ':' || mark == '|')
  | _ => false

/-- A segment as it is kept: in an address of a file, a drive letter at the front has a colon. -/
def keep (file : Bool) (before : List (List Char)) (segment : List Char) : List Char :=
  match segment with
  | [letter, _] =>
    if file && before.isEmpty && isDriveLetter segment then [letter, ':'] else segment
  | _ => segment

/-- The segments above a place, in reverse. -/
def parent : List (List Char) → List (List Char)
  | [] => []
  | segment :: before => if isDriveLetter segment then segment :: before else before

/-- The segments of a path with the dots resolved; `before` holds the ones done in reverse. -/
def resolve (file : Bool) : List (List Char) → List (List Char) → List (List Char)
  | before, [] => before.reverse
  | before, segment :: rest =>
    match dots? segment with
    | some count =>
      let before := if count = 2 then parent before else before
      if rest.isEmpty then (([] : List Char) :: before).reverse else resolve file before rest
    | none => resolve file (keep file before segment :: before) rest

/-! ## Texts -/

/-- The segments of a text, where a backslash may divide them like a slash. -/
def segments (backslash : Bool) (text : List Char) : List (List Char) :=
  match text with
  | [] => [[]]
  | c :: rest =>
    if c = '/' ∨ (backslash = true ∧ c = '\\') then [] :: segments backslash rest
    else
      match segments backslash rest with
      | [] => [[c]]
      | segment :: more => (c :: segment) :: more

/-- The text of segments, each after a slash. -/
def text (segments : List (List Char)) : String :=
  String.ofList (segments.flatMap fun segment => '/' :: segment)

/-- The segments of what follows the first slash of a path. -/
def parse (special file : Bool) (input : List Char) : List (List Char) :=
  resolve file [] ((segments special input).map (Percent.encode Percent.inPath))

/-- The text of the path of a file: empty segments at the front are dropped. -/
def fileText (segments : List (List Char)) : String :=
  match segments.dropWhile List.isEmpty with
  | [] => "/"
  | rest => text rest

end EditorBridge.UrlPath
