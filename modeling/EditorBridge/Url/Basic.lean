import EditorBridge.Url.Host
import EditorBridge.Url.Path
/-!
Addresses (URLs): their parts, their text, and how they are read.  Schemes such as `http` are special:
they require a host, and a backslash in front of the query divides like a slash.
-/

set_option autoImplicit false

namespace EditorBridge

/-- What stands after two slashes: maybe a user, a host, and maybe a port. -/
structure Authority where
  userinfo : String
  host : Host
  port : Option Nat
deriving DecidableEq, Repr

/-- An address in its normal form. -/
structure Url where
  scheme : String
  authority : Option Authority
  path : String
  query : Option String
  fragment : Option String
deriving DecidableEq, Repr

/-! ## Text -/

def Authority.text (authority : Authority) : String :=
  (if authority.userinfo = "" then "" else authority.userinfo ++ "@") ++ authority.host.text ++
    (authority.port.map fun port => ":" ++ toString port).getD ""

namespace Url

/-- The text of an address.  Without an authority, a path of two slashes gets a dot in front, lest it
be read as an authority. -/
def text (url : Url) : String :=
  let front := match url.authority with
    | some authority => "//" ++ authority.text
    | none => if url.path.startsWith "//" then "/." else ""
  url.scheme ++ ":" ++ front ++ url.path ++ (url.query.map ("?" ++ ·)).getD "" ++
    (url.fragment.map ("#" ++ ·)).getD ""

/-! ## Schemes -/

/-- The port that a special scheme has by default. -/
def defaultPort? (scheme : String) : Option Nat :=
  match scheme with
  | "http" | "ws" => some 80
  | "https" | "wss" => some 443
  | "ftp" => some 21
  | _ => none

/-- Whether a scheme is special; that of files is so without a port. -/
def isSpecial (scheme : String) : Bool := scheme == "file" || (defaultPort? scheme).isSome

/-- The scheme in front of a text, and what follows its colon. -/
def splitScheme (input : List Char) : Option (String × List Char) :=
  let isPart (c : Char) : Bool := c.isAlphanum || c == '+' || c == '-' || c == '.'
  match input.head?, input.dropWhile isPart with
  | some first, ':' :: rest =>
    if first.isAlpha then some (String.ofList ((input.takeWhile isPart).map Char.toLower), rest)
    else none
  | _, _ => none

/-! ## Parts -/

def endsAuthority (special : Bool) (c : Char) : Bool :=
  c == '/' || c == '?' || c == '#' || (special && c == '\\')

def endsPath (c : Char) : Bool := c == '?' || c == '#'

/-- An address once its scheme, authority and path are known; query and fragment are read from the
rest. -/
def withRest (scheme : String) (authority : Option Authority) (path : String) (rest : List Char) :
    Url :=
  let fragmentOf (text : List Char) : Option String :=
    match text with
    | '#' :: fragment => some (String.ofList (Percent.encode Percent.inFragment fragment))
    | _ => none
  match rest with
  | '?' :: query =>
    let text := query.takeWhile (· != '#')
    { scheme, authority, path
      query := some (String.ofList (Percent.encode (Percent.inQuery (isSpecial scheme)) text))
      fragment := fragmentOf (query.drop text.length) }
  | rest => { scheme, authority, path, query := none, fragment := fragmentOf rest }

/-- The user in front of a host, and what follows.  A user that ends where the authority does leaves no
host. -/
def splitUser (special : Bool) (input : List Char) : Except UrlError (String × List Char) :=
  let authority := input.takeWhile (!endsAuthority special ·)
  match Text.splitAtLast '@' authority with
  | none => .ok ("", input)
  | some (user, host) =>
    let rest := input.drop (user.length + 1)
    if user.isEmpty && host.isEmpty && !rest.isEmpty then .error .emptyHost
    else
      let name := user.takeWhile (· != ':')
      let password := user.drop (name.length + 1)
      let encode (text : List Char) : List Char := Percent.encode Percent.inUserinfo text
      let info := encode name ++ (if password.isEmpty then [] else ':' :: encode password)
      .ok (String.ofList info, rest)

/-- The text of a host: up to a colon outside of brackets or the end of the authority. -/
def hostSpan (special : Bool) : Bool → List Char → List Char × List Char
  | _, [] => ([], [])
  | inBrackets, c :: rest =>
    if endsAuthority special c || (c == ':' && !inBrackets) then ([], c :: rest)
    else
      let (host, after) := hostSpan special ((inBrackets || c == '[') && c != ']') rest
      (c :: host, after)

/-- The port in front of a text.  That of the scheme itself is left out. -/
def splitPort (scheme : String) (input : List Char) : Except UrlError (Option Nat × List Char) :=
  let digits := input.takeWhile Char.isDigit
  let rest := input.drop digits.length
  let port := digits.foldl (fun value c => value * 10 + (c.toNat - 0x30)) 0
  if 65535 < port || rest.head?.any fun c => !endsAuthority true c then .error .port
  else if digits.isEmpty || defaultPort? scheme = some port then .ok (none, rest)
  else .ok (some port, rest)

/-! ## Addresses -/

/-- An address with an authority, which is next. -/
def parseAuthority (scheme : String) (input : List Char) : Except UrlError Url := do
  let special := isSpecial scheme
  let (userinfo, rest) ← splitUser special input
  let (hostText, rest) := hostSpan special false rest
  if special && hostText.isEmpty then throw .emptyHost
  let host ← if special then Host.parse hostText else Host.parseOpaque hostText
  if host = .nothing && (rest.head? = some ':' || userinfo ≠ "") then throw .emptyHost
  let (port, rest) ← match rest with
    | ':' :: rest => splitPort scheme rest
    | rest => pure (none, rest)
  let authority : Authority := ⟨userinfo, host, port⟩
  let pathInput := rest.takeWhile (!endsPath ·)
  let rest := rest.drop pathInput.length
  let below := match pathInput with
    | '/' :: below => below
    | '\\' :: below => if special then below else pathInput
    | _ => pathInput
  let path := if pathInput.isEmpty && !special then "" else
    UrlPath.text (UrlPath.parse special false below)
  return withRest scheme (some authority) path rest

/-- The path of a file and the address that has it, `host` being where the file is.  A drive letter is
on no other host. -/
def fileOn (host : Host) (input : List Char) : Url :=
  let pathInput := input.takeWhile (!endsPath ·)
  let segments := UrlPath.parse true true pathInput
  let host := if segments.head?.any UrlPath.isDriveLetter then .nothing else host
  withRest "file" (some ⟨"", host, none⟩) (UrlPath.fileText segments) (input.drop pathInput.length)

/-- The text without a slash or backslash in front. -/
def dropSlash : List Char → List Char
  | '/' :: rest | '\\' :: rest => rest
  | input => input

/-- The address of a file, whose scheme has been read. -/
def parseFile (input : List Char) : Except UrlError Url :=
  let isSlash (c : Char) : Bool := c == '/' || c == '\\'
  match input with
  | first :: second :: rest =>
    if isSlash first && isSlash second then
      let hostText := rest.takeWhile (!endsAuthority true ·)
      if UrlPath.isDriveLetter hostText then .ok (fileOn .nothing rest)
      else
        let below := dropSlash (rest.drop hostText.length)
        if hostText.isEmpty then .ok (fileOn .nothing below)
        else do
          let host ← Host.parse hostText
          return fileOn (if host = .name "localhost" then .nothing else host) below
    else .ok (fileOn .nothing (dropSlash input))
  | input => .ok (fileOn .nothing (dropSlash input))

def withoutAuthority (scheme : String) (input : List Char) : Url :=
  let pathInput := input.takeWhile (!endsPath ·)
  let path := match pathInput with
    | '/' :: below => UrlPath.text (UrlPath.parse false false below)
    | _ => String.ofList (Percent.encode Percent.inOpaque pathInput)
  withRest scheme none path (input.drop pathInput.length)

/-- The text of an address without the blanks and controls around it and the line breaks and tabs in
it. -/
def trim (text : String) : List Char :=
  let isBlank (c : Char) : Bool := c.toNat ≤ 0x20
  let front := text.toList.dropWhile isBlank
  (front.reverse.dropWhile isBlank).reverse.filter fun c => c != '\t' && c != '\n' && c != '\r'

/-- The address a text spells. -/
def parse (text : String) : Except UrlError Url :=
  match splitScheme (trim text) with
  | none => .error .relative
  | some (scheme, rest) =>
    if scheme = "file" then parseFile rest
    else if isSpecial scheme then
      parseAuthority scheme (rest.dropWhile fun c => c == '/' || c == '\\')
    else
      match rest with
      | '/' :: '/' :: rest => parseAuthority scheme rest
      | rest => .ok (withoutAuthority scheme rest)

end Url

end EditorBridge
