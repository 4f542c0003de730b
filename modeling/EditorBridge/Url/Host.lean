import EditorBridge.Url.DomainName
/-!
Hosts of addresses: names, and numeric addresses of four or sixteen bytes.
-/

set_option autoImplicit false

namespace EditorBridge

/-- What is wrong with an address. -/
inductive UrlError
  | relative
  | emptyHost
  | domainName
  | port
  | ipv4
  | ipv6
  | hostCharacter
deriving DecidableEq, Repr

def UrlError.message : UrlError → String
  | relative => "relative URL without a base"
  | emptyHost => "empty host"
  | domainName => "invalid international domain name"
  | port => "invalid port number"
  | ipv4 => "invalid IPv4 address"
  | ipv6 => "invalid IPv6 address"
  | hostCharacter => "invalid domain character"

/-- A host.  A numeric address is kept as a number or as its eight pieces. -/
inductive Host
  | nothing
  | name (text : String)
  | ipv4 (address : Nat)
  | ipv6 (pieces : List Nat)
deriving DecidableEq, Repr

namespace Host

/-! ## Addresses of four bytes -/

/-- A number in the base that its prefix tells.  Too large a number is no mistake here. -/
def ipv4Number? (text : List Char) : Option Nat :=
  let inBase (base : Nat) (digits : List Char) : Option Nat :=
    digits.foldl (fun value c => do
      let digit ← CharSet.hexDigit? c
      if digit < base then return (← value) * base + digit else none) (some 0)
  match text with
  | [] => none
  | '0' :: 'x' :: digits | '0' :: 'X' :: digits => inBase 16 digits
  | '0' :: c :: digits => inBase 8 (c :: digits)
  | digits => inBase 10 digits

/-- The parts of a name, without the empty one after a final dot. -/
def dottedParts (name : List Char) : List (List Char) :=
  let parts := Text.splitOn '.' name
  if parts.getLast? = some [] then parts.dropLast else parts

/-- Whether a name must be read as a numeric address: its last part is a number or looks like one. -/
def endsInNumber (name : List Char) : Bool :=
  match (dottedParts name).getLast? with
  | none => false
  | some last => (!last.isEmpty && last.all Char.isDigit) || (ipv4Number? last).isSome

/-- The numeric address a name spells.  The last number fills all bytes that are left. -/
def parseIpv4 (name : List Char) : Except UrlError Host :=
  let parts := dottedParts name
  match parts.mapM ipv4Number? with
  | none => .error .ipv4
  | some numbers =>
    let front := numbers.dropLast
    let last := numbers.getLast?.getD 0
    if numbers.length > 4 || front.any (255 < ·) || Nat.pow 256 (4 - front.length) ≤ last then
      .error .ipv4
    else
      let address := front.zipIdx.foldl (fun sum (n, i) => sum + n * Nat.pow 256 (3 - i)) last
      .ok (ipv4 address)

/-- The text of an address of four bytes. -/
def ipv4Text (address : Nat) : String :=
  ".".intercalate ([3, 2, 1, 0].map fun i => toString (address / Nat.pow 256 i % 256))

/-! ## Addresses of sixteen bytes -/

/-- The parts of a text before and after its first two adjacent colons. -/
def splitAtGap : List Char → Option (List Char × List Char)
  | ':' :: ':' :: rest => some ([], rest)
  | c :: rest => (splitAtGap rest).map fun (before, after) => (c :: before, after)
  | [] => none

/-- One byte in decimal, without leading zeros. -/
def byte? (text : List Char) : Option Nat :=
  if text.isEmpty || !text.all Char.isDigit || (text.length > 1 && text.head? = some '0') then none
  else
    let value := text.foldl (fun value c => value * 10 + (c.toNat - 0x30)) 0
    if value < 256 then some value else none

/-- One piece in hexadecimal. -/
def piece? (text : List Char) : Option Nat :=
  if text.isEmpty || text.length > 4 then none
  else text.foldl (fun value c => do return (← value) * 16 + (← CharSet.hexDigit? c)) (some 0)

/-- The two pieces of an address of four bytes in decimal. -/
def dottedPieces? (text : List Char) : Option (List Nat) := do
  match ← (Text.splitOn '.' text).mapM byte? with
  | [a, b, c, d] => some [a * 256 + b, c * 256 + d]
  | _ => none

/-- Pieces between colons; the last one may be an address of four bytes if `dotted` says so. -/
def pieces? (dotted : Bool) : List (List Char) → Option (List Nat)
  | [] => some []
  | [last] =>
    if dotted && last.contains '.' then dottedPieces? last else (piece? last).map fun piece => [piece]
  | group :: rest => do return (← piece? group) :: (← pieces? dotted rest)

/-- Pieces between colons, or none if there is no text. -/
def piecesOf? (dotted : Bool) (text : List Char) : Option (List Nat) :=
  if text.isEmpty then some [] else pieces? dotted (Text.splitOn ':' text)

/-- The address of sixteen bytes a text spells.  Two adjacent colons stand for all pieces that are
left out, one at least. -/
def parseIpv6 (text : List Char) : Except UrlError Host :=
  let pieces := match splitAtGap text with
    | none => do
      let pieces ← piecesOf? true text
      if pieces.length = 8 then some pieces else none
    | some (front, back) => do
      let front ← piecesOf? false front
      let back ← piecesOf? true back
      if front.length + back.length < 8 then
        some (front ++ List.replicate (8 - front.length - back.length) 0 ++ back)
      else none
  match pieces with
  | some pieces => .ok (ipv6 pieces)
  | none => .error .ipv6

/-- How many zeros a list starts with. -/
def leadingZeros (pieces : List Nat) : Nat := (pieces.takeWhile (· == 0)).length

/-- Where the longest run of zeros starts, and its length; of several the first. -/
def longestRun : List Nat → Nat × Nat
  | [] => (0, 0)
  | piece :: rest =>
    let (start, length) := longestRun rest
    let here := leadingZeros (piece :: rest)
    if length ≤ here then (0, here) else (start + 1, length)

/-- Pieces in hexadecimal between colons. -/
def piecesText (pieces : List Nat) : String :=
  ":".intercalate (pieces.map fun piece => String.ofList (Nat.toDigits 16 piece))

/-- The text of an address of sixteen bytes: the longest run of two or more zeros is left out. -/
def ipv6Text (pieces : List Nat) : String :=
  let (start, length) := longestRun pieces
  if length < 2 then piecesText pieces
  else piecesText (pieces.take start) ++ "::" ++ piecesText (pieces.drop (start + length))

/-! ## Hosts -/

def text : Host → String
  | nothing => ""
  | name text => text
  | ipv4 address => ipv4Text address
  | ipv6 pieces => "[" ++ ipv6Text pieces ++ "]"

/-- The address in brackets, if a text has any. -/
def bracketed? : List Char → Option (Except UrlError Host)
  | '[' :: rest =>
    if rest.getLast? = some ']' then some (parseIpv6 rest.dropLast) else some (.error .ipv6)
  | _ => none

/-- The host that a text names where the scheme is special. -/
def parse (text : List Char) : Except UrlError Host :=
  match bracketed? text with
  | some host => host
  | none =>
    match DomainName.parse? text with
    | none => .error .domainName
    | some domain =>
      if domain = "" then .error .emptyHost
      else if endsInNumber domain.toList then parseIpv4 domain.toList
      else .ok (name domain)

/-- Characters that no host can hold. -/
def forbidden : List Char :=
  ['\x00', '\t', '\n', '\r', ' ', '#', '/', ':', '<', '>', '?', '@', '[', '\\', ']', '^', '|']

/-- The host that a text names where the scheme is not special.  Its form is up to the scheme. -/
def parseOpaque (text : List Char) : Except UrlError Host :=
  match bracketed? text with
  | some host => host
  | none =>
    if text.any forbidden.contains then .error .hostCharacter
    else if text.isEmpty then .ok nothing
    else .ok (name (String.ofList (Percent.encode Percent.inOpaque text)))

end Host

end EditorBridge
