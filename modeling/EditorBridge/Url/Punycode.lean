import EditorBridge.Text.Split
/-!
Punycode: any label of a domain name in letters, digits and dashes.  The ASCII characters come first;
then follows, in order of code points, for every other character the distance to the place where it
is inserted, as a number of variable length whose digits adapt to the numbers before.
-/

set_option autoImplicit false

namespace EditorBridge.Punycode

/-! ## Digits -/

/-- The digit of a value below 36: letters first, then decimal digits. -/
def digit (value : Nat) : Char :=
  if value < 26 then Char.ofNat (0x61 + value) else Char.ofNat (0x30 + value - 26)

def digitValue? (c : Char) : Option Nat :=
  if c.isLower then some (c.toNat - 0x61)
  else if c.isUpper then some (c.toNat - 0x41)
  else if c.isDigit then some (c.toNat - 0x30 + 26)
  else none

/-- The threshold of the digit at a place: a smaller digit ends a number. -/
def threshold (place bias : Nat) : Nat := min 26 (max 1 (place - bias))

theorem threshold_pos (place bias : Nat) : 1 ≤ threshold place bias := by
  unfold threshold
  omega

theorem threshold_le (place bias : Nat) : threshold place bias ≤ 26 := by
  unfold threshold
  omega

/-- Divides a distance until it is small; `place` counts the divisions. -/
def settle (distance place : Nat) : Nat × Nat :=
  if 455 < distance then settle (distance / 35) (place + 36) else (distance, place)
termination_by distance
decreasing_by exact Nat.div_lt_self (by omega) (by omega)

/-- The bias after a number: `count` characters have been placed. -/
def adapt (distance count : Nat) (first : Bool) : Nat :=
  let scaled := if first then distance / 700 else distance / 2
  let (rest, place) := settle (scaled + scaled / count) 0
  place + 36 * rest / (rest + 38)

/-! ## Encoding -/

def encodeNumber (bias place number : Nat) : List Char :=
  let limit := threshold place bias
  if number < limit then [digit number]
  else
    digit (limit + (number - limit) % (36 - limit)) ::
      encodeNumber bias (place + 36) ((number - limit) / (36 - limit))
termination_by number
decreasing_by
  have := threshold_pos place bias
  calc (number - threshold place bias) / (36 - threshold place bias)
      ≤ number - threshold place bias := Nat.div_le_self _ _
    _ < number := by omega

/-- What has been written of a label: the output in reverse, the distance since the last number, the
bias, and how many characters have been placed. -/
structure Progress where
  output : List Char
  distance : Nat
  bias : Nat
  placed : Nat

/-- Passes one character of the label while those of code point `code` are being placed; `basic` is
the number of ASCII characters. -/
def passChar (basic code : Nat) (progress : Progress) (c : Char) : Progress :=
  if c.toNat < code then { progress with distance := progress.distance + 1 }
  else if c.toNat = code then
    { output := (encodeNumber progress.bias 36 progress.distance).reverse ++ progress.output
      distance := 0
      bias := adapt progress.distance (progress.placed + 1) (progress.placed == basic)
      placed := progress.placed + 1 }
  else progress

/-- Places all characters of the given code points, which ascend; `next` is the least one that may
come. -/
def placeAll (label : List Char) (basic : Nat) : Nat → Progress → List Nat → Progress
  | _, progress, [] => progress
  | next, progress, code :: codes =>
    let jump := (code - next) * (progress.placed + 1)
    let progress :=
      label.foldl (passChar basic code) { progress with distance := progress.distance + jump }
    placeAll label basic (code + 1) { progress with distance := progress.distance + 1 } codes

/-- The written form of a label. -/
def encode (label : List Char) : List Char :=
  let basic := label.filter fun c => c.toNat < 0x80
  let codes := ((label.filter fun c => 0x80 ≤ c.toNat).map Char.toNat).mergeSort.eraseDups
  let progress := placeAll label basic.length 0x80 ⟨[], 0, 72, basic.length⟩ codes
  basic ++ (if basic.isEmpty then [] else ['-']) ++ progress.output.reverse

/-! ## Decoding -/

/-- Adds the number at the front of a text, its weight being `weight`, to `sum`. -/
def decodeNumber (bias : Nat) : List Char → Nat → Nat → Nat → Option (Nat × List Char)
  | [], _, _, _ => none
  | c :: rest, place, weight, sum =>
    match digitValue? c with
    | none => none
    | some value =>
      let limit := threshold place bias
      if value < limit then some (sum + value * weight, rest)
      else decodeNumber bias rest (place + 36) (weight * (36 - limit)) (sum + value * weight)

theorem decodeNumber_length {bias : Nat} {text : List Char} {place weight sum : Nat}
    {result : Nat × List Char} (h : decodeNumber bias text place weight sum = some result) :
    result.2.length < text.length := by
  induction text generalizing place weight sum with
  | nil => simp [decodeNumber] at h
  | cons c rest ih =>
    rw [decodeNumber] at h
    split at h
    · simp at h
    · dsimp only at h
      split at h
      · rw [← Option.some.inj h]
        simp
      · have := ih h
        simp only [List.length_cons]
        omega

/-- Inserts the characters that numbers describe.  `code` is the code point of the character before,
`index` the least place of the next one. -/
def insertAll (bias code index : Nat) (label : List Char) : List Char → Option (List Char)
  | [] => some label
  | c :: rest =>
    match h : decodeNumber bias (c :: rest) 36 1 index with
    | none => none
    | some (sum, left) =>
      let count := label.length + 1
      let found := code + sum / count
      if found.isValidChar then
        let inserted := label.insertIdx (sum % count) (Char.ofNat found)
        insertAll (adapt (sum - index) count (index == 0)) found (sum % count + 1) inserted left
      else none
termination_by text => text.length
decreasing_by
  have := decodeNumber_length h
  simpa using this

/-- The label of a written form. -/
def decode? (text : List Char) : Option (List Char) :=
  let (basic, numbers) := (Text.splitAtLast '-' text).getD ([], text)
  if basic.any fun c => 0x80 ≤ c.toNat then none else insertAll 72 0x80 0 basic numbers

end EditorBridge.Punycode
