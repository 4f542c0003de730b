import EditorBridge.Text.CharSet
import EditorBridge.Text.Split
/-!
Simple case folding.  Characters that fold to the same character form an orbit; `CharSet.foldCase`
closes a set of characters under these orbits.
-/

set_option autoImplicit false

namespace EditorBridge

namespace CaseOrbit

/-! ## Tables -/

/-- Orbits of two characters.  `A-B+D` stands for the pairs `x`, `x + D` with `x` from `A` to `B`,
and `A-B+D/2` for every second one of them. -/
def pairTable : String :=
  "41-4A+20 4C-52+20 54-5A+20 C0-C4+20 C6-D6+20 D8-DE+20 DF+1DBF FF+79 100-12E+1/2 132-136+1/2
   139-147+1/2 14A-176+1/2 179-17D+1/2 180+C3 181+D2 182-184+1/2 186+CE 187+1 189-18A+CD 18B+1
   18E+4F 18F+CA 190+CB 191+1 193+CD 194+CF 195+61 196+D3 197+D1 198+1 19A+A3 19B+A641 19C+D3
   19D+D5 19E+82 19F+D6 1A0-1A4+1/2 1A6+DA 1A7+1 1A9+DA 1AC+1 1AE+DA 1AF+1 1B1-1B2+D9 1B3-1B5+1/2
   1B7+DB 1B8+1 1BC+1 1BF+38 1CD-1DB+1/2 1DE-1EE+1/2 1F4+1 1F8-21E+1/2 222-232+1/2 23A+2A2B 23B+1
   23E+2A28 23F-240+2A3F 241+1 244+45 245+47 246-24E+1/2 250+2A1F 251+2A1C 252+2A1E 25C+A54F
   261+A54B 264+A567 265+A528 266+A544 26A+A544 26B+29F7 26C+A541 271+29FD 27D+29E7 282+A543
   287+A52A 29D+A515 29E+A512 370-372+1/2 376+1 37B-37D+82 37F+74 386+26 388-38A+25 38C+40
   38E-38F+3F 390+1C43 391-393+20/2 394-396+20/2 397+20 39B-39D+20/2 39E-39F+20 3A4-3A5+20
   3A7-3A8+20 3AA-3AB+20 3B0+1C33 3CF+8 3D8-3EE+1/2 3F2+7 3F7+1 3FA+1 400-40F+50 410-411+20
   413-415+20/2 416-41D+20 41F-420+20 423-429+20 42B-42F+20 460+1 464-480+1/2 48A-4BE+1/2 4C0+F
   4C1-4CD+1/2 4D0-52E+1/2 531-556+30 10A0-10C5+1C60 10C7+1C60 10CD+1C60 10D0-10FA+BC0
   10FD-10FF+BC0 13A0-13EF+97D0 13F0-13F5+8 1C89+1 1D79+8A04 1D7D+EE6 1D8E+8A38 1E00-1E5E+1/2
   1E62-1E94+1/2 1EA0-1EFE+1/2 1F00-1F07+8 1F10-1F15+8 1F20-1F27+8 1F30-1F37+8 1F40-1F45+8
   1F51-1F57+8/2 1F60-1F67+8 1F70-1F71+4A 1F72-1F75+56 1F76-1F77+64 1F78-1F79+80 1F7A-1F7B+70
   1F7C-1F7D+7E 1F80-1F87+8 1F90-1F97+8 1FA0-1FA7+8 1FB0-1FB1+8 1FB3+9 1FC3+9 1FD0-1FD1+8
   1FE0-1FE1+8 1FE5+7 1FF3+9 2132+1C 2160-216F+10 2183+1 24B6-24CF+1A 2C00-2C2F+30 2C60+1
   2C67-2C6B+1/2 2C72+1 2C75+1 2C80-2CE2+1/2 2CEB-2CED+1/2 2CF2+1 A640-A648+1/2 A64C-A66C+1/2
   A680-A69A+1/2 A722-A72E+1/2 A732-A76E+1/2 A779-A77B+1/2 A77E-A786+1/2 A78B+1 A790-A792+1/2
   A794+30 A796-A7A8+1/2 A7B3+3A0 A7B4-A7C2+1/2 A7C7-A7C9+1/2 A7CC-A7DA+1/2 A7F5+1 FB05+1
   FF21-FF3A+20 10400-10427+28 104B0-104D3+28 10570-1057A+27 1057C-1058A+27 1058C-10592+27
   10594-10595+27 10C80-10CB2+40 10D50-10D65+20 118A0-118BF+20 16E40-16E5F+20 16EA0-16EB8+1B
   1E900-1E921+22"

/-- Orbits of three or more characters, separated by commas. -/
def largerTable : String :=
  "4B 6B 212A, 53 73 17F, B5 39C 3BC, C5 E5 212B, 1C4 1C5 1C6, 1C7 1C8 1C9, 1CA 1CB 1CC, 1F1 1F2
   1F3, 345 399 3B9 1FBE, 392 3B2 3D0, 395 3B5 3F5, 398 3B8 3D1 3F4, 39A 3BA 3F0, 3A0 3C0 3D6,
   3A1 3C1 3F1, 3A3 3C2 3C3, 3A6 3C6 3D5, 3A9 3C9 2126, 412 432 1C80, 414 434 1C81, 41E 43E 1C82,
   421 441 1C83, 422 442 1C84 1C85, 42A 44A 1C86, 462 463 1C87, 1C88 A64A A64B, 1E60 1E61 1E9B"

/-! ## Orbits -/

/-- The numbers of a written word, read in hexadecimal; every other character separates. -/
def numbers (word : List Char) : List Nat :=
  let (current, done) := word.foldl step (none, [])
  (current.toList ++ done).reverse
where
  /-- Extends the number being read, or closes it. -/
  step (state : Option Nat × List Nat) (c : Char) : Option Nat × List Nat :=
    match CharSet.hexDigit? c with
    | some digit => (some (state.1.getD 0 * 16 + digit), state.2)
    | none => (none, state.1.toList ++ state.2)

/-- The pairs that one word of `pairTable` stands for. -/
def pairsOf (word : List Char) : List (List Nat) :=
  let run := word.contains '-'
  let step := if word.contains '/' then 2 else 1
  match numbers word with
  | first :: more =>
    let (last, distance) := match run, more with
      | true, last :: distance :: _ => (last, distance)
      | _, distance :: _ => (first, distance)
      | _, [] => (first, 0)
    (List.range ((last - first) / step + 1)).map fun i =>
      [first + step * i, first + step * i + distance]
  | [] => []

/-- All orbits with more than one member. -/
def orbits : List (List Nat) :=
  (Text.splitOn ' ' pairTable.toList).flatMap pairsOf ++ (Text.splitOn ',' largerTable.toList).map numbers

end CaseOrbit

namespace CharSet

/-- The set with all characters that fold to the same character as a member. -/
def foldCase (set : CharSet) : CharSet :=
  set ++ (CaseOrbit.orbits.filter (·.any set.contains)).flatMap fun orbit =>
    orbit.map fun code => ⟨code, code⟩

/-- The set with both cases of its ASCII letters. -/
def foldAsciiCase (set : CharSet) : CharSet :=
  set ++ ((List.range 26).filter fun i => set.contains (0x41 + i) || set.contains (0x61 + i)).flatMap
    fun i => [⟨0x41 + i, 0x41 + i⟩, ⟨0x61 + i, 0x61 + i⟩]

end CharSet

end EditorBridge
