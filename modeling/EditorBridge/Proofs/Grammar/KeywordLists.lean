import EditorBridge.Proofs.Grammar.Names
import Mathlib.Data.List.Basic
/-!
The lists of words and of symbols.  They hold the literals of a grammar and nothing else, each once, in strictly
rising order; so they do not show in which order the literals were gone through
(`keyword_lists_canonical`).
-/

set_option autoImplicit false

namespace EditorBridge

/-- An order in which the distinct literals of a grammar can be gone through. -/
structure Grammar.Enumerates (grammar : Grammar) (order : List String) : Prop where
  nodup : order.Nodup
  mem_iff : ∀ literal, literal ∈ order ↔ literal ∈ grammar.literals

namespace Keywords

/-- The words and the symbols among some literals, as they are listed for editors. -/
structure Canonical (literals : List String) (keywords : Keywords) : Prop where
  disjoint : keywords.words.Disjoint keywords.symbols
  words_rising : keywords.words.Pairwise fun first second => Collation.compare first second = .lt
  symbols_rising : keywords.symbols.Pairwise fun first second => Collation.compare first second = .lt
  complete : ∀ literal, literal ∈ keywords.words ∨ literal ∈ keywords.symbols ↔ literal ∈ literals
  /-- A literal is a word just if there is a letter in it. -/
  word_iff : ∀ literal ∈ literals,
    literal ∈ keywords.words ↔ ∃ c ∈ literal.toList, Character.isAlphabetic c = true

theorem isWord_iff {literal : String} :
    isWord literal = true ↔ ∃ c ∈ literal.toList, Character.isAlphabetic c = true := by
  rw [isWord, List.any_eq_true]

theorem canonical_ofLiterals {literals : List String} (h : literals.Nodup) :
    Canonical literals (ofLiterals literals) where
  disjoint := by
    intro literal hword hsymbol
    rw [mem_words_ofLiterals] at hword
    rw [mem_symbols_ofLiterals] at hsymbol
    exact absurd hword.2 (Bool.eq_false_iff.mp hsymbol.2)
  words_rising := Collation.pairwise_sort_of_nodup (h.filter isWord)
  symbols_rising := Collation.pairwise_sort_of_nodup (h.filter fun literal => !isWord literal)
  complete := by
    intro literal
    rw [mem_words_ofLiterals, mem_symbols_ofLiterals, ← and_or_left]
    simp
  word_iff := by
    intro literal hmem
    rw [mem_words_ofLiterals, and_iff_right hmem, isWord_iff]

end Keywords

open Keywords

theorem Grammar.Enumerates.perm {grammar : Grammar} {order : List String} (h : grammar.Enumerates order) :
    order.Perm grammar.literals :=
  (List.perm_ext_iff_of_nodup h.nodup (nodup_eraseDups _)).mpr h.mem_iff

/-- **The lists of words and symbols are canonical**: in whatever order the literals of a grammar are gone
through, the same lists come out, which hold each literal once and in rising order; and the pattern of symbols
is the same for all orders of the symbols. -/
theorem keyword_lists_canonical (grammar : Grammar) :
    (∀ order, grammar.Enumerates order → ofLiterals order = grammar.keywords) ∧
    grammar.keywords.Canonical grammar.literals ∧
    ∀ symbols others : List String, symbols.Perm others → symbolsPattern symbols = symbolsPattern others := by
  refine ⟨?_, canonical_ofLiterals (nodup_eraseDups _), ?_⟩
  · intro order horder
    exact ofLiterals_eq_of_perm horder.perm
  · intro symbols others hperm
    exact symbolsPattern_eq_of_perm hperm

def condition : Grammar := ⟨[⟨"Condition", none, true, false, false, .parser (.group [.keyword "if",
  .keyword "==", .keyword "then", .keyword "=", .keyword "if"])⟩]⟩

/-- The literals come out the same whether they are gone through forwards or backwards. -/
theorem keyword_lists_canonical_backwards :
    condition.literals = ["if", "==", "then", "="] ∧ condition.Enumerates ["=", "then", "==", "if"] ∧
      ofLiterals ["=", "then", "==", "if"] = condition.keywords := by
  have hliterals : condition.literals = ["if", "==", "then", "="] := by decide
  have horder : condition.Enumerates ["=", "then", "==", "if"] := by
    refine ⟨by decide, fun literal => ?_⟩
    rw [hliterals]
    exact (List.reverse_perm ["if", "==", "then", "="]).mem_iff
  exact ⟨hliterals, horder, (keyword_lists_canonical condition).1 _ horder⟩

end EditorBridge
