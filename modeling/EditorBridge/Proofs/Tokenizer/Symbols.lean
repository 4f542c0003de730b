import EditorBridge.Proofs.Grammar.Collation
import EditorBridge.Proofs.Grammar.Reachability
import EditorBridge.Proofs.Regex.Alternatives
import EditorBridge.Proofs.Tokenizer.BlockPattern
import EditorBridge.Proofs.Tokenizer.Classification
/-!
The pattern of all symbols.  It takes the longest symbol that a text starts with, for symbols are tried from
the longest to the shortest (`symbols_maximal_munch`).  It can take nothing just if the empty text is a
symbol, which a grammar with an empty keyword brings about (`symbols_take_nothing_iff`).
-/

set_option autoImplicit false

namespace EditorBridge

open Regex Tokenizer

namespace Keywords

/-! ## Without symbols -/

/-- What is spelled for no symbols at all: one character that is no character. -/
def nothingPattern : Regex.Pattern := .one anyChar.complement

theorem tries_nothingPattern : nothingPattern.Tries [] := by
  intro text place
  have hnone : ∀ c : Char, anyChar.complement.has c = false := by
    intro c
    have hany := has_anyChar c
    unfold CharSet.has at hany ⊢
    rw [CharSet.complement, CharSet.contains_difference, hany]
    simp
  have hplace : text[place]?.any anyChar.complement.has = false := by
    cases text[place]? with
    | none => rfl
    | some c => exact hnone c
  rw [nothingPattern, Pattern.ends, hplace]
  rfl

theorem spells_nothing : Spells nothing nothingPattern ∧
    Spells (TerminalPattern.anchored nothing) nothingPattern.anchored := by
  let ast : Ast := .bracketed true (.union [.short .space false, .short .space true])
  have hresolve : ast.resolve.run {} = some (nothingPattern, {}) := rfl
  have hparse : parse nothing = some ast := rfl
  have hread : (Parser.branches Parser.maxNesting).run { rest := nothing.toList ++ [')', '$'] } =
      some (ast, { rest := [')', '$'] }) := rfl
  exact ⟨.of_parse hparse hresolve, .anchored hread (by decide) hresolve⟩

/-! ## Symbols as alternatives -/

theorem symbolsPattern_toList {symbols : List String} (h : symbols ≠ []) :
    (symbolsPattern symbols).toList = Pattern.alternatives ((tried symbols).map String.toList) := by
  have hnot : ¬ symbols.isEmpty = true := by simp [h]
  have hescape : ∀ symbol : String,
      (Pattern.escape symbol).toList = symbol.toList.flatMap Pattern.escapeChar := by
    intro symbol
    rw [Pattern.escape, String.toList_ofList]
  rw [symbolsPattern, if_neg hnot, String.toList_intercalate, List.map_map, Pattern.alternatives,
    List.map_map]
  congr 1
  apply List.map_congr_left
  intro symbol _
  exact hescape symbol

/-- The pattern of symbols spells a pattern that tries them in order, and so does its anchored form. -/
theorem exists_spells_symbolsPattern (symbols : List String) : ∃ pattern : Regex.Pattern,
    Spells (symbolsPattern symbols) pattern ∧
    Spells (TerminalPattern.anchored (symbolsPattern symbols)) pattern.anchored ∧
    pattern.Tries ((tried symbols).map String.toList) := by
  by_cases hempty : symbols = []
  · have hsource : symbolsPattern symbols = nothing := by rw [hempty]; rfl
    have hnone : (tried symbols).map String.toList = [] := by simp [hempty, tried]
    rw [hsource, hnone]
    exact ⟨nothingPattern, spells_nothing.1, spells_nothing.2, tries_nothingPattern⟩
  · have hne : (tried symbols).map String.toList ≠ [] := by
      obtain ⟨symbol, hsymbol⟩ := List.exists_mem_of_ne_nil symbols hempty
      exact List.ne_nil_of_mem (List.mem_map_of_mem (mem_tried.mpr hsymbol))
    have hspells := spells_choice hne (symbolsPattern_toList hempty)
    exact ⟨_, hspells.1, hspells.2, Pattern.tries_choice _⟩

theorem exists_tried_iff {symbols : List String} {holds : List Char → Prop} :
    (∃ literal ∈ (tried symbols).map String.toList, holds literal) ↔
      ∃ symbol ∈ symbols, holds symbol.toList := by
  constructor
  · rintro ⟨literal, hliteral, hholds⟩
    obtain ⟨symbol, hsymbol, rfl⟩ := List.mem_map.mp hliteral
    exact ⟨symbol, mem_tried.mp hsymbol, hholds⟩
  · rintro ⟨symbol, hsymbol, hholds⟩
    exact ⟨symbol.toList, List.mem_map_of_mem (mem_tried.mpr hsymbol), hholds⟩

theorem forall_tried_iff {symbols : List String} {holds : List Char → Prop} :
    (∀ literal ∈ (tried symbols).map String.toList, holds literal) ↔
      ∀ symbol ∈ symbols, holds symbol.toList := by
  simp only [List.forall_mem_map, mem_tried]

variable {symbols : List String} {pattern : Regex.Pattern}

theorem isMatch_anchored_iff_mem (h : pattern.Tries ((tried symbols).map String.toList))
    (text : String) : pattern.anchored.isMatch text = true ↔ text ∈ symbols := by
  rw [h.isMatch_anchored_iff, List.mem_map]
  constructor
  · rintro ⟨symbol, hsymbol, hsame⟩
    rw [← String.toList_injective hsame]
    exact mem_tried.mp hsymbol
  · intro hmem
    exact ⟨text, mem_tried.mpr hmem, rfl⟩

theorem isMatch_iff_occurs (h : pattern.Tries ((tried symbols).map String.toList)) (text : String) :
    pattern.isMatch text = true ↔ ∃ symbol ∈ symbols, symbol.toList <:+: text.toList := by
  rw [h.isMatch_iff, exists_tried_iff]

theorem firstEnd?_eq_some_iff (h : pattern.Tries ((tried symbols).map String.toList)) (text : String)
    (stop : Nat) : pattern.firstEnd? text = some stop ↔
      ∃ symbol ∈ symbols, symbol.toList <+: text.toList ∧ symbol.length = stop ∧
        ∀ other ∈ symbols, other.toList <+: text.toList → other.length ≤ stop := by
  have hsorted : ((tried symbols).map String.toList).Pairwise
      fun first second => second.length ≤ first.length := by
    rw [List.pairwise_map]
    exact pairwise_tried symbols
  rw [h.firstEnd?_eq_some_iff hsorted, exists_tried_iff]
  simp only [forall_tried_iff, String.length_toList]

theorem firstEnd?_isSome_iff (h : pattern.Tries ((tried symbols).map String.toList)) (text : String) :
    (pattern.firstEnd? text).isSome = true ↔ ∃ symbol ∈ symbols, symbol.toList <+: text.toList := by
  have hnone := h.firstEnd?_eq_none_iff text
  rw [forall_tried_iff] at hnone
  rw [Option.isSome_iff_ne_none, ne_eq, hnone]
  simp

end Keywords

open Keywords

/-! ## Maximal munch -/

/-- What the pattern of some symbols and its anchored form match. -/
structure MaximalMunch (symbols : List String) (search full : Regex.Pattern) : Prop where
  /-- There is a match at the start of a text just if the text starts with a symbol. -/
  starts : ∀ text, (search.firstEnd? text).isSome = true ↔
    ∃ symbol ∈ symbols, symbol.toList <+: text.toList
  /-- The preferred match at the start of a text is the longest of the symbols that it starts with. -/
  longest : ∀ text stop, search.firstEnd? text = some stop ↔
    ∃ symbol ∈ symbols, symbol.toList <+: text.toList ∧ symbol.length = stop ∧
      ∀ other ∈ symbols, other.toList <+: text.toList → other.length ≤ stop
  whole : ∀ text, full.isMatch text = true ↔ text ∈ symbols
  nothing : symbols = [] → ∀ text, search.isMatch text = false

theorem maximalMunch_of_tries {symbols : List String} {pattern : Regex.Pattern}
    (h : pattern.Tries ((tried symbols).map String.toList)) :
    MaximalMunch symbols pattern pattern.anchored where
  starts := firstEnd?_isSome_iff h
  longest := firstEnd?_eq_some_iff h
  whole := isMatch_anchored_iff_mem h
  nothing := by
    intro hempty text
    rw [← Bool.not_eq_true, isMatch_iff_occurs h, hempty]
    simp

/-- **The pattern of symbols takes the longest symbol.**  So in every tokenizer the rule at the end of the main
state classifies a text as an operator just if the pattern of symbols matches all of it. -/
theorem symbols_maximal_munch :
    (∀ symbols : List String, ∃ search full : Regex.Pattern,
      Spells (symbolsPattern symbols) search ∧
      Spells (TerminalPattern.anchored (symbolsPattern symbols)) full ∧
      MaximalMunch symbols search full) ∧
    ∀ grammar : Grammar, ∃ full others action,
      Spells (TerminalPattern.anchored grammar.tokenizer.1.symbols) full ∧
      grammar.tokenizer.1.state? mainState =
        some ⟨mainState, others ++ [.matching symbolsAttribute action]⟩ ∧
      ∀ text, action.classify grammar.tokenizer.1.isMember text =
        some (if full.isMatch text = true then operatorToken else plainToken) := by
  constructor
  · intro symbols
    obtain ⟨pattern, hsearch, hfull, htries⟩ := exists_spells_symbolsPattern symbols
    exact ⟨pattern, pattern.anchored, hsearch, hfull, maximalMunch_of_tries htries⟩
  · intro grammar
    obtain ⟨pattern, _, hfull, htries⟩ := exists_spells_symbolsPattern grammar.keywords.symbols
    refine ⟨pattern.anchored, tokenRules grammar.tokenizer.1.keywords grammar.tokenTerminals ++
      [.includeState whitespaceState], .memberOr operatorsAttribute operatorToken plainToken, hfull, ?_, ?_⟩
    · rw [grammar.mainState_tokenizer, List.append_assoc]
      rfl
    · intro text
      have hoperators : (Action.memberOr operatorsAttribute operatorToken plainToken).classify
          grammar.tokenizer.1.isMember text =
            some (if text ∈ grammar.keywords.symbols then operatorToken else plainToken) :=
        TokenizerDescription.classify_memberOr rfl
      rw [hoperators]
      simp only [isMatch_anchored_iff_mem htries]

/-! ## Matches of nothing -/

/-- The symbols of a grammar are its literals without a letter. -/
theorem Grammar.mem_symbols_iff {grammar : Grammar} {literal : String} :
    literal ∈ grammar.keywords.symbols ↔ literal ∈ grammar.literals ∧ isWord literal = false :=
  mem_symbols_ofLiterals

/-- A parser rule that is reached holds the empty keyword. -/
def Grammar.HoldsEmptyKeyword (grammar : Grammar) : Prop :=
  ∃ handle element, grammar.Reaches handle ∧ grammar.Parses handle element ∧
    element.Contains (.keyword "")

theorem Grammar.empty_mem_symbols_iff {grammar : Grammar} :
    "" ∈ grammar.keywords.symbols ↔ grammar.HoldsEmptyKeyword := by
  have hword : isWord "" = false := by decide
  rw [mem_symbols_iff, hword, HoldsEmptyKeyword, ← mem_literals_iff]
  simp

/-- **The pattern of symbols takes nothing just if a keyword is empty.**  Without the empty keyword each of its
matches takes a character; with it the pattern matches the empty text, and takes nothing where no other
symbol stands. -/
theorem symbols_take_nothing_iff (grammar : Grammar) : ∃ search full : Regex.Pattern,
    Spells grammar.tokenizer.1.symbols search ∧
    Spells (TerminalPattern.anchored grammar.tokenizer.1.symbols) full ∧
    (search.isMatch "" = true ↔ grammar.HoldsEmptyKeyword) ∧
    (full.isMatch "" = true ↔ grammar.HoldsEmptyKeyword) ∧
    ∀ text, search.firstEnd? text = some 0 ↔ grammar.HoldsEmptyKeyword ∧
      ∀ symbol ∈ grammar.tokenizer.1.operators, symbol.toList <+: text.toList → symbol = "" := by
  obtain ⟨pattern, hsearch, hfull, htries⟩ := exists_spells_symbolsPattern grammar.keywords.symbols
  have hempty := grammar.empty_mem_symbols_iff
  have hoperators : grammar.tokenizer.1.operators = grammar.keywords.symbols := rfl
  refine ⟨pattern, pattern.anchored, hsearch, hfull, ?_, ?_, ?_⟩
  · rw [isMatch_iff_occurs htries, ← hempty]
    constructor
    · rintro ⟨symbol, hsymbol, hinfix⟩
      have hnil : symbol = "" := String.toList_eq_nil_iff.mp (List.infix_nil.mp hinfix)
      rwa [← hnil]
    · intro hmem
      exact ⟨"", hmem, List.infix_rfl⟩
  · rw [isMatch_anchored_iff_mem htries, hempty]
  · intro text
    have hzero : ∀ symbol : String, symbol.length ≤ 0 ↔ symbol = "" := by
      intro symbol
      rw [Nat.le_zero, String.length_eq_zero_iff]
    rw [firstEnd?_eq_some_iff htries, hoperators]
    simp only [hzero]
    constructor
    · rintro ⟨symbol, hsymbol, _, hlength, hall⟩
      have hnil : symbol = "" := (hzero symbol).mp (Nat.le_of_eq hlength)
      rw [hnil] at hsymbol
      exact ⟨hempty.mp hsymbol, hall⟩
    · rintro ⟨hholds, hall⟩
      exact ⟨"", hempty.mpr hholds, List.nil_prefix, rfl, hall⟩

/-- A grammar whose only keyword is empty. -/
def emptyKeyword : GrammarModel := ⟨"Test", [.parser ⟨"Model", true, .keyword none ""⟩]⟩

theorem symbols_of_emptyKeyword_take_nothing : emptyKeyword.toGrammar.tokenizer.1.symbols = "" ∧
    ∃ search : Regex.Pattern, Spells emptyKeyword.toGrammar.tokenizer.1.symbols search ∧
      search.isMatch "" = true := by
  have hliterals : emptyKeyword.toGrammar.literals = [""] := by decide
  have hsymbols : emptyKeyword.toGrammar.tokenizer.1.symbols = symbolsPattern
      (Collation.sort (emptyKeyword.toGrammar.literals.filter fun literal => !isWord literal)) := rfl
  have hempty : emptyKeyword.toGrammar.tokenizer.1.symbols = "" := by
    rw [hsymbols, hliterals]
    simp [Collation.sort, symbolsPattern, tried, isWord, Pattern.escape]
  rw [hempty]
  exact ⟨rfl, .empty, rfl, by decide⟩

end EditorBridge
