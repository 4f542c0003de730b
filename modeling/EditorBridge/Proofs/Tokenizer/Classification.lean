import EditorBridge.Proofs.Tokenizer.Assembly
/-!
How matched texts are classified.  A rule that distinguishes reserved words is made only for a terminal that
matches one of them, and this makes no difference: whatever texts a terminal matches, its rule classifies the
reserved words among them as such and all others by the class of the terminal (`keyword_occlusion_exact`).
-/

set_option autoImplicit false

namespace EditorBridge

open Tokenizer

/-! ## Actions -/

theorem Action.classify_memberOr (isMember : String → String → Bool) (list name fallback text : String) :
    (memberOr list name fallback).classify isMember text =
      some (if applies isMember text list then name else fallback) := by
  have hdefault : applies isMember text defaultCase = true := by simp [applies]
  unfold memberOr plain
  rw [classify, classifyCases, classifyCases, hdefault]
  cases applies isMember text list <;> rfl

/-- The words that an attribute lists are told from all other texts. -/
theorem TokenizerDescription.classify_memberOr {description : TokenizerDescription}
    {list name fallback text : String} {words : List String}
    (hlist : Action.applies description.isMember text list = words.contains text) :
    (Action.memberOr list name fallback).classify description.isMember text =
      some (if text ∈ words then name else fallback) := by
  rw [Action.classify_memberOr, hlist]
  simp only [List.contains_iff_mem]

/-! ## The main state -/

/-- The rule at the end of the main state. -/
def catchAll : TokenizerRule :=
  .matching symbolsAttribute (Action.memberOr operatorsAttribute operatorToken plainToken)

/-- A terminal with its pattern, if it makes tokens. -/
def tokenTerminal? (rule : Rule) (definition : TerminalDefinition) : Option (Rule × TerminalPattern) :=
  match placeTerminal rule definition with
  | .ok (pattern, .token) => some (rule, pattern)
  | _ => none

/-- The terminals that make tokens, with their patterns, in declaration order. -/
def Grammar.tokenTerminals (grammar : Grammar) : List (Rule × TerminalPattern) :=
  grammar.terminalRules.filterMap fun (_, rule, definition) => tokenTerminal? rule definition

/-- The rules of terminals that make tokens. -/
def tokenRules (words : List String) (terminals : List (Rule × TerminalPattern)) : List TokenizerRule :=
  terminals.map fun (rule, pattern) => tokenRule rule pattern words

namespace Assembly

theorem tokens_addComment (assembly : Assembly) (source : String) :
    (assembly.addComment source).tokens = assembly.tokens := by
  unfold addComment
  dsimp only
  split <;> rfl

theorem tokens_add (words : List String) (assembly : Assembly) (rule : Rule)
    (definition : TerminalDefinition) : (assembly.add words rule definition).tokens =
      assembly.tokens ++ tokenRules words (tokenTerminal? rule definition).toList := by
  unfold add tokenTerminal?
  cases hplace : placeTerminal rule definition with
  | error reason => exact (List.append_nil _).symm
  | ok placed =>
    obtain ⟨pattern, place⟩ := placed
    cases place with
    | whitespace => exact (List.append_nil _).symm
    | comment =>
      have hcomment := tokens_addComment assembly pattern.source
      exact hcomment.trans (List.append_nil _).symm
    | token => rfl

theorem tokens_addAll (words : List String) (assembly : Assembly)
    (terminals : List (RuleHandle × Rule × TerminalDefinition)) :
    (assembly.addAll words terminals).tokens =
      assembly.tokens ++ tokenRules words
        (terminals.filterMap fun (_, rule, definition) => tokenTerminal? rule definition) := by
  induction terminals generalizing assembly with
  | nil => exact (List.append_nil _).symm
  | cons terminal terminals ih =>
    obtain ⟨handle, rule, definition⟩ := terminal
    have hfirst := tokens_add words assembly rule definition
    have hrest := ih (assembly.add words rule definition)
    rw [hfirst, List.append_assoc] at hrest
    refine hrest.trans ?_
    cases htoken : tokenTerminal? rule definition <;> simp [tokenRules, htoken]

end Assembly

/-- The main state holds a rule for each terminal that makes tokens, and then the two rules of every
tokenizer. -/
theorem Grammar.mainState_tokenizer (grammar : Grammar) : grammar.tokenizer.1.state? mainState =
    some ⟨mainState, tokenRules grammar.tokenizer.1.keywords grammar.tokenTerminals ++
      [.includeState whitespaceState, catchAll]⟩ := by
  have htokens := Assembly.tokens_addAll grammar.keywords.words {} grammar.terminalRules
  have hmain : grammar.tokenizer.1.state? mainState = some ⟨mainState,
      (Assembly.addAll grammar.keywords.words {} grammar.terminalRules).tokens ++
        [.includeState whitespaceState, catchAll]⟩ := rfl
  rw [hmain, htokens]
  rfl

/-! ## Reserved words -/

/-- The rule that is made for a terminal of a class, given which texts it matches in full. -/
def occludingRule (source name : String) (matchesFully : String → Bool) (words : List String) :
    TokenizerRule :=
  .matching source <|
    if words.any matchesFully then .memberOr keywordsAttribute keywordToken name else .plain name

theorem tokenRule_eq (rule : Rule) (pattern : TerminalPattern) (words : List String) :
    tokenRule rule pattern words =
      occludingRule pattern.source rule.tokenClass pattern.isFullMatch words := rfl

/-- A rule classifies the texts that its terminal matches in full: reserved words as such and all others by the
class of the terminal, as if it always distinguished them. -/
def TokenizerRule.Occludes (entry : TokenizerRule) (description : TokenizerDescription) (name : String)
    (matchesFully : String → Bool) : Prop :=
  ∃ action, entry.action? = some action ∧ ∀ text, matchesFully text = true →
    action.classify description.isMember text =
        some (if text ∈ description.keywords then keywordToken else name) ∧
      action.classify description.isMember text =
        (Action.memberOr keywordsAttribute keywordToken name).classify description.isMember text

theorem occludes_occludingRule (description : TokenizerDescription) (source name : String)
    (matchesFully : String → Bool) :
    (occludingRule source name matchesFully description.keywords).Occludes description name
      matchesFully := by
  refine ⟨_, rfl, ?_⟩
  intro text htext
  have hkeywords : (Action.memberOr keywordsAttribute keywordToken name).classify description.isMember text =
      some (if text ∈ description.keywords then keywordToken else name) :=
    TokenizerDescription.classify_memberOr rfl
  rw [hkeywords, and_self]
  by_cases hany : description.keywords.any matchesFully = true
  · rw [if_pos hany]
    exact hkeywords
  · -- No reserved word is matched in full, so the text is none.
    have hword : text ∉ description.keywords := by
      intro hmem
      exact hany (List.any_eq_true.mpr ⟨text, hmem, htext⟩)
    rw [if_neg hany, if_neg hword]
    rfl

/-- **Reserved words are told apart exactly.**  The main state holds a rule for each terminal that makes tokens,
which classifies the texts the terminal matches in full as if it always distinguished reserved words; and so
it would be with any other way of matching. -/
theorem keyword_occlusion_exact (grammar : Grammar) :
    grammar.tokenizer.1.state? mainState =
      some ⟨mainState, tokenRules grammar.tokenizer.1.keywords grammar.tokenTerminals ++
        [.includeState whitespaceState, catchAll]⟩ ∧
    (∀ rule pattern, (tokenRule rule pattern grammar.tokenizer.1.keywords).Occludes grammar.tokenizer.1
      rule.tokenClass pattern.isFullMatch) ∧
    ∀ source name matchesFully, (occludingRule source name matchesFully
      grammar.tokenizer.1.keywords).Occludes grammar.tokenizer.1 name matchesFully := by
  have hoccludes := occludes_occludingRule grammar.tokenizer.1
  refine ⟨grammar.mainState_tokenizer, ?_, hoccludes⟩
  intro rule pattern
  rw [tokenRule_eq]
  exact hoccludes pattern.source rule.tokenClass pattern.isFullMatch

end EditorBridge
