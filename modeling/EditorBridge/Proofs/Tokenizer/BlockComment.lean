import EditorBridge.Proofs.Tokenizer.Assembly
import EditorBridge.Proofs.Tokenizer.CommentState
import EditorBridge.Proofs.Tokenizer.Delimiters
/-!
Block comments.  A hidden terminal that spells a block comment becomes one rule of white space, which takes
the opening delimiter and enters a state that no other rule enters.  From there the state takes just what the
pattern of the terminal would have taken: all text up to the first closing delimiter, that one included.
-/

set_option autoImplicit false

namespace EditorBridge

open Text (FirstOccurrence)
open Tokenizer Editor

variable {opening closing : String}

/-! ## Placing a block comment -/

theorem Delimiters.isDelimited_of_ne (hopening : opening ≠ "") (hclosing : closing ≠ "")
    (hne : opening ≠ closing) : isDelimited ⟨opening, closing⟩ = true := by
  simp [isDelimited, hopening, hclosing, hne]

theorem length_pos_of_ne_empty {text : String} (h : text ≠ "") : 0 < text.toList.length :=
  List.length_pos_of_ne_nil fun hnil => h (String.toList_eq_nil_iff.mp hnil)

/-- A hidden block comment is placed as a comment, for no single space is one. -/
theorem placeTerminal_block {rule : Rule} (hhidden : rule.hidden = true) (hfragment : rule.fragment = false)
    (hopening : opening ≠ "") (hclosing : closing ≠ "")
    (hsize : TerminalPattern.compile (Pattern.block opening closing) ≠ .error .tooBig) :
    ∃ pattern : TerminalPattern, pattern.source = Pattern.block opening closing ∧
      placeTerminal rule (.regex (Pattern.block opening closing)) = .ok (pattern, .comment) := by
  have hcompile := TerminalPattern.compile_block hopening hsize
  have hspace : (Regex.Pattern.anchoredBlock opening.toList closing.toList).isMatch " " = false := by
    refine Regex.Pattern.isMatch_anchoredBlock_of_short ?_
    have hfirst := length_pos_of_ne_empty hopening
    have hlast := length_pos_of_ne_empty hclosing
    have hone : " ".toList.length = 1 := rfl
    omega
  refine ⟨⟨Pattern.block opening closing, Regex.Pattern.block opening.toList closing.toList,
    Regex.Pattern.anchoredBlock opening.toList closing.toList⟩, rfl, ?_⟩
  rw [placeTerminal]
  simp only [hfragment, Bool.false_eq_true, if_false, hcompile]
  rw [TerminalClass.classify, TerminalPattern.matchesSpace, TerminalPattern.isFullMatch, hspace, hhidden]
  rfl

/-- At its turn a hidden block comment adds one rule of white space and one state. -/
theorem Assembly.add_block {rule : Rule} (hhidden : rule.hidden = true) (hfragment : rule.fragment = false)
    (hopening : opening ≠ "") (hclosing : closing ≠ "") (hne : opening ≠ closing)
    (hsize : TerminalPattern.compile (Pattern.block opening closing) ≠ .error .tooBig)
    (words : List String) (assembly : Assembly) :
    assembly.add words rule (.regex (Pattern.block opening closing)) =
      { assembly with
        blanks := assembly.blanks ++
          [enteringRule (commentName assembly.comments.length) ⟨opening, closing⟩]
        comments := assembly.comments ++
          [commentRules (commentName assembly.comments.length) ⟨opening, closing⟩] } := by
  obtain ⟨pattern, hsource, hplace⟩ := placeTerminal_block hhidden hfragment hopening hclosing hsize
  have hdelimiters : Delimiters.ofPattern pattern.source = ⟨opening, closing⟩ := by
    rw [hsource, Delimiters.ofPattern_block]
  have hdelimited : (Delimiters.ofPattern pattern.source).isDelimited = true := by
    rw [hdelimiters]
    exact Delimiters.isDelimited_of_ne hopening hclosing hne
  simp only [add, hplace]
  rw [addComment_of_isDelimited hdelimited, hdelimiters]

/-! ## States of their own -/

namespace Grammar

variable {grammar : Grammar} {handle : RuleHandle} {rule : Rule} {definition : TerminalDefinition}
  {entry : TokenizerRule} {state : State}

/-- A terminal becomes one rule of white space and one state, which this rule alone enters. -/
structure Nests (grammar : Grammar) (handle : RuleHandle) (rule : Rule) (definition : TerminalDefinition)
    (entry : TokenizerRule) (state : State) : Prop where
  /-- At its turn the terminal adds this rule and this state, and nothing else. -/
  added : ∃ earlier later, grammar.terminalRules = earlier ++ (handle, rule, definition) :: later ∧
    let before := Assembly.addAll grammar.keywords.words {} earlier
    before.add grammar.keywords.words rule definition =
      { before with blanks := before.blanks ++ [entry], comments := before.comments ++ [state] }
  whitespace : ∃ blanks, grammar.tokenizer.1.state? whitespaceState = some ⟨whitespaceState, blanks⟩ ∧
    entry ∈ blanks
  found : grammar.tokenizer.1.state? state.name = some state
  own_name : (grammar.tokenizer.1.states.map State.name).count state.name = 1
  enters : entry.targets = ["@" ++ state.name]
  own_entry : (grammar.tokenizer.1.states.flatMap State.targets).count ("@" ++ state.name) = 1

theorem nests_block (hrule : grammar.rule? handle = some rule)
    (hbody : rule.body = .terminal (.regex (Pattern.block opening closing)))
    (hhidden : rule.hidden = true) (hfragment : rule.fragment = false)
    (hopening : opening ≠ "") (hclosing : closing ≠ "") (hne : opening ≠ closing)
    (hsize : TerminalPattern.compile (Pattern.block opening closing) ≠ .error .tooBig) :
    ∃ name, grammar.Nests handle rule (.regex (Pattern.block opening closing))
      (Assembly.enteringRule name ⟨opening, closing⟩) (commentRules name ⟨opening, closing⟩) := by
  obtain ⟨earlier, later, hterminals⟩ := List.append_of_mem (mem_terminalRules hrule hbody)
  let words := grammar.keywords.words
  let before := Assembly.addAll words {} earlier
  let name := commentName before.comments.length
  let state := commentRules name ⟨opening, closing⟩
  have hadd := Assembly.add_block hhidden hfragment hopening hclosing hne hsize words before
  let placed := before.add words rule (.regex (Pattern.block opening closing))
  have hall : Assembly.addAll words {} grammar.terminalRules = Assembly.addAll words placed later := by
    rw [hterminals, Assembly.addAll, List.foldl_append, List.foldl_cons]
    rfl
  -- What is added at the turn of the terminal is still there in the end.
  have hextends : placed.Extends (Assembly.addAll words {} grammar.terminalRules) := by
    rw [hall]
    exact Assembly.addAll_extends words placed later
  have hconsistent := Assembly.addAll_consistent words grammar.terminalRules
  have hcomment : state ∈ (Assembly.addAll words {} grammar.terminalRules).comments := by
    refine hextends.comments.subset ?_
    simp only [placed, hadd]
    exact List.mem_append_right _ List.mem_cons_self
  have hblank : Assembly.enteringRule name ⟨opening, closing⟩ ∈
      (Assembly.addAll words {} grammar.terminalRules).blanks := by
    refine hextends.blanks.subset ?_
    simp only [placed, hadd]
    exact List.mem_append_right _ List.mem_cons_self
  have hnodup := grammar.nodup_names_tokenizer
  have hstate : state ∈ grammar.tokenizer.1.states :=
    List.mem_cons_of_mem _ (List.mem_cons_of_mem _ hcomment)
  exact ⟨name, {
    added := ⟨earlier, later, hterminals, hadd⟩
    whitespace := ⟨_, TokenizerDescription.state?_of_mem hnodup
      (List.mem_cons_of_mem _ List.mem_cons_self), hblank⟩
    found := TokenizerDescription.state?_of_mem hnodup hstate
    own_name := List.count_eq_one_of_mem hnodup (List.mem_map_of_mem hstate)
    enters := rfl
    own_entry := Assembly.count_targets_states hconsistent hcomment }⟩

end Grammar

/-! ## What is taken -/

/-- The rule that enters the state of a comment takes just the opening delimiter. -/
theorem taken?_enteringRule (name : String) (text : List Char) :
    taken? text (Assembly.enteringRule name ⟨opening, closing⟩) =
      if opening.toList <+: text then some (opening.length, some ("@" ++ name)) else none := by
  have hread := readForm_escape opening
  simp only [Assembly.enteringRule, taken?, hread, Option.bind_eq_bind, Option.bind_some, Form.length?,
    List.isPrefixOf_iff_prefix, String.length_toList]
  split <;> rfl

/-- After the opening delimiter, the state of a comment and the pattern of the terminal take the same text:
all up to the first closing delimiter, or none if there is none. -/
theorem runState_block (name : String) (hclosing : closing ≠ "") (text : String) :
    (∃ before after, FirstOccurrence closing.toList text.toList before after ∧
      runState (commentRules name ⟨opening, closing⟩) text.toList = .left pop after ∧
      (Regex.Pattern.block opening.toList closing.toList).firstEnd? (opening ++ text) =
        some (opening.length + before.length + closing.length)) ∨
    (¬ closing.toList <:+: text.toList ∧
      runState (commentRules name ⟨opening, closing⟩) text.toList = .ended ∧
      (Regex.Pattern.block opening.toList closing.toList).firstEnd? (opening ++ text) = none) := by
  rw [Regex.Pattern.firstEnd?, String.toList_append]
  by_cases hoccurs : closing.toList <:+: text.toList
  · obtain ⟨before, after, hfirst⟩ := Text.exists_firstOccurrence hoccurs
    refine Or.inl ⟨before, after, hfirst, runState_commentRules_of_first hclosing hfirst, ?_⟩
    rw [Regex.Pattern.head?_ends_block_of_first hfirst, String.length_toList, String.length_toList]
  · refine Or.inr ⟨hoccurs, runState_commentRules_of_not_infix hclosing hoccurs, ?_⟩
    rw [Regex.Pattern.ends_block_of_not_infix hoccurs, List.head?_nil]

/-- A hidden block comment becomes one rule of white space, which takes just the opening delimiter, and a
state of its own, which takes what the pattern of the terminal takes after it: the state is left right after
the first closing delimiter, and is neither left nor stuck if there is none. -/
theorem block_comment_keeps_span {grammar : Grammar} {handle : RuleHandle} {rule : Rule}
    (hrule : grammar.rule? handle = some rule)
    (hbody : rule.body = .terminal (.regex (Pattern.block opening closing)))
    (hhidden : rule.hidden = true) (hfragment : rule.fragment = false)
    (hopening : opening ≠ "") (hclosing : closing ≠ "") (hne : opening ≠ closing)
    (hsize : TerminalPattern.compile (Pattern.block opening closing) ≠ .error .tooBig) :
    ∃ entry state pattern,
      grammar.Nests handle rule (.regex (Pattern.block opening closing)) entry state ∧
      (∀ text, taken? text entry =
        if opening.toList <+: text then some (opening.length, some ("@" ++ state.name)) else none) ∧
      state.rules.length = 3 ∧
      TerminalPattern.compile (Pattern.block opening closing) = .ok pattern ∧
      ∀ text : String,
        (∃ before after, FirstOccurrence closing.toList text.toList before after ∧
          runState state text.toList = .left pop after ∧
          pattern.search.firstEnd? (opening ++ text) =
            some (opening.length + before.length + closing.length)) ∨
        (¬ closing.toList <:+: text.toList ∧ runState state text.toList = .ended ∧
          pattern.search.firstEnd? (opening ++ text) = none) := by
  obtain ⟨name, hnests⟩ :=
    Grammar.nests_block hrule hbody hhidden hfragment hopening hclosing hne hsize
  exact ⟨_, _, _, hnests, taken?_enteringRule name, rfl, TerminalPattern.compile_block hopening hsize,
    runState_block name hclosing⟩

/-- A comment between `/*` and `*/`, in a grammar of nothing else. -/
def slashStar : Rule :=
  ⟨"ML_COMMENT", none, false, true, false, .terminal (.regex (Pattern.block "/*" "*/"))⟩

theorem block_comment_keeps_span_slashStar :
    (Grammar.mk [slashStar]).rule? ⟨0⟩ = some slashStar ∧
    slashStar.body = .terminal (.regex (Pattern.block "/*" "*/")) ∧
    slashStar.hidden = true ∧ slashStar.fragment = false ∧
    TerminalPattern.compile (Pattern.block "/*" "*/") ≠ .error .tooBig ∧
    ∃ entry state pattern,
      (Grammar.mk [slashStar]).Nests ⟨0⟩ slashStar (.regex (Pattern.block "/*" "*/")) entry state ∧
      (∀ text, taken? text entry =
        if "/*".toList <+: text then some ("/*".length, some ("@" ++ state.name)) else none) ∧
      state.rules.length = 3 ∧
      TerminalPattern.compile (Pattern.block "/*" "*/") = .ok pattern ∧
      ∀ text : String,
        (∃ before after, FirstOccurrence "*/".toList text.toList before after ∧
          runState state text.toList = .left pop after ∧
          pattern.search.firstEnd? ("/*" ++ text) = some ("/*".length + before.length + "*/".length)) ∨
        (¬ "*/".toList <:+: text.toList ∧ runState state text.toList = .ended ∧
          pattern.search.firstEnd? ("/*" ++ text) = none) := by
  have hsize : TerminalPattern.compile (Pattern.block "/*" "*/") ≠ .error .tooBig :=
    TerminalPattern.compile_block_ne_tooBig (by decide) (by simp) (by decide)
  exact ⟨rfl, rfl, rfl, rfl, hsize,
    block_comment_keeps_span rfl rfl rfl rfl (by decide) (by decide) (by decide) hsize⟩

end EditorBridge
