import EditorBridge.Tokenizer.Synthesis
import Mathlib.Data.List.Count
import Mathlib.Data.List.Infix
import Mathlib.Data.List.Nodup
/-!
How terminals are placed one after the other.  A terminal adds a token, a rule of white space, or a rule
that enters a new state together with that state (`Assembly.add_placing`).  What is there stays as it is, and
the states of comments are numbered, so that each of them is entered by one rule only.
-/

set_option autoImplicit false

namespace EditorBridge

open Tokenizer

/-! ## Where actions lead -/

namespace Action

mutual
/-- The states that an action may lead to. -/
def targets : Action → List String
  | token _ next => next.toList
  | cases guarded => casesTargets guarded
termination_by structural action => action

/-- The states that guarded actions may lead to. -/
def casesTargets : List (String × Action) → List String
  | [] => []
  | (_, action) :: rest => targets action ++ casesTargets rest
termination_by structural guarded => guarded
end

theorem targets_plain (name : String) : (plain name).targets = [] := rfl

theorem targets_memberOr (list name fallback : String) : (memberOr list name fallback).targets = [] := rfl

end Action

/-- The states that a rule may lead to. -/
def TokenizerRule.targets : TokenizerRule → List String
  | matching _ action => action.targets
  | including _ => []

/-- The states that the rules of a state may lead to. -/
def State.targets (state : State) : List String := state.rules.flatMap TokenizerRule.targets

theorem targets_tokenRule (rule : Rule) (pattern : TerminalPattern) (words : List String) :
    (tokenRule rule pattern words).targets = [] := by
  rw [tokenRule, TokenizerRule.targets]
  split
  · exact Action.targets_memberOr _ _ _
  · exact Action.targets_plain _

/-- The state of a comment leads back only. -/
theorem targets_commentRules (name : String) (delimiters : Delimiters) :
    (commentRules name delimiters).targets = [pop] := rfl

/-! ## Names of comments -/

theorem commentName_succ (before : Nat) :
    commentName (before + 1) = commentState ++ ("_" ++ toString (before + 2)) := by
  rw [commentName, if_neg (Nat.succ_ne_zero before), String.append_assoc]

theorem toString_injective {m n : Nat} (h : toString m = toString n) : m = n := by
  rw [Nat.toString_eq_repr, Nat.toString_eq_repr, Nat.repr_eq_ofList_toDigits,
    Nat.repr_eq_ofList_toDigits] at h
  have hdigits : Nat.toDigits 10 m = Nat.toDigits 10 n := String.ofList_injective h
  calc
    m = Nat.ofDigitChars 10 (Nat.toDigits 10 m) 0 := Nat.ofDigitChars_ten_toDigits.symm
    _ = Nat.ofDigitChars 10 (Nat.toDigits 10 n) 0 := by rw [hdigits]
    _ = n := Nat.ofDigitChars_ten_toDigits

theorem commentName_zero_ne_succ (before : Nat) : commentName 0 ≠ commentName (before + 1) := by
  intro h
  rw [commentName_succ] at h
  have hlength := congrArg String.length h
  rw [String.length_append, String.length_append] at hlength
  have hfirst : (commentName 0).length = commentState.length := rfl
  have hmark : "_".length = 1 := rfl
  omega

theorem commentName_injective {m n : Nat} (h : commentName m = commentName n) : m = n := by
  cases m with
  | zero =>
    cases n with
    | zero => rfl
    | succ n => exact absurd h (commentName_zero_ne_succ n)
  | succ m =>
    cases n with
    | zero => exact absurd h.symm (commentName_zero_ne_succ m)
    | succ n =>
      rw [commentName_succ, commentName_succ, String.append_right_inj, String.append_right_inj] at h
      have hnumber := toString_injective h
      omega

/-- The name of a comment starts with the letter that its kind starts with. -/
theorem head?_commentName (before : Nat) : (commentName before).toList.head? = some 'c' := by
  cases before with
  | zero => rfl
  | succ before =>
    rw [commentName_succ, String.toList_append]
    rfl

/-! ## Single terminals -/

namespace Assembly

variable {words : List String} {assembly next last : Assembly}

/-- The rule that enters the state of a comment. -/
def enteringRule (name : String) (delimiters : Delimiters) : TokenizerRule :=
  .matching (Pattern.escape delimiters.opening) (Action.entering commentToken ("@" ++ name))

/-- What placing a terminal can do. -/
inductive Placing (words : List String) (assembly : Assembly) : Assembly → Prop
  | logged (record : LogRecord) :
    Placing words assembly { assembly with log := assembly.log ++ [record] }
  | token (rule : Rule) (pattern : TerminalPattern) :
    Placing words assembly { assembly with tokens := assembly.tokens ++ [tokenRule rule pattern words] }
  | blank (source token : String) :
    Placing words assembly
      { assembly with blanks := assembly.blanks ++ [.matching source (Action.plain token)] }
  | comment (delimiters : Delimiters) (h : delimiters.isDelimited = true) :
    Placing words assembly
      { assembly with
        blanks := assembly.blanks ++ [enteringRule (commentName assembly.comments.length) delimiters]
        comments := assembly.comments ++
          [commentRules (commentName assembly.comments.length) delimiters] }

theorem addComment_of_isDelimited {source : String}
    (h : (Delimiters.ofPattern source).isDelimited = true) :
    assembly.addComment source =
      { assembly with
        blanks := assembly.blanks ++
          [enteringRule (commentName assembly.comments.length) (Delimiters.ofPattern source)]
        comments := assembly.comments ++
          [commentRules (commentName assembly.comments.length) (Delimiters.ofPattern source)] } :=
  if_pos h

theorem addComment_of_not_isDelimited {source : String}
    (h : ¬ (Delimiters.ofPattern source).isDelimited = true) :
    assembly.addComment source =
      { assembly with
        blanks := assembly.blanks ++ [.matching source (Action.plain commentToken)] } :=
  if_neg h

theorem addComment_placing (source : String) : Placing words assembly (assembly.addComment source) := by
  by_cases h : (Delimiters.ofPattern source).isDelimited = true
  · rw [addComment_of_isDelimited h]
    exact .comment _ h
  · rw [addComment_of_not_isDelimited h]
    exact .blank source commentToken

theorem add_placing (words : List String) (assembly : Assembly) (rule : Rule)
    (definition : TerminalDefinition) :
    Placing words assembly (assembly.add words rule definition) := by
  rw [add]
  split
  · exact .logged _
  · exact .blank _ whiteToken
  · exact addComment_placing _
  · exact .token rule _

/-! ## All terminals -/

/-- Places terminals one by one. -/
def addAll (words : List String) (assembly : Assembly)
    (terminals : List (RuleHandle × Rule × TerminalDefinition)) : Assembly :=
  terminals.foldl (fun assembly (_, rule, definition) => assembly.add words rule definition) assembly

/-- What holds before terminals are placed and after each of them holds in the end. -/
theorem addAll_induction {holds : Assembly → Prop} (hstart : holds assembly)
    (hstep : ∀ {assembly next}, holds assembly → Placing words assembly next → holds next)
    (terminals : List (RuleHandle × Rule × TerminalDefinition)) :
    holds (assembly.addAll words terminals) := by
  induction terminals generalizing assembly with
  | nil => exact hstart
  | cons terminal terminals ih =>
    obtain ⟨_, rule, definition⟩ := terminal
    exact ih (hstep hstart (add_placing words assembly rule definition))

/-- All that is there stays at its place. -/
structure Extends (assembly next : Assembly) : Prop where
  tokens : assembly.tokens <+: next.tokens
  blanks : assembly.blanks <+: next.blanks
  comments : assembly.comments <+: next.comments

theorem Extends.refl (assembly : Assembly) : assembly.Extends assembly :=
  ⟨List.prefix_rfl, List.prefix_rfl, List.prefix_rfl⟩

theorem Extends.trans (h : assembly.Extends next) (hlast : next.Extends last) : assembly.Extends last :=
  ⟨h.tokens.trans hlast.tokens, h.blanks.trans hlast.blanks, h.comments.trans hlast.comments⟩

theorem Placing.extends (h : Placing words assembly next) : assembly.Extends next := by
  cases h with
  | logged record => exact ⟨List.prefix_rfl, List.prefix_rfl, List.prefix_rfl⟩
  | token rule pattern => exact ⟨List.prefix_append _ _, List.prefix_rfl, List.prefix_rfl⟩
  | blank source token => exact ⟨List.prefix_rfl, List.prefix_append _ _, List.prefix_rfl⟩
  | comment delimiters h => exact ⟨List.prefix_rfl, List.prefix_append _ _, List.prefix_append _ _⟩

theorem addAll_extends (words : List String) (assembly : Assembly)
    (terminals : List (RuleHandle × Rule × TerminalDefinition)) :
    assembly.Extends (assembly.addAll words terminals) :=
  addAll_induction (.refl assembly) (fun hbefore hplacing => hbefore.trans hplacing.extends) terminals

/-- The states of comments are numbered, and the rules that enter them stand in the same order. -/
structure Consistent (assembly : Assembly) : Prop where
  names : assembly.comments.map State.name = (List.range assembly.comments.length).map commentName
  entered : assembly.blanks.flatMap TokenizerRule.targets =
    assembly.comments.map fun state => "@" ++ state.name
  tokens : assembly.tokens.flatMap TokenizerRule.targets = []
  left : ∀ state ∈ assembly.comments, state.targets = [pop]

theorem Consistent.empty : Consistent {} := ⟨rfl, rfl, rfl, fun _ h => absurd h List.not_mem_nil⟩

theorem Placing.consistent (h : Placing words assembly next) (hconsistent : assembly.Consistent) :
    next.Consistent := by
  obtain ⟨hnames, hentered, htokens, hleft⟩ := hconsistent
  cases h with
  | logged record => exact ⟨hnames, hentered, htokens, hleft⟩
  | token rule pattern =>
    refine ⟨hnames, hentered, ?_, hleft⟩
    rw [List.flatMap_append, htokens, List.flatMap_singleton, targets_tokenRule, List.nil_append]
  | blank source token =>
    refine ⟨hnames, ?_, htokens, hleft⟩
    rw [List.flatMap_append, hentered, List.flatMap_singleton]
    exact List.append_nil _
  | comment delimiters h =>
    refine ⟨?_, ?_, htokens, ?_⟩
    · rw [List.map_append, hnames, List.length_append, List.length_singleton, List.range_succ,
        List.map_append]
      rfl
    · rw [List.flatMap_append, hentered, List.map_append]
      rfl
    · intro state hstate
      rcases List.mem_append.mp hstate with hold | hnew
      · exact hleft state hold
      · rw [List.mem_singleton.mp hnew]
        exact targets_commentRules _ _

theorem addAll_consistent (words : List String)
    (terminals : List (RuleHandle × Rule × TerminalDefinition)) :
    (addAll words {} terminals).Consistent :=
  addAll_induction .empty (fun hbefore hplacing => hplacing.consistent hbefore) terminals

/-! ## States -/

theorem names_states (h : assembly.Consistent) : assembly.states.map State.name =
    mainState :: whitespaceState :: (List.range assembly.comments.length).map commentName := by
  rw [states, List.map_cons, List.map_cons, h.names]

theorem nodup_names_states (h : assembly.Consistent) : (assembly.states.map State.name).Nodup := by
  have hother : ∀ {name}, name.toList.head? ≠ some 'c' →
      name ∉ (List.range assembly.comments.length).map commentName := by
    intro name hname hmem
    obtain ⟨before, _, rfl⟩ := List.mem_map.mp hmem
    exact hname (head?_commentName before)
  have hcomments : ((List.range assembly.comments.length).map commentName).Nodup :=
    List.nodup_range.map fun _ _ => commentName_injective
  rw [names_states h, List.nodup_cons, List.nodup_cons, List.mem_cons, not_or]
  exact ⟨⟨by decide, hother (by decide)⟩, hother (by decide), hcomments⟩

/-- Rules lead to the states of comments, and back. -/
theorem targets_states (h : assembly.Consistent) : assembly.states.flatMap State.targets =
    (assembly.comments.map fun state => "@" ++ state.name) ++ assembly.comments.map fun _ => pop := by
  have hmain : State.targets ⟨mainState, assembly.tokens ++ [.includeState whitespaceState,
      .matching symbolsAttribute (Action.memberOr operatorsAttribute operatorToken plainToken)]⟩ = [] := by
    rw [State.targets, List.flatMap_append, h.tokens]
    rfl
  have hcomments : assembly.comments.flatMap State.targets = assembly.comments.map fun _ => pop := by
    rw [List.flatMap_congr h.left, List.map_eq_flatMap]
  rw [states, List.flatMap_cons, List.flatMap_cons, hmain, hcomments, List.nil_append]
  exact congrArg (· ++ _) h.entered

theorem name_of_mem_comments {state : State} (h : assembly.Consistent) (hmem : state ∈ assembly.comments) :
    ∃ before, state.name = commentName before := by
  have hname := List.mem_map_of_mem (f := State.name) hmem
  rw [h.names] at hname
  obtain ⟨before, _, hbefore⟩ := List.mem_map.mp hname
  exact ⟨before, hbefore.symm⟩

/-- No comment is named like the way back. -/
theorem ne_pop_of_mem_comments {state : State} (h : assembly.Consistent)
    (hmem : state ∈ assembly.comments) : "@" ++ state.name ≠ pop := by
  intro hpop
  have hpop : "@" ++ state.name = "@" ++ "pop" := hpop
  obtain ⟨before, hbefore⟩ := name_of_mem_comments h hmem
  have hhead := head?_commentName before
  rw [← hbefore, (String.append_right_inj "@").mp hpop] at hhead
  exact absurd hhead (by decide)

/-- Every state of a comment is entered by white space once. -/
theorem count_targets_blanks {state : State} (h : assembly.Consistent)
    (hmem : state ∈ assembly.comments) :
    (assembly.blanks.flatMap TokenizerRule.targets).count ("@" ++ state.name) = 1 := by
  have hnodup : (assembly.comments.map fun state => "@" ++ state.name).Nodup := by
    have hnames : (assembly.comments.map State.name).Nodup := by
      have hall := nodup_names_states h
      rw [states, List.map_cons, List.map_cons] at hall
      exact hall.of_cons.of_cons
    have hmap := hnames.map fun _ _ => (String.append_right_inj "@").mp
    rwa [List.map_map] at hmap
  rw [h.entered]
  exact List.count_eq_one_of_mem hnodup
    (List.mem_map_of_mem (f := fun state : State => "@" ++ state.name) hmem)

/-- Every state of a comment is entered by one rule only. -/
theorem count_targets_states {state : State} (h : assembly.Consistent)
    (hmem : state ∈ assembly.comments) :
    (assembly.states.flatMap State.targets).count ("@" ++ state.name) = 1 := by
  have hback : "@" ++ state.name ∉ assembly.comments.map fun _ => pop := by
    intro hpop
    obtain ⟨_, _, hsame⟩ := List.mem_map.mp hpop
    exact ne_pop_of_mem_comments h hmem hsame.symm
  rw [targets_states h, List.count_append, List.count_eq_zero_of_not_mem hback, ← h.entered]
  exact count_targets_blanks h hmem

end Assembly

/-! ## Descriptions -/

/-- States of different names are found by their names. -/
theorem TokenizerDescription.state?_of_mem {description : TokenizerDescription} {state : State}
    (hnodup : (description.states.map State.name).Nodup) (h : state ∈ description.states) :
    description.state? state.name = some state := by
  rw [state?]
  generalize description.states = states at hnodup h
  induction states with
  | nil => exact absurd h List.not_mem_nil
  | cons first rest ih =>
    rw [List.map_cons, List.nodup_cons] at hnodup
    rw [List.find?_cons]
    rcases List.mem_cons.mp h with rfl | hrest
    · rw [beq_self_eq_true]
    · have hne : (first.name == state.name) = false := by
        refine beq_eq_false_iff_ne.mpr fun hsame => hnodup.1 ?_
        rw [hsame]
        exact List.mem_map_of_mem hrest
      rw [hne]
      exact ih hnodup.2 hrest

namespace Grammar

variable {grammar : Grammar}

theorem mem_terminalRules {handle : RuleHandle} {rule : Rule} {definition : TerminalDefinition}
    (hrule : grammar.rule? handle = some rule) (hbody : rule.body = .terminal definition) :
    (handle, rule, definition) ∈ grammar.terminalRules := by
  simp only [terminalRules, handled, List.mem_filterMap, List.mem_map, Prod.exists,
    List.mk_mem_zipIdx_iff_getElem?]
  exact ⟨handle, rule, ⟨rule, handle.index, hrule, rfl⟩, by rw [hbody]⟩

/-- The states of a tokenizer have different names. -/
theorem nodup_names_tokenizer (grammar : Grammar) :
    (grammar.tokenizer.1.states.map State.name).Nodup :=
  Assembly.nodup_names_states (Assembly.addAll_consistent grammar.keywords.words grammar.terminalRules)

end Grammar

end EditorBridge
