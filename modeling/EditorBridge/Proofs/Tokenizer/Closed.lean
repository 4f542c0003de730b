import EditorBridge.Proofs.Tokenizer.Classification
/-!
Tokenizers are closed.  All that rules include or lead to is there, and is named once; the states of comments
are entered and left by one rule each; and every rule that matches a text gives it a class.
-/

set_option autoImplicit false

namespace EditorBridge

open Tokenizer

/-! ## Closed descriptions -/

def TokenizerRule.leadsTo (target : String) (entry : TokenizerRule) : Bool :=
  entry.targets.contains target

namespace TokenizerDescription

/-- A name with a mark before it refers to one state. -/
def RefersToOne (description : TokenizerDescription) (reference : String) : Prop :=
  description.states.countP (fun state => "@" ++ state.name == reference) = 1

/-- A state is entered by one rule, which is one of white space, and left by one of its own rules. -/
structure Nested (description : TokenizerDescription) (state : State) : Prop where
  entered : (description.states.flatMap State.rules).countP (·.leadsTo ("@" ++ state.name)) = 1
  entered_from : ∃ whitespace, description.state? whitespaceState = some whitespace ∧
    whitespace.rules.countP (·.leadsTo ("@" ++ state.name)) = 1
  left : state.rules.countP (·.leadsTo pop) = 1

/-- States have names of their own, rules refer to them only, and matching rules give a class to every text. -/
structure Closed (description : TokenizerDescription) : Prop where
  names : (description.states.map State.name).Nodup
  included : ∀ state ∈ description.states, ∀ reference, .including reference ∈ state.rules →
    description.RefersToOne reference
  next : ∀ state ∈ description.states, ∀ target ∈ state.targets, target ≠ pop →
    description.RefersToOne target
  /-- All states but those of tokens and of white space are states of comments. -/
  comments : ∀ state ∈ description.states, state.name ≠ mainState → state.name ≠ whitespaceState →
    description.Nested state
  classified : ∀ state ∈ description.states, ∀ regex action, .matching regex action ∈ state.rules →
    ∀ text, (action.classify description.isMember text).isSome = true

theorem refersToOne_of_mem {description : TokenizerDescription} {state : State}
    (hnodup : (description.states.map State.name).Nodup) (h : state ∈ description.states) :
    description.RefersToOne ("@" ++ state.name) := by
  have hcount := List.count_eq_one_of_mem hnodup (List.mem_map_of_mem (f := State.name) h)
  have hsame : ∀ other : State, ("@" ++ other.name == "@" ++ state.name) = (other.name == state.name) := by
    intro other
    rw [Bool.eq_iff_iff, beq_iff_eq, beq_iff_eq, String.append_right_inj]
  rw [List.count, List.countP_map] at hcount
  unfold RefersToOne
  simp only [hsame]
  exact hcount

end TokenizerDescription

/-! ## Counting rules -/

/-- If all rules together lead to a state once, one of them does. -/
theorem countP_leadsTo_of_count {entries : List TokenizerRule} {target : String}
    (h : (entries.flatMap TokenizerRule.targets).count target = 1) :
    entries.countP (·.leadsTo target) = 1 := by
  have hle : ∀ entries : List TokenizerRule,
      entries.countP (·.leadsTo target) ≤ (entries.flatMap TokenizerRule.targets).count target := by
    intro entries
    induction entries with
    | nil => exact Nat.le_refl 0
    | cons entry entries ih =>
      rw [List.countP_cons, List.flatMap_cons, List.count_append]
      by_cases hleads : entry.leadsTo target = true
      · have hpos : 0 < entry.targets.count target :=
          List.count_pos_iff.mpr (List.contains_iff_mem.mp hleads)
        rw [if_pos hleads]
        omega
      · rw [if_neg hleads]
        omega
  have hpos : 0 < entries.countP (·.leadsTo target) := by
    have hmem : target ∈ entries.flatMap TokenizerRule.targets := List.count_pos_iff.mp (by omega)
    obtain ⟨entry, hentry, htarget⟩ := List.mem_flatMap.mp hmem
    exact List.countP_pos_iff.mpr ⟨entry, hentry, List.contains_iff_mem.mpr htarget⟩
  have hmost := hle entries
  omega

/-! ## Rules that classify -/

/-- A rule matches texts and gives a class to each of them. -/
def TokenizerRule.Classifies : TokenizerRule → Prop
  | .matching _ action => ∀ isMember text, (action.classify isMember text).isSome = true
  | .including _ => False

theorem classifies_plain (source name : String) :
    TokenizerRule.Classifies (.matching source (Action.plain name)) := fun _ _ => rfl

theorem classifies_entering (source name next : String) :
    TokenizerRule.Classifies (.matching source (Action.entering name next)) := fun _ _ => rfl

theorem classifies_memberOr (source list name fallback : String) :
    TokenizerRule.Classifies (.matching source (Action.memberOr list name fallback)) := by
  intro isMember text
  rw [Action.classify_memberOr]
  rfl

theorem classifies_tokenRule (rule : Rule) (pattern : TerminalPattern) (words : List String) :
    (tokenRule rule pattern words).Classifies := by
  rw [tokenRule]
  split
  · exact classifies_memberOr _ _ _ _
  · exact classifies_plain _ _

theorem classifies_commentRules {name : String} {delimiters : Delimiters} :
    ∀ entry ∈ (commentRules name delimiters).rules, entry.Classifies := by
  intro entry hentry
  simp only [commentRules, List.mem_cons, List.not_mem_nil, or_false] at hentry
  rcases hentry with rfl | rfl | rfl
  · exact classifies_plain _ _
  · exact classifies_entering _ _ _
  · exact classifies_plain _ _

namespace Assembly

variable {words : List String} {assembly next : Assembly}

/-- All rules that were placed classify what they match. -/
structure Classifying (assembly : Assembly) : Prop where
  tokens : ∀ entry ∈ assembly.tokens, entry.Classifies
  blanks : ∀ entry ∈ assembly.blanks, entry.Classifies
  comments : ∀ state ∈ assembly.comments, ∀ entry ∈ state.rules, entry.Classifies

theorem Classifying.empty : Classifying {} where
  tokens _ h := absurd h List.not_mem_nil
  blanks _ h := absurd h List.not_mem_nil
  comments _ h := absurd h List.not_mem_nil

theorem Placing.classifying (h : Placing words assembly next) (hbefore : assembly.Classifying) :
    next.Classifying := by
  obtain ⟨htokens, hblanks, hcomments⟩ := hbefore
  cases h with
  | logged record => exact ⟨htokens, hblanks, hcomments⟩
  | token rule pattern =>
    refine ⟨List.forall_mem_append.mpr ⟨htokens, ?_⟩, hblanks, hcomments⟩
    exact List.forall_mem_singleton.mpr (classifies_tokenRule rule pattern words)
  | blank source token =>
    refine ⟨htokens, List.forall_mem_append.mpr ⟨hblanks, ?_⟩, hcomments⟩
    exact List.forall_mem_singleton.mpr (classifies_plain source token)
  | comment delimiters h =>
    refine ⟨htokens, List.forall_mem_append.mpr ⟨hblanks, ?_⟩,
      List.forall_mem_append.mpr ⟨hcomments, ?_⟩⟩
    · exact List.forall_mem_singleton.mpr (classifies_entering _ _ _)
    · exact List.forall_mem_singleton.mpr classifies_commentRules

theorem addAll_classifying (words : List String)
    (terminals : List (RuleHandle × Rule × TerminalDefinition)) :
    (addAll words {} terminals).Classifying :=
  addAll_induction .empty (fun hbefore hplacing => hplacing.classifying hbefore) terminals

/-- Every rule of a tokenizer classifies what it matches, but for the one that includes white space. -/
theorem Classifying.states (h : assembly.Classifying) {state : State} (hstate : state ∈ assembly.states)
    {entry : TokenizerRule} (hentry : entry ∈ state.rules) :
    entry = .includeState whitespaceState ∨ entry.Classifies := by
  rcases List.mem_cons.mp hstate with rfl | hstate
  · rcases List.mem_append.mp hentry with htoken | hlast
    · exact Or.inr (h.tokens entry htoken)
    · rcases List.mem_cons.mp hlast with rfl | hlast
      · exact Or.inl rfl
      · rw [List.mem_singleton.mp hlast]
        exact Or.inr (classifies_memberOr _ _ _ _)
  · rcases List.mem_cons.mp hstate with rfl | hcomment
    · exact Or.inr (h.blanks entry hentry)
    · exact Or.inr (h.comments state hcomment entry hentry)

end Assembly

/-! ## Tokenizers of grammars -/

section Assembled

variable {description : TokenizerDescription} {assembly : Assembly} {state : State}

theorem Assembly.mem_comments (hstates : description.states = assembly.states)
    (hstate : state ∈ description.states) (hmain : state.name ≠ mainState)
    (hwhitespace : state.name ≠ whitespaceState) : state ∈ assembly.comments := by
  rw [hstates, Assembly.states] at hstate
  rcases List.mem_cons.mp hstate with rfl | hstate
  · exact absurd rfl hmain
  · rcases List.mem_cons.mp hstate with rfl | hcomment
    · exact absurd rfl hwhitespace
    · exact hcomment

theorem Assembly.refersToOne_of_including (hstates : description.states = assembly.states)
    (hconsistent : assembly.Consistent) (hclassifying : assembly.Classifying)
    (hstate : state ∈ description.states) {reference : String}
    (hrule : .including reference ∈ state.rules) : description.RefersToOne reference := by
  have hnodup := nodup_names_states hconsistent
  rw [← hstates] at hnodup
  rw [hstates] at hstate
  rcases hclassifying.states hstate hrule with hsame | hclassifies
  · have hreference : reference = "@" ++ whitespaceState := TokenizerRule.including.inj hsame
    have hwhitespace : State.mk whitespaceState assembly.blanks ∈ description.states := by
      rw [hstates]
      exact List.mem_cons_of_mem _ List.mem_cons_self
    rw [hreference]
    exact TokenizerDescription.refersToOne_of_mem hnodup hwhitespace
  · exact hclassifies.elim

theorem Assembly.refersToOne_of_target (hstates : description.states = assembly.states)
    (hconsistent : assembly.Consistent) (hstate : state ∈ description.states) {target : String}
    (htarget : target ∈ state.targets) (hpop : target ≠ pop) : description.RefersToOne target := by
  have hnodup := nodup_names_states hconsistent
  have hall : target ∈ assembly.states.flatMap State.targets := by
    rw [← hstates]
    exact List.mem_flatMap.mpr ⟨state, hstate, htarget⟩
  rw [← hstates] at hnodup
  rw [targets_states hconsistent] at hall
  rcases List.mem_append.mp hall with hentering | hleaving
  · obtain ⟨comment, hcomment, rfl⟩ := List.mem_map.mp hentering
    have hmem : comment ∈ description.states := by
      rw [hstates]
      exact List.mem_cons_of_mem _ (List.mem_cons_of_mem _ hcomment)
    exact TokenizerDescription.refersToOne_of_mem hnodup hmem
  · obtain ⟨_, _, hsame⟩ := List.mem_map.mp hleaving
    exact absurd hsame.symm hpop

theorem Assembly.nested_of_mem_comments (hstates : description.states = assembly.states)
    (hconsistent : assembly.Consistent) (hcomment : state ∈ assembly.comments) :
    description.Nested state where
  entered := by
    have hcount := count_targets_states hconsistent hcomment
    apply countP_leadsTo_of_count
    rw [hstates, List.flatMap_assoc]
    exact hcount
  entered_from := by
    have hcount := count_targets_blanks hconsistent hcomment
    refine ⟨⟨whitespaceState, assembly.blanks⟩, ?_, countP_leadsTo_of_count hcount⟩
    rw [TokenizerDescription.state?, hstates]
    rfl
  left := by
    have htargets : state.rules.flatMap TokenizerRule.targets = [pop] := hconsistent.left state hcomment
    apply countP_leadsTo_of_count
    rw [htargets]
    rfl

end Assembled

/-- **Every tokenizer is closed.** -/
theorem tokenizer_closed (grammar : Grammar) : grammar.tokenizer.1.Closed := by
  have hstates : grammar.tokenizer.1.states =
      (Assembly.addAll grammar.keywords.words {} grammar.terminalRules).states := rfl
  have hconsistent := Assembly.addAll_consistent grammar.keywords.words grammar.terminalRules
  have hclassifying := Assembly.addAll_classifying grammar.keywords.words grammar.terminalRules
  refine ⟨grammar.nodup_names_tokenizer, ?_, ?_, ?_, ?_⟩
  · intro state hstate reference hrule
    exact Assembly.refersToOne_of_including hstates hconsistent hclassifying hstate hrule
  · intro state hstate target htarget hpop
    exact Assembly.refersToOne_of_target hstates hconsistent hstate htarget hpop
  · intro state hstate hmain hwhitespace
    have hcomment := Assembly.mem_comments hstates hstate hmain hwhitespace
    exact Assembly.nested_of_mem_comments hstates hconsistent hcomment
  · intro state hstate regex action hrule text
    rcases hclassifying.states hstate hrule with hsame | hclassifies
    · cases hsame
    · exact hclassifies _ text

end EditorBridge
