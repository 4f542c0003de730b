import EditorBridge.Proofs.Tokenizer.Classification
import EditorBridge.Proofs.Tokenizer.Reordering
/-!
Where the terminals of a grammar end up.  Those that can be used are told apart by their class, and by whether
they are comments with delimiters; each kind fills one part of the tokenizer in declaration order, and nothing
else is in it (`terminals_placed_once`).
-/

set_option autoImplicit false

namespace EditorBridge

open Tokenizer

/-! ## Terminals that can be used -/

/-- A terminal with a place in a tokenizer: a regular expression, not a fragment, whose pattern compiles and
falls into a class. -/
structure UsableTerminal where
  rule : Rule
  pattern : TerminalPattern
  place : TerminalClass
  regular : rule.body = .terminal (.regex pattern.source)
  complete : rule.fragment = false
  compiled : TerminalPattern.compile pattern.source = .ok pattern
  classified : TerminalClass.classify rule.hidden pattern = some place

theorem TerminalPattern.source_of_compile {source : String} {pattern : TerminalPattern}
    (h : compile source = .ok pattern) : pattern.source = source := by
  unfold compile at h
  cases hsearch : Regex.compile source with
  | error fault => rw [hsearch] at h; cases h
  | ok search =>
    cases hfull : Regex.compile (anchored source) with
    | error fault => rw [hsearch, hfull] at h; cases h
    | ok full => rw [hsearch, hfull] at h; cases h; rfl

theorem TerminalClass.classify_eq_token_iff {hidden : Bool} {pattern : TerminalPattern} :
    classify hidden pattern = some token ↔
      hidden = false ∧ pattern.matchesBlank = false ∧ pattern.matchesSpace = false := by
  unfold classify
  cases hidden <;> cases pattern.matchesBlank <;> cases pattern.matchesSpace <;> decide

variable {rule : Rule} {definition : TerminalDefinition} {pattern : TerminalPattern} {place : TerminalClass}

theorem placeTerminal_eq_ok_iff : placeTerminal rule definition = .ok (pattern, place) ↔
    definition = .regex pattern.source ∧ rule.fragment = false ∧
      TerminalPattern.compile pattern.source = .ok pattern ∧
      TerminalClass.classify rule.hidden pattern = some place := by
  constructor
  · intro h
    unfold placeTerminal at h
    split at h
    · next source =>
      split at h
      · cases h
      · next hfragment =>
        split at h
        · cases h
        · next compiled hcompile =>
          split at h
          · cases h
          · next hclass =>
            cases h
            have hsource := TerminalPattern.source_of_compile hcompile
            exact ⟨congrArg _ hsource.symm, Bool.eq_false_iff.mpr hfragment, hsource ▸ hcompile, hclass⟩
    · cases h
  · rintro ⟨rfl, hfragment, hcompile, hclass⟩
    simp [placeTerminal, hfragment, hcompile, hclass]

namespace UsableTerminal

variable {terminal : UsableTerminal}

/-- The terminal that a rule is, if it can be used. -/
def of? (rule : Rule) : Option UsableTerminal :=
  match hbody : rule.body with
  | .parser _ => none
  | .terminal definition =>
    match hplace : placeTerminal rule definition with
    | .error _ => none
    | .ok (pattern, place) =>
      have h := placeTerminal_eq_ok_iff.mp hplace
      some ⟨rule, pattern, place, h.1 ▸ hbody, h.2.1, h.2.2.1, h.2.2.2⟩

theorem placeTerminal_eq (terminal : UsableTerminal) :
    placeTerminal terminal.rule (.regex terminal.pattern.source) = .ok (terminal.pattern, terminal.place) :=
  placeTerminal_eq_ok_iff.mpr ⟨rfl, terminal.complete, terminal.compiled, terminal.classified⟩

theorem of?_rule (terminal : UsableTerminal) : of? terminal.rule = some terminal := by
  have hplace := terminal.placeTerminal_eq
  obtain ⟨rule, pattern, place, hregular, hcomplete, hcompiled, hclassified⟩ := terminal
  unfold of?
  split
  · next hbody => rw [hregular] at hbody; cases hbody
  · next definition hbody =>
    rw [hregular] at hbody
    cases hbody
    split
    · next herror => rw [hplace] at herror; cases herror
    · next hok => rw [hplace] at hok; cases hok; rfl

theorem rule_of_of? (h : of? rule = some terminal) : terminal.rule = rule := by
  unfold of? at h
  split at h
  · cases h
  · split at h
    · cases h
    · cases h; rfl

theorem of?_eq_some_iff : of? rule = some terminal ↔ terminal.rule = rule := by
  constructor
  · exact rule_of_of?
  · rintro rfl
    exact terminal.of?_rule

theorem of?_eq_none_of_element {element : Element} (hbody : rule.body = .parser element) :
    of? rule = none := by
  rw [Option.eq_none_iff_forall_ne_some]
  intro terminal hof
  have hregular := terminal.regular
  rw [rule_of_of? hof, hbody] at hregular
  cases hregular

/-- What is no terminal that can be used has no place. -/
theorem exists_error_of_none (hbody : rule.body = .terminal definition) (h : of? rule = none) :
    ∃ reason, placeTerminal rule definition = .error reason := by
  cases hplace : placeTerminal rule definition with
  | error reason => exact ⟨reason, rfl⟩
  | ok placed =>
    obtain ⟨pattern, place⟩ := placed
    obtain ⟨rfl, hfragment, hcompile, hclass⟩ := placeTerminal_eq_ok_iff.mp hplace
    have hof := of?_rule ⟨rule, pattern, place, hbody, hfragment, hcompile, hclass⟩
    rw [h] at hof
    cases hof

/-! ## Kinds of terminals -/

def isToken (terminal : UsableTerminal) : Bool := terminal.place == .token

def delimiters (terminal : UsableTerminal) : Delimiters := .ofPattern terminal.pattern.source

/-- Whether the terminal is a comment with delimiters, and so has a state of its own. -/
def isNested (terminal : UsableTerminal) : Bool :=
  terminal.place == .comment && terminal.delimiters.isDelimited

/-- The rule of a terminal that makes no tokens, given how many comments with delimiters there are before it. -/
def blankRule (before : Nat) (terminal : UsableTerminal) : TokenizerRule :=
  if terminal.isNested then Assembly.enteringRule (commentName before) terminal.delimiters
  else .matching terminal.pattern.source
    (Action.plain (if terminal.place = .comment then commentToken else whiteToken))

/-- The state of a comment with delimiters, given how many of these there are before it. -/
def nestedState (before : Nat) (terminal : UsableTerminal) : State :=
  commentRules (commentName before) terminal.delimiters

/-- Only terminals that are not hidden and do not match the empty text make tokens. -/
theorem visible_of_isToken (h : terminal.isToken = true) :
    terminal.rule.hidden = false ∧ terminal.pattern.isMatch "" = false := by
  have hclass := terminal.classified
  rw [eq_of_beq h, TerminalClass.classify_eq_token_iff] at hclass
  exact ⟨hclass.1, hclass.2.1⟩

/-! ## Terminals in order -/

/-- Terminals, each with the number of comments with delimiters before it. -/
def numbered (terminals : List UsableTerminal) : List (Nat × UsableTerminal) :=
  terminals.mapIdx fun index terminal => ((terminals.take index).countP isNested, terminal)

/-- The rules of the terminals that make tokens. -/
def visibleRules (words : List String) (terminals : List UsableTerminal) : List TokenizerRule :=
  (terminals.filter isToken).map fun terminal => tokenRule terminal.rule terminal.pattern words

/-- The rules of the terminals that make no tokens. -/
def blankRules (terminals : List UsableTerminal) : List TokenizerRule :=
  ((numbered terminals).filter fun (_, terminal) => !terminal.isToken).map
    fun (before, terminal) => terminal.blankRule before

/-- The states of the comments with delimiters. -/
def nestedStates (terminals : List UsableTerminal) : List State :=
  (terminals.filter isNested).mapIdx nestedState

theorem numbered_snoc (terminals : List UsableTerminal) (terminal : UsableTerminal) :
    numbered (terminals ++ [terminal]) =
      numbered terminals ++ [(terminals.countP isNested, terminal)] := by
  rw [numbered, numbered, List.mapIdx_append, List.mapIdx_cons, List.mapIdx_nil, Nat.zero_add,
    List.take_left' rfl]
  congr 1
  apply List.mapIdx_eq_mapIdx_iff.mpr
  intro index hindex
  rw [List.take_append_of_le_length (Nat.le_of_lt hindex)]

theorem visibleRules_snoc (words : List String) (terminals : List UsableTerminal)
    (terminal : UsableTerminal) :
    visibleRules words (terminals ++ [terminal]) = visibleRules words terminals ++
      if terminal.isToken then [tokenRule terminal.rule terminal.pattern words] else [] := by
  rw [visibleRules, visibleRules, List.filter_append, List.map_append]
  cases htoken : terminal.isToken <;> simp [htoken]

theorem blankRules_snoc (terminals : List UsableTerminal) (terminal : UsableTerminal) :
    blankRules (terminals ++ [terminal]) = blankRules terminals ++
      if terminal.isToken then [] else [terminal.blankRule (terminals.countP isNested)] := by
  rw [blankRules, blankRules, numbered_snoc, List.filter_append, List.map_append]
  cases htoken : terminal.isToken <;> simp [htoken]

theorem nestedStates_snoc (terminals : List UsableTerminal) (terminal : UsableTerminal) :
    nestedStates (terminals ++ [terminal]) = nestedStates terminals ++
      if terminal.isNested then [terminal.nestedState (terminals.countP isNested)] else [] := by
  rw [nestedStates, nestedStates, List.filter_append, List.mapIdx_append]
  cases hnested : terminal.isNested <;> simp [hnested, List.countP_eq_length_filter]

theorem length_nestedStates (terminals : List UsableTerminal) :
    (nestedStates terminals).length = terminals.countP isNested := by
  rw [nestedStates, List.length_mapIdx, List.countP_eq_length_filter]

end UsableTerminal

open UsableTerminal

/-! ## One terminal -/

namespace Assembly

variable {words : List String} {terminals : List UsableTerminal} {assembly : Assembly}

/-- What is there after terminals have been placed. -/
structure Holds (words : List String) (terminals : List UsableTerminal) (assembly : Assembly) : Prop where
  tokens : assembly.tokens = visibleRules words terminals
  blanks : assembly.blanks = blankRules terminals
  comments : assembly.comments = nestedStates terminals

/-- A terminal that can be used is placed by its kind. -/
theorem add_usable (words : List String) (assembly : Assembly) (terminal : UsableTerminal) :
    assembly.add words terminal.rule (.regex terminal.pattern.source) =
      { assembly with
        tokens := assembly.tokens ++
          if terminal.isToken then [tokenRule terminal.rule terminal.pattern words] else []
        blanks := assembly.blanks ++
          if terminal.isToken then [] else [terminal.blankRule assembly.comments.length]
        comments := assembly.comments ++
          if terminal.isNested then [terminal.nestedState assembly.comments.length] else [] } := by
  rw [add, terminal.placeTerminal_eq]
  cases hplace : terminal.place with
  | whitespace => simp [isToken, isNested, blankRule, hplace]
  | token => simp [isToken, isNested, hplace]
  | comment =>
    have htoken : terminal.isToken = false := by rw [isToken, hplace]; rfl
    have hnested : terminal.isNested = terminal.delimiters.isDelimited := by rw [isNested, hplace]; rfl
    dsimp only
    by_cases hdelimited : terminal.delimiters.isDelimited = true
    · rw [addComment_of_isDelimited hdelimited, htoken, blankRule, hnested, hdelimited]
      simp only [reduceIte, Bool.false_eq_true, List.append_nil]
      rfl
    · rw [addComment_of_not_isDelimited hdelimited, htoken, blankRule, hnested, if_neg hdelimited]
      simp [hplace, hdelimited]

theorem Holds.empty (words : List String) : Holds words [] {} := ⟨rfl, rfl, rfl⟩

/-- A rule adds the terminal that it is, if it can be used. -/
theorem Holds.add (h : Holds words terminals assembly) {rule : Rule} {definition : TerminalDefinition}
    (hbody : rule.body = .terminal definition) :
    Holds words (terminals ++ (of? rule).toList) (assembly.add words rule definition) := by
  cases hof : of? rule with
  | none =>
    obtain ⟨reason, hplace⟩ := exists_error_of_none hbody hof
    rw [Assembly.add, hplace, Option.toList_none, List.append_nil]
    exact ⟨h.tokens, h.blanks, h.comments⟩
  | some terminal =>
    obtain rfl := rule_of_of? hof
    rw [terminal.regular] at hbody
    cases hbody
    rw [add_usable, Option.toList_some, h.comments, length_nestedStates]
    refine ⟨?_, ?_, ?_⟩
    · rw [h.tokens, visibleRules_snoc]
    · rw [h.blanks, blankRules_snoc]
    · rw [nestedStates_snoc]

end Assembly

/-! ## All rules of a grammar -/

/-- Whether a rule is a terminal that can be used. -/
def Rule.Usable (rule : Rule) : Prop := ∃ terminal : UsableTerminal, terminal.rule = rule

theorem Rule.isSome_of?_iff : (of? rule).isSome = true ↔ rule.Usable := by
  simp only [Option.isSome_iff_exists, of?_eq_some_iff, Usable]

instance : DecidablePred Rule.Usable := fun _ => decidable_of_iff _ Rule.isSome_of?_iff

namespace Grammar

/-- The terminals that can be used, in declaration order. -/
def usableTerminals (grammar : Grammar) : List UsableTerminal := grammar.rules.filterMap of?

theorem map_rule_usableTerminals (grammar : Grammar) :
    grammar.usableTerminals.map UsableTerminal.rule = grammar.rules.filter fun rule => rule.Usable := by
  rw [usableTerminals]
  induction grammar.rules with
  | nil => rfl
  | cons rule rules ih =>
    rw [List.filterMap_cons, List.filter_cons]
    cases hof : of? rule with
    | none =>
      have hnot : ¬ rule.Usable := by rw [← Rule.isSome_of?_iff, hof]; simp
      rw [decide_eq_false hnot]
      exact ih
    | some terminal =>
      have husable : rule.Usable := ⟨terminal, rule_of_of? hof⟩
      rw [decide_eq_true husable, if_pos rfl, List.map_cons, ih, rule_of_of? hof]

/-- Rule by rule, each terminal that can be used is placed. -/
theorem holds_foldl (words : List String) (rules : List Rule) :
    Assembly.Holds words (rules.filterMap of?)
      ((rules.filterMap terminal?).foldl
        (fun assembly (rule, definition) => assembly.add words rule definition) {}) := by
  induction rules using List.reverseRecOn with
  | nil => exact .empty words
  | append_singleton rules rule ih =>
    rw [List.filterMap_append, List.filterMap_append, List.foldl_append]
    cases hbody : rule.body with
    | terminal definition =>
      have hterminal : [rule].filterMap terminal? = [(rule, definition)] := by simp [terminal?, hbody]
      have hof : [rule].filterMap of? = (of? rule).toList := by
        cases hof : of? rule <;> simp [hof]
      rw [hterminal, hof]
      exact ih.add hbody
    | parser element =>
      have hterminal : [rule].filterMap terminal? = [] := by simp [terminal?, hbody]
      have hof : [rule].filterMap of? = [] := by simp [of?_eq_none_of_element hbody]
      rw [hterminal, hof, List.append_nil]
      exact ih

theorem holds_assemble (grammar : Grammar) (words : List String) :
    Assembly.Holds words grammar.usableTerminals (grammar.assemble words) := by
  rw [assemble_eq]
  exact holds_foldl words grammar.rules

end Grammar

/-! ## Descriptions -/

/-- The states of a description are filled with the rules of terminals, and with nothing else. -/
structure TokenizerDescription.Places (description : TokenizerDescription)
    (terminals : List UsableTerminal) : Prop where
  states : description.states =
    ⟨mainState, visibleRules description.keywords terminals ++ [.includeState whitespaceState, catchAll]⟩ ::
      ⟨whitespaceState, blankRules terminals⟩ :: nestedStates terminals
  /-- In the main state every terminal has its own pattern. -/
  visible_patterns : (visibleRules description.keywords terminals).map TokenizerRule.regex? =
    (terminals.filter isToken).map fun terminal => some terminal.pattern.source
  /-- Among white space it has its own pattern too, or else its opening delimiter. -/
  blank_patterns : (blankRules terminals).map TokenizerRule.regex? =
    (terminals.filter fun terminal => !terminal.isToken).map fun terminal => some <|
      if terminal.isNested then Pattern.escape terminal.delimiters.opening else terminal.pattern.source
  nested_length : (nestedStates terminals).length = terminals.countP isNested
  nested_rules : ∀ state ∈ nestedStates terminals, state.rules.length = 3
  visible : ∀ terminal ∈ terminals, terminal.isToken = true →
    terminal.rule.hidden = false ∧ terminal.pattern.isMatch "" = false

namespace UsableTerminal

theorem map_regex?_visibleRules (words : List String) (terminals : List UsableTerminal) :
    (visibleRules words terminals).map TokenizerRule.regex? =
      (terminals.filter isToken).map fun terminal => some terminal.pattern.source := by
  rw [visibleRules, List.map_map]
  rfl

theorem regex?_blankRule (before : Nat) (terminal : UsableTerminal) :
    (terminal.blankRule before).regex? = some
      (if terminal.isNested then Pattern.escape terminal.delimiters.opening else terminal.pattern.source) := by
  rw [blankRule]
  split <;> rfl

/-- The numbers of terminals are in their rules only as the names of states to enter. -/
theorem map_regex?_blankRules (terminals : List UsableTerminal) :
    (blankRules terminals).map TokenizerRule.regex? =
      (terminals.filter fun terminal => !terminal.isToken).map fun terminal => some <|
        if terminal.isNested then Pattern.escape terminal.delimiters.opening
        else terminal.pattern.source := by
  induction terminals using List.reverseRecOn with
  | nil => rfl
  | append_singleton terminals terminal ih =>
    rw [blankRules_snoc, List.map_append, ih, List.filter_append, List.map_append]
    cases htoken : terminal.isToken <;> simp [htoken, regex?_blankRule]

theorem length_rules_of_mem_nestedStates {terminals : List UsableTerminal} {state : State}
    (h : state ∈ nestedStates terminals) : state.rules.length = 3 := by
  rw [nestedStates, List.mem_mapIdx] at h
  obtain ⟨index, hindex, rfl⟩ := h
  rfl

end UsableTerminal

/-- **Every terminal that can be used is placed once, in declaration order.**  Those that make tokens are in the
main state, all others in the state of white space, and a comment with delimiters has a state of its own. -/
theorem terminals_placed_once (grammar : Grammar) :
    (grammar.usableTerminals.map UsableTerminal.rule = grammar.rules.filter fun rule => rule.Usable) ∧
      grammar.tokenizer.1.Places grammar.usableTerminals := by
  refine ⟨grammar.map_rule_usableTerminals, ?_⟩
  have hholds := grammar.holds_assemble grammar.keywords.words
  have hstates : grammar.tokenizer.1.states = (grammar.assemble grammar.keywords.words).states := rfl
  constructor
  case states =>
    rw [hstates, Assembly.states, hholds.tokens, hholds.blanks, hholds.comments]
    rfl
  case visible_patterns => exact map_regex?_visibleRules _ _
  case blank_patterns => exact map_regex?_blankRules _
  case nested_length => exact length_nestedStates _
  case nested_rules => exact fun _ hstate => length_rules_of_mem_nestedStates hstate
  case visible => exact fun _ _ htoken => visible_of_isToken htoken

end EditorBridge
