import EditorBridge.Proofs.Tree.Linking
/-!
Pre-order.  `LinkedTree.PreOrder` is the order of a walk said by recursion: a node stands before the
sequences of what its slots hold, one after the other.  The walk keeps a list of pending stops instead,
and it goes through the same sequence (`Traversal.visits_of_preOrder`); so does the loop that links.
-/

set_option autoImplicit false

namespace EditorBridge

namespace LinkedTree

/-- The sequence of some entries, each with all that is below it: a reference stands alone, and a node
comes before the sequence of the entries in its slots. -/
inductive PreOrder (tree : LinkedTree) : List Entry → List Entry → Prop
  | nil : PreOrder tree [] []
  | reference {id : ReferenceId} {rest later : List Entry} : PreOrder tree rest later →
    PreOrder tree (.reference id :: rest) (.reference id :: later)
  | node {id : NodeId} {node : Node} {rest own later : List Entry} : tree.node? id = some node →
    PreOrder tree (node.slots.map Slot.entry) own → PreOrder tree rest later →
    PreOrder tree (.node id :: rest) (.node id :: (own ++ later))

namespace PreOrder

variable {tree : LinkedTree} {entries more sequence later : List Entry}

theorem append (h : tree.PreOrder entries sequence) (hmore : tree.PreOrder more later) :
    tree.PreOrder (entries ++ more) (sequence ++ later) := by
  induction h with
  | nil => exact hmore
  | reference _ ih => exact .reference ih
  | node hnode hown _ _ ih =>
    rw [List.cons_append, List.cons_append, List.append_assoc]
    exact .node hnode hown ih

/-- The sequence of some entries is that of the first one and that of the others. -/
theorem split {entry : Entry} (h : tree.PreOrder (entry :: entries) sequence) :
    ∃ own later, tree.PreOrder [entry] own ∧ tree.PreOrder entries later ∧
      sequence = own ++ later := by
  cases h with
  | @reference id _ later hlater => exact ⟨[.reference id], later, .reference .nil, hlater, rfl⟩
  | @node id node _ own later hnode hown hlater =>
    exact ⟨.node id :: own, later, by simpa using PreOrder.node hnode hown .nil, hlater, rfl⟩

/-- Entries in another order have the same sequences in another order. -/
theorem perm (h : tree.PreOrder entries sequence) (hperm : entries.Perm more) :
    ∃ later, tree.PreOrder more later ∧ sequence.Perm later := by
  induction hperm generalizing sequence with
  | nil => exact ⟨sequence, h, .refl _⟩
  | cons entry _ ih =>
    obtain ⟨own, following, hown, hfollowing, rfl⟩ := h.split
    obtain ⟨later, hlater, hsame⟩ := ih hfollowing
    exact ⟨own ++ later, hown.append hlater, hsame.append_left own⟩
  | swap first second _ =>
    obtain ⟨second, _, hsecond, hrest, rfl⟩ := h.split
    obtain ⟨first, later, hfirst, hlater, rfl⟩ := hrest.split
    exact ⟨first ++ (second ++ later), hfirst.append (hsecond.append hlater),
      List.perm_append_comm_assoc _ _ _⟩
  | trans _ _ ihfirst ihsecond =>
    obtain ⟨_, hbetween, hfirst⟩ := ihfirst h
    obtain ⟨later, hlater, hsecond⟩ := ihsecond hbetween
    exact ⟨later, hlater, hfirst.trans hsecond⟩

end PreOrder

/-- Where entries are laid out, there is a sequence of them. -/
theorem Laid.exists_preOrder {tree : LinkedTree} {entries : List Entry} {a b : Frontier}
    (h : tree.Laid entries a b) {part : List Entry} (hpart : part.Sublist entries) :
    ∃ sequence, tree.PreOrder part sequence := by
  induction h generalizing part with
  | nil a =>
    rw [List.sublist_nil.mp hpart]
    exact ⟨[], .nil⟩
  | @node held rest a b c hcontents _ _ ihheld ihrest =>
    cases hpart with
    | cons _ hrest => exact ihrest hrest
    | cons_cons _ hrest =>
      obtain ⟨node, hnode⟩ := node?_of_inArena (contents?_isSome.mp (by rw [hcontents]; rfl))
      have hheld := Option.some.inj ((contents?_of_node? hnode).symm.trans hcontents)
      obtain ⟨own, hown⟩ := ihheld (hheld ▸ node.slots_sublist)
      obtain ⟨later, hlater⟩ := ihrest hrest
      exact ⟨_, .node hnode hown hlater⟩
  | reference _ _ _ _ ihrest =>
    cases hpart with
    | cons _ hrest => exact ihrest hrest
    | cons_cons _ hrest =>
      obtain ⟨later, hlater⟩ := ihrest hrest
      exact ⟨_, .reference hlater⟩

end LinkedTree

/-! ## The walk -/

namespace Traversal

variable {tree : LinkedTree}

/-- A walk goes through the sequence of the first stops that are due before it takes up the others. -/
theorem visits_of_preOrder {entries sequence : List Entry} (h : tree.PreOrder entries sequence)
    {due : List Visit} (hdue : due.map Visit.entry = entries) (rest : List Visit) (steps : Nat) :
    (visits tree (sequence.length + steps) ⟨due ++ rest⟩).map Visit.entry =
      sequence ++ (visits tree steps ⟨rest⟩).map Visit.entry := by
  induction h generalizing due rest steps with
  | nil =>
    rw [List.map_eq_nil_iff.mp hdue, List.length_nil, Nat.zero_add, List.nil_append, List.nil_append]
  | reference _ ih =>
    obtain ⟨visit, due, rfl, hentry, hdue⟩ := List.map_eq_cons_iff.mp hdue
    rw [List.length_cons, Nat.succ_add, List.cons_append, visits_of_due, List.map_cons, hentry,
      List.cons_append]
    exact congrArg _ (ih hdue rest steps)
  | @node id node later own following hnode _ _ ihown ihlater =>
    obtain ⟨visit, due, rfl, hentry, hdue⟩ := List.map_eq_cons_iff.mp hdue
    have hbelow : (tree.below (.node id)).map Visit.entry = node.slots.map Slot.entry := by
      simp [LinkedTree.below, hnode, Function.comp_def]
    rw [List.length_cons, Nat.succ_add, List.cons_append, visits_of_due, List.map_cons, hentry,
      List.length_append, Nat.add_assoc, ihown hbelow, ihlater hdue, List.cons_append,
      List.append_assoc]

/-- The stop that is due after some steps is the one that the walk makes next. -/
theorem getElem?_visits (tree : LinkedTree) (due : List Visit) (steps extra : Nat) :
    (visits tree (steps + 1 + extra) ⟨due⟩)[steps]? = (after tree steps ⟨due⟩).pending.head? := by
  induction steps generalizing due with
  | zero =>
    cases due with
    | nil => simp [visits_of_none_due, after]
    | cons visit rest =>
      rw [Nat.zero_add, Nat.add_comm, visits_of_due]
      rfl
  | succ steps ih =>
    cases due with
    | nil => simp [visits_of_none_due, after_of_none_due]
    | cons visit rest =>
      rw [show steps + 1 + 1 + extra = steps + 1 + extra + 1 by omega, visits_of_due,
        List.getElem?_cons_succ, after_of_due]
      exact ih _

theorem next?_entry (walk : Traversal) :
    (walk.next? tree).map (fun found => found.1.entry) = walk.pending.head?.map Visit.entry := by
  obtain ⟨pending⟩ := walk
  cases pending <;> rfl

end Traversal

namespace LinkedTree.LaidOut

variable {tree : LinkedTree}

theorem exists_preOrder (h : tree.LaidOut) :
    ∃ sequence, tree.PreOrder [.node tree.root] sequence :=
  Laid.exists_preOrder h (List.Sublist.refl _)

/-- A walk that is given time enough goes through the sequence of the root. -/
theorem visits_eq_of_preOrder (h : tree.LaidOut) {sequence : List Entry}
    (hsequence : tree.PreOrder [.node tree.root] sequence) {steps : Nat}
    (hsteps : tree.entryCount ≤ steps) :
    (tree.traversal.visits tree steps).map Visit.entry = sequence := by
  have hwalk : ∀ extra, (tree.traversal.visits tree (sequence.length + extra)).map Visit.entry =
      sequence := by
    intro extra
    have hdue : [tree.firstVisit].map Visit.entry = [.node tree.root] := rfl
    have hvisits := Traversal.visits_of_preOrder hsequence hdue [] extra
    rwa [Traversal.visits_of_none_due, List.map_nil, List.append_nil, List.append_nil] at hvisits
  -- No walk is longer than there are entries, so the steps are enough for the sequence.
  have hle : sequence.length ≤ tree.entryCount := by
    have hprogress := (h.progress sequence.length).length_le h
    have hlength := congrArg List.length (hwalk 0)
    rw [Nat.add_zero, List.length_map] at hlength
    rw [List.length_append] at hprogress
    omega
  obtain ⟨extra, rfl⟩ := Nat.exists_eq_add_of_le (Nat.le_trans hle hsteps)
  exact hwalk extra

/-- The sequence of the root is what the walk goes through. -/
theorem preOrder_iff (h : tree.LaidOut) {sequence : List Entry} :
    tree.PreOrder [.node tree.root] sequence ↔ sequence = tree.flatten := by
  constructor
  · intro hsequence
    exact (h.visits_eq_of_preOrder hsequence (Nat.le_refl _)).symm
  · rintro rfl
    obtain ⟨sequence, hsequence⟩ := h.exists_preOrder
    have hflatten := h.visits_eq_of_preOrder hsequence (Nat.le_refl _)
    rwa [← hflatten] at hsequence

theorem preOrder_flatten (h : tree.LaidOut) : tree.PreOrder [.node tree.root] tree.flatten :=
  h.preOrder_iff.mpr rfl

/-- After some steps the walk has come to the place of that number in the sequence; it is over when the
sequence is. -/
theorem next_of_after (h : tree.LaidOut) (steps : Nat) :
    (Traversal.after tree steps tree.traversal).pending.head?.map Visit.entry =
      tree.flatten[steps]? := by
  have hwalk := h.visits_eq_of_preOrder h.preOrder_flatten
    (Nat.le_add_left tree.entryCount (steps + 1))
  have hstop := Traversal.getElem?_visits tree [tree.firstVisit] steps tree.entryCount
  rw [← hwalk, List.getElem?_map]
  exact congrArg (Option.map Visit.entry) hstop.symm

end LinkedTree.LaidOut

/-! ## The loop that links -/

namespace LinkedTree

/-- Linking comes to the same entries as the walk through the finished tree. -/
theorem pending_run_start (tree : LinkedTree) (steps : Nat) :
    (Linking.run steps (.start tree)).pending =
      (Traversal.after tree.link steps tree.link.traversal).pending := by
  have hunlinked := tree.unlinked_link
  rw [run_start, traversal, traversal, root_eq_of_unlinked_eq hunlinked]
  exact congrArg Traversal.pending (Traversal.after_eq_of_unlinked_eq hunlinked.symm steps _)

/-- **Walking and linking go through the tree in pre-order.**  There is one sequence of the root, it is
what the walk yields, and no entry is in it twice.  After any number of steps, the walk and the loop
that links are both due to take up the entry at that place of it, and are over past its end. -/
theorem flatten_preOrder (conventions : Conventions) (fields : List (String × Json)) :
    ∃ tree, ofJson conventions (.object fields) = .ok tree ∧
      (∀ sequence, tree.PreOrder [.node tree.root] sequence ↔ sequence = tree.flatten) ∧
      tree.flatten.Nodup ∧
      (∀ steps, ((Traversal.after tree steps tree.traversal).next? tree).map
        (fun found => found.1.entry) = tree.flatten[steps]?) ∧
      (∀ steps, (Linking.run steps (.start (conventions.build fields))).pending.head?.map
        Visit.entry = tree.flatten[steps]?) := by
  have hlinked := linked_laidOut conventions fields
  refine ⟨_, ofJson_object conventions fields, fun sequence => hlinked.preOrder_iff,
    hlinked.nodup_visits, fun steps => ?_, fun steps => ?_⟩
  · rw [Traversal.next?_entry]
    exact hlinked.next_of_after steps
  · rw [pending_run_start]
    exact hlinked.next_of_after steps

end LinkedTree

end EditorBridge
