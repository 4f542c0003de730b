import EditorBridge.Proofs.Tree.Ownership
import Mathlib.Data.List.Perm.Subperm
/-!
The walk through a tree that is laid out.  `Progress` is what every step of the walk preserves: no entry
comes twice, all that is past or due is below something past, and all that is below something past is
past or due.  So the walk ends within as many steps as there are entries, it meets every entry that is
reached through slots and no other, and it meets each of them once.
-/

set_option autoImplicit false

namespace EditorBridge

/-- The entries that are reached from the root through the slots of nodes. -/
inductive LinkedTree.Reached (tree : LinkedTree) : Entry → Prop
  | root : Reached tree (.node tree.root)
  | slot {id : NodeId} {node : Node} {slot : Slot} : Reached tree (.node id) →
    tree.node? id = some node → slot ∈ node.slots → Reached tree slot.entry

namespace LinkedTree

def firstVisit (tree : LinkedTree) : Visit := ⟨.node tree.root, none⟩

theorem mem_below_iff {tree : LinkedTree} {owner : Entry} {visit : Visit} :
    visit ∈ tree.below owner ↔ ∃ id node slot, owner = .node id ∧ tree.node? id = some node ∧
      slot ∈ node.slots ∧ visit = ⟨slot.entry, some ⟨id, slot.property, slot.index⟩⟩ := by
  cases owner with
  | reference id => simp [below]
  | node id =>
    cases hnode : tree.node? id with
    | none => simp [below, hnode]
    | some node =>
      simp only [below, hnode, List.mem_map, Entry.node.injEq, ↓existsAndEq,
        Option.some.injEq, true_and]
      exact exists_congr fun slot => and_congr_right fun _ => eq_comm

theorem holds_of_mem_below {tree : LinkedTree} {owner : Entry} {visit : Visit}
    (h : visit ∈ tree.below owner) : tree.Holds owner visit.entry :=
  (tree.below_sublist owner).subset (List.mem_map_of_mem h)

theorem reached_of_mem_below {tree : LinkedTree} {owner : Entry} {visit : Visit}
    (h : visit ∈ tree.below owner) (howner : tree.Reached owner) : tree.Reached visit.entry := by
  obtain ⟨id, node, slot, rfl, hnode, hslot, rfl⟩ := mem_below_iff.mp h
  exact .slot howner hnode hslot

end LinkedTree

namespace Traversal

/-- The walk after some steps. -/
def after (tree : LinkedTree) : Nat → Traversal → Traversal
  | 0, walk => walk
  | steps + 1, walk =>
    match walk.next? tree with
    | none => walk
    | some (_, walk) => after tree steps walk

theorem visits_of_due (tree : LinkedTree) (steps : Nat) (visit : Visit) (rest : List Visit) :
    visits tree (steps + 1) ⟨visit :: rest⟩ =
      visit :: visits tree steps ⟨tree.below visit.entry ++ rest⟩ := rfl

theorem after_of_due (tree : LinkedTree) (steps : Nat) (visit : Visit) (rest : List Visit) :
    after tree (steps + 1) ⟨visit :: rest⟩ = after tree steps ⟨tree.below visit.entry ++ rest⟩ := rfl

theorem visits_of_none_due (tree : LinkedTree) (steps : Nat) : visits tree steps ⟨[]⟩ = [] := by
  cases steps <;> rfl

theorem after_of_none_due (tree : LinkedTree) (steps : Nat) : after tree steps ⟨[]⟩ = ⟨[]⟩ := by
  cases steps <;> rfl

/-- A walk that is not over has made all its steps. -/
theorem length_visits (tree : LinkedTree) (steps : Nat) (due : List Visit)
    (h : (after tree steps ⟨due⟩).pending ≠ []) : (visits tree steps ⟨due⟩).length = steps := by
  induction steps generalizing due with
  | zero => rfl
  | succ steps ih =>
    cases due with
    | nil => exact absurd rfl h
    | cons visit rest =>
      rw [after_of_due] at h
      rw [visits_of_due, List.length_cons, ih _ h]

/-- Trees that differ in containers and targets only are walked alike. -/
theorem visits_eq_of_unlinked_eq {a b : LinkedTree} (h : a.unlinked = b.unlinked) (steps : Nat)
    (due : List Visit) : visits a steps ⟨due⟩ = visits b steps ⟨due⟩ := by
  induction steps generalizing due with
  | zero => rfl
  | succ steps ih =>
    cases due with
    | nil => rfl
    | cons visit rest =>
      rw [visits_of_due, visits_of_due, LinkedTree.below_eq_of_unlinked_eq h, ih]

theorem after_eq_of_unlinked_eq {a b : LinkedTree} (h : a.unlinked = b.unlinked) (steps : Nat)
    (due : List Visit) : after a steps ⟨due⟩ = after b steps ⟨due⟩ := by
  induction steps generalizing due with
  | zero => rfl
  | succ steps ih =>
    cases due with
    | nil => rfl
    | cons visit rest =>
      rw [after_of_due, after_of_due, LinkedTree.below_eq_of_unlinked_eq h, ih]

/-! ## What every step preserves -/

/-- What holds between the stops that a walk has made and those that are due. -/
structure Progress (tree : LinkedTree) (past due : List Visit) : Prop where
  nodup : ((past ++ due).map Visit.entry).Nodup
  started : tree.firstVisit ∈ past ++ due
  origin : ∀ visit ∈ past ++ due,
    visit = tree.firstVisit ∨ ∃ earlier ∈ past, visit ∈ tree.below earlier.entry
  closed : ∀ visit ∈ past, ∀ next ∈ tree.below visit.entry, next ∈ past ++ due
  reached : ∀ visit ∈ past ++ due, tree.Reached visit.entry

namespace Progress

variable {tree : LinkedTree} {past due rest : List Visit} {visit : Visit}

theorem start (tree : LinkedTree) : Progress tree [] tree.traversal.pending where
  nodup := List.nodup_singleton _
  started := List.mem_singleton_self _
  origin _ h := Or.inl (List.mem_singleton.mp h)
  closed _ h := absurd h List.not_mem_nil
  reached visit h := by
    rw [List.mem_singleton.mp h]
    exact .root

/-- What is below a stop that is due has not come up before. -/
theorem fresh (h : Progress tree past (visit :: rest)) (hlaid : tree.LaidOut) {next known : Visit}
    (hnext : next ∈ tree.below visit.entry) (hknown : known ∈ past ++ visit :: rest) :
    next.entry ≠ known.entry := by
  intro heq
  have hholds := LinkedTree.holds_of_mem_below hnext
  rw [heq] at hholds
  rcases h.origin known hknown with rfl | ⟨earlier, hearlier, hbelow⟩
  · exact hlaid.root_not_held (LinkedTree.mem_held.mpr ⟨_, hholds⟩)
  · have howner := hlaid.owner_unique hholds (LinkedTree.holds_of_mem_below hbelow)
    have hnodup := h.nodup
    rw [List.map_append, List.nodup_append'] at hnodup
    have hpast : visit.entry ∈ past.map Visit.entry := howner ▸ List.mem_map_of_mem hearlier
    exact hnodup.2.2 hpast List.mem_cons_self

/-- Making the next stop. -/
theorem step (h : Progress tree past (visit :: rest)) (hlaid : tree.LaidOut) :
    Progress tree (past ++ [visit]) (tree.below visit.entry ++ rest) := by
  have hperm : (past ++ [visit] ++ (tree.below visit.entry ++ rest)).Perm
      (tree.below visit.entry ++ (past ++ visit :: rest)) := by
    rw [List.append_assoc, List.singleton_append]
    exact ((List.perm_append_comm_assoc [visit] _ rest).append_left past).trans
      (List.perm_append_comm_assoc past _ _)
  have hmem : ∀ {other : Visit}, other ∈ past ++ [visit] ++ (tree.below visit.entry ++ rest) ↔
      other ∈ tree.below visit.entry ∨ other ∈ past ++ visit :: rest := by
    intro other
    rw [hperm.mem_iff, List.mem_append]
  have hvisit : visit ∈ past ++ visit :: rest := List.mem_append_right _ List.mem_cons_self
  constructor
  · rw [(hperm.map Visit.entry).nodup_iff, List.map_append, List.nodup_append']
    refine ⟨(tree.below_sublist visit.entry).nodup (hlaid.nodup_contents _), h.nodup, ?_⟩
    intro entry hbelow hbefore
    obtain ⟨next, hnext, rfl⟩ := List.mem_map.mp hbelow
    obtain ⟨known, hknown, heq⟩ := List.mem_map.mp hbefore
    exact h.fresh hlaid hnext hknown heq.symm
  · exact hmem.mpr (Or.inr h.started)
  · intro other hother
    rcases hmem.mp hother with hbelow | hother
    · exact Or.inr ⟨visit, List.mem_append_right _ (List.mem_singleton_self _), hbelow⟩
    · rcases h.origin other hother with hfirst | ⟨earlier, hearlier, hbelow⟩
      · exact Or.inl hfirst
      · exact Or.inr ⟨earlier, List.mem_append_left _ hearlier, hbelow⟩
  · intro earlier hearlier next hnext
    rcases List.mem_append.mp hearlier with hearlier | hearlier
    · exact hmem.mpr (Or.inr (h.closed earlier hearlier next hnext))
    · rw [List.mem_singleton.mp hearlier] at hnext
      exact hmem.mpr (Or.inl hnext)
  · intro other hother
    rcases hmem.mp hother with hbelow | hother
    · exact LinkedTree.reached_of_mem_below hbelow (h.reached visit hvisit)
    · exact h.reached other hother

/-- Making several stops. -/
theorem run (hlaid : tree.LaidOut) (steps : Nat) (h : Progress tree past due) :
    Progress tree (past ++ visits tree steps ⟨due⟩) (after tree steps ⟨due⟩).pending := by
  induction steps generalizing past due with
  | zero => simpa [visits, after] using h
  | succ steps ih =>
    cases due with
    | nil => simpa [visits_of_none_due, after_of_none_due] using h
    | cons visit rest =>
      have hrun := ih (h.step hlaid)
      rw [visits_of_due, after_of_due, ← List.singleton_append, ← List.append_assoc]
      exact hrun

/-- Every stop that is made is the first one, or below one that was made before it. -/
theorem origin_of_split (h : Progress tree past due) (hlaid : tree.LaidOut) {steps : Nat}
    {before later : List Visit} (hvisits : visits tree steps ⟨due⟩ = before ++ visit :: later) :
    visit = tree.firstVisit ∨ ∃ earlier ∈ past ++ before, visit ∈ tree.below earlier.entry := by
  induction steps generalizing past due before with
  | zero => simp [visits] at hvisits
  | succ steps ih =>
    cases due with
    | nil => simp [visits_of_none_due] at hvisits
    | cons next rest =>
      rw [visits_of_due] at hvisits
      cases before with
      | nil =>
        obtain ⟨rfl, -⟩ := List.cons.inj hvisits
        have horigin := h.origin next (List.mem_append_right _ List.mem_cons_self)
        simpa using horigin
      | cons first before =>
        obtain ⟨rfl, htail⟩ := List.cons.inj hvisits
        have horigin := ih (h.step hlaid) htail
        simpa using horigin

theorem inArena (h : Progress tree past due) (hlaid : tree.LaidOut) (hmem : visit ∈ past ++ due) :
    tree.InArena visit.entry := by
  rcases h.origin visit hmem with rfl | ⟨earlier, _, hbelow⟩
  · exact hlaid.root_inArena
  · exact hlaid.inArena_of_holds (LinkedTree.holds_of_mem_below hbelow)

/-- No walk has more stops than there are entries. -/
theorem length_le (h : Progress tree past due) (hlaid : tree.LaidOut) :
    (past ++ due).length ≤ tree.entryCount := by
  have hsubset : (past ++ due).map Visit.entry ⊆ tree.entries := by
    intro entry hentry
    obtain ⟨visit, hvisit, rfl⟩ := List.mem_map.mp hentry
    exact LinkedTree.mem_entries.mpr (h.inArena hlaid hvisit)
  have hle := (List.subperm_of_subset h.nodup hsubset).length_le
  rw [List.length_map, LinkedTree.length_entries] at hle
  exact hle

end Progress

end Traversal

/-! ## The whole walk -/

namespace LinkedTree.LaidOut

variable {tree : LinkedTree}

theorem progress (h : tree.LaidOut) (steps : Nat) :
    Traversal.Progress tree (tree.traversal.visits tree steps)
      (Traversal.after tree steps tree.traversal).pending :=
  Traversal.Progress.run h steps (.start tree)

/-- The walk is over within as many steps as there are entries. -/
theorem walk_ends (h : tree.LaidOut) :
    (Traversal.after tree tree.entryCount tree.traversal).pending = [] := by
  by_contra hdue
  have hprogress := h.progress tree.entryCount
  have hlength := Traversal.length_visits tree tree.entryCount _ hdue
  have hle := hprogress.length_le h
  have hpos := List.length_pos_iff.mpr hdue
  rw [List.length_append] at hle
  change (tree.traversal.visits tree tree.entryCount).length = tree.entryCount at hlength
  omega

theorem whole_progress (h : tree.LaidOut) : Traversal.Progress tree tree.visits [] := by
  have hprogress := h.progress tree.entryCount
  rw [h.walk_ends] at hprogress
  exact hprogress

theorem nodup_visits (h : tree.LaidOut) : (tree.visits.map Visit.entry).Nodup := by
  have hnodup := h.whole_progress.nodup
  rwa [List.append_nil] at hnodup

/-- The stops of the walk are the root and what is below another stop. -/
theorem mem_visits_iff (h : tree.LaidOut) {visit : Visit} :
    visit ∈ tree.visits ↔
      visit = tree.firstVisit ∨ ∃ earlier ∈ tree.visits, visit ∈ tree.below earlier.entry := by
  have hprogress := h.whole_progress
  constructor
  · intro hmem
    exact hprogress.origin visit (List.mem_append_left _ hmem)
  · rintro (rfl | ⟨earlier, hearlier, hbelow⟩)
    · simpa using hprogress.started
    · simpa using hprogress.closed earlier hearlier visit hbelow

/-- The walk starts at the root. -/
theorem visits_eq_cons (h : tree.LaidOut) : ∃ rest, tree.visits = tree.firstVisit :: rest := by
  obtain ⟨steps, hsteps⟩ : ∃ steps, tree.entryCount = steps + 1 := by
    have hroot : tree.root.index < tree.nodes.size := h.root_inArena
    exact Nat.exists_eq_add_one.mpr (by rw [entryCount]; omega)
  refine ⟨Traversal.visits tree steps ⟨tree.below (.node tree.root) ++ []⟩, ?_⟩
  rw [visits, Traversal.rest, hsteps]
  exact Traversal.visits_of_due tree steps tree.firstVisit []

/-- Every stop but the first one comes after one that it is below of. -/
theorem below_of_split (h : tree.LaidOut) {visit : Visit} {before later : List Visit}
    (hvisits : tree.visits = before ++ visit :: later) :
    before = [] ∧ visit = tree.firstVisit ∨
      ∃ earlier ∈ before, visit ∈ tree.below earlier.entry := by
  rcases (Traversal.Progress.start tree).origin_of_split h hvisits with hfirst | hbelow
  · obtain ⟨rest, hrest⟩ := h.visits_eq_cons
    cases before with
    | nil => exact Or.inl ⟨rfl, hfirst⟩
    | cons other before =>
      -- The first stop would be made twice.
      have hnodup := h.nodup_visits
      rw [hvisits, hfirst] at hnodup
      rw [hvisits] at hrest
      obtain ⟨rfl, -⟩ := List.cons.inj hrest
      simp at hnodup
  · exact Or.inr (by simpa using hbelow)

/-- The walk meets exactly what is reached through slots. -/
theorem mem_flatten_iff (h : tree.LaidOut) {entry : Entry} :
    entry ∈ tree.flatten ↔ tree.Reached entry := by
  have hprogress := h.whole_progress
  constructor
  · intro hmem
    obtain ⟨visit, hvisit, rfl⟩ := List.mem_map.mp hmem
    exact hprogress.reached visit (List.mem_append_left _ hvisit)
  · intro hreached
    induction hreached with
    | root => exact List.mem_map.mpr ⟨tree.firstVisit, h.mem_visits_iff.mpr (Or.inl rfl), rfl⟩
    | @slot id node slot _ hnode hslot ih =>
      obtain ⟨earlier, hearlier, heq⟩ := List.mem_map.mp ih
      have hbelow : ⟨slot.entry, some ⟨id, slot.property, slot.index⟩⟩ ∈ tree.below earlier.entry :=
        mem_below_iff.mpr ⟨id, node, slot, heq, hnode, hslot, rfl⟩
      exact List.mem_map.mpr ⟨_, h.mem_visits_iff.mpr (Or.inr ⟨earlier, hearlier, hbelow⟩), rfl⟩

theorem inArena_of_mem_flatten (h : tree.LaidOut) {entry : Entry} (hmem : entry ∈ tree.flatten) :
    tree.InArena entry := by
  obtain ⟨visit, hvisit, rfl⟩ := List.mem_map.mp hmem
  exact h.whole_progress.inArena h (List.mem_append_left _ hvisit)

end LinkedTree.LaidOut

end EditorBridge
