import EditorBridge.Proofs.Tree.Layout
import Mathlib.Data.List.Lattice
import Mathlib.Data.List.Pairwise
import Mathlib.Logic.Relation
/-!
The arenas as an ownership tree.  In a tree that is laid out from its root, the root is held nowhere and
every other entry exactly once, what is held is inside its arena, and what is beneath a node has a
greater handle (`LaidOut.handle_lt`).
-/

set_option autoImplicit false

namespace EditorBridge

namespace LinkedTree

/-- The frontier after all entries. -/
def frontier (tree : LinkedTree) : Frontier := ⟨tree.nodes.size, tree.references.size⟩

def entries (tree : LinkedTree) : List Entry := Frontier.between ⟨0, 0⟩ tree.frontier

/-- All entries that the values of all nodes and references hold, each as often as it occurs. -/
def held (tree : LinkedTree) : List Entry := tree.entries.flatMap tree.contents

/-- An entry is held anywhere beneath another one. -/
def Beneath (tree : LinkedTree) (owner entry : Entry) : Prop :=
  Relation.TransGen tree.Holds owner entry

/-- The root and all that is beneath it take up all handles of the arenas. -/
def LaidOut (tree : LinkedTree) : Prop := tree.Laid [.node tree.root] ⟨0, 0⟩ tree.frontier

theorem frontier_eq_of_unlinked_eq {a b : LinkedTree} (h : a.unlinked = b.unlinked) :
    a.frontier = b.frontier := by
  have hfrontier : a.unlinked.frontier = b.unlinked.frontier := by rw [h]
  simpa [unlinked, frontier] using hfrontier

theorem within_frontier {tree : LinkedTree} {entry : Entry} :
    Frontier.Within ⟨0, 0⟩ tree.frontier entry ↔ tree.InArena entry := by
  cases entry <;> simp [Frontier.Within, InArena, frontier]

theorem inArena_iff_of_unlinked_eq {a b : LinkedTree} (h : a.unlinked = b.unlinked)
    {entry : Entry} : a.InArena entry ↔ b.InArena entry := by
  rw [← within_frontier, frontier_eq_of_unlinked_eq h, within_frontier]

theorem mem_entries {tree : LinkedTree} {entry : Entry} :
    entry ∈ tree.entries ↔ tree.InArena entry := by
  rw [entries, Frontier.mem_between, within_frontier]

theorem nodup_entries (tree : LinkedTree) : tree.entries.Nodup := Frontier.nodup_between _ _

theorem length_entries (tree : LinkedTree) : tree.entries.length = tree.entryCount := by
  simp [entries, Frontier.between, frontier, entryCount]

theorem mem_held {tree : LinkedTree} {entry : Entry} :
    entry ∈ tree.held ↔ ∃ owner, tree.Holds owner entry := by
  rw [held, List.mem_flatMap]
  constructor
  · rintro ⟨owner, _, h⟩
    exact ⟨owner, h⟩
  · rintro ⟨owner, h⟩
    exact ⟨owner, mem_entries.mpr (inArena_of_holds h), h⟩

/-! ## Beneath an entry -/

namespace Laid

variable {tree : LinkedTree} {entries : List Entry} {a b : Frontier}

theorem within (h : tree.Laid entries a b) {entry : Entry} (hmem : entry ∈ entries) :
    a.Within b entry :=
  Frontier.mem_between.mp (h.perm.mem_iff.mp (List.mem_append_left _ hmem))

theorem within_of_holds (h : tree.Laid entries a b) {owner entry : Entry}
    (howner : a.Within b owner) (hholds : tree.Holds owner entry) : a.Within b entry := by
  obtain ⟨held, c, d, hcontents, hlaid, _, hac, hdb⟩ := h.contents_of_within howner
  rw [Holds, contents_eq_of_contents? hcontents] at hholds
  exact (hlaid.within hholds).mono hac hdb

/-- What is beneath an entry lies between frontiers that the entry itself is outside of. -/
theorem within_of_beneath (h : tree.Laid entries a b) {owner : Entry} (howner : a.Within b owner) :
    ∃ c d : Frontier, c.Outside d owner ∧
      ∀ entry, tree.Beneath owner entry → c.Within d entry := by
  obtain ⟨held, c, d, hcontents, hlaid, houtside, _, _⟩ := h.contents_of_within howner
  refine ⟨c, d, houtside, fun entry hbeneath => ?_⟩
  induction hbeneath with
  | single hholds =>
    rw [Holds, contents_eq_of_contents? hcontents] at hholds
    exact hlaid.within hholds
  | tail _ hholds ih => exact hlaid.within_of_holds ih hholds

end Laid

/-! ## Trees that are laid out -/

namespace LaidOut

variable {tree : LinkedTree}

theorem perm (h : tree.LaidOut) : (.node tree.root :: tree.held).Perm tree.entries := Laid.perm h

theorem nodup (h : tree.LaidOut) : (.node tree.root :: tree.held).Nodup :=
  h.perm.nodup_iff.mpr tree.nodup_entries

theorem root_inArena (h : tree.LaidOut) : tree.InArena (.node tree.root) :=
  mem_entries.mp (h.perm.mem_iff.mp List.mem_cons_self)

theorem root_not_held (h : tree.LaidOut) : .node tree.root ∉ tree.held :=
  (List.nodup_cons.mp h.nodup).1

theorem inArena_of_mem_held (h : tree.LaidOut) {entry : Entry} (hmem : entry ∈ tree.held) :
    tree.InArena entry :=
  mem_entries.mp (h.perm.mem_iff.mp (List.mem_cons_of_mem _ hmem))

theorem inArena_of_holds (h : tree.LaidOut) {owner entry : Entry} (hholds : tree.Holds owner entry) :
    tree.InArena entry :=
  h.inArena_of_mem_held (mem_held.mpr ⟨owner, hholds⟩)

/-- Every entry but the root is held exactly once. -/
theorem count_held (h : tree.LaidOut) {entry : Entry} (harena : tree.InArena entry)
    (hroot : entry ≠ .node tree.root) : tree.held.count entry = 1 := by
  have hmem := h.perm.mem_iff.mpr (mem_entries.mpr harena)
  rcases List.mem_cons.mp hmem with heq | hheld
  · exact absurd heq hroot
  · exact List.count_eq_one_of_mem (List.nodup_cons.mp h.nodup).2 hheld

/-- An entry is held by one owner only. -/
theorem owner_unique (h : tree.LaidOut) {owner other entry : Entry}
    (howner : tree.Holds owner entry) (hother : tree.Holds other entry) : owner = other := by
  by_contra hne
  have hpairs := (List.nodup_flatMap.mp (List.nodup_cons.mp h.nodup).2).2
  have hsymm : Std.Symm (Function.onFun List.Disjoint tree.contents) :=
    ⟨fun _ _ hd => List.Disjoint.symm hd⟩
  have hdisjoint := hpairs.forall (mem_entries.mpr (LinkedTree.inArena_of_holds howner))
    (mem_entries.mpr (LinkedTree.inArena_of_holds hother)) hne
  exact hdisjoint howner hother

/-- No entry holds another one twice. -/
theorem nodup_contents (h : tree.LaidOut) (owner : Entry) : (tree.contents owner).Nodup := by
  by_cases harena : tree.InArena owner
  · exact (List.nodup_flatMap.mp (List.nodup_cons.mp h.nodup).2).1 owner (mem_entries.mpr harena)
  · have hempty : tree.contents owner = [] :=
      List.eq_nil_iff_forall_not_mem.mpr fun entry hmem => harena (LinkedTree.inArena_of_holds hmem)
    rw [hempty]
    exact List.nodup_nil

theorem within_of_beneath (h : tree.LaidOut) {owner entry : Entry}
    (hbeneath : tree.Beneath owner entry) :
    ∃ c d : Frontier, c.Outside d owner ∧ c.Within d entry := by
  obtain ⟨_, hholds, _⟩ := Relation.TransGen.head'_iff.mp hbeneath
  obtain ⟨c, d, houtside, hwithin⟩ :=
    Laid.within_of_beneath h (within_frontier.mpr (LinkedTree.inArena_of_holds hholds))
  exact ⟨c, d, houtside, hwithin entry hbeneath⟩

/-- What is held anywhere beneath a node has a greater handle. -/
theorem handle_lt (h : tree.LaidOut) {owner id : NodeId}
    (hbeneath : tree.Beneath (.node owner) (.node id)) : owner.index < id.index := by
  obtain ⟨c, d, houtside, hwithin⟩ := h.within_of_beneath hbeneath
  exact Nat.lt_of_lt_of_le houtside hwithin.1

/-- No entry is beneath itself. -/
theorem acyclic (h : tree.LaidOut) (entry : Entry) : ¬ tree.Beneath entry entry := by
  intro hbeneath
  obtain ⟨c, d, houtside, hwithin⟩ := h.within_of_beneath hbeneath
  exact houtside.not_within hwithin

theorem of_unlinked_eq {other : LinkedTree} (h : tree.LaidOut)
    (heq : tree.unlinked = other.unlinked) : other.LaidOut := by
  have hlaid := Laid.congr h (contents?_eq_of_unlinked_eq heq)
  rw [root_eq_of_unlinked_eq heq, frontier_eq_of_unlinked_eq heq] at hlaid
  exact hlaid

end LaidOut

end LinkedTree

end EditorBridge
