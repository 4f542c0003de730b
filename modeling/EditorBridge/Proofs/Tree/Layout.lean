import EditorBridge.Proofs.Tree.Holding
import Mathlib.Data.List.Nodup
import Mathlib.Data.List.Perm.Basic
/-!
Layouts of the arenas.  `LinkedTree.Laid` says that a list of entries and all that is beneath them take
up exactly the handles between two frontiers, nodes in opening order and references in closing order.
From it follows that everything between the frontiers is held once or is in the list (`Laid.perm`), and
that an entry lies outside of the handles of all that is beneath it (`Laid.contents_of_within`).
-/

set_option autoImplicit false

namespace EditorBridge

/-! ## Frontiers -/

/-- The numbers of nodes and references that precede a place in a document. -/
structure Frontier where
  nodes : Nat
  references : Nat

namespace Frontier

/-- The entries whose handles lie between two frontiers. -/
def between (a b : Frontier) : List Entry :=
  (List.range' a.nodes (b.nodes - a.nodes)).map (fun index => .node ⟨index⟩) ++
    (List.range' a.references (b.references - a.references)).map fun index => .reference ⟨index⟩

/-- Whether the handle of an entry lies between two frontiers. -/
def Within (a b : Frontier) : Entry → Prop
  | .node id => a.nodes ≤ id.index ∧ id.index < b.nodes
  | .reference id => a.references ≤ id.index ∧ id.index < b.references

/-- Whether an entry opens before the first frontier, or closes after the second one. -/
def Outside (a b : Frontier) : Entry → Prop
  | .node id => id.index < a.nodes
  | .reference id => b.references ≤ id.index

/-- One frontier is not after another. -/
def Precedes (a b : Frontier) : Prop := a.nodes ≤ b.nodes ∧ a.references ≤ b.references

theorem Precedes.refl (a : Frontier) : a.Precedes a := ⟨Nat.le_refl _, Nat.le_refl _⟩

theorem Precedes.trans {a b c : Frontier} (hab : a.Precedes b) (hbc : b.Precedes c) :
    a.Precedes c := ⟨Nat.le_trans hab.1 hbc.1, Nat.le_trans hab.2 hbc.2⟩

theorem Within.mono {a b c d : Frontier} {entry : Entry} (h : Within c d entry) (hac : a.Precedes c)
    (hdb : d.Precedes b) : Within a b entry := by
  cases entry with
  | node id => exact ⟨Nat.le_trans hac.1 h.1, Nat.lt_of_lt_of_le h.2 hdb.1⟩
  | reference id => exact ⟨Nat.le_trans hac.2 h.1, Nat.lt_of_lt_of_le h.2 hdb.2⟩

theorem Within.split {a c : Frontier} {entry : Entry} (h : Within a c entry) (b : Frontier) :
    Within a b entry ∨ Within b c entry := by
  cases entry with
  | node id =>
    simp only [Within] at h ⊢
    omega
  | reference id =>
    simp only [Within] at h ⊢
    omega

theorem not_within_self {a : Frontier} {entry : Entry} : ¬ Within a a entry := by
  cases entry with
  | node id => exact fun h => absurd h.2 (Nat.not_lt.mpr h.1)
  | reference id => exact fun h => absurd h.2 (Nat.not_lt.mpr h.1)

theorem Outside.not_within {a b : Frontier} {entry : Entry} (h : Outside a b entry) :
    ¬ Within a b entry := by
  cases entry with
  | node id => exact fun hw => absurd h (Nat.not_lt.mpr hw.1)
  | reference id => exact fun hw => absurd hw.2 (Nat.not_lt.mpr h)

theorem mem_between {a b : Frontier} {entry : Entry} : entry ∈ between a b ↔ Within a b entry := by
  cases entry with
  | node id =>
    simp only [between, Within, List.mem_append, List.mem_map, List.mem_range'_1, reduceCtorEq,
      and_false, exists_false, or_false, Entry.node.injEq]
    exact ⟨by rintro ⟨index, hindex, rfl⟩; dsimp only; omega, fun h => ⟨id.index, by omega, rfl⟩⟩
  | reference id =>
    simp only [between, Within, List.mem_append, List.mem_map, List.mem_range'_1, reduceCtorEq,
      and_false, exists_false, false_or, Entry.reference.injEq]
    exact ⟨by rintro ⟨index, hindex, rfl⟩; dsimp only; omega, fun h => ⟨id.index, by omega, rfl⟩⟩

theorem nodup_between (a b : Frontier) : (between a b).Nodup := by
  refine List.nodup_append'.mpr ⟨?_, ?_, ?_⟩
  · exact (List.nodup_range' 1 Nat.one_pos).map fun i j h => by simpa using h
  · exact (List.nodup_range' 1 Nat.one_pos).map fun i j h => by simpa using h
  · intro entry hnode hreference
    obtain ⟨i, _, rfl⟩ := List.mem_map.mp hnode
    obtain ⟨j, _, h⟩ := List.mem_map.mp hreference
    exact absurd h (by simp)

theorem range'_split {a b c : Nat} (hab : a ≤ b) (hbc : b ≤ c) :
    List.range' a (c - a) = List.range' a (b - a) ++ List.range' b (c - b) := by
  have h := List.range'_append_1 (s := a) (m := b - a) (n := c - b)
  rw [show a + (b - a) = b by omega, show b - a + (c - b) = c - a by omega] at h
  exact h.symm

theorem between_split {a b c : Frontier} (hab : a.Precedes b) (hbc : b.Precedes c) :
    (between a c).Perm (between a b ++ between b c) := by
  rw [List.perm_iff_count]
  intro entry
  simp only [between, range'_split hab.1 hbc.1, range'_split hab.2 hbc.2, List.map_append,
    List.count_append]
  omega

theorem between_node (a : Frontier) :
    between a ⟨a.nodes + 1, a.references⟩ = [.node ⟨a.nodes⟩] := by
  simp [between]

theorem between_reference (a : Frontier) :
    between a ⟨a.nodes, a.references + 1⟩ = [.reference ⟨a.references⟩] := by
  simp [between]

theorem precedes_node (a : Frontier) : a.Precedes ⟨a.nodes + 1, a.references⟩ :=
  ⟨Nat.le_succ _, Nat.le_refl _⟩

theorem precedes_reference (a : Frontier) : a.Precedes ⟨a.nodes, a.references + 1⟩ :=
  ⟨Nat.le_refl _, Nat.le_succ _⟩

theorem eq_node_of_within {a : Frontier} {entry : Entry}
    (h : Within a ⟨a.nodes + 1, a.references⟩ entry) : entry = .node ⟨a.nodes⟩ := by
  rw [← mem_between, between_node] at h
  exact List.mem_singleton.mp h

theorem eq_reference_of_within {a : Frontier} {entry : Entry}
    (h : Within a ⟨a.nodes, a.references + 1⟩ entry) : entry = .reference ⟨a.references⟩ := by
  rw [← mem_between, between_reference] at h
  exact List.mem_singleton.mp h

end Frontier

namespace LinkedTree

/-! ## Laid out entries -/

/-- The entries and all that is beneath them take up the handles from one frontier to another: a node
comes before what it holds, a reference after it. -/
inductive Laid (tree : LinkedTree) : List Entry → Frontier → Frontier → Prop
  | nil (a : Frontier) : Laid tree [] a a
  | node {held rest : List Entry} {a b c : Frontier} :
    tree.contents? (.node ⟨a.nodes⟩) = some held →
    Laid tree held ⟨a.nodes + 1, a.references⟩ b → Laid tree rest b c →
    Laid tree (.node ⟨a.nodes⟩ :: rest) a c
  | reference {held rest : List Entry} {a b c : Frontier} :
    tree.contents? (.reference ⟨b.references⟩) = some held →
    Laid tree held a b → Laid tree rest ⟨b.nodes, b.references + 1⟩ c →
    Laid tree (.reference ⟨b.references⟩ :: rest) a c

namespace Laid

variable {tree : LinkedTree} {entries : List Entry} {a b c : Frontier}

theorem precedes (h : tree.Laid entries a b) : a.Precedes b := by
  induction h with
  | nil a => exact .refl a
  | @node held rest a b c _ _ _ ihheld ihrest =>
    exact ⟨Nat.le_trans (Nat.le_of_succ_le ihheld.1) ihrest.1, Nat.le_trans ihheld.2 ihrest.2⟩
  | @reference held rest a b c _ _ _ ihheld ihrest =>
    exact ⟨Nat.le_trans ihheld.1 ihrest.1,
      Nat.le_trans ihheld.2 (Nat.le_of_succ_le ihrest.2)⟩

theorem append {more : List Entry} (h : tree.Laid entries a b) (hmore : tree.Laid more b c) :
    tree.Laid (entries ++ more) a c := by
  induction h with
  | nil a => exact hmore
  | node hcontents hheld _ _ ihrest => exact .node hcontents hheld (ihrest hmore)
  | reference hcontents hheld _ _ ihrest => exact .reference hcontents hheld (ihrest hmore)

theorem congr {other : LinkedTree} (h : tree.Laid entries a b)
    (heq : ∀ entry, tree.contents? entry = other.contents? entry) : other.Laid entries a b := by
  induction h with
  | nil a => exact .nil a
  | node hcontents _ _ ihheld ihrest => exact .node (heq _ ▸ hcontents) ihheld ihrest
  | reference hcontents _ _ ihheld ihrest => exact .reference (heq _ ▸ hcontents) ihheld ihrest

/-- Every entry between the frontiers holds entries that are laid out between two frontiers further
inside, and is itself outside of these. -/
theorem contents_of_within (h : tree.Laid entries a b) {entry : Entry} (hw : a.Within b entry) :
    ∃ held c d, tree.contents? entry = some held ∧ tree.Laid held c d ∧ c.Outside d entry ∧
      a.Precedes c ∧ d.Precedes b := by
  induction h with
  | nil a => exact absurd hw Frontier.not_within_self
  | @node held rest a b c hcontents hheld hrest ihheld ihrest =>
    have hab := Frontier.Precedes.trans (Frontier.precedes_node a) hheld.precedes
    rcases hw.split b with hw | hw
    · rcases hw.split ⟨a.nodes + 1, a.references⟩ with hw | hw
      · rw [Frontier.eq_node_of_within hw]
        exact ⟨held, _, b, hcontents, hheld, Nat.lt_succ_self _, Frontier.precedes_node a,
          hrest.precedes⟩
      · obtain ⟨inner, d, e, hinner, hlaid, houtside, had, heb⟩ := ihheld hw
        exact ⟨inner, d, e, hinner, hlaid, houtside, (Frontier.precedes_node a).trans had,
          heb.trans hrest.precedes⟩
    · obtain ⟨inner, d, e, hinner, hlaid, houtside, hbd, hec⟩ := ihrest hw
      exact ⟨inner, d, e, hinner, hlaid, houtside, hab.trans hbd, hec⟩
  | @reference held rest a b c hcontents hheld hrest ihheld ihrest =>
    have hbc := Frontier.Precedes.trans (Frontier.precedes_reference b) hrest.precedes
    rcases hw.split b with hw | hw
    · obtain ⟨inner, d, e, hinner, hlaid, houtside, had, heb⟩ := ihheld hw
      exact ⟨inner, d, e, hinner, hlaid, houtside, had, heb.trans hbc⟩
    · rcases hw.split ⟨b.nodes, b.references + 1⟩ with hw | hw
      · rw [Frontier.eq_reference_of_within hw]
        exact ⟨held, a, b, hcontents, hheld, Nat.le_refl _, .refl a, hbc⟩
      · obtain ⟨inner, d, e, hinner, hlaid, houtside, hbd, hec⟩ := ihrest hw
        exact ⟨inner, d, e, hinner, hlaid, houtside,
          hheld.precedes.trans ((Frontier.precedes_reference b).trans hbd), hec⟩

theorem perm_of_perms {owner held rest all heldAll inner heldInner outer heldOuter : List Entry}
    (hall : all.Perm (owner ++ (inner ++ outer)))
    (hheldAll : heldAll.Perm (held ++ (heldInner ++ heldOuter)))
    (hinner : (held ++ heldInner).Perm inner) (houter : (rest ++ heldOuter).Perm outer) :
    (owner ++ rest ++ heldAll).Perm all := by
  rw [List.perm_iff_count] at *
  intro entry
  have h₁ := hall entry
  have h₂ := hheldAll entry
  have h₃ := hinner entry
  have h₄ := houter entry
  simp only [List.count_append] at *
  omega

/-- The list and all that is held between the frontiers are together everything between them. -/
theorem perm (h : tree.Laid entries a b) :
    (entries ++ (a.between b).flatMap tree.contents).Perm (a.between b) := by
  induction h with
  | nil a => simp [Frontier.between]
  | @node held rest a b c hcontents hheld hrest ihheld ihrest =>
    have hsplit := (Frontier.between_split (Frontier.precedes_node a)
      (hheld.precedes.trans hrest.precedes)).trans
      ((Frontier.between_split hheld.precedes hrest.precedes).append_left _)
    rw [Frontier.between_node] at hsplit
    have hflat := hsplit.flatMap_right tree.contents
    rw [List.flatMap_append, List.flatMap_append, List.flatMap_singleton,
      contents_eq_of_contents? hcontents] at hflat
    rw [← List.singleton_append]
    exact perm_of_perms hsplit hflat ihheld ihrest
  | @reference held rest a b c hcontents hheld hrest ihheld ihrest =>
    have hsplit := (Frontier.between_split hheld.precedes
      ((Frontier.precedes_reference b).trans hrest.precedes)).trans
      ((Frontier.between_split (Frontier.precedes_reference b) hrest.precedes).append_left _)
    rw [Frontier.between_reference] at hsplit
    have hflat := hsplit.flatMap_right tree.contents
    rw [List.flatMap_append, List.flatMap_append, List.flatMap_singleton,
      contents_eq_of_contents? hcontents] at hflat
    rw [← List.singleton_append]
    exact perm_of_perms (hsplit.trans (List.perm_append_comm_assoc _ _ _))
      (hflat.trans (List.perm_append_comm_assoc _ _ _)) ihheld ihrest

end Laid

end LinkedTree

end EditorBridge
