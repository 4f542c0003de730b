import EditorBridge.Proofs.Tree.ContainmentTree
import EditorBridge.Proofs.Tree.Counting
import EditorBridge.Proofs.Tree.PreOrder
import Mathlib.Algebra.GroupWithZero.Nat
/-!
Counts of the walk and counts of the arenas.  The walk meets the root and the nodes that have a container
(`LinkedTree.nodes_flatten_perm`), and no reference that it does not meet has a target.  So what is counted
on the walk can be counted in the arenas, by what linking has left there.
-/

set_option autoImplicit false

namespace EditorBridge

/-! ## Counting findings -/

namespace Statistics

/-- How often a kind has been counted. -/
def kindCount (counts : Statistics) (kind : String) : Nat := (Json.lookup counts.kinds kind).getD 0

/-- What holds of counts at any moment of counting. -/
structure Balanced (counts : Statistics) : Prop where
  references_sum : counts.resolved + counts.unresolved = counts.references
  kinds_sum : (counts.kinds.map Prod.snd).sum = counts.nodes
  /-- No kind is listed twice. -/
  kinds_increase : counts.kinds.Pairwise fun a b => a.1 < b.1

theorem mem_countKind {kind : String} {kinds : List (String × Nat)} {entry : String × Nat}
    (h : entry ∈ countKind kind kinds) : entry.1 = kind ∨ ∃ other ∈ kinds, entry.1 = other.1 := by
  induction kinds with
  | nil =>
    left
    rw [List.mem_singleton.mp h]
  | cons first rest ih =>
    obtain ⟨other, count⟩ := first
    rw [countKind] at h
    split at h
    · rename_i hsame
      rcases List.mem_cons.mp h with rfl | hmem
      · exact Or.inl hsame.symm
      · exact Or.inr ⟨entry, List.mem_cons_of_mem _ hmem, rfl⟩
    · split at h
      · rcases List.mem_cons.mp h with rfl | hmem
        · exact Or.inl rfl
        · exact Or.inr ⟨entry, hmem, rfl⟩
      · rcases List.mem_cons.mp h with rfl | hmem
        · exact Or.inr ⟨_, List.mem_cons_self, rfl⟩
        · rcases ih hmem with hkind | ⟨held, hheld, hname⟩
          · exact Or.inl hkind
          · exact Or.inr ⟨held, List.mem_cons_of_mem _ hheld, hname⟩

theorem pairwise_countKind (kind : String) {kinds : List (String × Nat)}
    (h : kinds.Pairwise fun a b => a.1 < b.1) :
    (countKind kind kinds).Pairwise fun a b => a.1 < b.1 := by
  induction kinds with
  | nil => exact List.pairwise_singleton _ _
  | cons first rest ih =>
    obtain ⟨other, count⟩ := first
    obtain ⟨hfirst, hrest⟩ := List.pairwise_cons.mp h
    rw [countKind]
    split
    · exact List.pairwise_cons.mpr ⟨hfirst, hrest⟩
    · rename_i hne
      split
      · rename_i hlt
        refine List.pairwise_cons.mpr ⟨fun entry hmem => ?_, h⟩
        rcases List.mem_cons.mp hmem with rfl | hmem
        · exact hlt
        · exact String.lt_trans hlt (hfirst entry hmem)
      · rename_i hlt
        have hother : other < kind := Std.lt_of_le_of_ne (String.not_lt.mp hlt) (Ne.symm hne)
        refine List.pairwise_cons.mpr ⟨fun entry hmem => ?_, ih hrest⟩
        rcases mem_countKind hmem with hkind | ⟨held, hheld, hname⟩
        · rw [hkind]
          exact hother
        · rw [hname]
          exact hfirst held hheld

/-- Counting a kind adds one to its count and leaves the others alone. -/
theorem lookup_countKind (kind other : String) {kinds : List (String × Nat)}
    (h : kinds.Pairwise fun a b => a.1 < b.1) :
    (Json.lookup (countKind kind kinds) other).getD 0 =
      (Json.lookup kinds other).getD 0 + (decide (kind = other)).toNat := by
  have habsent : ∀ {rest : List (String × Nat)}, (∀ entry ∈ rest, kind < entry.1) →
      Json.lookup rest kind = none := by
    intro rest hgreater
    apply Json.lookup_eq_none
    intro entry hmem heq
    exact absurd (heq ▸ hgreater entry hmem) (String.lt_irrefl kind)
  induction kinds with
  | nil =>
    rw [countKind, Json.lookup_cons]
    by_cases hsame : kind = other <;> simp [hsame, Json.lookup]
  | cons first rest ih =>
    obtain ⟨name, count⟩ := first
    obtain ⟨hfirst, hrest⟩ := List.pairwise_cons.mp h
    rw [countKind]
    split
    · rename_i hname
      rw [Json.lookup_cons, Json.lookup_cons]
      by_cases hsame : kind = other <;> simp [← hname, hsame]
    · rename_i hne
      split
      · rename_i hlt
        have hnone : Json.lookup ((name, count) :: rest) kind = none := by
          apply habsent
          intro entry hmem
          rcases List.mem_cons.mp hmem with rfl | hmem
          · exact hlt
          · exact String.lt_trans hlt (hfirst entry hmem)
        rw [Json.lookup_cons]
        by_cases hsame : kind = other
        · rw [if_pos hsame, ← hsame, hnone]
          simp
        · simp [hsame]
      · rw [Json.lookup_cons, Json.lookup_cons]
        by_cases hname : name = other
        · have hother : kind ≠ other := fun heq => hne (heq.trans hname.symm)
          simp [hname, hother]
        · rw [if_neg hname, if_neg hname]
          exact ih hrest

theorem sum_countKind (kind : String) (kinds : List (String × Nat)) :
    ((countKind kind kinds).map Prod.snd).sum = (kinds.map Prod.snd).sum + 1 := by
  induction kinds with
  | nil => rfl
  | cons first rest ih =>
    obtain ⟨other, count⟩ := first
    rw [countKind]
    split
    · simp only [List.map_cons, List.sum_cons]
      omega
    · split
      · simp only [List.map_cons, List.sum_cons]
        omega
      · simp only [List.map_cons, List.sum_cons, ih]
        omega

namespace Balanced

variable {counts : Statistics}

theorem empty : ({} : Statistics).Balanced := ⟨rfl, rfl, List.Pairwise.nil⟩

theorem add (h : counts.Balanced) (finding : Finding) : (counts.add finding).Balanced := by
  have hreferences := h.references_sum
  have hkinds := h.kinds_sum
  rcases finding with kind | _ | _
  · refine ⟨hreferences, ?_, pairwise_countKind kind h.kinds_increase⟩
    rw [Statistics.add, sum_countKind, hkinds]
  · refine ⟨?_, hkinds, h.kinds_increase⟩
    simp only [Statistics.add]
    omega
  · refine ⟨?_, hkinds, h.kinds_increase⟩
    simp only [Statistics.add]
    omega

theorem foldl_add (h : counts.Balanced) (findings : List Finding) :
    (findings.foldl Statistics.add counts).Balanced := by
  induction findings generalizing counts with
  | nil => exact h
  | cons finding rest ih => exact ih (h.add finding)

end Balanced

/-- A number that grows by one for some findings counts these. -/
theorem foldl_add_eq (number : Statistics → Nat) (p : Finding → Bool)
    (hadd : ∀ counts finding, counts.Balanced →
      number (counts.add finding) = number counts + (p finding).toNat)
    (findings : List Finding) {counts : Statistics} (h : counts.Balanced) :
    number (findings.foldl add counts) = number counts + findings.countP p := by
  induction findings generalizing counts with
  | nil => rfl
  | cons finding rest ih =>
    have hrest := ih (h.add finding)
    have hfirst := hadd counts finding h
    rw [List.foldl_cons, hrest, hfirst, List.countP_cons]
    cases p finding <;> simp [Nat.add_comm, Nat.add_left_comm]

end Statistics

namespace Finding

def isNode : Finding → Bool
  | node _ => true
  | reference _ => false

def isOfKind (kind : String) : Finding → Bool
  | node found => found = kind
  | reference _ => false

/-- Whether a finding is a reference that leads to a node. -/
def isResolved : Finding → Bool
  | node _ => false
  | reference resolved => resolved

end Finding

/-! ## What the walk meets -/

namespace LinkedTree

variable {tree : LinkedTree}

def nodeOf? (tree : LinkedTree) : Entry → Option Node
  | .node id => tree.node? id
  | .reference _ => none

def referenceOf? (tree : LinkedTree) : Entry → Option Reference
  | .node _ => none
  | .reference id => tree.reference? id

/-- The root and all nodes that have a container. -/
def containedNodes (tree : LinkedTree) : List Node :=
  (tree.node? tree.root).toList ++ tree.nodes.toList.filter fun node => node.container.isSome

/-- Everything in the sequence of some entries is one of them or in a slot of a node in the sequence. -/
theorem PreOrder.perm_below {entries sequence : List Entry} (h : tree.PreOrder entries sequence) :
    sequence.Perm
      (entries ++ sequence.flatMap fun entry => (tree.below entry).map Visit.entry) := by
  rw [List.perm_iff_count]
  intro entry
  induction h with
  | nil => rfl
  | @reference id _ _ _ ih =>
    have hbelow : (tree.below (.reference id)).map Visit.entry = [] := rfl
    simp only [List.count_append] at ih
    simp only [List.cons_append, List.count_cons, List.flatMap_cons, List.count_append, hbelow,
      List.count_nil]
    omega
  | @node id node rest own later hnode _ _ ihown ihlater =>
    have hbelow : (tree.below (.node id)).map Visit.entry = node.slots.map Slot.entry := by
      simp [LinkedTree.below, hnode, Function.comp_def]
    simp only [List.count_append] at ihown ihlater
    simp only [List.cons_append, List.count_cons, List.flatMap_cons, List.flatMap_append,
      List.count_append, hbelow]
    omega

/-- What holds of no entry but those on the walk holds as often in the arenas. -/
theorem LaidOut.filter_flatten_perm (h : tree.LaidOut) {p : Entry → Bool}
    (hp : ∀ entry, p entry = true → entry ∈ tree.flatten) :
    (tree.flatten.filter p).Perm (tree.entries.filter p) := by
  have hwalk : (tree.flatten.filter p).Nodup := h.nodup_visits.filter p
  rw [List.perm_ext_iff_of_nodup hwalk (tree.nodup_entries.filter p)]
  intro entry
  simp only [List.mem_filter]
  constructor
  · rintro ⟨hmem, hentry⟩
    exact ⟨mem_entries.mpr (h.inArena_of_mem_flatten hmem), hentry⟩
  · rintro ⟨_, hentry⟩
    exact ⟨hp entry hentry, hentry⟩

theorem filterMap_range_getElem? {α : Type} (items : List α) (count : Nat) :
    (List.range count).filterMap (fun index => items[index]?) = items.take count := by
  induction count with
  | zero => rfl
  | succ count ih =>
    rw [List.range_succ, List.filterMap_append, ih, List.take_add_one, List.filterMap_cons,
      List.filterMap_nil]
    cases items[count]? <;> rfl

/-- The nodes of all entries are those of the arena. -/
theorem filterMap_nodeOf?_entries (tree : LinkedTree) :
    tree.entries.filterMap tree.nodeOf? = tree.nodes.toList := by
  have hnodes := filterMap_range_getElem? tree.nodes.toList tree.nodes.size
  rw [List.take_of_length_le (by simp)] at hnodes
  rw [entries, Frontier.between, List.filterMap_append, List.filterMap_map, List.filterMap_map]
  simpa [Function.comp_def, nodeOf?, node?, frontier, List.range_eq_range'] using hnodes

theorem filterMap_referenceOf?_entries (tree : LinkedTree) :
    tree.entries.filterMap tree.referenceOf? = tree.references.toList := by
  have hreferences := filterMap_range_getElem? tree.references.toList tree.references.size
  rw [List.take_of_length_le (by simp)] at hreferences
  rw [entries, Frontier.between, List.filterMap_append, List.filterMap_map, List.filterMap_map]
  simpa [Function.comp_def, referenceOf?, reference?, frontier, List.range_eq_range'] using hreferences

theorem isResolved_finding (tree : LinkedTree) (entry : Entry) :
    (tree.finding entry).isResolved =
      ((tree.referenceOf? entry).map Reference.isResolved).getD false := by
  cases entry <;> rfl

theorem isOfKind_finding {entry : Entry} (harena : tree.InArena entry) (kind : String) :
    (tree.finding entry).isOfKind kind =
      ((tree.nodeOf? entry).map fun node => decide (node.kindName = kind)).getD false := by
  cases entry with
  | reference id => rfl
  | node id =>
    obtain ⟨node, hnode⟩ := node?_of_inArena harena
    simp [finding, Finding.isOfKind, nodeOf?, hnode]

theorem isNode_finding {entry : Entry} (harena : tree.InArena entry) :
    (tree.finding entry).isNode = ((tree.nodeOf? entry).map fun _ => true).getD false := by
  cases entry with
  | reference id => rfl
  | node id =>
    obtain ⟨node, hnode⟩ := node?_of_inArena harena
    simp [finding, Finding.isNode, nodeOf?, hnode]

/-! ## Containers and targets -/

/-- The walk meets the root and the nodes that have a container. -/
theorem LaidOut.mem_flatten_link_iff (h : tree.LaidOut) (hfresh : tree.unlinked = tree) (id : NodeId) :
    .node id ∈ tree.link.flatten ↔ id = tree.link.root ∨ (tree.link.container? id).isSome := by
  rw [flatten_link, root_eq_of_unlinked_eq tree.unlinked_link]
  constructor
  · intro hmem
    obtain ⟨⟨entry, held⟩, hvisit, rfl⟩ := List.mem_map.mp hmem
    rcases h.mem_visits_iff.mp hvisit with hfirst | ⟨earlier, -, hbelow⟩
    · exact Or.inl (Entry.node.inj (congrArg Visit.entry hfirst))
    · obtain ⟨owner, node, slot, -, -, -, heq⟩ := mem_below_iff.mp hbelow
      obtain rfl : held = some ⟨owner, slot.property, slot.index⟩ := congrArg Visit.container heq
      rw [(container?_link_iff h hfresh).mpr hvisit]
      exact Or.inr rfl
  · rintro (rfl | hcontainer)
    · exact List.mem_map_of_mem (h.mem_visits_iff.mpr (Or.inl rfl))
    · obtain ⟨container, hcontainer⟩ := Option.isSome_iff_exists.mp hcontainer
      exact List.mem_map_of_mem ((container?_link_iff h hfresh).mp hcontainer)

def isContained (tree : LinkedTree) (entry : Entry) : Bool :=
  ((tree.nodeOf? entry).bind Node.container).isSome

theorem LaidOut.nodes_flatten_perm_entries (h : tree.LaidOut) (hfresh : tree.unlinked = tree) :
    (tree.link.flatten.filter Entry.isNode).Perm
      (.node tree.link.root :: tree.link.entries.filter tree.link.isContained) := by
  have hlinked := h.of_unlinked_eq tree.unlinked_link.symm
  have hmem := h.mem_flatten_link_iff hfresh
  have hroot := container?_link_root h hfresh
  rw [← root_eq_of_unlinked_eq tree.unlinked_link] at hroot
  generalize tree.link = linked at hlinked hmem hroot ⊢
  have houtside : .node linked.root ∉ linked.entries.filter linked.isContained := by
    intro hcontained
    have hsome : (linked.container? linked.root).isSome = true := (List.mem_filter.mp hcontained).2
    rw [hroot] at hsome
    exact absurd hsome Bool.false_ne_true
  have hwalk : (linked.flatten.filter Entry.isNode).Nodup := hlinked.nodup_visits.filter _
  have harena := List.nodup_cons.mpr ⟨houtside, linked.nodup_entries.filter _⟩
  rw [List.perm_ext_iff_of_nodup hwalk harena]
  intro entry
  rw [List.mem_filter, List.mem_cons, List.mem_filter]
  cases entry with
  | reference id => simp [Entry.isNode, isContained, nodeOf?]
  | node id =>
    have hentries : (linked.container? id).isSome → .node id ∈ linked.entries := fun hsome =>
      mem_entries.mpr (hlinked.inArena_of_mem_flatten ((hmem id).mpr (Or.inr hsome)))
    rw [hmem id, Entry.node.injEq]
    constructor
    · rintro ⟨hid | hsome, -⟩
      · exact Or.inl hid
      · exact Or.inr ⟨hentries hsome, hsome⟩
    · rintro (hid | ⟨-, hsome⟩)
      · exact ⟨Or.inl hid, rfl⟩
      · exact ⟨Or.inr hsome, rfl⟩

/-- The nodes on the walk are those of `containedNodes`, in some order. -/
theorem LaidOut.nodes_flatten_perm (h : tree.LaidOut) (hfresh : tree.unlinked = tree) :
    (tree.link.flatten.filterMap tree.link.nodeOf?).Perm tree.link.containedNodes := by
  have hperm := (h.nodes_flatten_perm_entries hfresh).filterMap tree.link.nodeOf?
  generalize tree.link = linked at hperm ⊢
  have hwalk : (linked.flatten.filter Entry.isNode).filterMap linked.nodeOf? =
      linked.flatten.filterMap linked.nodeOf? := by
    rw [List.filterMap_filter]
    congr 1
    funext entry
    cases entry <;> rfl
  have harena : (linked.entries.filter linked.isContained).filterMap linked.nodeOf? =
      linked.nodes.toList.filter fun node => node.container.isSome := by
    rw [← filterMap_nodeOf?_entries, List.filter_filterMap, List.filterMap_filter]
    congr 1
    funext entry
    cases hnode : linked.nodeOf? entry <;> simp [isContained, hnode, Option.filter]
  have hfirst : [Entry.node linked.root].filterMap linked.nodeOf? =
      (linked.node? linked.root).toList := by
    cases hnode : linked.node? linked.root <;> simp [nodeOf?, hnode]
  rwa [hwalk, ← List.singleton_append, List.filterMap_append, harena, hfirst] at hperm

/-- A reference that has a target is on the walk. -/
theorem mem_flatten_link_of_resolved (hfresh : tree.unlinked = tree) {entry : Entry}
    (h : (tree.link.finding entry).isResolved = true) : entry ∈ tree.link.flatten := by
  rw [isResolved_finding] at h
  cases entry with
  | node id => exact absurd h Bool.false_ne_true
  | reference id =>
    by_contra hmem
    rw [flatten_link] at hmem
    cases hreference : tree.link.reference? id with
    | none => simp [referenceOf?, hreference] at h
    | some reference =>
      have hnone := LaidOut.target_of_not_visited hfresh hmem hreference
      simp [referenceOf?, hreference, Reference.isResolved, hnone] at h

/-! ## Statistics -/

/-- A number of the statistics counts findings on the walk. -/
theorem statistics_count (number : Statistics → Nat) (p : Finding → Bool)
    (hzero : number {} = 0)
    (hadd : ∀ counts finding, counts.Balanced →
      number (counts.add finding) = number counts + (p finding).toNat) (tree : LinkedTree) :
    number tree.statistics = tree.flatten.countP fun entry => p (tree.finding entry) := by
  have hfold := Statistics.foldl_add_eq number p hadd (tree.flatten.map tree.finding)
    Statistics.Balanced.empty
  rw [hzero, Nat.zero_add, List.countP_map] at hfold
  rw [statistics_eq_foldl_add, hfold]
  rfl

theorem statistics_balanced (tree : LinkedTree) : tree.statistics.Balanced := by
  rw [statistics_eq_foldl_add]
  exact Statistics.Balanced.empty.foldl_add _

/-- The counts of a linked tree, read off its arenas. -/
structure Census (tree : LinkedTree) (counts : Statistics) : Prop extends counts.Balanced where
  nodes : counts.nodes = 1 + tree.nodes.toList.countP fun node => node.container.isSome
  /-- No reference that has a target is left out, wherever it is held. -/
  resolved : counts.resolved =
    tree.references.toList.countP fun reference => reference.target.isSome
  references : counts.references =
    (tree.containedNodes.flatMap Node.slots).countP fun slot => !slot.entry.isNode
  kind : ∀ kind, counts.kindCount kind =
    tree.containedNodes.countP fun node => node.kindName = kind

section Linked

variable (h : tree.LaidOut) (hfresh : tree.unlinked = tree)
include h

theorem LaidOut.inArena_flatten_link {entry : Entry} (hmem : entry ∈ tree.link.flatten) :
    tree.link.InArena entry :=
  (h.of_unlinked_eq tree.unlinked_link.symm).inArena_of_mem_flatten hmem

theorem LaidOut.countP_containedNodes :
    tree.link.containedNodes.countP (fun _ => true) =
      1 + tree.link.nodes.toList.countP fun node => node.container.isSome := by
  have hroot := (h.of_unlinked_eq tree.unlinked_link.symm).root_inArena
  obtain ⟨node, hnode⟩ := node?_of_inArena hroot
  rw [containedNodes, hnode, List.countP_true, List.length_append, ← List.countP_eq_length_filter]
  rfl

include hfresh

/-- What is found of nodes on the walk is found of the nodes in `containedNodes`. -/
theorem LaidOut.countP_nodes {p : Finding → Bool} {q : Node → Bool}
    (hp : ∀ entry, tree.link.InArena entry → p (tree.link.finding entry) =
      ((tree.link.nodeOf? entry).map q).getD false) :
    tree.link.flatten.countP (fun entry => p (tree.link.finding entry)) =
      tree.link.containedNodes.countP q := by
  have hperm := (h.nodes_flatten_perm hfresh).countP_eq q
  rw [← hperm, List.countP_filterMap]
  apply List.countP_congr
  intro entry hmem
  rw [hp entry (h.inArena_flatten_link hmem)]

/-- No reference with a target is missed by the walk. -/
theorem LaidOut.countP_resolved :
    tree.link.flatten.countP (fun entry => (tree.link.finding entry).isResolved) =
      tree.link.references.toList.countP fun reference => reference.target.isSome := by
  have hlinked := h.of_unlinked_eq tree.unlinked_link.symm
  have hperm := hlinked.filter_flatten_perm fun entry => mem_flatten_link_of_resolved hfresh
  rw [List.countP_eq_length_filter, hperm.length_eq, ← List.countP_eq_length_filter,
    ← filterMap_referenceOf?_entries, List.countP_filterMap]
  simp only [isResolved_finding]
  rfl

/-- The references on the walk are those in the slots of the nodes in `containedNodes`. -/
theorem LaidOut.countP_references :
    tree.link.flatten.countP (fun entry => !entry.isNode) =
      (tree.link.containedNodes.flatMap Node.slots).countP fun slot => !slot.entry.isNode := by
  have hlinked := h.of_unlinked_eq tree.unlinked_link.symm
  have hslots := (h.nodes_flatten_perm hfresh).flatMap_right Node.slots
  have hbelow := hlinked.preOrder_flatten.perm_below
  generalize tree.link = linked at hslots hbelow ⊢
  have hheld : (linked.flatten.flatMap fun entry => (linked.below entry).map Visit.entry) =
      ((linked.flatten.filterMap linked.nodeOf?).flatMap Node.slots).map Slot.entry := by
    induction linked.flatten with
    | nil => rfl
    | cons entry rest ih =>
      rw [List.flatMap_cons, ih]
      cases entry with
      | reference id => rfl
      | node id =>
        cases hnode : linked.node? id <;>
          simp [nodeOf?, LinkedTree.below, hnode, Function.comp_def]
  rw [hbelow.countP_eq, hheld, List.singleton_append, List.countP_cons_of_neg (by simp [Entry.isNode]),
    List.countP_map, ← hslots.countP_eq]
  rfl

end Linked

/-- **The statistics of a linked tree agree with its arenas**: with the containers and the targets that
linking has left there. -/
theorem statistics_exact (conventions : Conventions) (fields : List (String × Json)) :
    ∃ tree, ofJson conventions (.object fields) = .ok tree ∧ tree.Census tree.statistics := by
  have hbuilt := conventions.build_laidOut fields
  have hfresh := conventions.unlinked_build fields
  refine ⟨_, ofJson_object conventions fields, statistics_balanced _, ?_, ?_, ?_, ?_⟩
  · rw [statistics_count Statistics.nodes Finding.isNode rfl (by rintro _ (_ | _ | _) _ <;> rfl),
      hbuilt.countP_nodes hfresh fun entry harena => isNode_finding harena,
      hbuilt.countP_containedNodes]
  · rw [statistics_count Statistics.resolved Finding.isResolved rfl
      (by rintro _ (_ | _ | _) _ <;> rfl), hbuilt.countP_resolved hfresh]
  · rw [statistics_count Statistics.references (fun finding => !finding.isNode) rfl
      (by rintro _ (_ | _ | _) _ <;> rfl), ← hbuilt.countP_references hfresh]
    apply List.countP_congr
    intro entry _
    cases entry <;> rfl
  · intro kind
    rw [statistics_count (fun counts => counts.kindCount kind) (Finding.isOfKind kind) rfl]
    · exact hbuilt.countP_nodes hfresh fun entry harena => isOfKind_finding harena kind
    · rintro counts (found | _ | _) hbalanced
      · exact Statistics.lookup_countKind found kind hbalanced.kinds_increase
      · rfl
      · rfl

/-- Nodes and references that the walk does not meet are not counted. -/
example : (Conventions.build {} nestedDocument).link.statistics =
    ⟨4, 1, 1, 0, [("Item", 2), ("Leaf", 1), ("Model", 1)]⟩ := by decide

end LinkedTree

end EditorBridge
