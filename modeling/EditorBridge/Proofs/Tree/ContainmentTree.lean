import EditorBridge.Proofs.Tree.Containers
import EditorBridge.Tree.Containment
/-!
The containment graph as a tree.  The walk comes to a container before it comes to what is held in it
(`LinkedTree.containersFirst_link`), so whenever a node is added to the graph its container has a number
already and the edge is there: every node but the root has one edge, which comes from a smaller number.
-/

set_option autoImplicit false

namespace EditorBridge

def Entry.isNode : Entry → Bool
  | node _ => true
  | reference _ => false

namespace LinkedTree

variable {tree : LinkedTree}

theorem map_walkedNodes (tree : LinkedTree) :
    tree.walkedNodes.map Entry.node = tree.flatten.filter Entry.isNode := by
  unfold walkedNodes
  induction tree.flatten with
  | nil => rfl
  | cons entry rest ih =>
    cases entry with
    | node id => exact congrArg (Entry.node id :: ·) ih
    | reference id => exact ih

/-- Every node of a list but the first comes after its container; the first one has none. -/
def ContainersFirst (tree : LinkedTree) (ids : List NodeId) : Prop :=
  ∀ before id later, ids = before ++ id :: later →
    before = [] ∧ tree.container? id = none ∨
      ∃ container, tree.container? id = some container ∧ container.node ∈ before

theorem ContainersFirst.of_append {ids more : List NodeId} (h : tree.ContainersFirst (ids ++ more)) :
    tree.ContainersFirst ids := by
  intro before id later hsplit
  apply h before id (later ++ more)
  rw [hsplit, List.append_assoc, List.cons_append]

theorem ContainersFirst.place_lt {ids : List NodeId} (h : tree.ContainersFirst ids)
    (hnodup : ids.Nodup) {place outer : Nat} {id : NodeId} {container : Container}
    (hplace : ids[place]? = some id) (hcontainer : tree.container? id = some container)
    (houter : ids[outer]? = some container.node) : outer < place := by
  obtain ⟨hlt, rfl⟩ := List.getElem?_eq_some_iff.mp hplace
  have hsplit : ids = ids.take place ++ ids[place] :: ids.drop (place + 1) := by
    rw [List.getElem_cons_drop, List.take_append_drop]
  rcases h _ _ _ hsplit with ⟨-, hnone⟩ | ⟨other, hother, hmem⟩
  · rw [hcontainer] at hnone
    cases hnone
  · rw [hcontainer] at hother
    rw [← Option.some.inj hother] at hmem
    obtain ⟨found, hfound, hnode⟩ := List.mem_take_iff_getElem.mp hmem
    have hsame : found = outer := by
      refine (List.getElem?_inj (by omega) hnodup).mp ?_
      rw [houter, List.getElem?_eq_getElem (by omega), hnode]
    omega

/-- Before a node on the walk come just the nodes of earlier stops; stops at references leave none. -/
theorem split_walkedNodes {before later : List NodeId} {id : NodeId}
    (hsplit : tree.walkedNodes = before ++ id :: later) :
    ∃ earlier held rest, tree.visits = earlier ++ ⟨.node id, held⟩ :: rest ∧
      ∀ other, other ∈ before ↔ ∃ visit ∈ earlier, visit.entry = .node other := by
  rw [walkedNodes, flatten, List.filterMap_map, List.filterMap_eq_append_iff] at hsplit
  obtain ⟨made, due, hmade, rfl, hdue⟩ := hsplit
  obtain ⟨passed, ⟨entry, held⟩, rest, rfl, hpassed, hentry, -⟩ := List.filterMap_eq_cons_iff.mp hdue
  obtain rfl : entry = .node id := by
    cases entry with
    | node other => exact congrArg Entry.node (Option.some.inj hentry)
    | reference other => cases hentry
  refine ⟨made ++ passed, held, rest, by rw [hmade, List.append_assoc], fun other => ?_⟩
  constructor
  · intro hmem
    obtain ⟨⟨entry, container⟩, hvisit, hnode⟩ := List.mem_filterMap.mp hmem
    cases entry with
    | node found => exact ⟨_, List.mem_append_left _ hvisit, congrArg Entry.node (Option.some.inj hnode)⟩
    | reference found => cases hnode
  · rintro ⟨visit, hvisit, hother⟩
    rcases List.mem_append.mp hvisit with hvisit | hvisit
    · exact List.mem_filterMap.mpr ⟨visit, hvisit, by rw [Function.comp_apply, hother]⟩
    · have hnone := hpassed visit hvisit
      rw [Function.comp_apply, hother] at hnone
      cases hnone

/-- The nodes on the walk through a linked tree come after their containers. -/
theorem LaidOut.containersFirst_link (h : tree.LaidOut) (hfresh : tree.unlinked = tree) :
    tree.link.ContainersFirst tree.link.walkedNodes := by
  intro before id later hsplit
  rw [walkedNodes, flatten_link] at hsplit
  obtain ⟨earlier, held, rest, hvisits, hbefore⟩ := split_walkedNodes hsplit
  rcases h.below_of_split hvisits with ⟨rfl, hfirst⟩ | ⟨visit, hvisit, hbelow⟩
  · left
    have hroot : id = tree.root := Entry.node.inj (congrArg Visit.entry hfirst)
    have hnil : before = [] := by
      apply List.eq_nil_iff_forall_not_mem.mpr
      intro other hother
      obtain ⟨_, hmem, _⟩ := (hbefore other).mp hother
      exact absurd hmem List.not_mem_nil
    rw [hroot]
    exact ⟨hnil, container?_link_root h hfresh⟩
  · right
    obtain ⟨owner, node, slot, howner, -, -, hheld⟩ := mem_below_iff.mp hbelow
    obtain rfl : held = some ⟨owner, slot.property, slot.index⟩ := congrArg Visit.container hheld
    have hmem : ⟨.node id, some ⟨owner, slot.property, slot.index⟩⟩ ∈ tree.visits := by
      rw [hvisits]
      exact List.mem_append_right _ List.mem_cons_self
    exact ⟨_, (container?_link_iff h hfresh).mpr hmem, (hbefore owner).mpr ⟨visit, hvisit, howner⟩⟩

theorem LaidOut.nodup_walkedNodes (h : tree.LaidOut) : tree.walkedNodes.Nodup := by
  have hfiltered : (tree.walkedNodes.map Entry.node).Nodup := by
    rw [map_walkedNodes]
    exact h.nodup_visits.filter _
  exact hfiltered.of_map

end LinkedTree

/-! ## Adding nodes one by one -/

namespace ContainmentGraph

variable {tree : LinkedTree}

/-- The nodes of a graph that are numbered in the order of a list. -/
def numbered (tree : LinkedTree) (ids : List NodeId) : List GraphNode :=
  ids.mapIdx fun number id => ⟨number, ((tree.node? id).map Node.kindName).getD "", id⟩

theorem idOf?_numbered {ids : List NodeId} (hnodup : ids.Nodup) {number : Nat} {id : NodeId}
    (h : ids[number]? = some id) : idOf? (numbered tree ids) id = some number := by
  have hfind : (numbered tree ids).find? (fun node => node.node == id) =
      some ⟨number, ((tree.node? id).map Node.kindName).getD "", id⟩ := by
    obtain ⟨hlt, rfl⟩ := List.getElem?_eq_some_iff.mp h
    rw [List.find?_eq_some_iff_getElem]
    refine ⟨beq_self_eq_true _, number, by simpa [numbered] using hlt, by simp [numbered], ?_⟩
    intro earlier hearlier
    have hne : ids[earlier] ≠ ids[number] := by
      rw [Ne, hnodup.getElem_inj_iff]
      omega
    simpa [numbered] using hne
  rw [idOf?, hfind]
  rfl

theorem add_eq (tree : LinkedTree) (graph : ContainmentGraph) (id : NodeId) :
    graph.add tree id =
      { nodes := graph.nodes ++
          [⟨graph.nodes.length, ((tree.node? id).map Node.kindName).getD "", id⟩]
        edges := graph.edges ++
          (((tree.container? id).bind fun container => idOf? graph.nodes container.node).map
            fun source => ⟨source, graph.nodes.length⟩).toList } := by
  rw [add, LinkedTree.container?, Option.bind_assoc]
  rfl

/-- The graph of a list of nodes: they are numbered in order, every one but the first has an edge, in
order, and edges are containers. -/
structure Mirrors (tree : LinkedTree) (ids : List NodeId) (graph : ContainmentGraph) : Prop where
  nodes : graph.nodes = numbered tree ids
  targets : graph.edges.map GraphEdge.target = List.range' 1 (ids.length - 1)
  edge_iff : ∀ source target, ⟨source, target⟩ ∈ graph.edges ↔ ∃ id container,
    ids[target]? = some id ∧ tree.container? id = some container ∧ ids[source]? = some container.node

namespace Mirrors

variable {ids : List NodeId} {graph : ContainmentGraph} {id : NodeId}

theorem empty (tree : LinkedTree) : Mirrors tree [] ⟨[], []⟩ :=
  ⟨rfl, rfl, fun source target => by simp⟩

theorem length_nodes (h : Mirrors tree ids graph) : graph.nodes.length = ids.length := by
  simp [h.nodes, numbered]

theorem nodes_add (h : Mirrors tree ids graph) (id : NodeId) :
    (graph.add tree id).nodes = numbered tree (ids ++ [id]) := by
  rw [add_eq, h.length_nodes, h.nodes, numbered, numbered, List.mapIdx_concat]

/-- The first node has no edge. -/
theorem add_first (h : Mirrors tree [] graph) (hnone : tree.container? id = none) :
    Mirrors tree [id] (graph.add tree id) := by
  have hnil : graph.edges = [] := List.map_eq_nil_iff.mp h.targets
  have hedges : (graph.add tree id).edges = [] := by rw [add_eq, hnone, hnil]; rfl
  refine ⟨h.nodes_add id, by rw [hedges]; rfl, fun source target => ?_⟩
  rw [hedges]
  refine ⟨fun hmem => absurd hmem List.not_mem_nil, ?_⟩
  rintro ⟨held, container, hheld, hcontainer, -⟩
  have hsame : held = id := by simpa using List.mem_of_getElem? hheld
  rw [hsame, hnone] at hcontainer
  cases hcontainer

/-- The edge of a node comes from the number that its container has already. -/
theorem edges_add (h : Mirrors tree ids graph) (hnodup : ids.Nodup) {container : Container}
    (hcontainer : tree.container? id = some container) {outer : Nat}
    (houter : ids[outer]? = some container.node) :
    (graph.add tree id).edges = graph.edges ++ [⟨outer, ids.length⟩] := by
  have hfound : idOf? graph.nodes container.node = some outer := by
    rw [h.nodes]
    exact idOf?_numbered hnodup houter
  rw [add_eq, hcontainer, Option.bind_some, hfound, h.length_nodes]
  rfl

theorem edge_iff_add (h : Mirrors tree ids graph) (hnodup : (ids ++ [id]).Nodup)
    (hfirst : tree.ContainersFirst (ids ++ [id])) {container : Container}
    (hcontainer : tree.container? id = some container) {outer : Nat}
    (houter : ids[outer]? = some container.node) (source target : Nat) :
    ⟨source, target⟩ ∈ graph.edges ++ [⟨outer, ids.length⟩] ↔ ∃ held inside,
      (ids ++ [id])[target]? = some held ∧ tree.container? held = some inside ∧
        (ids ++ [id])[source]? = some inside.node := by
  have hkept : ∀ {place : Nat} {other : NodeId}, ids[place]? = some other →
      (ids ++ [id])[place]? = some other := by
    intro place other hplace
    rw [List.getElem?_append_left (List.getElem?_eq_some_iff.mp hplace).1, hplace]
  rw [List.mem_append, List.mem_singleton, h.edge_iff]
  constructor
  · rintro (⟨held, inside, hheld, hinside, hsource⟩ | hnew)
    · exact ⟨held, inside, hkept hheld, hinside, hkept hsource⟩
    · cases hnew
      exact ⟨id, container, List.getElem?_concat_length, hcontainer, hkept houter⟩
  · rintro ⟨held, inside, hheld, hinside, hsource⟩
    have hlt : source < target := hfirst.place_lt hnodup hheld hinside hsource
    have hbound := (List.getElem?_eq_some_iff.mp hheld).1
    rw [List.length_append, List.length_singleton] at hbound
    rw [List.getElem?_append_left (by omega)] at hsource
    by_cases htarget : target < ids.length
    · rw [List.getElem?_append_left htarget] at hheld
      exact Or.inl ⟨held, inside, hheld, hinside, hsource⟩
    · obtain rfl : target = ids.length := by omega
      rw [List.getElem?_concat_length] at hheld
      rw [← Option.some.inj hheld, hcontainer] at hinside
      rw [← Option.some.inj hinside, ← houter] at hsource
      have hsame : source = outer :=
        (List.getElem?_inj (by omega) (List.nodup_append'.mp hnodup).1).mp hsource
      exact Or.inr (by rw [hsame])

theorem add (h : Mirrors tree ids graph) (hnodup : (ids ++ [id]).Nodup)
    (hfirst : tree.ContainersFirst (ids ++ [id])) :
    Mirrors tree (ids ++ [id]) (graph.add tree id) := by
  rcases hfirst ids id [] rfl with ⟨rfl, hnone⟩ | ⟨container, hcontainer, hmem⟩
  · exact h.add_first hnone
  · obtain ⟨outer, houter⟩ := List.mem_iff_getElem?.mp hmem
    have hedges := h.edges_add (List.nodup_append'.mp hnodup).1 hcontainer houter
    refine ⟨h.nodes_add id, ?_, fun source target => ?_⟩
    · have hpos : 0 < ids.length := List.length_pos_of_mem hmem
      have hrange := @List.range'_1_concat 1 (ids.length - 1)
      rw [Nat.sub_add_cancel hpos, Nat.add_sub_cancel' hpos] at hrange
      rw [hedges, List.map_append, h.targets, List.length_append, List.length_singleton,
        Nat.add_sub_cancel, hrange]
      rfl
    · rw [hedges]
      exact h.edge_iff_add hnodup hfirst hcontainer houter source target

theorem foldl {rest : List NodeId} (h : Mirrors tree ids graph) (hnodup : (ids ++ rest).Nodup)
    (hfirst : tree.ContainersFirst (ids ++ rest)) :
    Mirrors tree (ids ++ rest) (rest.foldl (ContainmentGraph.add tree) graph) := by
  induction rest generalizing ids graph with
  | nil => simpa using h
  | cons id rest ih =>
    rw [← List.singleton_append, ← List.append_assoc] at hnodup hfirst ⊢
    exact ih (h.add (List.nodup_append'.mp hnodup).1 hfirst.of_append) hnodup hfirst

theorem getElem?_nodes (h : Mirrors tree ids graph) {place : Nat} {node : GraphNode}
    (hnode : graph.nodes[place]? = some node) :
    node.id = place ∧ ids[place]? = some node.node ∧
      node.kind = ((tree.node? node.node).map Node.kindName).getD "" := by
  rw [h.nodes, numbered, List.getElem?_mapIdx, Option.map_eq_some_iff] at hnode
  obtain ⟨id, hid, rfl⟩ := hnode
  exact ⟨rfl, hid, rfl⟩

theorem exists_mem_nodes_iff (h : Mirrors tree ids graph) {number : Nat} {id : NodeId} :
    (∃ node ∈ graph.nodes, node.id = number ∧ node.node = id) ↔ ids[number]? = some id := by
  constructor
  · rintro ⟨node, hmem, rfl, rfl⟩
    obtain ⟨place, hplace⟩ := List.mem_iff_getElem?.mp hmem
    obtain ⟨rfl, hid, -⟩ := h.getElem?_nodes hplace
    exact hid
  · intro hid
    refine ⟨⟨number, ((tree.node? id).map Node.kindName).getD "", id⟩, ?_, rfl, rfl⟩
    rw [h.nodes, List.mem_iff_getElem?]
    exact ⟨number, by rw [numbered, List.getElem?_mapIdx, hid]; rfl⟩

theorem map_node_nodes (h : Mirrors tree ids graph) : graph.nodes.map GraphNode.node = ids := by
  apply List.ext_getElem?
  intro place
  rw [h.nodes, numbered, List.getElem?_map, List.getElem?_mapIdx, Option.map_map]
  cases ids[place]? <;> rfl

end Mirrors

/-! ## The graph of a linked tree -/

/-- The nodes on the walk as a tree of containers. -/
structure TreeOfContainers (tree : LinkedTree) (graph : ContainmentGraph) : Prop where
  /-- The nodes of the graph are the nodes on the walk, in its order. -/
  walked : (graph.nodes.map fun node => Entry.node node.node) = tree.flatten.filter Entry.isNode
  /-- A node has its place as its number, and the kind of the node it stands for. -/
  numbers : ∀ (place : Nat) (node : GraphNode), graph.nodes[place]? = some node →
    node.id = place ∧ ∃ held, tree.node? node.node = some held ∧ node.kind = held.kindName
  root : graph.nodes.head?.map GraphNode.node = some tree.root
  edge_count : graph.edges.length + 1 = graph.nodes.length
  /-- In order, the edges lead to all nodes but the root, from smaller numbers. -/
  edge_order : ∀ (place : Nat) (edge : GraphEdge), graph.edges[place]? = some edge →
    edge.target = place + 1 ∧ edge.source < edge.target
  /-- There is an edge just from the container of a node to the node. -/
  edge_iff : ∀ source target, ⟨source, target⟩ ∈ graph.edges ↔
    ∃ outer ∈ graph.nodes, ∃ inner ∈ graph.nodes, outer.id = source ∧ inner.id = target ∧
      (tree.container? inner.node).map Container.node = some outer.node

theorem Mirrors.treeOfContainers {graph : ContainmentGraph} (h : Mirrors tree tree.walkedNodes graph)
    (hnodup : tree.walkedNodes.Nodup) (hfirst : tree.ContainersFirst tree.walkedNodes)
    (hroot : tree.walkedNodes.head? = some tree.root)
    (harena : ∀ id ∈ tree.walkedNodes, ∃ node, tree.node? id = some node) :
    TreeOfContainers tree graph where
  walked := by
    rw [← LinkedTree.map_walkedNodes, ← h.map_node_nodes, List.map_map]
    rfl
  numbers place node hnode := by
    obtain ⟨hid, hplace, hkind⟩ := h.getElem?_nodes hnode
    obtain ⟨held, hheld⟩ := harena _ (List.mem_of_getElem? hplace)
    rw [hheld] at hkind
    exact ⟨hid, held, hheld, hkind⟩
  root := by
    rw [← List.head?_map, h.map_node_nodes, hroot]
  edge_count := by
    have htargets := congrArg List.length h.targets
    have hnodes := h.length_nodes
    have hpos : 0 < tree.walkedNodes.length := by
      cases hids : tree.walkedNodes with
      | nil => simp [hids] at hroot
      | cons id rest => exact Nat.succ_pos _
    rw [List.length_map, List.length_range'] at htargets
    omega
  edge_order place edge hedge := by
    have htarget : (graph.edges.map GraphEdge.target)[place]? = some edge.target := by
      rw [List.getElem?_map, hedge]
      rfl
    rw [h.targets, List.getElem?_eq_some_iff] at htarget
    obtain ⟨_, htarget⟩ := htarget
    rw [List.getElem_range'] at htarget
    obtain ⟨id, container, hheld, hcontainer, hsource⟩ :=
      (h.edge_iff edge.source edge.target).mp (List.mem_of_getElem? hedge)
    exact ⟨by omega, hfirst.place_lt hnodup hheld hcontainer hsource⟩
  edge_iff source target := by
    rw [h.edge_iff]
    constructor
    · rintro ⟨id, container, hheld, hcontainer, hsource⟩
      obtain ⟨inner, hinner, htarget, rfl⟩ := h.exists_mem_nodes_iff.mpr hheld
      obtain ⟨outer, houter, hsource, hnode⟩ := h.exists_mem_nodes_iff.mpr hsource
      exact ⟨outer, houter, inner, hinner, hsource, htarget, by rw [hcontainer, hnode]; rfl⟩
    · rintro ⟨outer, houter, inner, hinner, rfl, rfl, hheld⟩
      obtain ⟨container, hcontainer, hnode⟩ := Option.map_eq_some_iff.mp hheld
      refine ⟨inner.node, container, ?_, hcontainer, ?_⟩
      · exact h.exists_mem_nodes_iff.mp ⟨inner, hinner, rfl, rfl⟩
      · exact h.exists_mem_nodes_iff.mp ⟨outer, houter, rfl, hnode.symm⟩

end ContainmentGraph

namespace LinkedTree

theorem LaidOut.head?_walkedNodes {tree : LinkedTree} (h : tree.LaidOut) :
    tree.walkedNodes.head? = some tree.root := by
  obtain ⟨rest, hrest⟩ := h.visits_eq_cons
  rw [walkedNodes, flatten, hrest]
  rfl

theorem LaidOut.node?_of_walked {tree : LinkedTree} (h : tree.LaidOut) {id : NodeId}
    (hmem : id ∈ tree.walkedNodes) : ∃ node, tree.node? id = some node := by
  have hentry : .node id ∈ tree.flatten.filter Entry.isNode := by
    rw [← map_walkedNodes]
    exact List.mem_map_of_mem hmem
  exact node?_of_inArena (h.inArena_of_mem_flatten (List.mem_filter.mp hentry).1)

/-- **The containment graph of a linked tree is a tree that mirrors the containers**, whatever nodes
there are that the walk does not meet. -/
theorem containment_mirrors_containers (conventions : Conventions) (fields : List (String × Json)) :
    ∃ tree, ofJson conventions (.object fields) = .ok tree ∧
      ContainmentGraph.TreeOfContainers tree tree.containment := by
  have hlinked := linked_laidOut conventions fields
  have hfirst := (conventions.build_laidOut fields).containersFirst_link
    (conventions.unlinked_build fields)
  have hnodup := hlinked.nodup_walkedNodes
  have hmirrors := (ContainmentGraph.Mirrors.empty (conventions.build fields).link).foldl hnodup hfirst
  exact ⟨_, ofJson_object conventions fields, hmirrors.treeOfContainers hnodup hfirst
    hlinked.head?_walkedNodes fun _ => hlinked.node?_of_walked⟩

/-- Nodes in an array inside of an array, in a record or in a reference are not in the graph. -/
example : (Conventions.build {} nestedDocument).link.containment.nodes.map GraphNode.kind =
      ["Model", "Item", "Item", "Leaf"] ∧
    (Conventions.build {} nestedDocument).link.containment.edges = [⟨0, 1⟩, ⟨0, 2⟩, ⟨2, 3⟩] := by
  decide

end LinkedTree

end EditorBridge
