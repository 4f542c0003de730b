import EditorBridge.Proofs.Tree.Spelling
import EditorBridge.Tree.Containment
import Mathlib.Data.List.Basic
/-!
Reading graphs back from their text.  `ContainmentGraph.readDot?` takes a text apart at the ends of lines,
reads every line on its own, and collects what the lines say.  A label cannot be closed or broken off by
what it holds (`readLabel?_label`, `newline_not_mem_label`), so the lines of the text of a graph are those
that were written, and the text determines the graph.
-/

set_option autoImplicit false

namespace EditorBridge.ContainmentGraph

/-! ## Reading -/

/-- What a line says. -/
inductive DotLine
  | header
  | node (id : Nat) (kind : String)
  | edge (ends : GraphEdge)
  | closing
deriving DecidableEq, Repr

/-- The decimal number that a text starts with, and what follows it. -/
def readNumber? (text : List Char) : Option (Nat × List Char) :=
  let digits := text.takeWhile Char.isDigit
  if digits.isEmpty then none
  else some (Nat.ofDigitChars 10 digits 0, text.dropWhile Char.isDigit)

/-- The character that stands after a backslash in a label. -/
def unescape? : Char → Option Char
  | '"' => some '"'
  | '\\' => some '\\'
  | 'n' => some '\n'
  | _ => none

/-- The characters up to the quote that closes a label, and what follows it. -/
def readLabelRest? : List Char → Option (List Char × List Char)
  | [] => none
  | '"' :: rest => some ([], rest)
  | '\\' :: c :: rest => do
    let (text, after) ← readLabelRest? rest
    return ((← unescape? c) :: text, after)
  | c :: rest => do
    let (text, after) ← readLabelRest? rest
    return (c :: text, after)

/-- The text of the label that a text starts with, and what follows the label. -/
def readLabel? : List Char → Option (String × List Char)
  | '"' :: rest => do
    let (text, after) ← readLabelRest? rest
    return (String.ofList text, after)
  | _ => none

/-- What a line of a node or of an edge says, after its indentation. -/
def readStatement? (statement : List Char) : Option DotLine := do
  let (id, rest) ← readNumber? statement
  match rest.dropPrefix? " [label=".toList with
  | some rest =>
    let (kind, rest) ← readLabel? rest
    if rest = "]".toList then some (.node id kind) else none
  | none =>
    let (target, rest) ← readNumber? (← rest.dropPrefix? " -> ".toList)
    if rest = [] then some (.edge ⟨id, target⟩) else none

/-- What a line says, if it is one of the four kinds of lines. -/
def readLine? (line : List Char) : Option DotLine :=
  if line = "strict digraph \x7b".toList then some .header
  else if line = "\x7d".toList then some .closing
  else (line.dropPrefix? "    ".toList).bind readStatement?

/-- The lines of a text, if each of them is ended. -/
def endedLines? (text : List Char) : Option (List (List Char)) :=
  let pieces := Text.splitOn '\n' text
  if pieces.getLast? = some [] then some pieces.dropLast else none

/-- The nodes with their kinds, and the edges, that the lines after the header say: first all nodes,
then all edges, then the closing line. -/
def collect? : List DotLine → Option (List (Nat × String) × List GraphEdge)
  | [.closing] => some ([], [])
  | .node id kind :: rest => do
    let (nodes, edges) ← collect? rest
    return ((id, kind) :: nodes, edges)
  | .edge edge :: rest => do
    let (nodes, edges) ← collect? rest
    if nodes.isEmpty then some ([], edge :: edges) else none
  | _ => none

/-- The nodes with their kinds, and the edges, of a graph in the dot language. -/
def readDot? (text : String) : Option (List (Nat × String) × List GraphEdge) := do
  match ← (← endedLines? text.toList).mapM readLine? with
  | .header :: rest => collect? rest
  | _ => none

/-! ## Numbers -/

theorem readNumber?_toDigits (number : Nat) {rest : List Char}
    (h : ∀ c ∈ rest.head?, c.isDigit = false) :
    readNumber? (Nat.toDigits 10 number ++ rest) = some (number, rest) := by
  have hdigits := Conventions.isDigit_of_mem number
  have hstop : rest.takeWhile Char.isDigit = [] ∧ rest.dropWhile Char.isDigit = rest := by
    cases rest with
    | nil => exact ⟨rfl, rfl⟩
    | cons c rest =>
      have hc : c.isDigit = false := h c rfl
      simp [hc]
  have hne : (Nat.toDigits 10 number).isEmpty = false := by
    simp [List.isEmpty_eq_false_iff, Nat.toDigits_ne_nil]
  simp only [readNumber?, List.takeWhile_append_of_pos hdigits, List.dropWhile_append_of_pos hdigits,
    hstop.1, hstop.2, List.append_nil, hne, Nat.ofDigitChars_ten_toDigits]
  rfl

/-! ## Labels -/

theorem labelEscape_cases (c : Char) :
    c = '\n' ∧ labelEscape c = ['\\', 'n'] ∨
      (c = '"' ∨ c = '\\') ∧ labelEscape c = ['\\', c] ∨
      (c ≠ '\n' ∧ c ≠ '"' ∧ c ≠ '\\') ∧ labelEscape c = [c] := by
  by_cases hquote : c = '"'
  · simp [labelEscape, hquote]
  by_cases hslash : c = '\\'
  · simp [labelEscape, hslash]
  by_cases hline : c = '\n'
  · simp [labelEscape, hline]
  · simp [labelEscape, hquote, hslash, hline]

theorem readLabelRest?_labelEscape (c : Char) (rest : List Char) :
    readLabelRest? (labelEscape c ++ rest) =
      (readLabelRest? rest).map fun (text, after) => (c :: text, after) := by
  rcases labelEscape_cases c with ⟨rfl, hescape⟩ | ⟨hc, hescape⟩ | ⟨⟨-, hquote, hslash⟩, hescape⟩
  · rw [hescape]
    cases h : readLabelRest? rest <;> simp [readLabelRest?, unescape?, h]
  · rw [hescape]
    rcases hc with rfl | rfl
    · cases h : readLabelRest? rest <;> simp [readLabelRest?, unescape?, h]
    · cases h : readLabelRest? rest <;> simp [readLabelRest?, unescape?, h]
  · rw [hescape, List.singleton_append, readLabelRest?]
    · cases readLabelRest? rest <;> rfl
    · exact hquote
    · intro _ _ hc
      exact absurd hc hslash

theorem readLabelRest?_body (text rest : List Char) :
    readLabelRest? (text.flatMap labelEscape ++ '"' :: rest) = some (text, rest) := by
  induction text with
  | nil => rfl
  | cons c text ih => rw [List.flatMap_cons, List.append_assoc, readLabelRest?_labelEscape, ih]; rfl

theorem label_toList (text : String) :
    (label text).toList = '"' :: (text.toList.flatMap labelEscape ++ ['"']) := by
  simp [label]

/-- A label ends where its text ends, whatever follows it. -/
theorem readLabel?_label (text : String) (rest : List Char) :
    readLabel? ((label text).toList ++ rest) = some (text, rest) := by
  have hbody := readLabelRest?_body text.toList rest
  rw [label_toList, List.cons_append, List.append_assoc, List.singleton_append, readLabel?, hbody]
  simp

theorem newline_not_mem_label (text : String) : '\n' ∉ (label text).toList := by
  have hescape : ∀ c, '\n' ∉ labelEscape c := by
    intro c
    rcases labelEscape_cases c with ⟨-, h⟩ | ⟨rfl | rfl, h⟩ | ⟨⟨hline, -⟩, h⟩
    · rw [h]; decide
    · rw [h]; decide
    · rw [h]; decide
    · rw [h, List.mem_singleton]
      exact Ne.symm hline
  rw [label_toList]
  simp [hescape]

/-! ## Lines -/

/-- How a line is written, without its end. -/
def DotLine.text : DotLine → String
  | .header => "strict digraph \x7b"
  | .node id kind => "    " ++ toString id ++ " [label=" ++ label kind ++ "]"
  | .edge ends => "    " ++ toString ends.source ++ " -> " ++ toString ends.target
  | .closing => "\x7d"

theorem text_node (id : Nat) (kind : String) : (DotLine.node id kind).text.toList =
    "    ".toList ++ (Nat.toDigits 10 id ++
      (" [label=".toList ++ ((label kind).toList ++ "]".toList))) := by
  simp [DotLine.text]

theorem text_edge (ends : GraphEdge) : (DotLine.edge ends).text.toList =
    "    ".toList ++ (Nat.toDigits 10 ends.source ++
      (" -> ".toList ++ Nat.toDigits 10 ends.target)) := by
  simp [DotLine.text]

theorem readLine?_indented (statement : List Char) :
    readLine? ("    ".toList ++ statement) = readStatement? statement := by
  have hheader : "    ".toList ++ statement ≠ "strict digraph \x7b".toList := by simp
  have hclosing : "    ".toList ++ statement ≠ "\x7d".toList := by simp
  have hindent : ("    ".toList ++ statement).dropPrefix? "    ".toList = some statement :=
    List.dropPrefix?_append_of_beq statement (beq_self_eq_true _)
  rw [readLine?, if_neg hheader, if_neg hclosing, hindent, Option.bind_some]

theorem readLine?_text (line : DotLine) : readLine? line.text.toList = some line := by
  cases line with
  | header => simp [readLine?, DotLine.text]
  | closing => simp [readLine?, DotLine.text]
  | node id kind =>
    have hnumber := @readNumber?_toDigits id
      (" [label=".toList ++ ((label kind).toList ++ "]".toList)) (by simp)
    have hmark := List.dropPrefix?_append_of_beq ((label kind).toList ++ "]".toList)
      (beq_self_eq_true " [label=".toList)
    have hlabel := readLabel?_label kind "]".toList
    rw [text_node, readLine?_indented, readStatement?, hnumber]
    simp only [Option.bind_eq_bind, Option.bind_some, hmark, hlabel, if_true]
  | edge ends =>
    have hsource := @readNumber?_toDigits ends.source
      (" -> ".toList ++ Nat.toDigits 10 ends.target) (by simp)
    have hnode : (" -> ".toList ++ Nat.toDigits 10 ends.target).dropPrefix? " [label=".toList =
        none := by
      simp [List.dropPrefix?]
    have hmark := List.dropPrefix?_append_of_beq (Nat.toDigits 10 ends.target)
      (beq_self_eq_true " -> ".toList)
    have htarget := @readNumber?_toDigits ends.target [] (by simp)
    rw [List.append_nil] at htarget
    rw [text_edge, readLine?_indented, readStatement?, hsource]
    simp only [Option.bind_eq_bind, Option.bind_some, hnode, hmark, htarget, if_true]

theorem newline_not_mem_text (line : DotLine) : '\n' ∉ line.text.toList := by
  have hdigits : ∀ number, '\n' ∉ Nat.toDigits 10 number := by
    intro number hmem
    exact absurd (Conventions.isDigit_of_mem number _ hmem) (by decide)
  cases line with
  | header => simp [DotLine.text]
  | closing => simp [DotLine.text]
  | node id kind =>
    have hlabel := newline_not_mem_label kind
    rw [text_node]
    simp [hdigits, hlabel]
  | edge ends =>
    rw [text_edge]
    simp [hdigits]

/-- Lines that are each ended are told apart by their ends. -/
theorem endedLines?_flatMap (lines : List (List Char)) (h : ∀ line ∈ lines, '\n' ∉ line) :
    endedLines? (lines.flatMap fun line => line ++ ['\n']) = some lines := by
  have hsplit : Text.splitOn '\n' (lines.flatMap fun line => line ++ ['\n']) = lines ++ [[]] := by
    induction lines with
    | nil => rfl
    | cons line rest ih =>
      obtain ⟨hline, hrest⟩ := List.forall_mem_cons.mp h
      rw [List.flatMap_cons, List.append_assoc, List.singleton_append, Text.splitOn_append, ih hrest,
        Text.splitOn_eq, List.splitOn_eq_singleton hline]
      rfl
  simp [endedLines?, hsplit]

/-! ## The text of a graph -/

/-- What the lines of the text of a graph say. -/
def lines (graph : ContainmentGraph) : List DotLine :=
  .header :: (graph.nodes.map (fun node => .node node.id node.kind) ++
    (graph.edges.map .edge ++ [.closing]))

theorem nodeLine_toList (node : GraphNode) :
    (nodeLine node).toList = (DotLine.node node.id node.kind).text.toList ++ ['\n'] := by
  rw [text_node]
  simp [nodeLine]

theorem edgeLine_toList (edge : GraphEdge) :
    (edgeLine edge).toList = (DotLine.edge edge).text.toList ++ ['\n'] := by
  rw [text_edge]
  simp [edgeLine]

theorem toDot_toList (graph : ContainmentGraph) :
    graph.toDot.toList =
      (graph.lines.map fun line => line.text.toList).flatMap fun line => line ++ ['\n'] := by
  have hheader : "strict digraph \x7b\n".toList = DotLine.header.text.toList ++ ['\n'] := by
    simp [DotLine.text]
  have hclosing : "\x7d\n".toList = DotLine.closing.text.toList ++ ['\n'] := by simp [DotLine.text]
  unfold toDot lines
  rw [String.toList_append, String.toList_append, String.toList_append, String.toList_join,
    String.toList_join, hheader, hclosing]
  simp only [List.flatMap_map, List.map_cons, List.map_append, List.map_map, List.flatMap_cons,
    List.flatMap_append, nodeLine_toList, edgeLine_toList, List.map_nil, List.flatMap_nil,
    Function.comp_def, List.append_assoc, List.append_nil]

theorem endedLines?_toDot (graph : ContainmentGraph) :
    endedLines? graph.toDot.toList = some (graph.lines.map fun line => line.text.toList) := by
  rw [toDot_toList]
  refine endedLines?_flatMap _ fun line hline => ?_
  obtain ⟨said, _, rfl⟩ := List.mem_map.mp hline
  exact newline_not_mem_text said

theorem collect?_lines (nodes : List GraphNode) (edges : List GraphEdge) :
    collect? (nodes.map (fun node => .node node.id node.kind) ++ (edges.map .edge ++ [.closing])) =
      some (nodes.map fun node => (node.id, node.kind), edges) := by
  induction nodes with
  | nil =>
    induction edges with
    | nil => rfl
    | cons edge edges ih =>
      rw [List.map_nil, List.nil_append] at ih ⊢
      rw [List.map_cons, List.cons_append, collect?, ih]
      rfl
  | cons node nodes ih =>
    rw [List.map_cons, List.cons_append, collect?, ih]
    rfl

theorem readDot?_toDot (graph : ContainmentGraph) :
    readDot? graph.toDot = some (graph.nodes.map fun node => (node.id, node.kind), graph.edges) := by
  have hlines : (graph.lines.map fun line => line.text.toList).mapM readLine? = some graph.lines := by
    induction graph.lines with
    | nil => rfl
    | cons line rest ih =>
      rw [List.map_cons, List.mapM_cons, readLine?_text, ih]
      rfl
  simp only [readDot?, endedLines?_toDot, Option.bind_eq_bind, Option.bind_some, hlines]
  exact collect?_lines graph.nodes graph.edges

/-- What the text of a graph says, and how it is divided into lines. -/
structure DotExact (graph : ContainmentGraph) : Prop where
  /-- Reading the text gives the numbers and kinds of the nodes, and the edges, in order. -/
  read : readDot? graph.toDot = some (graph.nodes.map fun node => (node.id, node.kind), graph.edges)
  /-- There is one line for each node and each edge, one before and one after them. -/
  line_count : ∃ lines, endedLines? graph.toDot.toList = some lines ∧
    lines.length = graph.nodes.length + graph.edges.length + 2
  /-- A label that is read ends at the quote after all that its kind holds. -/
  label_closed : ∀ node ∈ graph.nodes, ∀ rest,
    readLabel? ((label node.kind).toList ++ rest) = some (node.kind, rest)
  /-- A label ends in the line in which it begins. -/
  label_in_line : ∀ node ∈ graph.nodes, '\n' ∉ (label node.kind).toList
  /-- Graphs of one text have the same numbers, kinds and edges. -/
  determined : ∀ other : ContainmentGraph, other.toDot = graph.toDot →
    (other.nodes.map fun node => (node.id, node.kind)) =
      (graph.nodes.map fun node => (node.id, node.kind)) ∧ other.edges = graph.edges

/-- **The text in the dot language determines the graph**, whatever its kinds hold. -/
theorem dot_exact (graph : ContainmentGraph) : graph.DotExact where
  read := graph.readDot?_toDot
  line_count := by
    refine ⟨_, graph.endedLines?_toDot, ?_⟩
    simp only [lines, List.map_cons, List.map_append, List.map_map, List.length_cons,
      List.length_append, List.length_map, List.map_nil, List.length_nil]
    omega
  label_closed node _ rest := readLabel?_label node.kind rest
  label_in_line node _ := newline_not_mem_label node.kind
  determined other hsame := by
    have hother := other.readDot?_toDot
    rw [hsame, graph.readDot?_toDot] at hother
    have hpair := Option.some.inj hother
    exact ⟨(congrArg Prod.fst hpair).symm, (congrArg Prod.snd hpair).symm⟩

/-- A kind that spells the end of its label, a line of an edge and a lone backslash is read as it is. -/
example : readDot? (toDot ⟨[⟨0, "a\"]\n    0 -> 0\n\\", ⟨0⟩⟩, ⟨1, "\\n", ⟨1⟩⟩], [⟨0, 1⟩]⟩) =
    some ([(0, "a\"]\n    0 -> 0\n\\"), (1, "\\n")], [⟨0, 1⟩]) := by decide

end EditorBridge.ContainmentGraph
