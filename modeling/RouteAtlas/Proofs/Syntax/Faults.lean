import RouteAtlas.Proofs.Text.Decoding
import RouteAtlas.TypeScript.Source

/-!
# The first fault of a syntax tree

The search for the first faulty node passes over what lies below a node that does not say that there
is a fault in it. Nothing is missed as long as every node above a fault says so, and what is found
is then the first faulty node in the order of the text (`Node.firstFault_eq_find?`). So a source
file is accepted exactly if its tree has no faulty node at all, and the place of the first one is
reported otherwise (`TypeScript.Source.parseWith_reports_first`).
-/

namespace RouteAtlas

namespace Syntax.Node

/-- Whether each node says that there is a fault in it exactly if it or one below it is faulty. -/
def IsExact (tree : Node) : Prop :=
  ∀ n ∈ tree.preorder, n.info.hasError = true ↔ ∃ m ∈ n.preorder, m.isFaulty = true

/-- Whether each node above a fault says that there is one, unless it is faulty itself. -/
def IsMarked (tree : Node) : Prop :=
  ∀ n ∈ tree.preorder, ∀ m ∈ n.preorder, m.isFaulty = true →
    n.isFaulty = true ∨ n.info.hasError = true

/-- Nodes that are exact say enough. -/
lemma IsExact.isMarked {tree : Node} (exact : tree.IsExact) : tree.IsMarked :=
  fun n within m below faulty => .inr ((exact n within).mpr ⟨m, below, faulty⟩)

lemma mem_preorder_self (n : Node) : n ∈ n.preorder := by
  cases n with
  | node info children =>
    rw [preorder]
    exact List.mem_cons_self

lemma mem_preorderAll {n : Node} {trees : List Node} :
    n ∈ preorderAll trees ↔ ∃ tree ∈ trees, n ∈ tree.preorder := by
  induction trees with
  | nil => simp [preorderAll]
  | cons tree trees ih => simp [preorderAll, ih]

/-- What lies below a node that says enough says enough. -/
lemma IsMarked.child {info : NodeInfo} {children : List Node}
    (marked : (Node.node info children).IsMarked) {c : Node} (mem : c ∈ children) :
    c.IsMarked := by
  intro n within
  have below : n ∈ preorderAll children := mem_preorderAll.mpr ⟨c, mem, within⟩
  exact marked n (by rw [preorder]; exact List.mem_cons_of_mem _ below)

/-- No node below one is faulty that says that there is no fault in it. -/
lemma IsMarked.find?_eq_none {info : NodeInfo} {children : List Node}
    (marked : (Node.node info children).IsMarked)
    (sound : (Node.node info children).isFaulty = false) (silent : info.hasError = false) :
    (preorderAll children).find? isFaulty = none := by
  rw [List.find?_eq_none]
  intro m below faulty
  have told := marked _ (mem_preorder_self _) m (by rw [preorder]; exact .tail _ below) faulty
  cases told with
  | inl itself => rw [sound] at itself; cases itself
  | inr below => rw [Node.info, silent] at below; cases below

-- The induction follows the search: over a tree, and over the trees that stand side by side.
mutual

/-- The search finds the first faulty node of a tree in preorder. -/
theorem firstFault_eq_find? : (tree : Node) → tree.IsMarked →
    tree.firstFault = tree.preorder.find? isFaulty
  | .node info children, marked => by
    rw [firstFault, preorder]
    cases faulty : (Node.node info children).isFaulty with
    | true => rw [List.find?_cons_of_pos faulty, if_pos rfl]
    | false =>
      rw [List.find?_cons_of_neg (by simp [faulty]), if_neg Bool.false_ne_true]
      cases told : info.hasError with
      | true => exact firstFaultAll_eq_find? children fun c mem => marked.child mem
      | false => exact (marked.find?_eq_none faulty told).symm

/-- The search finds the first faulty node of several trees. -/
theorem firstFaultAll_eq_find? : (trees : List Node) → (∀ c ∈ trees, c.IsMarked) →
    firstFaultAll trees = (preorderAll trees).find? isFaulty
  | [], _ => rfl
  | tree :: trees, marked => by
    rw [firstFaultAll, preorderAll, List.find?_append,
      firstFault_eq_find? tree (marked tree List.mem_cons_self),
      firstFaultAll_eq_find? trees fun c mem => marked c (List.mem_cons_of_mem _ mem)]

end

end Syntax.Node

namespace TypeScript.Source

open Syntax

/-- Parses the content of a file, by a given parser of texts. -/
def parseWith (parser : String → Option Node) (path : String) (content : ByteArray) :
    Except Failure Source :=
  match Text.Utf8.decode content with
  | .error fault => .error (.parse path ("content is not valid UTF-8: " ++ fault.message))
  | .ok text =>
    match parser text with
    | none => .error (.parse path "parser produced no tree")
    | some tree => ofTree path text tree

/-- Source files are parsed by the parser of their language. -/
lemma parse_eq_parseWith : parse = parseWith parse? := by
  funext path content
  unfold parse parseWith
  cases Text.Utf8.decode content with
  | error fault => rfl
  | ok text => cases parsed : parse? text <;> simp only [parsed]

/-- The content of a text is judged by the tree of the text alone. -/
lemma parseWith_toUTF8 {parser : String → Option Node} {text : String} {tree : Node}
    (parsed : parser text = some tree) (path : String) :
    parseWith parser path text.toUTF8 = ofTree path text tree := by
  simp only [parseWith, Text.Utf8.decode_toUTF8, parsed]

/-- If each node of a tree above a fault says that there is one, the search comes to the first
faulty node in preorder, and to none if and only if no node of the tree is faulty. So whatever
parser made the tree, the text is accepted if and only if no node of its tree is faulty, and the
place of the first one is reported otherwise. -/
theorem parseWith_reports_first (parser : String → Option Node) (path text : String) (tree : Node)
    (parsed : parser text = some tree) (marked : tree.IsMarked) :
    tree.firstFault = tree.preorder.find? Node.isFaulty ∧
      (tree.firstFault = none ↔ ∀ n ∈ tree.preorder, n.isFaulty = false) ∧
      ((∃ source, parseWith parser path text.toUTF8 = .ok source) ↔
        ∀ n ∈ tree.preorder, n.isFaulty = false) ∧
      (∀ n, tree.preorder.find? Node.isFaulty = some n →
        parseWith parser path text.toUTF8
          = .error (.parse path ("syntax error at " ++ placeOf n))) ∧
      parse = parseWith parse? := by
  have first := Node.firstFault_eq_find? tree marked
  have empty : tree.firstFault = none ↔ ∀ n ∈ tree.preorder, n.isFaulty = false := by
    simp [first, List.find?_eq_none]
  refine ⟨first, empty, ?_, fun n found => ?_, parse_eq_parseWith⟩
  · rw [← empty, parseWith_toUTF8 parsed, ofTree]
    cases tree.firstFault with
    | none => simp
    | some n => simp
  · rw [parseWith_toUTF8 parsed, ofTree, first, found]

namespace Sample

/-- A node between two positions. -/
def node (kind : String) (isNamed : Bool) (start finish : Parsing.Extent)
    (children : List Node := []) (hasError isMissing : Bool := false)
    (field : Option String := none) : Node :=
  .node { kind, isNamed, start, finish, hasError, isMissing, field } children

/-- A call whose closing parenthesis is missing. -/
def text : String := "a;\nf(b;"

/-- The tree of the text. The parenthesis stands behind nodes without a fault. -/
def tree : Node :=
  node "program" true 0 ⟨7, 7, 1, 4⟩ [
    node "expression_statement" true 0 ⟨2, 2, 0, 2⟩ [
      node "identifier" true 0 ⟨1, 1, 0, 1⟩,
      node ";" false ⟨1, 1, 0, 1⟩ ⟨2, 2, 0, 2⟩],
    node "expression_statement" true ⟨3, 3, 1, 0⟩ ⟨7, 7, 1, 4⟩ [
      node "call_expression" true ⟨3, 3, 1, 0⟩ ⟨6, 6, 1, 3⟩ [
        node "identifier" true ⟨3, 3, 1, 0⟩ ⟨4, 4, 1, 1⟩ [] false false (some "function"),
        node "arguments" true ⟨4, 4, 1, 1⟩ ⟨6, 6, 1, 3⟩ [
          node "(" false ⟨4, 4, 1, 1⟩ ⟨5, 5, 1, 2⟩,
          node "identifier" true ⟨5, 5, 1, 2⟩ ⟨6, 6, 1, 3⟩,
          node ")" false ⟨6, 6, 1, 3⟩ ⟨6, 6, 1, 3⟩ [] true true] true false (some "arguments")]
        true,
      node ";" false ⟨6, 6, 1, 3⟩ ⟨7, 7, 1, 4⟩] true] true

lemma isExact_tree : tree.IsExact := by
  unfold Node.IsExact
  decide +kernel

lemma find?_tree :
    tree.preorder.find? Node.isFaulty
      = some (node ")" false ⟨6, 6, 1, 3⟩ ⟨6, 6, 1, 3⟩ [] true true) := by
  simp [tree, node, Node.preorder, Node.preorderAll, Node.isFaulty, Node.info]

end Sample

/-- A missing parenthesis is reported behind nodes that say that there is no fault in them. -/
theorem parseWith_reports_missing :
    Sample.tree.IsMarked ∧
      parseWith (fun _ => some Sample.tree) "./get.ts" Sample.text.toUTF8
        = .error (.parse "./get.ts" "syntax error at 2:4") := by
  have marked := Sample.isExact_tree.isMarked
  have reports := parseWith_reports_first (fun _ => some Sample.tree) "./get.ts" Sample.text
    Sample.tree rfl marked
  exact ⟨marked, reports.2.2.2.1 _ Sample.find?_tree⟩

end TypeScript.Source

end RouteAtlas
