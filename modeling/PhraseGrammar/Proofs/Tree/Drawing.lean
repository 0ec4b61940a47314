import Mathlib.Data.List.Forall2
import PhraseGrammar.Tree.Render

/-!
# Reading a drawing

The drawing of a tree has one line for each node, in preorder. From such a line the depth and the
label of its node can be told: rails and connectors are of one width and never alike, so the first
connector ends what stands in front of the label, whatever the label looks like. And labels with
their depths, in preorder, determine the tree. So trees with the same drawing are the same, if no
label goes on over several lines.
-/

namespace PhraseGrammar
namespace Tree

/-! ## Trees from their nodes in preorder -/

/-- The list is at its end, or goes on further up than the given depth. -/
def EndsAt (depth : Nat) (nodes : List (Nat × α)) : Prop :=
  ∀ node ∈ nodes.head?, node.1 < depth

/-- Behind a forest the list of its nodes goes on where the forest does not. -/
theorem endsAt_preorderForest_append
    {depth : Nat}
    {rest : List (Nat × α)}
    (ends : EndsAt depth rest)
    (trees : List (Tree α)) :
    EndsAt (depth + 1) (preorderForest depth trees ++ rest) := by
  intro node isFirst
  cases trees with
  | nil => exact Nat.lt_succ_of_lt (ends node isFirst)
  | cons tree trees =>
      obtain ⟨root, children⟩ := tree
      cases isFirst
      exact Nat.lt_succ_self depth

/-- The nodes of a forest in preorder, with their depths, determine the forest, and where its nodes
end. -/
theorem preorderForest_append_inj
    {depth : Nat}
    {rest rest' : List (Nat × α)}
    (ends : EndsAt depth rest)
    (ends' : EndsAt depth rest')
    (trees trees' : List (Tree α))
    (same : preorderForest depth trees ++ rest = preorderForest depth trees' ++ rest') :
    trees = trees' ∧ rest = rest' := by
  match trees, trees' with
  | [], [] => exact ⟨rfl, same⟩
  | [], .node root' children' :: others' =>
      obtain rfl : rest = (depth, root') :: _ := same
      exact absurd (ends (depth, root') rfl) (Nat.lt_irrefl depth)
  | .node root children :: others, [] =>
      obtain rfl : rest' = (depth, root) :: _ := same.symm
      exact absurd (ends' (depth, root) rfl) (Nat.lt_irrefl depth)
  | .node root children :: others, .node root' children' :: others' =>
      simp only [preorderForest, preorder, List.append_assoc, List.cons_append, List.cons.injEq,
        Prod.mk.injEq, true_and] at same
      obtain ⟨rfl, sameBelow⟩ := same
      obtain ⟨rfl, sameBehind⟩ :=
        preorderForest_append_inj (endsAt_preorderForest_append ends others)
          (endsAt_preorderForest_append ends' others') children children' sameBelow
      obtain ⟨rfl, sameRest⟩ := preorderForest_append_inj ends ends' others others' sameBehind
      exact ⟨rfl, sameRest⟩

/-- The nodes of a forest in preorder, with their depths, determine the forest. -/
theorem preorderForest_injective (depth : Nat) :
    Function.Injective (preorderForest depth : List (Tree α) → List (Nat × α)) := by
  intro trees trees' same
  have noneBehind : EndsAt depth ([] : List (Nat × α)) := nofun
  exact (preorderForest_append_inj noneBehind noneBehind trees trees' (by simpa using same)).1

/-! ## Lines -/

/-- A line that draws a node below the root, given by its depth and its label: a rail for each
ancestor below the root, the connector of the node, and its label. -/
inductive DrawnBelow : Nat × Text → Text → Prop
  | line (rails : List Bool) (isLast : Bool) (label : Text) :
      DrawnBelow (rails.length + 1, label) (rails.flatMap rail ++ connector isLast ++ label)

/-- A line that draws a node, given by its depth and its label. -/
inductive DrawnAs : Nat × Text → Text → Prop
  | root (label : Text) : DrawnAs (0, label) label
  | below {node : Nat × Text} {line : Text} (isBelow : DrawnBelow node line) : DrawnAs node line

theorem length_rail (isLast : Bool) : (rail isLast).length = 4 := by
  cases isLast <;> rfl

theorem length_connector (isLast : Bool) : (connector isLast).length = 4 := by
  cases isLast <;> rfl

theorem connector_ne_rail (isLast isLast' : Bool) : connector isLast ≠ rail isLast' := by
  cases isLast <;> cases isLast' <;> decide

/-- How many rails stand in front of the first connector, and the label behind it, can be told from
the line. -/
theorem rails_and_label_eq
    {rails rails' : List Bool}
    {isLast isLast' : Bool}
    {label label' : Text}
    (same : rails.flatMap rail ++ (connector isLast ++ label) =
      rails'.flatMap rail ++ (connector isLast' ++ label')) :
    rails.length = rails'.length ∧ label = label' := by
  induction rails generalizing rails' with
  | nil =>
      cases rails' with
      | nil =>
          have sameWidth := (length_connector isLast).trans (length_connector isLast').symm
          exact ⟨rfl, List.append_inj_right same sameWidth⟩
      | cons other rails' =>
          rw [List.flatMap_nil, List.nil_append, List.flatMap_cons, List.append_assoc] at same
          have sameWidth := (length_connector isLast).trans (length_rail other).symm
          exact absurd (List.append_inj_left same sameWidth) (connector_ne_rail isLast other)
  | cons first rails inductionHypothesis =>
      rw [List.flatMap_cons, List.append_assoc] at same
      cases rails' with
      | nil =>
          rw [List.flatMap_nil, List.nil_append] at same
          have sameWidth := (length_connector isLast').trans (length_rail first).symm
          exact absurd (List.append_inj_left same.symm sameWidth) (connector_ne_rail isLast' first)
      | cons other rails' =>
          rw [List.flatMap_cons, List.append_assoc] at same
          have sameWidth := (length_rail first).trans (length_rail other).symm
          obtain ⟨sameLength, sameLabel⟩ :=
            inductionHypothesis (List.append_inj_right same sameWidth)
          exact ⟨congrArg Nat.succ sameLength, sameLabel⟩

/-- A line below the first draws only one node. -/
theorem DrawnBelow.unique
    {node node' : Nat × Text}
    {line : Text}
    (isDrawn : DrawnBelow node line)
    (isDrawn' : DrawnBelow node' line) :
    node = node' := by
  obtain ⟨rails, isLast, label⟩ := isDrawn
  generalize isLine : rails.flatMap rail ++ connector isLast ++ label = line at isDrawn'
  obtain ⟨rails', isLast', label'⟩ := isDrawn'
  rw [List.append_assoc, List.append_assoc] at isLine
  obtain ⟨sameLength, rfl⟩ := rails_and_label_eq isLine
  rw [sameLength]

/-- A label without line breaks is drawn on one line. -/
theorem DrawnBelow.lineBreak_notMem
    {node : Nat × Text}
    {line : Text}
    (isDrawn : DrawnBelow node line)
    (oneLine : '\n' ∉ node.2) :
    '\n' ∉ line := by
  obtain ⟨rails, isLast, label⟩ := isDrawn
  have inNoRail (isLast : Bool) : '\n' ∉ rail isLast := by cases isLast <;> decide
  have inNoConnector : '\n' ∉ connector isLast := by cases isLast <;> decide
  simp only [List.mem_append, List.mem_flatMap, not_or, not_exists, not_and]
  exact ⟨⟨fun isLast _ => inNoRail isLast, inNoConnector⟩, oneLine⟩

/-- The nodes of a list of lines can be told from them. -/
theorem eq_of_forall₂_drawnBelow
    {nodes nodes' : List (Nat × Text)}
    {lines : List Text}
    (areDrawn : List.Forall₂ DrawnBelow nodes lines)
    (areDrawn' : List.Forall₂ DrawnBelow nodes' lines) :
    nodes = nodes' := by
  induction areDrawn generalizing nodes' with
  | nil =>
      cases areDrawn'
      rfl
  | cons isDrawn _ inductionHypothesis =>
      obtain _ | ⟨isDrawn', areDrawn'⟩ := areDrawn'
      rw [isDrawn.unique isDrawn', inductionHypothesis areDrawn']

theorem lineBreak_notMem_of_forall₂
    {nodes : List (Nat × Text)}
    {lines : List Text}
    (areDrawn : List.Forall₂ DrawnBelow nodes lines)
    (oneLine : ∀ node ∈ nodes, '\n' ∉ node.2) :
    ∀ line ∈ lines, '\n' ∉ line := by
  induction areDrawn with
  | nil => exact nofun
  | cons isDrawn _ inductionHypothesis =>
      rw [List.forall_mem_cons] at oneLine ⊢
      exact ⟨isDrawn.lineBreak_notMem oneLine.1, inductionHypothesis oneLine.2⟩

/-! ## Drawings -/

/-- The lines below a node draw its descendants in preorder. -/
theorem exists_drawnBelow_renderForest (rails : List Bool) (trees : List (Tree Text)) :
    ∃ lines, renderForest (rails.flatMap rail) trees = lines.flatMap ('\n' :: ·) ∧
      List.Forall₂ DrawnBelow (preorderForest (rails.length + 1) trees) lines := by
  match trees with
  | [] => exact ⟨[], rfl, .nil⟩
  | .node label children :: rest =>
      obtain ⟨below, renderBelow, drawBelow⟩ :=
        exists_drawnBelow_renderForest (rails ++ [rest.isEmpty]) children
      obtain ⟨behind, renderBehind, drawBehind⟩ := exists_drawnBelow_renderForest rails rest
      have deeper : (rails ++ [rest.isEmpty]).flatMap rail =
          rails.flatMap rail ++ rail rest.isEmpty := by simp
      rw [deeper] at renderBelow
      rw [List.length_append] at drawBelow
      refine ⟨(rails.flatMap rail ++ connector rest.isEmpty ++ label) :: (below ++ behind), ?_, ?_⟩
      · rw [renderForest, renderBranch, renderBelow, renderBehind]
        simp
      · exact .cons (.line rails rest.isEmpty label) (List.rel_append drawBelow drawBehind)

/-- No label goes on over several lines. -/
def OnOneLine (tree : Tree Text) : Prop :=
  ∀ node ∈ tree.preorder 0, '\n' ∉ node.2

instance (tree : Tree Text) : Decidable tree.OnOneLine :=
  inferInstanceAs (Decidable (∀ node ∈ _, _))

/-- The lines of a drawing: the label of the root, and lines that draw the other nodes in
preorder. -/
theorem exists_splitOn_render
    {root : Text}
    {children : List (Tree Text)}
    (oneLine : (node root children).OnOneLine) :
    ∃ lines, (node root children).render.splitOn '\n' = root :: lines ∧
      List.Forall₂ DrawnBelow (preorderForest 1 children) lines := by
  obtain ⟨lines, rendered, areDrawn⟩ := exists_drawnBelow_renderForest [] children
  refine ⟨lines, ?_, areDrawn⟩
  obtain ⟨rootOneLine, othersOneLine⟩ := List.forall_mem_cons.mp oneLine
  have isJoined : (node root children).render = Text.joined ['\n'] (root :: lines) := by
    rw [Text.joined_cons, render, renderBranch]
    exact congrArg (root ++ ·) rendered
  have noBreaks : ∀ line ∈ root :: lines, '\n' ∉ line :=
    List.forall_mem_cons.mpr ⟨rootOneLine, lineBreak_notMem_of_forall₂ areDrawn othersOneLine⟩
  rw [isJoined]
  exact List.splitOn_intercalate '\n' noBreaks (List.cons_ne_nil root lines)

/-- The drawing of a tree determines it. -/
theorem eq_of_render_eq
    {tree tree' : Tree Text}
    (oneLine : tree.OnOneLine)
    (oneLine' : tree'.OnOneLine)
    (same : tree.render = tree'.render) :
    tree = tree' := by
  obtain ⟨root, children⟩ := tree
  obtain ⟨root', children'⟩ := tree'
  obtain ⟨lines, isSplit, areDrawn⟩ := exists_splitOn_render oneLine
  obtain ⟨lines', isSplit', areDrawn'⟩ := exists_splitOn_render oneLine'
  rw [same, isSplit'] at isSplit
  obtain ⟨rfl, rfl⟩ := List.cons.inj isSplit
  rw [preorderForest_injective 1 (eq_of_forall₂_drawnBelow areDrawn areDrawn')]

/-- The drawing of a tree whose labels have no line breaks has one line for each node, in preorder,
each with the label of its node at the end; and no other such tree is drawn alike, up to
identifiers. -/
theorem render_unambiguous
    (tree : LabelledTree)
    (oneLine : tree.labels.OnOneLine) :
    List.Forall₂ DrawnAs (tree.labels.preorder 0) (tree.labels.render.splitOn '\n') ∧
      ∀ other : LabelledTree, other.labels.OnOneLine →
        other.labels.render = tree.labels.render → other.labels = tree.labels := by
  refine ⟨?_, fun other oneLine' same => eq_of_render_eq oneLine' oneLine same⟩
  generalize tree.labels = tree at oneLine
  obtain ⟨root, children⟩ := tree
  obtain ⟨lines, isSplit, areDrawn⟩ := exists_splitOn_render oneLine
  rw [isSplit]
  exact .cons (.root root) (areDrawn.imp fun _ _ => .below)

/-- A label that looks like a connector and a label is not taken for them. -/
theorem render_unambiguous_connector :
    let tree (id label : Text) (below : List LabelledTree) : LabelledTree :=
      .node ⟨id, "S"⟩ [.node ⟨id, label⟩ below]
    let leaf := tree "i" "└── a" []
    let renamed := tree "k" "└── a" []
    let nested := tree "i" "" [.node ⟨"i", "a"⟩ []]
    leaf.labels.OnOneLine ∧ renamed.labels.OnOneLine ∧ nested.labels.OnOneLine ∧
      leaf.labels.render = "S\n└── └── a".toList ∧
      nested.labels.render = "S\n└── \n    └── a".toList ∧
      List.Forall₂ DrawnAs [(0, "S"), (1, "└── a")] ["S", "└── └── a"] ∧
      renamed.labels = leaf.labels ∧ nested.labels.render ≠ leaf.labels.render := by
  intro tree leaf renamed nested
  have oneLine : leaf.labels.OnOneLine := by decide
  have oneLine' : renamed.labels.OnOneLine := by decide
  have oneLine'' : nested.labels.OnOneLine := by decide
  have isDrawn : leaf.labels.render = "S\n└── └── a".toList := by decide +kernel
  have isDrawn' : renamed.labels.render = leaf.labels.render := by decide +kernel
  have isDrawn'' : nested.labels.render = "S\n└── \n    └── a".toList := by decide +kernel
  have isSplit : leaf.labels.render.splitOn '\n' = ["S", "└── └── a"] := by decide +kernel
  obtain ⟨drawn, onlyTree⟩ := render_unambiguous leaf oneLine
  rw [isSplit] at drawn
  refine ⟨oneLine, oneLine', oneLine'', isDrawn, isDrawn'', drawn,
    onlyTree renamed oneLine' isDrawn', fun same => ?_⟩
  exact absurd (congrArg (preorder 0) (onlyTree nested oneLine'' same)) (by decide)

end Tree
end PhraseGrammar
