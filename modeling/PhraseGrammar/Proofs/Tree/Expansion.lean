import PhraseGrammar.Proofs.Tree.Levels

/-!
# The shape of general trees

A general tree repeats the productions of its grammar. Below the root stand the right sides of the
start symbol, and below a right side those of its characters, one character after another; the
third level below the root is the last. Only nonterminals are expanded, but in a well-formed grammar
nothing else has productions, so this need not be said.
-/

namespace PhraseGrammar

/-- The tree below a node that stands at the given depth. -/
inductive Tree.HasAt (tree : Tree α) : Nat → Tree α → Prop
  | root : HasAt tree 0 tree
  | child
      {depth : Nat}
      {node child : Tree α}
      (isNode : HasAt tree depth node)
      (isChild : child ∈ node.children) :
      HasAt tree (depth + 1) child

namespace Grammar

/-- The right sides of the productions with the given left side, in the order of declaration. -/
def rightSides (grammar : Grammar) (left : Text) : List Text :=
  (grammar.productions.filter fun production => production.left == left).map Production.right

/-- A grammar has no general tree exactly if it is not well formed. -/
theorem generalTree_eq_error_iff (grammar : Grammar) :
    grammar.generalTree = .error .notWellFormed ↔ ¬grammar.WellFormed := by
  by_cases wellFormed : grammar.WellFormed
  · simp [generalTree_of_wellFormed wellFormed, wellFormed]
  · rw [generalTree, verify, if_neg wellFormed]
    exact iff_of_true rfl wellFormed

section Expansion

variable {grammar : Grammar}

/-- What is no nonterminal has no productions to expand. -/
theorem expand_eq_nil
    (wellFormed : grammar.WellFormed)
    {symbol : Text}
    (isOther : grammar.isNonTerminal symbol = false)
    (levels : Nat) :
    grammar.expand levels symbol = [] := by
  cases levels with
  | zero => rfl
  | succ levels =>
      rw [expand, List.map_eq_nil_iff, List.filter_eq_nil_iff]
      intro production member isLeft
      have declared := (wellFormed.productionsSound production member).1
      rw [beq_iff_eq.mp isLeft, isOther] at declared
      cases declared

/-- The expansions of all characters hang below a right side. -/
theorem expand_succ
    (wellFormed : grammar.WellFormed)
    (levels : Nat)
    (symbol : Text) :
    grammar.expand (levels + 1) symbol =
      (grammar.productions.filter fun production => production.left == symbol).map
        fun production =>
          .node production.right (production.right.flatMap fun c => grammar.expand levels [c]) := by
  have everyCharacter (c : Char) :
      (if grammar.isNonTerminal [c] then grammar.expand levels [c] else []) =
        grammar.expand levels [c] := by
    split
    next => rfl
    next isOther => exact (expand_eq_nil wellFormed (Bool.not_eq_true _ ▸ isOther) levels).symm
  simp only [expand, everyCharacter]

/-- The labels of an expansion that is not cut off are right sides. -/
theorem map_root_expand (grammar : Grammar) (levels : Nat) (symbol : Text) :
    (grammar.expand (levels + 1) symbol).map Tree.root = grammar.rightSides symbol := by
  rw [expand, rightSides, List.map_map]
  rfl

/-- A node at some depth below the root has the expansions of the characters of its label below it,
with so many levels as are left there. -/
theorem children_eq_of_hasAt
    (wellFormed : grammar.WellFormed)
    {start : Text}
    {levels depth : Nat}
    {node : Tree Text}
    (isNode : (Tree.node start (grammar.expand levels start)).HasAt (depth + 1) node) :
    ∃ rest, levels = depth + 1 + rest ∧
      node.children = node.root.flatMap fun c => grammar.expand rest [c] := by
  have ofExpansion {rest : Nat} {symbol : Text} {node : Tree Text}
      (member : node ∈ grammar.expand rest symbol) :
      ∃ fewer, rest = fewer + 1 ∧
        node.children = node.root.flatMap fun c => grammar.expand fewer [c] := by
    cases rest with
    | zero => cases member
    | succ fewer =>
        rw [expand_succ wellFormed] at member
        obtain ⟨production, _, rfl⟩ := List.mem_map.mp member
        exact ⟨fewer, rfl, rfl⟩
  induction depth generalizing node with
  | zero =>
      obtain _ | ⟨isRoot, isChild⟩ := isNode
      cases isRoot
      obtain ⟨fewer, rfl, children_eq⟩ := ofExpansion isChild
      exact ⟨fewer, Nat.add_comm .., children_eq⟩
  | succ depth inductionHypothesis =>
      obtain _ | ⟨isParent, isChild⟩ := isNode
      obtain ⟨rest, rfl, siblings_eq⟩ := inductionHypothesis isParent
      rw [siblings_eq] at isChild
      obtain ⟨c, _, isChild⟩ := List.mem_flatMap.mp isChild
      obtain ⟨fewer, rfl, children_eq⟩ := ofExpansion isChild
      exact ⟨fewer, by omega, children_eq⟩

/-- Before the last level, the labels below a node are the right sides of its characters. -/
theorem map_root_children_of_hasAt
    (wellFormed : grammar.WellFormed)
    {start : Text}
    {levels depth : Nat}
    {node : Tree Text}
    (isNode : (Tree.node start (grammar.expand levels start)).HasAt (depth + 1) node)
    (notLast : depth + 1 < levels) :
    node.children.map Tree.root = node.root.flatMap fun c => grammar.rightSides [c] := by
  obtain ⟨rest, isRest, children_eq⟩ := children_eq_of_hasAt wellFormed isNode
  obtain ⟨fewer, rfl⟩ : ∃ fewer, rest = fewer + 1 := Nat.exists_eq_add_of_le' (by omega)
  simp only [children_eq, List.map_flatMap, map_root_expand]

/-- On the last level all nodes are leaves. -/
theorem children_eq_nil_of_hasAt
    (wellFormed : grammar.WellFormed)
    {start : Text}
    {depth : Nat}
    {node : Tree Text}
    (isNode : (Tree.node start (grammar.expand (depth + 1) start)).HasAt (depth + 1) node) :
    node.children = [] := by
  obtain ⟨rest, isRest, children_eq⟩ := children_eq_of_hasAt wellFormed isNode
  obtain rfl : rest = 0 := by omega
  rw [children_eq]
  exact List.flatMap_eq_nil_iff.mpr fun _ _ => rfl

end Expansion

/-- A grammar has a general tree exactly if it is well formed. The root is the start symbol, above
the right sides of the start symbol; a node at depth 1 or 2 stands above the right sides of its
characters, in order; and a node at depth 3 is a leaf, so that there are at most four levels. -/
theorem generalTree_shape (grammar : Grammar) :
    (grammar.generalTree = .error .notWellFormed ↔ ¬grammar.WellFormed) ∧
    (grammar.WellFormed → ∃ tree, grammar.generalTree = .ok tree ∧
      tree.root = grammar.startSymbol ∧
      tree.children.map Tree.root = grammar.rightSides grammar.startSymbol ∧
      (∀ depth node, tree.HasAt depth node →
        (depth = 1 ∨ depth = 2 →
          node.children.map Tree.root = node.root.flatMap fun c => grammar.rightSides [c]) ∧
        (depth = 3 → node.children = [])) ∧
      tree.levels ≤ 4) := by
  refine ⟨generalTree_eq_error_iff grammar, fun wellFormed => ?_⟩
  obtain ⟨tree, isTree, atMost⟩ := exists_generalTree wellFormed
  obtain rfl := Except.ok.inj (isTree.symm.trans (generalTree_of_wellFormed wellFormed))
  refine ⟨_, isTree, rfl, map_root_expand grammar 2 _, fun depth node isNode => ⟨?_, ?_⟩, atMost⟩
  · rintro (rfl | rfl)
    · exact map_root_children_of_hasAt wellFormed isNode (by decide)
    · exact map_root_children_of_hasAt wellFormed isNode (by decide)
  · rintro rfl
    exact children_eq_nil_of_hasAt wellFormed isNode

/-- The right sides of `A` and `S` hang straight below `AS`, and on the third level below the root
nothing is expanded any more. -/
example :
    let grammar : Grammar :=
      { terminals := [{ id := "t", value := "a" }]
        nonTerminals := [{ id := "n", value := "S" }, { id := "m", value := "A" }]
        startSymbol := "S"
        productions := [{ id := "p", left := "S", right := "AS" },
          { id := "q", left := "A", right := "a" }] }
    grammar.generalTree =
      .ok (.node "S"
        [.node "AS" [.node "a" [], .node "AS" [.node "a" [], .node "AS" []]]]) :=
  rfl

end Grammar
end PhraseGrammar
