import PhraseGrammar.Ident

/-!
# Trees

Finite ordered trees with something at every node. The trees of this library carry labels; those
that are stored also carry an identifier at each node. `Tree.map` forgets or changes what the nodes
carry and keeps the shape, so "equal up to identifiers" is equality of the trees of labels.
-/

namespace PhraseGrammar

/-- An ordered tree with an element of `α` at every node. -/
inductive Tree (α : Type) : Type
  | node (root : α) (children : List (Tree α))
  deriving Repr

namespace Tree

/-- What the root carries. -/
def root : Tree α -> α
  | node root _ => root

/-- The trees below the root, in order. -/
def children : Tree α -> List (Tree α)
  | node _ children => children

@[simp] theorem root_node (root : α) (children : List (Tree α)) :
    (node root children).root = root := rfl

@[simp] theorem children_node (root : α) (children : List (Tree α)) :
    (node root children).children = children := rfl

mutual

/-- Change what every node carries. -/
def map (f : α -> β) : Tree α -> Tree β
  | node root children => node (f root) (mapForest f children)

/-- `Tree.map` on each tree of a list. -/
def mapForest (f : α -> β) : List (Tree α) -> List (Tree β)
  | [] => []
  | tree :: rest => tree.map f :: mapForest f rest

end

mutual

/-- The number of nodes on a longest path from the root. -/
def levels : Tree α -> Nat
  | node _ children => levelsForest children + 1

/-- The greatest number of levels among the trees of a list. -/
def levelsForest : List (Tree α) -> Nat
  | [] => 0
  | tree :: rest => max tree.levels (levelsForest rest)

end

mutual

/-- What the nodes carry, each with its depth, from the root downwards and from left to right. The
root has the depth given. -/
def preorder (depth : Nat) : Tree α -> List (Nat × α)
  | node root children => (depth, root) :: preorderForest (depth + 1) children

/-- `Tree.preorder` of the trees of a list, one after another. -/
def preorderForest (depth : Nat) : List (Tree α) -> List (Nat × α)
  | [] => []
  | tree :: rest => tree.preorder depth ++ preorderForest depth rest

end

@[simp] theorem mapForest_eq (f : α -> β) (trees : List (Tree α)) :
    mapForest f trees = trees.map (map f) := by
  induction trees with
  | nil => rfl
  | cons tree rest inductionHypothesis => simp [mapForest, inductionHypothesis]

@[simp] theorem map_node (f : α -> β) (root : α) (children : List (Tree α)) :
    (node root children).map f = node (f root) (children.map (map f)) := by
  simp [map]

end Tree

/-- What a node of a stored tree carries. -/
structure TreeLabel where
  id : Text
  label : Text
  deriving DecidableEq, Repr

/-- A tree whose nodes have labels and identifiers. -/
abbrev LabelledTree := Tree TreeLabel

namespace Tree

/-- The tree of labels, without the identifiers. -/
def labels (tree : LabelledTree) : Tree Text := tree.map TreeLabel.label

mutual

/-- Give every node of a tree of labels a new identifier. -/
def identify : Tree Text -> Supply.Taking LabelledTree
  | node label children => do
      let id ← Supply.take
      return node { id, label } (← identifyForest children)

/-- `Tree.identify` on each tree of a list. -/
def identifyForest : List (Tree Text) -> Supply.Taking (List LabelledTree)
  | [] => return []
  | tree :: rest => do
      let first ← tree.identify
      return first :: (← identifyForest rest)

end

mutual

/-- Identifying a tree of labels does not change the labels. -/
theorem labels_identify (tree : Tree Text) (supply : Supply) :
    (tree.identify supply).1.labels = tree := by
  match tree with
  | node label children =>
      exact (map_node ..).trans
        (congrArg (node label) (labels_identifyForest children (Supply.take supply).2))

/-- Identifying the trees of a list does not change the labels. -/
theorem labels_identifyForest (trees : List (Tree Text)) (supply : Supply) :
    (identifyForest trees supply).1.map labels = trees := by
  match trees with
  | [] => rfl
  | tree :: rest =>
      exact congr (congrArg List.cons (labels_identify tree supply))
        (labels_identifyForest rest (tree.identify supply).2)

end

end Tree
end PhraseGrammar
