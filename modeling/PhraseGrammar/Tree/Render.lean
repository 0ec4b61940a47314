import PhraseGrammar.Tree.Basic

/-!
# Trees as text

A tree is drawn with one line for each node, in preorder. The root stands at the left margin; every
other node stands behind a connector, which says whether it is the last among its siblings, and
behind the rails of those of its ancestors that have siblings still to come.
-/

namespace PhraseGrammar
namespace Tree

/-- The connector in front of a node. -/
def connector (isLast : Bool) : Text := if isLast then "└── " else "├── "

/-- What stands below a connector, in front of the descendants of its node. -/
def rail (isLast : Bool) : Text := if isLast then "    " else "│   "

mutual

/-- The lines below a node, each beginning with a line break and the indentation. -/
def renderForest (indentation : Text) : List (Tree Text) -> Text
  | [] => []
  | tree :: rest =>
      "\n" ++ indentation ++ connector rest.isEmpty ++
        tree.renderBranch (indentation ++ rail rest.isEmpty) ++ renderForest indentation rest

/-- The label of a node and the lines below it. -/
def renderBranch (indentation : Text) : Tree Text -> Text
  | node label children => label ++ renderForest indentation children

end

/-- The drawing of a tree. -/
def render (tree : Tree Text) : Text := tree.renderBranch []

end Tree
end PhraseGrammar
