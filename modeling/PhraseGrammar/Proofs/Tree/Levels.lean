import PhraseGrammar.Tree.Chain
import PhraseGrammar.Tree.Expansion

/-!
# The levels of trees

Relabelling a tree, and so identifying its nodes, leaves its levels as they are. A chain has a level
for each of its labels, and the general tree of a grammar has at most four.
-/

namespace PhraseGrammar
namespace Tree

theorem levelsForest_le_iff (trees : List (Tree α)) (bound : Nat) :
    levelsForest trees ≤ bound ↔ ∀ tree ∈ trees, tree.levels ≤ bound := by
  induction trees with
  | nil => simp [levelsForest]
  | cons tree trees inductionHypothesis =>
      rw [levelsForest, Nat.max_le, inductionHypothesis, List.forall_mem_cons]

mutual

/-- Relabelling keeps the levels. -/
theorem levels_map (f : α → β) (tree : Tree α) : (tree.map f).levels = tree.levels := by
  match tree with
  | .node root children => rw [map, levels, levels, levelsForest_mapForest f children]

theorem levelsForest_mapForest (f : α → β) (trees : List (Tree α)) :
    levelsForest (mapForest f trees) = levelsForest trees := by
  match trees with
  | [] => rfl
  | tree :: rest =>
      rw [mapForest, levelsForest, levelsForest, levels_map f tree, levelsForest_mapForest f rest]

end

/-- Identifying the nodes keeps the levels. -/
theorem levels_identify (tree : Tree Text) (supply : Supply) :
    (tree.identify supply).1.levels = tree.levels := by
  rw [← levels_map TreeLabel.label]
  exact congrArg levels (labels_identify tree supply)

theorem levels_chain (first : α) (rest : List α) : (chain first rest).levels = rest.length + 1 := by
  induction rest generalizing first with
  | nil => rfl
  | cons second rest inductionHypothesis =>
      simp [chain, levels, levelsForest, inductionHypothesis]

end Tree

namespace Grammar

theorem levels_of_mem_expand
    {grammar : Grammar}
    {levels : Nat}
    {symbol : Text}
    {tree : Tree Text}
    (member : tree ∈ grammar.expand levels symbol) :
    tree.levels ≤ levels := by
  induction levels generalizing symbol tree with
  | zero => cases member
  | succ levels inductionHypothesis =>
      obtain ⟨production, _, rfl⟩ := List.mem_map.mp member
      rw [Tree.levels]
      apply Nat.succ_le_succ
      apply (Tree.levelsForest_le_iff _ _).mpr
      intro below isBelow
      obtain ⟨c, _, isBelow⟩ := List.mem_flatMap.mp isBelow
      split at isBelow
      next => exact inductionHypothesis isBelow
      next => cases isBelow

theorem generalTree_of_wellFormed
    {grammar : Grammar}
    (wellFormed : grammar.WellFormed) :
    grammar.generalTree =
      .ok (.node grammar.startSymbol (grammar.expand expansionLevels grammar.startSymbol)) := by
  rw [generalTree, (verify_eq_ok_iff grammar).mpr wellFormed]
  rfl

/-- There is a general tree of a well-formed grammar, of at most four levels. -/
theorem exists_generalTree
    {grammar : Grammar}
    (wellFormed : grammar.WellFormed) :
    ∃ tree, grammar.generalTree = .ok tree ∧ tree.levels ≤ expansionLevels + 1 := by
  refine ⟨_, generalTree_of_wellFormed wellFormed, ?_⟩
  rw [Tree.levels]
  apply Nat.succ_le_succ
  exact (Tree.levelsForest_le_iff _ _).mpr fun _ => levels_of_mem_expand

end Grammar
end PhraseGrammar
