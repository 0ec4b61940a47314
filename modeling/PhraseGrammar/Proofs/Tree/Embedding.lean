import Mathlib.Data.List.Forall2
import PhraseGrammar.Proofs.Grammar.Validity
import PhraseGrammar.Proofs.Tree.Expansion

/-!
# General trees with more productions

A tree embeds in another if their roots agree and the children of the one embed in some of the
children of the other, in order. More productions, wherever they stand among the others, only add to
a general tree: the old tree embeds in the new one. Where the right sides that are added are new,
they also tell which nodes are new, and without these nodes the tree is the old one.
-/

namespace PhraseGrammar

/-! ## Embeddings -/

/-- The roots are the same, and the children of the first embed, in order, in some of the children
of the second. -/
inductive Tree.Embeds : Tree α → Tree α → Prop
  | node
      {root : α}
      {children children' : List (Tree α)}
      (below : List.SublistForall₂ Embeds children children') :
      Embeds (.node root children) (.node root children')

section Sublists

variable {related : α → β → Prop}

theorem sublistForall₂_append
    {front back : List α}
    {front' back' : List β}
    (inFront : List.SublistForall₂ related front front')
    (inBack : List.SublistForall₂ related back back') :
    List.SublistForall₂ related (front ++ back) (front' ++ back') := by
  rw [List.sublistForall₂_iff] at inFront inBack ⊢
  obtain ⟨images, areRelated, isSublist⟩ := inFront
  obtain ⟨images', areRelated', isSublist'⟩ := inBack
  exact ⟨images ++ images', List.rel_append areRelated areRelated', isSublist.append isSublist'⟩

theorem sublistForall₂_flatMap
    {parts : γ → List α}
    {parts' : γ → List β}
    (inParts : ∀ entry, List.SublistForall₂ related (parts entry) (parts' entry))
    (entries : List γ) :
    List.SublistForall₂ related (entries.flatMap parts) (entries.flatMap parts') := by
  induction entries with
  | nil => exact .nil
  | cons entry entries inductionHypothesis =>
      rw [List.flatMap_cons, List.flatMap_cons]
      exact sublistForall₂_append (inParts entry) inductionHypothesis

theorem sublistForall₂_map
    {image : γ → α}
    {image' : γ → β}
    (areRelated : ∀ entry, related (image entry) (image' entry))
    {entries entries' : List γ}
    (isSublist : entries.Sublist entries') :
    List.SublistForall₂ related (entries.map image) (entries'.map image') := by
  refine List.sublistForall₂_iff.mpr ⟨entries.map image', ?_, isSublist.map image'⟩
  rw [List.forall₂_map_left_iff, List.forall₂_map_right_iff, List.forall₂_same]
  exact fun entry _ => areRelated entry

end Sublists

/-! ## Deletions -/

namespace Tree

variable [DecidableEq α]

mutual

/-- Delete every node that carries `label`, with all that is below it. The root stays. -/
def prune (label : α) : Tree α → Tree α
  | node root children => node root (pruneForest label children)

/-- Delete such nodes from a list of trees, the roots among them. -/
def pruneForest (label : α) : List (Tree α) → List (Tree α)
  | [] => []
  | tree :: rest =>
      if tree.root = label then pruneForest label rest
      else tree.prune label :: pruneForest label rest

end

@[simp] theorem pruneForest_eq (label : α) (trees : List (Tree α)) :
    pruneForest label trees =
      (trees.filter fun tree => decide (tree.root ≠ label)).map (prune label) := by
  induction trees with
  | nil => rfl
  | cons tree rest inductionHypothesis =>
      by_cases isLabel : tree.root = label <;> simp [pruneForest, isLabel, inductionHypothesis]

end Tree

/-! ## General trees -/

namespace Grammar

variable {grammar extended : Grammar} (wellFormed : grammar.WellFormed)
  (wellFormed' : extended.WellFormed)

include wellFormed wellFormed'

/-- With more productions, the expansion of a symbol embeds in the new one. -/
theorem expand_embeds
    (isSublist : grammar.productions.Sublist extended.productions)
    (levels : Nat)
    (symbol : Text) :
    List.SublistForall₂ Tree.Embeds (grammar.expand levels symbol)
      (extended.expand levels symbol) := by
  induction levels generalizing symbol with
  | zero => exact .nil
  | succ levels inductionHypothesis =>
      rw [expand_succ wellFormed, expand_succ wellFormed']
      apply sublistForall₂_map _ (isSublist.filter _)
      intro production
      exact .node (sublistForall₂_flatMap (fun c => inductionHypothesis [c]) production.right)

/-- Without the productions of one right side, an expansion lacks the nodes of that label. -/
theorem pruneForest_expand
    {right : Text}
    (isWithout : grammar.productions =
      extended.productions.filter fun production => decide (production.right ≠ right))
    (levels : Nat)
    (symbol : Text) :
    Tree.pruneForest right (extended.expand levels symbol) = grammar.expand levels symbol := by
  induction levels generalizing symbol with
  | zero => rfl
  | succ levels inductionHypothesis =>
      rw [expand_succ wellFormed, expand_succ wellFormed', isWithout, List.filter_comm,
        Tree.pruneForest_eq, List.filter_map, List.map_map]
      apply congrArg (List.map · _)
      funext production
      rw [Function.comp_apply, Tree.prune, Tree.pruneForest_eq, List.filter_flatMap,
        List.map_flatMap]
      simp only [← Tree.pruneForest_eq, inductionHypothesis]

end Grammar

namespace Edit

/-- Adding a production to a well-formed grammar only adds to its general tree: the old tree embeds
in the new one. If no production had the new right side, the old tree comes back when all nodes
below the root with this label are deleted from the new one. -/
theorem generalTree_addProduction
    (grammar extended : Grammar)
    (wellFormed : grammar.WellFormed)
    (left right id : Text)
    (added : (addProduction left right).apply id grammar = .ok extended) :
    ∃ tree tree', grammar.generalTree = .ok tree ∧ extended.generalTree = .ok tree' ∧
      tree.Embeds tree' ∧
      ((∀ production ∈ grammar.productions, production.right ≠ right) →
        tree'.prune right = tree) := by
  obtain ⟨allowed, rfl⟩ := (apply_eq_ok_iff _ _ _ _).mp added
  have wellFormed' := wellFormed_perform wellFormed allowed id
  refine ⟨_, _, Grammar.generalTree_of_wellFormed wellFormed,
    Grammar.generalTree_of_wellFormed wellFormed', ?_, fun isNew => ?_⟩
  · exact .node (Grammar.expand_embeds wellFormed wellFormed' (List.sublist_append_left _ _) _ _)
  · have isWithout : grammar.productions =
        ((addProduction left right).perform id grammar).productions.filter
          fun production => decide (production.right ≠ right) := by
      rw [perform, List.filter_append, List.filter_eq_self.mpr (by simpa using isNew)]
      simp
    rw [Tree.prune, Grammar.pruneForest_expand wellFormed wellFormed' isWithout]
    rfl

/-- With `A -> b` behind the others, `b` appears in the middle of the children of `AS`, and again on
the last level. -/
theorem generalTree_addProduction_twice :
    let grammar : Grammar :=
      { terminals := [{ id := "t", value := "a" }]
        nonTerminals := [{ id := "n", value := "S" }, { id := "m", value := "A" }]
        startSymbol := "S"
        productions := [{ id := "p", left := "S", right := "AS" },
          { id := "q", left := "A", right := "a" }] }
    let extended : Grammar :=
      { grammar with
        productions := grammar.productions ++ [{ id := "r", left := "A", right := "b" }] }
    let tree : Tree Text :=
      .node "S" [.node "AS" [.node "a" [], .node "AS" [.node "a" [], .node "AS" []]]]
    let tree' : Tree Text :=
      .node "S" [.node "AS" [.node "a" [], .node "b" [],
        .node "AS" [.node "a" [], .node "b" [], .node "AS" []]]]
    grammar.WellFormed ∧ (addProduction "A" "b").apply "r" grammar = .ok extended ∧
      (∀ production ∈ grammar.productions, production.right ≠ "b".toList) ∧
      grammar.generalTree = .ok tree ∧ extended.generalTree = .ok tree' ∧
      tree.Embeds tree' ∧ tree'.prune "b".toList = tree := by
  intro grammar extended tree tree'
  have wellFormed : grammar.WellFormed := by decide
  have added : (addProduction "A" "b").apply "r" grammar = .ok extended := rfl
  have isNew : ∀ production ∈ grammar.productions, production.right ≠ "b".toList := by decide
  have isTree : grammar.generalTree = .ok tree := rfl
  have isTree' : extended.generalTree = .ok tree' := rfl
  obtain ⟨_, _, isGiven, isGiven', embeds, pruned⟩ :=
    generalTree_addProduction grammar extended wellFormed "A" "b" "r" added
  obtain rfl := Except.ok.inj (isTree.symm.trans isGiven)
  obtain rfl := Except.ok.inj (isTree'.symm.trans isGiven')
  exact ⟨wellFormed, added, isNew, isTree, isTree', embeds, pruned isNew⟩

end Edit
end PhraseGrammar
