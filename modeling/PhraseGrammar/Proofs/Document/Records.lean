import PhraseGrammar.Document.Stored
import PhraseGrammar.Proofs.Document.Fitting
import PhraseGrammar.Proofs.Json.Spelling

/-!
# The values of stored records

Each stored record is got back from its value, which fits the schema and is written without loss.
Records other than trees are never nested by more than three lists and records. A tree is nested by
twice its levels: a record for each level, and the list of the children in it.
-/

namespace PhraseGrammar
namespace Document

open Json

/-- Things that are got back from the values they are stored as. -/
class LawfulStored (α : Type) [Stored α] : Prop where
  ofValue_toValue (record : α) : Stored.ofValue (Stored.toValue record) = record
  fits (record : α) : Fits (Stored.schema α) (Stored.toValue record)
  writable (record : α) : (Stored.toValue record).Writable

/-! ## Lists of records -/

section Lists

variable [Stored α] [LawfulStored α]

theorem itemsOf_listOf (items : List α) : itemsOf (listOf items) = items := by
  have inverse : Stored.ofValue ∘ Stored.toValue = (id : α → α) :=
    funext LawfulStored.ofValue_toValue
  rw [listOf, itemsOf, List.map_map, inverse, List.map_id]

theorem fits_listOf (items : List α) : Fits (.list (Stored.schema α)) (listOf items) := by
  apply Fits.list
  induction items with
  | nil => exact .nil _
  | cons item items inductionHypothesis =>
      exact .cons (LawfulStored.fits item) inductionHypothesis

theorem writable_listOf (items : List α) : (listOf items).Writable := by
  rw [listOf, Value.Writable]
  induction items with
  | nil => trivial
  | cons item items inductionHypothesis =>
      exact ⟨LawfulStored.writable item, inductionHypothesis⟩

end Lists

/-- A list is nested by one more than its items. -/
theorem nesting_listOf_le
    [Stored α]
    {bound : Nat}
    (within : ∀ item : α, (Stored.toValue item).nesting ≤ bound)
    (items : List α) :
    (listOf items).nesting ≤ bound + 1 := by
  rw [listOf, Value.nesting]
  apply Nat.succ_le_succ
  induction items with
  | nil => exact Nat.zero_le _
  | cons item items inductionHypothesis => exact Nat.max_le.mpr ⟨within item, inductionHypothesis⟩

/-! ## Grammars and verdicts -/

instance : LawfulStored Symbol where
  ofValue_toValue _ := rfl
  fits _ := .record (.cons _ (.text _) (.cons _ (.text _) .nil))
  writable _ := ⟨trivial, trivial, trivial⟩

instance : LawfulStored Production where
  ofValue_toValue _ := rfl
  fits _ := .record (.cons _ (.text _) (.cons _ (.text _) (.cons _ (.text _) .nil)))
  writable _ := ⟨trivial, trivial, trivial, trivial⟩

instance : LawfulStored Grammar where
  ofValue_toValue grammar := by
    simp only [Stored.ofValue, Stored.toValue, itemsOf_listOf]
  fits grammar :=
    .record (.cons _ (fits_listOf grammar.terminals) (.cons _ (fits_listOf grammar.nonTerminals)
      (.cons _ (.text _) (.cons _ (fits_listOf grammar.productions) .nil))))
  writable grammar :=
    ⟨writable_listOf grammar.terminals, writable_listOf grammar.nonTerminals, trivial,
      writable_listOf grammar.productions, trivial⟩

instance : LawfulStored DerivationStep where
  ofValue_toValue step := by
    simp only [Stored.ofValue, Stored.toValue, UInt64.ofNat_toNat]
  fits _ := .record (.cons _ (.text _) (.cons _ (.count _) .nil))
  writable step := ⟨trivial, step.place.toNat_lt_size, trivial⟩

instance : LawfulStored Verdict where
  ofValue_toValue verdict := by
    simp only [Stored.ofValue, Stored.toValue, itemsOf_listOf]
  fits verdict :=
    .record (.cons _ (.flag _) (.cons _ (fits_listOf verdict.steps) (.cons _ (.text _) .nil)))
  writable verdict := ⟨trivial, writable_listOf verdict.steps, trivial, trivial⟩

theorem nesting_grammar_le (grammar : Grammar) : (Stored.toValue grammar).nesting ≤ 3 := by
  have terminals := nesting_listOf_le (fun symbol : Symbol => Nat.le_refl 1) grammar.terminals
  have nonTerminals := nesting_listOf_le (fun symbol : Symbol => Nat.le_refl 1) grammar.nonTerminals
  have productions :=
    nesting_listOf_le (fun production : Production => Nat.le_refl 1) grammar.productions
  simp only [Stored.toValue, Value.nesting, membersNesting]
  omega

theorem nesting_verdict_le (verdict : Verdict) : (Stored.toValue verdict).nesting ≤ 3 := by
  have steps := nesting_listOf_le (fun step : DerivationStep => Nat.le_refl 1) verdict.steps
  simp only [Stored.toValue, Value.nesting, membersNesting]
  omega

/-! ## Trees -/

mutual

theorem treeOfValue_valueOfTree (tree : LabelledTree) :
    treeOfValue (valueOfTree tree) = tree := by
  match tree with
  | .node root children =>
      rw [valueOfTree, treeOfValue, forestOfValues_valuesOfForest children]

theorem forestOfValues_valuesOfForest (trees : List LabelledTree) :
    forestOfValues (valuesOfForest trees) = trees := by
  match trees with
  | [] => rfl
  | tree :: rest =>
      rw [valuesOfForest, forestOfValues, treeOfValue_valueOfTree tree,
        forestOfValues_valuesOfForest rest]

end

mutual

theorem fits_valueOfTree (tree : LabelledTree) : Fits (.record .tree) (valueOfTree tree) := by
  match tree with
  | .node root children =>
      exact .record (.cons _ (.text _) (.cons _ (.text _)
        (.cons _ (.list (fit_valuesOfForest children)) .nil)))

theorem fit_valuesOfForest (trees : List LabelledTree) :
    ItemsFit (.record .tree) (valuesOfForest trees) := by
  match trees with
  | [] => exact .nil _
  | tree :: rest => exact .cons (fits_valueOfTree tree) (fit_valuesOfForest rest)

end

mutual

theorem writable_valueOfTree (tree : LabelledTree) : (valueOfTree tree).Writable := by
  match tree with
  | .node root children => exact ⟨trivial, trivial, writable_valuesOfForest children, trivial⟩

theorem writable_valuesOfForest (trees : List LabelledTree) :
    ItemsWritable (valuesOfForest trees) := by
  match trees with
  | [] => trivial
  | tree :: rest => exact ⟨writable_valueOfTree tree, writable_valuesOfForest rest⟩

end

instance : LawfulStored LabelledTree where
  ofValue_toValue := treeOfValue_valueOfTree
  fits := fits_valueOfTree
  writable := writable_valueOfTree

mutual

/-- The value of a tree is nested by twice the levels of the tree. -/
theorem nesting_valueOfTree (tree : LabelledTree) :
    (valueOfTree tree).nesting = 2 * tree.levels := by
  match tree with
  | .node root children =>
      have below := itemsNesting_valuesOfForest children
      simp only [valueOfTree, Value.nesting, membersNesting, Tree.levels] at below ⊢
      omega

theorem itemsNesting_valuesOfForest (trees : List LabelledTree) :
    itemsNesting (valuesOfForest trees) = 2 * Tree.levelsForest trees := by
  match trees with
  | [] => rfl
  | tree :: rest =>
      have first := nesting_valueOfTree tree
      have others := itemsNesting_valuesOfForest rest
      simp only [valuesOfForest, itemsNesting, Tree.levelsForest]
      omega

end

/-- What fits the schema of trees has the three members of a tree. -/
theorem Fits.exists_eq_record
    {value : Value}
    (fits : Fits (.record .tree) value) :
    ∃ id label children,
      value = .record [("id", .text id), ("node", .text label), ("children", .list children)] ∧
        ItemsFit (.record .tree) children := by
  obtain _ | _ | _ | _ | fit := fits
  obtain _ | ⟨_, ⟨id⟩, fit⟩ := fit
  obtain _ | ⟨_, ⟨label⟩, fit⟩ := fit
  obtain _ | ⟨_, children, fit⟩ := fit
  obtain _ | _ | _ | children := children
  obtain _ | _ := fit
  exact ⟨id, label, _, rfl, children⟩

mutual

/-- What fits the schema of trees is the value of a tree. -/
theorem exists_valueOfTree_eq
    (value : Value)
    (fits : Fits (.record .tree) value) :
    ∃ tree, valueOfTree tree = value := by
  obtain ⟨id, label, children, rfl, fit⟩ := fits.exists_eq_record
  obtain ⟨trees, rfl⟩ := exists_valuesOfForest_eq children fit
  exact ⟨.node { id, label } trees, rfl⟩
termination_by sizeOf value

/-- What fits the schema of trees item by item are the values of some trees. -/
theorem exists_valuesOfForest_eq
    (values : List Value)
    (fit : ItemsFit (.record .tree) values) :
    ∃ trees, valuesOfForest trees = values := by
  match values, fit with
  | [], _ => exact ⟨[], rfl⟩
  | value :: rest, .cons first more =>
      obtain ⟨tree, rfl⟩ := exists_valueOfTree_eq value first
      obtain ⟨trees, rfl⟩ := exists_valuesOfForest_eq rest more
      exact ⟨tree :: trees, rfl⟩
termination_by sizeOf values

end

/-- What fits the schema of trees is nested by twice the levels of the tree got from it. -/
theorem Fits.nesting_eq {value : Value} (fits : Fits (.record .tree) value) :
    value.nesting = 2 * (treeOfValue value).levels := by
  obtain ⟨tree, rfl⟩ := exists_valueOfTree_eq value fits
  rw [nesting_valueOfTree, treeOfValue_valueOfTree]

end Document
end PhraseGrammar
