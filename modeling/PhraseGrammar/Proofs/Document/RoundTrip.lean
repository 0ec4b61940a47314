import PhraseGrammar.Proofs.Document.State
import PhraseGrammar.Proofs.Tree.Levels

/-!
# Round trips

Everything that is kept in documents is read back from both of its written forms, as long as no tree
in it has more than 63 levels. If some tree has more, then both forms are refused for their depth.
The bound is the same for a tree on its own, which may open 127 lists and records, and for a tree in
a state, where one of them is the record of the state: a level takes two.

`Format` says of a type how its things are written and read and which trees are in them. The record
kinds of the schema share one argument; the state has a reader of its own.
-/

namespace PhraseGrammar

open Document

/-- The two forms in which a value is written. -/
def Json.Value.writtenForms (value : Json.Value) : List Text := [value.compact, value.pretty]

theorem Json.spelled_of_mem_writtenForms
    {value : Value}
    (writable : value.Writable)
    {text : Text}
    (isForm : text ∈ value.writtenForms) :
    value.Spelled text := by
  rcases List.mem_pair.mp isForm with rfl | rfl
  · exact spelled_compact value writable
  · exact spelled_prettyAt value writable [] (by decide)

namespace Document

open Json

/-! ## Reading by a schema -/

section Schema

variable {schema : Schema} {value : Value} {text : Text}
  (spelled : value.Spelled text)
  (fits : Fits schema value)

include spelled fits

/-- A fitting value within the depth is read from each of its spellings. -/
theorem readText_spelled (within : value.nesting ≤ depthLimit) :
    readText schema text = .ok value := by
  obtain ⟨node, parsed, shown⟩ := ofText_spelled spelled
  simp only [readText, parsed, readNode_of_fits shown fits within, Option.getD_some]
  rfl

/-- A fitting value beyond the depth is not read from any of its spellings. -/
theorem readText_spelled_tooDeep (beyond : depthLimit < value.nesting) :
    ∃ malformed, readText schema text = .error malformed ∧ malformed.complaint = .tooDeep := by
  obtain ⟨node, parsed, shown⟩ := ofText_spelled spelled
  obtain ⟨fault, refused, complaint⟩ := tooDeep_readNode shown fits beyond
  exact ⟨.ofFault text fault, by simp only [readText, parsed, refused], complaint⟩

end Schema

/-! ## Formats -/

/-- How the things of a type are kept in documents: the value that is written, how a text is read,
and the trees that are in them. -/
structure Format (α : Type) where
  value : α → Value
  read : Text → Except Malformed α
  trees : α → List LabelledTree

namespace Format

/-- The format of the stored records of a kind. -/
def ofStored [Stored α] (trees : α → List LabelledTree) : Format α where
  value := Stored.toValue
  read := parse α
  trees := trees

/-- Symbols hold no trees. -/
def symbol : Format Symbol := ofStored fun _ => []

/-- Productions hold no trees. -/
def production : Format Production := ofStored fun _ => []

/-- Grammars hold no trees. -/
def grammar : Format Grammar := ofStored fun _ => []

/-- Steps of a derivation hold no trees. -/
def step : Format DerivationStep := ofStored fun _ => []

/-- Verdicts hold no trees. -/
def verdict : Format Verdict := ofStored fun _ => []

/-- A tree is the only tree that is kept in it. -/
def tree : Format LabelledTree := ofStored fun tree => [tree]

/-- A state holds the trees that are not absent. -/
def state : Format State where
  value := valueOfState
  read text := (parseState text).result
  trees state := state.derivationTree.toList ++ state.generalTree.toList

/-- The thing is got back from both of its written forms if all trees in it are within the limit,
and both are refused for their depth if some tree is beyond it. -/
structure RoundTrips (format : Format α) (record : α) : Prop where
  readBack :
    (∀ tree ∈ format.trees record, tree.levels ≤ levelLimit) →
      ∀ text ∈ (format.value record).writtenForms, format.read text = .ok record
  refused :
    (∃ tree ∈ format.trees record, levelLimit < tree.levels) →
      ∀ text ∈ (format.value record).writtenForms,
        ∃ malformed, format.read text = .error malformed ∧ malformed.complaint = .tooDeep

section Stored

variable [Stored α] [LawfulStored α]

/-- Stored records make the round trip if the limit on their trees is what keeps them within the
depth. -/
theorem roundTrips_ofStored
    {trees : α → List LabelledTree}
    {record : α}
    (within_iff : (Stored.toValue record).nesting ≤ depthLimit ↔
      ∀ tree ∈ trees record, tree.levels ≤ levelLimit) :
    (ofStored trees).RoundTrips record := by
  have fits : Fits (Stored.schema α) (Stored.toValue record) := LawfulStored.fits record
  have writable := LawfulStored.writable record
  constructor
  · intro shallow text isForm
    have isRead := readText_spelled (spelled_of_mem_writtenForms writable isForm) fits
      (within_iff.mpr shallow)
    change (readText (Stored.schema α) text).map Stored.ofValue = .ok record
    rw [isRead]
    exact congrArg Except.ok (LawfulStored.ofValue_toValue record)
  · rintro ⟨tree, isTree, deep⟩ text isForm
    have beyond : depthLimit < (Stored.toValue record).nesting := by
      by_contra within
      have := within_iff.mp (Nat.not_lt.mp within) tree isTree
      omega
    obtain ⟨malformed, isRefused, complaint⟩ :=
      readText_spelled_tooDeep (spelled_of_mem_writtenForms writable isForm) fits beyond
    refine ⟨malformed, ?_, complaint⟩
    change (readText (Stored.schema α) text).map Stored.ofValue = .error malformed
    rw [isRefused]
    rfl

/-- Records that are never nested deeply make the round trip. -/
theorem roundTrips_of_flat
    {record : α}
    (flat : (Stored.toValue record).nesting ≤ 3) :
    (ofStored fun _ : α => []).RoundTrips record :=
  roundTrips_ofStored (iff_of_true (flat.trans (by decide)) fun _ absent => nomatch absent)

end Stored

theorem roundTrips_tree (record : LabelledTree) : tree.RoundTrips record := by
  apply roundTrips_ofStored
  rw [show Stored.toValue record = valueOfTree record from rfl, nesting_valueOfTree,
    List.forall_mem_singleton]
  simp only [depthLimit, levelLimit]
  omega

/-- The trees of a state are within the limit exactly if the state is shallow. -/
theorem forall_mem_trees_state_iff (record : State) :
    (∀ tree ∈ state.trees record, tree.levels ≤ levelLimit) ↔ record.Shallow := by
  simp only [state, List.mem_append, Option.mem_toList]
  constructor
  · intro within
    exact ⟨fun tree isTree => within tree (.inl isTree),
      fun tree isTree => within tree (.inr isTree)⟩
  · rintro shallow tree (isTree | isTree)
    · exact shallow.derivationTree tree isTree
    · exact shallow.generalTree tree isTree

theorem roundTrips_state (record : State) : state.RoundTrips record := by
  have writable := writable_valueOfState record
  constructor
  · intro within text isForm
    have shallow := (forall_mem_trees_state_iff record).mp within
    exact congrArg Reading.result
      (parseState_spelled (spelled_of_mem_writtenForms writable isForm) shallow)
  · rintro ⟨tree, isTree, deep⟩ text isForm
    have notShallow : ¬record.Shallow := by
      intro shallow
      have := (forall_mem_trees_state_iff record).mpr shallow tree isTree
      omega
    obtain ⟨malformed, isRefused, complaint⟩ :=
      parseState_spelled_tooDeep (spelled_of_mem_writtenForms writable isForm) notShallow
    exact ⟨malformed, congrArg Reading.result isRefused, complaint⟩

end Format

/-- Symbols, productions, grammars, steps, verdicts, trees and states, whatever texts, numbers and
absent records are in them, are got back from both of their written forms if no tree in them has
more than 63 levels, and refused from both if some tree has more. -/
theorem roundTrips_iff_levels :
    (∀ symbol, Format.symbol.RoundTrips symbol) ∧
    (∀ production, Format.production.RoundTrips production) ∧
    (∀ grammar, Format.grammar.RoundTrips grammar) ∧
    (∀ step, Format.step.RoundTrips step) ∧
    (∀ verdict, Format.verdict.RoundTrips verdict) ∧
    (∀ tree, Format.tree.RoundTrips tree) ∧
    (∀ state, Format.state.RoundTrips state) := by
  refine ⟨?_, ?_, ?_, ?_, ?_, Format.roundTrips_tree, Format.roundTrips_state⟩
  · exact fun _ => Format.roundTrips_of_flat (show 1 ≤ 3 by decide)
  · exact fun _ => Format.roundTrips_of_flat (show 1 ≤ 3 by decide)
  · exact fun grammar => Format.roundTrips_of_flat (nesting_grammar_le grammar)
  · exact fun _ => Format.roundTrips_of_flat (show 1 ≤ 3 by decide)
  · exact fun verdict => Format.roundTrips_of_flat (nesting_verdict_le verdict)

/-- A chain of nodes, each with an identifier and a label that have to be escaped. -/
def escapedChain (below : Nat) : LabelledTree :=
  let label : TreeLabel := { id := "\"", label := ['\\', '\x00', '\u2028'] }
  Tree.chain label (List.replicate below label)

/-- A chain of 63 nodes is got back, and one of 64 is refused. -/
theorem roundTrips_iff_levels_chain :
    Format.tree.read (Format.tree.value (escapedChain 62)).compact = .ok (escapedChain 62) ∧
    ∃ malformed, Format.tree.read (Format.tree.value (escapedChain 63)).pretty = .error malformed ∧
      malformed.complaint = .tooDeep := by
  obtain ⟨_, _, _, _, _, ofTree, _⟩ := roundTrips_iff_levels
  have levels (below : Nat) : (escapedChain below).levels = below + 1 := by
    rw [escapedChain, Tree.levels_chain, List.length_replicate]
  constructor
  · refine (ofTree _).readBack ?_ _ (List.mem_cons_self ..)
    exact List.forall_mem_singleton.mpr ((levels 62).trans_le (by decide))
  · refine (ofTree _).refused ⟨_, List.mem_singleton_self _, ?_⟩ _
      (List.mem_cons_of_mem _ (List.mem_singleton_self _))
    exact (show levelLimit < 64 by decide).trans_eq (levels 63).symm

end Document
end PhraseGrammar
