import PhraseGrammar.Document.State
import PhraseGrammar.Proofs.Document.Records

/-!
# Reading back the state document

A state is read back from any spelling of its value exactly if it is shallow: no tree in it has more
than 63 levels. A state that is not shallow can still be written, but nothing is read from what is
written, because the reader meets too many open lists and records. And whatever the text, a state
that is read from it is shallow.
-/

namespace PhraseGrammar

/-- The greatest number of levels of a tree that is read back. -/
def levelLimit : Nat := 63

namespace State

/-- No tree in the state has more levels than can be read back. -/
structure Shallow (state : State) : Prop where
  derivationTree : ∀ tree ∈ state.derivationTree, tree.levels ≤ levelLimit
  generalTree : ∀ tree ∈ state.generalTree, tree.levels ≤ levelLimit

theorem shallow_empty : empty.Shallow where
  derivationTree _ absent := nomatch absent
  generalTree _ absent := nomatch absent

end State

namespace Document

open Json

/-! ## The fields of a state -/

/-- The value stored in a field. -/
def fieldValue? (state : State) : StateField → Option Value
  | .grammar => state.grammar.map Stored.toValue
  | .verdict => state.verdict.map Stored.toValue
  | .derivationTree => state.derivationTree.map Stored.toValue
  | .generalTree => state.generalTree.map Stored.toValue

/-- The members for those of the fields that hold a value. -/
def membersOf (value? : StateField → Option Value) (fields : List StateField) :
    List (Text × Value) :=
  fields.filterMap fun field => (value? field).map (field.name, ·)

theorem membersOf_cons
    (value? : StateField → Option Value)
    (field : StateField)
    (fields : List StateField) :
    membersOf value? (field :: fields) =
      match value? field with
      | none => membersOf value? fields
      | some value => (field.name, value) :: membersOf value? fields := by
  rw [membersOf, List.filterMap_cons]
  cases value? field <;> rfl

theorem valueOfState_eq (state : State) :
    valueOfState state = .record (membersOf (fieldValue? state) StateField.all) := by
  obtain ⟨grammar, verdict, derivationTree, generalTree⟩ := state
  cases grammar <;> cases verdict <;> cases derivationTree <;> cases generalTree <;> rfl

theorem fits_fieldValue
    {state : State}
    {field : StateField}
    {value : Value}
    (stored : fieldValue? state field = some value) :
    Fits (.record field.kind) value := by
  cases field <;> obtain ⟨record, _, rfl⟩ := Option.map_eq_some_iff.mp stored <;>
    exact LawfulStored.fits record

theorem writable_fieldValue
    {state : State}
    {field : StateField}
    {value : Value}
    (stored : fieldValue? state field = some value) :
    value.Writable := by
  cases field <;> obtain ⟨record, _, rfl⟩ := Option.map_eq_some_iff.mp stored <;>
    exact LawfulStored.writable record

/-- Every number in a state is written without loss. -/
theorem writable_valueOfState (state : State) : (valueOfState state).Writable := by
  rw [valueOfState_eq, Value.Writable]
  induction StateField.all with
  | nil => trivial
  | cons field fields inductionHypothesis =>
      rw [membersOf_cons]
      cases stored : fieldValue? state field with
      | none => exact inductionHypothesis
      | some value => exact ⟨writable_fieldValue stored, inductionHypothesis⟩

theorem named?_name (field : StateField) : StateField.named? field.name = some field := by
  cases field <;> decide

/-! ## Reading one field -/

@[simp] theorem andThen_plain_ok (value : α) (next : α → Reading ε β) :
    (Reading.plain (.ok value)).andThen next = next value := rfl

@[simp] theorem andThen_plain_error (fault : ε) (next : α → Reading ε β) :
    (Reading.plain (.error fault)).andThen next = Reading.plain (.error fault) := rfl

theorem exists_of_andThen_eq_ok
    {reading : Reading ε α}
    {next : α → Reading ε β}
    {value : β}
    (succeeds : (reading.andThen next).result = .ok value) :
    ∃ found, reading.result = .ok found ∧ (next found).result = .ok value := by
  rw [Reading.andThen] at succeeds
  split at succeeds
  next => cases succeeds
  next found isFound => exact ⟨found, isFound, succeeds⟩

/-- A field in which a fitting value within the depth is shown is read as that value. -/
theorem readField_of_fits
    {field : StateField}
    {value : Value}
    {node : Node}
    (shown : node.Shows value)
    (fits : Fits (.record field.kind) value)
    {depth : Nat}
    (within : value.nesting ≤ depth) :
    readField depth field node = .plain (.ok (some value)) := by
  unfold readField
  split
  next => simp only [readAny_of_nesting_le shown within, conform_settled fits]
  next =>
    have strict := readNode_of_fits shown fits within
    cases shown with
    | null _ => nomatch fits
    | _ => simp only [strict]; rfl

/-- A field that is read leniently is refused if the value shown in it is beyond the depth. -/
theorem readField_of_beyond
    {field : StateField}
    (isLenient : field.isLenient = true)
    {value : Value}
    {node : Node}
    (shown : node.Shows value)
    {depth : Nat}
    (beyond : depth < value.nesting) :
    ∃ fault, readField depth field node = .plain (.error fault) ∧ fault.complaint = .tooDeep := by
  obtain ⟨fault, refused, complaint⟩ := tooDeep_readAny shown beyond
  refine ⟨fault, ?_, complaint⟩
  unfold readField
  rw [if_pos isLenient, refused]

/-- What is read leniently in a field fits the kind of its records, within the depth. -/
theorem fits_of_readField
    {field : StateField}
    (isLenient : field.isLenient = true)
    {node : Node}
    {depth : Nat}
    {record : Value}
    (succeeds : (readField depth field node).result = .ok (some record)) :
    Fits (.record field.kind) record ∧ record.nesting ≤ depth := by
  unfold readField at succeeds
  rw [if_pos isLenient] at succeeds
  split at succeeds
  next => cases succeeds
  next value isRead =>
    split at succeeds
    next found matched =>
      cases succeeds
      have fit := fits_of_conform value matched
      exact ⟨fit.1, fit.2.trans (nesting_le_of_readAny node isRead)⟩
    next => cases succeeds

/-! ## Reading the members -/

/-- One of the fields is read, if it was not given before. -/
theorem readStateMembers_member
    {draft : Draft}
    {field : StateField}
    (notGiven : draft.lookup field = none)
    (depth : Nat)
    (behindKey : Text)
    (node : Node)
    (more : Members) :
    readStateMembers depth draft (.member (.ok field.name) behindKey node more) =
      (readField depth field node).andThen fun record =>
        readStateMembers depth ((field, record) :: draft) more := by
  rw [readStateMembers]
  simp only [named?_name, notGiven, Option.isSome_none, Bool.false_eq_true, if_false]

/-- The fields behind one that is read are still not given. -/
theorem notGiven_of_cons
    {field : StateField}
    {fields : List StateField}
    (isNew : field ∉ fields)
    {draft : Draft}
    (notGiven : ∀ other ∈ field :: fields, draft.lookup other = none)
    (record : Option Value) :
    ∀ other ∈ fields, ((field, record) :: draft : Draft).lookup other = none := by
  intro other isField
  have differs : other ≠ field := fun same => isNew (same ▸ isField)
  rw [lookup_cons_of_ne differs]
  exact notGiven other (List.mem_cons_of_mem _ isField)

section Fields

variable {value? : StateField → Option Value}

/-- Members that show the values of some fields begin with the first field, if it holds a value. -/
theorem show_membersOf_cons
    {field : StateField}
    {fields : List StateField}
    {members : Members}
    (shown : members.Show (membersOf value? (field :: fields))) :
    (value? field = none ∧ members.Show (membersOf value? fields)) ∨
      ∃ value behindKey node more, value? field = some value ∧
        members = .member (.ok field.name) behindKey node more ∧
        node.Shows value ∧ more.Show (membersOf value? fields) := by
  rw [membersOf_cons] at shown
  cases stored : value? field with
  | none =>
      rw [stored] at shown
      exact .inl ⟨rfl, shown⟩
  | some value =>
      rw [stored] at shown
      cases shown with
      | member _ behindKey _ shownValue shownMore =>
          exact .inr ⟨value, behindKey, _, _, rfl, rfl, shownValue, shownMore⟩

variable
  (fits : ∀ field value, value? field = some value → Fits (.record field.kind) value)

include fits

/-- Members that show fitting values within the depth are read as those values. -/
theorem exists_readStateMembers
    {fields : List StateField}
    (distinct : fields.Nodup)
    {members : Members}
    (shown : members.Show (membersOf value? fields))
    {draft : Draft}
    (notGiven : ∀ field ∈ fields, draft.lookup field = none)
    {depth : Nat}
    (within : ∀ field ∈ fields, ∀ value, value? field = some value → value.nesting ≤ depth) :
    ∃ result, readStateMembers depth draft members = .plain (.ok result) ∧
      ∀ field, result.lookup field =
        if field ∈ fields then (value? field).map some else draft.lookup field := by
  induction fields generalizing members draft with
  | nil =>
      cases shown
      exact ⟨draft, rfl, fun _ => (if_neg List.not_mem_nil).symm⟩
  | cons field fields inductionHypothesis =>
      obtain ⟨isNew, distinct⟩ := List.nodup_cons.mp distinct
      have notGivenLater : ∀ other ∈ fields, draft.lookup other = none :=
        fun other isField => notGiven other (List.mem_cons_of_mem _ isField)
      have withinLater := fun other isField => within other (List.mem_cons_of_mem field isField)
      have notGivenField := notGiven field (List.mem_cons_self ..)
      rcases show_membersOf_cons shown with
        ⟨isEmpty, shownMore⟩ | ⟨value, behindKey, node, more, stored, rfl, shownValue, shownMore⟩
      · obtain ⟨result, isRead, found⟩ :=
          inductionHypothesis distinct shownMore notGivenLater withinLater
        refine ⟨result, isRead, ?_⟩
        intro other
        rw [found]
        by_cases same : other = field
        · simp [same, isNew, isEmpty, notGivenField]
        · simp [same]
      · obtain ⟨result, isRead, found⟩ := inductionHypothesis distinct shownMore
          (notGiven_of_cons isNew notGiven (some value)) withinLater
        refine ⟨result, ?_, ?_⟩
        · rw [readStateMembers_member notGivenField,
            readField_of_fits shownValue (fits field value stored)
              (within field (List.mem_cons_self ..) value stored), andThen_plain_ok, isRead]
        · intro other
          rw [found]
          by_cases same : other = field
          · simp [same, isNew, stored]
          · simp [same, lookup_cons_of_ne same]

/-- Members of which one shows a value beyond the depth are refused for their depth, if those that
are read strictly are within it. -/
theorem exists_readStateMembers_tooDeep
    {fields : List StateField}
    (distinct : fields.Nodup)
    {members : Members}
    (shown : members.Show (membersOf value? fields))
    {draft : Draft}
    (notGiven : ∀ field ∈ fields, draft.lookup field = none)
    {depth : Nat}
    (strictWithin : ∀ field value, field.isLenient = false → value? field = some value →
      value.nesting ≤ depth)
    (beyond : ∃ field ∈ fields, ∃ value, value? field = some value ∧ depth < value.nesting) :
    ∃ fault, readStateMembers depth draft members = .plain (.error fault) ∧
      fault.complaint = .tooDeep := by
  induction fields generalizing members draft with
  | nil =>
      obtain ⟨_, absent, _⟩ := beyond
      cases absent
  | cons field fields inductionHypothesis =>
      obtain ⟨isNew, distinct⟩ := List.nodup_cons.mp distinct
      have notGivenLater : ∀ other ∈ fields, draft.lookup other = none :=
        fun other isField => notGiven other (List.mem_cons_of_mem _ isField)
      have notGivenField := notGiven field (List.mem_cons_self ..)
      obtain ⟨deep, isField, value, stored, isBeyond⟩ := beyond
      have beyondLater (isLater : deep ≠ field) :
          ∃ other ∈ fields, ∃ value, value? other = some value ∧ depth < value.nesting :=
        ⟨deep, (List.mem_cons.mp isField).resolve_left isLater, value, stored, isBeyond⟩
      rcases show_membersOf_cons shown with
        ⟨isEmpty, shownMore⟩ |
        ⟨first, behindKey, node, more, storedFirst, rfl, shownFirst, shownMore⟩
      · refine inductionHypothesis distinct shownMore notGivenLater (beyondLater ?_)
        rintro rfl
        exact nomatch isEmpty.symm.trans stored
      · rw [readStateMembers_member notGivenField]
        rcases Nat.lt_or_ge depth first.nesting with firstBeyond | firstWithin
        · have isLenient : field.isLenient = true := by
            by_contra strict
            have := strictWithin field first (Bool.eq_false_iff.mpr strict) storedFirst
            omega
          obtain ⟨fault, refused, complaint⟩ :=
            readField_of_beyond isLenient shownFirst firstBeyond
          exact ⟨fault, by rw [refused, andThen_plain_error], complaint⟩
        · rw [readField_of_fits shownFirst (fits field first storedFirst) firstWithin,
            andThen_plain_ok]
          refine inductionHypothesis distinct shownMore
            (notGiven_of_cons isNew notGiven (some first)) (beyondLater ?_)
          rintro rfl
          obtain rfl := Option.some.inj (storedFirst.symm.trans stored)
          omega

end Fields

/-! ## Reading back a state -/

theorem nesting_fieldValue_le
    {state : State}
    {field : StateField}
    {value : Value}
    (stored : fieldValue? state field = some value)
    (isNotTree : field.kind ≠ .tree) :
    value.nesting ≤ 3 := by
  cases field with
  | grammar =>
      obtain ⟨grammar, _, rfl⟩ := Option.map_eq_some_iff.mp stored
      exact nesting_grammar_le grammar
  | verdict =>
      obtain ⟨verdict, _, rfl⟩ := Option.map_eq_some_iff.mp stored
      exact nesting_verdict_le verdict
  | derivationTree => exact absurd rfl isNotTree
  | generalTree => exact absurd rfl isNotTree

/-- A tree is within the depth at which records are read exactly if it has no more levels than the
limit. -/
theorem nesting_valueOfTree_le_iff (tree : LabelledTree) :
    (Stored.toValue tree).nesting ≤ depthLimit - 1 ↔ tree.levels ≤ levelLimit := by
  rw [show Stored.toValue tree = valueOfTree tree from rfl, nesting_valueOfTree]
  simp only [depthLimit, levelLimit]
  omega

/-- A state is shallow exactly if all its values are within the depth at which records are read. -/
theorem shallow_iff_nesting_le (state : State) :
    state.Shallow ↔
      ∀ field ∈ StateField.all, ∀ value, fieldValue? state field = some value →
        value.nesting ≤ depthLimit - 1 := by
  constructor
  · intro shallow field _ value stored
    cases field with
    | grammar => exact (nesting_fieldValue_le stored (by decide)).trans (by decide)
    | verdict => exact (nesting_fieldValue_le stored (by decide)).trans (by decide)
    | derivationTree =>
        obtain ⟨tree, isTree, rfl⟩ := Option.map_eq_some_iff.mp stored
        exact (nesting_valueOfTree_le_iff tree).mpr (shallow.derivationTree tree isTree)
    | generalTree =>
        obtain ⟨tree, isTree, rfl⟩ := Option.map_eq_some_iff.mp stored
        exact (nesting_valueOfTree_le_iff tree).mpr (shallow.generalTree tree isTree)
  · intro within
    constructor
    · intro tree isTree
      exact (nesting_valueOfTree_le_iff tree).mp
        (within .derivationTree (by decide) _ (Option.map_eq_some_iff.mpr ⟨tree, isTree, rfl⟩))
    · intro tree isTree
      exact (nesting_valueOfTree_le_iff tree).mp
        (within .generalTree (by decide) _ (Option.map_eq_some_iff.mpr ⟨tree, isTree, rfl⟩))

/-- The record found in a field of a draft is the one that is stored there. -/
theorem record?_eq
    [Stored α]
    [LawfulStored α]
    {draft : Draft}
    {field : StateField}
    {record : Option α}
    (found : draft.lookup field = (record.map Stored.toValue).map some) :
    draft.record? α field = record := by
  rw [Draft.record?, found]
  cases record with
  | none => rfl
  | some record => exact congrArg some (LawfulStored.ofValue_toValue record)

/-- A draft with the values of a state is a draft of that state. -/
theorem state_eq
    {state : State}
    {draft : Draft}
    (found : ∀ field, draft.lookup field = (fieldValue? state field).map some) :
    draft.state = state := by
  rw [Draft.state, record?_eq (found .grammar), record?_eq (found .verdict),
    record?_eq (found .derivationTree), record?_eq (found .generalTree)]

section Spelling

variable {state : State} {text : Text} (spelled : (valueOfState state).Spelled text)

include spelled

/-- A text that spells the value of a state is taken apart into members that show its fields. -/
theorem exists_ofText_spelled :
    ∃ start members, Node.ofText text = (.record start members, some []) ∧
      members.Show (membersOf (fieldValue? state) StateField.all) := by
  obtain ⟨node, parsed, shown⟩ := ofText_spelled spelled
  rw [valueOfState_eq] at shown
  cases shown with
  | record start shownMembers => exact ⟨start, _, parsed, shownMembers⟩

/-- A shallow state is read back from every spelling of its value. -/
theorem parseState_spelled (shallow : state.Shallow) :
    parseState text = .plain (.ok state) := by
  obtain ⟨start, members, parsed, shown⟩ := exists_ofText_spelled spelled
  obtain ⟨draft, isRead, found⟩ := exists_readStateMembers
    (fun _ _ => fits_fieldValue) (by decide) shown (fun _ _ => List.lookup_nil)
    ((shallow_iff_nesting_le state).mp shallow)
  have isState : draft.state = state := by
    apply state_eq
    intro field
    rw [found, if_pos]
    cases field <;> decide
  simp only [parseState, parsed, readState, isRead, isState, Reading.plain, Option.getD_some]
  rfl

/-- A state that is not shallow is not read back from any spelling of its value. -/
theorem parseState_spelled_tooDeep (deep : ¬state.Shallow) :
    ∃ malformed, parseState text = .plain (.error malformed) ∧ malformed.complaint = .tooDeep := by
  obtain ⟨start, members, parsed, shown⟩ := exists_ofText_spelled spelled
  have beyond : ∃ field ∈ StateField.all, ∃ value, fieldValue? state field = some value ∧
      depthLimit - 1 < value.nesting := by
    simpa only [shallow_iff_nesting_le, not_forall, not_le, exists_prop] using deep
  have strictWithin : ∀ field value, field.isLenient = false →
      fieldValue? state field = some value → value.nesting ≤ depthLimit - 1 := by
    intro field value strict stored
    have isNotTree : field.kind ≠ .tree := by
      cases field <;> simp_all [StateField.isLenient, StateField.kind]
    exact (nesting_fieldValue_le stored isNotTree).trans (by decide)
  obtain ⟨fault, refused, complaint⟩ := exists_readStateMembers_tooDeep
    (fun _ _ => fits_fieldValue) (by decide) shown (fun _ _ => List.lookup_nil) strictWithin beyond
  refine ⟨.ofFault text fault, ?_, complaint⟩
  simp only [parseState, parsed, readState, refused, Reading.plain]

end Spelling

/-! ## What is read is shallow -/

/-- The records kept in the lenient fields of a draft fit, within the depth. -/
def Draft.Within (depth : Nat) (draft : Draft) : Prop :=
  ∀ field record, field.isLenient = true → draft.lookup field = some (some record) →
    Fits (.record field.kind) record ∧ record.nesting ≤ depth

theorem Draft.Within.cons
    {depth : Nat}
    {draft : Draft}
    (within : draft.Within depth)
    {field : StateField}
    {node : Node}
    {record : Option Value}
    (isRead : (readField depth field node).result = .ok record) :
    Draft.Within depth ((field, record) :: draft) := by
  intro other found isLenient isFound
  rw [List.lookup_cons] at isFound
  split at isFound
  next same =>
    obtain rfl := beq_iff_eq.mp same
    obtain rfl := Option.some.inj isFound
    exact fits_of_readField isLenient isRead
  next => exact within other found isLenient isFound

theorem within_of_readStateItems
    {depth : Nat}
    (items : Items)
    {fields : List StateField}
    {draft result : Draft}
    (within : draft.Within depth)
    (succeeds : (readStateItems depth fields draft items).result = .ok result) :
    result.Within depth := by
  match items, fields with
  | .close _, _ =>
      rw [readStateItems] at succeeds
      cases succeeds
      exact within
  | .item _ _ _, [] => cases succeeds
  | .item _ node more, field :: fields =>
      obtain ⟨record, isRead, succeeds⟩ := exists_of_andThen_eq_ok succeeds
      exact within_of_readStateItems more (within.cons isRead) succeeds
  | .broken _ _ _, [] => cases succeeds
  | .broken _ _ _, _ :: _ => cases succeeds

theorem within_of_readStateMembers
    {depth : Nat}
    (members : Members)
    {draft result : Draft}
    (within : draft.Within depth)
    (succeeds : (readStateMembers depth draft members).result = .ok result) :
    result.Within depth := by
  match members with
  | .close _ =>
      cases succeeds
      exact within
  | .member (.error _) _ _ _ => cases succeeds
  | .member (.ok name) _ node more =>
      rw [readStateMembers] at succeeds
      split at succeeds
      next =>
        split at succeeds
        next => cases succeeds
        next => exact within_of_readStateMembers more within succeeds
      next field _ =>
        split at succeeds
        next => cases succeeds
        next =>
          obtain ⟨record, isRead, succeeds⟩ := exists_of_andThen_eq_ok succeeds
          exact within_of_readStateMembers more (within.cons isRead) succeeds
  | .broken _ _ => cases succeeds

/-- The tree in a field of a draft has no more levels than can be read back. -/
theorem levels_record?_le
    {draft : Draft}
    (within : draft.Within (depthLimit - 1))
    {field : StateField}
    (isTree : field.kind = .tree)
    (isLenient : field.isLenient = true)
    {tree : LabelledTree}
    (found : draft.record? LabelledTree field = some tree) :
    tree.levels ≤ levelLimit := by
  obtain ⟨record, isRecord, rfl⟩ := Option.map_eq_some_iff.mp found
  obtain ⟨_, inDraft, rfl⟩ := Option.bind_eq_some_iff.mp isRecord
  obtain ⟨fits, nesting⟩ := within field record isLenient inDraft
  rw [isTree] at fits
  rw [fits.nesting_eq] at nesting
  simp only [depthLimit, levelLimit] at nesting ⊢
  change 2 * (treeOfValue record).levels ≤ 126 at nesting
  change (treeOfValue record).levels ≤ 63
  omega

/-- Every state that is read is shallow, whatever the text. -/
theorem shallow_of_parseState
    {text : Text}
    {state : State}
    (succeeds : (parseState text).result = .ok state) :
    state.Shallow := by
  have noneWithin : Draft.Within (depthLimit - 1) [] := fun _ _ _ absent => nomatch absent
  simp only [parseState] at succeeds
  split at succeeds
  next => cases succeeds
  next draft isRead =>
    have within : draft.Within (depthLimit - 1) := by
      unfold readState at isRead
      split at isRead
      next => exact within_of_readStateItems _ noneWithin isRead
      next => exact within_of_readStateMembers _ noneWithin isRead
      next => cases isRead
    split at succeeds
    next =>
      cases succeeds
      exact ⟨fun _ found => levels_record?_le within rfl rfl found,
        fun _ found => levels_record?_le within rfl rfl found⟩
    next => cases succeeds

end Document
end PhraseGrammar
