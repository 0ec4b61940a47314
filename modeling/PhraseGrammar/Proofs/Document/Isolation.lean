import PhraseGrammar.Proofs.Document.State

/-!
# Bad records in a state document

Each record of a state document stands for itself. Whatever else the document holds, in whatever
order, a record that is read leniently is kept exactly if its own value is read as a record, and the
document is refused only for a grammar that is there and is not read. All this is said of every text
that spells a record without repeated keys, within the depth.
-/

namespace PhraseGrammar
namespace Document

open Json

/-! ## The parts of a spelling -/

/-- What members hand down to the value of the first of them, and to the others, holds of every
value that is looked up. -/
theorem of_lookup
    (ofMembers : List (Text × Value) → Prop)
    (ofValue : Value → Prop)
    (handsDown :
      ∀ key value rest, ofMembers ((key, value) :: rest) → ofValue value ∧ ofMembers rest)
    {members : List (Text × Value)}
    (holds : ofMembers members)
    {name : Text}
    {value : Value}
    (found : members.lookup name = some value) :
    ofValue value := by
  induction members with
  | nil => cases found
  | cons member members inductionHypothesis =>
      obtain ⟨ofFirst, ofOthers⟩ := handsDown _ _ _ holds
      rw [List.lookup_cons] at found
      split at found
      next =>
        cases found
        exact ofFirst
      next => exact inductionHypothesis ofOthers found

section Lookup

variable {members : List (Text × Value)} {name : Text} {value : Value}

theorem exists_spelled_of_lookup
    {isFirst : Bool}
    {text : Text}
    (spelled : MembersSpelled isFirst members text)
    (found : members.lookup name = some value) :
    ∃ own, value.Spelled own := by
  refine of_lookup (fun members => ∃ isFirst text, MembersSpelled isFirst members text)
    (fun value => ∃ own, value.Spelled own) ?_ ⟨isFirst, text, spelled⟩ found
  rintro key value rest ⟨isFirst, text, _, _, _, _, own, more, _, _, _, _, isOwn, spelledMore, _⟩
  exact ⟨⟨own, isOwn⟩, false, more, spelledMore⟩

theorem distinctKeys_of_lookup
    (distinct : MembersDistinctKeys members)
    (found : members.lookup name = some value) :
    value.DistinctKeys :=
  of_lookup MembersDistinctKeys Value.DistinctKeys (fun _ _ _ => id) distinct found

theorem nesting_le_of_lookup
    {bound : Nat}
    (within : membersNesting members ≤ bound)
    (found : members.lookup name = some value) :
    value.nesting ≤ bound :=
  of_lookup (membersNesting · ≤ bound) (·.nesting ≤ bound) (fun _ _ _ => Nat.max_le.mp) within found

end Lookup

/-! ## A record on its own -/

/-- The value is read as the record, in each of its spellings, of which there is one at least. -/
structure ReadAs [Stored α] (value : Value) (record : α) : Prop where
  isSpelled : ∃ text, value.Spelled text
  isRead : ∀ text, value.Spelled text → parse α text = .ok record

/-- Every spelling of a value within the depth is read as what the value matches. -/
theorem toOption_readText
    {value : Value}
    {text : Text}
    (spelled : value.Spelled text)
    (distinct : value.DistinctKeys)
    (within : value.nesting ≤ depthLimit)
    (schema : Schema) :
    (readText schema text).toOption = (conform schema value).toOption := by
  obtain ⟨node, parsed, shown⟩ := ofText_spelled spelled
  rw [← toOption_readNode shown distinct within schema]
  simp only [readText, parsed, Option.getD_some]
  cases readNode depthLimit schema node <;> rfl

/-- A value is read as a record exactly if that is the record stored in what it matches. -/
theorem readAs_iff
    [Stored α]
    {value : Value}
    (isSpelled : ∃ text, value.Spelled text)
    (distinct : value.DistinctKeys)
    (within : value.nesting ≤ depthLimit)
    {record : α} :
    ReadAs value record ↔
      (conform (Stored.schema α) value).toOption.map Stored.ofValue = some record := by
  have isRead_iff {text : Text} (spelled : value.Spelled text) :
      parse α text = .ok record ↔
        (conform (Stored.schema α) value).toOption.map Stored.ofValue = some record := by
    rw [← toOption_eq_some_iff, parse, toOption_map, toOption_readText spelled distinct within]
  constructor
  · intro readAs
    obtain ⟨text, spelled⟩ := isSpelled
    exact (isRead_iff spelled).mp (readAs.isRead text spelled)
  · intro matched
    exact ⟨isSpelled, fun text spelled => (isRead_iff spelled).mpr matched⟩

/-! ## A field of a document -/

/-- What is kept of the value in a field, unless the document is refused for it. -/
def StateField.kept? (field : StateField) (value : Value) : Option (Option Value) :=
  let matched := (conform (.record field.kind) value).toOption
  if field.isLenient then some matched
  else
    match value with
    | .null => some none
    | _ => matched.map some

/-- A field in which a value within the depth is shown is read as what is kept of the value. -/
theorem toOption_readField
    (field : StateField)
    {value : Value}
    {node : Node}
    (shown : node.Shows value)
    (distinct : value.DistinctKeys)
    {depth : Nat}
    (within : value.nesting ≤ depth) :
    (readField depth field node).result.toOption = field.kept? value := by
  unfold readField StateField.kept?
  split
  next =>
    rw [readAny_of_nesting_le shown within, ← toOption_conform_settled _ value distinct]
    dsimp only
    cases conform (.record field.kind) value.settled <;> rfl
  next =>
    have strict := toOption_readNode shown distinct within (.record field.kind)
    cases shown with
    | null => rfl
    | _ => exact (toOption_map _ _).trans (congrArg _ strict)

/-- What is kept of a value is what it matches. -/
theorem kept?_bind_id (field : StateField) (value : Value) :
    (field.kept? value).bind id = (conform (.record field.kind) value).toOption := by
  unfold StateField.kept?
  split
  next => rfl
  next =>
    cases value with
    | null => rfl
    | _ => simp [Option.bind_map]

/-- A grammar is kept, as absent or as what it matches, if it is null or matches. -/
theorem isSome_kept?_grammar_iff (value : Value) :
    (StateField.grammar.kept? value).isSome ↔
      value = .null ∨ (conform (.record .grammar) value).toOption.isSome := by
  unfold StateField.kept?
  rw [if_neg (by decide)]
  cases value with
  | null => exact iff_of_true rfl (.inl rfl)
  | _ => simp [StateField.kind]

/-- Only for its grammar is a document refused. -/
theorem eq_grammar_of_kept?_eq_none
    {field : StateField}
    {value : Value}
    (notKept : field.kept? value = none) :
    field = .grammar := by
  cases field with
  | grammar => rfl
  | _ => cases notKept

/-! ## The members of a document -/

theorem result_andThen (reading : Reading ε α) (next : α → Reading ε β) :
    (reading.andThen next).result = reading.result >>= fun value => (next value).result := by
  rw [Reading.andThen]
  cases reading.result <;> rfl

theorem name_of_named?
    {name : Text}
    {field : StateField}
    (named : StateField.named? name = some field) :
    field.name = name := by
  unfold StateField.named? at named
  simpa using List.find?_some named

theorem name_injective {field other : StateField} (sameName : field.name = other.name) :
    field = other :=
  Option.some.inj ((named?_name field).symm.trans ((congrArg _ sameName).trans (named?_name other)))

/-- A member that is no field is skipped. -/
theorem readStateMembers_unknown
    {key : Text}
    (unknown : StateField.named? key = none)
    {node : Node}
    (noFault : node.skipFault? = none)
    (depth : Nat)
    (draft : Draft)
    (behindKey : Text)
    (more : Members) :
    readStateMembers depth draft (.member (.ok key) behindKey node more) =
      readStateMembers depth draft more := by
  rw [readStateMembers]
  simp only [unknown, noFault]

/-- The later draft holds what is kept of each member that is a field, and otherwise what the
earlier one holds. -/
structure Draft.Completes (members : List (Text × Value)) (before after : Draft) : Prop where
  given : ∀ (field : StateField) (value : Value), members.lookup field.name = some value →
    (field.kept? value).isSome ∧ after.lookup field = field.kept? value
  others : ∀ field : StateField, members.lookup field.name = none →
    after.lookup field = before.lookup field

/-- Reading the members behind a draft gives a draft that they complete, or is refused for the value
of one of them. -/
inductive Draft.Becomes (members : List (Text × Value)) (before : Draft) : Except Fault Draft → Prop
  | completed {after : Draft} (completes : Draft.Completes members before after) :
      Becomes members before (.ok after)
  | refused (fault : Fault)
      {field : StateField}
      {value : Value}
      (isGiven : members.lookup field.name = some value)
      (notKept : field.kept? value = none) :
      Becomes members before (.error fault)

section Steps

variable {before : Draft} {rest : List (Text × Value)} {result : Except Fault Draft}

/-- A member that is no field changes nothing. -/
theorem Draft.Becomes.skip
    (becomes : Draft.Becomes rest before result)
    {key : Text}
    (unknown : StateField.named? key = none)
    (value : Value) :
    Draft.Becomes ((key, value) :: rest) before result := by
  have lookup_eq (field : StateField) :
      ((key, value) :: rest).lookup field.name = rest.lookup field.name := by
    apply lookup_cons_of_ne
    rintro rfl
    exact nomatch (named?_name field).symm.trans unknown
  cases becomes with
  | completed completes =>
      refine .completed ⟨?_, ?_⟩
      · intro field found isFound
        exact completes.given field found ((lookup_eq field).symm.trans isFound)
      · intro field notFound
        exact completes.others field ((lookup_eq field).symm.trans notFound)
  | refused fault isGiven notKept => exact .refused fault ((lookup_eq _).trans isGiven) notKept

/-- What is kept of the value of a field is found there, and in no other field. -/
theorem Draft.Becomes.keep
    {field : StateField}
    {record : Option Value}
    (becomes : Draft.Becomes rest ((field, record) :: before) result)
    (isNew : field.name ∉ rest.map Prod.fst)
    {value : Value}
    (isKept : field.kept? value = some record) :
    Draft.Becomes ((field.name, value) :: rest) before result := by
  have lookup_eq {other : StateField} (differs : other ≠ field) :
      ((field.name, value) :: rest).lookup other.name = rest.lookup other.name :=
    lookup_cons_of_ne (fun sameName => differs (name_injective sameName)) value rest
  have notInRest : rest.lookup field.name = none := lookup_eq_none_of_notMem isNew
  cases becomes with
  | completed completes =>
      refine .completed ⟨?_, ?_⟩
      · intro other found isFound
        by_cases same : other = field
        · subst same
          obtain rfl := Option.some.inj (List.lookup_cons_self.symm.trans isFound)
          refine ⟨by rw [isKept]; rfl, ?_⟩
          rw [completes.others other notInRest, isKept]
          exact List.lookup_cons_self
        · exact completes.given other found ((lookup_eq same).symm.trans isFound)
      · intro other notFound
        have differs : other ≠ field := by
          rintro rfl
          exact nomatch List.lookup_cons_self.symm.trans notFound
        rw [completes.others other ((lookup_eq differs).symm.trans notFound)]
        exact lookup_cons_of_ne differs record before
  | @refused fault other _ isGiven notKept =>
      have differs : other ≠ field := by
        rintro rfl
        exact nomatch notInRest.symm.trans isGiven
      exact .refused fault ((lookup_eq differs).trans isGiven) notKept

end Steps

/-- Members without repeated keys are read into a draft that they complete, unless the value of one
of them is refused. -/
theorem becomes_readStateMembers
    {pairs : List (Text × Value)}
    {members : Members}
    (shown : members.Show pairs)
    (distinctKeys : (pairs.map Prod.fst).Nodup)
    (distinct : MembersDistinctKeys pairs)
    {depth : Nat}
    (within : membersNesting pairs ≤ depth)
    {draft : Draft}
    (notGiven : ∀ field : StateField, field.name ∈ pairs.map Prod.fst → draft.lookup field = none) :
    draft.Becomes pairs (readStateMembers depth draft members).result := by
  match shown with
  | .close _ => exact .completed ⟨fun _ _ absent => (nomatch absent), fun _ _ => rfl⟩
  | @Members.Show.member key _ value node _ rest shownValue shownRest =>
      obtain ⟨isNew, distinctRest⟩ := List.nodup_cons.mp distinctKeys
      obtain ⟨valueWithin, restWithin⟩ := Nat.max_le.mp within
      have notGivenLater : ∀ other : StateField, other.name ∈ rest.map Prod.fst →
          draft.lookup other = none :=
        fun other isLater => notGiven other (List.mem_cons_of_mem _ isLater)
      cases named : StateField.named? key with
      | none =>
          rw [readStateMembers_unknown named shownValue.skipFault?_eq_none]
          have readRest := becomes_readStateMembers shownRest distinctRest distinct.2 restWithin
            notGivenLater
          exact readRest.skip named value
      | some field =>
          obtain rfl := name_of_named? named
          have readValue := toOption_readField field shownValue distinct.1 valueWithin
          rw [readStateMembers_member (notGiven field (List.mem_cons_self ..)), result_andThen]
          cases isRead : (readField depth field node).result with
          | error fault =>
              rw [isRead] at readValue
              exact .refused fault List.lookup_cons_self readValue.symm
          | ok record =>
              rw [isRead] at readValue
              have notGivenThen : ∀ other : StateField, other.name ∈ rest.map Prod.fst →
                  ((field, record) :: draft : Draft).lookup other = none := by
                intro other isLater
                rw [lookup_cons_of_ne _ record draft, notGivenLater other isLater]
                rintro rfl
                exact isNew isLater
              have readRest := becomes_readStateMembers shownRest distinctRest distinct.2 restWithin
                notGivenThen
              exact readRest.keep isNew readValue.symm

/-! ## Isolation -/

/-- The member under the name is read as the record. -/
def Holds [Stored α] (members : List (Text × Value)) (name : Text) (record : α) : Prop :=
  ∃ value, members.lookup name = some value ∧ ReadAs value record

section Document

variable
  {members : List (Text × Value)}
  {text : Text}
  (spelled : (Value.record members).SpelledWithin text)
  (distinct : (Value.record members).DistinctKeys)
  (within : (Value.record members).nesting ≤ depthLimit)

include spelled distinct within

/-- A document without repeated keys is read as the state of a draft that its members complete,
unless the value of one of them is refused. -/
theorem parseState_spelledWithin :
    (∃ draft, (parseState text).result = .ok draft.state ∧ Draft.Completes members [] draft) ∨
    ∃ (malformed : Malformed) (field : StateField) (value : Value),
      (parseState text).result = .error malformed ∧
      members.lookup field.name = some value ∧ field.kept? value = none := by
  obtain ⟨node, behind, parsed, noneBehind, shown⟩ := ofText_spelledWithin spelled
  cases shown with
  | @record start found _ shownMembers =>
      have membersWithin : membersNesting members ≤ depthLimit - 1 := Nat.le_sub_one_of_lt within
      have becomes := becomes_readStateMembers shownMembers distinct.1 distinct.2 membersWithin
        (fun _ _ => List.lookup_nil)
      simp only [parseState, parsed, readState, Option.getD_some, noneBehind]
      cases isRead : (readStateMembers (depthLimit - 1) [] found).result with
      | ok draft =>
          rw [isRead] at becomes
          cases becomes with
          | completed completes => exact .inl ⟨draft, rfl, completes⟩
      | error fault =>
          rw [isRead] at becomes
          cases becomes with
          | refused _ isGiven notKept =>
              exact .inr ⟨.ofFault text fault, _, _, rfl, isGiven, notKept⟩

/-- The value of a member is read as a record exactly if that is the record stored in what it
matches. -/
theorem readAs_member_iff
    [Stored α]
    {name : Text}
    {value : Value}
    (isMember : members.lookup name = some value)
    {record : α} :
    ReadAs value record ↔
      (conform (Stored.schema α) value).toOption.map Stored.ofValue = some record := by
  obtain ⟨_, spelling, _, _, _, ⟨_, spelledMembers, _⟩, _⟩ := spelled
  exact readAs_iff (exists_spelled_of_lookup spelledMembers isMember)
    (distinctKeys_of_lookup distinct.2 isMember)
    (nesting_le_of_lookup (Nat.le_of_succ_le within) isMember)

/-- The record of a draft that members complete is the one that the member of the field holds. -/
theorem record?_eq_some_iff_holds
    [Stored α]
    {draft : Draft}
    (completes : Draft.Completes members [] draft)
    {field : StateField}
    (isSchema : Stored.schema α = .record field.kind)
    {record : α} :
    draft.record? α field = some record ↔ Holds members field.name record := by
  rw [Draft.record?, Holds]
  cases isGiven : members.lookup field.name with
  | none => simp [completes.others field isGiven]
  | some value =>
      rw [(completes.given field value isGiven).2, kept?_bind_id, ← isSchema,
        ← readAs_member_iff spelled distinct within isGiven]
      simp

/-- A document that is a record without repeated keys, within the depth, is read exactly if its
grammar is absent, null or read as a grammar. Then each field holds what its own member is read as,
and is absent if that is no record, whatever the other members are. -/
theorem records_isolated :
    ((∃ state, (parseState text).result = .ok state) ↔
      members.lookup ("grammar" : Text) = none ∨ members.lookup ("grammar" : Text) = some .null ∨
        ∃ grammar : Grammar, Holds members "grammar" grammar) ∧
    ∀ state, (parseState text).result = .ok state →
      (∀ grammar, state.grammar = some grammar ↔ Holds members "grammar" grammar) ∧
      (∀ verdict, state.verdict = some verdict ↔ Holds members "validationResult" verdict) ∧
      (∀ tree, state.derivationTree = some tree ↔ Holds members "derivationTree" tree) ∧
      (∀ tree, state.generalTree = some tree ↔ Holds members "generalTree" tree) := by
  have kept_iff {value : Value} (isGiven : members.lookup StateField.grammar.name = some value) :
      (StateField.grammar.kept? value).isSome ↔
        value = .null ∨ ∃ grammar : Grammar, ReadAs value grammar := by
    rw [isSome_kept?_grammar_iff, Option.isSome_iff_exists]
    simp only [readAs_member_iff spelled distinct within isGiven, Option.map_eq_some_iff,
      Stored.schema]
    tauto
  rcases parseState_spelledWithin spelled distinct within with
    ⟨draft, isRead, completes⟩ | ⟨malformed, field, value, refused, isGiven, notKept⟩
  · constructor
    · refine iff_of_true ⟨draft.state, isRead⟩ ?_
      cases isGiven : members.lookup StateField.grammar.name with
      | none => exact .inl isGiven
      | some value =>
          rcases (kept_iff isGiven).mp (completes.given .grammar value isGiven).1 with
            rfl | ⟨grammar, readAs⟩
          · exact .inr (.inl isGiven)
          · exact .inr (.inr ⟨grammar, value, isGiven, readAs⟩)
    · intro state isState
      obtain rfl : draft.state = state := Except.ok.inj (isRead.symm.trans isState)
      exact ⟨fun _ => record?_eq_some_iff_holds spelled distinct within completes rfl,
        fun _ => record?_eq_some_iff_holds spelled distinct within completes rfl,
        fun _ => record?_eq_some_iff_holds spelled distinct within completes rfl,
        fun _ => record?_eq_some_iff_holds spelled distinct within completes rfl⟩
  · obtain rfl := eq_grammar_of_kept?_eq_none notKept
    constructor
    · refine iff_of_false (fun ⟨state, isRead⟩ => nomatch refused.symm.trans isRead) ?_
      have notReadable := mt (kept_iff isGiven).mpr (by rw [notKept]; exact Bool.false_ne_true)
      rintro (isAbsent | isNull | ⟨grammar, found, isFound, readAs⟩)
      · exact nomatch isGiven.symm.trans isAbsent
      · obtain rfl := Option.some.inj (isGiven.symm.trans isNull)
        exact notReadable (.inl rfl)
      · obtain rfl := Option.some.inj (isGiven.symm.trans isFound)
        exact notReadable (.inr ⟨grammar, readAs⟩)
    · intro state isRead
      exact nomatch refused.symm.trans isRead

end Document

/-- The members of a document with a verdict that is none, a tree whose members are in another
order, and a member that is no field. -/
def damagedMembers : List (Text × Value) :=
  [("comment", .list [.null, .flag true]),
    ("validationResult", .record [("isValid", .text "yes"), ("steps", .null)]),
    ("derivationTree",
      .record [("node", .text "S"), ("children", .list []), ("id", .text "\n"), ("depth", .null)])]

/-- A document with those members. -/
def damagedDocument : Text :=
  "\n\x7b\"comment\":[null,true],\"validationResult\":\x7b\"isValid\":\"yes\",\"steps\":null\x7d," ++
    "\"derivationTree\":\x7b\"node\":\"S\",\"children\":[],\"id\":\"\\n\",\"depth\":null\x7d\x7d "

/-- The verdict of that document is dropped, and its tree is kept. -/
theorem records_isolated_damaged :
    ∃ state, (parseState damagedDocument).result = .ok state ∧ state.grammar = none ∧
      state.verdict = none ∧
      state.derivationTree = some (.node { id := "\n", label := "S" } []) := by
  have spelled : (Value.record damagedMembers).SpelledWithin damagedDocument :=
    ⟨['\n'], (Value.record damagedMembers).compact, [' '], by decide, by decide,
      spelled_compact _ (by simp [damagedMembers, Value.Writable, MembersWritable, ItemsWritable]),
      by decide +kernel⟩
  have distinct : (Value.record damagedMembers).DistinctKeys := by
    simp [damagedMembers, Value.DistinctKeys, MembersDistinctKeys, ItemsDistinctKeys]
  have within : (Value.record damagedMembers).nesting ≤ depthLimit := by decide
  obtain ⟨readable_iff, isolated⟩ := records_isolated spelled distinct within
  obtain ⟨state, isRead⟩ := readable_iff.mpr (.inl rfl)
  obtain ⟨ofGrammar, ofVerdict, ofTree, _⟩ := isolated state isRead
  refine ⟨state, isRead, ?_, ?_, ?_⟩
  · rw [Option.eq_none_iff_forall_ne_some]
    intro grammar isSome
    obtain ⟨value, isGiven, _⟩ := (ofGrammar grammar).mp isSome
    cases isGiven
  · rw [Option.eq_none_iff_forall_ne_some]
    intro verdict isSome
    obtain ⟨value, isGiven, readAs⟩ := (ofVerdict verdict).mp isSome
    have matched := (readAs_member_iff spelled distinct within isGiven).mp readAs
    cases isGiven
    cases matched
  · have isGiven : damagedMembers.lookup StateField.derivationTree.name = some _ := rfl
    exact (ofTree _).mpr
      ⟨_, isGiven, (readAs_member_iff spelled distinct within isGiven).mpr rfl⟩

end Document
end PhraseGrammar
