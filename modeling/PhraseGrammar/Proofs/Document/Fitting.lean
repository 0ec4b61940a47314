import Mathlib.Order.MinMax
import PhraseGrammar.Proofs.Document.Matching

/-!
# Values that fit a schema

A value fits a schema if it is of its form, with exactly the fields of a kind in each record, in
their order. These are the values that are written, and the values that a match with the schema
yields. They match as they are, so they are read as they are in both ways. What is written beyond
the depth is refused for its depth, also strictly.
-/

namespace PhraseGrammar
namespace Document

open Json

mutual

/-- The value is of the form of the schema. -/
inductive Fits : Schema → Value → Prop
  | text (value : Text) : Fits .text (.text value)
  | flag (value : Bool) : Fits .flag (.flag value)
  | count (size : Nat) : Fits .count (.number (.natural size))
  | list {schema : Schema} {items : List Value} (fit : ItemsFit schema items) :
      Fits (.list schema) (.list items)
  | record {kind : RecordKind} {members : List (Text × Value)}
      (fit : MembersFit kind.fields members) : Fits (.record kind) (.record members)

/-- Each item is of the form of the schema. -/
inductive ItemsFit : Schema → List Value → Prop
  | nil (schema : Schema) : ItemsFit schema []
  | cons {schema : Schema} {item : Value} {rest : List Value}
      (fit : Fits schema item) (more : ItemsFit schema rest) : ItemsFit schema (item :: rest)

/-- The members are the fields, in their order. -/
inductive MembersFit : List (Text × Schema) → List (Text × Value) → Prop
  | nil : MembersFit [] []
  | cons (name : Text) {schema : Schema} {value : Value} {fields : List (Text × Schema)}
      {members : List (Text × Value)}
      (fit : Fits schema value) (more : MembersFit fields members) :
      MembersFit ((name, schema) :: fields) ((name, value) :: members)

end

/-! ## Names and look-ups -/

theorem lookup_eq_some_of_mem
    {entries : List (Text × α)}
    (distinct : (entries.map Prod.fst).Nodup)
    {name : Text}
    {value : α}
    (member : (name, value) ∈ entries) :
    entries.lookup name = some value := by
  induction entries with
  | nil => cases member
  | cons entry entries inductionHypothesis =>
      rw [List.map_cons, List.nodup_cons] at distinct
      rcases List.mem_cons.mp member with rfl | later
      · exact List.lookup_cons_self
      · have differs : name ≠ entry.1 := by
          rintro rfl
          exact distinct.1 (List.mem_map.mpr ⟨_, later, rfl⟩)
        rw [lookup_cons_of_ne differs]
        exact inductionHypothesis distinct.2 later

/-- No two fields of a kind have one name. -/
theorem nodup_fields (kind : RecordKind) : (kind.fields.map Prod.fst).Nodup := by
  cases kind <;> decide

theorem MembersFit.map_fst_eq
    {fields : List (Text × Schema)}
    {members : List (Text × Value)}
    (fit : MembersFit fields members) :
    members.map Prod.fst = fields.map Prod.fst := by
  match fit with
  | .nil => rfl
  | .cons name _ more => exact congrArg (name :: ·) more.map_fst_eq

theorem MembersFit.exists_of_mem
    {fields : List (Text × Schema)}
    {members : List (Text × Value)}
    (fit : MembersFit fields members)
    {member : Text × Value}
    (isMember : member ∈ members) :
    ∃ schema, (member.1, schema) ∈ fields ∧ Fits schema member.2 := by
  match fit with
  | .cons name first more =>
      rcases List.mem_cons.mp isMember with rfl | later
      · exact ⟨_, List.mem_cons_self .., first⟩
      · obtain ⟨other, isField, fits⟩ := more.exists_of_mem later
        exact ⟨other, List.mem_cons_of_mem _ isField, fits⟩

/-! ## Collecting fields -/

/-- What is collected are the members that were given, if they are all there. -/
theorem collectGiven_eq_ok
    {given target : List (Text × Value)}
    {fields : List (Text × Schema)}
    (inOrder : target.map Prod.fst = fields.map Prod.fst)
    (complete : ∀ member ∈ target, given.lookup member.1 = some member.2) :
    collectGiven given fields = .ok target := by
  induction fields generalizing target with
  | nil =>
      rw [List.map_eq_nil_iff.mp inOrder]
      rfl
  | cons field fields inductionHypothesis =>
      obtain ⟨member, members, rfl, sameName, sameNames⟩ := List.map_eq_cons_iff.mp inOrder
      have first := complete member (List.mem_cons_self ..)
      have later := inductionHypothesis sameNames fun other isMember =>
        complete other (List.mem_cons_of_mem _ isMember)
      rw [sameName] at first
      rw [collectGiven, first, later, ← sameName]
      rfl

/-- What is collected fits the fields, if what was given fits. -/
theorem membersFit_of_collectGiven
    {given result : List (Text × Value)}
    {fields : List (Text × Schema)}
    {bound : Nat}
    (fit : ∀ name schema value, (name, schema) ∈ fields → given.lookup name = some value →
      Fits schema value ∧ value.nesting ≤ bound)
    (succeeds : collectGiven given fields = .ok result) :
    MembersFit fields result ∧ membersNesting result ≤ bound := by
  induction fields generalizing result with
  | nil =>
      cases succeeds
      exact ⟨.nil, Nat.zero_le _⟩
  | cons field fields inductionHypothesis =>
      rw [collectGiven] at succeeds
      cases found : given.lookup field.1 with
      | none =>
          rw [found] at succeeds
          cases succeeds
      | some value =>
          rw [found] at succeeds
          obtain ⟨rest, collected, succeeds⟩ := exists_of_bind_eq_ok succeeds
          cases succeeds
          have first := fit field.1 field.2 value (List.mem_cons_self ..) found
          have later := inductionHypothesis
            (fun name schema value isField =>
              fit name schema value (List.mem_cons_of_mem _ isField))
            collected
          exact ⟨.cons field.1 first.1 later.1, Nat.max_le.mpr ⟨first.2, later.2⟩⟩

/-! ## Fitting values are read as they are -/

mutual

/-- No record in a fitting value has a key twice. -/
theorem Fits.distinctKeys
    {schema : Schema}
    {value : Value}
    (fits : Fits schema value) :
    value.DistinctKeys := by
  match fits with
  | .text _ => trivial
  | .flag _ => trivial
  | .count _ => trivial
  | .list fit => exact fit.distinctKeys
  | .record fit => exact ⟨fit.map_fst_eq ▸ nodup_fields _, fit.distinctKeys⟩

/-- No record in fitting items has a key twice. -/
theorem ItemsFit.distinctKeys
    {schema : Schema}
    {items : List Value}
    (fit : ItemsFit schema items) :
    ItemsDistinctKeys items := by
  match fit with
  | .nil _ => trivial
  | .cons first more => exact ⟨first.distinctKeys, more.distinctKeys⟩

/-- No record in fitting members has a key twice. -/
theorem MembersFit.distinctKeys
    {fields : List (Text × Schema)}
    {members : List (Text × Value)}
    (fit : MembersFit fields members) :
    MembersDistinctKeys members := by
  match fit with
  | .nil => trivial
  | .cons _ first more => exact ⟨first.distinctKeys, more.distinctKeys⟩

end

mutual

/-- A fitting value matches, and yields itself. -/
theorem conform_of_fits
    (value : Value)
    {schema : Schema}
    (fits : Fits schema value) :
    conform schema value = .ok value := by
  match value, fits with
  | _, .text _ => rfl
  | _, .flag _ => rfl
  | _, .count _ => rfl
  | .list items, .list fit =>
      rw [conform, conformItems_of_fits items fit]
      rfl
  | .record members, .record fit =>
      rw [conform, conformMembers_of_fits members fit fit.exists_of_mem rfl]
      rfl

/-- Fitting items match, and yield themselves. -/
theorem conformItems_of_fits
    (items : List Value)
    {schema : Schema}
    (fit : ItemsFit schema items) :
    conformItems schema items = .ok items := by
  match items, fit with
  | [], .nil _ => rfl
  | item :: rest, .cons first more =>
      rw [conformItems, conform_of_fits item first, conformItems_of_fits rest more]
      rfl

/-- The last of fitting members match if the others are given, and yield all of them. -/
theorem conformMembers_of_fits
    (members : List (Text × Value))
    {kind : RecordKind}
    {target given : List (Text × Value)}
    (fit : MembersFit kind.fields target)
    (fitting : ∀ {member}, member ∈ members →
      ∃ schema, (member.1, schema) ∈ kind.fields ∧ Fits schema member.2)
    (split : target = given.reverse ++ members) :
    conformMembers kind given members = .ok target := by
  match members with
  | [] =>
      have distinct : (target.map Prod.fst).Nodup := fit.map_fst_eq ▸ nodup_fields kind
      rw [List.append_nil] at split
      rw [split, List.map_reverse, List.nodup_reverse] at distinct
      exact collectGiven_eq_ok fit.map_fst_eq fun member isMember =>
        lookup_eq_some_of_mem distinct (List.mem_reverse.mp (split ▸ isMember))
  | (key, value) :: rest =>
      obtain ⟨schema, isField, fits⟩ := fitting (List.mem_cons_self ..)
      rw [conformMembers, lookup_eq_some_of_mem (nodup_fields kind) isField]
      simp only [conform_of_fits value fits]
      exact conformMembers_of_fits rest fit (fun later => fitting (List.mem_cons_of_mem _ later))
        (by simpa using split)

end

/-- The settled form of a fitting value matches, and yields the value itself. -/
theorem conform_settled
    {schema : Schema}
    {value : Value}
    (fits : Fits schema value) :
    conform schema value.settled = .ok value := by
  rw [← toOption_eq_some_iff, toOption_conform_settled schema value fits.distinctKeys,
    conform_of_fits value fits]
  rfl

/-- A node that shows a fitting value within the depth is read strictly as that value. -/
theorem readNode_of_fits
    {value : Value}
    {node : Node}
    (shown : node.Shows value)
    {schema : Schema}
    (fits : Fits schema value)
    {depth : Nat}
    (within : value.nesting ≤ depth) :
    readNode depth schema node = .ok value := by
  rw [← toOption_eq_some_iff, toOption_readNode shown fits.distinctKeys within,
    conform_of_fits value fits]
  rfl

/-! ## Deeper values are refused -/

mutual

/-- A node that shows a fitting value beyond the depth is refused strictly for its depth. -/
theorem tooDeep_readNode
    {value : Value}
    {node : Node}
    (shown : node.Shows value)
    {schema : Schema}
    (fits : Fits schema value)
    {depth : Nat}
    (beyond : depth < value.nesting) :
    TooDeep (readNode depth schema node) := by
  match shown, fits, depth with
  | .list _ _, .list _, 0 => exact ⟨_, rfl, rfl⟩
  | .record _ _, .record _, 0 => exact ⟨_, rfl, rfl⟩
  | .list _ shownItems, .list fit, depth + 1 =>
      exact (tooDeep_readItems shownItems fit (Nat.lt_of_succ_lt_succ beyond)).map _
  | .record _ shownMembers, .record fit, depth + 1 =>
      have noneGiven := fit.map_fst_eq ▸ nodup_fields _
      exact (@tooDeep_readMembers _ _ shownMembers _ fit.exists_of_mem [] noneGiven depth
        (Nat.lt_of_succ_lt_succ beyond)).map _

/-- Items that show fitting values of which one is beyond the depth are refused strictly for their
depth. -/
theorem tooDeep_readItems
    {values : List Value}
    {items : Items}
    (shown : items.Show values)
    {schema : Schema}
    (fit : ItemsFit schema values)
    {depth : Nat}
    (beyond : depth < itemsNesting values) :
    TooDeep (readItems depth schema items) := by
  match shown, fit with
  | .item _ value shownValue shownRest, .cons first more =>
      rw [readItems]
      rcases Nat.lt_or_ge depth value.nesting with firstBeyond | firstWithin
      · exact (tooDeep_readNode shownValue first firstBeyond).bind _
      · rw [itemsNesting] at beyond
        rw [readNode_of_fits shownValue first firstWithin]
        exact (tooDeep_readItems shownRest more (by omega)).bind _

/-- Members that show fitting pairs of which one is beyond the depth are refused strictly for their
depth. -/
theorem tooDeep_readMembers
    {pairs : List (Text × Value)}
    {members : Members}
    (shown : members.Show pairs)
    {kind : RecordKind}
    (fitting : ∀ {pair}, pair ∈ pairs →
      ∃ schema, (pair.1, schema) ∈ kind.fields ∧ Fits schema pair.2)
    {given : List (Text × Value)}
    (distinct : ((given.reverse ++ pairs).map Prod.fst).Nodup)
    {depth : Nat}
    (beyond : depth < membersNesting pairs) :
    TooDeep (readMembers depth kind given members) := by
  match shown with
  | .member key _ value shownValue shownRest =>
      obtain ⟨schema, isField, fits⟩ := fitting (List.mem_cons_self ..)
      rw [readMembers_member (notGiven_of_nodup distinct) shownValue.skipFault?_eq_none,
        lookup_eq_some_of_mem (nodup_fields kind) isField]
      dsimp only
      rcases Nat.lt_or_ge depth value.nesting with firstBeyond | firstWithin
      · exact (tooDeep_readNode shownValue fits firstBeyond).bind _
      · rw [membersNesting] at beyond
        rw [readNode_of_fits shownValue fits firstWithin]
        exact tooDeep_readMembers shownRest
          (fun isMember => fitting (List.mem_cons_of_mem _ isMember))
          (by simpa using distinct) (by omega)

end

/-! ## What matches fits -/

mutual

/-- What a match yields fits the schema, and is no deeper than what was matched. -/
theorem fits_of_conform
    (value : Value)
    {schema : Schema}
    {result : Value}
    (succeeds : conform schema value = .ok result) :
    Fits schema result ∧ result.nesting ≤ value.nesting := by
  cases value with
  | null => cases succeeds
  | flag found =>
      cases schema <;> cases succeeds
      exact ⟨.flag found, Nat.le_refl _⟩
  | number found =>
      cases schema <;> cases found <;> cases succeeds
      exact ⟨.count _, Nat.le_refl _⟩
  | text found =>
      cases schema <;> cases succeeds
      exact ⟨.text found, Nat.le_refl _⟩
  | list items =>
      cases schema with
      | text => cases succeeds
      | flag => cases succeeds
      | count => cases succeeds
      | list item =>
          obtain ⟨values, matched, rfl⟩ := exists_of_map_eq_ok succeeds
          have fit := itemsFit_of_conformItems items matched
          exact ⟨.list fit.1, Nat.succ_le_succ fit.2⟩
      | record kind =>
          obtain ⟨members, matched, rfl⟩ := exists_of_map_eq_ok succeeds
          have fit := membersFit_of_conformFields items matched
          exact ⟨.record fit.1, Nat.succ_le_succ fit.2⟩
  | record members =>
      cases schema with
      | text => cases succeeds
      | flag => cases succeeds
      | count => cases succeeds
      | list item => cases succeeds
      | record kind =>
          obtain ⟨found, matched, rfl⟩ := exists_of_map_eq_ok succeeds
          have fit := membersFit_of_conformMembers members (fun _ _ _ _ found => by cases found)
            (Nat.le_refl _) matched
          exact ⟨.record fit.1, Nat.succ_le_succ fit.2⟩

/-- Items that a match yields fit the schema, and are no deeper than those matched. -/
theorem itemsFit_of_conformItems
    (items : List Value)
    {schema : Schema}
    {result : List Value}
    (succeeds : conformItems schema items = .ok result) :
    ItemsFit schema result ∧ itemsNesting result ≤ itemsNesting items := by
  cases items with
  | nil =>
      cases succeeds
      exact ⟨.nil schema, Nat.le_refl _⟩
  | cons item items =>
      obtain ⟨value, matched, succeeds⟩ := exists_of_bind_eq_ok succeeds
      obtain ⟨values, matchedMore, succeeds⟩ := exists_of_bind_eq_ok succeeds
      cases succeeds
      have first := fits_of_conform item matched
      have more := itemsFit_of_conformItems items matchedMore
      exact ⟨.cons first.1 more.1, max_le_max first.2 more.2⟩

/-- The members that a list of values yields fit the fields, and are no deeper than the values. -/
theorem membersFit_of_conformFields
    (items : List Value)
    {kind : RecordKind}
    {length : Nat}
    {fields : List (Text × Schema)}
    {result : List (Text × Value)}
    (succeeds : conformFields kind length fields items = .ok result) :
    MembersFit fields result ∧ membersNesting result ≤ itemsNesting items := by
  cases items with
  | nil =>
      cases fields <;> cases succeeds
      exact ⟨.nil, Nat.le_refl _⟩
  | cons item items =>
      cases fields with
      | nil => cases succeeds
      | cons field fields =>
          obtain ⟨value, matched, succeeds⟩ := exists_of_bind_eq_ok succeeds
          obtain ⟨values, matchedMore, succeeds⟩ := exists_of_bind_eq_ok succeeds
          cases succeeds
          have first := fits_of_conform item matched
          have more := membersFit_of_conformFields items matchedMore
          exact ⟨.cons field.1 first.1 more.1, max_le_max first.2 more.2⟩

/-- The members that a match of members yields fit the fields, if those given already do, and are no
deeper than a bound on both. -/
theorem membersFit_of_conformMembers
    (members : List (Text × Value))
    {kind : RecordKind}
    {given result : List (Text × Value)}
    {bound : Nat}
    (fit : ∀ name schema value, (name, schema) ∈ kind.fields → given.lookup name = some value →
      Fits schema value ∧ value.nesting ≤ bound)
    (within : membersNesting members ≤ bound)
    (succeeds : conformMembers kind given members = .ok result) :
    MembersFit kind.fields result ∧ membersNesting result ≤ bound := by
  match members with
  | [] => exact membersFit_of_collectGiven fit succeeds
  | (key, value) :: members =>
      rw [membersNesting] at within
      rw [conformMembers] at succeeds
      cases isField : kind.fields.lookup key with
      | none =>
          rw [isField] at succeeds
          exact membersFit_of_conformMembers members fit (by omega) succeeds
      | some schema =>
          rw [isField] at succeeds
          obtain ⟨record, matched, succeeds⟩ := exists_of_bind_eq_ok succeeds
          have first := fits_of_conform value matched
          refine membersFit_of_conformMembers members ?_ (by omega) succeeds
          intro name other found isOther isGiven
          rw [List.lookup_cons] at isGiven
          split at isGiven
          next same =>
            obtain rfl := beq_iff_eq.mp same
            rw [lookup_eq_some_of_mem (nodup_fields kind) isOther] at isField
            cases isField
            cases isGiven
            exact ⟨first.1, by omega⟩
          next => exact fit name other found isOther isGiven

end

end Document
end PhraseGrammar
