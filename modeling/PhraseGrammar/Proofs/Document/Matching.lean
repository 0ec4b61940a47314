import Mathlib.Data.List.Nodup
import PhraseGrammar.Proofs.Document.Nesting

/-!
# Matching values without repeated keys

As long as no record has a key twice, the order of its members is of no account to a match, and what
a value is read as does not depend on the way of reading: the strict pass over the node of a value
within the depth comes to what the match of the settled value comes to.
-/

namespace PhraseGrammar
namespace Json

mutual

/-- No record in the value has a key twice. -/
def Value.DistinctKeys : Value → Prop
  | .list items => ItemsDistinctKeys items
  | .record members => (members.map Prod.fst).Nodup ∧ MembersDistinctKeys members
  | _ => True

/-- `Value.DistinctKeys` of each item. -/
def ItemsDistinctKeys : List Value → Prop
  | [] => True
  | item :: rest => item.DistinctKeys ∧ ItemsDistinctKeys rest

/-- `Value.DistinctKeys` of the value of each member. -/
def MembersDistinctKeys : List (Text × Value) → Prop
  | [] => True
  | (_, value) :: rest => value.DistinctKeys ∧ MembersDistinctKeys rest

end

theorem map_fst_settledValues (members : List (Text × Value)) :
    (settledValues members).map Prod.fst = members.map Prod.fst := by
  induction members with
  | nil => rfl
  | cons member members inductionHypothesis => exact congrArg (member.1 :: ·) inductionHypothesis

/-- A member with a new key is put among the others. -/
theorem putMember_perm
    {key : Text}
    {value : Value}
    {members : List (Text × Value)}
    (isNew : key ∉ members.map Prod.fst) :
    (putMember key value members).Perm ((key, value) :: members) := by
  induction members with
  | nil => exact .refl _
  | cons other members inductionHypothesis =>
      rw [List.map_cons, List.mem_cons, not_or] at isNew
      rw [putMember, if_neg isNew.1]
      split_ifs
      · exact .refl _
      · exact ((inductionHypothesis isNew.2).cons other).trans (.swap _ _ _)

/-- Members with different keys are only rearranged when they are put in order. -/
theorem settleMembers_perm
    {members : List (Text × Value)}
    (distinct : (members.map Prod.fst).Nodup) :
    (settleMembers members).Perm members := by
  have general (settled : List (Text × Value))
      (distinct : ((settled ++ members).map Prod.fst).Nodup) :
      (members.foldl (fun settled member => putMember member.1 member.2 settled) settled).Perm
        (settled ++ members) := by
    induction members generalizing settled with
    | nil => simp
    | cons member members inductionHypothesis =>
        have isNew : member.1 ∉ settled.map Prod.fst := by
          rw [List.map_append, List.nodup_append] at distinct
          exact fun isSettled => distinct.2.2 _ isSettled _ (List.mem_cons_self ..) rfl
        have put : (putMember member.1 member.2 settled ++ members).Perm
            (settled ++ member :: members) :=
          ((putMember_perm isNew).append_right members).trans List.perm_middle.symm
        have stillDistinct := (put.map Prod.fst).nodup_iff.mpr distinct
        exact (inductionHypothesis (List.nodup_append.mp (List.map_append .. ▸ stillDistinct)).2.1
          _ stillDistinct).trans put
  exact general [] distinct

mutual

/-- What is a value is skipped without a fault. -/
theorem Node.Shows.skipFault?_eq_none
    {node : Node}
    {value : Value}
    (shown : node.Shows value) :
    node.skipFault? = none := by
  match shown with
  | .null _ => rfl
  | .flag _ _ => rfl
  | .number _ _ => rfl
  | .text _ _ => rfl
  | .list _ shownItems => exact shownItems.skipFault?_eq_none
  | .record _ shownMembers => exact shownMembers.skipFault?_eq_none

/-- What are the items of a list is skipped without a fault. -/
theorem Items.Show.skipFault?_eq_none
    {items : Items}
    {values : List Value}
    (shown : items.Show values) :
    items.skipFault? = none := by
  match shown with
  | .close _ => rfl
  | .item _ _ shownValue shownRest =>
      rw [Items.skipFault?, shownValue.skipFault?_eq_none]
      exact shownRest.skipFault?_eq_none

/-- What are the members of a record is skipped without a fault. -/
theorem Members.Show.skipFault?_eq_none
    {members : Members}
    {pairs : List (Text × Value)}
    (shown : members.Show pairs) :
    members.skipFault? = none := by
  match shown with
  | .close _ => rfl
  | .member _ _ _ shownValue shownRest =>
      rw [Members.skipFault?, shownValue.skipFault?_eq_none]
      exact shownRest.skipFault?_eq_none

end

end Json

namespace Document

open Json

/-! ## Look-ups -/

theorem lookup_cons_of_ne
    [BEq κ]
    [LawfulBEq κ]
    {key other : κ}
    (differs : other ≠ key)
    (value : α)
    (entries : List (κ × α)) :
    ((key, value) :: entries).lookup other = entries.lookup other := by
  rw [List.lookup_cons, beq_eq_false_iff_ne.mpr differs]

theorem lookup_eq_none_of_notMem
    [BEq κ]
    [LawfulBEq κ]
    {entries : List (κ × α)}
    {key : κ}
    (isNew : key ∉ entries.map Prod.fst) :
    entries.lookup key = none := by
  rw [List.lookup_eq_none_iff]
  intro entry isEntry
  exact bne_iff_ne.mpr fun same => isNew (same ▸ List.mem_map_of_mem isEntry)

/-- Two entries with different names are looked up alike in either order. -/
theorem lookup_swap
    {first second : Text}
    (differ : first ≠ second)
    (value value' : α)
    (entries : List (Text × α))
    (name : Text) :
    ((first, value) :: (second, value') :: entries).lookup name =
      ((second, value') :: (first, value) :: entries).lookup name := by
  by_cases isFirst : name = first
  · subst isFirst
    rw [lookup_cons_of_ne differ, List.lookup_cons_self, List.lookup_cons_self]
  · rw [lookup_cons_of_ne isFirst, List.lookup_cons, List.lookup_cons, lookup_cons_of_ne isFirst]

/-! ## The order of members -/

/-- Only the look-ups in what is given decide what is collected. -/
theorem collectGiven_congr
    {given given' : List (Text × Value)}
    (sameLookups : ∀ name, given.lookup name = given'.lookup name)
    (fields : List (Text × Schema)) :
    collectGiven given fields = collectGiven given' fields := by
  induction fields with
  | nil => rfl
  | cons field fields inductionHypothesis =>
      rw [collectGiven, collectGiven, sameLookups, inductionHypothesis]

/-- The strict reading collects fields as the match does, but tells where one is missing. -/
theorem collect_eq_mapError
    (given : List (Text × Value))
    (rest : Text)
    (fields : List (Text × Schema)) :
    collect given rest fields = (collectGiven given fields).mapError (.before · rest) := by
  induction fields with
  | nil => rfl
  | cons field fields inductionHypothesis =>
      rw [collect, collectGiven, inductionHypothesis]
      cases given.lookup field.1 with
      | none => rfl
      | some value => cases collectGiven given fields <;> rfl

/-- Only the look-ups in what is given decide what members match. -/
theorem conformMembers_congr
    (kind : RecordKind)
    (members : List (Text × Value))
    {given given' : List (Text × Value)}
    (sameLookups : ∀ name, given.lookup name = given'.lookup name) :
    conformMembers kind given members = conformMembers kind given' members := by
  induction members generalizing given given' with
  | nil => exact collectGiven_congr sameLookups kind.fields
  | cons member members inductionHypothesis =>
      rw [conformMembers, conformMembers]
      cases kind.fields.lookup member.1 with
      | none => exact inductionHypothesis sameLookups
      | some schema =>
          refine bind_congr fun record => inductionHypothesis fun name => ?_
          rw [List.lookup_cons, List.lookup_cons, sameLookups]

/-- Members with different keys match alike in every order. -/
theorem toOption_conformMembers_perm
    {kind : RecordKind}
    {members members' : List (Text × Value)}
    (perm : members.Perm members')
    (distinct : (members.map Prod.fst).Nodup)
    (given : List (Text × Value)) :
    (conformMembers kind given members).toOption =
      (conformMembers kind given members').toOption := by
  induction perm generalizing given with
  | nil => rfl
  | cons member _ inductionHypothesis =>
      have later := inductionHypothesis (List.nodup_cons.mp distinct).2
      rw [conformMembers, conformMembers]
      cases kind.fields.lookup member.1 with
      | none => exact later given
      | some schema => simp only [toOption_bind, later]
  | swap first second members =>
      have differ : first.1 ≠ second.1 := fun same =>
        (List.nodup_cons.mp distinct).1 (same ▸ List.mem_cons_self ..)
      have inEitherOrder (record record' : Value) :
          conformMembers kind ((first.1, record) :: (second.1, record') :: given) members =
            conformMembers kind ((second.1, record') :: (first.1, record) :: given) members :=
        conformMembers_congr kind members (lookup_swap differ record record' given)
      simp only [conformMembers]
      cases kind.fields.lookup first.1 with
      | none => rfl
      | some schema =>
          cases kind.fields.lookup second.1 with
          | none => rfl
          | some schema' =>
              simp only [toOption_bind, inEitherOrder]
              exact Option.bind_comm _ _
  | trans perm _ first second =>
      exact (first distinct given).trans (second ((perm.map Prod.fst).nodup_iff.mp distinct) given)

mutual

/-- Settling a value changes nothing about what it matches. -/
theorem toOption_conform_settled
    (schema : Schema)
    (value : Value)
    (distinct : value.DistinctKeys) :
    (conform schema value.settled).toOption = (conform schema value).toOption := by
  match value, schema with
  | .null, _ => rfl
  | .flag _, _ => rfl
  | .number _, _ => rfl
  | .text _, _ => rfl
  | .list _, .text => rfl
  | .list _, .flag => rfl
  | .list _, .count => rfl
  | .list items, .list item =>
      simp only [Value.settled, conform, toOption_map,
        toOption_conformItems_settled item items distinct]
  | .list items, .record kind =>
      simp only [Value.settled, conform, toOption_map,
        toOption_conformFields_settled kind kind.fields items distinct _ items.length]
  | .record _, .text => rfl
  | .record _, .flag => rfl
  | .record _, .count => rfl
  | .record _, .list _ => rfl
  | .record members, .record kind =>
      have settledDistinct := (map_fst_settledValues members).symm ▸ distinct.1
      simp only [Value.settled, conform, toOption_map,
        toOption_conformMembers_perm (settleMembers_perm settledDistinct)
          ((settleMembers_perm settledDistinct).map Prod.fst |>.nodup_iff.mpr settledDistinct) [],
        toOption_conformMembers_settled kind [] members distinct.2]

/-- Settling items changes nothing about what they match. -/
theorem toOption_conformItems_settled
    (schema : Schema)
    (items : List Value)
    (distinct : ItemsDistinctKeys items) :
    (conformItems schema (settledItems items)).toOption = (conformItems schema items).toOption := by
  match items with
  | [] => rfl
  | item :: rest =>
      simp only [settledItems, conformItems, toOption_bind,
        toOption_conform_settled schema item distinct.1,
        toOption_conformItems_settled schema rest distinct.2]

/-- Settling the values of fields changes nothing about what they match. -/
theorem toOption_conformFields_settled
    (kind : RecordKind)
    (fields : List (Text × Schema))
    (items : List Value)
    (distinct : ItemsDistinctKeys items)
    (length length' : Nat) :
    (conformFields kind length fields (settledItems items)).toOption =
      (conformFields kind length' fields items).toOption := by
  match items, fields with
  | [], [] => rfl
  | [], _ :: _ => rfl
  | _ :: _, [] => rfl
  | item :: rest, (_, schema) :: fields =>
      simp only [settledItems, conformFields, toOption_bind,
        toOption_conform_settled schema item distinct.1,
        toOption_conformFields_settled kind fields rest distinct.2 length length']

/-- Settling the values of members changes nothing about what they match. -/
theorem toOption_conformMembers_settled
    (kind : RecordKind)
    (given members : List (Text × Value))
    (distinct : MembersDistinctKeys members) :
    (conformMembers kind given (settledValues members)).toOption =
      (conformMembers kind given members).toOption := by
  match members with
  | [] => rfl
  | (key, value) :: rest =>
      simp only [settledValues, conformMembers]
      cases kind.fields.lookup key with
      | none => exact toOption_conformMembers_settled kind given rest distinct.2
      | some schema =>
          simp only [toOption_bind, toOption_conform_settled schema value distinct.1,
            toOption_conformMembers_settled kind _ rest distinct.2]

end

/-! ## Strict reading -/

/-- The key of a member behind those given is not given, if all keys differ. -/
theorem notGiven_of_nodup
    {given pairs : List (Text × Value)}
    {key : Text}
    {value : Value}
    (distinct : ((given.reverse ++ (key, value) :: pairs).map Prod.fst).Nodup) :
    given.lookup key = none := by
  rw [List.map_append, List.nodup_append, List.map_reverse] at distinct
  apply lookup_eq_none_of_notMem
  intro isGiven
  exact distinct.2.2 _ (List.mem_reverse.mpr isGiven) _ (List.mem_cons_self ..) rfl

/-- A member that was not given before is skipped, or read as the schema of its field says, before
the reading goes on. -/
theorem readMembers_member
    {given : List (Text × Value)}
    {key : Text}
    (notGiven : given.lookup key = none)
    {node : Node}
    (noFault : node.skipFault? = none)
    (depth : Nat)
    (kind : RecordKind)
    (behindKey : Text)
    (more : Members) :
    readMembers depth kind given (.member (.ok key) behindKey node more) =
      match kind.fields.lookup key with
      | none => readMembers depth kind given more
      | some schema =>
          readNode depth schema node >>= fun value =>
            readMembers depth kind ((key, value) :: given) more := by
  rw [readMembers]
  cases isField : kind.fields.lookup key with
  | none => simp only [bind, Except.bind, isField, noFault]
  | some schema =>
      simp only [bind, Except.bind, isField, notGiven, Option.isSome_none, Bool.false_eq_true,
        if_false]

mutual

/-- A node that shows a value within the depth is read strictly as what the value matches. -/
theorem toOption_readNode
    {value : Value}
    {node : Node}
    (shown : node.Shows value)
    (distinct : value.DistinctKeys)
    {depth : Nat}
    (within : value.nesting ≤ depth)
    (schema : Schema) :
    (readNode depth schema node).toOption = (conform schema value).toOption := by
  match shown, schema, depth with
  | .null _, _, _ => rfl
  | .flag _ _, schema, _ => cases schema <;> rfl
  | .number value _, schema, _ => cases schema <;> cases value <;> rfl
  | .text _ _, schema, _ => cases schema <;> rfl
  | .list _ _, .text, _ => rfl
  | .list _ _, .flag, _ => rfl
  | .list _ _, .count, _ => rfl
  | .list _ _, .list _, 0 => exact absurd within (Nat.not_succ_le_zero _)
  | .list _ _, .record _, 0 => exact absurd within (Nat.not_succ_le_zero _)
  | .list _ shownItems, .list item, depth + 1 =>
      simp only [readNode, conform, toOption_map,
        toOption_readItems shownItems distinct (Nat.le_of_succ_le_succ within) item]
  | @Node.Shows.list _ _ values shownItems, .record kind, depth + 1 =>
      simp only [readNode, conform, toOption_map, toOption_readFields shownItems distinct
        (Nat.le_of_succ_le_succ within) kind kind.fields values.length]
  | .record _ _, .text, _ => rfl
  | .record _ _, .flag, _ => rfl
  | .record _ _, .count, _ => rfl
  | .record _ _, .list _, _ => rfl
  | .record _ _, .record _, 0 => exact absurd within (Nat.not_succ_le_zero _)
  | .record _ shownMembers, .record kind, depth + 1 =>
      have sameMembers := @toOption_readMembers _ _ shownMembers distinct.2 depth
        (Nat.le_of_succ_le_succ within) kind [] distinct.1
      simp only [readNode, conform, toOption_map, sameMembers]

/-- Items that show values within the depth are read strictly as what the values match. -/
theorem toOption_readItems
    {values : List Value}
    {items : Items}
    (shown : items.Show values)
    (distinct : ItemsDistinctKeys values)
    {depth : Nat}
    (within : itemsNesting values ≤ depth)
    (schema : Schema) :
    (readItems depth schema items).toOption = (conformItems schema values).toOption := by
  match shown with
  | .close _ => rfl
  | .item _ _ shownValue shownRest =>
      obtain ⟨first, later⟩ := Nat.max_le.mp within
      simp only [readItems, conformItems, toOption_bind,
        toOption_readNode shownValue distinct.1 first,
        toOption_readItems shownRest distinct.2 later]
      rfl

/-- Items that show values within the depth are read strictly as the fields that the values match.
-/
theorem toOption_readFields
    {values : List Value}
    {items : Items}
    (shown : items.Show values)
    (distinct : ItemsDistinctKeys values)
    {depth : Nat}
    (within : itemsNesting values ≤ depth)
    (kind : RecordKind)
    (fields : List (Text × Schema))
    (length : Nat) :
    (readFields depth kind fields items).toOption =
      (conformFields kind length fields values).toOption := by
  match shown, fields with
  | .close _, [] => rfl
  | .close _, _ :: _ => rfl
  | .item _ _ _ _, [] => rfl
  | .item _ _ shownValue shownRest, (_, schema) :: fields =>
      obtain ⟨first, later⟩ := Nat.max_le.mp within
      simp only [readFields, conformFields, toOption_bind,
        toOption_readNode shownValue distinct.1 first,
        toOption_readFields shownRest distinct.2 later kind fields length]
      rfl

/-- Members that show pairs within the depth are read strictly as what the pairs match, as long as
no key is there twice. -/
theorem toOption_readMembers
    {pairs : List (Text × Value)}
    {members : Members}
    (shown : members.Show pairs)
    (distinct : MembersDistinctKeys pairs)
    {depth : Nat}
    (within : membersNesting pairs ≤ depth)
    {kind : RecordKind}
    {given : List (Text × Value)}
    (distinctKeys : ((given.reverse ++ pairs).map Prod.fst).Nodup) :
    (readMembers depth kind given members).toOption =
      (conformMembers kind given pairs).toOption := by
  match shown with
  | .close rest =>
      rw [readMembers, conformMembers, collect_eq_mapError, toOption_mapError]
  | .member key _ value shownValue shownRest =>
      obtain ⟨first, later⟩ := Nat.max_le.mp within
      rw [readMembers_member (notGiven_of_nodup distinctKeys) shownValue.skipFault?_eq_none,
        conformMembers]
      cases kind.fields.lookup key with
      | none =>
          refine toOption_readMembers shownRest distinct.2 later (distinctKeys.sublist ?_)
          exact (List.Sublist.append_left (List.sublist_cons_self ..) _).map _
      | some schema =>
          have further (record : Value) :=
            @toOption_readMembers _ _ shownRest distinct.2 depth later
            kind ((key, record) :: given) (by simpa using distinctKeys)
          simp only [toOption_bind, toOption_readNode shownValue distinct.1 first, further]

end

end Document
end PhraseGrammar
