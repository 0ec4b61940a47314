import Mathlib.Tactic.SplitIfs
import Mathlib.Tactic.Tauto
import PhraseGrammar.Document.Read
import PhraseGrammar.Proofs.Json.Shown
import PhraseGrammar.Proofs.Result

/-!
# The nesting of values

The nesting of a value is the greatest number of lists and records of it that are open at once. It
decides whether any value is read: a node that shows a value within the depth is read as that value
with the members of its records in order, and one that shows a deeper value is refused for its
depth. Nothing deeper than the depth is ever read, whatever the node.
-/

namespace PhraseGrammar
namespace Json

mutual

/-- The greatest number of lists and records that are open at once. -/
def Value.nesting : Value → Nat
  | .list items => itemsNesting items + 1
  | .record members => membersNesting members + 1
  | _ => 0

/-- The greatest nesting of the items. -/
def itemsNesting : List Value → Nat
  | [] => 0
  | item :: rest => max item.nesting (itemsNesting rest)

/-- The greatest nesting of the values of the members. -/
def membersNesting : List (Text × Value) → Nat
  | [] => 0
  | (_, value) :: rest => max value.nesting (membersNesting rest)

end

mutual

/-- The value with the members of every record in ascending order of their keys. -/
def Value.settled : Value → Value
  | .list items => .list (settledItems items)
  | .record members => .record (settleMembers (settledValues members))
  | value => value

/-- `Value.settled` of each item. -/
def settledItems : List Value → List Value
  | [] => []
  | item :: rest => item.settled :: settledItems rest

/-- The members in the same order, with `Value.settled` of the value of each. -/
def settledValues : List (Text × Value) → List (Text × Value)
  | [] => []
  | (key, value) :: rest => (key, value.settled) :: settledValues rest

end

/-! ## Members in order -/

theorem membersNesting_putMember_le
    (key : Text)
    (value : Value)
    (members : List (Text × Value)) :
    membersNesting (putMember key value members) ≤ max value.nesting (membersNesting members) := by
  induction members with
  | nil => simp [putMember, membersNesting]
  | cons member members inductionHypothesis =>
      rw [putMember]
      split_ifs <;> simp only [membersNesting] <;> omega

/-- Putting members in order does not make them deeper. -/
theorem membersNesting_settleMembers_le (members : List (Text × Value)) :
    membersNesting (settleMembers members) ≤ membersNesting members := by
  have general (settled : List (Text × Value)) :
      membersNesting
          (members.foldl (fun settled member => putMember member.1 member.2 settled) settled)
        ≤ max (membersNesting settled) (membersNesting members) := by
    induction members generalizing settled with
    | nil => simp [membersNesting]
    | cons member members inductionHypothesis =>
        have further := inductionHypothesis (putMember member.1 member.2 settled)
        have put := membersNesting_putMember_le member.1 member.2 settled
        simp only [List.foldl_cons, membersNesting] at further ⊢
        omega
  simpa [settleMembers, membersNesting] using general []

end Json

namespace Document

open Json

/-! ## Reading any value -/

mutual

/-- A node that shows a value within the depth is read as that value, settled. -/
theorem readAny_of_nesting_le
    {value : Value}
    {node : Node}
    (shown : node.Shows value)
    {depth : Nat}
    (within : value.nesting ≤ depth) :
    readAny depth node = .ok value.settled := by
  match shown, depth with
  | .null _, _ => rfl
  | .flag _ _, _ => rfl
  | .number _ _, _ => rfl
  | .text _ _, _ => rfl
  | .list _ _, 0 => exact absurd within (Nat.not_succ_le_zero _)
  | .record _ _, 0 => exact absurd within (Nat.not_succ_le_zero _)
  | .list _ shownItems, depth + 1 =>
      rw [readAny, readAnyItems_of_nesting_le shownItems (Nat.le_of_succ_le_succ within)]
      rfl
  | .record _ shownMembers, depth + 1 =>
      rw [readAny, readAnyMembers_of_nesting_le shownMembers (Nat.le_of_succ_le_succ within)]
      rfl

/-- Items that show values within the depth are read as those values, settled. -/
theorem readAnyItems_of_nesting_le
    {values : List Value}
    {items : Items}
    (shown : items.Show values)
    {depth : Nat}
    (within : itemsNesting values ≤ depth) :
    readAnyItems depth items = .ok (settledItems values) := by
  match shown with
  | .close _ => rfl
  | .item _ _ shownValue shownRest =>
      rw [itemsNesting] at within
      rw [readAnyItems, readAny_of_nesting_le shownValue (by omega),
        readAnyItems_of_nesting_le shownRest (by omega)]
      rfl

/-- Members that show pairs within the depth are read as those pairs, with their values settled. -/
theorem readAnyMembers_of_nesting_le
    {pairs : List (Text × Value)}
    {members : Members}
    (shown : members.Show pairs)
    {depth : Nat}
    (within : membersNesting pairs ≤ depth) :
    readAnyMembers depth members = .ok (settledValues pairs) := by
  match shown with
  | .close _ => rfl
  | .member key _ _ shownValue shownRest =>
      rw [membersNesting] at within
      rw [readAnyMembers, readAny_of_nesting_le shownValue (by omega),
        readAnyMembers_of_nesting_le shownRest (by omega)]
      rfl

end

/-- A reading that is refused because too much is open at once. -/
def TooDeep (result : Except Fault α) : Prop :=
  ∃ fault, result = .error fault ∧ fault.complaint = .tooDeep

theorem TooDeep.map
    {result : Except Fault α}
    (tooDeep : TooDeep result)
    (function : α → β) :
    TooDeep (result.map function) := by
  obtain ⟨fault, rfl, complaint⟩ := tooDeep
  exact ⟨fault, rfl, complaint⟩

theorem TooDeep.bind
    {result : Except Fault α}
    (tooDeep : TooDeep result)
    (next : α → Except Fault β) :
    TooDeep (result >>= next) := by
  obtain ⟨fault, rfl, complaint⟩ := tooDeep
  exact ⟨fault, rfl, complaint⟩

mutual

/-- A node that shows a value beyond the depth is refused for its depth. -/
theorem tooDeep_readAny
    {value : Value}
    {node : Node}
    (shown : node.Shows value)
    {depth : Nat}
    (beyond : depth < value.nesting) :
    TooDeep (readAny depth node) := by
  match shown, depth with
  | .list _ _, 0 => exact ⟨_, rfl, rfl⟩
  | .record _ _, 0 => exact ⟨_, rfl, rfl⟩
  | .list _ shownItems, depth + 1 =>
      exact (tooDeep_readAnyItems shownItems (Nat.lt_of_succ_lt_succ beyond)).map _
  | .record _ shownMembers, depth + 1 =>
      exact (tooDeep_readAnyMembers shownMembers (Nat.lt_of_succ_lt_succ beyond)).map _

/-- Items that show values of which one is beyond the depth are refused for their depth. -/
theorem tooDeep_readAnyItems
    {values : List Value}
    {items : Items}
    (shown : items.Show values)
    {depth : Nat}
    (beyond : depth < itemsNesting values) :
    TooDeep (readAnyItems depth items) := by
  match shown with
  | .item _ value shownValue shownRest =>
      rw [readAnyItems]
      rcases Nat.lt_or_ge depth value.nesting with first | first
      · exact (tooDeep_readAny shownValue first).bind _
      · rw [itemsNesting] at beyond
        rw [readAny_of_nesting_le shownValue first]
        exact (tooDeep_readAnyItems shownRest (by omega)).bind _

/-- Members that show pairs of which one is beyond the depth are refused for their depth. -/
theorem tooDeep_readAnyMembers
    {pairs : List (Text × Value)}
    {members : Members}
    (shown : members.Show pairs)
    {depth : Nat}
    (beyond : depth < membersNesting pairs) :
    TooDeep (readAnyMembers depth members) := by
  match shown with
  | .member key _ value shownValue shownRest =>
      rw [readAnyMembers]
      rcases Nat.lt_or_ge depth value.nesting with first | first
      · exact (tooDeep_readAny shownValue first).bind _
      · rw [membersNesting] at beyond
        rw [readAny_of_nesting_le shownValue first]
        exact (tooDeep_readAnyMembers shownRest (by omega)).bind _

end

mutual

/-- Nothing beyond the depth is read. -/
theorem nesting_le_of_readAny
    (node : Node)
    {depth : Nat}
    {value : Value}
    (succeeds : readAny depth node = .ok value) :
    value.nesting ≤ depth := by
  cases node with
  | null rest =>
      cases succeeds
      exact Nat.zero_le _
  | flag found rest =>
      cases succeeds
      exact Nat.zero_le _
  | number found rest =>
      obtain ⟨_, _, rfl⟩ := exists_of_map_eq_ok succeeds
      exact Nat.zero_le _
  | text found rest =>
      obtain ⟨_, _, rfl⟩ := exists_of_map_eq_ok succeeds
      exact Nat.zero_le _
  | list start items =>
      cases depth with
      | zero => cases succeeds
      | succ depth =>
          obtain ⟨values, readValues, rfl⟩ := exists_of_map_eq_ok succeeds
          exact Nat.succ_le_succ (nesting_le_of_readAnyItems items readValues)
  | record start members =>
      cases depth with
      | zero => cases succeeds
      | succ depth =>
          obtain ⟨pairs, readPairs, rfl⟩ := exists_of_map_eq_ok succeeds
          exact Nat.succ_le_succ (Nat.le_trans (membersNesting_settleMembers_le pairs)
            (nesting_le_of_readAnyMembers members readPairs))
  | broken reading skipping => cases succeeds

/-- No item beyond the depth is read. -/
theorem nesting_le_of_readAnyItems
    (items : Items)
    {depth : Nat}
    {values : List Value}
    (succeeds : readAnyItems depth items = .ok values) :
    itemsNesting values ≤ depth := by
  cases items with
  | close rest =>
      cases succeeds
      exact Nat.zero_le _
  | item start node more =>
      obtain ⟨value, readValue, succeeds⟩ := exists_of_bind_eq_ok succeeds
      obtain ⟨rest, readRest, succeeds⟩ := exists_of_bind_eq_ok succeeds
      cases succeeds
      exact Nat.max_le.mpr
        ⟨nesting_le_of_readAny node readValue, nesting_le_of_readAnyItems more readRest⟩
  | broken reading skipping closing => cases succeeds

/-- No member beyond the depth is read. -/
theorem nesting_le_of_readAnyMembers
    (members : Members)
    {depth : Nat}
    {pairs : List (Text × Value)}
    (succeeds : readAnyMembers depth members = .ok pairs) :
    membersNesting pairs ≤ depth := by
  cases members with
  | close rest =>
      cases succeeds
      exact Nat.zero_le _
  | member key behindKey node more =>
      obtain ⟨name, _, succeeds⟩ := exists_of_bind_eq_ok succeeds
      obtain ⟨value, readValue, succeeds⟩ := exists_of_bind_eq_ok succeeds
      obtain ⟨rest, readRest, succeeds⟩ := exists_of_bind_eq_ok succeeds
      cases succeeds
      exact Nat.max_le.mpr
        ⟨nesting_le_of_readAny node readValue, nesting_le_of_readAnyMembers more readRest⟩
  | broken reading skipping => cases succeeds

end

end Document
end PhraseGrammar
