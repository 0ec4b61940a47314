import PhraseGrammar.Proofs.Json.Lexeme

/-!
# Spellings of a value

A text spells a value if it is written by the rules of documents: with the punctuation in its
places, any blanks around it, each text and each key quoted in any way, and each number as any
numeral that denotes it. `Value.Spelled` says so by recursion on the value, without a reader. Both
written forms of a value, the compact and the laid-out one, are among its spellings, provided that
every number in it is a natural number of at most 64 bits, as are all numbers that are ever stored.
-/

namespace PhraseGrammar
namespace Json

/-- A text of characters that may stand between the parts of a document. -/
def Blanks (text : Text) : Prop := ∀ c ∈ text, isBlankChar c = true

instance (text : Text) : Decidable (Blanks text) :=
  decidable_of_iff (text.all isBlankChar = true) List.all_eq_true

/-- What stands in front of an item or a member: blanks, and a comma with blanks around it unless it
is the first. -/
inductive Separates : (isFirst : Bool) → Text → Prop
  | opening {blanks : Text} (blank : Blanks blanks) : Separates true blanks
  | comma {before after : Text}
      (blankBefore : Blanks before)
      (blankAfter : Blanks after) :
      Separates false (before ++ ',' :: after)

mutual

/-- The text spells the value. -/
def Value.Spelled : Value → Text → Prop
  | .null, text => text = "null".toList
  | .flag value, text => text = if value then "true".toList else "false".toList
  | .number value, text =>
      ∃ numeral : Numeral, numeral.WrittenAs text ∧ numeral.number? = .ok value
  | .text value, text => ∃ body, QuotedAs value body ∧ text = '"' :: body
  | .list items, text => ∃ body, ItemsSpelled true items body ∧ text = '[' :: body
  | .record members, text => ∃ body, MembersSpelled true members body ∧ text = '{' :: body

/-- The text spells the items of a list from one of them on, with the closing bracket. -/
def ItemsSpelled (isFirst : Bool) : List Value → Text → Prop
  | [], text => ∃ blanks, Blanks blanks ∧ text = blanks ++ [']']
  | item :: rest, text =>
      ∃ lead spelling more, Separates isFirst lead ∧ item.Spelled spelling ∧
        ItemsSpelled false rest more ∧ text = lead ++ (spelling ++ more)

/-- The text spells the members of a record from one of them on, with the closing brace. -/
def MembersSpelled (isFirst : Bool) : List (Text × Value) → Text → Prop
  | [], text => ∃ blanks, Blanks blanks ∧ text = blanks ++ ['}']
  | (key, value) :: rest, text =>
      ∃ lead body before after spelling more, Separates isFirst lead ∧ QuotedAs key body ∧
        Blanks before ∧ Blanks after ∧ value.Spelled spelling ∧ MembersSpelled false rest more ∧
        text = lead ++ '"' :: (body ++ (before ++ ':' :: (after ++ (spelling ++ more))))

end

/-- The text spells the value, between blanks. -/
def Value.SpelledWithin (value : Value) (text : Text) : Prop :=
  ∃ before spelling after, Blanks before ∧ Blanks after ∧ value.Spelled spelling ∧
    text = before ++ (spelling ++ after)

mutual

/-- Every number in the value is a natural number of at most 64 bits. -/
def Value.Writable : Value → Prop
  | .null | .flag _ | .text _ => True
  | .number (.natural n) => n < UInt64.size
  | .number _ => False
  | .list items => ItemsWritable items
  | .record members => MembersWritable members

/-- `Value.Writable` of each item. -/
def ItemsWritable : List Value → Prop
  | [] => True
  | item :: rest => item.Writable ∧ ItemsWritable rest

/-- `Value.Writable` of the value of each member. -/
def MembersWritable : List (Text × Value) → Prop
  | [] => True
  | (_, value) :: rest => value.Writable ∧ MembersWritable rest

end

theorem Blanks.append {front back : Text} (left : Blanks front) (right : Blanks back) :
    Blanks (front ++ back) := by
  intro c member
  exact (List.mem_append.mp member).elim (left c) (right c)

theorem blanks_nil : Blanks [] := fun _ member => absurd member List.not_mem_nil

/-- A natural number of at most 64 bits is spelled by its digits. -/
theorem spelled_ofNat {n : Nat} (bounded : n < UInt64.size) :
    (Value.number (.natural n)).Spelled (Text.ofNat n) :=
  ⟨.ofNat n, writtenAs_ofNat n, number?_ofNat bounded⟩

/-- A text is spelled as it is written. -/
theorem spelled_writtenText (text : Text) : (Value.text text).Spelled (writtenText text) :=
  ⟨_, quotedAs_written text, rfl⟩

/-! ## The laid-out form -/

section Layout

variable {indentation : Text}

/-- What stands behind punctuation in a layout. -/
theorem blanks_lineBreak (blank : Blanks indentation) : Blanks ('\n' :: indentation) := by
  intro c member
  rcases List.mem_cons.mp member with rfl | later
  · rfl
  · exact blank c later

theorem blanks_indented (blank : Blanks indentation) : Blanks (indentation ++ "  ".toList) :=
  blank.append (by decide)

/-- Brackets around a layout of parts, with what stands between them. -/
theorem laidOut_cons (opening : Char) (closing part : Text) (parts : List Text) :
    Value.laidOut indentation [opening] closing (part :: parts) =
      opening :: (('\n' :: indentation ++ "  ".toList) ++ part ++
        (parts.flatMap fun part => ',' :: ('\n' :: indentation ++ "  ".toList) ++ part) ++
        ('\n' :: indentation ++ closing)) := by
  simp [Value.laidOut, Text.joined_cons]

mutual

/-- The laid-out form of a value spells it. -/
theorem spelled_prettyAt
    (value : Value)
    (writable : value.Writable)
    (indentation : Text)
    (blank : Blanks indentation) :
    value.Spelled (value.prettyAt indentation) := by
  match value with
  | .null => rfl
  | .flag true => rfl
  | .flag false => rfl
  | .number (.natural n) => exact spelled_ofNat writable
  | .number (.negative _) => exact writable.elim
  | .number (.real _ _) => exact writable.elim
  | .text value => exact spelled_writtenText value
  | .list [] => exact ⟨[']'], ⟨[], blanks_nil, rfl⟩, rfl⟩
  | .list (item :: rest) =>
      have within := blanks_indented (blanks_lineBreak blank)
      refine ⟨_, ⟨_, _, _, .opening within,
        spelled_prettyAt item writable.1 _ (blanks_indented blank),
        itemsSpelled_prettyItems rest writable.2 indentation blank, rfl⟩, ?_⟩
      simp [Value.prettyAt, Value.prettyItems, laidOut_cons]
  | .record [] => exact ⟨['}'], ⟨[], blanks_nil, rfl⟩, rfl⟩
  | .record ((key, value) :: rest) =>
      have within := blanks_indented (blanks_lineBreak blank)
      refine ⟨_, ⟨_, _, [], [' '], _, _, .opening within, quotedAs_written key, blanks_nil,
        by decide,
        spelled_prettyAt value writable.1 _ (blanks_indented blank),
        membersSpelled_prettyMembers rest writable.2 indentation blank, rfl⟩, ?_⟩
      simp [Value.prettyAt, Value.prettyMembers, laidOut_cons, writtenText]

/-- The laid-out forms of further items spell them. -/
theorem itemsSpelled_prettyItems
    (items : List Value)
    (writable : ItemsWritable items)
    (indentation : Text)
    (blank : Blanks indentation) :
    ItemsSpelled false items
      (((Value.prettyItems (indentation ++ "  ".toList) items).flatMap fun part =>
        ',' :: ('\n' :: indentation ++ "  ".toList) ++ part) ++
        ('\n' :: indentation ++ [']'])) := by
  match items with
  | [] => exact ⟨_, blanks_lineBreak blank, rfl⟩
  | item :: rest =>
      refine ⟨_, _, _, .comma blanks_nil (blanks_indented (blanks_lineBreak blank)),
        spelled_prettyAt item writable.1 _ (blanks_indented blank),
        itemsSpelled_prettyItems rest writable.2 indentation blank, ?_⟩
      simp [Value.prettyItems]

/-- The laid-out forms of further members spell them. -/
theorem membersSpelled_prettyMembers
    (members : List (Text × Value))
    (writable : MembersWritable members)
    (indentation : Text)
    (blank : Blanks indentation) :
    MembersSpelled false members
      (((Value.prettyMembers (indentation ++ "  ".toList) members).flatMap fun part =>
        ',' :: ('\n' :: indentation ++ "  ".toList) ++ part) ++
        ('\n' :: indentation ++ ['}'])) := by
  match members with
  | [] => exact ⟨_, blanks_lineBreak blank, rfl⟩
  | (key, value) :: rest =>
      refine ⟨_, _, [], [' '], _, _, .comma blanks_nil (blanks_indented (blanks_lineBreak blank)),
        quotedAs_written key, blanks_nil, by decide,
        spelled_prettyAt value writable.1 _ (blanks_indented blank),
        membersSpelled_prettyMembers rest writable.2 indentation blank, ?_⟩
      simp [Value.prettyMembers, writtenText]

end

end Layout

/-! ## The compact form -/

/-- Brackets around parts without any blanks. -/
theorem enclosed_cons (opening : Char) (closing part : Text) (parts : List Text) :
    [opening] ++ Text.joined [','] (part :: parts) ++ closing =
      opening :: (part ++ ((parts.flatMap fun part => ',' :: part) ++ closing)) := by
  simp [Text.joined_cons]

mutual

/-- The compact form of a value spells it. -/
theorem spelled_compact (value : Value) (writable : value.Writable) :
    value.Spelled value.compact := by
  match value with
  | .null => rfl
  | .flag true => rfl
  | .flag false => rfl
  | .number (.natural n) => exact spelled_ofNat writable
  | .number (.negative _) => exact writable.elim
  | .number (.real _ _) => exact writable.elim
  | .text value => exact spelled_writtenText value
  | .list [] => exact ⟨[']'], ⟨[], blanks_nil, rfl⟩, rfl⟩
  | .list (item :: rest) =>
      refine ⟨_, ⟨_, _, _, .opening blanks_nil, spelled_compact item writable.1,
        itemsSpelled_compactItems rest writable.2, rfl⟩, ?_⟩
      exact enclosed_cons _ _ _ _
  | .record [] => exact ⟨['}'], ⟨[], blanks_nil, rfl⟩, rfl⟩
  | .record ((key, value) :: rest) =>
      refine ⟨_, ⟨_, _, [], [], _, _, .opening blanks_nil, quotedAs_written key, blanks_nil,
        blanks_nil, spelled_compact value writable.1,
        membersSpelled_compactMembers rest writable.2, rfl⟩, ?_⟩
      refine (enclosed_cons '{' _ _ _).trans ?_
      simp [writtenText]

/-- The compact forms of further items spell them. -/
theorem itemsSpelled_compactItems (items : List Value) (writable : ItemsWritable items) :
    ItemsSpelled false items
      (((Value.compactItems items).flatMap fun part => ',' :: part) ++ [']']) := by
  match items with
  | [] => exact ⟨[], blanks_nil, rfl⟩
  | item :: rest =>
      refine ⟨_, _, _, .comma blanks_nil blanks_nil, spelled_compact item writable.1,
        itemsSpelled_compactItems rest writable.2, ?_⟩
      simp [Value.compactItems]

/-- The compact forms of further members spell them. -/
theorem membersSpelled_compactMembers
    (members : List (Text × Value))
    (writable : MembersWritable members) :
    MembersSpelled false members
      (((Value.compactMembers members).flatMap fun part => ',' :: part) ++ ['}']) := by
  match members with
  | [] => exact ⟨[], blanks_nil, rfl⟩
  | (key, value) :: rest =>
      refine ⟨_, _, [], [], _, _, .comma blanks_nil blanks_nil, quotedAs_written key, blanks_nil,
        blanks_nil, spelled_compact value writable.1,
        membersSpelled_compactMembers rest writable.2, ?_⟩
      simp [Value.compactMembers, writtenText]

end

end Json
end PhraseGrammar
