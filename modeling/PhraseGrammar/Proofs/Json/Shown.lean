import PhraseGrammar.Proofs.Json.Spelling

/-!
# What a spelling is taken for

A node shows a value when it is that value with the places forgotten. The main statement is that
every spelling of a value is taken apart into a node that shows it, whatever stands behind the
spelling, and that the text behind is what is left. The fuel that the length of the text provides is
enough: three nested calls for each character.
-/

namespace PhraseGrammar
namespace Json

mutual

/-- The node is the value, with its places. -/
inductive Node.Shows : Node → Value → Prop
  | null (rest : Text) : Node.Shows (.null rest) .null
  | flag (value : Bool) (rest : Text) : Node.Shows (.flag value rest) (.flag value)
  | number (value : Number) (rest : Text) : Node.Shows (.number (.ok value) rest) (.number value)
  | text (value rest : Text) : Node.Shows (.text (.ok value) rest) (.text value)
  | list (start : Text) {items : Items} {values : List Value} (shown : Items.Show items values) :
      Node.Shows (.list start items) (.list values)
  | record (start : Text) {members : Members} {pairs : List (Text × Value)}
      (shown : Members.Show members pairs) : Node.Shows (.record start members) (.record pairs)

/-- The items of a list are the values, with their places. -/
inductive Items.Show : Items → List Value → Prop
  | close (rest : Text) : Items.Show (.close rest) []
  | item (start : Text) (value : Value) {node : Node} {more : Items} {rest : List Value}
      (shown : Node.Shows node value) (shownMore : Items.Show more rest) :
      Items.Show (.item start node more) (value :: rest)

/-- The members of a record are the pairs, with their places. -/
inductive Members.Show : Members → List (Text × Value) → Prop
  | close (rest : Text) : Members.Show (.close rest) []
  | member (key behindKey : Text) (value : Value) {node : Node} {more : Members}
      {rest : List (Text × Value)}
      (shown : Node.Shows node value) (shownMore : Members.Show more rest) :
      Members.Show (.member (.ok key) behindKey node more) ((key, value) :: rest)

end

/-! ## Blanks and first characters -/

theorem skipBlanks_append {blanks : Text} (blank : Blanks blanks) (rest : Text) :
    skipBlanks (blanks ++ rest) = skipBlanks rest :=
  List.dropWhile_append_of_pos blank

theorem skipBlanks_cons {c : Char} (notBlank : isBlankChar c = false) (rest : Text) :
    skipBlanks (c :: rest) = c :: rest := by
  simp [skipBlanks, notBlank]

/-- No numeral goes on with a blank. -/
theorem endsNumeral_of_blank {c : Char} (blank : isBlankChar c = true) (rest : Text) :
    EndsNumeral (c :: rest) := by
  simp only [isBlankChar, Bool.or_eq_true, decide_eq_true_eq] at blank
  rintro _ ⟨⟩
  rcases blank with ((rfl | rfl) | rfl) | rfl <;> decide

theorem endsNumeral_blanks_append
    {blanks rest : Text}
    (blank : Blanks blanks)
    (ends : EndsNumeral rest) :
    EndsNumeral (blanks ++ rest) := by
  cases blanks with
  | nil => exact ends
  | cons c blanks => exact endsNumeral_of_blank (blank c (by simp)) (blanks ++ rest)

/-- A separator and what is behind it end a numeral in front of them. -/
theorem Separates.endsNumeral {lead : Text} (separates : Separates false lead) (rest : Text) :
    EndsNumeral (lead ++ rest) := by
  cases separates with
  | comma blankBefore _ =>
      rw [List.append_assoc]
      exact endsNumeral_blanks_append blankBefore (by rintro _ ⟨⟩; decide)

/-- A spelling begins with a character that cannot be taken for a blank or the end of a list. -/
theorem Value.Spelled.exists_cons
    {value : Value}
    {text : Text}
    (spelled : value.Spelled text) :
    ∃ c tail, text = c :: tail ∧ isBlankChar c = false ∧ c ≠ ']' := by
  match value with
  | .null => exact ⟨'n', _, spelled, by decide, by decide⟩
  | .flag true => exact ⟨'t', _, spelled, by decide, by decide⟩
  | .flag false => exact ⟨'f', _, spelled, by decide, by decide⟩
  | .number _ =>
      obtain ⟨_, isWritten, _⟩ := spelled
      obtain ⟨first, others, rfl, rfl | isDigit⟩ := isWritten.exists_cons
      · exact ⟨'-', others, rfl, by decide, by decide⟩
      · refine ⟨first, others, rfl, ?_, ?_⟩
        · rw [Bool.eq_false_iff]
          intro blank
          have ends := (endsNumeral_of_blank blank [] first rfl).1
          exact Bool.false_ne_true (ends.symm.trans isDigit)
        · rintro rfl
          cases isDigit
  | .text _ =>
      obtain ⟨body, _, rfl⟩ := spelled
      exact ⟨'"', body, rfl, by decide, by decide⟩
  | .list _ =>
      obtain ⟨body, _, rfl⟩ := spelled
      exact ⟨'[', body, rfl, by decide, by decide⟩
  | .record _ =>
      obtain ⟨body, _, rfl⟩ := spelled
      exact ⟨'\x7b', body, rfl, by decide, by decide⟩

/-- What stands behind an item ends a numeral. -/
theorem ItemsSpelled.endsNumeral
    {items : List Value}
    {text : Text}
    (spelled : ItemsSpelled false items text)
    (rest : Text) :
    EndsNumeral (text ++ rest) := by
  cases items with
  | nil =>
      obtain ⟨blanks, blank, rfl⟩ := spelled
      rw [List.append_assoc]
      exact endsNumeral_blanks_append blank (by rintro _ ⟨⟩; decide)
  | cons item items =>
      obtain ⟨lead, spelling, more, separates, _, _, rfl⟩ := spelled
      rw [List.append_assoc]
      exact separates.endsNumeral _

/-- What stands behind a member ends a numeral. -/
theorem MembersSpelled.endsNumeral
    {members : List (Text × Value)}
    {text : Text}
    (spelled : MembersSpelled false members text)
    (rest : Text) :
    EndsNumeral (text ++ rest) := by
  cases members with
  | nil =>
      obtain ⟨blanks, blank, rfl⟩ := spelled
      rw [List.append_assoc]
      exact endsNumeral_blanks_append blank (by rintro _ ⟨⟩; decide)
  | cons member members =>
      obtain ⟨key, value⟩ := member
      obtain ⟨lead, _, _, _, _, _, separates, _, _, _, _, _, rfl⟩ := spelled
      rw [List.append_assoc]
      exact separates.endsNumeral _

/-- There is a closing bracket at least. -/
theorem ItemsSpelled.length_pos
    {isFirst : Bool}
    {items : List Value}
    {text : Text}
    (spelled : ItemsSpelled isFirst items text) :
    1 ≤ text.length := by
  cases items with
  | nil =>
      obtain ⟨blanks, _, rfl⟩ := spelled
      simp
  | cons item items =>
      obtain ⟨lead, spelling, more, _, isSpelling, _, rfl⟩ := spelled
      obtain ⟨c, tail, rfl, _⟩ := isSpelling.exists_cons
      simp only [List.length_append, List.length_cons]
      omega

/-! ## Words, items and members -/

/-- A word is read if it stands there. -/
theorem readWord_append (letters rest : Text) : readWord letters (letters ++ rest) = .ok rest := by
  induction letters with
  | nil => cases rest <;> rfl
  | cons letter letters inductionHypothesis =>
      rw [List.cons_append, readWord, if_pos rfl, inductionHypothesis]

theorem ofWord_append (letters rest : Text) (value : Text → Node) :
    Node.ofWord letters (letters ++ rest) value = (value rest, some rest) := by
  rw [Node.ofWord, readWord_append]

/-- An item is met behind the opening bracket, or behind a comma. -/
theorem parse_items_eq_parseItem
    {c : Char}
    (notBlank : isBlankChar c = false)
    (notEnd : c ≠ ']')
    {isFirst : Bool}
    {lead : Text}
    (separates : Separates isFirst lead)
    (tail : Text)
    (fuel : Nat) :
    Items.parse (fuel + 1) isFirst (skipBlanks (lead ++ c :: tail)) =
      Items.parseItem fuel (c :: tail) := by
  cases separates with
  | opening blank =>
      rw [skipBlanks_append blank, skipBlanks_cons notBlank, Items.parse, if_neg notEnd, if_pos rfl]
  | comma blankBefore blankAfter =>
      have comma : isBlankChar ',' = false := by decide
      rw [List.append_assoc, skipBlanks_append blankBefore, List.cons_append, skipBlanks_cons comma,
        Items.parse, if_neg (by decide), if_neg Bool.false_ne_true, if_pos rfl,
        skipBlanks_append blankAfter, skipBlanks_cons notBlank]
      exact if_neg notEnd

/-- A member is met behind the opening brace, or behind a comma. -/
theorem parse_members_eq_parseMember
    {isFirst : Bool}
    {lead : Text}
    (separates : Separates isFirst lead)
    (tail : Text)
    (fuel : Nat) :
    Members.parse (fuel + 1) isFirst (skipBlanks (lead ++ '"' :: tail)) =
      Members.parseMember fuel tail := by
  have notBlank : isBlankChar '"' = false := by decide
  cases separates with
  | opening blank =>
      rw [skipBlanks_append blank, skipBlanks_cons notBlank, Members.parse, if_neg (by decide),
        if_pos rfl, if_pos rfl]
  | comma blankBefore blankAfter =>
      have comma : isBlankChar ',' = false := by decide
      rw [List.append_assoc, skipBlanks_append blankBefore, List.cons_append, skipBlanks_cons comma,
        Members.parse, if_neg (by decide), if_neg Bool.false_ne_true, if_pos rfl,
        skipBlanks_append blankAfter, skipBlanks_cons notBlank]
      exact if_pos rfl

/-- A number is met by its sign or its first digit. -/
theorem parse_eq_ofNumeral
    {first : Char}
    (isFirst : first = '-' ∨ first.isDigit = true)
    (rest : Text)
    (fuel : Nat) :
    Node.parse (fuel + 1) (first :: rest) = Node.ofNumeral (first :: rest) := by
  have notLetter : ∀ c : Char, c ≠ '-' → c.isDigit = false → first ≠ c := by
    rintro c notMinus noDigit rfl
    rcases isFirst with isMinus | isDigit
    · exact notMinus isMinus
    · exact Bool.false_ne_true (noDigit.symm.trans isDigit)
  rw [Node.parse, if_neg (notLetter 'n' (by decide) (by decide)),
    if_neg (notLetter 't' (by decide) (by decide)), if_neg (notLetter 'f' (by decide) (by decide)),
    if_pos isFirst]

/-! ## Spellings are taken apart -/

mutual

/-- A spelling of a value is taken apart into a node that shows the value, whatever is behind it. -/
theorem parse_spelled
    (value : Value)
    {text rest : Text}
    (spelled : value.Spelled text)
    (ends : EndsNumeral rest)
    (fuel : Nat)
    (enough : 3 * text.length ≤ fuel) :
    ∃ node, Node.parse fuel (text ++ rest) = (node, some rest) ∧ node.Shows value := by
  obtain ⟨first, tail, shape, _, _⟩ := spelled.exists_cons
  obtain ⟨fuel, rfl⟩ : ∃ less, fuel = less + 1 := by
    refine ⟨fuel - 1, ?_⟩
    simp only [shape, List.length_cons] at enough
    omega
  clear shape
  match value, spelled with
  | .null, spelled =>
      subst spelled
      exact ⟨.null rest, ofWord_append "ull".toList rest .null, .null rest⟩
  | .flag true, spelled =>
      subst spelled
      exact ⟨.flag true rest, ofWord_append "rue".toList rest (.flag true), .flag true rest⟩
  | .flag false, spelled =>
      subst spelled
      exact ⟨.flag false rest, ofWord_append "alse".toList rest (.flag false), .flag false rest⟩
  | .number value, spelled =>
      obtain ⟨numeral, isWritten, denotes⟩ := spelled
      refine ⟨.number (.ok value) rest, ?_, .number value rest⟩
      rw [← isWritten.ofNumeral_append denotes ends]
      obtain ⟨first, others, rfl, isFirst⟩ := isWritten.exists_cons
      exact parse_eq_ofNumeral isFirst (others ++ rest) fuel
  | .text value, spelled =>
      obtain ⟨body, quoted, rfl⟩ := spelled
      exact ⟨.text (.ok value) rest, by simp [Node.parse, quoted.ofQuoted_append],
        .text value rest⟩
  | .list items, spelled =>
      obtain ⟨body, spelledItems, rfl⟩ := spelled
      have enoughItems : 3 * body.length + 1 ≤ fuel := by
        simp only [List.length_cons] at enough
        omega
      obtain ⟨found, parsed, shown⟩ := parse_itemsSpelled items spelledItems ends fuel enoughItems
      exact ⟨.list ('[' :: (body ++ rest)) found, by simp [Node.parse, parsed],
        .list _ shown⟩
  | .record members, spelled =>
      obtain ⟨body, spelledMembers, rfl⟩ := spelled
      have enoughMembers : 3 * body.length + 1 ≤ fuel := by
        simp only [List.length_cons] at enough
        omega
      obtain ⟨found, parsed, shown⟩ :=
        parse_membersSpelled members spelledMembers ends fuel enoughMembers
      exact ⟨.record ('\x7b' :: (body ++ rest)) found, by simp [Node.parse, parsed],
        .record _ shown⟩

/-- What spells the items of a list is taken apart into items that show them. -/
theorem parse_itemsSpelled
    (items : List Value)
    {isFirst : Bool}
    {text rest : Text}
    (spelled : ItemsSpelled isFirst items text)
    (ends : EndsNumeral rest)
    (fuel : Nat)
    (enough : 3 * text.length + 1 ≤ fuel) :
    ∃ found, Items.parse fuel isFirst (skipBlanks (text ++ rest)) = (found, some rest) ∧
      found.Show items := by
  match items, spelled with
  | [], spelled =>
      obtain ⟨blanks, blank, rfl⟩ := spelled
      obtain ⟨fuel, rfl⟩ : ∃ less, fuel = less + 1 := ⟨fuel - 1, by omega⟩
      refine ⟨.close rest, ?_, .close rest⟩
      rw [List.append_assoc, skipBlanks_append blank, List.singleton_append,
        skipBlanks_cons (by decide), Items.parse, if_pos rfl]
  | item :: items, spelled =>
      obtain ⟨lead, spelling, more, separates, spelledItem, spelledMore, rfl⟩ := spelled
      have closing := spelledMore.length_pos
      obtain ⟨first, tail, shape, notBlank, notEnd⟩ := spelledItem.exists_cons
      have opening : 1 ≤ spelling.length := by simp [shape]
      simp only [List.length_append] at enough
      obtain ⟨fuel, rfl⟩ : ∃ less, fuel = less + 2 := ⟨fuel - 2, by omega⟩
      obtain ⟨node, parsed, shown⟩ := parse_spelled item spelledItem
        (spelledMore.endsNumeral rest) fuel (by omega)
      obtain ⟨found, parsedMore, shownMore⟩ :=
        parse_itemsSpelled items spelledMore ends fuel (by omega)
      have met := parse_items_eq_parseItem notBlank notEnd separates (tail ++ (more ++ rest))
        (fuel + 1)
      rw [← List.cons_append, ← shape] at met
      refine ⟨.item (spelling ++ (more ++ rest)) node found, ?_,
        .item _ item shown shownMore⟩
      simp only [List.append_assoc] at met ⊢
      rw [met, Items.parseItem, parsed]
      simp only [parsedMore]

/-- What spells the members of a record is taken apart into members that show them. -/
theorem parse_membersSpelled
    (members : List (Text × Value))
    {isFirst : Bool}
    {text rest : Text}
    (spelled : MembersSpelled isFirst members text)
    (ends : EndsNumeral rest)
    (fuel : Nat)
    (enough : 3 * text.length + 1 ≤ fuel) :
    ∃ found, Members.parse fuel isFirst (skipBlanks (text ++ rest)) = (found, some rest) ∧
      found.Show members := by
  match members, spelled with
  | [], spelled =>
      obtain ⟨blanks, blank, rfl⟩ := spelled
      obtain ⟨fuel, rfl⟩ : ∃ less, fuel = less + 1 := ⟨fuel - 1, by omega⟩
      refine ⟨.close rest, ?_, .close rest⟩
      rw [List.append_assoc, skipBlanks_append blank, List.singleton_append,
        skipBlanks_cons (by decide), Members.parse, if_pos rfl]
  | (key, value) :: members, spelled =>
      obtain ⟨lead, body, before, after, spelling, more, separates, quoted, blankBefore, blankAfter,
        spelledValue, spelledMore, rfl⟩ := spelled
      obtain ⟨first, tail, shape, notBlank, _⟩ := spelledValue.exists_cons
      have opening : 1 ≤ spelling.length := by simp [shape]
      simp only [List.length_append, List.length_cons] at enough
      obtain ⟨fuel, rfl⟩ : ∃ less, fuel = less + 2 := ⟨fuel - 2, by omega⟩
      obtain ⟨node, parsed, shown⟩ := parse_spelled value spelledValue
        (spelledMore.endsNumeral rest) fuel (by omega)
      obtain ⟨found, parsedMore, shownMore⟩ :=
        parse_membersSpelled members spelledMore ends fuel (by omega)
      have atColon : skipBlanks (before ++ ':' :: (after ++ (spelling ++ (more ++ rest)))) =
          ':' :: (after ++ (spelling ++ (more ++ rest))) := by
        rw [skipBlanks_append blankBefore, skipBlanks_cons (by decide)]
      have atValue : skipBlanks (after ++ (spelling ++ (more ++ rest))) =
          spelling ++ (more ++ rest) := by
        rw [skipBlanks_append blankAfter, shape, List.cons_append, skipBlanks_cons notBlank]
      refine ⟨.member (.ok key) (':' :: (after ++ (spelling ++ (more ++ rest)))) node found, ?_,
        .member key _ value shown shownMore⟩
      have met := parse_members_eq_parseMember separates
        (body ++ (before ++ ':' :: (after ++ (spelling ++ (more ++ rest))))) (fuel + 1)
      rw [Members.parseMember, quoted.ofQuoted_append] at met
      simp only [atColon, atValue, parsed, parsedMore, if_pos] at met
      simpa only [List.append_assoc, List.cons_append] using met

end

/-- A spelling between blanks is taken apart into a node that shows the value. -/
theorem ofText_blanks_append
    {before spelling after : Text}
    (blankBefore : Blanks before)
    (blankAfter : Blanks after)
    {value : Value}
    (spelled : value.Spelled spelling) :
    ∃ node,
      Node.ofText (before ++ (spelling ++ after)) = (node, some after) ∧ node.Shows value := by
  obtain ⟨first, tail, shape, notBlank, _⟩ := spelled.exists_cons
  have atValue : skipBlanks (before ++ (spelling ++ after)) = spelling ++ after := by
    rw [skipBlanks_append blankBefore, shape, List.cons_append, skipBlanks_cons notBlank]
  have atEnd : EndsNumeral [] := by simp [EndsNumeral]
  have ends : EndsNumeral after := by simpa using endsNumeral_blanks_append blankAfter atEnd
  have enough : 3 * spelling.length ≤ 3 * (before ++ (spelling ++ after)).length + 3 := by
    simp only [List.length_append]
    omega
  obtain ⟨node, parsed, shown⟩ := parse_spelled value spelled ends _ enough
  exact ⟨node, by rw [Node.ofText, atValue, parsed], shown⟩

/-- A text that spells a value between blanks leaves only blanks behind the value. -/
theorem ofText_spelledWithin {value : Value} {text : Text} (spelled : value.SpelledWithin text) :
    ∃ node behind, Node.ofText text = (node, some behind) ∧ skipBlanks behind = [] ∧
      node.Shows value := by
  obtain ⟨before, spelling, after, blankBefore, blankAfter, spelled, rfl⟩ := spelled
  obtain ⟨node, parsed, shown⟩ := ofText_blanks_append blankBefore blankAfter spelled
  have noneBehind : skipBlanks after = [] := by
    simpa [skipBlanks] using skipBlanks_append blankAfter []
  exact ⟨node, after, parsed, noneBehind, shown⟩

/-- A text that spells a value, and nothing more, leaves nothing behind the value. -/
theorem ofText_spelled {value : Value} {text : Text} (spelled : value.Spelled text) :
    ∃ node, Node.ofText text = (node, some []) ∧ node.Shows value := by
  simpa using ofText_blanks_append blanks_nil blanks_nil spelled

end Json
end PhraseGrammar
