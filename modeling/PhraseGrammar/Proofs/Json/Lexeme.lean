import PhraseGrammar.Json.Node
import PhraseGrammar.Json.Value

/-!
# Written lexemes

The smallest parts of a document are read as they are written: a text between quotes, whichever of
its characters are escaped and in whichever way, and a numeral, provided that what follows it cannot
be taken for more of it. Among the ways of writing a text and a natural number are those of the
printer.
-/

namespace PhraseGrammar
namespace Json

/-! ## Texts between quotes -/

/-- The ways of writing a character: as it is, by a letter, by its code point, and by two
surrogates. -/
inductive WrittenAs (c : Char) : Text → Prop
  | plain :
      c ≠ '"' → c ≠ '\\' → ¬c.toNat < 0x20 → WrittenAs c [c]
  | letter {letter : Char} :
      letter ≠ 'u' → simpleEscape? letter = some c → WrittenAs c ['\\', letter]
  | code {h₁ h₂ h₃ h₄ : Char} :
      unit? h₁ h₂ h₃ h₄ = some c.toNat → WrittenAs c ['\\', 'u', h₁, h₂, h₃, h₄]
  | pair {h₁ h₂ h₃ h₄ l₁ l₂ l₃ l₄ : Char} {high low : Nat} :
      unit? h₁ h₂ h₃ h₄ = some high → isHighSurrogate high = true →
      unit? l₁ l₂ l₃ l₄ = some low → isLowSurrogate low = true →
      c = pairChar high low →
      WrittenAs c ['\\', 'u', h₁, h₂, h₃, h₄, '\\', 'u', l₁, l₂, l₃, l₄]

/-- What stands between an opening quote and what follows the closing one, if the text is written
there. -/
inductive QuotedAs : Text → Text → Prop
  | close : QuotedAs [] ['"']
  | char {c : Char} {written text body : Text}
      (isWritten : WrittenAs c written)
      (more : QuotedAs text body) :
      QuotedAs (c :: text) (written ++ body)

/-- Every character is written in one of the ways. -/
theorem writtenAs_writtenChar (c : Char) : WrittenAs c (writtenChar c) := by
  have known {code : Nat} (isCode : c.toNat = code) : c = Char.ofNat code := by
    rw [← isCode, Char.ofNat_toNat]
  have codes : ∀ code < 0x20,
      unit? '0' '0' (Nat.digitChar (code / 16)) (Nat.digitChar (code % 16)) = some code := by
    decide
  unfold writtenChar
  split
  next isQuote => exact .letter (by decide) (by rw [isQuote]; rfl)
  next notQuote =>
    split
    next isBackslash => exact .letter (by decide) (by rw [isBackslash]; rfl)
    next notBackslash =>
      split
      next isCode => exact .letter (by decide) (by rw [known isCode]; rfl)
      next =>
        split
        next isCode => exact .letter (by decide) (by rw [known isCode]; rfl)
        next =>
          split
          next isBreak => exact .letter (by decide) (by rw [isBreak]; rfl)
          next =>
            split
            next isReturn => exact .letter (by decide) (by rw [isReturn]; rfl)
            next =>
              split
              next isTab => exact .letter (by decide) (by rw [isTab]; rfl)
              next =>
                split
                next isControl => exact .code (codes c.toNat isControl)
                next notControl => exact .plain notQuote notBackslash notControl

theorem quotedAs_written (text : Text) : QuotedAs text (text.flatMap writtenChar ++ ['"']) := by
  induction text with
  | nil => exact .close
  | cons c text inductionHypothesis =>
      rw [List.flatMap_cons, List.append_assoc]
      exact .char (writtenAs_writtenChar c) inductionHypothesis

/-- No character is a surrogate. -/
theorem isSurrogate_toNat (c : Char) :
    isLowSurrogate c.toNat = false ∧ isHighSurrogate c.toNat = false := by
  have valid := c.valid
  simp only [isLowSurrogate, isHighSurrogate, Bool.and_eq_false_iff, decide_eq_false_iff_not]
  change Nat.isValidChar c.toNat at valid
  simp only [Nat.isValidChar] at valid
  omega

/-- No high surrogate is a low one. -/
theorem isLowSurrogate_of_isHighSurrogate {unit : Nat} (isHigh : isHighSurrogate unit = true) :
    isLowSurrogate unit = false := by
  simp only [isLowSurrogate, isHighSurrogate, Bool.and_eq_true, Bool.and_eq_false_iff,
    decide_eq_true_eq, decide_eq_false_iff_not] at isHigh ⊢
  omega

/-- Put a character in front of a text that was read. -/
def prependChar (c : Char) : Text × Text → Text × Text := fun (text, rest) => (c :: text, rest)

/-- A written character is read as that character. -/
theorem WrittenAs.readQuoted_append
    {c : Char}
    {written : Text}
    (isWritten : WrittenAs c written)
    (rest : Text) :
    readQuoted (written ++ rest) = (readQuoted rest).map (prependChar c) := by
  have bind_eq (result : Except Fault (Text × Text)) (c : Char) :
      (do let (text, rest) ← result; return (c :: text, rest)) =
        result.map (prependChar c) := by
    cases result <;> rfl
  simp only [← bind_eq]
  cases isWritten with
  | plain notQuote notBackslash notControl =>
      simp only [List.cons_append, List.nil_append]
      rw [readQuoted.eq_def]
      simp [notQuote, notBackslash, notControl]
  | letter notUnit isEscape =>
      simp only [List.cons_append, List.nil_append]
      rw [readQuoted.eq_def]
      simp [notUnit, isEscape]
  | code isUnit =>
      obtain ⟨notLow, notHigh⟩ := isSurrogate_toNat c
      simp only [List.cons_append, List.nil_append]
      rw [readQuoted.eq_def]
      simp [isUnit, notLow, notHigh, Char.ofNat_toNat]
  | pair isHighUnit isHigh isLowUnit isLow isPair =>
      have notLow := isLowSurrogate_of_isHighSurrogate isHigh
      simp only [List.cons_append, List.nil_append]
      rw [readQuoted.eq_def]
      simp [isHighUnit, notLow, isHigh, isLowUnit, isLow, isPair]

/-- A written character is skipped as a whole. -/
theorem WrittenAs.skipQuoted_append
    {c : Char}
    {written : Text}
    (isWritten : WrittenAs c written)
    (rest : Text) :
    skipQuoted (written ++ rest) = skipQuoted rest := by
  have skipUnit {h₁ h₂ h₃ h₄ : Char} {unit : Nat} (isUnit : unit? h₁ h₂ h₃ h₄ = some unit)
      (rest : Text) :
      skipQuoted ('\\' :: 'u' :: h₁ :: h₂ :: h₃ :: h₄ :: rest) = skipQuoted rest := by
    rw [skipQuoted.eq_def]
    simp [isUnit]
  cases isWritten with
  | plain notQuote notBackslash notControl =>
      simp only [List.cons_append, List.nil_append]
      rw [skipQuoted.eq_def]
      simp [notQuote, notBackslash, notControl]
  | letter notUnit isEscape =>
      simp only [List.cons_append, List.nil_append]
      rw [skipQuoted.eq_def]
      simp [notUnit, isEscape]
  | code isUnit => exact skipUnit isUnit rest
  | pair isHighUnit _ isLowUnit _ _ => exact (skipUnit isHighUnit _).trans (skipUnit isLowUnit rest)

/-- A text is read as it is written, up to its closing quote. -/
theorem QuotedAs.readQuoted_append
    {text body : Text}
    (quoted : QuotedAs text body)
    (rest : Text) :
    readQuoted (body ++ rest) = .ok (text, rest) := by
  induction quoted with
  | close =>
      rw [List.singleton_append, readQuoted.eq_def]
      rfl
  | char isWritten _ inductionHypothesis =>
      rw [List.append_assoc, isWritten.readQuoted_append, inductionHypothesis]
      rfl

/-- A text is skipped up to its closing quote. -/
theorem QuotedAs.skipQuoted_append
    {text body : Text}
    (quoted : QuotedAs text body)
    (rest : Text) :
    skipQuoted (body ++ rest) = .ok rest := by
  induction quoted with
  | close =>
      rw [List.singleton_append, skipQuoted.eq_def]
      rfl
  | char isWritten _ inductionHypothesis =>
      rw [List.append_assoc, isWritten.skipQuoted_append, inductionHypothesis]

/-- A quoted text is a value that says the text. -/
theorem QuotedAs.ofQuoted_append
    {text body : Text}
    (quoted : QuotedAs text body)
    (rest : Text) :
    Node.ofQuoted (body ++ rest) = (.text (.ok text) rest, some rest) := by
  rw [Node.ofQuoted, quoted.skipQuoted_append, quoted.readQuoted_append]
  rfl

/-! ## Numerals -/

/-- A text of digits only, of which there is at least one. -/
def IsDigits (text : Text) : Prop := text ≠ [] ∧ ∀ c ∈ text, c.isDigit = true

/-- A zero, or digits of which the first is no zero. -/
def IsWhole (text : Text) : Prop := text = ['0'] ∨ IsDigits text ∧ text.head? ≠ some '0'

/-- What stands behind the whole part, if the fraction is written there. -/
inductive FractionAs : Option Text → Text → Prop
  | none : FractionAs none []
  | digits {digits : Text} (isDigits : IsDigits digits) : FractionAs (some digits) ('.' :: digits)

/-- What stands in front of the digits of an exponent, if it has the sign. -/
inductive SignAs : Bool → Text → Prop
  | none : SignAs false []
  | plus : SignAs false ['+']
  | minus : SignAs true ['-']

/-- What stands behind the fraction, if the exponent is written there. -/
inductive ExponentAs : Option (Bool × Text) → Text → Prop
  | none : ExponentAs none []
  | digits {mark : Char} {isNegative : Bool} {sign digits : Text}
      (isMark : mark = 'e' ∨ mark = 'E')
      (isSign : SignAs isNegative sign)
      (isDigits : IsDigits digits) :
      ExponentAs (some (isNegative, digits)) (mark :: (sign ++ digits))

/-- The text is the numeral, written out. -/
inductive Numeral.WrittenAs (numeral : Numeral) : Text → Prop
  | parts {fraction exponent : Text}
      (isWhole : IsWhole numeral.whole)
      (isFraction : FractionAs numeral.fraction fraction)
      (isExponent : ExponentAs numeral.exponent exponent) :
      WrittenAs numeral
        ((if numeral.isNegative then ['-'] else []) ++ (numeral.whole ++ (fraction ++ exponent)))

/-- A text that does not continue a numeral in front of it. -/
def EndsNumeral (rest : Text) : Prop :=
  ∀ c ∈ rest.head?, c.isDigit = false ∧ c ≠ '.' ∧ c ≠ 'e' ∧ c ≠ 'E'

/-- A text that does not continue digits in front of it. -/
def EndsDigits (rest : Text) : Prop := ∀ c ∈ rest.head?, c.isDigit = false

theorem EndsNumeral.endsDigits {rest : Text} (ends : EndsNumeral rest) : EndsDigits rest :=
  fun c isFirst => (ends c isFirst).1

/-- An exponent and what is behind it do not continue digits. -/
theorem ExponentAs.endsDigits
    {exponent : Option (Bool × Text)}
    {text rest : Text}
    (isExponent : ExponentAs exponent text)
    (ends : EndsNumeral rest) :
    EndsDigits (text ++ rest) := by
  cases isExponent with
  | none => exact ends.endsDigits
  | digits isMark _ _ =>
      rintro _ ⟨⟩
      rcases isMark with rfl | rfl <;> decide

/-- A fraction and what is behind it do not continue digits, unless what is behind it does. -/
theorem FractionAs.endsDigits
    {fraction : Option Text}
    {text rest : Text}
    (isFraction : FractionAs fraction text)
    (ends : EndsDigits rest) :
    EndsDigits (text ++ rest) := by
  cases isFraction with
  | none => exact ends
  | digits _ =>
      rintro _ ⟨⟩
      decide

/-- All digits are read, up to a text that does not continue them. -/
theorem readDigits_append
    {digits rest : Text}
    (isDigits : IsDigits digits)
    (ends : EndsDigits rest) :
    Numeral.readDigits (digits ++ rest) = .ok (digits, rest) := by
  obtain ⟨nonempty, digital⟩ := isDigits
  have noneBehind : rest.takeWhile Char.isDigit = [] ∧ rest.dropWhile Char.isDigit = rest := by
    cases rest with
    | nil => exact ⟨rfl, rfl⟩
    | cons c rest => simp [ends c rfl]
  rw [Numeral.readDigits, List.takeWhile_append_of_pos digital,
    List.dropWhile_append_of_pos digital,
    noneBehind.1, noneBehind.2, List.append_nil]
  cases digits with
  | nil => exact absurd rfl nonempty
  | cons _ _ => rfl

/-- The whole part of a numeral is read as it is written. -/
theorem readWhole_append
    {whole rest : Text}
    (isWhole : IsWhole whole)
    (ends : EndsDigits rest) :
    Numeral.readWhole (whole ++ rest) = .ok (whole, rest) := by
  rcases isWhole with rfl | ⟨isDigits, notZero⟩
  · cases rest with
    | nil => rfl
    | cons c rest => simp [Numeral.readWhole, ends c rfl]
  · rw [Numeral.readWhole.eq_def]
    split
    next rest' startsWithZero =>
      cases whole with
      | nil => exact absurd rfl isDigits.1
      | cons first _ => exact absurd (congrArg some (List.cons.inj startsWithZero).1) notZero
    next => exact readDigits_append isDigits ends

/-- A fraction is read as it is written, in front of an exponent. -/
theorem FractionAs.readFraction_append
    {fraction : Option Text}
    {text rest : Text}
    (isFraction : FractionAs fraction text)
    (ends : EndsDigits rest)
    (noPoint : rest.head? ≠ some '.') :
    Numeral.readFraction (text ++ rest) = .ok (fraction, rest) := by
  cases isFraction with
  | none =>
      rw [List.nil_append, Numeral.readFraction.eq_def]
      split
      next => exact absurd rfl noPoint
      next => rfl
  | digits isDigits =>
      rw [List.cons_append, Numeral.readFraction, readDigits_append isDigits ends]
      rfl

/-- An exponent is read as it is written. -/
theorem ExponentAs.readExponent_append
    {exponent : Option (Bool × Text)}
    {text rest : Text}
    (isExponent : ExponentAs exponent text)
    (ends : EndsNumeral rest) :
    Numeral.readExponent (text ++ rest) = .ok (exponent, rest) := by
  cases isExponent with
  | none =>
      cases rest with
      | nil => rfl
      | cons c rest =>
          obtain ⟨_, _, notSmall, notGreat⟩ := ends c rfl
          exact if_neg (not_or.mpr ⟨notSmall, notGreat⟩)
  | @digits mark isNegative sign digits isMark isSign isDigits =>
      have isRead := readDigits_append isDigits ends.endsDigits
      cases isSign with
      | plus =>
          simp only [List.cons_append, List.nil_append, Numeral.readExponent, if_pos isMark, isRead]
          rfl
      | minus =>
          simp only [List.cons_append, List.nil_append, Numeral.readExponent, if_pos isMark, isRead]
          rfl
      | none =>
          -- A digit is no sign.
          obtain ⟨first, others, rfl⟩ := List.exists_cons_of_ne_nil isDigits.1
          have isDigit := isDigits.2 first (List.mem_cons_self ..)
          have notMinus : first ≠ '-' := by
            rintro rfl
            cases isDigit
          have notPlus : first ≠ '+' := by
            rintro rfl
            cases isDigit
          rw [List.cons_append] at isRead
          simp [Numeral.readExponent, isMark, notMinus, notPlus, isRead, bind, Except.bind, pure,
            Except.pure]

/-- A whole part begins with a digit. -/
theorem IsWhole.exists_cons {whole : Text} (isWhole : IsWhole whole) :
    ∃ first others, whole = first :: others ∧ first.isDigit = true := by
  rcases isWhole with rfl | ⟨⟨nonempty, digital⟩, _⟩
  · exact ⟨'0', [], rfl, by decide⟩
  · obtain ⟨first, others, rfl⟩ := List.exists_cons_of_ne_nil nonempty
    exact ⟨first, others, rfl, digital first (List.mem_cons_self ..)⟩

/-- A numeral is read as it is written. -/
theorem Numeral.WrittenAs.read_append
    {numeral : Numeral}
    {text rest : Text}
    (isWritten : numeral.WrittenAs text)
    (ends : EndsNumeral rest) :
    Numeral.read (text ++ rest) = .ok (numeral, rest) := by
  obtain ⟨isNegative, whole, fraction, exponent⟩ := numeral
  cases isWritten with
  | @parts fractionText exponentText isWhole isFraction isExponent =>
      have readExponent := isExponent.readExponent_append ends
      have endsFraction := isExponent.endsDigits ends
      have noPoint : (exponentText ++ rest).head? ≠ some '.' := by
        cases isExponent with
        | none => exact fun isPoint => (ends '.' isPoint).2.1 rfl
        | digits isMark _ _ => rcases isMark with rfl | rfl <;> simp
      have readFraction := isFraction.readFraction_append endsFraction noPoint
      have readWhole := readWhole_append isWhole (isFraction.endsDigits endsFraction)
      cases isNegative with
      | true =>
          simp [Numeral.read, readWhole, readFraction, readExponent, bind, Except.bind, pure,
            Except.pure]
      | false =>
          obtain ⟨first, others, rfl, isDigit⟩ := isWhole.exists_cons
          have notMinus : first ≠ '-' := by
            rintro rfl
            cases isDigit
          rw [List.cons_append] at readWhole
          simp [Numeral.read, notMinus, readWhole, readFraction, readExponent, bind, Except.bind,
            pure, Except.pure]

/-- A numeral that denotes a number is a value that says the number. -/
theorem Numeral.WrittenAs.ofNumeral_append
    {numeral : Numeral}
    {text rest : Text}
    (isWritten : numeral.WrittenAs text)
    {number : Number}
    (denotes : numeral.number? = .ok number)
    (ends : EndsNumeral rest) :
    Node.ofNumeral (text ++ rest) = (.number (.ok number) rest, some rest) := by
  rw [Node.ofNumeral, isWritten.read_append ends]
  simp only [Numeral.evaluate, denotes]

/-- A numeral begins with a minus or a digit. -/
theorem Numeral.WrittenAs.exists_cons
    {numeral : Numeral}
    {text : Text}
    (isWritten : numeral.WrittenAs text) :
    ∃ first others, text = first :: others ∧ (first = '-' ∨ first.isDigit = true) := by
  obtain ⟨isWhole, _, _⟩ := isWritten
  obtain ⟨first, others, isCons, isDigit⟩ := isWhole.exists_cons
  cases numeral.isNegative with
  | true => exact ⟨'-', _, rfl, .inl rfl⟩
  | false => exact ⟨first, _, by rw [isCons]; rfl, .inr isDigit⟩

/-! ## Natural numbers -/

/-- Only zero is written with a zero in front, and with nothing behind it. -/
theorem eq_zero_of_ofNat_eq_cons
    {n : Nat}
    {digits : Text}
    (startsWithZero : Text.ofNat n = '0' :: digits) :
    n = 0 ∧ digits = [] := by
  induction n using Nat.base_induction 10 (by decide) generalizing digits with
  | single n small =>
      rw [Text.ofNat, Nat.toDigits_of_lt_base small] at startsWithZero
      simpa using startsWithZero
  | digit n digit small positive inductionHypothesis =>
      rw [Text.ofNat, ← Nat.toDigits_append_toDigits (by decide) positive small]
        at startsWithZero
      cases leading : Nat.toDigits 10 n with
      | nil => exact absurd leading Nat.toDigits_ne_nil
      | cons first others =>
          rw [leading, List.cons_append, List.cons.injEq] at startsWithZero
          rw [startsWithZero.1] at leading
          have isZero := (inductionHypothesis leading).1
          omega

/-- The numeral of a natural number. -/
def Numeral.ofNat (n : Nat) : Numeral where
  isNegative := false
  whole := Text.ofNat n
  fraction := none
  exponent := none

theorem writtenAs_ofNat (n : Nat) : (Numeral.ofNat n).WrittenAs (Text.ofNat n) := by
  have isWhole : IsWhole (Text.ofNat n) := by
    have isDigits : IsDigits (Text.ofNat n) :=
      ⟨Nat.toDigits_ne_nil, fun _ => Text.isDigit_of_mem_ofNat⟩
    cases written : Text.ofNat n with
    | nil => exact absurd written isDigits.1
    | cons first digits =>
        by_cases isZero : first = '0'
        · subst isZero
          obtain ⟨_, rfl⟩ := eq_zero_of_ofNat_eq_cons written
          exact .inl rfl
        · exact .inr ⟨written ▸ isDigits, fun isFirst => isZero (Option.some.inj isFirst)⟩
  have parts : (Numeral.ofNat n).WrittenAs _ := .parts isWhole .none .none
  simpa [Numeral.ofNat] using parts

/-- Digits whose value is within the bound are all absorbed. -/
theorem absorb_eq
    {bound value : Nat}
    {digits : Text}
    (within : Nat.ofDigitChars 10 digits value ≤ bound) :
    Numeral.absorb bound value digits = (Nat.ofDigitChars 10 digits value, []) := by
  induction digits generalizing value with
  | nil => simp [Numeral.absorb]
  | cons digit digits inductionHypothesis =>
      have next_eq : value * 10 + Numeral.digitValue digit =
          10 * value + (digit.toNat - '0'.toNat) := by
        rw [Nat.mul_comm, Numeral.digitValue]
      rw [Nat.ofDigitChars_cons] at within ⊢
      have partial_le : 10 * value + (digit.toNat - '0'.toNat) ≤ bound := by
        rw [Nat.ofDigitChars_eq_ofDigitChars_zero] at within
        have positive : 0 < 10 ^ digits.length := Nat.pow_pos (by decide)
        refine Nat.le_trans (Nat.le_mul_of_pos_left _ positive) ?_
        exact Nat.le_trans (Nat.le_add_right _ _) within
      rw [Numeral.absorb, next_eq, if_neg (Nat.not_lt.mpr partial_le)]
      exact inductionHypothesis within

/-- The numeral of a number of at most 64 bits denotes the number. -/
theorem number?_ofNat {n : Nat} (bounded : n < UInt64.size) :
    (Numeral.ofNat n).number? = .ok (.natural n) := by
  have value : Nat.ofDigitChars 10 (Text.ofNat n) 0 = n := Nat.ofDigitChars_ten_toDigits
  have absorbed : Numeral.absorb Numeral.significandBound 0 (Text.ofNat n) = (n, []) := by
    have within : Nat.ofDigitChars 10 (Text.ofNat n) 0 ≤ Numeral.significandBound := by
      rw [value, Numeral.significandBound]
      exact Nat.le_sub_one_of_lt bounded
    rw [absorb_eq within, value]
  simp [Numeral.number?, Numeral.ofNat, absorbed]

end Json
end PhraseGrammar
