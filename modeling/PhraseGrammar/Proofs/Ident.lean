import Mathlib.Data.List.SplitLengths
import PhraseGrammar.Ident
import PhraseGrammar.Text.Quoted

/-!
# What identifiers keep of their draws

An identifier shows every bit of its draw except the six that give way to version and variant. So
the identifiers of two draws are equal exactly if the draws agree on the other 122 bits. The
identifiers are the UUIDs of version 4: each draw makes one, and each is made from some draw.
-/

namespace PhraseGrammar
namespace Ident

/-! ## The bits of a draw -/

/-- The bits of a draw that give way: 62 and 63 to the variant, 76 to 79 to the version. -/
def hiddenBits : List Nat := [62, 63, 76, 77, 78, 79]

/-- The bits of a draw that its identifier shows. -/
def shownBits : List Nat := (List.range 128).filter (· ∉ hiddenBits)

theorem length_shownBits : shownBits.length = 122 := by decide +kernel

theorem mem_shownBits {bit : Nat} : bit ∈ shownBits ↔ bit < 128 ∧ bit ∉ hiddenBits := by
  simp [shownBits]

theorem getLsbD_stamped
    (draw : BitVec 128)
    {bit : Nat}
    (within : bit < 128) :
    (stamped draw).getLsbD bit =
      if bit ∈ hiddenBits then fixedBits.getLsbD bit else draw.getLsbD bit := by
  have isFree : ∀ bit < 128, freeBits.getLsbD bit = decide (bit ∉ hiddenBits) := by
    decide +kernel
  have notFixed : ∀ bit < 128, bit ∉ hiddenBits → fixedBits.getLsbD bit = false := by
    decide +kernel
  rw [stamped, BitVec.getLsbD_or, BitVec.getLsbD_and, isFree bit within]
  split
  next hidden => simp [hidden]
  next shown => simp [shown, notFixed bit within shown]

/-- Version and variant take the same places in every draw and leave the others as they are. -/
theorem stamped_eq_iff {first second : BitVec 128} :
    stamped first = stamped second ↔
      ∀ bit ∈ shownBits, first.getLsbD bit = second.getLsbD bit := by
  constructor
  · intro same bit shown
    obtain ⟨within, notHidden⟩ := mem_shownBits.mp shown
    have sameBit := congrArg (BitVec.getLsbD · bit) same
    simpa only [getLsbD_stamped _ within, notHidden, if_false] using sameBit
  · intro agree
    apply BitVec.eq_of_getLsbD_eq
    intro bit within
    rw [getLsbD_stamped _ within, getLsbD_stamped _ within]
    split
    next => rfl
    next notHidden => exact agree bit (mem_shownBits.mpr ⟨within, notHidden⟩)

/-- Bits stay as they are if version and variant already stand in them. -/
theorem stamped_eq_self_iff {bits : BitVec 128} :
    stamped bits = bits ↔
      ∀ bit ∈ hiddenBits, bits.getLsbD bit = fixedBits.getLsbD bit := by
  have allWithin : ∀ bit ∈ hiddenBits, bit < 128 := by decide
  constructor
  · intro same bit hidden
    rw [← same, getLsbD_stamped _ (allWithin bit hidden), if_pos hidden]
  · intro agree
    apply BitVec.eq_of_getLsbD_eq
    intro bit within
    rw [getLsbD_stamped _ within]
    split
    next hidden => exact (agree bit hidden).symm
    next => rfl

theorem stamped_stamped (draw : BitVec 128) : stamped (stamped draw) = stamped draw := by
  refine stamped_eq_iff.mpr fun bit shown => ?_
  obtain ⟨within, notHidden⟩ := mem_shownBits.mp shown
  rw [getLsbD_stamped _ within, if_neg notHidden]

/-! ## Digits -/

/-- The hexadecimal digits, in lower case. -/
def hexAlphabet : Text := "0123456789abcdef"

/-- The four bits that the digit at `index` shows. -/
def digitBits (bits : BitVec 128) (index : Nat) : BitVec 4 := bits.extractLsb' (4 * index) 4

theorem hexDigit_eq_digitChar (bits : BitVec 128) (index : Nat) :
    hexDigit bits index = Nat.digitChar (digitBits bits index).toNat := by
  rw [hexDigit, digitBits, BitVec.extractLsb'_toNat]

theorem getLsbD_digitBits
    (bits : BitVec 128)
    (index : Nat)
    {bit : Nat}
    (inDigit : bit < 4) :
    (digitBits bits index).getLsbD bit = bits.getLsbD (4 * index + bit) := by
  rw [digitBits, BitVec.getLsbD_extractLsb', decide_eq_true inDigit, Bool.true_and]

/-- Every bit is shown by some digit. -/
theorem getLsbD_eq_digitBits (bits : BitVec 128) (bit : Nat) :
    bits.getLsbD bit = (digitBits bits (bit / 4)).getLsbD (bit % 4) := by
  rw [getLsbD_digitBits _ _ (Nat.mod_lt bit (by decide)), Nat.div_add_mod]

theorem digitChar_injective :
    Function.Injective fun four : BitVec 4 => Nat.digitChar four.toNat := by
  unfold Function.Injective
  decide +kernel

theorem mem_hexAlphabet {c : Char} :
    c ∈ hexAlphabet ↔ ∃ four : BitVec 4, Nat.digitChar four.toNat = c := by
  have isAlphabet : hexAlphabet = (List.range 16).map Nat.digitChar := by decide +kernel
  rw [isAlphabet, List.mem_map]
  constructor
  · rintro ⟨value, member, rfl⟩
    have small : value < 2 ^ 4 := List.mem_range.mp member
    exact ⟨BitVec.ofNat 4 value, by rw [BitVec.toNat_ofNat, Nat.mod_eq_of_lt small]⟩
  · rintro ⟨four, rfl⟩
    exact ⟨four.toNat, List.mem_range.mpr four.isLt, rfl⟩

theorem getElem?_hexDigits
    (bits : BitVec 128)
    {place : Nat}
    (within : place < 32) :
    (hexDigits bits)[place]? = some (hexDigit bits (31 - place)) := by
  simp [hexDigits, within]

theorem mem_hexAlphabet_of_mem_hexDigits
    {bits : BitVec 128}
    {c : Char}
    (member : c ∈ hexDigits bits) :
    c ∈ hexAlphabet := by
  obtain ⟨place, -, rfl⟩ := List.mem_map.mp member
  exact mem_hexAlphabet.mpr ⟨_, (hexDigit_eq_digitChar bits (31 - place)).symm⟩

/-- The digits of bits determine them. -/
theorem hexDigits_injective : Function.Injective hexDigits := by
  intro first second same
  apply BitVec.eq_of_getLsbD_eq
  intro bit within
  have sameDigit : hexDigit first (bit / 4) = hexDigit second (bit / 4) := by
    have samePlace := congrArg (·[31 - bit / 4]?) same
    have turned : 31 - (31 - bit / 4) = bit / 4 := by omega
    simpa [getElem?_hexDigits _ (show 31 - bit / 4 < 32 by omega), turned] using samePlace
  rw [hexDigit_eq_digitChar, hexDigit_eq_digitChar] at sameDigit
  rw [getLsbD_eq_digitBits first, getLsbD_eq_digitBits second, digitChar_injective sameDigit]

/-- Any 32 hexadecimal digits are those of some bits. -/
theorem exists_hexDigits_eq
    {digits : Text}
    (count : digits.length = 32)
    (areHex : ∀ c ∈ digits, c ∈ hexAlphabet) :
    ∃ bits, hexDigits bits = digits := by
  have hasBits : ∀ place, ∃ four : BitVec 4, place < 32 →
      digits[place]? = some (Nat.digitChar four.toNat) := by
    intro place
    by_cases within : place < 32
    · rw [← count] at within
      obtain ⟨four, shows⟩ := mem_hexAlphabet.mp (areHex _ (List.getElem_mem within))
      exact ⟨four, fun _ => by rw [List.getElem?_eq_getElem within, shows]⟩
    · exact ⟨0, fun within' => absurd within' within⟩
  choose four shows using hasBits
  -- Digits are counted from the end of the bits, places from the front of the text.
  let allBits : List Bool :=
    (List.range 128).map fun bit => (four (31 - bit / 4)).getLsbD (bit % 4)
  let bits : BitVec 128 := (BitVec.ofBoolListLE allBits).setWidth 128
  have digitBits_bits : ∀ index < 32, digitBits bits index = four (31 - index) := by
    intro index within
    apply BitVec.eq_of_getLsbD_eq
    intro bit inDigit
    have inside : 4 * index + bit < 128 := by omega
    have quotient : (4 * index + bit) / 4 = index := by omega
    have remainder : (4 * index + bit) % 4 = bit := by omega
    rw [getLsbD_digitBits _ _ inDigit, BitVec.getLsbD_setWidth, BitVec.getLsbD_ofBoolListLE]
    simp [allBits, inside, quotient, remainder]
  refine ⟨bits, List.ext_getElem? fun place => ?_⟩
  by_cases within : place < 32
  · have turned : 31 - (31 - place) = place := by omega
    rw [getElem?_hexDigits _ within, hexDigit_eq_digitChar, digitBits_bits _ (by omega), turned,
      shows place within]
  · rw [List.getElem?_eq_none (by simpa using within), List.getElem?_eq_none (by omega)]

/-- The last digit of padded hexadecimal notation is the remainder. It is so for a number of one
digit too, which has a zero in front. -/
theorem leftpad_ofNatHex_succ (n count : Nat) :
    (Text.ofNatHex n).leftpad (count + 2) '0' =
      (Text.ofNatHex (n / 16)).leftpad (count + 1) '0' ++ [Nat.digitChar (n % 16)] := by
  unfold Text.ofNatHex
  by_cases small : n < 16
  · rw [Nat.toDigits_of_lt_base small, Nat.div_eq_of_lt small, Nat.mod_eq_of_lt small,
      Nat.toDigits_zero]
    simp [List.leftpad, ← List.replicate_succ']
  · rw [Nat.toDigits_of_base_le (by decide) (Nat.le_of_not_lt small)]
    simp [List.leftpad]

/-- Hexadecimal notation, padded to a number of digits, has one digit for every four bits. -/
theorem leftpad_ofNatHex
    {n count : Nat}
    (fits : n < 16 ^ (count + 1)) :
    (Text.ofNatHex n).leftpad (count + 1) '0' =
      (List.range (count + 1)).map fun place =>
        Nat.digitChar (n >>> (4 * (count - place)) % 16) := by
  induction count generalizing n with
  | zero =>
      rw [Text.ofNatHex, Nat.toDigits_of_lt_base (by simpa using fits)]
      simp [List.leftpad, Nat.mod_eq_of_lt (show n < 16 by simpa using fits)]
  | succ count inductionHypothesis =>
      have fewer := inductionHypothesis (n := n / 16) (by omega)
      have higher : ∀ place ∈ List.range (count + 1),
          Nat.digitChar (n >>> (4 * (count + 1 - place)) % 16) =
            Nat.digitChar ((n / 16) >>> (4 * (count - place)) % 16) := by
        intro place member
        have below := List.mem_range.mp member
        have further : 4 * (count + 1 - place) = 4 + 4 * (count - place) := by omega
        have shifted : n >>> 4 = n / 16 := Nat.shiftRight_eq_div_pow n 4
        rw [further, Nat.shiftRight_add, shifted]
      rw [List.range_succ, List.map_append, List.map_congr_left higher, ← fewer,
        leftpad_ofNatHex_succ]
      simp

/-- The digits of an identifier are the number that the bits make, in hexadecimal notation and
padded with zeros. -/
theorem hexDigits_eq_leftpad (bits : BitVec 128) :
    hexDigits bits = (Text.ofNatHex bits.toNat).leftpad 32 '0' :=
  (leftpad_ofNatHex bits.isLt).symm

/-! ## Version and variant -/

/-- Version and variant stand in bits exactly if two of the digits show them. -/
theorem stamped_eq_self_iff_hexDigit {bits : BitVec 128} :
    stamped bits = bits ↔
      hexDigit bits 19 = '4' ∧ hexDigit bits 15 ∈ ['8', '9', 'a', 'b'] := by
  -- Digit 19 is version alone; of digit 15 the variant takes the upper half.
  have isVersion : ∀ four : BitVec 4, Nat.digitChar four.toNat = '4' ↔
      ∀ bit < 4, four.getLsbD bit = fixedBits.getLsbD (4 * 19 + bit) := by decide +kernel
  have isVariant : ∀ four : BitVec 4, Nat.digitChar four.toNat ∈ ['8', '9', 'a', 'b'] ↔
      ∀ bit < 4, 2 ≤ bit → four.getLsbD bit = fixedBits.getLsbD (4 * 15 + bit) := by
    decide +kernel
  have mem_hiddenBits : ∀ bit, bit ∈ hiddenBits ↔
      (bit / 4 = 19 ∨ (bit / 4 = 15 ∧ 2 ≤ bit % 4)) := by
    intro bit
    simp only [hiddenBits, List.mem_cons, List.not_mem_nil, or_false]
    omega
  rw [stamped_eq_self_iff, hexDigit_eq_digitChar, hexDigit_eq_digitChar, isVersion, isVariant]
  constructor
  · intro agree
    refine ⟨fun bit inDigit => ?_, fun bit inDigit isHigh => ?_⟩
    · rw [getLsbD_digitBits _ _ inDigit]
      exact agree _ ((mem_hiddenBits _).mpr (by omega))
    · rw [getLsbD_digitBits _ _ inDigit]
      exact agree _ ((mem_hiddenBits _).mpr (by omega))
  · rintro ⟨version, variant⟩ bit hidden
    have inDigit : bit % 4 < 4 := Nat.mod_lt bit (by decide)
    rw [getLsbD_eq_digitBits]
    obtain isThere | ⟨isThere, isHigh⟩ := (mem_hiddenBits bit).mp hidden
    · rw [isThere, version _ inDigit, ← isThere, Nat.div_add_mod]
    · rw [isThere, variant _ inDigit isHigh, ← isThere, Nat.div_add_mod]

/-! ## Groups -/

/-- The digits of groups, grouped by the lengths of all groups but the last, are the groups with
hyphens between them. -/
theorem grouped_flatten {groups : List Text} (nonempty : groups ≠ []) :
    grouped (groups.dropLast.map List.length) groups.flatten = Text.joined ['-'] groups := by
  induction groups with
  | nil => exact absurd rfl nonempty
  | cons group rest inductionHypothesis =>
      cases rest with
      | nil => simp [grouped, Text.joined, List.intercalate]
      | cons next others =>
          have groupedRest := inductionHypothesis (List.cons_ne_nil next others)
          rw [List.dropLast_cons_cons, List.map_cons, List.flatten_cons, grouped, List.take_left,
            List.drop_left, groupedRest, Text.joined_cons, Text.joined_cons, List.flatMap_cons]
          rfl

theorem ofDraw_eq_joined
    {draw : BitVec 128}
    {groups : List Text}
    (sizes : groups.map List.length = [8, 4, 4, 4, 12])
    (digits : groups.flatten = hexDigits (stamped draw)) :
    ofDraw draw = Text.joined ['-'] groups := by
  have nonempty : groups ≠ [] := by
    rintro rfl
    cases sizes
  have sizesButLast : groups.dropLast.map List.length = [8, 4, 4, 4] := by
    rw [List.map_dropLast, sizes]
    rfl
  rw [ofDraw, ← digits, ← sizesButLast, grouped_flatten nonempty]

/-- Between its hyphens an identifier has its digits, cut into groups of the given sizes. -/
theorem groups_ofDraw (draw : BitVec 128) :
    ((ofDraw draw).splitOn '-').map List.length = [8, 4, 4, 4, 12] ∧
      ((ofDraw draw).splitOn '-').flatten = hexDigits (stamped draw) := by
  let digits := hexDigits (stamped draw)
  let groups := [8, 4, 4, 4, 12].splitLengths digits
  have sizes : groups.map List.length = [8, 4, 4, 4, 12] :=
    List.map_splitLengths_length digits [8, 4, 4, 4, 12] (by simp [digits])
  have isCut : groups.flatten = digits :=
    List.flatten_splitLengths digits [8, 4, 4, 4, 12] (by simp [digits])
  have noHyphen : ∀ group ∈ groups, '-' ∉ group := by
    intro group isGroup isDigit
    have isHex : '-' ∈ hexAlphabet :=
      mem_hexAlphabet_of_mem_hexDigits (isCut ▸ List.mem_flatten_of_mem isGroup isDigit)
    exact absurd isHex (by decide +kernel)
  have nonempty : groups ≠ [] := List.cons_ne_nil _ _
  have isSplit : (ofDraw draw).splitOn '-' = groups := by
    rw [ofDraw_eq_joined sizes isCut]
    exact List.splitOn_intercalate '-' noHyphen nonempty
  rw [isSplit]
  exact ⟨sizes, isCut⟩

/-- The thirteenth and the seventeenth digit stand behind two and three hyphens. -/
theorem getElem?_joined
    {groups : List Text}
    (sizes : groups.map List.length = [8, 4, 4, 4, 12]) :
    (Text.joined ['-'] groups)[14]? = groups.flatten[12]? ∧
      (Text.joined ['-'] groups)[19]? = groups.flatten[16]? := by
  simp only [List.map_eq_cons_iff, List.map_eq_nil_iff] at sizes
  obtain ⟨first, _, rfl, size₁, second, _, rfl, size₂, third, _, rfl, size₃, fourth, _, rfl, size₄,
    fifth, _, rfl, size₅, rfl⟩ := sizes
  simp [Text.joined_cons, List.getElem?_append, size₁, size₂, size₃, size₄]

/-! ## UUIDs of version 4 -/

/-- The form of a random UUID: five groups of hexadecimal digits, with the version in front of the
third and a digit that has the bits of the variant in front of the fourth. -/
structure IsUuid4 (id : Text) : Prop where
  sizes : (id.splitOn '-').map List.length = [8, 4, 4, 4, 12]
  areHex : ∀ group ∈ id.splitOn '-', group ⊆ hexAlphabet
  version : id[14]? = some '4'
  variant : id[19]? ∈ ['8', '9', 'a', 'b'].map some

instance (id : Text) : Decidable (IsUuid4 id) :=
  decidable_of_iff
    ((id.splitOn '-').map List.length = [8, 4, 4, 4, 12] ∧
      (∀ group ∈ id.splitOn '-', group ⊆ hexAlphabet) ∧
      id[14]? = some '4' ∧ id[19]? ∈ ['8', '9', 'a', 'b'].map some)
    ⟨fun ⟨sizes, areHex, version, variant⟩ => ⟨sizes, areHex, version, variant⟩,
      fun ⟨sizes, areHex, version, variant⟩ => ⟨sizes, areHex, version, variant⟩⟩

theorem isUuid4_ofDraw (draw : BitVec 128) : IsUuid4 (ofDraw draw) := by
  obtain ⟨sizes, digits⟩ := groups_ofDraw draw
  obtain ⟨isVersion, isVariant⟩ := stamped_eq_self_iff_hexDigit.mp (stamped_stamped draw)
  obtain ⟨versionPlace, variantPlace⟩ := getElem?_joined sizes
  rw [← ofDraw_eq_joined sizes digits, digits, getElem?_hexDigits _ (by decide)]
    at versionPlace variantPlace
  refine ⟨sizes, fun group isGroup c member => ?_, ?_, ?_⟩
  · exact mem_hexAlphabet_of_mem_hexDigits (digits ▸ List.mem_flatten_of_mem isGroup member)
  · rw [versionPlace, isVersion]
  · rw [variantPlace]
    exact List.mem_map_of_mem isVariant

/-- Every UUID of version 4 is the identifier of some draw, and nothing else is. -/
theorem isUuid4_iff_exists_ofDraw {id : Text} : IsUuid4 id ↔ ∃ draw, ofDraw draw = id := by
  constructor
  · rintro ⟨sizes, areHex, version, variant⟩
    have isJoined : Text.joined ['-'] (id.splitOn '-') = id := List.intercalate_splitOn '-'
    have count : (id.splitOn '-').flatten.length = 32 := by
      rw [List.length_flatten, sizes]
      rfl
    obtain ⟨bits, digits⟩ := exists_hexDigits_eq count fun c member => by
      obtain ⟨group, isGroup, inGroup⟩ := List.mem_flatten.mp member
      exact areHex group isGroup inGroup
    obtain ⟨versionPlace, variantPlace⟩ := getElem?_joined sizes
    rw [isJoined, ← digits, getElem?_hexDigits _ (by decide)] at versionPlace variantPlace
    rw [versionPlace] at version
    rw [variantPlace] at variant
    obtain ⟨c, isVariant, same⟩ := List.mem_map.mp variant
    have isStamped : stamped bits = bits :=
      stamped_eq_self_iff_hexDigit.mpr ⟨Option.some.inj version, Option.some.inj same ▸ isVariant⟩
    exact ⟨bits, (ofDraw_eq_joined sizes (isStamped.symm ▸ digits.symm)).trans isJoined⟩
  · rintro ⟨draw, rfl⟩
    exact isUuid4_ofDraw draw

example : ¬ IsUuid4 "00000000-0000-1000-8000-000000000000" := by decide +kernel

theorem ofDraw_eq_iff_stamped {first second : BitVec 128} :
    ofDraw first = ofDraw second ↔ stamped first = stamped second := by
  constructor
  · intro same
    apply hexDigits_injective
    rw [← (groups_ofDraw first).2, ← (groups_ofDraw second).2, same]
  · intro same
    rw [ofDraw, ofDraw, same]

/-- Each draw makes a UUID of version 4, whose digits are the stamped draw in hexadecimal notation,
and each UUID of version 4 is made from some draw. Two draws make the same one exactly if they agree
on all bits but those of the version and the variant. -/
theorem ofDraw_lossless :
    (∀ draw, (ofDraw draw).length = 36 ∧ IsUuid4 (ofDraw draw)) ∧
      (∀ draw, ((ofDraw draw).splitOn '-').flatten =
        (Text.ofNatHex (stamped draw).toNat).leftpad 32 '0') ∧
      (∀ id, IsUuid4 id → ∃ draw, ofDraw draw = id) ∧
      shownBits.length = 122 ∧
      ∀ first second, ofDraw first = ofDraw second ↔
        ∀ bit ∈ shownBits, first.getLsbD bit = second.getLsbD bit := by
  refine ⟨fun draw => ⟨length_ofDraw draw, isUuid4_ofDraw draw⟩, fun draw => ?_,
    fun _ => isUuid4_iff_exists_ofDraw.mp, length_shownBits, fun first second => ?_⟩
  · rw [(groups_ofDraw draw).2, hexDigits_eq_leftpad]
  · exact ofDraw_eq_iff_stamped.trans stamped_eq_iff

example : ofDraw 0 = "00000000-0000-4000-8000-000000000000" := by decide +kernel

end Ident
end PhraseGrammar
