import PhraseGrammar.Text.Basic

/-!
# Identifiers

Symbols, productions and tree nodes are told apart by identifiers: random UUIDs of version 4. An
identifier is made from a draw of 128 bits by fixing the four version bits and the two variant bits
and writing the result as 32 hexadecimal digits in groups of 8, 4, 4, 4 and 12.

Draws come from a `Supply`, which hands them out in order. Everything that needs a new identifier
takes one from the supply it is given, so the rest of the library is deterministic in the supply.
-/

namespace PhraseGrammar
namespace Ident

/-- The bits of a draw that an identifier keeps: all but the version and the variant. -/
def freeBits : BitVec 128 := ~~~((0xf#128 <<< 76) ||| (0x3#128 <<< 62))

/-- Version 4 and the variant of random identifiers. -/
def fixedBits : BitVec 128 := (0x4#128 <<< 76) ||| (0x2#128 <<< 62)

/-- A draw with version and variant in place. -/
def stamped (draw : BitVec 128) : BitVec 128 := (draw &&& freeBits) ||| fixedBits

/-- The hexadecimal digit at `index`, counted from the least significant. -/
def hexDigit (bits : BitVec 128) (index : Nat) : Char :=
  Nat.digitChar (bits.toNat >>> (4 * index) % 16)

/-- The 32 hexadecimal digits of 128 bits, most significant first. -/
def hexDigits (bits : BitVec 128) : Text :=
  (List.range 32).map fun place => hexDigit bits (31 - place)

/-- Digits in groups of the given sizes, with a hyphen between groups. -/
def grouped : List Nat -> Text -> Text
  | [], digits => digits
  | size :: sizes, digits =>
      digits.take size ++ '-' :: grouped sizes (digits.drop size)

/-- The identifier made from a draw. -/
def ofDraw (draw : BitVec 128) : Text :=
  grouped [8, 4, 4, 4] (hexDigits (stamped draw))

@[simp] theorem length_hexDigits (bits : BitVec 128) : (hexDigits bits).length = 32 := by
  simp [hexDigits]

@[simp] theorem length_ofDraw (draw : BitVec 128) : (ofDraw draw).length = 36 := by
  simp [ofDraw, grouped]

end Ident

/-- Draws in the order in which they are handed out, and how many are already used. -/
structure Supply where
  draw : Nat -> BitVec 128
  used : Nat

namespace Supply

/-- The supply whose draws start at `seed` and advance by an odd stride, so that no draw comes twice
within the first `2 ^ 128`. -/
def ofSeed (seed : BitVec 128) : Supply where
  draw index := seed + BitVec.ofNat 128 index * 0x9e3779b97f4a7c15f39cc0605cedc835#128
  used := 0

/-- A computation that may take new identifiers. -/
abbrev Taking := StateM Supply

/-- Take a new identifier. -/
def take : Taking Text := fun supply =>
  (Ident.ofDraw (supply.draw supply.used), { supply with used := supply.used + 1 })

end Supply

end PhraseGrammar
