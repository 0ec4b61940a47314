import Mathlib.Data.List.Nodup
import PhraseGrammar.Grammar.Basic
import PhraseGrammar.Tree.Basic

/-!
# Taking identifiers

Identifiers are taken in order and never given back, so a supply only advances. Identifiers that
come from different draws of a supply are different as long as the supply does not repeat itself;
which draws they come from is known from how many had been used before and are used now.
-/

namespace PhraseGrammar
namespace Supply

/-- The later supply is what is left of the earlier one after some identifiers were taken. -/
structure Advances (earlier later : Supply) : Prop where
  sameDraw : later.draw = earlier.draw
  used_le : earlier.used ≤ later.used

namespace Advances

variable {first second third : Supply}

theorem refl (supply : Supply) : supply.Advances supply := ⟨rfl, Nat.le_refl _⟩

theorem trans (front : first.Advances second) (back : second.Advances third) :
    first.Advances third :=
  ⟨back.sameDraw.trans front.sameDraw, Nat.le_trans front.used_le back.used_le⟩

end Advances

theorem advances_take (supply : Supply) : supply.Advances (take supply).2 := ⟨rfl, Nat.le_succ _⟩

theorem advances_initial (supply : Supply) : supply.Advances (Grammar.initial supply).2 :=
  ⟨rfl, Nat.le_add_right supply.used 8⟩

mutual

theorem advances_identify (tree : Tree Text) (supply : Supply) :
    supply.Advances (tree.identify supply).2 := by
  match tree with
  | .node label children =>
      exact (advances_take supply).trans (advances_identifyForest children (take supply).2)

theorem advances_identifyForest (trees : List (Tree Text)) (supply : Supply) :
    supply.Advances (Tree.identifyForest trees supply).2 := by
  match trees with
  | [] => exact .refl supply
  | tree :: rest =>
      exact (advances_identify tree supply).trans
        (advances_identifyForest rest (tree.identify supply).2)

end

/-! ## Identifiers of different draws -/

/-- The identifier made from a draw of the supply. -/
def ident (supply : Supply) (index : Nat) : Text := Ident.ofDraw (supply.draw index)

/-- No identifier comes twice among those taken since `start` were used. -/
def NeverRepeats (start : Nat) (supply : Supply) : Prop :=
  ∀ later < supply.used, ∀ earlier < later,
    start ≤ earlier → supply.ident earlier ≠ supply.ident later

instance (start : Nat) (supply : Supply) : Decidable (supply.NeverRepeats start) :=
  inferInstanceAs (Decidable (∀ _ < _, _))

/-- The identifiers come each from its own draw, and were taken since `start` were used. -/
def Drawn (start : Nat) (supply : Supply) (ids : List Text) : Prop :=
  ∃ indices : List Nat, indices.Nodup ∧
    (∀ index ∈ indices, start ≤ index ∧ index < supply.used) ∧
    ids.Perm (indices.map supply.ident)

namespace Drawn

variable {start : Nat} {supply later : Supply} {ids ids' : List Text}

theorem of_perm (drawn : supply.Drawn start ids) (isPerm : ids'.Perm ids) :
    supply.Drawn start ids' := by
  obtain ⟨indices, nodup, within, arranged⟩ := drawn
  exact ⟨indices, nodup, within, isPerm.trans arranged⟩

/-- Identifiers stay drawn when more are taken. -/
theorem advance (drawn : supply.Drawn start ids) (advances : supply.Advances later) :
    later.Drawn start ids := by
  obtain ⟨indices, nodup, within, arranged⟩ := drawn
  refine ⟨indices, nodup, fun index member => ?_, ?_⟩
  · exact ⟨(within index member).1, Nat.lt_of_lt_of_le (within index member).2 advances.used_le⟩
  · unfold ident at arranged ⊢
    rwa [advances.sameDraw]

/-- The identifier taken next comes from a draw of its own. -/
theorem cons_take (drawn : supply.Drawn start ids) (started : start ≤ supply.used) :
    (take supply).2.Drawn start ((take supply).1 :: ids) := by
  obtain ⟨indices, nodup, within, arranged⟩ := drawn
  have isNew : supply.used ∉ indices := fun member => Nat.lt_irrefl _ (within _ member).2
  refine ⟨supply.used :: indices, nodup.cons isNew, ?_, arranged.cons _⟩
  rw [List.forall_mem_cons]
  refine ⟨⟨started, Nat.lt_succ_self _⟩, fun index member => ?_⟩
  exact ⟨(within index member).1, Nat.lt_succ_of_lt (within index member).2⟩

/-- Identifiers of different draws are different if the supply does not repeat itself. -/
theorem nodup (drawn : supply.Drawn start ids) (neverRepeats : supply.NeverRepeats start) :
    ids.Nodup := by
  obtain ⟨indices, nodup, within, arranged⟩ := drawn
  rw [arranged.nodup_iff]
  refine nodup.map_on fun first isFirst second isSecond same => ?_
  rcases Nat.lt_trichotomy first second with less | equal | greater
  · exact absurd same (neverRepeats _ (within second isSecond).2 _ less (within first isFirst).1)
  · exact equal
  · exact absurd same.symm
      (neverRepeats _ (within first isFirst).2 _ greater (within second isSecond).1)

end Drawn

end Supply
end PhraseGrammar
