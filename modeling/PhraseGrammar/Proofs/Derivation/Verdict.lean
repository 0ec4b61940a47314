import PhraseGrammar.Derivation.Validate
import PhraseGrammar.Proofs.Derivation.Run

/-!
# Verdicts

When a validation gives a verdict, and what the verdict shows of the run: its forms in order,
numbered from zero, and whether the run reached the word.
-/

namespace PhraseGrammar
namespace Derivation

/-! ## The gate and the limit -/

theorem validate_of_not_wellFormed
    {grammar : Grammar}
    (illFormed : ¬grammar.WellFormed)
    (word : Text) :
    validate grammar word = .error .notWellFormed := by
  rw [validate, Grammar.verify, if_neg illFormed]
  rfl

theorem validate_of_wellFormed
    {grammar : Grammar}
    (wellFormed : grammar.WellFormed)
    (word : Text) :
    validate grammar word =
      if roundLimit ≤ (search grammar word).rounds then .error .stepLimit
      else .ok (verdict grammar.startSymbol (search grammar word)) := by
  rw [validate, Grammar.verify, if_pos wellFormed]
  rfl

/-- There is a verdict exactly when the grammar is well formed and the run ends in time, and it is
the one on that run. -/
theorem validate_eq_ok_iff
    (grammar : Grammar)
    (word : Text)
    (given : Verdict) :
    validate grammar word = .ok given ↔
      grammar.WellFormed ∧ (search grammar word).rounds < roundLimit ∧
        given = verdict grammar.startSymbol (search grammar word) := by
  by_cases wellFormed : grammar.WellFormed
  · rw [validate_of_wellFormed wellFormed]
    split
    next late => simp [Nat.not_lt.mpr late]
    next inTime => simp [wellFormed, Nat.not_le.mp inTime, eq_comm]
  · rw [validate_of_not_wellFormed wellFormed]
    simp [wellFormed]

theorem traces_search (grammar : Grammar) (word : Text) :
    (search grammar word).Traces grammar word roundLimit grammar.startSymbol :=
  traces_run grammar word roundLimit grammar.startSymbol

/-- A run that is cut off begins its last round. -/
theorem ending_ne_cutOff_of_inTime
    {grammar : Grammar}
    {word : Text}
    (inTime : (search grammar word).rounds < roundLimit) :
    (search grammar word).ending ≠ .cutOff := by
  intro isCutOff
  have allForms := (traces_search grammar word).exhausted isCutOff
  have atMost := (search grammar word).length_forms_le_rounds
  omega

/-! ## What a verdict shows -/

theorem getElem?_numbered (forms : List Text) (index : Nat) :
    (numbered forms)[index]? =
      forms[index]?.map fun form => { form, place := UInt64.ofNat index } := by
  rw [numbered, List.getElem?_mapIdx]

@[simp] theorem map_form_numbered (forms : List Text) :
    (numbered forms).map DerivationStep.form = forms := by
  apply List.ext_getElem?
  intro place
  simp [getElem?_numbered, Function.comp_def]

@[simp] theorem length_numbered (forms : List Text) :
    (numbered forms).length = forms.length := by
  simp [numbered]

/-- The places are numbers from zero, unless there are so many forms that they wrap around. -/
theorem places_numbered {forms : List Text} (few : forms.length ≤ UInt64.size) :
    (numbered forms).map (·.place.toNat) = List.range forms.length := by
  apply List.ext_getElem (by simp)
  intro place _ inRange
  have inForms : place < forms.length := by simpa using inRange
  simp only [numbered, List.getElem_map, List.getElem_mapIdx, List.getElem_range]
  exact UInt64.toNat_ofNat_of_lt (Nat.lt_of_lt_of_le inForms few)

@[simp] theorem length_steps_verdict (start : Text) (run : Run) :
    (verdict start run).steps.length = run.forms.length + 1 := by
  simp [verdict]

@[simp] theorem forms_verdict (start : Text) (run : Run) :
    (verdict start run).steps.map DerivationStep.form = start :: run.forms :=
  map_form_numbered (start :: run.forms)

@[simp] theorem accepted_verdict (start : Text) (run : Run) :
    (verdict start run).accepted = true ↔ run.ending = .reached := by
  simp [verdict]

/-- The final form is the last of all forms. -/
theorem getLast?_forms_verdict (start : Text) (run : Run) :
    (start :: run.forms).getLast? = some (verdict start run).finalForm := by
  rw [List.getLast?_cons, ← List.getLastD_eq_getLast?]
  rfl

end Derivation
end PhraseGrammar
