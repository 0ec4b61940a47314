import PhraseGrammar.Proofs.Derivation.Verdict

/-!
# Grammars that run in step

A run compares its forms with the word, counts their characters, and does nothing else with them.
So if the steps of one grammar are those of another in translation, and the translation keeps
lengths and tells different texts apart, the two grammars run in step: each verdict of one is the
verdict of the other on the translated word, with every form translated.

Where nothing is translated at all, this says that the verdicts of a grammar depend on its steps
only.
-/

namespace PhraseGrammar

/-! ## Translated forms -/

/-- The step with its form translated. -/
def DerivationStep.mapForm (translate : Text → Text) (step : DerivationStep) : DerivationStep :=
  { step with form := translate step.form }

/-- The verdict with all its forms translated. -/
def Verdict.mapForms (translate : Text → Text) (given : Verdict) : Verdict :=
  { given with
    steps := given.steps.map (DerivationStep.mapForm translate)
    finalForm := translate given.finalForm }

@[simp] theorem DerivationStep.mapForm_id : DerivationStep.mapForm id = id := rfl

@[simp] theorem Verdict.mapForms_id : Verdict.mapForms id = id := by
  funext given
  rw [mapForms, DerivationStep.mapForm_id, List.map_id]
  rfl

namespace Derivation

/-- The run with all its forms translated. -/
def Run.mapForms (translate : Text → Text) (run : Run) : Run :=
  { run with forms := run.forms.map translate }

@[simp] theorem Run.rounds_mapForms (translate : Text → Text) (run : Run) :
    (run.mapForms translate).rounds = run.rounds := by
  simp [rounds, mapForms]

/-- Translated forms keep their places. -/
theorem numbered_map (translate : Text → Text) (forms : List Text) :
    numbered (forms.map translate) = (numbered forms).map (DerivationStep.mapForm translate) := by
  simp [numbered, List.mapIdx_eq_zipIdx_map, DerivationStep.mapForm, List.zipIdx_map]

/-- The verdict on a translated run is the translated verdict. -/
theorem verdict_mapForms (translate : Text → Text) (start : Text) (run : Run) :
    verdict (translate start) (run.mapForms translate) =
      (verdict start run).mapForms translate := by
  rw [Verdict.mapForms, verdict, verdict, Run.mapForms, ← List.map_cons, numbered_map]
  simp [List.getLastD_eq_getLast?]

/-! ## Correspondence -/

/-- The steps of `image` are those of `grammar` in translation, as far as a search for a word can
tell. -/
structure Corresponds (translate : Text → Text) (grammar image : Grammar) : Prop where
  /-- Different texts stay different. -/
  injective : Function.Injective translate
  /-- Translations have as many characters. -/
  length_eq : ∀ text, (translate text).length = text.length
  /-- Both grammars can be worked with, or neither. -/
  wellFormed_iff : image.WellFormed ↔ grammar.WellFormed
  /-- The derivations begin at the same symbol. -/
  start_eq : image.startSymbol = translate grammar.startSymbol
  /-- The derivations go the same way. -/
  step?_eq : ∀ form, image.step? (translate form) = (grammar.step? form).map translate

namespace Corresponds

variable {translate : Text → Text} {grammar image : Grammar}

theorem outgrows_eq
    (corresponds : Corresponds translate grammar image)
    (form word : Text) :
    outgrows (translate form) (translate word) = outgrows form word := by
  rw [outgrows, outgrows, corresponds.length_eq, corresponds.length_eq]

/-- Corresponding grammars run in step. -/
theorem run_eq
    (corresponds : Corresponds translate grammar image)
    (word : Text)
    (rounds : Nat)
    (form : Text) :
    run image (translate word) rounds (translate form) =
      (run grammar word rounds form).mapForms translate := by
  induction rounds generalizing form with
  | zero => rfl
  | succ rounds inductionHypothesis =>
      rw [run, run, corresponds.step?_eq]
      cases grammar.step? form with
      | none => rfl
      | some next =>
          simp only [Option.map_some, corresponds.injective.eq_iff, corresponds.outgrows_eq]
          split
          next => rfl
          next =>
            split
            next => rfl
            next =>
              rw [inductionHypothesis]
              rfl

theorem search_eq
    (corresponds : Corresponds translate grammar image)
    (word : Text) :
    search image (translate word) = (search grammar word).mapForms translate := by
  rw [search, search, corresponds.start_eq, corresponds.run_eq]

/-- Corresponding grammars give corresponding verdicts, and fail in the same way. -/
theorem validate_eq
    (corresponds : Corresponds translate grammar image)
    (word : Text) :
    validate image (translate word) =
      (validate grammar word).map (Verdict.mapForms translate) := by
  by_cases wellFormed : grammar.WellFormed
  · rw [validate_of_wellFormed wellFormed,
      validate_of_wellFormed (corresponds.wellFormed_iff.mpr wellFormed), corresponds.search_eq,
      corresponds.start_eq, verdict_mapForms, Run.rounds_mapForms]
    split <;> rfl
  · rw [validate_of_not_wellFormed wellFormed,
      validate_of_not_wellFormed (mt corresponds.wellFormed_iff.mp wellFormed)]
    rfl

end Corresponds

/-- Grammars with the same start symbol and the same steps give the same verdicts, if both can be
worked with. -/
theorem validate_congr
    {grammar other : Grammar}
    (wellFormed_iff : other.WellFormed ↔ grammar.WellFormed)
    (sameStart : other.startSymbol = grammar.startSymbol)
    (sameSteps : other.step? = grammar.step?)
    (word : Text) :
    validate other word = validate grammar word := by
  have corresponds : Corresponds id grammar other :=
    { injective := Function.injective_id
      length_eq := fun _ => rfl
      wellFormed_iff
      start_eq := sameStart
      step?_eq := fun form => by rw [sameSteps, Option.map_id_apply, id] }
  have translated := corresponds.validate_eq word
  rwa [Verdict.mapForms_id, Except.map_id, id] at translated

end Derivation
end PhraseGrammar
