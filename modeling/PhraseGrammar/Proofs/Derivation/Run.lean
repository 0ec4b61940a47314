import Mathlib.Data.List.Chain
import PhraseGrammar.Derivation.Run

/-!
# What a run consists of

A run is described by its forms and its ending. The forms follow one another by steps of the engine,
all but the last go on, and the ending says what is the matter with the last. `Run.Traces` collects
this, and `traces_run` shows it of every run by induction on the rounds that are allowed. Everything
else about runs follows from it without opening `run` again.
-/

namespace PhraseGrammar
namespace Derivation

/-- A form at which the search for `word` ends: the word, or one that is too long. -/
def Halts (word form : Text) : Prop := form = word ∨ 2 * word.length < form.length

/-- What the ending of a run says about the forms that follow `start`. -/
def Ending.Describes
    (grammar : Grammar)
    (word start : Text)
    (forms : List Text) : Ending → Prop
  | .reached => forms.getLast? = some word
  | .outgrown =>
      ∃ last, forms.getLast? = some last ∧ last ≠ word ∧ 2 * word.length < last.length
  | .stuck =>
      grammar.step? (forms.getLastD start) = none ∧ ∀ form ∈ forms, ¬Halts word form
  | .cutOff => ∀ form ∈ forms, ¬Halts word form

/-- A run that searches for `word` from `start` within the given number of rounds. -/
structure Run.Traces
    (grammar : Grammar)
    (word : Text)
    (rounds : Nat)
    (start : Text)
    (run : Run) : Prop where
  /-- Each form is the successor of the one before. -/
  chain : (start :: run.forms).IsChain fun form next => grammar.step? form = some next
  /-- Only the last form may end the search. -/
  ongoing : ∀ form ∈ run.forms.dropLast, ¬Halts word form
  /-- The ending tells the truth. -/
  ending : run.ending.Describes grammar word start run.forms
  /-- No more rounds are begun than are allowed. -/
  allowed : run.rounds ≤ rounds
  /-- A run is cut off only when its allowance is used up. -/
  exhausted : run.ending = .cutOff → run.forms.length = rounds

theorem outgrows_eq_true_iff (form word : Text) :
    outgrows form word = true ↔ 2 * word.length < form.length := by
  simp [outgrows]

@[simp] theorem Run.forms_after (form : Text) (run : Run) :
    (run.after form).forms = form :: run.forms := rfl

@[simp] theorem Run.ending_after (form : Text) (run : Run) :
    (run.after form).ending = run.ending := rfl

theorem Run.rounds_after (form : Text) (run : Run) :
    (run.after form).rounds = run.rounds + 1 := by
  cases run with
  | mk forms ending => cases ending <;> simp [Run.after, Run.rounds]

/-- The forms of a run are at most its rounds. -/
theorem Run.length_forms_le_rounds (run : Run) : run.forms.length ≤ run.rounds := by
  cases run with
  | mk forms ending => cases ending <;> simp [Run.rounds]

/-- An ending stays true when a form that does not halt is put in front. -/
theorem Ending.Describes.after
    {grammar : Grammar}
    {word start next : Text}
    {forms : List Text}
    {ending : Ending}
    (goesOn : ¬Halts word next)
    (described : ending.Describes grammar word next forms) :
    ending.Describes grammar word start (next :: forms) := by
  cases ending with
  | reached =>
      change (next :: forms).getLast? = some word
      rw [List.getLast?_cons, described, Option.getD_some]
  | outgrown =>
      obtain ⟨last, isLast, differs, long⟩ := described
      refine ⟨last, ?_, differs, long⟩
      rw [List.getLast?_cons, isLast, Option.getD_some]
  | stuck =>
      obtain ⟨noStep, noneHalts⟩ := described
      refine ⟨?_, List.forall_mem_cons.mpr ⟨goesOn, noneHalts⟩⟩
      rwa [List.getLastD_cons]
  | cutOff => exact List.forall_mem_cons.mpr ⟨goesOn, described⟩

/-- A run that goes on after its first form. -/
theorem Run.Traces.after
    {grammar : Grammar}
    {word start next : Text}
    {rounds : Nat}
    {run : Run}
    (stepped : grammar.step? start = some next)
    (goesOn : ¬Halts word next)
    (traces : run.Traces grammar word rounds next) :
    (run.after next).Traces grammar word (rounds + 1) start where
  chain := List.isChain_cons_cons.mpr ⟨stepped, traces.chain⟩
  ongoing := by
    intro form member
    cases forms_eq : run.forms with
    | nil => simp [forms_eq] at member
    | cons second rest =>
        rw [Run.forms_after, forms_eq, List.dropLast_cons_cons] at member
        rcases List.mem_cons.mp member with rfl | later
        · exact goesOn
        · exact traces.ongoing form (by rwa [forms_eq])
  ending := traces.ending.after goesOn
  allowed := by
    rw [Run.rounds_after]
    exact Nat.succ_le_succ traces.allowed
  exhausted isCutOff := by
    rw [Run.forms_after, List.length_cons, traces.exhausted isCutOff]

/-- A run that ends with its first form. -/
theorem Run.Traces.ofHalt
    {grammar : Grammar}
    {word start next : Text}
    {ending : Ending}
    (rounds : Nat)
    (stepped : grammar.step? start = some next)
    (described : ending.Describes grammar word start [next])
    (atOnce : ending = .reached ∨ ending = .outgrown) :
    Run.Traces grammar word (rounds + 1) start { forms := [next], ending } where
  chain := List.isChain_cons_cons.mpr ⟨stepped, List.isChain_singleton next⟩
  ongoing := by simp
  ending := described
  allowed := by rcases atOnce with rfl | rfl <;> simp [Run.rounds]
  exhausted := by rcases atOnce with rfl | rfl <;> simp

/-- Every run is what it should be. -/
theorem traces_run
    (grammar : Grammar)
    (word : Text)
    (rounds : Nat)
    (start : Text) :
    (run grammar word rounds start).Traces grammar word rounds start := by
  induction rounds generalizing start with
  | zero =>
      exact
        { chain := List.isChain_singleton start
          ongoing := by simp [run]
          ending := by simp [run, Ending.Describes]
          allowed := by simp [run, Run.rounds]
          exhausted := by simp [run] }
  | succ rounds inductionHypothesis =>
      rw [run]
      split
      next noStep =>
        exact
          { chain := List.isChain_singleton start
            ongoing := by simp
            ending := by simpa [Ending.Describes] using noStep
            allowed := by simp [Run.rounds]
            exhausted := by simp }
      next next stepped =>
        split
        next found =>
          exact .ofHalt rounds stepped (by simp [Ending.Describes, found]) (.inl rfl)
        next differs =>
          split
          next long =>
            rw [outgrows_eq_true_iff] at long
            exact .ofHalt rounds stepped ⟨next, rfl, differs, long⟩ (.inr rfl)
          next short =>
            rw [outgrows_eq_true_iff] at short
            have goesOn : ¬Halts word next := not_or.mpr ⟨differs, short⟩
            exact (inductionHypothesis next).after stepped goesOn

end Derivation
end PhraseGrammar
