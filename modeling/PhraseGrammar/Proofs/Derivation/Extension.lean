import PhraseGrammar.Proofs.Derivation.Rewriting
import PhraseGrammar.Proofs.Derivation.Verdict
import PhraseGrammar.Proofs.Grammar.Validity

/-!
# A production behind the others

A production that is added behind all others is applied only to forms to which none of them applies.
So the grammar goes the same way with it as without, up to where it would be stuck without it, and
only from there may it go on. A word that was accepted is accepted in the same steps, and a
derivation that ran out of steps still does, even if the new production is first applied in the
hundredth round.
-/

namespace PhraseGrammar

/-! ## Steps -/

/-- Wherever the first grammar takes a step, the second takes the same. -/
def Grammar.KeepsSteps (grammar extended : Grammar) : Prop :=
  ∀ form next, grammar.step? form = some next → extended.step? form = some next

/-- A production is not reached where one before it is applied. -/
theorem Grammar.keepsSteps_addProduction (grammar : Grammar) (id left right : Text) :
    grammar.KeepsSteps ((Edit.addProduction left right).perform id grammar) := by
  intro form next stepped
  rw [step?] at stepped ⊢
  rw [Edit.perform, List.findSome?_append, stepped, Option.some_or]

namespace Derivation

/-! ## Runs -/

/-- The second run is the first, or goes on where the first is stuck. -/
def Run.ContinuedBy (run further : Run) : Prop :=
  further = run ∨
    run.ending = .stuck ∧ run.forms <+: further.forms ∧ run.rounds ≤ further.rounds

theorem Run.ContinuedBy.after
    {run further : Run}
    (continued : run.ContinuedBy further)
    (form : Text) :
    (run.after form).ContinuedBy (further.after form) := by
  rcases continued with rfl | ⟨isStuck, isPrefix, fewer⟩
  · exact .inl rfl
  · refine .inr ⟨isStuck, (List.prefix_cons_inj form).mpr isPrefix, ?_⟩
    rw [rounds_after, rounds_after]
    exact Nat.succ_le_succ fewer

/-- A run with any allowance begins a round. -/
theorem rounds_run_pos (grammar : Grammar) (word : Text) (rounds : Nat) (start : Text) :
    1 ≤ (run grammar word (rounds + 1) start).rounds := by
  rw [run]
  split
  next => exact Nat.le_refl 1
  next next _ =>
    split
    next => exact Nat.le_refl 1
    next =>
      split
      next => exact Nat.le_refl 1
      next =>
        rw [Run.rounds_after]
        exact Nat.le_add_left 1 _

/-- A grammar that keeps the steps of another continues its runs. -/
theorem continuedBy_run
    {grammar extended : Grammar}
    (keeps : grammar.KeepsSteps extended)
    (word : Text)
    (rounds : Nat)
    (start : Text) :
    (run grammar word rounds start).ContinuedBy (run extended word rounds start) := by
  induction rounds generalizing start with
  | zero => exact .inl rfl
  | succ rounds inductionHypothesis =>
      cases stepped : grammar.step? start with
      | none =>
          have isStuck :
              run grammar word (rounds + 1) start = { forms := [], ending := .stuck } := by
            rw [run, stepped]
          rw [isStuck]
          exact .inr ⟨rfl, List.nil_prefix, rounds_run_pos extended word rounds start⟩
      | some next =>
          simp only [run, stepped, keeps start next stepped]
          split
          next => exact .inl rfl
          next =>
            split
            next => exact .inl rfl
            next => exact (inductionHypothesis next).after next

/-! ## Verdicts -/

theorem prefix_numbered {forms further : List Text} (isPrefix : forms <+: further) :
    numbered forms <+: numbered further := by
  obtain ⟨rest, rfl⟩ := isPrefix
  exact ⟨_, List.mapIdx_append.symm⟩

/-- The validation stopped because no production applies: no left side occurs in the last form, and
there was no other reason to stop there. At the start symbol there is none, since it is compared
with the word in neither way. -/
def StoppedStuck (grammar : Grammar) (word : Text) (given : Verdict) : Prop :=
  grammar.IsFinal given.finalForm ∧ (given.steps.length = 1 ∨ ¬Halts word given.finalForm)

/-- A run that is stuck gives a verdict that says so. -/
theorem stoppedStuck_of_stuck
    {grammar : Grammar}
    {word : Text}
    (isStuck : (search grammar word).ending = .stuck) :
    StoppedStuck grammar word (verdict grammar.startSymbol (search grammar word)) := by
  have described := (traces_search grammar word).ending
  rw [isStuck] at described
  obtain ⟨noStep, noneHalts⟩ := described
  refine ⟨(grammar.step?_eq_none_iff _).mp noStep, ?_⟩
  cases forms_eq : (search grammar word).forms with
  | nil =>
      left
      rw [length_steps_verdict, forms_eq, List.length_nil]
  | cons first rest =>
      right
      apply noneHalts
      rw [verdict, forms_eq, List.getLastD_cons]
      exact List.getLastD_mem_cons ..

section Extended

variable {grammar extended : Grammar} {word : Text}
  (wellFormed : grammar.WellFormed)
  (wellFormed' : extended.WellFormed)
  (sameStart : extended.startSymbol = grammar.startSymbol)
  (keeps : grammar.KeepsSteps extended)

include sameStart keeps in
theorem continuedBy_search : (search grammar word).ContinuedBy (search extended word) := by
  rw [search, search, sameStart]
  exact continuedBy_run keeps word roundLimit grammar.startSymbol

include wellFormed wellFormed' sameStart keeps

/-- Where the run is not stuck, the validation is the same. -/
theorem validate_eq_of_not_stuck (notStuck : (search grammar word).ending ≠ .stuck) :
    validate extended word = validate grammar word := by
  have sameRun : search extended word = search grammar word :=
    (continuedBy_search sameStart keeps).resolve_right fun stuck => notStuck stuck.1
  rw [validate_of_wellFormed wellFormed', validate_of_wellFormed wellFormed, sameRun, sameStart]

/-- A derivation that runs out of steps still does. -/
theorem stepLimit_of_keepsSteps (limited : validate grammar word = .error .stepLimit) :
    validate extended word = .error .stepLimit := by
  by_cases isStuck : (search grammar word).ending = .stuck
  · have manyRounds : roundLimit ≤ (search grammar word).rounds := by
      by_contra early
      rw [validate_of_wellFormed wellFormed, if_neg early] at limited
      cases limited
    rw [validate_of_wellFormed wellFormed', if_pos]
    rcases continuedBy_search sameStart keeps with sameRun | ⟨_, _, fewer⟩
    · rwa [sameRun]
    · exact Nat.le_trans manyRounds fewer
  · rw [validate_eq_of_not_stuck wellFormed wellFormed' sameStart keeps isStuck, limited]

end Extended

/-- The steps of a verdict begin those of the verdict on a run that goes on. -/
theorem Run.ContinuedBy.prefix_steps
    {run further : Run}
    (continued : run.ContinuedBy further)
    (start : Text) :
    (verdict start run).steps <+: (verdict start further).steps := by
  rcases continued with rfl | ⟨_, isPrefix, _⟩
  · exact List.prefix_rfl
  · exact prefix_numbered ((List.prefix_cons_inj start).mpr isPrefix)

/-- Adding a production behind the others leaves the verdict on every word that is accepted as it
is, and the step limit where it is reached. If there is a verdict before and after, the steps of the
first are the beginning of those of the second, and only a verdict that was given because no
production applies can change at all. -/
theorem validate_addProduction
    (grammar extended : Grammar)
    (wellFormed : grammar.WellFormed)
    (left right id : Text)
    (added : (Edit.addProduction left right).apply id grammar = .ok extended)
    (word : Text) :
    (∀ given, validate grammar word = .ok given → given.accepted = true →
      validate extended word = .ok given) ∧
    (validate grammar word = .error .stepLimit → validate extended word = .error .stepLimit) ∧
    (∀ given given', validate grammar word = .ok given → validate extended word = .ok given' →
      given.steps <+: given'.steps ∧ (¬StoppedStuck grammar word given → given' = given)) := by
  obtain ⟨allowed, isExtended⟩ := (Edit.apply_eq_ok_iff _ _ _ _).mp added
  have wellFormed' : extended.WellFormed :=
    isExtended ▸ Edit.wellFormed_perform wellFormed allowed id
  have sameStart : extended.startSymbol = grammar.startSymbol := isExtended ▸ rfl
  have keeps : grammar.KeepsSteps extended :=
    isExtended ▸ grammar.keepsSteps_addProduction id left right
  refine ⟨?_, stepLimit_of_keepsSteps wellFormed wellFormed' sameStart keeps, ?_⟩
  · intro given isVerdict accepted
    obtain ⟨_, _, rfl⟩ := (validate_eq_ok_iff _ _ _).mp isVerdict
    rw [validate_eq_of_not_stuck wellFormed wellFormed' sameStart keeps, isVerdict]
    rw [(accepted_verdict _ _).mp accepted]
    exact nofun
  · intro given given' isVerdict isVerdict'
    obtain ⟨_, _, rfl⟩ := (validate_eq_ok_iff _ _ _).mp isVerdict
    constructor
    · obtain ⟨_, _, rfl⟩ := (validate_eq_ok_iff _ _ _).mp isVerdict'
      rw [sameStart]
      exact (continuedBy_search sameStart keeps).prefix_steps grammar.startSymbol
    · intro notStopped
      have notStuck := mt stoppedStuck_of_stuck notStopped
      rw [validate_eq_of_not_stuck wellFormed wellFormed' sameStart keeps notStuck,
        isVerdict] at isVerdict'
      exact (Except.ok.inj isVerdict').symm

/-- The grammar that leads from `S` to `aC` accepts `aC` in the same steps after `C -> b` was added,
and the derivation that stopped at `aC` in search of `ab` goes on. The grammar that leads from `S`
to `S` runs out of steps with another production for `S` as well. -/
theorem validate_addProduction_goesOn :
    let grammar (right : Text) : Grammar :=
      { terminals := [{ id := "t", value := "a" }]
        nonTerminals := [{ id := "n", value := "S" }, { id := "m", value := "C" }]
        startSymbol := "S"
        productions := [{ id := "p", left := "S", right }] }
    let extended (right left right' : Text) : Grammar :=
      { grammar right with
        productions := (grammar right).productions ++ [{ id := "q", left, right := right' }] }
    let accepting : Verdict :=
      { accepted := true, steps := [⟨"S", 0⟩, ⟨"aC", 1⟩], finalForm := "aC" }
    let stopped : Verdict :=
      { accepted := false, steps := [⟨"S", 0⟩, ⟨"aC", 1⟩], finalForm := "aC" }
    let further : Verdict :=
      { accepted := true, steps := [⟨"S", 0⟩, ⟨"aC", 1⟩, ⟨"ab", 2⟩], finalForm := "ab" }
    (grammar "aC").WellFormed ∧
      (Edit.addProduction "C" "b").apply "q" (grammar "aC") = .ok (extended "aC" "C" "b") ∧
      validate (grammar "aC") "aC" = .ok accepting ∧
      validate (extended "aC" "C" "b") "aC" = .ok accepting ∧
      validate (grammar "aC") "ab" = .ok stopped ∧
      validate (extended "aC" "C" "b") "ab" = .ok further ∧
      stopped.steps <+: further.steps ∧
    (grammar "S").WellFormed ∧
      (Edit.addProduction "S" "b").apply "q" (grammar "S") = .ok (extended "S" "S" "b") ∧
      validate (grammar "S") "b" = .error .stepLimit ∧
      validate (extended "S" "S" "b") "b" = .error .stepLimit := by
  intro grammar extended accepting stopped further
  have wellFormed : (grammar "aC").WellFormed := by decide
  have added : (Edit.addProduction "C" "b").apply "q" (grammar "aC") =
      .ok (extended "aC" "C" "b") := rfl
  have accepts : validate (grammar "aC") "aC" = .ok accepting := by decide
  have stops : validate (grammar "aC") "ab" = .ok stopped := by decide
  have goesOn : validate (extended "aC" "C" "b") "ab" = .ok further := by decide
  have wellFormed' : (grammar "S").WellFormed := by decide
  have added' : (Edit.addProduction "S" "b").apply "q" (grammar "S") =
      .ok (extended "S" "S" "b") := rfl
  have limited : validate (grammar "S") "b" = .error .stepLimit := by decide
  have same := (validate_addProduction _ _ wellFormed _ _ _ added "aC").1 accepting accepts rfl
  have longer := (validate_addProduction _ _ wellFormed _ _ _ added "ab").2.2 stopped further stops
    goesOn
  have stillLimited := (validate_addProduction _ _ wellFormed' _ _ _ added' "b").2.1 limited
  exact ⟨wellFormed, added, accepts, same, stops, goesOn, longer.1, wellFormed', added', limited,
    stillLimited⟩

end Derivation
end PhraseGrammar
