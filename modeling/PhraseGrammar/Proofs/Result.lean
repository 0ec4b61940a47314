/-!
# Results of computations that may fail

What the success of a composed result says about its parts, and what two computations on a state
come to in turn.
-/

namespace PhraseGrammar

theorem exists_of_bind_eq_ok
    {result : Except ε α}
    {next : α → Except ε β}
    {value : β}
    (succeeds : result >>= next = .ok value) :
    ∃ found, result = .ok found ∧ next found = .ok value := by
  cases result with
  | error _ => cases succeeds
  | ok found => exact ⟨found, rfl, succeeds⟩

theorem exists_of_map_eq_ok
    {result : Except ε α}
    {function : α → β}
    {value : β}
    (succeeds : result.map function = .ok value) :
    ∃ found, result = .ok found ∧ function found = value := by
  cases result with
  | error _ => cases succeeds
  | ok found => exact ⟨found, rfl, Except.ok.inj succeeds⟩

/-- What comes after a computation without a value is reached when that computation succeeds. -/
theorem andThen_eq_ok_iff
    {first : Except ε Unit}
    {next : Except ε α}
    {value : α} :
    (first >>= fun _ => next) = .ok value ↔ first = .ok () ∧ next = .ok value := by
  cases first with
  | error _ => exact iff_of_false nofun fun both => nomatch both.1
  | ok _ => exact (and_iff_right rfl).symm

/-- Telling failures in other terms makes no success. -/
theorem eq_ok_of_mapError_eq_ok
    {result : Except ε α}
    {function : ε → ε'}
    {value : α}
    (succeeds : result.mapError function = .ok value) :
    result = .ok value := by
  cases result with
  | error _ => cases succeeds
  | ok _ => exact congrArg Except.ok (Except.ok.inj succeeds)

/-! ## Successes alone -/

theorem toOption_eq_some_iff {result : Except ε α} {value : α} :
    result.toOption = some value ↔ result = .ok value := by
  cases result <;> simp [Except.toOption]

theorem toOption_map (result : Except ε α) (function : α → β) :
    (result.map function).toOption = result.toOption.map function := by
  cases result <;> rfl

theorem toOption_bind (result : Except ε α) (next : α → Except ε β) :
    (result >>= next).toOption = result.toOption.bind fun value => (next value).toOption := by
  cases result <;> rfl

/-- Telling failures in other terms changes no success. -/
theorem toOption_mapError (result : Except ε α) (function : ε → ε') :
    (result.mapError function).toOption = result.toOption := by
  cases result <;> rfl

/-! ## Computations on a state -/

section Computations

variable {computation : ExceptT ε (StateM σ) α} {before between : σ}

/-- The next computation goes on with the value and the state. -/
theorem run_bind_ok
    {value : α}
    (isOutcome : computation.run.run before = (.ok value, between))
    (next : α → ExceptT ε (StateM σ) β) :
    (computation >>= next).run.run before = (next value).run.run between := by
  change (ExceptT.bindCont next (computation.run.run before).1).run
    (computation.run.run before).2 = _
  rw [isOutcome]
  rfl

/-- There is no next computation after a failure. -/
theorem run_bind_error
    {error : ε}
    (isOutcome : computation.run.run before = (.error error, between))
    (next : α → ExceptT ε (StateM σ) β) :
    (computation >>= next).run.run before = (.error error, between) := by
  change (ExceptT.bindCont next (computation.run.run before).1).run
    (computation.run.run before).2 = _
  rw [isOutcome]
  rfl

end Computations

end PhraseGrammar
