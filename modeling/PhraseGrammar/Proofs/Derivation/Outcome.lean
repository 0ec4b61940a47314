import Mathlib.Order.Bounds.Basic
import PhraseGrammar.Proofs.Derivation.FirstMatch
import PhraseGrammar.Proofs.Derivation.Verdict

/-!
# Which verdict there is

The successors of the start symbol form a sequence, which ends where a form has no successor. The
verdict on a word is read off this sequence alone: let `n` be the first place at which the form
halts the search or has no successor; there is a verdict if this place comes in time, and it lists
the forms up to there. The start symbol itself never halts the search.
-/

namespace PhraseGrammar

/-- The form after the given number of steps from the start symbol, if there are so many. -/
def Grammar.formAt? (grammar : Grammar) : Nat → Option Text
  | 0 => some grammar.startSymbol
  | place + 1 => (grammar.formAt? place).bind grammar.step?

namespace Derivation

/-- The form at a place is not the start symbol, and is the word or more than twice as long. -/
def HaltsAt (grammar : Grammar) (word : Text) (place : Nat) : Prop :=
  1 ≤ place ∧ ∃ form, grammar.formAt? place = some form ∧
    (form = word ∨ 2 * word.length < form.length)

/-- There is no form after the one at a place. -/
def StuckAt (grammar : Grammar) (place : Nat) : Prop := grammar.formAt? (place + 1) = none

/-- The first place at which the search for a word goes no further. -/
def EndsAt (grammar : Grammar) (word : Text) (place : Nat) : Prop :=
  IsLeast {place | HaltsAt grammar word place ∨ StuckAt grammar place} place

/-- A place that comes before the hundredth round: finding that there is no successor takes a round
of its own. -/
def InTime (grammar : Grammar) (word : Text) (place : Nat) : Prop :=
  (HaltsAt grammar word place → place ≤ 99) ∧ (¬HaltsAt grammar word place → place ≤ 98)

/-- The verdict that lists the forms up to a place. -/
def ListsUpTo (grammar : Grammar) (word : Text) (place : Nat) (given : Verdict) : Prop :=
  (given.steps.map fun step => (some step.form, step.place.toNat)) =
      (List.range (place + 1)).map (fun index => (grammar.formAt? index, index)) ∧
    some given.finalForm = grammar.formAt? place ∧
    (given.accepted = true ↔ 1 ≤ place ∧ grammar.formAt? place = some word)

/-! ## The sequence -/

/-- The sequence ends at a form in which no left side occurs. -/
theorem stuckAt_iff
    {grammar : Grammar}
    {place : Nat}
    {form : Text}
    (isForm : grammar.formAt? place = some form) :
    StuckAt grammar place ↔ grammar.IsFinal form := by
  rw [StuckAt, Grammar.formAt?, isForm, Option.bind_some, grammar.step?_eq_none_iff]

/-- Any other form is followed by its rewrite. -/
theorem formAt?_succ_eq_some_iff
    {grammar : Grammar}
    {place : Nat}
    {form : Text}
    (isForm : grammar.formAt? place = some form)
    (next : Text) :
    grammar.formAt? (place + 1) = some next ↔ grammar.RewritesFirst form next := by
  rw [Grammar.formAt?, isForm, Option.bind_some, grammar.step?_eq_some_iff]

/-! ## The forms of a run in the sequence -/

section Sequence

variable {grammar : Grammar} {word : Text} {rounds : Nat} {run : Run}

/-- The forms of a run are those of the sequence. -/
theorem Run.Traces.formAt?_eq
    (traces : run.Traces grammar word rounds grammar.startSymbol)
    {place : Nat}
    (within : place ≤ run.forms.length) :
    grammar.formAt? place = (grammar.startSymbol :: run.forms)[place]? := by
  induction place with
  | zero => rfl
  | succ place inductionHypothesis =>
      have short : place + 1 < (grammar.startSymbol :: run.forms).length := by
        simpa using Nat.lt_succ_of_le within
      have stepped := List.isChain_iff_getElem.mp traces.chain place short
      rw [Grammar.formAt?, inductionHypothesis (Nat.le_of_succ_le within),
        List.getElem?_eq_getElem (Nat.lt_of_succ_lt short), List.getElem?_eq_getElem short]
      exact stepped

/-- The last form of a run stands at the place that counts its steps. -/
theorem Run.Traces.formAt?_length
    (traces : run.Traces grammar word rounds grammar.startSymbol) :
    grammar.formAt? run.forms.length = some (run.forms.getLastD grammar.startSymbol) := by
  have isLast : (grammar.startSymbol :: run.forms).getLast? =
      (grammar.startSymbol :: run.forms)[run.forms.length]? := by
    rw [List.getLast?_eq_getElem?, List.length_cons, Nat.add_sub_cancel]
  rw [traces.formAt?_eq (Nat.le_refl _), ← isLast, List.getLast?_cons,
    ← List.getLastD_eq_getLast?]

/-- Before its last form a run neither halts nor is stuck. -/
theorem Run.Traces.goesOn
    (traces : run.Traces grammar word rounds grammar.startSymbol)
    {place : Nat}
    (before : place < run.forms.length) :
    ¬(HaltsAt grammar word place ∨ StuckAt grammar place) := by
  rintro (⟨positive, form, isForm, halts⟩ | isStuck)
  · obtain ⟨index, rfl⟩ := Nat.exists_eq_add_of_le' positive
    rw [traces.formAt?_eq (Nat.le_of_lt before), List.getElem?_cons_succ] at isForm
    have member : form ∈ run.forms.dropLast := by
      apply List.mem_of_getElem? (i := index)
      rw [List.getElem?_dropLast, if_pos (by omega), isForm]
    exact traces.ongoing form member halts
  · rw [StuckAt, traces.formAt?_eq before, List.getElem?_eq_none_iff,
      List.length_cons] at isStuck
    omega

/-- The last of several forms is among them. -/
theorem Run.Traces.exists_mem_of_positive
    (traces : run.Traces grammar word rounds grammar.startSymbol)
    (positive : 1 ≤ run.forms.length) :
    ∃ last ∈ run.forms, run.forms.getLast? = some last ∧
      grammar.formAt? run.forms.length = some last := by
  obtain ⟨last, isLast⟩ := Option.isSome_iff_exists.mp
    (List.getLast?_isSome.mpr (List.length_pos_iff.mp positive))
  refine ⟨last, List.mem_of_getLast? isLast, isLast, ?_⟩
  rw [traces.formAt?_length, List.getLastD_eq_getLast?, isLast, Option.getD_some]

/-- A run ends with a form that halts exactly when its ending says so. -/
theorem Run.Traces.haltsAt_length_iff
    (traces : run.Traces grammar word rounds grammar.startSymbol) :
    HaltsAt grammar word run.forms.length ↔ run.ending = .reached ∨ run.ending = .outgrown := by
  have described := traces.ending
  constructor
  · rintro ⟨positive, form, isForm, halts⟩
    obtain ⟨last, member, _, isLast⟩ := traces.exists_mem_of_positive positive
    obtain rfl : last = form := Option.some.inj (isLast.symm.trans isForm)
    cases ending_eq : run.ending with
    | reached => exact .inl rfl
    | outgrown => exact .inr rfl
    | stuck =>
        rw [ending_eq] at described
        exact absurd halts (described.2 last member)
    | cutOff =>
        rw [ending_eq] at described
        exact absurd halts (described last member)
  · intro ended
    have isLast : ∃ last, run.forms.getLast? = some last ∧
        (last = word ∨ 2 * word.length < last.length) := by
      rcases ended with isReached | isOutgrown
      · rw [isReached] at described
        exact ⟨word, described, .inl rfl⟩
      · rw [isOutgrown] at described
        obtain ⟨last, isLast, _, long⟩ := described
        exact ⟨last, isLast, .inr long⟩
    obtain ⟨last, isLast, halts⟩ := isLast
    refine ⟨List.length_pos_of_mem (List.mem_of_getLast? isLast), last, ?_, halts⟩
    rw [traces.formAt?_length, List.getLastD_eq_getLast?, isLast, Option.getD_some]

/-- A run whose ending says so is stuck at its last form. -/
theorem Run.Traces.stuckAt_length
    (traces : run.Traces grammar word rounds grammar.startSymbol)
    (isStuck : run.ending = .stuck) :
    StuckAt grammar run.forms.length := by
  have described := traces.ending
  rw [isStuck] at described
  rw [StuckAt, Grammar.formAt?, traces.formAt?_length, Option.bind_some]
  exact described.1

/-- A run that is not cut off ends where the sequence does. -/
theorem Run.Traces.endsAt
    (traces : run.Traces grammar word rounds grammar.startSymbol)
    (notCutOff : run.ending ≠ .cutOff) :
    EndsAt grammar word run.forms.length := by
  constructor
  · cases ending_eq : run.ending with
    | reached => exact .inl (traces.haltsAt_length_iff.mpr (.inl ending_eq))
    | outgrown => exact .inl (traces.haltsAt_length_iff.mpr (.inr ending_eq))
    | stuck => exact .inr (traces.stuckAt_length ending_eq)
    | cutOff => exact absurd ending_eq notCutOff
  · intro place ends
    by_contra before
    exact traces.goesOn (Nat.not_le.mp before) ends

/-- The sequence ends in time at the last form of a run exactly when the run is done before its
hundredth round. -/
theorem Run.Traces.inTime_length_iff
    (traces : run.Traces grammar word rounds grammar.startSymbol)
    (notCutOff : run.ending ≠ .cutOff) :
    InTime grammar word run.forms.length ↔ run.rounds < roundLimit := by
  rw [InTime, traces.haltsAt_length_iff, Run.rounds, roundLimit]
  cases ending_eq : run.ending with
  | reached =>
      simp only [reduceCtorEq, or_false, forall_const, not_true_eq_false, IsEmpty.forall_iff,
        and_true]
      omega
  | outgrown =>
      simp only [reduceCtorEq, or_true, forall_const, not_true_eq_false, IsEmpty.forall_iff,
        and_true]
      omega
  | stuck =>
      simp only [reduceCtorEq, or_self, IsEmpty.forall_iff, not_false_eq_true, forall_const,
        true_and]
      omega
  | cutOff => exact absurd ending_eq notCutOff

/-- A run that is done before its hundredth round is not cut off, and the sequence ends in time at
its last form. -/
theorem Run.Traces.of_inTime
    (traces : run.Traces grammar word roundLimit grammar.startSymbol)
    {place : Nat}
    (ends : EndsAt grammar word place)
    (inTime : InTime grammar word place) :
    run.ending ≠ .cutOff ∧ place = run.forms.length := by
  have early : place < roundLimit := by
    by_cases halts : HaltsAt grammar word place
    · exact Nat.lt_succ_of_le (inTime.1 halts)
    · exact Nat.lt_succ_of_le (Nat.le_succ_of_le (inTime.2 halts))
  have notCutOff : run.ending ≠ .cutOff := by
    intro isCutOff
    rw [← traces.exhausted isCutOff] at early
    exact traces.goesOn early ends.1
  exact ⟨notCutOff, ends.unique (traces.endsAt notCutOff)⟩

/-! ## The verdict on a run -/

/-- A run reached the word exactly when its last form, if it has one, is the word. -/
theorem Run.Traces.reached_iff
    (traces : run.Traces grammar word rounds grammar.startSymbol) :
    run.ending = .reached ↔
      1 ≤ run.forms.length ∧ grammar.formAt? run.forms.length = some word := by
  have described := traces.ending
  constructor
  · intro isReached
    obtain ⟨positive, form, isForm, _⟩ := traces.haltsAt_length_iff.mpr (.inl isReached)
    obtain ⟨last, _, isLast, isForm'⟩ := traces.exists_mem_of_positive positive
    rw [isReached] at described
    obtain rfl : last = word := Option.some.inj (isLast.symm.trans described)
    exact ⟨positive, isForm'⟩
  · rintro ⟨positive, isWord⟩
    have ended := traces.haltsAt_length_iff.mp ⟨positive, word, isWord, .inl rfl⟩
    apply ended.resolve_right
    intro isOutgrown
    obtain ⟨last, _, isLast, isForm⟩ := traces.exists_mem_of_positive positive
    rw [isOutgrown] at described
    obtain ⟨last', isLast', differs, _⟩ := described
    obtain rfl : last = last' := Option.some.inj (isLast.symm.trans isLast')
    exact differs (Option.some.inj (isForm.symm.trans isWord))

/-- The verdict on a run lists the forms up to the last. -/
theorem Run.Traces.listsUpTo
    (traces : run.Traces grammar word roundLimit grammar.startSymbol) :
    ListsUpTo grammar word run.forms.length (verdict grammar.startSymbol run) := by
  refine ⟨?_, traces.formAt?_length.symm, ?_⟩
  · have few := Nat.le_trans run.length_forms_le_rounds traces.allowed
    apply List.ext_getElem?
    intro index
    rw [List.getElem?_map, List.getElem?_map, verdict, getElem?_numbered, Option.map_map]
    by_cases within : index ≤ run.forms.length
    · have isForm := traces.formAt?_eq within
      have isPlace : (UInt64.ofNat index).toNat = index := by
        apply UInt64.toNat_ofNat_of_lt'
        have size_eq : UInt64.size = 18446744073709551616 := rfl
        rw [roundLimit] at few
        omega
      have short : index < (grammar.startSymbol :: run.forms).length :=
        Nat.lt_succ_of_le within
      rw [List.getElem?_eq_getElem short] at isForm ⊢
      rw [List.getElem?_range (Nat.lt_succ_of_le within)]
      simp [isForm, isPlace]
    · have beyond := Nat.not_le.mp within
      rw [List.getElem?_eq_none (Nat.succ_le_of_lt beyond),
        List.getElem?_eq_none (by simpa using Nat.succ_le_of_lt beyond)]
      rfl
  · rw [accepted_verdict]
    exact traces.reached_iff

end Sequence

/-- A verdict is determined by what it lists. -/
theorem ListsUpTo.unique
    {grammar : Grammar}
    {word : Text}
    {place : Nat}
    {given other : Verdict}
    (lists : ListsUpTo grammar word place given)
    (listsToo : ListsUpTo grammar word place other) :
    given = other := by
  obtain ⟨steps, finalForm, accepted⟩ := lists
  obtain ⟨steps', finalForm', accepted'⟩ := listsToo
  have sameSteps : given.steps = other.steps := by
    refine List.map_injective_iff.mpr ?_ (steps.trans steps'.symm)
    rintro ⟨form, place⟩ ⟨form', place'⟩ same
    simp only [Prod.mk.injEq, Option.some.injEq] at same
    rw [DerivationStep.mk.injEq]
    exact ⟨same.1, UInt64.toNat_inj.mp same.2⟩
  have sameForm : given.finalForm = other.finalForm :=
    Option.some.inj (finalForm.trans finalForm'.symm)
  have sameAnswer : given.accepted = other.accepted :=
    Bool.eq_iff_iff.mpr (accepted.trans accepted'.symm)
  cases given
  cases other
  simp_all

/-- The sequence of forms begins with the start symbol; it ends at a form in which no left side
occurs, and otherwise goes on with the form that the first production whose left side occurs makes
at its first occurrence. Validation refuses a grammar that is not well formed. For every other
grammar, it gives a verdict exactly when the sequence ends in time, and the verdict lists the forms
up to there; if the sequence does not end in time, the step limit is the answer. -/
theorem validate_characterized (grammar : Grammar) (word : Text) :
    grammar.formAt? 0 = some grammar.startSymbol ∧
      (∀ place form, grammar.formAt? place = some form →
        (StuckAt grammar place ↔ grammar.IsFinal form) ∧
        ∀ next, grammar.formAt? (place + 1) = some next ↔ grammar.RewritesFirst form next) ∧
      (¬grammar.WellFormed → validate grammar word = .error .notWellFormed) ∧
      (grammar.WellFormed →
        (∀ given, validate grammar word = .ok given ↔
          ∃ place, EndsAt grammar word place ∧ InTime grammar word place ∧
            ListsUpTo grammar word place given) ∧
        ((¬∃ place, EndsAt grammar word place ∧ InTime grammar word place) →
          validate grammar word = .error .stepLimit)) := by
  have traces := traces_search grammar word
  refine ⟨rfl, fun _ _ isForm => ⟨stuckAt_iff isForm, formAt?_succ_eq_some_iff isForm⟩,
    fun illFormed => validate_of_not_wellFormed illFormed word, fun wellFormed => ⟨?_, ?_⟩⟩
  · intro given
    rw [validate_eq_ok_iff]
    constructor
    · rintro ⟨_, inTime, rfl⟩
      have notCutOff := ending_ne_cutOff_of_inTime inTime
      exact ⟨_, traces.endsAt notCutOff, (traces.inTime_length_iff notCutOff).mpr inTime,
        traces.listsUpTo⟩
    · rintro ⟨place, ends, inTime, lists⟩
      obtain ⟨notCutOff, rfl⟩ := traces.of_inTime ends inTime
      exact ⟨wellFormed, (traces.inTime_length_iff notCutOff).mp inTime,
        lists.unique traces.listsUpTo⟩
  · intro never
    rw [validate_of_wellFormed wellFormed, if_pos]
    by_contra early
    have inTime := Nat.not_le.mp early
    have notCutOff := ending_ne_cutOff_of_inTime inTime
    exact never ⟨_, traces.endsAt notCutOff, (traces.inTime_length_iff notCutOff).mpr inTime⟩

/-- `B` is declared before `A`, so both occurrences of `B` are rewritten first, one after the other,
although `A` stands between them. -/
theorem validate_characterized_interleaved :
    let grammar : Grammar :=
      { terminals := [{ id := "t", value := "a" }, { id := "u", value := "b" }]
        nonTerminals := [{ id := "k", value := "S" }, { id := "m", value := "A" },
          { id := "n", value := "B" }]
        startSymbol := "S"
        productions := [{ id := "p", left := "B", right := "b" },
          { id := "q", left := "S", right := "BAB" }, { id := "r", left := "A", right := "aB" }] }
    let given : Verdict :=
      { accepted := true
        steps := [⟨"S", 0⟩, ⟨"BAB", 1⟩, ⟨"bAB", 2⟩, ⟨"bAb", 3⟩, ⟨"baBb", 4⟩, ⟨"babb", 5⟩]
        finalForm := "babb" }
    grammar.WellFormed ∧ validate grammar "babb" = .ok given ∧ EndsAt grammar "babb" 5 ∧
      InTime grammar "babb" 5 ∧ ListsUpTo grammar "babb" 5 given ∧
      grammar.RewritesFirst "bAB" "bAb" := by
  intro grammar given
  have wellFormed : grammar.WellFormed := by decide +kernel
  have isVerdict : validate grammar "babb" = .ok given := by decide +kernel
  obtain ⟨_, continued, _, characterized⟩ := validate_characterized grammar "babb"
  obtain ⟨place, ends, inTime, lists⟩ := ((characterized wellFormed).1 given).mp isVerdict
  obtain rfl : place = 5 := by simpa [given] using congrArg List.length lists.1
  have isForm : grammar.formAt? 2 = some "bAB".toList := by decide +kernel
  have isNext : grammar.formAt? 3 = some "bAb".toList := by decide +kernel
  exact ⟨wellFormed, isVerdict, ends, inTime, lists, ((continued 2 _ isForm).2 _).mp isNext⟩

end Derivation
end PhraseGrammar
