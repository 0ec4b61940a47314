import Mathlib.Order.Bounds.Basic
import PhraseGrammar.Proofs.Derivation.Rewriting

/-!
# Which occurrence is exchanged

A step has two choices to make: a production, and an occurrence of its left side. It takes the first
production whose left side occurs at all, and of the ways to cut the form around that left side the
one with the shortest text in front. Occurrences may overlap one another, and the empty left side
occurs in front of everything.
-/

namespace PhraseGrammar

/-! ## Cuts -/

namespace Text

/-- The text is cut around an occurrence of the pattern, and what stands before it also stands
before every other occurrence. -/
structure CutFirst (pattern text before after : Text) : Prop where
  cut : text = before ++ pattern ++ after
  first : ∀ before' after', text = before' ++ pattern ++ after' → before <+: before'

section Cut

variable {pattern text before after : Text}

/-- There is only one such cut. -/
theorem CutFirst.unique
    {before' after' : Text}
    (isFirst : CutFirst pattern text before after)
    (isFirst' : CutFirst pattern text before' after') :
    before = before' ∧ after = after' := by
  have sameBefore : before = before' :=
    (isFirst.first _ _ isFirst'.cut).sublist.antisymm (isFirst'.first _ _ isFirst.cut).sublist
  have sameText := isFirst.cut.symm.trans isFirst'.cut
  rw [sameBefore] at sameText
  exact ⟨sameBefore, List.append_cancel_left sameText⟩

/-- Nothing stands before the first occurrence of the empty text. -/
theorem CutFirst.before_eq_nil (isFirst : CutFirst [] text before after) : before = [] :=
  List.prefix_nil.mp (isFirst.first [] text rfl)

theorem cutFirst_of_splitFirst? (found : splitFirst? pattern text = some (before, after)) :
    CutFirst pattern text before after := by
  refine ⟨eq_append_of_splitFirst? found, fun before' after' => ?_⟩
  induction text generalizing before before' with
  | nil =>
      rw [splitFirst?, Option.map_eq_some_iff] at found
      obtain ⟨_, _, same⟩ := found
      cases same
      exact fun _ => List.nil_prefix
  | cons c rest inductionHypothesis =>
      intro cut
      rw [splitFirst?] at found
      split at found
      next =>
        cases found
        exact List.nil_prefix
      next notHere =>
        obtain ⟨⟨front, back⟩, found, same⟩ := Option.map_eq_some_iff.mp found
        cases same
        -- The pattern does not stand at the beginning, so the other occurrence is in the rest too.
        cases before' with
        | nil =>
            have isHere := remainder?_eq_some_iff.mpr cut
            rw [List.nil_append, notHere] at isHere
            cases isHere
        | cons c' front' =>
            obtain ⟨rfl, restCut⟩ := List.cons.inj cut
            exact (List.prefix_cons_inj c).mpr (inductionHypothesis found front' restCut)

/-- The cut that is found is the first. -/
theorem splitFirst?_eq_some_iff :
    splitFirst? pattern text = some (before, after) ↔ CutFirst pattern text before after := by
  refine ⟨cutFirst_of_splitFirst?, fun isFirst => ?_⟩
  have occurs : contains pattern text = true :=
    contains_eq_true_iff.mpr ⟨before, after, isFirst.cut.symm⟩
  obtain ⟨⟨before', after'⟩, found⟩ := Option.isSome_iff_exists.mp occurs
  obtain ⟨rfl, rfl⟩ := isFirst.unique (cutFirst_of_splitFirst? found)
  exact found

end Cut
end Text

/-- A production is applied at the first occurrence of its left side. -/
theorem Production.applyFirst?_eq_some_iff
    (production : Production)
    (form next : Text) :
    production.applyFirst? form = some next ↔
      ∃ before after, Text.CutFirst production.left form before after ∧
        next = before ++ production.right ++ after := by
  rw [applyFirst?, Text.replaceFirst?, Option.map_eq_some_iff]
  simp only [Prod.exists, Text.splitFirst?_eq_some_iff, @eq_comm _ next]

/-! ## Productions -/

/-- The first answer in a list is that of the first entry that answers. -/
theorem findSome?_eq_find?_bind
    {answers : α → Bool}
    {answer : α → Option β}
    (isSome_answer : ∀ entry, (answer entry).isSome = answers entry)
    (entries : List α) :
    entries.findSome? answer = (entries.find? answers).bind answer := by
  induction entries with
  | nil => rfl
  | cons entry entries inductionHypothesis =>
      have answered := isSome_answer entry
      cases isAnswer : answer entry with
      | none =>
          rw [isAnswer, Option.isSome_none] at answered
          rw [List.findSome?_cons, isAnswer, List.find?_cons_of_neg (by simp [← answered])]
          exact inductionHypothesis
      | some result =>
          rw [isAnswer, Option.isSome_some] at answered
          rw [List.findSome?_cons, isAnswer, List.find?_cons_of_pos answered.symm, Option.bind_some,
            isAnswer]

namespace Grammar

/-- It comes to the same whether the productions are applied in turn until one can be, or the first
whose left side occurs is looked up and then applied. -/
theorem step?_eq_find?_bind (grammar : Grammar) (form : Text) :
    grammar.step? form =
      (grammar.productions.find? fun production => Text.contains production.left form).bind
        fun production => production.applyFirst? form :=
  findSome?_eq_find?_bind (fun _ => Option.isSome_map) grammar.productions

/-- The indices of the productions whose left side occurs in a form. -/
def applicable (grammar : Grammar) (form : Text) : Set Nat :=
  { index | ∃ production, grammar.productions[index]? = some production ∧
    production.left <:+: form }

/-- A step is made by the first production that can be applied. -/
theorem exists_isLeast_of_step?
    {grammar : Grammar}
    {form next : Text}
    (stepped : grammar.step? form = some next) :
    ∃ index production, IsLeast (grammar.applicable form) index ∧
      grammar.productions[index]? = some production ∧ production.applyFirst? form = some next := by
  rw [step?_eq_find?_bind, Option.bind_eq_some_iff] at stepped
  obtain ⟨production, found, applied⟩ := stepped
  obtain ⟨occurs, index, inRange, isEntry, noneBefore⟩ := List.find?_eq_some_iff_getElem.mp found
  have isEntry : grammar.productions[index]? = some production :=
    List.getElem?_eq_some_iff.mpr ⟨inRange, isEntry⟩
  refine ⟨index, production, ⟨?_, ?_⟩, isEntry, applied⟩
  · exact ⟨production, isEntry, Text.contains_eq_true_iff.mp occurs⟩
  · rintro earlier ⟨other, isOther, otherOccurs⟩
    by_contra isBefore
    obtain ⟨inRange', rfl⟩ := List.getElem?_eq_some_iff.mp isOther
    have notContained := noneBefore earlier (Nat.lt_of_not_le isBefore)
    rw [Text.contains_eq_true_iff.mpr otherOccurs] at notContained
    cases notContained

/-- The first production whose left side occurs in the form is applied, at its first occurrence. -/
def RewritesFirst (grammar : Grammar) (form next : Text) : Prop :=
  ∃ index production before after,
    IsLeast (grammar.applicable form) index ∧
    grammar.productions[index]? = some production ∧
    Text.CutFirst production.left form before after ∧
    next = before ++ production.right ++ after

theorem RewritesFirst.unique
    {grammar : Grammar}
    {form next next' : Text}
    (rewrites : grammar.RewritesFirst form next)
    (rewrites' : grammar.RewritesFirst form next') :
    next = next' := by
  obtain ⟨index, production, before, after, isLeast, isEntry, isFirst, rfl⟩ := rewrites
  obtain ⟨index', production', before', after', isLeast', isEntry', isFirst', rfl⟩ := rewrites'
  obtain rfl := isLeast.unique isLeast'
  obtain rfl := Option.some.inj (isEntry.symm.trans isEntry')
  obtain ⟨rfl, rfl⟩ := isFirst.unique isFirst'
  rfl

/-- The steps are the rewrites of the first production at its first occurrence. -/
theorem step?_eq_some_iff (grammar : Grammar) (form next : Text) :
    grammar.step? form = some next ↔ grammar.RewritesFirst form next := by
  have isRewrite {stepped : Text} (isStep : grammar.step? form = some stepped) :
      grammar.RewritesFirst form stepped := by
    obtain ⟨index, production, isLeast, isEntry, applied⟩ := exists_isLeast_of_step? isStep
    obtain ⟨before, after, isFirst, isNext⟩ :=
      (production.applyFirst?_eq_some_iff form stepped).mp applied
    exact ⟨index, production, before, after, isLeast, isEntry, isFirst, isNext⟩
  refine ⟨isRewrite, fun rewrites => ?_⟩
  cases isStep : grammar.step? form with
  | some stepped => rw [(isRewrite isStep).unique rewrites]
  | none =>
      obtain ⟨index, production, _, _, ⟨⟨_, isEntry, occurs⟩, _⟩, _⟩ := rewrites
      have isFinal := (grammar.step?_eq_none_iff form).mp isStep
      exact absurd occurs (isFinal _ (List.mem_of_getElem? isEntry))

/-- There is no step from a form exactly if no left side occurs in it. Otherwise the step is made by
the first production whose left side does, and it exchanges the occurrence with the least text
before it, none at all if the left side is empty. -/
theorem step?_first_match (grammar : Grammar) (form : Text) :
    (grammar.step? form = none ↔ grammar.IsFinal form) ∧
    (¬grammar.IsFinal form →
      ∃ index production before after,
        IsLeast (grammar.applicable form) index ∧
        grammar.productions[index]? = some production ∧
        Text.CutFirst production.left form before after ∧
        (production.left = [] → before = []) ∧
        grammar.step? form = some (before ++ production.right ++ after)) := by
  refine ⟨grammar.step?_eq_none_iff form, fun notFinal => ?_⟩
  have stepped := mt (grammar.step?_eq_none_iff form).mp notFinal
  obtain ⟨next, stepped⟩ := Option.ne_none_iff_exists'.mp stepped
  obtain ⟨index, production, before, after, isLeast, isEntry, isFirst, rfl⟩ :=
    (grammar.step?_eq_some_iff form next).mp stepped
  refine ⟨index, production, before, after, isLeast, isEntry, isFirst, fun isEmpty => ?_, stepped⟩
  exact (isEmpty ▸ isFirst).before_eq_nil

/-- `A` stands first in the form, but `BéB` is declared first; its occurrences overlap. -/
theorem step?_first_match_overlapping :
    let grammar : Grammar :=
      { terminals := [{ id := "t", value := "a" }]
        nonTerminals := [{ id := "n", value := "A" }, { id := "m", value := "BéB" }]
        startSymbol := "A"
        productions := [{ id := "p", left := "BéB", right := "" },
          { id := "q", left := "A", right := "a" }] }
    let form : Text := "ABéBéBéB"
    ¬grammar.IsFinal form ∧ IsLeast (grammar.applicable form) 0 ∧
      Text.CutFirst "BéB" form "A" "éBéB" ∧ grammar.step? form = some "AéBéB" := by
  intro grammar form
  have occurs : "BéB".toList <:+: form := ⟨"A".toList, "éBéB".toList, rfl⟩
  have notFinal : ¬grammar.IsFinal form :=
    fun isFinal => isFinal _ (List.mem_cons_self ..) occurs
  obtain ⟨index, production, before, after, isLeast, isEntry, isFirst, -, stepped⟩ :=
    (grammar.step?_first_match form).2 notFinal
  obtain rfl : index = 0 := Nat.le_zero.mp (isLeast.2 ⟨_, rfl, occurs⟩)
  obtain rfl := Option.some.inj isEntry
  obtain ⟨rfl, rfl⟩ := isFirst.unique (Text.cutFirst_of_splitFirst? rfl)
  exact ⟨notFinal, isLeast, isFirst, stepped⟩

end Grammar
end PhraseGrammar
