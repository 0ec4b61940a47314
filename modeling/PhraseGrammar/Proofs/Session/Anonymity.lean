import PhraseGrammar.Proofs.Grammar.Anonymity
import PhraseGrammar.Proofs.Session.Reachable
import PhraseGrammar.Proofs.Session.Reliable

/-!
# Sessions without their identifiers

What can be seen of a state is its records without identifiers, and the initial grammar in the place
of one that is not kept. On a medium that never fails, each answer and what can be seen afterwards
are functions of what can be seen before. So nothing that is answered depends on identifiers, and it
makes no difference whether the initial grammar is kept or made up each time anew; and what follows
a reset is what would follow a first start.
-/

namespace PhraseGrammar

/-! ## Trees -/

/-- The tree of labels with nothing for identifiers. -/
def Tree.unidentified (tree : Tree Text) : LabelledTree := tree.map fun label => { id := [], label }

/-- The tree with nothing for its identifiers. -/
def Tree.withoutIds (tree : LabelledTree) : LabelledTree := tree.labels.unidentified

theorem Tree.withoutIds_identify (tree : Tree Text) (supply : Supply) :
    (tree.identify supply).1.withoutIds = tree.unidentified := by
  rw [withoutIds, labels_identify]

/-! ## States and answers -/

/-- The state with nothing for the identifiers in its records. -/
def State.withoutIds (state : State) : State where
  grammar := state.grammar.map Grammar.withoutIds
  verdict := state.verdict
  derivationTree := state.derivationTree.map Tree.withoutIds
  generalTree := state.generalTree.map Tree.withoutIds

namespace Session

open Medium PhraseGrammar.Action Store

/-- The answer with nothing for the identifiers in it. -/
def Answer.withoutIds : Answer → Answer
  | .overview shown =>
      .overview
        { shown with
          grammar := shown.grammar.withoutIds
          derivationTree := shown.derivationTree.map Tree.withoutIds
          generalTree := shown.generalTree.map Tree.withoutIds }
  | .verdict given => .verdict given
  | .grammar given => .grammar given.withoutIds
  | .tree given => .tree (given.map Tree.withoutIds)

/-- What the operations answer in turn. -/
def answers
    (medium : Medium σ)
    (systemInfo : SystemInfo)
    (world : World σ) : List Operation → List (Except SessionError Answer)
  | [] => []
  | operation :: rest =>
      let outcome := (perform medium systemInfo operation).outcome world
      outcome.1 :: answers medium systemInfo outcome.2 rest

/-- What the operations answer in turn, without identifiers. -/
def anonymousAnswers
    (medium : Medium σ)
    (systemInfo : SystemInfo)
    (world : World σ)
    (operations : List Operation) : List (Except SessionError Answer) :=
  (answers medium systemInfo world operations).map (Except.map Answer.withoutIds)

/-! ## Views -/

/-- What a session works with, apart from identifiers. -/
structure View where
  grammar : Grammar
  verdict : Option Verdict
  derivationTree : Option LabelledTree
  generalTree : Option LabelledTree

/-- The initial grammar, apart from identifiers. -/
def initialGrammar : Grammar := (Grammar.initial (.ofSeed 0)).1.withoutIds

/-- What can be seen of the state. -/
def view (state : State) : View where
  grammar := state.withoutIds.grammar.getD initialGrammar
  verdict := state.withoutIds.verdict
  derivationTree := state.withoutIds.derivationTree
  generalTree := state.withoutIds.generalTree

/-- Whatever identifiers it may have taken, the grammar that is loaded is the one that can be seen.
-/
theorem withoutIds_loaded (state : State) (supply : Supply) :
    (loaded state supply).1.withoutIds = (view state).grammar := by
  rw [loaded, view, State.withoutIds]
  cases state.grammar with
  | some _ => rfl
  | none => exact Grammar.withoutIds_initial _ _

/-- What an operation answers and what can be seen afterwards, by what can be seen before. -/
def View.respond
    (systemInfo : SystemInfo)
    (view : View) : Operation → Except SessionError Answer × View
  | .start =>
      (.ok (.overview
        { grammar := view.grammar
          verdict := view.verdict
          derivationTree := view.derivationTree
          generalTree := view.generalTree
          systemInfo }), view)
  | .validateWord word =>
      match Derivation.validate view.grammar word with
      | .error error => (.error (.grammar error), view)
      | .ok verdict =>
          (.ok (.verdict verdict),
            { view with
              verdict := some verdict
              derivationTree := (Tree.ofSteps? verdict.steps).map Tree.unidentified
              generalTree := view.grammar.generalTree.toOption.map Tree.unidentified })
  | .edit edit =>
      match edit.apply [] view.grammar with
      | .error error => (.error (.grammar error), view)
      | .ok grammar => (.ok (.grammar grammar), { view with grammar })
  | .derivationTree => (.ok (.tree view.derivationTree), view)
  | .generalTree => (.ok (.tree view.generalTree), view)
  | .reset =>
      (.ok (.grammar initialGrammar),
        { grammar := initialGrammar
          verdict := none
          derivationTree := none
          generalTree := none })

/-- What operations answer in turn, by what can be seen before the first of them. -/
def View.respondAll
    (systemInfo : SystemInfo)
    (view : View) : List Operation → List (Except SessionError Answer)
  | [] => []
  | operation :: rest =>
      let response := view.respond systemInfo operation
      response.1 :: response.2.respondAll systemInfo rest

/-! ## Steps and runs -/

/-- What a validation saves can be seen to be what was found of the grammar that can be seen. -/
theorem view_saved_validation
    {state : State}
    {word : Text}
    {supply supply' : Supply}
    {records : Validation}
    (isValidation : validation (loaded state supply).1 word (loaded state supply).2 =
      .ok (records, supply')) :
    Derivation.validate (view state).grammar word = .ok records.verdict ∧
    view (records.saved state 3) =
      { view state with
        verdict := some records.verdict
        derivationTree := (Tree.ofSteps? records.verdict.steps).map Tree.unidentified
        generalTree := (view state).grammar.generalTree.toOption.map Tree.unidentified } := by
  obtain ⟨verdict, isVerdict, _⟩ := exists_of_bind_eq_ok isValidation
  obtain ⟨expansion, isExpansion, isKnown⟩ := exists_validation isVerdict (loaded state supply).2
  obtain ⟨rfl, _⟩ := Prod.mk.inj (Except.ok.inj (isKnown.symm.trans isValidation))
  rw [← Grammar.generalTree_withoutIds, withoutIds_loaded] at isExpansion
  rw [← Derivation.validate_withoutIds, withoutIds_loaded] at isVerdict
  refine ⟨isVerdict, ?_⟩
  have chain : (identifiedChain verdict (loaded state supply).2).1.map Tree.withoutIds =
      (Tree.ofSteps? verdict.steps).map Tree.unidentified := by
    rw [identifiedChain]
    cases Tree.ofSteps? verdict.steps with
    | none => rfl
    | some tree => exact congrArg some (Tree.withoutIds_identify tree _)
  simp only [view, State.withoutIds, Validation.saved, chain, Option.map_some,
    Tree.withoutIds_identify]
  simp only [view, State.withoutIds] at isExpansion
  rw [isExpansion]
  rfl

/-- Unless the medium fails, the answer and what can be seen afterwards depend on nothing but what
can be seen before. -/
theorem Transition.respond
    {systemInfo : SystemInfo}
    {state state' : State}
    {supply supply' : Supply}
    {operation : Operation}
    {answer : Except SessionError Answer}
    (transition : Transition systemInfo state supply operation answer state' supply')
    (onlyFaults : ∀ error, answer = .error error → IsFault error) :
    (answer.map Answer.withoutIds, view state') = (view state).respond systemInfo operation := by
  have applied (edit : Edit) :
      edit.apply [] (view state).grammar =
        (edit.applyTaking (loaded state supply).1 (loaded state supply).2).1.map
          Grammar.withoutIds := by
    rw [Edit.applyTaking_eq, Edit.map_withoutIds_apply, withoutIds_loaded]
  cases transition with
  | failed _ _ _ => obtain ⟨_, ⟨⟩⟩ := onlyFaults _ rfl
  | start =>
      rw [View.respond, ← withoutIds_loaded state supply]
      rfl
  | derivationTree => rfl
  | generalTree => rfl
  | editRefused isError =>
      rw [View.respond, applied, isError]
      rfl
  | edited isEdited =>
      rw [View.respond, applied, isEdited]
      rfl
  | validationRefused isError =>
      rw [← Derivation.validate_withoutIds, withoutIds_loaded] at isError
      rw [View.respond, isError]
      rfl
  | validationFailed _ _ _ _ _ => obtain ⟨_, ⟨⟩⟩ := onlyFaults _ rfl
  | validated isValidation =>
      obtain ⟨isVerdict, saved⟩ := view_saved_validation isValidation
      rw [View.respond, isVerdict, saved]
      rfl
  | resetFailed _ => obtain ⟨_, ⟨⟩⟩ := onlyFaults _ rfl
  | reset =>
      have initial := Grammar.withoutIds_initial supply (.ofSeed 0)
      simp only [View.respond, initialGrammar, ← initial]
      rfl

/-- On a medium that never fails, what is answered in turn depends on nothing but what can be seen
at first. -/
theorem anonymousAnswers_eq
    {medium : Medium σ}
    (reliable : medium.Reliable)
    {Keeps : σ → State → Prop}
    (faithful : medium.Faithful Keeps)
    (systemInfo : SystemInfo)
    (operations : List Operation)
    {world : World σ}
    {state : State}
    (keeps : Keeps world.medium state) :
    anonymousAnswers medium systemInfo world operations =
      (view state).respondAll systemInfo operations := by
  induction operations generalizing world state with
  | nil => rfl
  | cons operation operations inductionHypothesis =>
      obtain ⟨between, kept, transition, onlyFaults⟩ :=
        exists_transition_of_reliable reliable faithful keeps systemInfo operation
      have response := transition.respond onlyFaults
      rw [View.respondAll, ← response]
      exact congrArg _ (inductionHypothesis kept)

/-! ## Sessions that cannot be told apart -/

/-- States of which the same can be seen are answered from alike. -/
theorem anonymousAnswers_memory_congr
    {world world' : World State}
    (alike : view world.medium = view world'.medium)
    (systemInfo : SystemInfo)
    (operations : List Operation) :
    anonymousAnswers memory systemInfo world operations =
      anonymousAnswers memory systemInfo world' operations := by
  rw [anonymousAnswers_eq reliable_memory faithful_memory systemInfo operations rfl,
    anonymousAnswers_eq reliable_memory faithful_memory systemInfo operations rfl, alike]

/-- After a reset, no more can be seen than if nothing had ever been kept. -/
theorem view_reset (systemInfo : SystemInfo) (world : World State) :
    view ((perform memory systemInfo .reset).outcome world).2.medium = view .empty := by
  have keeps : world.medium = world.medium := rfl
  obtain ⟨_, rfl, transition, onlyFaults⟩ :=
    exists_transition_of_reliable reliable_memory faithful_memory keeps systemInfo .reset
  exact congrArg Prod.snd (transition.respond onlyFaults)

/-- Apart from identifiers, operations in memory are answered after a reset, whatever was kept
before, as they are in a first session; they are answered alike whether the initial grammar is kept
or no grammar is; and they are answered alike from states that differ in identifiers only. -/
theorem reset_like_firstStart (systemInfo : SystemInfo) (operations : List Operation) :
    (∀ used first : World State, first.medium = .empty →
      anonymousAnswers memory systemInfo ((perform memory systemInfo .reset).outcome used).2
          operations =
        anonymousAnswers memory systemInfo first operations) ∧
    (∀ (absent kept : World State) (supply : Supply),
      absent.medium.grammar = none →
      kept.medium = { absent.medium with grammar := some (Grammar.initial supply).1 } →
      anonymousAnswers memory systemInfo kept operations =
        anonymousAnswers memory systemInfo absent operations) ∧
    ∀ world world' : World State, world.medium.withoutIds = world'.medium.withoutIds →
      anonymousAnswers memory systemInfo world operations =
        anonymousAnswers memory systemInfo world' operations := by
  refine ⟨?_, ?_, ?_⟩
  · intro used first isFirst
    apply anonymousAnswers_memory_congr
    rw [view_reset, isFirst]
  · intro absent kept supply isAbsent isKept
    apply anonymousAnswers_memory_congr
    have sameGrammar := Grammar.withoutIds_initial supply (.ofSeed 0)
    simp only [view, State.withoutIds, isKept, isAbsent, Option.map_some, Option.map_none,
      Option.getD_some, Option.getD_none, initialGrammar, sameGrammar]
  · intro world world' alike
    apply anonymousAnswers_memory_congr
    rw [view, view, alike]

/-- A session whose start symbol was renamed cannot be told from a first one once it was reset. -/
theorem reset_like_firstStart_fewOperations :
    let used := performAll memory .host emptyWorld fewOperations
    let restored := ((perform memory .host .reset).outcome used).2
    let kept (seed : BitVec 128) : World State :=
      { emptyWorld with
        medium := { State.empty with grammar := some (Grammar.initial (.ofSeed seed)).1 } }
    used.medium.grammar.map Grammar.startSymbol = some "T" ∧
    anonymousAnswers memory .host restored fewOperations =
      anonymousAnswers memory .host emptyWorld fewOperations ∧
    anonymousAnswers memory .host (kept 1) fewOperations =
      anonymousAnswers memory .host emptyWorld fewOperations ∧
    anonymousAnswers memory .host (kept 1) fewOperations =
      anonymousAnswers memory .host (kept 2) fewOperations := by
  intro used restored kept
  obtain ⟨afterReset, whetherKept, whicheverIds⟩ := reset_like_firstStart .host fewOperations
  refine ⟨by decide +kernel, afterReset used emptyWorld rfl,
    whetherKept emptyWorld (kept 1) (.ofSeed 1) rfl rfl, whicheverIds (kept 1) (kept 2) ?_⟩
  have sameGrammar := Grammar.withoutIds_initial (.ofSeed 1) (.ofSeed 2)
  simp only [kept, State.withoutIds, Option.map_some, sameGrammar]

end Session
end PhraseGrammar
