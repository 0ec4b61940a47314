import PhraseGrammar.Proofs.Session.Anonymity
import PhraseGrammar.Proofs.Session.Readability

/-!
# The records of a validation tell the same story

A validation saves its three records one after another, and an edit changes the grammar without
touching them. Still, as long as nothing fails, they are there together or not at all, and they tell
of the same derivation. What they need not agree with is the grammar that is kept; but right after a
validation they do.
-/

namespace PhraseGrammar

/-! ## Chains -/

/-- The tree is a chain of the labels: each node but the last has exactly one child. -/
inductive Tree.IsChain : Tree α → List α → Prop
  | last (label : α) : IsChain (node label []) [label]
  | above (label : α)
      {tree : Tree α}
      {labels : List α}
      (isChain : IsChain tree labels) :
      IsChain (node label [tree]) (label :: labels)

theorem Tree.isChain_chain (first : α) (rest : List α) :
    (chain first rest).IsChain (first :: rest) := by
  induction rest generalizing first with
  | nil => exact .last first
  | cons second rest inductionHypothesis => exact .above first (inductionHypothesis second)

theorem Tree.root_labels (tree : LabelledTree) : tree.labels.root = tree.root.label := by
  cases tree with
  | node root children => rw [labels, map_node, root_node, root_node]

/-- The general tree starts from the start symbol. -/
theorem Grammar.root_of_generalTree
    {grammar : Grammar}
    {tree : Tree Text}
    (isTree : grammar.generalTree = .ok tree) :
    tree.root = grammar.startSymbol := by
  obtain ⟨_, _, isNode⟩ := exists_of_bind_eq_ok isTree
  rw [← Except.ok.inj isNode, Tree.root_node]

/-! ## Coherent records -/

namespace Session

open Medium PhraseGrammar.Action Store

/-- The trees tell of the derivation that the verdict tells of: its steps are numbered from zero,
the last of them leads to the final form, the derivation tree is the chain of its forms, and the
general tree starts where the derivation does. -/
structure Tells
    (verdict : Verdict)
    (derivationTree generalTree : LabelledTree) : Prop where
  places : verdict.steps.map (·.place.toNat) = List.range verdict.steps.length
  final : (verdict.steps.map DerivationStep.form).getLast? = some verdict.finalForm
  chain : derivationTree.labels.IsChain (verdict.steps.map DerivationStep.form)
  start : (verdict.steps.map DerivationStep.form).head? = some generalTree.root.label

/-- The records of a validation are all absent, or all present and telling the same. -/
inductive Coherent (state : State) : Prop
  | absent
      (noVerdict : state.verdict = none)
      (noDerivationTree : state.derivationTree = none)
      (noGeneralTree : state.generalTree = none)
  | present
      {verdict : Verdict}
      {derivationTree generalTree : LabelledTree}
      (isVerdict : state.verdict = some verdict)
      (isDerivationTree : state.derivationTree = some derivationTree)
      (isGeneralTree : state.generalTree = some generalTree)
      (tells : Tells verdict derivationTree generalTree)

/-- Coherence does not depend on the grammar. -/
theorem Coherent.of_sameRecords
    {state state' : State}
    (coherent : Coherent state)
    (sameVerdict : state'.verdict = state.verdict)
    (sameDerivationTree : state'.derivationTree = state.derivationTree)
    (sameGeneralTree : state'.generalTree = state.generalTree) :
    Coherent state' := by
  cases coherent with
  | absent noVerdict noDerivationTree noGeneralTree =>
      exact .absent (sameVerdict.trans noVerdict) (sameDerivationTree.trans noDerivationTree)
        (sameGeneralTree.trans noGeneralTree)
  | present isVerdict isDerivationTree isGeneralTree tells =>
      exact .present (sameVerdict.trans isVerdict) (sameDerivationTree.trans isDerivationTree)
        (sameGeneralTree.trans isGeneralTree) tells

theorem coherent_empty : Coherent .empty := .absent rfl rfl rfl

/-! ## What a validation has to save -/

/-- What a validation has to save is the verdict on the word, a derivation tree that tells the same,
and the general tree of the grammar. -/
theorem exists_tells_of_validation
    {grammar : Grammar}
    {word : Text}
    {supply supply' : Supply}
    {records : Validation}
    (isValidation : validation grammar word supply = .ok (records, supply')) :
    ∃ derivationTree, records.derivationTree = some derivationTree ∧
      Tells records.verdict derivationTree records.generalTree ∧
      grammar.generalTree = .ok records.generalTree.labels := by
  obtain ⟨verdict, isVerdict, _⟩ := exists_of_bind_eq_ok isValidation
  obtain ⟨expansion, isExpansion, isKnown⟩ := exists_validation isVerdict supply
  obtain ⟨rfl, _⟩ := Prod.mk.inj (Except.ok.inj (isKnown.symm.trans isValidation))
  obtain ⟨_, inTime, rfl⟩ := (Derivation.validate_eq_ok_iff _ _ _).mp isVerdict
  have forms := Derivation.forms_verdict grammar.startSymbol (Derivation.search grammar word)
  obtain ⟨derivationTree, isTree, labels⟩ := exists_labels_identifiedChain forms supply
  have generalLabels := Tree.labels_identify expansion
  refine ⟨derivationTree, isTree, ?_, isExpansion.trans (by rw [generalLabels])⟩
  refine { places := ?_, final := ?_, chain := ?_, start := ?_ }
  · apply (Derivation.places_numbered _).trans
    · simp
    · have atMost := (Derivation.search grammar word).length_forms_le_rounds
      have limit : Derivation.roundLimit = 100 := rfl
      have size : 101 ≤ UInt64.size := by decide
      simp only [List.length_cons]
      omega
  · rw [forms]
    exact Derivation.getLast?_forms_verdict _ _
  · rw [labels, forms]
    exact Tree.isChain_chain _ _
  · rw [forms, ← Tree.root_labels, generalLabels, Grammar.root_of_generalTree isExpansion]
    rfl

/-! ## Operations in turn -/

/-- An operation that is not cut short keeps the records coherent. -/
theorem Transition.keepsCoherent
    {systemInfo : SystemInfo}
    {state state' : State}
    {supply supply' : Supply}
    {operation : Operation}
    {answer : Except SessionError Answer}
    (transition : Transition systemInfo state supply operation answer state' supply')
    (onlyFaults : ∀ error, answer = .error error → IsFault error)
    (coherent : Coherent state) :
    Coherent state' := by
  cases transition with
  | failed _ _ _ => exact coherent
  | edited _ => exact coherent.of_sameRecords rfl rfl rfl
  | validationFailed _ _ _ _ _ => obtain ⟨_, ⟨⟩⟩ := onlyFaults _ rfl
  | validated isValidation =>
      obtain ⟨_, isTree, tells, _⟩ := exists_tells_of_validation isValidation
      exact .present rfl isTree rfl tells
  | resetFailed _ => exact coherent_empty
  | reset => exact coherent_empty.of_sameRecords rfl rfl rfl
  | _ => exact coherent

theorem exists_coherent_performAll
    {medium : Medium σ}
    (reliable : medium.Reliable)
    {Keeps : σ → State → Prop}
    (faithful : medium.Faithful Keeps)
    (systemInfo : SystemInfo)
    (operations : List Operation)
    {world : World σ}
    {state : State}
    (keeps : Keeps world.medium state)
    (coherent : Coherent state) :
    ∃ state', Keeps (performAll medium systemInfo world operations).medium state' ∧
      Coherent state' := by
  let KeepsCoherent (between : World σ) : Prop :=
    ∃ state', Keeps between.medium state' ∧ Coherent state'
  refine afterAll_invariant KeepsCoherent ⟨state, keeps, coherent⟩ ?_ operations
  rintro operation between ⟨kept, isKept, stillCoherent⟩
  obtain ⟨next, isNext, transition, onlyFaults⟩ :=
    exists_transition_of_reliable reliable faithful isKept systemInfo operation
  exact ⟨next, isNext, transition.keepsCoherent onlyFaults stillCoherent⟩

/-! ## Right after a validation -/

/-- What is loaded right after a validation: the verdict that was answered, trees that tell the
same, and of these the second is the general tree of the grammar. -/
structure Fresh (medium : Medium σ) (verdict : Verdict) (world : World σ) : Prop where
  answered : ((loadVerdict medium).outcome world).1 = .ok (some verdict)
  trees : ∃ derivationTree generalTree,
    ((loadDerivationTree medium).outcome world).1 = .ok (some derivationTree) ∧
    ((loadGeneralTree medium).outcome world).1 = .ok (some generalTree) ∧
    Tells verdict derivationTree generalTree ∧
    ∃ grammar, ((loadGrammar medium).outcome world).1 = .ok grammar ∧
      grammar.generalTree = .ok generalTree.labels

/-- The records of a validation are fresh wherever they can be read. -/
theorem fresh_of_reads
    {medium : Medium σ}
    {world : World σ}
    {between : Setting σ}
    {state : State}
    {word : Text}
    {supply supply' : Supply}
    {records : Validation}
    (isValidation : validation (loaded state supply).1 word (loaded state supply).2 =
      .ok (records, supply'))
    (reads : (Store.read medium).Runs world.setting (.ok (records.saved state 3)) between) :
    Fresh medium records.verdict world := by
  obtain ⟨derivationTree, isTree, tells, isGeneralTree⟩ := exists_tells_of_validation isValidation
  have savedTree : (records.saved state 3).derivationTree = some derivationTree := isTree
  refine ⟨(runs_loadRecord_of_reads reads State.verdict).outcome.1, derivationTree,
    records.generalTree, ?_, (runs_loadRecord_of_reads reads State.generalTree).outcome.1, tells,
    _, (runs_loadGrammar_of_reads reads).outcome.1, ?_⟩
  · rw [← savedTree]
    exact (runs_loadRecord_of_reads reads State.derivationTree).outcome.1
  -- Meanwhile the initial grammar may have taken other identifiers.
  have sameView : (view (records.saved state 3)).grammar = (view state).grammar := by
    rw [view, State.withoutIds, Validation.grammar_saved]
    rfl
  rw [← Grammar.generalTree_withoutIds, withoutIds_loaded, sameView,
    ← withoutIds_loaded state supply, Grammar.generalTree_withoutIds, isGeneralTree]

/-- If the medium can be read after a validation that has answered, the records are fresh. -/
theorem fresh_of_answered
    {medium : Medium σ}
    {Keeps : σ → State → Prop}
    (faithful : medium.Faithful Keeps)
    {world : World σ}
    {state found : State}
    (keeps : Keeps world.medium state)
    {word : Text}
    {verdict : Verdict} :
    let outcome := (validateWord medium word).outcome world
    outcome.1 = .ok verdict → (medium.read outcome.2.medium).1.result = .ok found →
      Fresh medium verdict outcome.2 := by
  intro outcome answered isRead
  obtain ⟨state', kept, transition⟩ :=
    exists_transition faithful keeps .host (.validateWord word)
  rw [perform, outcome_map] at kept transition
  obtain rfl := faithful.eq_of_read kept isRead
  simp only [outcome] at answered
  rw [answered] at transition
  cases transition with
  | validated isValidation =>
      apply fresh_of_reads isValidation
      rw [← isRead]
      exact .onMedium medium.read

/-- On a medium that never fails, a validation that has a verdict answers it. -/
theorem answered_of_validate
    {medium : Medium σ}
    (reliable : medium.Reliable)
    {Keeps : σ → State → Prop}
    (faithful : medium.Faithful Keeps)
    {world : World σ}
    {state : State}
    (keeps : Keeps world.medium state)
    {word : Text}
    {verdict : Verdict}
    (isVerdict : Derivation.validate (loaded state world.supply).1 word = .ok verdict) :
    ((validateWord medium word).outcome world).1 = .ok verdict := by
  obtain ⟨state', _, transition, onlyFaults⟩ :=
    exists_transition_of_reliable reliable faithful keeps .host (.validateWord word)
  rw [perform, outcome_map] at transition onlyFaults
  generalize (validateWord medium word).outcome world = outcome at *
  obtain ⟨answer | answer, medium', supply', log'⟩ := outcome
  · obtain ⟨_, rfl⟩ := onlyFaults _ rfl
    cases transition with
    | validationRefused isError => exact nomatch isError.symm.trans isVerdict
  · cases transition with
    | validated isValidation =>
        obtain ⟨found, isFound, _⟩ := exists_of_bind_eq_ok isValidation
        obtain ⟨_, _, isKnown⟩ := exists_validation isFound (loaded state world.supply).2
        obtain ⟨rfl, _⟩ := Prod.mk.inj (Except.ok.inj (isKnown.symm.trans isValidation))
        rw [Except.ok.inj (isFound.symm.trans isVerdict)]

/-- A validation that has a verdict to save fails if the file must not be written. -/
theorem runs_validateWord_refused
    {path : Text}
    {slot : Slot}
    {supply : Supply}
    {state : State}
    (isRead : (readSlot path slot).result = .ok state)
    {refusal : FileError}
    (isRefused : slot.refusal = some refusal)
    {word : Text}
    {verdict : Verdict}
    (isVerdict : Derivation.validate (loaded state supply).1 word = .ok verdict) :
    let failure : StoreFailure := { location := .whole path, error := .file refusal }
    (validateWord (file path) word).Runs ⟨slot, supply⟩
      (.error (.failure .validateWord failure.message)) ⟨slot, (loaded state supply).2⟩ := by
  apply Runs.attempt
  apply ((runs_loadGrammar isRead).stored _).bind
  apply (Runs.noteAll _).bind
  apply (Runs.ruled_ok isVerdict).bind
  exact ((runs_update_refused isRead isRefused _).stored _).bind_error _

/-- If a validation has answered, its file could be read before, and can be read again. -/
theorem readable_of_answered
    {path : Text}
    {world : World Slot}
    {word : Text}
    {verdict : Verdict} :
    let outcome := (validateWord (file path) word).outcome world
    outcome.1 = .ok verdict → Readable path world.medium ∧ Readable path outcome.2.medium := by
  intro outcome answered
  -- Whatever else may have happened, there would have been no answer.
  have ends {answer : Except SessionError Verdict} {after : Setting Slot}
      (runs : (validateWord (file path) word).Runs world.setting answer after) :
      answer = .ok verdict :=
    runs.outcome.1.symm.trans answered
  cases isRead : (readSlot path world.medium).result with
  | error failure => exact nomatch ends ((runs_reading_error isRead _).failing .validateWord _)
  | ok state =>
      cases isVerdict : Derivation.validate (loaded state world.supply).1 word with
      | error error => exact nomatch ends (runs_validateWord_error isRead isVerdict)
      | ok found =>
          cases writable : world.medium.refusal with
          | some refusal => exact nomatch ends (runs_validateWord_refused isRead writable isVerdict)
          | none =>
              obtain ⟨_, _, _, few, many⟩ := exists_runs_validateWord isRead writable isVerdict
              rcases Nat.lt_or_ge levelLimit found.steps.length with isMany | isFew
              · obtain ⟨_, _, _, fails⟩ := many isMany
                exact nomatch ends fails
              · obtain ⟨shallow, runs⟩ := few isFew
                have isHeld : outcome.2.medium = _ := runs.medium_eq
                exact ⟨⟨state, isRead⟩, isHeld ▸ (readable_holding_iff path _).mpr shallow⟩

/-! ## Whole sessions -/

/-- In a session in memory that begins with nothing, the records of the last validation are coherent
after any operations. And whenever a validation answers, in memory or over a file, whatever was kept
before, the records that are loaded right afterwards are fresh. -/
theorem records_coherent :
    (∀ (systemInfo : SystemInfo) (operations : List Operation) (world : World State),
      world.medium = .empty →
      Coherent (performAll memory systemInfo world operations).medium) ∧
    (∀ (word : Text) (world : World State) (verdict : Verdict),
      let outcome := (validateWord memory word).outcome world
      outcome.1 = .ok verdict → Fresh memory verdict outcome.2) ∧
    ∀ (path word : Text) (world : World Slot) (verdict : Verdict),
      let outcome := (validateWord (file path) word).outcome world
      outcome.1 = .ok verdict → Fresh (file path) verdict outcome.2 := by
  refine ⟨?_, ?_, ?_⟩
  · intro systemInfo operations world isEmpty
    obtain ⟨_, rfl, coherent⟩ :=
      exists_coherent_performAll reliable_memory faithful_memory systemInfo operations isEmpty
        coherent_empty
    exact coherent
  · intro word world verdict outcome answered
    exact fresh_of_answered faithful_memory rfl answered rfl
  · intro path word world verdict outcome answered
    obtain ⟨⟨_, isRead⟩, ⟨_, isReadAfter⟩⟩ := readable_of_answered answered
    exact fresh_of_answered (faithful_file path) (.inl isRead) answered isReadAfter

/-- A world in which there is no file yet. -/
def vacantWorld : World Slot where
  medium := .vacant
  supply := .ofSeed 0
  log := []

/-- The verdict that accepts `abab` from the initial grammar. -/
def acceptingVerdict : Verdict where
  accepted := true
  steps := [⟨"S", 0⟩, ⟨"aA", 1⟩, ⟨"abB", 2⟩, ⟨"abab", 3⟩]
  finalForm := "abab"

theorem validate_initial_abab :
    Derivation.validate (Grammar.initial (.ofSeed 0)).1 "abab" = .ok acceptingVerdict := by
  decide +kernel

/-- A first validation over a missing file answers. -/
theorem answered_vacant (path : Text) :
    ((validateWord (file path) "abab").outcome vacantWorld).1 = .ok acceptingVerdict := by
  have isRead : (readSlot path vacantWorld.medium).result = .ok .empty := rfl
  obtain ⟨_, _, _, few, _⟩ := exists_runs_validateWord isRead rfl validate_initial_abab
  obtain ⟨_, runs⟩ := few (by decide)
  exact runs.outcome.1

/-- After a few operations in memory the records are there; and a first validation accepts its word,
in memory and over a missing file. -/
theorem records_coherent_fewOperations :
    let reached := performAll memory .host emptyWorld fewOperations
    let inMemory := (validateWord memory "abab").outcome emptyWorld
    let inFile := (validateWord (file "state.json") "abab").outcome vacantWorld
    reached.medium.generalTree.isSome = true ∧ Coherent reached.medium ∧
    inMemory.1 = .ok acceptingVerdict ∧ Fresh memory acceptingVerdict inMemory.2 ∧
    inFile.1 = .ok acceptingVerdict ∧ Fresh (file "state.json") acceptingVerdict inFile.2 := by
  intro reached inMemory inFile
  obtain ⟨coherent, freshInMemory, freshInFile⟩ := records_coherent
  have answeredInMemory : inMemory.1 = .ok acceptingVerdict :=
    answered_of_validate reliable_memory faithful_memory rfl validate_initial_abab
  exact ⟨by decide +kernel, coherent .host fewOperations emptyWorld rfl, answeredInMemory,
    freshInMemory "abab" emptyWorld acceptingVerdict answeredInMemory, answered_vacant "state.json",
    freshInFile "state.json" "abab" vacantWorld acceptingVerdict (answered_vacant "state.json")⟩

end Session
end PhraseGrammar
