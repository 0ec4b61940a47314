import Mathlib.Logic.Equiv.Set
import PhraseGrammar.Proofs.Derivation.Correspondence
import PhraseGrammar.Proofs.Grammar.Anonymity

/-!
# Grammars in another script

Characters are compared with one another and asked whether they are white space; nothing else is
ever done with them. So a grammar may be written in another script, with one character for another
throughout: as long as white space is written as white space, every word has the same verdict and
the general tree is the same, in the other script. Nor does it matter which identifiers the entries
have.

The script is a function on characters. Most of what follows asks only that it tells different
characters apart and leaves white space what it is; the main statement is about bijections.
-/

namespace PhraseGrammar

/-! ## Texts -/

namespace Text

section Script

variable {script : Char → Char}

section Injective

variable (injective : Function.Injective script)

include injective

theorem remainder?_map (front text : Text) :
    remainder? (front.map script) (text.map script) =
      (remainder? front text).map (List.map script) := by
  induction front generalizing text with
  | nil => rfl
  | cons f front inductionHypothesis =>
      cases text with
      | nil => rfl
      | cons c text =>
          simp only [List.map_cons, remainder?, injective.eq_iff]
          split
          next => exact inductionHypothesis text
          next => rfl

/-- Texts are cut at the same place in every script. -/
theorem splitFirst?_map (pattern text : Text) :
    splitFirst? (pattern.map script) (text.map script) =
      (splitFirst? pattern text).map (Prod.map (List.map script) (List.map script)) := by
  induction text with
  | nil =>
      rw [List.map_nil, splitFirst?, splitFirst?, ← List.map_nil, remainder?_map injective,
        Option.map_map, Option.map_map]
      rfl
  | cons c text inductionHypothesis =>
      rw [List.map_cons, splitFirst?, splitFirst?, ← List.map_cons, remainder?_map injective]
      cases remainder? pattern (c :: text) with
      | some after => rfl
      | none =>
          rw [Option.map_none, inductionHypothesis]
          simp only [Option.map_map]
          rfl

theorem replaceFirst?_map (pattern replacement text : Text) :
    replaceFirst? (pattern.map script) (replacement.map script) (text.map script) =
      (replaceFirst? pattern replacement text).map (List.map script) := by
  rw [replaceFirst?, replaceFirst?, splitFirst?_map injective]
  cases splitFirst? pattern text with
  | none => rfl
  | some cut => simp

end Injective

theorem isBlank_map
    (keepsWhiteSpace : ∀ c, isWhiteSpace (script c) = isWhiteSpace c)
    (text : Text) :
    isBlank (text.map script) = isBlank text := by
  rw [isBlank, isBlank, List.all_map]
  exact congrArg text.all (funext keepsWhiteSpace)

end Script

/-- The white space among the characters. -/
def whiteSpace : Set Char := { c | isWhiteSpace c = true }

theorem mem_whiteSpace_iff (c : Char) : c ∈ whiteSpace ↔ isWhiteSpace c = true := Iff.rfl

/-- A bijection that takes white space onto white space leaves white space and everything else what
it is. -/
theorem isWhiteSpace_of_image_eq
    {script : Char ≃ Char}
    (ontoWhiteSpace : script '' whiteSpace = whiteSpace)
    (c : Char) :
    isWhiteSpace (script c) = isWhiteSpace c := by
  have isImage : script c ∈ script '' whiteSpace ↔ c ∈ whiteSpace :=
    script.injective.mem_set_image
  rw [ontoWhiteSpace] at isImage
  exact Bool.eq_iff_iff.mpr isImage

/-- Two characters may change places if both are white space, or neither. -/
theorem image_swap_whiteSpace {first second : Char}
    (alike : isWhiteSpace first = isWhiteSpace second) :
    Equiv.swap first second '' whiteSpace = whiteSpace := by
  ext c
  rw [Equiv.image_eq_preimage_symm, Equiv.symm_swap, Set.mem_preimage, Equiv.swap_apply_def]
  split
  next isFirst => rw [isFirst, mem_whiteSpace_iff, mem_whiteSpace_iff, alike]
  next =>
    split
    next isSecond => rw [isSecond, mem_whiteSpace_iff, mem_whiteSpace_iff, alike]
    next => rfl

end Text

/-! ## Grammars -/

/-- The symbol in another script. -/
def Symbol.transcribe (script : Char → Char) (symbol : Symbol) : Symbol :=
  { symbol with value := symbol.value.map script }

/-- The production in another script. -/
def Production.transcribe (script : Char → Char) (production : Production) : Production :=
  { production with
    left := production.left.map script
    right := production.right.map script }

/-- The grammar in another script. -/
def Grammar.transcribe (script : Char → Char) (grammar : Grammar) : Grammar where
  terminals := grammar.terminals.map (Symbol.transcribe script)
  nonTerminals := grammar.nonTerminals.map (Symbol.transcribe script)
  startSymbol := grammar.startSymbol.map script
  productions := grammar.productions.map (Production.transcribe script)

section Fields

variable (script : Char → Char) (production : Production) (grammar : Grammar)

@[simp] theorem Production.left_transcribe :
    (production.transcribe script).left = production.left.map script := rfl

@[simp] theorem Production.right_transcribe :
    (production.transcribe script).right = production.right.map script := rfl

@[simp] theorem Grammar.terminals_transcribe :
    (grammar.transcribe script).terminals = grammar.terminals.map (Symbol.transcribe script) := rfl

@[simp] theorem Grammar.nonTerminals_transcribe :
    (grammar.transcribe script).nonTerminals =
      grammar.nonTerminals.map (Symbol.transcribe script) := rfl

@[simp] theorem Grammar.startSymbol_transcribe :
    (grammar.transcribe script).startSymbol = grammar.startSymbol.map script := rfl

@[simp] theorem Grammar.productions_transcribe :
    (grammar.transcribe script).productions =
      grammar.productions.map (Production.transcribe script) := rfl

end Fields

section Script

variable {script : Char → Char} (injective : Function.Injective script)

include injective

theorem Production.applyFirst?_transcribe (production : Production) (form : Text) :
    (production.transcribe script).applyFirst? (form.map script) =
      (production.applyFirst? form).map (List.map script) :=
  Text.replaceFirst?_map injective production.left production.right form

namespace Grammar

theorem isNonTerminal_transcribe (grammar : Grammar) (value : Text) :
    (grammar.transcribe script).isNonTerminal (value.map script) = grammar.isNonTerminal value := by
  simp only [isNonTerminal, transcribe, List.any_map, Function.comp_def, Symbol.transcribe,
    Bool.beq_eq_decide_eq, injective.list_map.eq_iff]

/-- The steps of a grammar are those of the other script. -/
theorem step?_transcribe (grammar : Grammar) (form : Text) :
    (grammar.transcribe script).step? (form.map script) =
      (grammar.step? form).map (List.map script) := by
  rw [step?, step?, transcribe, List.findSome?_map, List.map_findSome?]
  apply congrArg (List.findSome? · grammar.productions)
  funext production
  exact production.applyFirst?_transcribe injective form

/-- A nonterminal expands to the same trees in the other script. -/
theorem expand_transcribe (grammar : Grammar) (levels : Nat) (symbol : Text) :
    (grammar.transcribe script).expand levels (symbol.map script) =
      (grammar.expand levels symbol).map (Tree.map (List.map script)) := by
  induction levels generalizing symbol with
  | zero => rfl
  | succ levels inductionHypothesis =>
      have sameLeft (production : Production) :
          ((production.transcribe script).left == symbol.map script) =
            (production.left == symbol) := by
        simp only [Production.transcribe, Bool.beq_eq_decide_eq, injective.list_map.eq_iff]
      have sameBelow (c : Char) :
          (if (grammar.transcribe script).isNonTerminal [script c] then
            (grammar.transcribe script).expand levels [script c] else []) =
          (if grammar.isNonTerminal [c] then grammar.expand levels [c] else []).map
            (Tree.map (List.map script)) := by
        have sameClass := isNonTerminal_transcribe injective grammar [c]
        have sameTrees := inductionHypothesis [c]
        rw [List.map_singleton] at sameClass sameTrees
        rw [sameClass, sameTrees]
        split <;> rfl
      rw [expand, expand, productions_transcribe, List.filter_map, List.map_map, List.map_map]
      simp only [Function.comp_def, sameLeft, Tree.map_node, Production.right_transcribe,
        List.flatMap_map, List.map_flatMap, sameBelow]

section KeepsWhiteSpace

variable (keepsWhiteSpace : ∀ c, Text.isWhiteSpace (script c) = Text.isWhiteSpace c)

include keepsWhiteSpace

theorem sound_transcribe_iff (grammar : Grammar) (production : Production) :
    (production.transcribe script).Sound (grammar.transcribe script) ↔
      production.Sound grammar := by
  rw [Production.Sound, Production.Sound, Production.left_transcribe, Production.right_transcribe,
    isNonTerminal_transcribe injective, Text.isBlank_map keepsWhiteSpace]

theorem wellFormed_transcribe_iff (grammar : Grammar) :
    (grammar.transcribe script).WellFormed ↔ grammar.WellFormed := by
  simp [wellFormed_iff, isNonTerminal_transcribe injective,
    sound_transcribe_iff injective keepsWhiteSpace]

/-- The general tree in the other script. -/
theorem generalTree_transcribe (grammar : Grammar) :
    (grammar.transcribe script).generalTree =
      grammar.generalTree.map (Tree.map (List.map script)) := by
  have sameGate := wellFormed_transcribe_iff injective keepsWhiteSpace grammar
  rw [generalTree, generalTree, verify, verify]
  simp only [sameGate, startSymbol_transcribe, expand_transcribe injective]
  split
  next => exact congrArg Except.ok (Tree.map_node ..).symm
  next => rfl

/-- A grammar runs in step with itself in the other script. -/
theorem corresponds_transcribe (grammar : Grammar) :
    Derivation.Corresponds (List.map script) grammar (grammar.transcribe script) where
  injective := injective.list_map
  length_eq _ := List.length_map ..
  wellFormed_iff := wellFormed_transcribe_iff injective keepsWhiteSpace grammar
  start_eq := rfl
  step?_eq := step?_transcribe injective grammar

end KeepsWhiteSpace
end Grammar
end Script

namespace Grammar

/-- Let a bijection take white space onto white space, and let a grammar be written in the script
that it gives, under any identifiers. Then every word, written in that script too, has the same
verdict with all forms so written, or fails with the same error; and the general tree is the same
with all labels so written. -/
theorem analyses_transcribed
    (script : Char ≃ Char)
    (ontoWhiteSpace : script '' Text.whiteSpace = Text.whiteSpace)
    (grammar transcribed : Grammar)
    (agrees : transcribed.withoutIds = (grammar.transcribe script).withoutIds) :
    (∀ word, Derivation.validate transcribed (word.map script) =
      (Derivation.validate grammar word).map (Verdict.mapForms (List.map script))) ∧
    transcribed.generalTree = grammar.generalTree.map (Tree.map (List.map script)) := by
  have keepsWhiteSpace := Text.isWhiteSpace_of_image_eq ontoWhiteSpace
  constructor
  · intro word
    rw [← Derivation.validate_withoutIds, agrees, Derivation.validate_withoutIds]
    exact (corresponds_transcribe script.injective keepsWhiteSpace grammar).validate_eq word
  · rw [← generalTree_withoutIds, agrees, generalTree_withoutIds]
    exact generalTree_transcribe script.injective keepsWhiteSpace grammar

/-- Another letter for `S` and the wide space for the plain one, with other identifiers. -/
theorem analyses_transcribed_wideSpace :
    let script : Char ≃ Char := (Equiv.swap 'S' '語').trans (Equiv.swap ' ' '\u3000')
    let grammar : Grammar :=
      { terminals := [{ id := "t", value := "a" }]
        nonTerminals := [{ id := "n", value := "S" }]
        startSymbol := "S"
        productions := [{ id := "p", left := "S", right := "a S" }] }
    let transcribed : Grammar :=
      { terminals := [{ id := "t2", value := "a" }]
        nonTerminals := [{ id := "n2", value := "語" }]
        startSymbol := "語"
        productions := [{ id := "p2", left := "語", right := "a\u3000語" }] }
    let given : Verdict :=
      { accepted := true, steps := [⟨"語", 0⟩, ⟨"a\u3000語", 1⟩], finalForm := "a\u3000語" }
    script '' Text.whiteSpace = Text.whiteSpace ∧
      transcribed.withoutIds = (grammar.transcribe script).withoutIds ∧
      Derivation.validate transcribed "a\u3000語" = .ok given ∧
      transcribed.generalTree =
        .ok (.node "語" [.node "a\u3000語" [.node "a\u3000語" [.node "a\u3000語" []]]]) := by
  intro script grammar transcribed given
  have ontoWhiteSpace : script '' Text.whiteSpace = Text.whiteSpace := by
    rw [Equiv.coe_trans, Set.image_comp, Text.image_swap_whiteSpace (by decide),
      Text.image_swap_whiteSpace (by decide)]
  have agrees : transcribed.withoutIds = (grammar.transcribe script).withoutIds := by decide
  obtain ⟨sameVerdicts, sameTree⟩ :=
    analyses_transcribed script ontoWhiteSpace grammar transcribed agrees
  have translated : "a S".toList.map script = "a\u3000語".toList := by decide
  have validated : (Derivation.validate grammar "a S").map (Verdict.mapForms (List.map script)) =
      .ok given := by decide
  refine ⟨ontoWhiteSpace, agrees, ?_, sameTree⟩
  rw [← validated, ← sameVerdicts, translated]

end Grammar
end PhraseGrammar
