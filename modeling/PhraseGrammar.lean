import PhraseGrammar.CommandLine.Arguments
import PhraseGrammar.CommandLine.Command
import PhraseGrammar.CommandLine.Run
import PhraseGrammar.Decimal.Binary64
import PhraseGrammar.Decimal.Shortest
import PhraseGrammar.Derivation.Run
import PhraseGrammar.Derivation.Step
import PhraseGrammar.Derivation.Validate
import PhraseGrammar.Document.Read
import PhraseGrammar.Document.Schema
import PhraseGrammar.Document.State
import PhraseGrammar.Document.Stored
import PhraseGrammar.File.Directory
import PhraseGrammar.File.Error
import PhraseGrammar.File.Slot
import PhraseGrammar.Grammar.Basic
import PhraseGrammar.Grammar.Edit
import PhraseGrammar.Grammar.Error
import PhraseGrammar.Grammar.WellFormed
import PhraseGrammar.Ident
import PhraseGrammar.Json.Fault
import PhraseGrammar.Json.Lexeme
import PhraseGrammar.Json.Node
import PhraseGrammar.Json.Number
import PhraseGrammar.Json.Value
import PhraseGrammar.Location
import PhraseGrammar.Log
import PhraseGrammar.Main
import PhraseGrammar.Session.Basic
import PhraseGrammar.Session.Error
import PhraseGrammar.Session.Operation
import PhraseGrammar.Store.Action
import PhraseGrammar.Store.Error
import PhraseGrammar.Store.Medium
import PhraseGrammar.Store.Operation
import PhraseGrammar.Store.Records
import PhraseGrammar.SystemInfo
import PhraseGrammar.Text.Basic
import PhraseGrammar.Text.Blank
import PhraseGrammar.Text.Hidden
import PhraseGrammar.Text.Occurrence
import PhraseGrammar.Text.Quoted
import PhraseGrammar.Tree.Basic
import PhraseGrammar.Tree.Chain
import PhraseGrammar.Tree.Expansion
import PhraseGrammar.Tree.Render
import PhraseGrammar.Proofs.Derivation.Rewriting
import PhraseGrammar.Proofs.Derivation.Run
import PhraseGrammar.Proofs.Derivation.Soundness
import PhraseGrammar.Proofs.Derivation.Outcome
import PhraseGrammar.Proofs.Derivation.Confluence
import PhraseGrammar.Proofs.Derivation.Extension
import PhraseGrammar.Proofs.Derivation.Correspondence
import PhraseGrammar.Proofs.Derivation.Shadowing
import PhraseGrammar.Proofs.Derivation.Growth
import PhraseGrammar.Proofs.Json.Lexeme
import PhraseGrammar.Proofs.Json.Shown
import PhraseGrammar.Proofs.Document.Nesting
import PhraseGrammar.Proofs.Document.Matching
import PhraseGrammar.Proofs.Document.Fitting
import PhraseGrammar.Proofs.Document.Records
import PhraseGrammar.Proofs.Document.State
import PhraseGrammar.Proofs.Document.Isolation
import PhraseGrammar.Proofs.Document.RoundTrip
import PhraseGrammar.Proofs.Store.File
import PhraseGrammar.Proofs.Store.Agreement
import PhraseGrammar.Proofs.Store.Faithful
import PhraseGrammar.Proofs.Tree.Levels
import PhraseGrammar.Proofs.Tree.Expansion
import PhraseGrammar.Proofs.Ident
import PhraseGrammar.Proofs.Supply
import PhraseGrammar.Proofs.Grammar.Validity
import PhraseGrammar.Proofs.Grammar.Allowed
import PhraseGrammar.Proofs.Grammar.Renaming
import PhraseGrammar.Proofs.Grammar.Alphabet
import PhraseGrammar.Proofs.Grammar.Anonymity
import PhraseGrammar.Proofs.Grammar.Transcription
import PhraseGrammar.Proofs.Grammar.Identifiers
import PhraseGrammar.Proofs.Session.Running
import PhraseGrammar.Proofs.Session.Readability
import PhraseGrammar.Proofs.Session.Transition
import PhraseGrammar.Proofs.Session.Reliable
import PhraseGrammar.Proofs.Session.Anonymity
import PhraseGrammar.Proofs.Session.Coherence
import PhraseGrammar.Proofs.Session.Failure
import PhraseGrammar.Proofs.Session.Reachable
import PhraseGrammar.Proofs.CommandLine.Output
import PhraseGrammar.Proofs.Derivation.FirstMatch
import PhraseGrammar.Proofs.Tree.Drawing
import PhraseGrammar.Proofs.Tree.Embedding
import PhraseGrammar.Proofs.CommandLine.Arguments
