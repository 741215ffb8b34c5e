import SearchBox.CommandLine
import SearchBox.Main
import SearchBox.Proofs.Completion.Defaults
import SearchBox.Proofs.Completion.Distinct
import SearchBox.Proofs.Completion.Ghost
import SearchBox.Proofs.Completion.Narrowing
import SearchBox.Proofs.Completion.Spacing
import SearchBox.Proofs.Completion.WhileTyping
import SearchBox.Proofs.Decimal.Laws
import SearchBox.Proofs.Editor.Acceptance
import SearchBox.Proofs.Editor.Timeline
import SearchBox.Proofs.Editor.Unchanged
import SearchBox.Proofs.Grammar.Defects
import SearchBox.Proofs.Grammar.Extension
import SearchBox.Proofs.Grammar.Precedence
import SearchBox.Proofs.Grammar.Registrations
import SearchBox.Proofs.Grammar.Reordering
import SearchBox.Proofs.IssueGrammar.Examples
import SearchBox.Proofs.IssueGrammar.Spans
import SearchBox.Proofs.IssueGrammar.Timestamps
import SearchBox.Proofs.IssueGrammar.Types
import SearchBox.Proofs.Phrase.SlotGrammar
import SearchBox.Proofs.Predicate.Keywords
import SearchBox.Proofs.Predicate.Locations
import SearchBox.Proofs.Script
import SearchBox.Proofs.Text.Collapsed
import SearchBox.Proofs.Text.Decomposition
import SearchBox.Proofs.Token.Backtracking
import SearchBox.Summary
import SearchBox.Token.CursorStep
