import CalcScript.Text.Position
import CalcScript.Text.Slice
import CalcScript.Text.Span
import CalcScript.Text.Reader
import CalcScript.Text.Lines
import CalcScript.Text.Cased
import CalcScript.Text.Quoted
import CalcScript.Number.Binary64
import CalcScript.Number.Decimal
import CalcScript.Number.Numeral
import CalcScript.Token.Basic
import CalcScript.Token.Lexer
import CalcScript.Token.Pull
import CalcScript.Tree.Operator
import CalcScript.Tree.Basic
import CalcScript.Tree.Printed
import CalcScript.Parser.TokenStream
import CalcScript.Parser.Basic
import CalcScript.Parser.Expression
import CalcScript.Parser.Program
import CalcScript.Value
import CalcScript.Fault
import CalcScript.Arithmetic
import CalcScript.Scope.Basic
import CalcScript.Scope.Stack
import CalcScript.Evaluation
import CalcScript.Diagnostic.Basic
import CalcScript.Diagnostic.Marked
import CalcScript.Session
import CalcScript.Command.Request
import CalcScript.Command
import CalcScript.Main
import CalcScript.Proofs.Outcomes
import CalcScript.Proofs.Lexing.Characters
import CalcScript.Proofs.Lexing.Split
import CalcScript.Proofs.Layout.Moved
import CalcScript.Proofs.Lexing.Seam
import CalcScript.Proofs.Grammar.Basic
import CalcScript.Proofs.Grammar.Reading
import CalcScript.Proofs.Grammar.Soundness
import CalcScript.Proofs.Grammar.Completeness
import CalcScript.Proofs.Evaluation.Steps
import CalcScript.Proofs.Evaluation.Order
import CalcScript.Proofs.Layout.Derivations
import CalcScript.Proofs.Grammar.Sources
import CalcScript.Proofs.Layout.Runs
import CalcScript.Proofs.Session.Root
import CalcScript.Proofs.Session.Writes
import CalcScript.Proofs.Session.Permanence
import CalcScript.Proofs.Session.Pieces
import CalcScript.Proofs.Layout.Places
import CalcScript.Proofs.Lexing.Places
import CalcScript.Proofs.Lexing.LongestMatch
import CalcScript.Proofs.Scopes.Chains
import CalcScript.Proofs.Scopes.Calls
import CalcScript.Proofs.Scopes.History
import CalcScript.Proofs.Scopes.Lexical
import CalcScript.Proofs.Grammar.FailedPrograms
import CalcScript.Proofs.Grammar.Blame
import CalcScript.Proofs.Layout.Spans
import CalcScript.Proofs.Session.Places
import CalcScript.Proofs.Session.Layout
import CalcScript.Proofs.Layout.Statements
import CalcScript.Proofs.Printing.Readability
import CalcScript.Proofs.Grammar.Nesting
import CalcScript.Proofs.Layout.Lines
import CalcScript.Proofs.Lexing.Slices
import CalcScript.Proofs.Session.Safety
import CalcScript.Proofs.Layout.Marker
import CalcScript.Proofs.Printing.Messages
import CalcScript.Proofs.Command.Requests
import CalcScript.Proofs.Session.Marked
import CalcScript.Proofs.Command.Stages
import CalcScript.Proofs.Lexing.FirstForeign
import CalcScript.Proofs.Lexing.Pulling
import CalcScript.Parser.Resumed
import CalcScript.Proofs.Grammar.Descent
import CalcScript.Proofs.Grammar.Reused
import CalcScript.Proofs.Grammar.EndOfFile
import CalcScript.Proofs.Evaluation.Lockstep
import CalcScript.Proofs.Session.Lookalikes
import CalcScript.Proofs.Session.Mentions
import CalcScript.Proofs.Scopes.Erasure
import CalcScript.Proofs.Session.NamingFaults
import CalcScript.Proofs.Layout.Nodes
import CalcScript.Proofs.Grammar.Vocabulary
import CalcScript.Proofs.Layout.Branches
import CalcScript.Proofs.Grammar.Parentheses
import CalcScript.Proofs.Layout.Alone
import CalcScript.Scope.Tables
import CalcScript.Proofs.Scopes.Tables
import CalcScript.Proofs.Scopes.Protection
import CalcScript.Proofs.Layout.Joins
import CalcScript.Text.Cursor
import CalcScript.Proofs.Lexing.Cursors
import CalcScript.Tree.Gauged
import CalcScript.Parser.Moment
import CalcScript.Recursion
import CalcScript.Proofs.Grammar.Moments
import CalcScript.Proofs.Grammar.Returns
import CalcScript.Proofs.Evaluation.Room
import CalcScript.Proofs.Numbers.Fractions
import CalcScript.Proofs.Printing.ReadBack
