import SqlWeave.Number.Printed
import SqlWeave.Number.Shortest
import SqlWeave.Number.Decimal
import SqlWeave.Value.Equality
import SqlWeave.Value.Written
import SqlWeave.Placeholder.Registry
import SqlWeave.Fragment.Expansion
import SqlWeave.Fragment.Lookalike
import SqlWeave.Template.Grammar
import SqlWeave.Template.Filling
import SqlWeave.Outcome.Coercion
import SqlWeave.Value.Operations
import SqlWeave.Value.Parts
import SqlWeave.Value.Access
import SqlWeave.Value.Sharing
import SqlWeave.Text.Clipped
import SqlWeave.Text.Hexadecimal
import SqlWeave.Value.Hash
import SqlWeave.Effect
import SqlWeave.Statement
import SqlWeave.QueryLog
import SqlWeave.Execution.Adapter
import SqlWeave.Execution.Executor
import SqlWeave.Session.Scope
import SqlWeave.Session.Options
import SqlWeave.Session.Basic
import SqlWeave.Session.Script
import SqlWeave.Session.Expr
import SqlWeave.Session.Step
import SqlWeave.Session.TagMaking
import SqlWeave.Session.Action
import SqlWeave.Session.Concurrent
import SqlWeave.Session.Scenario
import SqlWeave.Proofs.Fragment.Outline
import SqlWeave.Proofs.Fragment.Parameters
import SqlWeave.Proofs.Fragment.Noninterference
import SqlWeave.Proofs.Effect.Triple
import SqlWeave.Proofs.Execution.Atomicity
import SqlWeave.Proofs.Execution.Planned
import SqlWeave.Proofs.Execution.Pointwise
import SqlWeave.Proofs.Execution.Rollback
import SqlWeave.Proofs.Fragment.MarkedText
import SqlWeave.Proofs.Template.RoundTrip
import SqlWeave.Proofs.Session.Refusals
import SqlWeave.Proofs.Session.Interleaved
import SqlWeave.Proofs.Session.Spelling
import SqlWeave.Proofs.Session.StandIn
import SqlWeave.Proofs.Template.Accepted
import SqlWeave.Proofs.Placeholder.NumberedReading
import SqlWeave.Proofs.Placeholder.NamedReading
import SqlWeave.Proofs.Execution.Scripted
import SqlWeave.Proofs.Execution.Agreement
import SqlWeave.Proofs.Fragment.Renumbering
import SqlWeave.Proofs.Fragment.Flat
import SqlWeave.Proofs.Template.Failures
import SqlWeave.Proofs.Session.Unhooked
import SqlWeave.Proofs.Fragment.Unsupported
import SqlWeave.Proofs.Value.ExactValue
import SqlWeave.Proofs.Template.Numbering
import SqlWeave.Proofs.Template.PathReference
import SqlWeave.Proofs.QueryLog.Complete
import SqlWeave.Proofs.Outcome.Stable
