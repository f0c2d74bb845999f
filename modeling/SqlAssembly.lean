import SqlAssembly.Driver.Scripted
import SqlAssembly.Log.Tracing
import SqlAssembly.Session.Program
import SqlAssembly.Sqlite.Database
import SqlAssembly.Proofs.Text.Keyword
import SqlAssembly.Proofs.Literal.Confinement
import SqlAssembly.Proofs.Placeholder.Positions
import SqlAssembly.Proofs.Placeholder.Substitution
import SqlAssembly.Proofs.Condition.Grammar
import SqlAssembly.Proofs.Condition.Scanning
import SqlAssembly.Proofs.Condition.Parsing
import SqlAssembly.Proofs.Condition.Meaning
import SqlAssembly.Proofs.Condition.Predicates
import SqlAssembly.Proofs.Condition.Lexemes
import SqlAssembly.Proofs.Condition.Connectives
import SqlAssembly.Proofs.Condition.RawGroups
import SqlAssembly.Proofs.Statement.Confinement
import SqlAssembly.Proofs.Statement.Respelling
import SqlAssembly.Proofs.Statement.Lines
import SqlAssembly.Proofs.Session.Programs
import SqlAssembly.Proofs.Session.Chronicle
import SqlAssembly.Proofs.Session.Steps
import SqlAssembly.Proofs.Session.Outcome
import SqlAssembly.Proofs.Session.SingleEnding
import SqlAssembly.Proofs.Session.Closing
import SqlAssembly.Proofs.Session.Scopes
import SqlAssembly.Proofs.Session.Statements
import SqlAssembly.Proofs.Session.Upserts
import SqlAssembly.Proofs.Session.AuditTrail
import SqlAssembly.Proofs.Pool.OpenTransactions
import SqlAssembly.Proofs.Pool.Registration
import SqlAssembly.Proofs.Pool.Interleaving
import SqlAssembly.Proofs.Pool.Serial
import SqlAssembly.Proofs.Statement.InsertBody
import SqlAssembly.Proofs.Statement.InsertDecoding
import SqlAssembly.Proofs.Statement.DuplicateKeys
import SqlAssembly.Proofs.Statement.FallbackRow
import SqlAssembly.Proofs.Session.UpsertRendering
import SqlAssembly.Proofs.Placeholder.SealedLiterals
import SqlAssembly.Proofs.Placeholder.Stability
import SqlAssembly.Proofs.Condition.Building
import SqlAssembly.Proofs.Condition.LooseFilters
import SqlAssembly.Proofs.Text.Recognition
import SqlAssembly.Proofs.Condition.Nulls
import SqlAssembly.Proofs.Text.LongestPrefix
import SqlAssembly.Proofs.Config.References
import SqlAssembly.Proofs.Config.ExpandedSettings
import SqlAssembly.Proofs.Literal.Flattening
import SqlAssembly.Proofs.Session.Scripts
