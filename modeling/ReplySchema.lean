import ReplySchema.Main
import ReplySchema.Model.Convert
import ReplySchema.Model.Registry
import ReplySchema.Proofs.Cli.Output
import ReplySchema.Proofs.Json.Bytes
import ReplySchema.Proofs.Json.Strictness
import ReplySchema.Proofs.Model.Declarations
import ReplySchema.Proofs.Model.Reentry
import ReplySchema.Proofs.Reply.Blocks
import ReplySchema.Proofs.Reply.Prose
import ReplySchema.Proofs.Reply.Removal
import ReplySchema.Proofs.Reply.SchemaFailures
import ReplySchema.Proofs.Reply.Verbatim
import ReplySchema.Proofs.Schema.Conformance
import ReplySchema.Proofs.Schema.FixedPoints
import ReplySchema.Proofs.Schema.Gating
import ReplySchema.Proofs.Schema.Hints
import ReplySchema.Proofs.Schema.Optionals
import ReplySchema.Proofs.Schema.Paths
import ReplySchema.Proofs.Schema.Readability
import ReplySchema.Proofs.Schema.Reencoding
import ReplySchema.Proofs.Schema.Reports
import ReplySchema.Proofs.Schema.Safety
import ReplySchema.Proofs.Schema.Undeclared
import ReplySchema.Proofs.Session.Marks
import ReplySchema.Session
