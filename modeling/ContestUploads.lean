import ContestUploads.Calendar.Parts
import ContestUploads.Category.Fields
import ContestUploads.Desk
import ContestUploads.Fault
import ContestUploads.Log.Sequence
import ContestUploads.Operation
import ContestUploads.Problem.Kind
import ContestUploads.Proofs.Outcome
import ContestUploads.Proofs.World
import ContestUploads.Sql.Catalog
import ContestUploads.Sql.Seed
import ContestUploads.Value.Consulting
import ContestUploads.Proofs.Questions
import ContestUploads.Proofs.Authorising
import ContestUploads.Proofs.Admission
import ContestUploads.Proofs.Writing
import ContestUploads.Proofs.Moving
import ContestUploads.Proofs.Requests
import ContestUploads.Proofs.Retirement
import ContestUploads.Proofs.Taking
import ContestUploads.Proofs.Reached
import ContestUploads.Proofs.Effect
import ContestUploads.Proofs.Acceptance
import ContestUploads.Proofs.Exclusivity
import ContestUploads.Proofs.Numerals
import ContestUploads.Proofs.Searching
import ContestUploads.Proofs.Tables
import ContestUploads.Proofs.Sessions
import ContestUploads.Proofs.Seeding
import ContestUploads.Proofs.Agreement
import ContestUploads.Proofs.Asking
import ContestUploads.Proofs.Surfacing
import ContestUploads.Proofs.Refusing
import ContestUploads.Proofs.Gating
import ContestUploads.Proofs.Writes
import ContestUploads.Proofs.Written
import ContestUploads.Proofs.FailStop
import ContestUploads.Proofs.Declared
import ContestUploads.Proofs.Escaping
import ContestUploads.Proofs.Warranted
import ContestUploads.Proofs.Consistency
import ContestUploads.Proofs.Apart
import ContestUploads.Proofs.Restored
import ContestUploads.Proofs.Interference
import ContestUploads.Proofs.Failing
import ContestUploads.Proofs.Following
import ContestUploads.Proofs.Renaming
import ContestUploads.Sql.Block
import ContestUploads.Proofs.Blocks
import ContestUploads.Proofs.Rows
import ContestUploads.Proofs.Retrying
import ContestUploads.Proofs.References
import ContestUploads.Proofs.Selecting
import ContestUploads.Proofs.Interrupted
import ContestUploads.Proofs.Literals
import ContestUploads.Proofs.Winning
import ContestUploads.Proofs.Numbering
import ContestUploads.Proofs.Changing
import ContestUploads.Proofs.Stamps
import ContestUploads.Proofs.Absent
import ContestUploads.Proofs.Validation
import ContestUploads.Proofs.Reports
import ContestUploads.Proofs.Tracing
import ContestUploads.Proofs.Auditing
import ContestUploads.Proofs.Contexts
import ContestUploads.Proofs.Instants
