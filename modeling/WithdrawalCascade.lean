import WithdrawalCascade.EntityId.Spelling
import WithdrawalCascade.Text.Quoted
import WithdrawalCascade.Json.Basic
import WithdrawalCascade.Json.Printer
import WithdrawalCascade.Json.Numeral
import WithdrawalCascade.Json.Token
import WithdrawalCascade.Json.Document
import WithdrawalCascade.Json.Assembly
import WithdrawalCascade.Json.Reader
import WithdrawalCascade.Json.Value
import WithdrawalCascade.EntityKind
import WithdrawalCascade.Status
import WithdrawalCascade.Node
import WithdrawalCascade.Annotations
import WithdrawalCascade.Eligibility
import WithdrawalCascade.Fault
import WithdrawalCascade.Tree.Basic
import WithdrawalCascade.Tree.Rendering
import WithdrawalCascade.Context
import WithdrawalCascade.Entities
import WithdrawalCascade.Failure
import WithdrawalCascade.Policy
import WithdrawalCascade.Log
import WithdrawalCascade.Cascade.Dialogue
import WithdrawalCascade.Cascade.Basic
import WithdrawalCascade.Cascade.Command
import WithdrawalCascade.Wire.Names
import WithdrawalCascade.Wire.Node
import WithdrawalCascade.Wire.Context
import WithdrawalCascade.Wire.Failure
import WithdrawalCascade.StandIn.Withdrawer
import WithdrawalCascade.StandIn.Bookings
import WithdrawalCascade.StandIn.Ensemble
import WithdrawalCascade.StandIn.Script
import WithdrawalCascade.Outline
import WithdrawalCascade.Sample
import WithdrawalCascade.Clock
import WithdrawalCascade.Proofs.Blocking
import WithdrawalCascade.Proofs.Cascade.Course
import WithdrawalCascade.Proofs.Cascade.Handover
import WithdrawalCascade.Proofs.Cascade.MissingBooking
import WithdrawalCascade.Proofs.Cascade.Report
import WithdrawalCascade.Proofs.Cascade.Policies
import WithdrawalCascade.Proofs.Descent
import WithdrawalCascade.Proofs.Traversal
import WithdrawalCascade.Proofs.Bearer
import WithdrawalCascade.Proofs.Locality
import WithdrawalCascade.Proofs.Cascade.Attribution
import WithdrawalCascade.Proofs.Cascade.Chain
import WithdrawalCascade.Proofs.Cascade.Cancellation
import WithdrawalCascade.Proofs.Cascade.Accounting
import WithdrawalCascade.Proofs.Cascade.Scripted
import WithdrawalCascade.Proofs.Cascade.Isolation
import WithdrawalCascade.Proofs.Cascade.Narrative
import WithdrawalCascade.Proofs.Cascade.Relevance
import WithdrawalCascade.Proofs.Cascade.Steady
import WithdrawalCascade.Proofs.Cascade.Repetition
import WithdrawalCascade.Proofs.Cascade.Siblings
import WithdrawalCascade.Proofs.Outline
import WithdrawalCascade.Proofs.Json.Denotes
import WithdrawalCascade.Proofs.Json.Reading
import WithdrawalCascade.Proofs.Json.Records
import WithdrawalCascade.Proofs.EntityId
import WithdrawalCascade.Proofs.Wire.Spelling
import WithdrawalCascade.Proofs.Json.Printing
import WithdrawalCascade.Proofs.Wire.RoundTrip
import WithdrawalCascade.Proofs.Json.Repetition
import WithdrawalCascade.Proofs.Wire.Media
import WithdrawalCascade.Proofs.Tree.Acceptance
import WithdrawalCascade.Proofs.Tree.Offer
import WithdrawalCascade.Proofs.Tree.Lines
import WithdrawalCascade.Proofs.Tree.Legibility
import WithdrawalCascade.Proofs.Wire.Filing
import WithdrawalCascade.Proofs.Text.Trimming
import WithdrawalCascade.Proofs.Policy.Setting
import WithdrawalCascade.Proofs.Policy.Environment
import WithdrawalCascade.Proofs.StandIn.Instruction
