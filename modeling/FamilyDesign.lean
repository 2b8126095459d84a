import FamilyDesign.Assistant.Basic
import FamilyDesign.Assistant.Hosted
import FamilyDesign.Assistant.Instructions
import FamilyDesign.Assistant.LocalServer
import FamilyDesign.Assistant.Prepared
import FamilyDesign.Brief.Basic
import FamilyDesign.Brief.Building
import FamilyDesign.Brief.Reading
import FamilyDesign.Brief.Refining
import FamilyDesign.Clock.Instant
import FamilyDesign.Clock.Surroundings
import FamilyDesign.Design.Basic
import FamilyDesign.Design.Loading
import FamilyDesign.Design.Structure
import FamilyDesign.Design.ValueType
import FamilyDesign.Design.Variation
import FamilyDesign.Design.Wire
import FamilyDesign.Design.Written
import FamilyDesign.Desk.Basic
import FamilyDesign.Desk.Consultation
import FamilyDesign.Desk.Drafting
import FamilyDesign.Desk.Revision
import FamilyDesign.Document.Checked
import FamilyDesign.Document.Field
import FamilyDesign.Entries
import FamilyDesign.Formula.Problem
import FamilyDesign.Formula.Substitution
import FamilyDesign.Formula.Template
import FamilyDesign.Formula.Token
import FamilyDesign.Http.Address
import FamilyDesign.Http.Exchange
import FamilyDesign.Http.NumberedHost
import FamilyDesign.Job.Order
import FamilyDesign.Job.Placeholder
import FamilyDesign.Job.Prepared
import FamilyDesign.Job.Progress
import FamilyDesign.Job.Record
import FamilyDesign.Job.Service
import FamilyDesign.Job.Simulator
import FamilyDesign.Job.Status
import FamilyDesign.Job.Tracker
import FamilyDesign.Json.Limit
import FamilyDesign.Json.Number
import FamilyDesign.Json.Reader
import FamilyDesign.Json.Value
import FamilyDesign.Json.Writer
import FamilyDesign.Length.Unit
import FamilyDesign.Numeric.Binary64
import FamilyDesign.Numeric.Notation
import FamilyDesign.Numeric.Numeral
import FamilyDesign.Numeric.Rounding
import FamilyDesign.Prompt.Binding
import FamilyDesign.Prompt.Keyword
import FamilyDesign.Prompt.Quantity
import FamilyDesign.Prompt.Token
import FamilyDesign.Prompt.Written
import FamilyDesign.Proofs.Brief.Assembly
import FamilyDesign.Proofs.Brief.Patching
import FamilyDesign.Proofs.Brief.Preserving
import FamilyDesign.Proofs.Brief.Reading
import FamilyDesign.Proofs.Brief.Rebuilding
import FamilyDesign.Proofs.Brief.Recognition
import FamilyDesign.Proofs.Brief.Variation
import FamilyDesign.Proofs.Design.Gates
import FamilyDesign.Proofs.Design.Loaded
import FamilyDesign.Proofs.Design.Reloading
import FamilyDesign.Proofs.Design.RoundTrip
import FamilyDesign.Proofs.Design.Scaling
import FamilyDesign.Proofs.Design.Structure
import FamilyDesign.Proofs.Design.Values
import FamilyDesign.Proofs.Desk.Generation
import FamilyDesign.Proofs.Desk.Ledger
import FamilyDesign.Proofs.Desk.Offline
import FamilyDesign.Proofs.Desk.Refinement
import FamilyDesign.Proofs.Desk.Remaking
import FamilyDesign.Proofs.Desk.Repeating
import FamilyDesign.Proofs.Desk.Requests
import FamilyDesign.Proofs.Desk.Sessions
import FamilyDesign.Proofs.Document.Fields
import FamilyDesign.Proofs.Entries
import FamilyDesign.Proofs.Fallible
import FamilyDesign.Proofs.Formula.Numerals
import FamilyDesign.Proofs.Formula.Operands
import FamilyDesign.Proofs.Formula.Parentheses
import FamilyDesign.Proofs.Formula.References
import FamilyDesign.Proofs.Formula.Replacing
import FamilyDesign.Proofs.Formula.Scanning
import FamilyDesign.Proofs.Formula.Splicing
import FamilyDesign.Proofs.Job.Alongside
import FamilyDesign.Proofs.Job.Cadence
import FamilyDesign.Proofs.Job.Course
import FamilyDesign.Proofs.Job.Listing
import FamilyDesign.Proofs.Job.Moves
import FamilyDesign.Proofs.Job.Progress
import FamilyDesign.Proofs.Job.Run
import FamilyDesign.Proofs.Job.Schedule
import FamilyDesign.Proofs.Job.Submission
import FamilyDesign.Proofs.Json.Portable
import FamilyDesign.Proofs.Json.Same
import FamilyDesign.Proofs.Numeric.Accuracy
import FamilyDesign.Proofs.Numeric.Gaps
import FamilyDesign.Proofs.Numeric.Numerals
import FamilyDesign.Proofs.Numeric.Order
import FamilyDesign.Proofs.Numeric.ReadBack
import FamilyDesign.Proofs.Numeric.Rounding
import FamilyDesign.Proofs.Numeric.Unsigned
import FamilyDesign.Proofs.Prompt.Lengths
import FamilyDesign.Proofs.Prompt.Matching
import FamilyDesign.Proofs.Prompt.Phrases
import FamilyDesign.Proofs.Prompt.Quantities
import FamilyDesign.Proofs.Quality.Declarations
import FamilyDesign.Proofs.Quality.Fitting
import FamilyDesign.Proofs.Quality.Flexing
import FamilyDesign.Proofs.Quality.Judgement
import FamilyDesign.Proofs.Quality.Normals
import FamilyDesign.Proofs.Quality.Outcome
import FamilyDesign.Proofs.Quality.Readiness
import FamilyDesign.Proofs.Quality.Score
import FamilyDesign.Proofs.Quality.Standing
import FamilyDesign.Proofs.Quality.Varying
import FamilyDesign.Proofs.Script.Alarms
import FamilyDesign.Proofs.Script.Alike
import FamilyDesign.Proofs.Script.Breaks
import FamilyDesign.Proofs.Script.Constant
import FamilyDesign.Proofs.Script.Emission
import FamilyDesign.Proofs.Script.Faithful
import FamilyDesign.Proofs.Script.Filtering
import FamilyDesign.Proofs.Script.Keys
import FamilyDesign.Proofs.Script.Lines
import FamilyDesign.Proofs.Script.Literal
import FamilyDesign.Proofs.Script.Loops
import FamilyDesign.Proofs.Script.Mistaken
import FamilyDesign.Proofs.Script.Refusal
import FamilyDesign.Proofs.Script.Shortening
import FamilyDesign.Proofs.Script.Size
import FamilyDesign.Proofs.Script.Table
import FamilyDesign.Proofs.Script.Words
import FamilyDesign.Proofs.Studio.Execution
import FamilyDesign.Proofs.Studio.Offline
import FamilyDesign.Proofs.Studio.Registries
import FamilyDesign.Proofs.Studio.Run
import FamilyDesign.Proofs.Text.Breaks
import FamilyDesign.Proofs.Text.Pattern
import FamilyDesign.Proofs.WorkItem.Conversation
import FamilyDesign.Proofs.WorkItem.Exchange
import FamilyDesign.Proofs.WorkItem.Freshness
import FamilyDesign.Proofs.WorkItem.Polling
import FamilyDesign.Proofs.WorkItem.Replies
import FamilyDesign.Proofs.WorkItem.Submitting
import FamilyDesign.Proofs.WorkItem.Tokens
import FamilyDesign.Quality.Compliance
import FamilyDesign.Quality.Deduction
import FamilyDesign.Quality.Flexing
import FamilyDesign.Quality.Gateway
import FamilyDesign.Quality.Geometry
import FamilyDesign.Quality.Identity
import FamilyDesign.Quality.Outcome
import FamilyDesign.Quality.Parameters
import FamilyDesign.Quality.Pass
import FamilyDesign.Quality.Performance
import FamilyDesign.Quality.Report
import FamilyDesign.Quality.ReportText
import FamilyDesign.Quality.Suggestion
import FamilyDesign.Script.Declaration
import FamilyDesign.Script.Emission
import FamilyDesign.Script.Frame
import FamilyDesign.Script.Literal
import FamilyDesign.Script.Role
import FamilyDesign.Script.Rule
import FamilyDesign.Script.Section
import FamilyDesign.Script.Shape
import FamilyDesign.Session.Basic
import FamilyDesign.Session.Draft
import FamilyDesign.Session.Written
import FamilyDesign.Setup.Configuration
import FamilyDesign.Setup.Settings
import FamilyDesign.Setup.Verbosity
import FamilyDesign.Store
import FamilyDesign.Studio.Assessment
import FamilyDesign.Studio.Basic
import FamilyDesign.Studio.Designing
import FamilyDesign.Studio.Executing
import FamilyDesign.Studio.Furnishing
import FamilyDesign.Text.Basic
import FamilyDesign.Text.Blank
import FamilyDesign.Text.Bytes
import FamilyDesign.Text.Case
import FamilyDesign.Text.CaseTable
import FamilyDesign.Text.CodePoint
import FamilyDesign.Text.Digit
import FamilyDesign.Text.Escape
import FamilyDesign.Text.IdentifierTable
import FamilyDesign.Text.LetterTable
import FamilyDesign.Text.PrintableTable
import FamilyDesign.Text.Ranges
import FamilyDesign.Text.Search
import FamilyDesign.WorkItem.Account
import FamilyDesign.WorkItem.Connection
import FamilyDesign.WorkItem.Service
