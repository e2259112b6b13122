import SinkCheck.Http.Client
import SinkCheck.Report.ToJson
import SinkCheck.Service.OfJson
import SinkCheck.Service.ToJson
import SinkCheck.Validator.Basic
import SinkCheck.Proofs.Http.Failover
import SinkCheck.Proofs.Properties.Flattening
import SinkCheck.Proofs.Report.Entries
import SinkCheck.Proofs.Report.History
import SinkCheck.Proofs.Report.Syntax
import SinkCheck.Proofs.Report.Values
import SinkCheck.Proofs.Rules
import SinkCheck.Proofs.Setting.Constraints
import SinkCheck.Proofs.Setting.Items
import SinkCheck.Proofs.Setting.Shown
import SinkCheck.Proofs.Setting.Spelling
import SinkCheck.Proofs.Settings.Assembly
import SinkCheck.Proofs.Settings.Guarantees
import SinkCheck.Proofs.Settings.NormalForm
import SinkCheck.Proofs.Text.Numerals
import SinkCheck.Proofs.Text.Trimming
import SinkCheck.Proofs.Validation.Acceptance
import SinkCheck.Proofs.Validation.Attribution
import SinkCheck.Proofs.Validation.Checks
import SinkCheck.Proofs.Validation.Gates
import SinkCheck.Proofs.Validation.OneStage
import SinkCheck.Proofs.Validation.Secrecy
import SinkCheck.Proofs.Validation.Sessions
import SinkCheck.Proofs.Validation.Spelling
import SinkCheck.Proofs.Version.Order
import SinkCheck.Proofs.Version.Segments
import SinkCheck.Proofs.Capacity
import SinkCheck.Proofs.Setting.Secrets
import SinkCheck.Proofs.Settings.Missing
import SinkCheck.Proofs.Version.Difference
import SinkCheck.Proofs.Version.Suffixes
import SinkCheck.Proofs.Setting.Integers
import SinkCheck.Proofs.Http.Closing
import SinkCheck.Proofs.Setting.Datasets
import SinkCheck.Proofs.Http.Construction
import SinkCheck.Proofs.Properties.Arrays
import SinkCheck.Proofs.Setting.Choices
import SinkCheck.Proofs.Json.Records
import SinkCheck.Proofs.Http.Records
import SinkCheck.Proofs.Decimal.Values
import SinkCheck.Proofs.Decimal.Intervals
import SinkCheck.Proofs.Decimal.Shortest
import SinkCheck.Proofs.Decimal.Spelling
import SinkCheck.Proofs.Decimal.Rounding
import SinkCheck.Proofs.Json.Numbers
import SinkCheck.Proofs.Json.Tokens
import SinkCheck.Proofs.Json.Grammar
