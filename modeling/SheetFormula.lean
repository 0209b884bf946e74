import SheetFormula.Formula.Compile
import SheetFormula.Library.Standard
import SheetFormula.Evaluation
import SheetFormula.Calculator
import SheetFormula.Configuration.Reader
import SheetFormula.CommandLine.Run
import SheetFormula.Service.Respond
import SheetFormula.Main
import SheetFormula.Proofs.Evaluation.Recursion
import SheetFormula.Proofs.Formula.Grammar
import SheetFormula.Proofs.Formula.Soundness
import SheetFormula.Proofs.Formula.Completeness
import SheetFormula.Proofs.Formula.Depth
import SheetFormula.Proofs.Amount.Division
import SheetFormula.Proofs.Amount.Reading
import SheetFormula.Proofs.Calendar.Date
import SheetFormula.Proofs.Calendar.Timestamp
import SheetFormula.Proofs.Moment.Difference
import SheetFormula.Proofs.Evaluation.Congruence
import SheetFormula.Proofs.Json.Fields
import SheetFormula.Proofs.Scope.Merging
import SheetFormula.Proofs.Moment.Reading
import SheetFormula.Proofs.Amount.Dates
import SheetFormula.Proofs.Evaluation.Data
import SheetFormula.Proofs.Moment.RoundTrip
import SheetFormula.Proofs.Zone.Offsets
import SheetFormula.Proofs.Moment.Range
import SheetFormula.Proofs.Formula.Parts
import SheetFormula.Proofs.Evaluation.Failure
import SheetFormula.Proofs.Evaluation.Missing
import SheetFormula.Proofs.Scope.Extension
import SheetFormula.Proofs.Moment.LeapSeconds
import SheetFormula.Proofs.Moment.Chaining
import SheetFormula.Proofs.Moment.Layouts
import SheetFormula.Proofs.Moment.Notations
import SheetFormula.Proofs.Amount.ForeignDigits
import SheetFormula.Proofs.Zone.ForeignDigits
import SheetFormula.Proofs.Moment.ForeignDigits
import SheetFormula.Proofs.Calculator.Failure
import SheetFormula.Proofs.Amount.Mirror
import SheetFormula.Proofs.Formula.Lexing
import SheetFormula.Proofs.Formula.Words
import SheetFormula.Proofs.Formula.Joining
import SheetFormula.Proofs.Formula.Literals
import SheetFormula.Proofs.Formula.Faults
import SheetFormula.Proofs.Evaluation.Operators
import SheetFormula.Proofs.Json.Quoting
import SheetFormula.Proofs.Service.Agreement
import SheetFormula.Proofs.Scope.Assembly
import SheetFormula.Proofs.Zone.Resolution
import SheetFormula.Proofs.Moment.ZeroStep
import SheetFormula.Proofs.Zone.Gaps
import SheetFormula.Proofs.Formula.Limit
import SheetFormula.Proofs.Number.Whole
import SheetFormula.Proofs.Moment.WholeSteps
import SheetFormula.Proofs.Moment.IsoRange
import SheetFormula.Proofs.Evaluation.Ambient
import SheetFormula.Proofs.Moment.Kinds
import SheetFormula.Proofs.Evaluation.FunctionForms
import SheetFormula.Proofs.Library.Statistics
import SheetFormula.Proofs.Calendar.MonthSteps
import SheetFormula.Proofs.Zone.Names
import SheetFormula.Proofs.Service.Settings
import SheetFormula.Proofs.Formula.Endings
import SheetFormula.Proofs.Formula.Counting.Basic
import SheetFormula.Proofs.Formula.Counting.Rules
import SheetFormula.Proofs.Formula.Counting.Calls
