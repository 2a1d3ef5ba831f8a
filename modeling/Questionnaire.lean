import Questionnaire.AnswerType
import Questionnaire.Binary64.Basic
import Questionnaire.Binary64.Reader
import Questionnaire.Binary64.Shortest
import Questionnaire.Calendar.Moment
import Questionnaire.Calendar.Text
import Questionnaire.Calendar.TimeSpan
import Questionnaire.Content.Skeleton
import Questionnaire.Content.Template
import Questionnaire.Decimal.Arithmetic
import Questionnaire.Decimal.Basic
import Questionnaire.Decimal.Text
import Questionnaire.Dictionary
import Questionnaire.Digest
import Questionnaire.Expression.Arithmetic
import Questionnaire.Expression.Defect
import Questionnaire.Expression.EvalError
import Questionnaire.Expression.Evaluation
import Questionnaire.Expression.Lexer
import Questionnaire.Expression.Operator
import Questionnaire.Expression.Parser
import Questionnaire.Expression.Token
import Questionnaire.Expression.Tree
import Questionnaire.Expression.Typing
import Questionnaire.Interview.Line
import Questionnaire.Interview.Session
import Questionnaire.Interview.Transcript
import Questionnaire.Json.Basic
import Questionnaire.Json.Printer
import Questionnaire.Json.Reader
import Questionnaire.Json.Shape
import Questionnaire.Main
import Questionnaire.Model.Basic
import Questionnaire.Model.Compile
import Questionnaire.Model.Declarations
import Questionnaire.Model.Defect
import Questionnaire.Model.Places
import Questionnaire.Model.Steps
import Questionnaire.Model.Typing
import Questionnaire.Parameter.Basic
import Questionnaire.Parameter.Json
import Questionnaire.Parameter.Store
import Questionnaire.Power
import Questionnaire.Program.Arguments
import Questionnaire.Program.Report
import Questionnaire.Program.Run
import Questionnaire.Run.Answers
import Questionnaire.Run.Cache
import Questionnaire.Run.Config
import Questionnaire.Run.Error
import Questionnaire.Run.History
import Questionnaire.Run.Request
import Questionnaire.Run.Result
import Questionnaire.Run.Visit
import Questionnaire.Run.Walk
import Questionnaire.Screen.Prompt
import Questionnaire.Screen.Text
import Questionnaire.Script.Basic
import Questionnaire.Script.Reader
import Questionnaire.Shape.Mismatch
import Questionnaire.Source.DefectKind
import Questionnaire.Source.Position
import Questionnaire.Source.Span
import Questionnaire.Text.Alphabetic
import Questionnaire.Text.Blank
import Questionnaire.Text.Printable
import Questionnaire.Text.Quoted
import Questionnaire.Text.Search
import Questionnaire.Text.Uppercase
import Questionnaire.Toml.Basic
import Questionnaire.Toml.Config
import Questionnaire.Toml.Reader
import Questionnaire.Value.Basic
import Questionnaire.Value.Coercion
import Questionnaire.Value.Inference
import Questionnaire.Value.Json
import Questionnaire.Value.Yaml
import Questionnaire.Yaml.BlockScalar
import Questionnaire.Yaml.Cursor
import Questionnaire.Yaml.Document
import Questionnaire.Yaml.Error
import Questionnaire.Yaml.Fold
import Questionnaire.Yaml.Node
import Questionnaire.Yaml.PlainScalar
import Questionnaire.Yaml.Printer
import Questionnaire.Yaml.Problem
import Questionnaire.Yaml.QuotedScalar
import Questionnaire.Yaml.Scalar
import Questionnaire.Yaml.Shape
import Questionnaire.Yaml.Tag
import Questionnaire.Yaml.Token
import Questionnaire.Yaml.TokenStream
import Questionnaire.Yaml.Value
import Questionnaire.Proofs.Outcome
import Questionnaire.Proofs.Text.Cutting
import Questionnaire.Proofs.Parameter.Lookup
import Questionnaire.Proofs.Decimal.Digits
import Questionnaire.Proofs.Decimal.Notation
import Questionnaire.Proofs.Calendar.Notation
import Questionnaire.Proofs.Value.Reading
import Questionnaire.Proofs.Value.Notation
import Questionnaire.Proofs.Value.Dates
import Questionnaire.Proofs.Json.Records
import Questionnaire.Proofs.Parameter.Records
import Questionnaire.Proofs.Model.Compile
import Questionnaire.Proofs.Model.Building
import Questionnaire.Proofs.Model.Declared
import Questionnaire.Proofs.Model.WellFormed
import Questionnaire.Proofs.Answers.Normalization
import Questionnaire.Proofs.Answers.Taken
import Questionnaire.Proofs.Answers.Texts
import Questionnaire.Proofs.Answers.Options
import Questionnaire.Proofs.Expression.Reads
import Questionnaire.Proofs.Expression.Strictness
import Questionnaire.Proofs.Expression.Typing
import Questionnaire.Proofs.Expression.Literals
import Questionnaire.Proofs.Expression.Grammar
import Questionnaire.Proofs.Expression.Parsing
import Questionnaire.Proofs.Expression.Scanning
import Questionnaire.Proofs.Expression.Rendering
import Questionnaire.Proofs.Expression.Wildcards
import Questionnaire.Proofs.Model.Inference
import Questionnaire.Proofs.Model.DerivedTypes
import Questionnaire.Proofs.Model.Checks
import Questionnaire.Proofs.Model.Parts
import Questionnaire.Proofs.Model.WellTyped
import Questionnaire.Proofs.Run.Scope
import Questionnaire.Proofs.Run.Visits
import Questionnaire.Proofs.Run.Rounds
import Questionnaire.Proofs.Run.WriteOnce
import Questionnaire.Proofs.Run.Cycles
import Questionnaire.Proofs.Run.Retrace
import Questionnaire.Proofs.Run.TypeSafety
import Questionnaire.Proofs.Run.Asking
import Questionnaire.Proofs.Run.Lockstep
import Questionnaire.Proofs.Run.Independence
import Questionnaire.Proofs.Run.Monotone
import Questionnaire.Proofs.Run.Resubmission
import Questionnaire.Proofs.Model.Ids
import Questionnaire.Proofs.Run.Unanswered
import Questionnaire.Proofs.Run.Records
import Questionnaire.Proofs.Run.Progress
import Questionnaire.Proofs.Run.Order
import Questionnaire.Proofs.Model.Links
import Questionnaire.Proofs.Model.Integrity
import Questionnaire.Proofs.Model.Agreement
import Questionnaire.Proofs.Model.Ordering
import Questionnaire.Proofs.Interview.Turns
import Questionnaire.Proofs.Interview.Trail
import Questionnaire.Proofs.Interview.Screens
import Questionnaire.Proofs.Interview.Coherence
import Questionnaire.Proofs.Interview.Lines
import Questionnaire.Proofs.Run.Caching
import Questionnaire.Proofs.Text.Slices
import Questionnaire.Proofs.Source.Lines
import Questionnaire.Proofs.Source.Positions
import Questionnaire.Proofs.Expression.Spans
import Questionnaire.Proofs.Model.Located
import Questionnaire.Proofs.Decimal.Normal
import Questionnaire.Proofs.Dictionary
import Questionnaire.Proofs.Screen.Elements
import Questionnaire.Proofs.Screen.Selection
import Questionnaire.Proofs.Screen.Buttons
import Questionnaire.Proofs.Screen.Titles
import Questionnaire.Proofs.Content.Placeholders
import Questionnaire.Proofs.Parameter.Writes
import Questionnaire.Proofs.Expression.Tiling
import Questionnaire.Proofs.Yaml.Marks
import Questionnaire.Proofs.Yaml.Scalars
import Questionnaire.Proofs.Yaml.Tags
import Questionnaire.Proofs.Yaml.Tokens
import Questionnaire.Proofs.Yaml.Documents
import Questionnaire.Proofs.Yaml.Shapes
import Questionnaire.Proofs.Script.Marks
import Questionnaire.Proofs.Model.Documents
import Questionnaire.Proofs.Yaml.Lookahead
import Questionnaire.Proofs.Yaml.Words
import Questionnaire.Proofs.Yaml.States
import Questionnaire.Proofs.Yaml.Transitions
import Questionnaire.Proofs.Yaml.Nodes
import Questionnaire.Proofs.Script.FlowSteps
import Questionnaire.Proofs.Model.FlowSteps
import Questionnaire.Proofs.Model.FlowPlaces
