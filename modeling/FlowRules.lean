import FlowRules.Calendar.Basic
import FlowRules.Calendar.Iso
import FlowRules.Check.Coerce
import FlowRules.Check.Declared
import FlowRules.Check.Engine
import FlowRules.Check.Operator
import FlowRules.Condition.Cache
import FlowRules.Condition.Eval
import FlowRules.Condition.Expr
import FlowRules.Condition.Parser
import FlowRules.Condition.Token
import FlowRules.Console.Command
import FlowRules.Console.Emoji
import FlowRules.Console.EmojiCodes
import FlowRules.Console.Entry
import FlowRules.Console.Help
import FlowRules.Console.Invocation
import FlowRules.Console.Markup
import FlowRules.Console.Option
import FlowRules.Console.Page
import FlowRules.Console.Report
import FlowRules.Exchange.Actions
import FlowRules.Exchange.Documents
import FlowRules.Exchange.Values
import FlowRules.Fault
import FlowRules.Fault.Guard
import FlowRules.Fault.Guidance
import FlowRules.Handler.Raised
import FlowRules.Handler.Registry
import FlowRules.Handler.Script
import FlowRules.Json.Basic
import FlowRules.Json.Reader
import FlowRules.Json.Writer
import FlowRules.Log.Basic
import FlowRules.Log.Line
import FlowRules.Log.Note
import FlowRules.Log.Setup
import FlowRules.Main
import FlowRules.Number.Binary64
import FlowRules.Number.Decimal
import FlowRules.Number.Numeral
import FlowRules.Pattern.Basic
import FlowRules.Pattern.Fold
import FlowRules.Pattern.Parser
import FlowRules.Pattern.Plan
import FlowRules.Pattern.Search
import FlowRules.Review.Static
import FlowRules.Run.Engine
import FlowRules.Run.Pipeline
import FlowRules.Run.Scope
import FlowRules.Run.World
import FlowRules.Settings.Basic
import FlowRules.Settings.Load
import FlowRules.Settings.Schema
import FlowRules.Settings.Variables
import FlowRules.Store.Basic
import FlowRules.Store.Files
import FlowRules.Text.Base64
import FlowRules.Text.Basic
import FlowRules.Text.CharClass
import FlowRules.Text.CharName.Aliases
import FlowRules.Text.CharName.Alphabets
import FlowRules.Text.CharName.Ancient
import FlowRules.Text.CharName.Lookup
import FlowRules.Text.CharName.Pictures
import FlowRules.Text.CharName.Syllables
import FlowRules.Text.CharName.Symbols
import FlowRules.Text.Identifier
import FlowRules.Text.LetterCase
import FlowRules.Text.Quoted
import FlowRules.Text.Resemblance
import FlowRules.Text.Utf8
import FlowRules.Value.Attribute
import FlowRules.Value.Basic
import FlowRules.Value.Compare
import FlowRules.Value.Display
import FlowRules.Value.Field
import FlowRules.Value.Memory
import FlowRules.Value.Source
import FlowRules.Workflow.Basic
import FlowRules.Workflow.Definition
import FlowRules.Workflow.Name
import FlowRules.Workflow.Schema
import FlowRules.Yaml.Basic
import FlowRules.Yaml.Node
import FlowRules.Yaml.Scalar
import FlowRules.Yaml.Token
import FlowRules.Yaml.Token.Lexer
import FlowRules.Yaml.Token.Scalar
import FlowRules.Yaml.Value
import FlowRules.Proofs.Run.Action
import FlowRules.Proofs.Run.Alike
import FlowRules.Proofs.Run.Similar
import FlowRules.Proofs.Run.Simulation
import FlowRules.Proofs.Run.Visits
import FlowRules.Proofs.Failure
import FlowRules.Proofs.Loop
import FlowRules.Proofs.SubFlow
import FlowRules.Proofs.Check.Reading
import FlowRules.Proofs.Review.Walk
import FlowRules.Proofs.Registry
import FlowRules.Proofs.Review.Sound
import FlowRules.Proofs.Run.Task
import FlowRules.Proofs.Run.Keeping
import FlowRules.Proofs.Run.Journal
import FlowRules.Proofs.Run.Counted
import FlowRules.Proofs.Condition.RoundTrip
import FlowRules.Proofs.Nesting
import FlowRules.Proofs.SharedState
import FlowRules.Proofs.History
import FlowRules.Proofs.Result
import FlowRules.Proofs.Cancel
import FlowRules.Proofs.Condition.Refusal
import FlowRules.Proofs.Check.Answer
import FlowRules.Proofs.Value.Path
import FlowRules.Proofs.Condition.Access
import FlowRules.Proofs.Number.Reading
import FlowRules.Proofs.Number.Shortest
import FlowRules.Proofs.Check.Agreement
import FlowRules.Proofs.Json.Reading
import FlowRules.Proofs.Entries
import FlowRules.Proofs.Workflow.Library
import FlowRules.Proofs.Workflow.Refusal
import FlowRules.Proofs.Workflow.Steps
import FlowRules.Proofs.Workflow.Writing
import FlowRules.Proofs.Condition.Accounting
import FlowRules.Proofs.Value.Sources
import FlowRules.Proofs.Check.Still
import FlowRules.Proofs.Run.Quiet
import FlowRules.Proofs.ReadOnly
import FlowRules.Proofs.Store.Listing
import FlowRules.Proofs.Log.Bracket
import FlowRules.Proofs.Run.Spans
import FlowRules.Proofs.Run.Telling
import FlowRules.Proofs.Run.Unfolding
import FlowRules.Proofs.Bracketing
import FlowRules.Proofs.StepReports
import FlowRules.Proofs.Number.Rounding
import FlowRules.Proofs.Number.RoundTrip
import FlowRules.Proofs.Json.Beginning
import FlowRules.Proofs.Json.Numbers
import FlowRules.Proofs.Json.Texts
import FlowRules.Proofs.Json.RoundTrip
import FlowRules.Proofs.Workflow.Canonical
import FlowRules.Proofs.Store.Storage
import FlowRules.Proofs.Number.Order
import FlowRules.Proofs.Condition.TotalOrder
import FlowRules.Proofs.Check.Numeric
import FlowRules.Proofs.Value.Composition
import FlowRules.Proofs.Value.Declaration
import FlowRules.Proofs.Value.Equality
import FlowRules.Proofs.Value.Ordering
import FlowRules.Proofs.Condition.Symmetry
import FlowRules.Proofs.Review.Reach
import FlowRules.Proofs.Value.Lookup
import FlowRules.Proofs.Text.LetterCase
import FlowRules.Proofs.Check.Occurrence
import FlowRules.Proofs.Calendar.RoundTrip
import FlowRules.Proofs.Number.Decimal
import FlowRules.Proofs.Check.MemberName
import FlowRules.Proofs.Check.OwnText
import FlowRules.Proofs.Number.Negation
import FlowRules.Proofs.Condition.Negative
import FlowRules.Proofs.Sequence
import FlowRules.Proofs.Chain
import FlowRules.Proofs.Check.Annotation
import FlowRules.Proofs.Store.Containment
import FlowRules.Proofs.Workflow.Name
import FlowRules.Proofs.Condition.Connectives
import FlowRules.Proofs.Condition.Coverage
import FlowRules.Proofs.Condition.PresentKey
import FlowRules.Proofs.Condition.Viability
import FlowRules.Proofs.Check.Spelling
import FlowRules.Proofs.Console.Status
import FlowRules.Proofs.Check.Unquoted
import FlowRules.Proofs.Value.Privacy
import FlowRules.Proofs.Exchange
