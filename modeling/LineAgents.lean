import LineAgents.Agents.DefiYields
import LineAgents.Agents.DocumentSummary
import LineAgents.Agents.HealthCheck
import LineAgents.Agents.HomeAutomation
import LineAgents.Agents.MathOracle
import LineAgents.Agents.PageText
import LineAgents.Agents.PriceOracle
import LineAgents.Agents.Registry
import LineAgents.Agents.WebhookCall
import LineAgents.Card
import LineAgents.CommandLine.Conduct
import LineAgents.CommandLine.Invocation
import LineAgents.CommandLine.Suggestion
import LineAgents.CommandLine.Usage
import LineAgents.Completion
import LineAgents.Date.Parser
import LineAgents.Date.Token
import LineAgents.EnvFile
import LineAgents.Failure
import LineAgents.Html.Adoption
import LineAgents.Html.Builder
import LineAgents.Html.CharRef
import LineAgents.Html.CharRefTable
import LineAgents.Html.Doctype
import LineAgents.Html.Document
import LineAgents.Html.Element
import LineAgents.Html.Insertion
import LineAgents.Html.Node
import LineAgents.Html.Token
import LineAgents.Html.Tokenizer
import LineAgents.Html.VisibleText
import LineAgents.Http.Client
import LineAgents.Http.Message
import LineAgents.Json.Basic
import LineAgents.Json.Parser
import LineAgents.Json.Printer
import LineAgents.Log
import LineAgents.Main
import LineAgents.Number.Basic
import LineAgents.Number.Literal
import LineAgents.Number.Printer
import LineAgents.Number.Shortest
import LineAgents.Outside.Certificate
import LineAgents.Outside.Execution
import LineAgents.Outside.Journal
import LineAgents.Outside.Program
import LineAgents.Outside.World
import LineAgents.Params.Schema
import LineAgents.Params.Shape
import LineAgents.Params.View
import LineAgents.Pdf.Affine
import LineAgents.Pdf.Archive
import LineAgents.Pdf.CharacterMap
import LineAgents.Pdf.Deflate
import LineAgents.Pdf.Document
import LineAgents.Pdf.Font
import LineAgents.Pdf.Instruction
import LineAgents.Pdf.Layout
import LineAgents.Pdf.Lexer
import LineAgents.Pdf.Lines
import LineAgents.Pdf.Object
import LineAgents.Pdf.Parser
import LineAgents.Pdf.Presentation
import LineAgents.Pdf.ReadingOrder
import LineAgents.Pdf.ShapeTable
import LineAgents.Proofs.Agents.Calculations
import LineAgents.Proofs.Agents.Care
import LineAgents.Proofs.Agents.Checks
import LineAgents.Proofs.Agents.Completions
import LineAgents.Proofs.Agents.Credentials
import LineAgents.Proofs.Agents.Declarations
import LineAgents.Proofs.Agents.Enrichment
import LineAgents.Proofs.Agents.Excerpts
import LineAgents.Proofs.Agents.Factorials
import LineAgents.Proofs.Agents.Homes
import LineAgents.Proofs.Agents.Prices
import LineAgents.Proofs.Agents.Readers
import LineAgents.Proofs.Agents.Registration
import LineAgents.Proofs.Agents.Selection
import LineAgents.Proofs.Agents.Services
import LineAgents.Proofs.Agents.Sources
import LineAgents.Proofs.Agents.Summaries
import LineAgents.Proofs.Agents.Targets
import LineAgents.Proofs.Agents.Webhooks
import LineAgents.Proofs.Agents.Yields
import LineAgents.Proofs.CommandLine.Enrichment
import LineAgents.Proofs.CommandLine.Invocation
import LineAgents.Proofs.CommandLine.Output
import LineAgents.Proofs.Environments
import LineAgents.Proofs.Html.VisibleText
import LineAgents.Proofs.Http.Address
import LineAgents.Proofs.Http.Headers
import LineAgents.Proofs.Http.Sending
import LineAgents.Proofs.Json.Number
import LineAgents.Proofs.Json.Order
import LineAgents.Proofs.Json.Path
import LineAgents.Proofs.Json.Quote
import LineAgents.Proofs.Json.Reading
import LineAgents.Proofs.Json.RoundTrip
import LineAgents.Proofs.Json.Tidy
import LineAgents.Proofs.Number.Bits
import LineAgents.Proofs.Number.Decimal
import LineAgents.Proofs.Number.Defined
import LineAgents.Proofs.Number.Digits
import LineAgents.Proofs.Number.Extent
import LineAgents.Proofs.Number.Integers
import LineAgents.Proofs.Number.Numeral
import LineAgents.Proofs.Number.Order
import LineAgents.Proofs.Number.Rounding
import LineAgents.Proofs.Number.Shortest
import LineAgents.Proofs.Number.Whole
import LineAgents.Proofs.Outside.Alike
import LineAgents.Proofs.Outside.Behaviour
import LineAgents.Proofs.Outside.Certificate
import LineAgents.Proofs.Outside.Sequence
import LineAgents.Proofs.Params.Checked
import LineAgents.Proofs.Params.Fieldwise
import LineAgents.Proofs.Params.Positions
import LineAgents.Proofs.Params.Undeclared
import LineAgents.Proofs.Pdf.Lines
import LineAgents.Proofs.Protocol.Response
import LineAgents.Proofs.Session.Answers
import LineAgents.Proofs.Session.Chunks
import LineAgents.Proofs.Session.Diary
import LineAgents.Proofs.Session.Ids
import LineAgents.Proofs.Session.Lines
import LineAgents.Proofs.Session.Objects
import LineAgents.Proofs.Session.Refusals
import LineAgents.Proofs.Session.Runs
import LineAgents.Proofs.Session.Serve
import LineAgents.Proofs.Session.Transport
import LineAgents.Proofs.Settings
import LineAgents.Proofs.Text.Base64
import LineAgents.Proofs.Text.Blank
import LineAgents.Proofs.Text.Case
import LineAgents.Proofs.Text.CodePoint
import LineAgents.Proofs.Text.Percent
import LineAgents.Proofs.Text.Pieces
import LineAgents.Proofs.Text.Search
import LineAgents.Proofs.Text.Utf8
import LineAgents.Proofs.Text.Validity
import LineAgents.Protocol.Handler
import LineAgents.Protocol.Message
import LineAgents.Session.Lines
import LineAgents.Session.Machine
import LineAgents.Settings
import LineAgents.Text.Base64
import LineAgents.Text.Basic
import LineAgents.Text.Blank
import LineAgents.Text.Case
import LineAgents.Text.CaseTable
import LineAgents.Text.CodePoint
import LineAgents.Text.Mark
import LineAgents.Text.Percent
import LineAgents.Text.Utf8
import LineAgents.Value
