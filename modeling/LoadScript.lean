import LoadScript.CommandLine.Arguments
import LoadScript.CommandLine.Command
import LoadScript.CommandLine.Console
import LoadScript.CommandLine.Directory
import LoadScript.CommandLine.Options
import LoadScript.CommandLine.Platform
import LoadScript.CommandLine.Program
import LoadScript.CommandLine.Session
import LoadScript.CommandLine.Standard
import LoadScript.Compile.Assembly
import LoadScript.Compile.Block
import LoadScript.Compile.Dispatch
import LoadScript.Compile.Headers
import LoadScript.Compile.Numbers
import LoadScript.Compile.Options
import LoadScript.Compile.Selector
import LoadScript.Compile.Texts
import LoadScript.Curl.Command
import LoadScript.Curl.Form
import LoadScript.Curl.Import
import LoadScript.Curl.LineBreaks
import LoadScript.Curl.Scan
import LoadScript.Curl.Tokens
import LoadScript.Curl.UrlEncoded
import LoadScript.Entries
import LoadScript.ErrorFamily
import LoadScript.Json.Parser
import LoadScript.Json.Place
import LoadScript.Json.Printer
import LoadScript.Json.Reader
import LoadScript.Json.Scanner
import LoadScript.Json.Value
import LoadScript.Log.Format
import LoadScript.Log.Moment
import LoadScript.Log.Record
import LoadScript.Log.Time
import LoadScript.Main
import LoadScript.Number.Double
import LoadScript.Number.Length
import LoadScript.Number.Numeral
import LoadScript.Number.Shortest
import LoadScript.Plan.Basic
import LoadScript.Plan.Field
import LoadScript.Plan.InUse
import LoadScript.Plan.LargeNumber
import LoadScript.Plan.Reader
import LoadScript.Plan.Request
import LoadScript.Plan.Sample
import LoadScript.Plan.Shape
import LoadScript.Plan.Writer
import LoadScript.Proofs.CommandLine.Agreement
import LoadScript.Proofs.CommandLine.Directory
import LoadScript.Proofs.CommandLine.Failures
import LoadScript.Proofs.CommandLine.FileNames
import LoadScript.Proofs.CommandLine.Imports
import LoadScript.Proofs.CommandLine.NewPlans
import LoadScript.Proofs.CommandLine.Runs
import LoadScript.Proofs.CommandLine.Standard
import LoadScript.Proofs.Compile.BaseUrl
import LoadScript.Proofs.Compile.Brackets
import LoadScript.Proofs.Compile.Chaining
import LoadScript.Proofs.Compile.Declarations
import LoadScript.Proofs.Compile.Dispatch
import LoadScript.Proofs.Compile.EntryPoints
import LoadScript.Proofs.Compile.Environment
import LoadScript.Proofs.Compile.Functions
import LoadScript.Proofs.Compile.Headers
import LoadScript.Proofs.Compile.InUse
import LoadScript.Proofs.Compile.JoinedUrls
import LoadScript.Proofs.Compile.Names
import LoadScript.Proofs.Compile.Numbers
import LoadScript.Proofs.Compile.Outlines
import LoadScript.Proofs.Compile.Paragraphs
import LoadScript.Proofs.Compile.Payload
import LoadScript.Proofs.Compile.RunHint
import LoadScript.Proofs.Compile.Safety
import LoadScript.Proofs.Compile.Sections
import LoadScript.Proofs.Compile.Selectors
import LoadScript.Proofs.Compile.Totality
import LoadScript.Proofs.Curl.Bodies
import LoadScript.Proofs.Curl.Bodyless
import LoadScript.Proofs.Curl.Commands
import LoadScript.Proofs.Curl.Flags
import LoadScript.Proofs.Curl.Folding
import LoadScript.Proofs.Curl.FormBodies
import LoadScript.Proofs.Curl.Forms
import LoadScript.Proofs.Curl.Insertions
import LoadScript.Proofs.Curl.LineBreaks
import LoadScript.Proofs.Curl.Outcomes
import LoadScript.Proofs.Curl.Quotes
import LoadScript.Proofs.Curl.Requests
import LoadScript.Proofs.Curl.Settled
import LoadScript.Proofs.Curl.Tokens
import LoadScript.Proofs.Entries
import LoadScript.Proofs.Json.Characters
import LoadScript.Proofs.Json.Documents
import LoadScript.Proofs.Json.Limits
import LoadScript.Proofs.Json.LineEnds
import LoadScript.Proofs.Json.Places
import LoadScript.Proofs.Json.Readers
import LoadScript.Proofs.Json.Reading
import LoadScript.Proofs.Log.Lines
import LoadScript.Proofs.Log.Years
import LoadScript.Proofs.Number.Numeral
import LoadScript.Proofs.Number.Range
import LoadScript.Proofs.Number.Rounding
import LoadScript.Proofs.Number.Shortest
import LoadScript.Proofs.Outcome
import LoadScript.Proofs.Plan.Fields
import LoadScript.Proofs.Plan.Growth
import LoadScript.Proofs.Plan.Loaded
import LoadScript.Proofs.Plan.Nulls
import LoadScript.Proofs.Plan.Profiles
import LoadScript.Proofs.Plan.Refusals
import LoadScript.Proofs.Plan.RoundTrip
import LoadScript.Proofs.Plan.Saving
import LoadScript.Proofs.Plan.Shapes
import LoadScript.Proofs.Script.Brackets
import LoadScript.Proofs.Script.CommentMarks
import LoadScript.Proofs.Script.Comments
import LoadScript.Proofs.Script.Evaluation
import LoadScript.Proofs.Script.Expressions
import LoadScript.Proofs.Script.Layout
import LoadScript.Proofs.Script.Lexing
import LoadScript.Proofs.Script.Literals
import LoadScript.Proofs.Script.Loose
import LoadScript.Proofs.Script.Numerals
import LoadScript.Proofs.Script.Parts
import LoadScript.Proofs.Script.Paths
import LoadScript.Proofs.Script.Pieces
import LoadScript.Proofs.Script.PropertyNames
import LoadScript.Proofs.Script.Resolved
import LoadScript.Proofs.Script.Statements
import LoadScript.Proofs.Script.Templates
import LoadScript.Proofs.Script.Values
import LoadScript.Proofs.Service
import LoadScript.Proofs.Shell.Words
import LoadScript.Proofs.Text.Case
import LoadScript.Proofs.Text.Cutting
import LoadScript.Proofs.Text.LineEnds
import LoadScript.Proofs.Text.Runs
import LoadScript.Proofs.Text.Trimming
import LoadScript.Proofs.Text.WholeNumber
import LoadScript.Proofs.Text.Words
import LoadScript.Script.Brackets
import LoadScript.Script.Evaluation
import LoadScript.Script.Functions
import LoadScript.Script.Identifier
import LoadScript.Script.Literal
import LoadScript.Script.Loose
import LoadScript.Script.Names
import LoadScript.Script.Numbers
import LoadScript.Script.Parts
import LoadScript.Script.Placeholder
import LoadScript.Script.Printer
import LoadScript.Script.PropertyNames
import LoadScript.Script.Syntax
import LoadScript.Script.Template
import LoadScript.Script.Tree
import LoadScript.Script.Value
import LoadScript.Service
import LoadScript.Service.Server
import LoadScript.Service.Standard
import LoadScript.Service.Target
import LoadScript.Settings
import LoadScript.Shell.Words
import LoadScript.Text.Alphanumeric
import LoadScript.Text.Blank
import LoadScript.Text.Case
import LoadScript.Text.Columns
import LoadScript.Text.Digit
import LoadScript.Text.Identifier
import LoadScript.Text.Letter
import LoadScript.Text.Lines
import LoadScript.Text.PlainNumber
import LoadScript.Text.Printable
import LoadScript.Text.Quoted
import LoadScript.Text.Ranges
import LoadScript.Text.Split
import LoadScript.Text.WholeNumber
