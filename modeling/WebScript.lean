import WebScript.Access
import WebScript.Browser.Accessor
import WebScript.Browser.Delay
import WebScript.Browser.PostRoute
import WebScript.Browser.Usage
import WebScript.Command.Arguments
import WebScript.Command.Execute
import WebScript.Config
import WebScript.Decimal.Binary
import WebScript.Decimal.Read
import WebScript.Decimal.Shortest
import WebScript.Dict
import WebScript.Display.Emoji
import WebScript.Display.EmojiTable
import WebScript.Display.Json
import WebScript.Display.Layout
import WebScript.Display.Lines
import WebScript.Display.Markup
import WebScript.Error
import WebScript.Files
import WebScript.Html.Closing
import WebScript.Html.Node
import WebScript.Html.Reference
import WebScript.Html.ReferenceTable
import WebScript.Html.Token
import WebScript.Html.Tree
import WebScript.Html.Writer
import WebScript.Http.Session
import WebScript.Http.Status
import WebScript.Inspection
import WebScript.Main
import WebScript.Number.Hex
import WebScript.Number.Whole
import WebScript.Page.Basic
import WebScript.Page.Extraction
import WebScript.Page.Form
import WebScript.Page.Query
import WebScript.Page.Submit
import WebScript.Pattern.Basic
import WebScript.Pattern.Match
import WebScript.Pattern.Reading
import WebScript.Run.Action
import WebScript.Run.Perform
import WebScript.Run.Runner
import WebScript.Run.Session
import WebScript.Script.Basic
import WebScript.Script.Jumps
import WebScript.Script.Load
import WebScript.Template
import WebScript.Text.Blank
import WebScript.Text.Case
import WebScript.Text.CaseTable
import WebScript.Text.Find
import WebScript.Text.Printable
import WebScript.Text.Quoted
import WebScript.Text.SigmaContext
import WebScript.Text.Variants
import WebScript.Text.Word
import WebScript.Text.WordTable
import WebScript.Url.Encoded
import WebScript.Url.Host
import WebScript.Url.Split
import WebScript.Value.Basic
import WebScript.Value.Calendar
import WebScript.Value.Show
import WebScript.Value.Whole
import WebScript.XPath.Eval
import WebScript.XPath.Expr
import WebScript.XPath.Number
import WebScript.XPath.Reading
import WebScript.XPath.Tree
import WebScript.Yaml.Content
import WebScript.Yaml.Cursor
import WebScript.Yaml.Document
import WebScript.Yaml.Node
import WebScript.Yaml.Scalar
import WebScript.Yaml.Token
import WebScript.Proofs.Except
import WebScript.Proofs.Pairs
import WebScript.Proofs.NameMap
import WebScript.Proofs.Dict
import WebScript.Proofs.Script.Names
import WebScript.Proofs.Script.Jumps
import WebScript.Proofs.Script.Lines
import WebScript.Proofs.Script.Sameness
import WebScript.Proofs.Script.Parts
import WebScript.Proofs.Script.Loading
import WebScript.Proofs.Script.Obstacles
import WebScript.Proofs.Script.WellFormed
import WebScript.Proofs.Script.Inlining
import WebScript.Proofs.Yaml.Scanning
import WebScript.Proofs.Yaml.Tree
import WebScript.Proofs.Yaml.Faults
import WebScript.Proofs.Browser.Lifecycle
import WebScript.Proofs.Text.Find
import WebScript.Proofs.Template.Resolution
import WebScript.Proofs.Template.Placeholder
import WebScript.Proofs.Template.Replacement
import WebScript.Proofs.Template.Scan
import WebScript.Proofs.Template.Pass
import WebScript.Proofs.Template.Places
import WebScript.Proofs.Page.Extraction
import WebScript.Proofs.Page.Rules
import WebScript.Proofs.Page.Merging
import WebScript.Proofs.Run.Exchange
import WebScript.Proofs.Run.Messages
import WebScript.Proofs.Run.Perform
import WebScript.Proofs.Run.Calls
import WebScript.Proofs.Run.Likeness
import WebScript.Proofs.Run.Alike
import WebScript.Proofs.Run.Faults
import WebScript.Proofs.Run.Ways
import WebScript.Proofs.Run.Derivation
import WebScript.Proofs.Run.Ready
import WebScript.Proofs.Run.Refusal
import WebScript.Proofs.Run.Preparation
import WebScript.Proofs.Run.Point
import WebScript.Proofs.Run.Course
import WebScript.Proofs.Run.Termination
import WebScript.Proofs.Run.Causes
import WebScript.Proofs.Run.JumpDepth
import WebScript.Proofs.Run.JumpCheck
import WebScript.Proofs.Run.JumpReport
import WebScript.Proofs.Run.Jumps
import WebScript.Proofs.Run.Lockstep
import WebScript.Proofs.Run.History
import WebScript.Proofs.Run.Inlining
import WebScript.Proofs.Run.Order
import WebScript.Proofs.Run.Halting
import WebScript.Proofs.Run.Outputs
import WebScript.Proofs.Run.Breakdown
import WebScript.Proofs.Inspection
import WebScript.Proofs.Run.Foresight
import WebScript.Proofs.Display.Json
import WebScript.Proofs.Display.Markup
import WebScript.Proofs.Command.Inputs
import WebScript.Proofs.Command.Ending
import WebScript.Proofs.Page.Seeding
import WebScript.Proofs.Page.Overriding
import WebScript.Proofs.Run.Submissions
import WebScript.Proofs.Run.Literals
import WebScript.Proofs.Precedence
import WebScript.Proofs.XPath.Order
import WebScript.Proofs.Page.Options
import WebScript.Proofs.Page.Findings
import WebScript.Proofs.Page.LastWord
import WebScript.Proofs.Run.Expectations
import WebScript.Proofs.Pattern.Lettering
import WebScript.Proofs.Pattern.Near
import WebScript.Proofs.Pattern.InStep
import WebScript.Proofs.Pattern.Names
import WebScript.Proofs.Pattern.Sets
import WebScript.Proofs.Pattern.Parts
import WebScript.Proofs.Pattern.Openings
import WebScript.Proofs.Pattern.Trees
import WebScript.Proofs.Pattern.Leniency
import WebScript.Proofs.Pattern.Spelling
import WebScript.Proofs.Page.Choosing
import WebScript.Proofs.Url.Encoded
import WebScript.Proofs.Url.Target
import WebScript.Proofs.Text.Ink
import WebScript.Proofs.Html.Tree
import WebScript.Proofs.Html.Writing
import WebScript.Proofs.Page.Markup
import WebScript.Proofs.Display.Pieces
import WebScript.Proofs.Display.Literal
import WebScript.Proofs.Display.Tags
import WebScript.Proofs.Display.Cells
import WebScript.Proofs.Display.Lines
import WebScript.Proofs.Command.TextReport
import WebScript.Proofs.Config
import WebScript.Proofs.Script.Places
import WebScript.Proofs.Script.Respelling
import WebScript.Proofs.Script.Members
import WebScript.Proofs.Script.Nulls
import WebScript.Proofs.Run.Acceptance
import WebScript.Proofs.Browser.Launching
import WebScript.Proofs.Browser.Posting
import WebScript.Proofs.Page.Shown
import WebScript.Proofs.Number
import WebScript.Proofs.Script.Codes
