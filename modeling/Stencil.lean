import Stencil.Data.Checked
import Stencil.Data.Format
import Stencil.Data.Member
import Stencil.Data.Text
import Stencil.Data.Value
import Stencil.Engine
import Stencil.Fault
import Stencil.Journal.Message
import Stencil.Journal.Note
import Stencil.Journal.Noted
import Stencil.Journal.Placeholder
import Stencil.Lookup.Absence
import Stencil.Lookup.Resolver
import Stencil.Numeric.Binary64
import Stencil.Numeric.BinaryText
import Stencil.Numeric.Decimal
import Stencil.Numeric.DecimalSpec
import Stencil.Numeric.Digits
import Stencil.Numeric.Format
import Stencil.Numeric.Grouping
import Stencil.Numeric.IntegerText
import Stencil.Numeric.Layout
import Stencil.Numeric.Number
import Stencil.Numeric.Picture
import Stencil.Numeric.Reading
import Stencil.Numeric.Refusal
import Stencil.Numeric.Rounding
import Stencil.Numeric.Shortest
import Stencil.Numeric.Spec
import Stencil.Numeric.Standard
import Stencil.Proofs.Journal.Outcome
import Stencil.Proofs.Template.Scan
import Stencil.Proofs.Text.Occurrence
import Stencil.Render
import Stencil.Session
import Stencil.Settings
import Stencil.Template.Draft
import Stencil.Template.Grammar
import Stencil.Template.Parse
import Stencil.Template.Scan
import Stencil.Template.Segment
import Stencil.Template.Token
import Stencil.Temporal.Date
import Stencil.Temporal.Directive
import Stencil.Temporal.Moment
import Stencil.Temporal.Pattern
import Stencil.Temporal.Text
import Stencil.Text.Blank
import Stencil.Text.CharRange
import Stencil.Text.Digit
import Stencil.Text.Occurrence
import Stencil.Text.Printable
import Stencil.Text.Quoted
import Stencil.Proofs.Template.Joining
import Stencil.Proofs.Template.Marks
import Stencil.Proofs.Template.Parse
import Stencil.Proofs.Template.Printing
import Stencil.Proofs.Render.Blocks
import Stencil.Proofs.Data.Ordinary
import Stencil.Proofs.Lookup.Contract
import Stencil.Proofs.Lookup.Safe
import Stencil.Proofs.Render.Total
import Stencil.Proofs.Engine
import Stencil.Proofs.Render.Nesting
import Stencil.Proofs.Template.Scopes
import Stencil.Proofs.Render.Warnings
import Stencil.Proofs.Session.Steps
import Stencil.Proofs.Session.SharedEngine
import Stencil.Proofs.Session.StoredSegments
import Stencil.Proofs.Text.Front
import Stencil.Proofs.Template.Classification
import Stencil.Proofs.Settings
import Stencil.Proofs.Journal.Silencing
import Stencil.Proofs.Session.Silencing
import Stencil.Proofs.Numeric.Decimal
import Stencil.Proofs.Numeric.Core
import Stencil.Proofs.Numeric.Grouping
import Stencil.Proofs.Numeric.Picture
import Stencil.Proofs.Temporal.Items
import Stencil.Proofs.Text.Sorting
import Stencil.Proofs.Temporal.Calendar
import Stencil.Proofs.Temporal.Offset
import Stencil.Proofs.Temporal.StandardPatterns
import Stencil.Proofs.Numeric.NearestBinary
import Stencil.Proofs.Numeric.StandardForm
import Stencil.Proofs.Numeric.WholeNumbers
import Stencil.Proofs.Numeric.Capacity
import Stencil.Proofs.Numeric.Context
import Stencil.Proofs.Numeric.Currency
import Stencil.Proofs.Numeric.PointedCores
import Stencil.Proofs.Lookup.Chains
import Stencil.Proofs.Lookup.Walk
import Stencil.Proofs.Lookup.Visible
import Stencil.Proofs.Render.Showing
import Stencil.Proofs.Journal.Warnings
import Stencil.Proofs.Numeric.Numerals
import Stencil.Proofs.Template.AssignedMarks
import Stencil.Proofs.Template.Unclosed
