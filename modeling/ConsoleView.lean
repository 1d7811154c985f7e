import ConsoleView.CommandLine.Arguments
import ConsoleView.CommandLine.Run
import ConsoleView.Component.Grid
import ConsoleView.Component.GroupVisibility
import ConsoleView.Component.InstanceSummary
import ConsoleView.Component.Link
import ConsoleView.Component.TemplateView
import ConsoleView.Decimal.Basic
import ConsoleView.Decimal.Layout
import ConsoleView.Decimal.Scaled
import ConsoleView.Decimal.Shortest
import ConsoleView.Disk.Basic
import ConsoleView.Disk.Path
import ConsoleView.Disk.Tree
import ConsoleView.Document.Basic
import ConsoleView.Document.Compile
import ConsoleView.Document.Edit
import ConsoleView.Error
import ConsoleView.Json.Basic
import ConsoleView.Json.Codec
import ConsoleView.Json.Fault
import ConsoleView.Json.Mismatch
import ConsoleView.Json.NumberReader
import ConsoleView.Json.Printer
import ConsoleView.Json.Reader
import ConsoleView.Json.Record
import ConsoleView.Main
import ConsoleView.Markup.Attributes
import ConsoleView.Markup.Basic
import ConsoleView.Markup.Html
import ConsoleView.NameMap
import ConsoleView.Preview.Render
import ConsoleView.Preview.Output
import ConsoleView.Proofs.Document.Activation
import ConsoleView.Proofs.Document.Failure
import ConsoleView.Proofs.Document.Forest
import ConsoleView.Proofs.Document.Fresh
import ConsoleView.Proofs.Document.InPlace
import ConsoleView.Proofs.Document.Layout
import ConsoleView.Proofs.Document.Reachable
import ConsoleView.Proofs.Document.Rendered
import ConsoleView.Proofs.Document.Run
import ConsoleView.Proofs.Document.Splice
import ConsoleView.Proofs.Document.TreeEdit
import ConsoleView.Proofs.Document.Walk
import ConsoleView.Proofs.GroupVisibility.Run
import ConsoleView.Proofs.InstanceSummary.Labels
import ConsoleView.Proofs.InstanceSummary.Mount
import ConsoleView.Proofs.InstanceSummary.Siblings
import ConsoleView.Proofs.InstanceSummary.Snapshot
import ConsoleView.Proofs.Markup.Bindings
import ConsoleView.Proofs.Markup.Path
import ConsoleView.Records.Instances
import ConsoleView.Records.Updates
import ConsoleView.Registry.Lookup
import ConsoleView.Registry.Table
import ConsoleView.Scope
import ConsoleView.Settings.Basic
import ConsoleView.Settings.File
import ConsoleView.Settings.Toml
import ConsoleView.Template.Files
import ConsoleView.Template.Name
import ConsoleView.Template.Resolver
import ConsoleView.Text.Blank
import ConsoleView.Text.Quoted
import ConsoleView.Text.Upper
import ConsoleView.Time.Calendar
import ConsoleView.Time.Timestamp
import ConsoleView.Toml.Basic
import ConsoleView.Toml.Reader
import ConsoleView.Toml.Scalar
import ConsoleView.Toml.Text
import ConsoleView.Toml.Tree
import ConsoleView.Toml.Writer
import ConsoleView.Proofs.Json.Record
import ConsoleView.Proofs.Preview.Faults
import ConsoleView.Proofs.Preview.Inputs
import ConsoleView.Proofs.Json.RoundTrip
import ConsoleView.Proofs.Preview.Nulls
import ConsoleView.Proofs.Preview.Rerender
import ConsoleView.Proofs.Markup.Unambiguous
import ConsoleView.Proofs.Registry.Names
import ConsoleView.Proofs.Decimal.Whole
import ConsoleView.Proofs.Json.Numbers
import ConsoleView.Proofs.Json.Partial
import ConsoleView.Proofs.Records.RoundTrip
import ConsoleView.Proofs.Settings.Calls
import ConsoleView.Proofs.Template.Caching
import ConsoleView.Proofs.Link.Destination
import ConsoleView.Proofs.InstanceSummary.Inputs
import ConsoleView.Proofs.Document.ReadBack
import ConsoleView.Proofs.Json.Line
import ConsoleView.Proofs.CommandLine.Run
import ConsoleView.Proofs.Markup.Untagged
import ConsoleView.Proofs.InstanceSummary.Cells
import ConsoleView.Proofs.Preview.Line
import ConsoleView.Proofs.Time.Display
