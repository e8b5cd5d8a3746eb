import ItemCatalog.Calendar.Date
import ItemCatalog.Calendar.Instant
import ItemCatalog.Catalog.Basic
import ItemCatalog.Command.Help
import ItemCatalog.Command.Options
import ItemCatalog.Command.Report
import ItemCatalog.Command.Run
import ItemCatalog.Command.Screen
import ItemCatalog.Config.Basic
import ItemCatalog.Config.EnvFile
import ItemCatalog.Config.Load
import ItemCatalog.Config.Placeholder
import ItemCatalog.Config.Shared
import ItemCatalog.Document.Legacy
import ItemCatalog.Document.Structured
import ItemCatalog.Fault
import ItemCatalog.Files.Path
import ItemCatalog.Files.Tree
import ItemCatalog.Item.Basic
import ItemCatalog.Item.Validation
import ItemCatalog.Log.Component
import ItemCatalog.Log.Console
import ItemCatalog.Log.Filter
import ItemCatalog.Log.Record
import ItemCatalog.Log.Registry
import ItemCatalog.Log.Scope
import ItemCatalog.Log.Setup
import ItemCatalog.Main
import ItemCatalog.Number.Binary64
import ItemCatalog.Number.Decimal
import ItemCatalog.Number.Read
import ItemCatalog.Number.Render
import ItemCatalog.Number.Shortest
import ItemCatalog.Population.Callback
import ItemCatalog.Population.Load
import ItemCatalog.Population.LoadMode
import ItemCatalog.Population.Pass
import ItemCatalog.Population.Progress
import ItemCatalog.Population.Settings
import ItemCatalog.Population.Source
import ItemCatalog.Population.State
import ItemCatalog.Proofs.Catalog.Additions
import ItemCatalog.Proofs.Catalog.Batches
import ItemCatalog.Proofs.Catalog.Contents
import ItemCatalog.Proofs.Catalog.History
import ItemCatalog.Proofs.Catalog.Lookup
import ItemCatalog.Proofs.Catalog.Storing
import ItemCatalog.Proofs.Config.Lookup
import ItemCatalog.Proofs.Config.Places
import ItemCatalog.Proofs.Config.Sharing
import ItemCatalog.Proofs.Config.Template
import ItemCatalog.Proofs.Document.Building
import ItemCatalog.Proofs.Document.DeclaredCharset
import ItemCatalog.Proofs.Document.Grammar
import ItemCatalog.Proofs.Document.Migration
import ItemCatalog.Proofs.Document.Mirror
import ItemCatalog.Proofs.Document.PartTexts
import ItemCatalog.Proofs.Document.Reporting
import ItemCatalog.Proofs.Document.Shorthand
import ItemCatalog.Proofs.Document.Versions
import ItemCatalog.Proofs.Files.Path
import ItemCatalog.Proofs.Item.Validity
import ItemCatalog.Proofs.Log.Blocks
import ItemCatalog.Proofs.Log.Console
import ItemCatalog.Proofs.Number.Digits
import ItemCatalog.Proofs.Number.Numerals
import ItemCatalog.Proofs.Number.Rounding
import ItemCatalog.Proofs.Number.Shortest
import ItemCatalog.Proofs.Number.Texts
import ItemCatalog.Proofs.Population.Accounting
import ItemCatalog.Proofs.Population.Actions
import ItemCatalog.Proofs.Population.Autodetection
import ItemCatalog.Proofs.Population.BestEffort
import ItemCatalog.Proofs.Population.Callbacks
import ItemCatalog.Proofs.Population.Callers
import ItemCatalog.Proofs.Population.Coherence
import ItemCatalog.Proofs.Population.Delivery
import ItemCatalog.Proofs.Population.FatalFaults
import ItemCatalog.Proofs.Population.Isolation
import ItemCatalog.Proofs.Population.Load
import ItemCatalog.Proofs.Population.LoadOutcome
import ItemCatalog.Proofs.Population.LocalFiles
import ItemCatalog.Proofs.Population.Moments
import ItemCatalog.Proofs.Population.Notices
import ItemCatalog.Proofs.Population.OneShot
import ItemCatalog.Proofs.Population.PassContents
import ItemCatalog.Proofs.Population.Passes
import ItemCatalog.Proofs.Population.Race
import ItemCatalog.Proofs.Population.Reading
import ItemCatalog.Proofs.Population.Records
import ItemCatalog.Proofs.Population.Repetition
import ItemCatalog.Proofs.Population.SealedContents
import ItemCatalog.Proofs.Population.Search
import ItemCatalog.Proofs.Population.Session
import ItemCatalog.Proofs.Population.SettledMode
import ItemCatalog.Proofs.Population.Sources
import ItemCatalog.Proofs.Population.Stages
import ItemCatalog.Proofs.Population.Step
import ItemCatalog.Proofs.Population.UnknownMode
import ItemCatalog.Proofs.Population.Weights
import ItemCatalog.Proofs.Resource.FileAddress
import ItemCatalog.Proofs.Resource.Reporting
import ItemCatalog.Proofs.Resource.Routing
import ItemCatalog.Proofs.Text.Misreading
import ItemCatalog.Proofs.Text.Percent
import ItemCatalog.Proofs.Text.Utf8
import ItemCatalog.Proofs.Value.Closing
import ItemCatalog.Proofs.Value.Entries
import ItemCatalog.Proofs.Value.Keys
import ItemCatalog.Proofs.Xml.FirstLine
import ItemCatalog.Proofs.Xml.Runs
import ItemCatalog.Proofs.Yaml.Contents
import ItemCatalog.Proofs.Yaml.Faults
import ItemCatalog.Proofs.Yaml.Keys
import ItemCatalog.Proofs.Yaml.Numerals
import ItemCatalog.Proofs.Yaml.Tokens
import ItemCatalog.Resource.Address
import ItemCatalog.Resource.HostNumber
import ItemCatalog.Resource.Http
import ItemCatalog.Resource.Loader
import ItemCatalog.Resource.Package
import ItemCatalog.Surroundings
import ItemCatalog.Text.Blank
import ItemCatalog.Text.Case
import ItemCatalog.Text.CaseTable
import ItemCatalog.Text.Charset
import ItemCatalog.Text.CharsetTable
import ItemCatalog.Text.Markup
import ItemCatalog.Text.Markup.Fits
import ItemCatalog.Text.Pattern.Basic
import ItemCatalog.Text.Pattern.CharSet
import ItemCatalog.Text.Pattern.Complaint
import ItemCatalog.Text.Pattern.Escape
import ItemCatalog.Text.Pattern.Piece
import ItemCatalog.Text.Pattern.Read
import ItemCatalog.Text.Percent
import ItemCatalog.Text.PrintableTable
import ItemCatalog.Text.Quoted
import ItemCatalog.Text.Ranges
import ItemCatalog.Text.Similar
import ItemCatalog.Text.Split
import ItemCatalog.Text.Word
import ItemCatalog.Text.WordTable
import ItemCatalog.Text.Wrap
import ItemCatalog.Value.Basic
import ItemCatalog.Value.Fill
import ItemCatalog.Value.Inspect
import ItemCatalog.Value.Scalar
import ItemCatalog.Wording
import ItemCatalog.Xml.AttributeType
import ItemCatalog.Xml.Chars
import ItemCatalog.Xml.ContentModel
import ItemCatalog.Xml.Declared
import ItemCatalog.Xml.Lexeme
import ItemCatalog.Xml.Read
import ItemCatalog.Xml.Tree
import ItemCatalog.Xml.Uri
import ItemCatalog.Yaml.Cursor
import ItemCatalog.Yaml.Fault
import ItemCatalog.Yaml.Load
import ItemCatalog.Yaml.Node
import ItemCatalog.Yaml.Scalar
import ItemCatalog.Yaml.Scan
import ItemCatalog.Yaml.Tag
import ItemCatalog.Yaml.Token
import ItemCatalog.Yaml.Typed
