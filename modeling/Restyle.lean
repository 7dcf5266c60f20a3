import Restyle.Backup.Entry
import Restyle.Backup.Store
import Restyle.Cache
import Restyle.Clock
import Restyle.CommandLine.Command
import Restyle.CommandLine.Misuse
import Restyle.CommandLine.Options
import Restyle.CommandLine.Run
import Restyle.CommandLine.Stop
import Restyle.Component.Graph
import Restyle.Component.Name
import Restyle.Component.Options
import Restyle.Component.Scannable
import Restyle.Component.Search
import Restyle.Component.Usage
import Restyle.Confidence
import Restyle.Console.ColorTable
import Restyle.Console.Literal
import Restyle.Console.Marked
import Restyle.Console.SignTable
import Restyle.Console.Style
import Restyle.Console.Table
import Restyle.Console.Tags
import Restyle.Console.Width
import Restyle.Console.WidthTable
import Restyle.Console.Wrap
import Restyle.Detection
import Restyle.Digest
import Restyle.Edit.Conflict
import Restyle.Edit.Outcome
import Restyle.Edit.Plan
import Restyle.Element.Capture
import Restyle.Element.Descriptor
import Restyle.Element.Kind
import Restyle.Element.Locate
import Restyle.Fault
import Restyle.Framework
import Restyle.Glob
import Restyle.Main
import Restyle.Markup.Attribute
import Restyle.Markup.Scan
import Restyle.Markup.Score
import Restyle.Markup.Selector
import Restyle.Moment
import Restyle.Number.Base36
import Restyle.Number.Binary64
import Restyle.Number.Reading
import Restyle.Number.Shortest
import Restyle.Settings.Basic
import Restyle.Settings.Files
import Restyle.Style.Apply
import Restyle.Style.Attribute
import Restyle.Style.Change
import Restyle.Style.ClassName
import Restyle.Style.Object
import Restyle.Text.Blank
import Restyle.Text.Case
import Restyle.Text.CaseTable
import Restyle.Text.CharacterName
import Restyle.Text.Decoding
import Restyle.Text.DigitTable
import Restyle.Text.Encoding
import Restyle.Text.NameTable
import Restyle.Text.PrintableTable
import Restyle.Text.Search
import Restyle.Text.Units
import Restyle.Text.Word
import Restyle.Text.WordTable
import Restyle.Toml.Defect
import Restyle.Toml.Header
import Restyle.Toml.Items
import Restyle.Toml.Layout
import Restyle.Toml.Library
import Restyle.Toml.Moment
import Restyle.Toml.Number
import Restyle.Toml.Place
import Restyle.Toml.Quotes
import Restyle.Toml.Reader
import Restyle.Toml.Setting
import Restyle.Toml.Text
import Restyle.Toml.Writer
import Restyle.Tree.Basic
import Restyle.Tree.Discovery
import Restyle.Tree.Path
import Restyle.Value.Basic
import Restyle.Value.Display
import Restyle.Value.Json
import Restyle.Value.Reading
import Restyle.Workspace.Basic
import Restyle.Workspace.Editor
import Restyle.Workspace.Resolver
import Restyle.Workspace.Results
import Restyle.Proofs.TagExtent
import Restyle.Proofs.AppliedChange
import Restyle.Proofs.CacheRun
import Restyle.Proofs.CachedLookup
import Restyle.Proofs.ConflictRun
import Restyle.Proofs.Distance
import Restyle.Proofs.EditLocality
import Restyle.Proofs.JsonValue
import Restyle.Proofs.KeptCopies
import Restyle.Proofs.LatestCopy
import Restyle.Proofs.Rollback
import Restyle.Proofs.SavedIndex
import Restyle.Proofs.StyleMerge
import Restyle.Proofs.TakenBack
import Restyle.Proofs.CancelPolicy
import Restyle.Proofs.StylesheetRun
import Restyle.Proofs.ChosenLine
import Restyle.Proofs.AnsweredPayload
import Restyle.Proofs.ManifestShape
import Restyle.Proofs.AnnouncedSetting
import Restyle.Proofs.UsageGraph
import Restyle.Proofs.CacheBound
import Restyle.Proofs.OwnAttribute
import Restyle.Proofs.InsertedAttribute
import Restyle.Proofs.PrunedHistory
import Restyle.Proofs.ReadBack
import Restyle.Proofs.RepeatedStyle
import Restyle.Proofs.SharedCopy
import Restyle.Proofs.DerailedDetection
import Restyle.Proofs.ReportedColumn
import Restyle.Proofs.DeclaredPlace
import Restyle.Proofs.ClosedCircle
import Restyle.Proofs.CodeBlocks
import Restyle.Proofs.ToldEvents
import Restyle.Proofs.HashedUnits
import Restyle.Proofs.ClosingPlace
