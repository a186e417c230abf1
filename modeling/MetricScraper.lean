import MetricScraper.Collector.Composite
import MetricScraper.Collector.Containers
import MetricScraper.Collector.DiskStatus
import MetricScraper.Collector.Failure
import MetricScraper.Collector.Network
import MetricScraper.Collector.Replication
import MetricScraper.Collector.Work
import MetricScraper.Counter.Snapshot
import MetricScraper.Decimal.Layout
import MetricScraper.Decimal.Reading
import MetricScraper.Decimal.Shortest
import MetricScraper.Disk.AttributeTable
import MetricScraper.Disk.Health
import MetricScraper.Disk.Signal
import MetricScraper.Duration
import MetricScraper.Engine.Instant
import MetricScraper.Engine.Move
import MetricScraper.Engine.Playout
import MetricScraper.Engine.Report
import MetricScraper.Engine.State
import MetricScraper.Exporter.Basic
import MetricScraper.Fixture.Document
import MetricScraper.Fixture.Source
import MetricScraper.Http.Message
import MetricScraper.Http.Server
import MetricScraper.Http.Target
import MetricScraper.Http.Timeout
import MetricScraper.Json.Meaning
import MetricScraper.Json.Syntax
import MetricScraper.Json.Value
import MetricScraper.Main
import MetricScraper.Metric.Basic
import MetricScraper.Metric.Exposition
import MetricScraper.Metric.Family
import MetricScraper.Metric.FieldTable
import MetricScraper.Metric.NumberFormat
import MetricScraper.Pattern.Blueprint
import MetricScraper.Pattern.ByteRanges
import MetricScraper.Pattern.Expression
import MetricScraper.Pattern.InstanceFilter
import MetricScraper.Pattern.Match
import MetricScraper.Pattern.Reader
import MetricScraper.Pattern.Size
import MetricScraper.Pattern.Syntax
import MetricScraper.Query.Basic
import MetricScraper.Registry.Basic
import MetricScraper.Registry.Builtin
import MetricScraper.Settings.Address
import MetricScraper.Settings.Basic
import MetricScraper.Settings.CommandLine
import MetricScraper.Settings.ConfigError
import MetricScraper.Text.Blank
import MetricScraper.Text.CommaList
import MetricScraper.Text.Quoted
import MetricScraper.Unicode.Age
import MetricScraper.Unicode.Category
import MetricScraper.Unicode.CharSet
import MetricScraper.Unicode.Classes
import MetricScraper.Unicode.Folding
import MetricScraper.Unicode.Property
import MetricScraper.Unicode.Script
import MetricScraper.Unicode.Segmentation
import MetricScraper.Proofs.Engine.Effect
import MetricScraper.Proofs.Engine.Course
import MetricScraper.Proofs.Engine.Turn
import MetricScraper.Proofs.Engine.Links
import MetricScraper.Proofs.Engine.Stalls
import MetricScraper.Proofs.Engine.Outcomes
import MetricScraper.Proofs.Engine.Crowding
import MetricScraper.Proofs.Collector.Parts
import MetricScraper.Proofs.Collector.Yield
import MetricScraper.Proofs.Engine.Groups
import MetricScraper.Proofs.Engine.Jobs
import MetricScraper.Proofs.Engine.Composites
import MetricScraper.Proofs.Engine.Fates
import MetricScraper.Proofs.Engine.Reports
import MetricScraper.Proofs.Engine.Playouts
import MetricScraper.Proofs.Collector.Batch
import MetricScraper.Proofs.Exposition.Reader
import MetricScraper.Proofs.Exposition.RoundTrip
import MetricScraper.Proofs.Engine.Fetches
import MetricScraper.Proofs.Engine.Returns
import MetricScraper.Proofs.Engine.Prompt
import MetricScraper.Proofs.Engine.Independence
import MetricScraper.Proofs.Engine.Origins
import MetricScraper.Proofs.Engine.Contributions
import MetricScraper.Proofs.Collector.Replication
import MetricScraper.Proofs.Engine.Replication
import MetricScraper.Proofs.Disk.AttributeTable
import MetricScraper.Proofs.Registry.Growth
import MetricScraper.Proofs.Metric.Names
import MetricScraper.Proofs.Collector.Network
import MetricScraper.Proofs.Engine.ChildRuns
import MetricScraper.Proofs.Duration
import MetricScraper.Proofs.Http.Timeout
import MetricScraper.Proofs.Pattern.Matching
import MetricScraper.Proofs.Pattern.Cursor
import MetricScraper.Proofs.Pattern.Items
import MetricScraper.Proofs.Pattern.Brackets
import MetricScraper.Proofs.Pattern.Branches
import MetricScraper.Proofs.Pattern.InstanceFilter
import MetricScraper.Proofs.Collector.Columns
import MetricScraper.Proofs.Registry.Startup
import MetricScraper.Proofs.Collector.DiskStatus
import MetricScraper.Proofs.Metric.Groups
import MetricScraper.Proofs.Collector.Keeping
import MetricScraper.Proofs.Collector.Containers
import MetricScraper.Proofs.Engine.Keeping
import MetricScraper.Proofs.Engine.Series
import MetricScraper.Proofs.Fixture.Sharing
import MetricScraper.Proofs.Fixture.Freshness
import MetricScraper.Proofs.Exposition.Families
import MetricScraper.Proofs.Http.Routes
import MetricScraper.Proofs.Registry.Resolution
import MetricScraper.Proofs.Disk.Health
import MetricScraper.Proofs.Disk.Figures
import MetricScraper.Proofs.Query.Cells
import MetricScraper.Proofs.Collector.DiskBlocks
import MetricScraper.Proofs.Collector.ContainerBlocks
import MetricScraper.Proofs.Http.Requested
import MetricScraper.Proofs.Text.CommaList
import MetricScraper.Proofs.Fixture.Coverage
