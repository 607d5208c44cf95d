import DruidPanels.Broker
import DruidPanels.DataSource
import DruidPanels.Decimal.Shortest
import DruidPanels.Fault
import DruidPanels.Filter
import DruidPanels.Granularity
import DruidPanels.Http.MediaType
import DruidPanels.Http.Path
import DruidPanels.Http.Server
import DruidPanels.Json.Decode
import DruidPanels.Json.Draft
import DruidPanels.Json.Number
import DruidPanels.Json.Text
import DruidPanels.Json.Value
import DruidPanels.Net.Address
import DruidPanels.Panel.Request
import DruidPanels.Panel.Target
import DruidPanels.Query.Metrics
import DruidPanels.Query.Native
import DruidPanels.Query.Spec
import DruidPanels.Reply.Error
import DruidPanels.Reply.Listing
import DruidPanels.Reply.Pivot
import DruidPanels.Reply.Timestamp
import DruidPanels.Series
import DruidPanels.Service
import DruidPanels.Settings
import DruidPanels.Template
import DruidPanels.Text.Blank
import DruidPanels.Text.Cut
import DruidPanels.Text.Digits
import DruidPanels.Text.Extending
import DruidPanels.Text.Quotation
import DruidPanels.Text.Unassigned
import DruidPanels.Time.Calendar
import DruidPanels.Time.Calendar.Lemmas
import DruidPanels.Time.Expression
import DruidPanels.Time.Instant
import DruidPanels.Time.Notation
import DruidPanels.Time.Steps
import DruidPanels.Window
import DruidPanels.Word
import DruidPanels.Proofs.Exchange
import DruidPanels.Proofs.FanOut
import DruidPanels.Proofs.WrittenQuery
import DruidPanels.Proofs.Fields
import DruidPanels.Proofs.NativeBody
import DruidPanels.Proofs.Buckets
import DruidPanels.Proofs.PostedMetrics
import DruidPanels.Proofs.DateMath
import DruidPanels.Proofs.Months
import DruidPanels.Proofs.UnitStarts
import DruidPanels.Proofs.Rounding
import DruidPanels.Proofs.PlannedBuckets
import DruidPanels.Proofs.Expansion
import DruidPanels.Proofs.GroupTables
import DruidPanels.Proofs.TopTables
import DruidPanels.Proofs.FilterEntries
import DruidPanels.Proofs.GroupNames
import DruidPanels.Proofs.FilterMeaning
import DruidPanels.Proofs.Directions
import DruidPanels.Proofs.Routes
import DruidPanels.Proofs.Refusals
import DruidPanels.Proofs.Blame
import DruidPanels.Proofs.EventTimes
import DruidPanels.Proofs.StepTexts
import DruidPanels.Proofs.StepRuns
import DruidPanels.Proofs.TimeLine
import DruidPanels.Proofs.NumericEdges
import DruidPanels.Proofs.RowTimes
import DruidPanels.Proofs.SecondCuts
import DruidPanels.Proofs.Clamping
import DruidPanels.Proofs.StartEdges
import DruidPanels.Proofs.LeapSeconds
import DruidPanels.Proofs.WrittenInstants
import DruidPanels.Proofs.PlannedIntervals
import DruidPanels.Proofs.SqlRows
import DruidPanels.Proofs.SqlHeader
import DruidPanels.Proofs.DistinctKeys
import DruidPanels.Proofs.FinestWidths
import DruidPanels.Proofs.FlattenedEvents
import DruidPanels.Proofs.VisibleMetrics
import DruidPanels.Proofs.RawTexts
import DruidPanels.Proofs.LookupFilters
import DruidPanels.Proofs.NameSegments
import DruidPanels.Proofs.Notations
import DruidPanels.Proofs.VariedQueries
import DruidPanels.Proofs.PostedBodies
import DruidPanels.Proofs.TargetKeys
import DruidPanels.Proofs.DescriptorForms
import DruidPanels.Proofs.BrokerUrl
