import Groundplan.Main
import Groundplan.Json.Reader
import Groundplan.Proofs.ScopeArrangement
import Groundplan.Proofs.Scalars
import Groundplan.Proofs.ResourceRecords
import Groundplan.Proofs.SurveyOutcomes
import Groundplan.Proofs.ScopeKeys
import Groundplan.Proofs.Ceiling
import Groundplan.Proofs.Skeleton
import Groundplan.Proofs.SkeletonReading
import Groundplan.Proofs.Quotation
import Groundplan.Proofs.StaticText
import Groundplan.Proofs.Decoding
import Groundplan.Proofs.Demands
import Groundplan.Proofs.DocumentOfText
import Groundplan.Proofs.FoundFiles
import Groundplan.Proofs.SurveyRoots
import Groundplan.Proofs.StripMarks
import Groundplan.Proofs.RegistryRuns
import Groundplan.Proofs.StoredSpans
import Groundplan.Proofs.Extent
import Groundplan.Proofs.LoweredSpans
import Groundplan.Proofs.ByteOrder
import Groundplan.Proofs.LongPaths
import Groundplan.Proofs.NamesAsBytes
import Groundplan.Proofs.DiscoveredFiles
import Groundplan.Proofs.WrittenFiles
import Groundplan.Proofs.CommandEffects
import Groundplan.Proofs.SourcePosition
import Groundplan.Proofs.QuotingLayers
import Groundplan.Proofs.ExpandedText
import Groundplan.Proofs.AcceptedSettings
import Groundplan.Proofs.OverriddenSettings
import Groundplan.Proofs.MergedSurveys
import Groundplan.Proofs.WrittenJson
import Groundplan.Proofs.ReportReading
import Groundplan.Proofs.ReportedDocuments
import Groundplan.Proofs.ExactQuotes
import Groundplan.Proofs.ColoredReports
