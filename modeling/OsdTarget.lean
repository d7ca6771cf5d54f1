import OsdTarget.Hierarchy
import OsdTarget.AttributeOwners
import OsdTarget.DataFiles
import OsdTarget.Continuation
import OsdTarget.Windows
import OsdTarget.PackedList
import OsdTarget.DataCommands
import OsdTarget.Listing
import OsdTarget.Truncation
import OsdTarget.Decoding
import OsdTarget.GetList
import OsdTarget.Pagination
import OsdTarget.Query
import OsdTarget.QueryPacking
import OsdTarget.QueryMatches
import OsdTarget.AttributeRules
import OsdTarget.Footprint
import OsdTarget.SetGet
import OsdTarget.SetMembers
import OsdTarget.AttributeParams
import OsdTarget.Rollback
import OsdTarget.CreateCommands
import OsdTarget.ServiceAction
import OsdTarget.CommandFrame
import OsdTarget.Transactions
import OsdTarget.CurrentCommand
import OsdTarget.FileNames
import OsdTarget.Chunks
import OsdTarget.LastWriter
import OsdTarget.Layouts
import OsdTarget.CreateAndWrite
import OsdTarget.DataContinuations
import OsdTarget.Formatting
import OsdTarget.FailedSets
import OsdTarget.Submit
import OsdTarget.ObjectViews
import OsdTarget.Lifecycle
import OsdTarget.TrackingCollections
import OsdTarget.Registers
import OsdTarget.EmptyParameters
import OsdTarget.PanAttributes
import OsdTarget.PanRead
import OsdTarget.Descriptors
import OsdTarget.DescriptorBalance
import OsdTarget.AttributeViews
import OsdTarget.PureRetrieval
import OsdTarget.LazyNames
import OsdTarget.OwnFields
import OsdTarget.MapTiling
import OsdTarget.Punch
import OsdTarget.GatherRead
import OsdTarget.Vectors
import OsdTarget.CollectionPointers
import OsdTarget.ConditionalSwap
import OsdTarget.ReplyLength
import OsdTarget.CasFormat
import OsdTarget.ObjectDescriptors
import OsdTarget.ListAttributes
import OsdTarget.ListedRows
import OsdTarget.ObjectCommands
import OsdTarget.Interference
import OsdTarget.Offsets
import OsdTarget.QueryBounds
import OsdTarget.DirectoryPage
import OsdTarget.LogicalLength
import OsdTarget.AttributeLengths
import OsdTarget.ZeroLengths
import OsdTarget.RegisterViews
import OsdTarget.ReportedAttributes
import OsdTarget.SeveralObjects
import OsdTarget.BuildNames
import OsdTarget.SqlText
import OsdTarget.Base.GrowingText
import OsdTarget.Events
import OsdTarget.SchemaKeys
import OsdTarget.SubmittedNamespace
import OsdTarget.SqlFunctions
import OsdTarget.FormatDirectories
import OsdTarget.ListingRuns
import OsdTarget.StoreRuns
import OsdTarget.IdCacheLoss
