import Pinning.Main
import Pinning.Resolver.Schedule
import Pinning.Resolver.Listing
import Pinning.Proofs.Fanout.Sound
import Pinning.Proofs.Activity
import Pinning.Proofs.Fanout.Endings
import Pinning.Proofs.Fanout.Execution
import Pinning.Proofs.Fanout.Whole
import Pinning.Proofs.Fanout.Advance
import Pinning.Proofs.Fanout.Order
import Pinning.Proofs.Exchange
import Pinning.Proofs.Store.Lookup
import Pinning.Proofs.Resolver.Settles
import Pinning.Proofs.Resolver.Origin
import Pinning.Proofs.Store.Path
import Pinning.Proofs.Store.Named
import Pinning.Proofs.Store.Narinfo
import Pinning.Proofs.Resolver.CachedPaths
import Pinning.Proofs.Resolver.Execution
import Pinning.Proofs.Platform
import Pinning.Proofs.Timestamp
import Pinning.Proofs.Spec
import Pinning.Proofs.Text
import Pinning.Proofs.Text.Utf8
import Pinning.Proofs.Url.Percent
import Pinning.Proofs.Url.Form
import Pinning.Proofs.Url.Path
import Pinning.Proofs.Url.Reader
import Pinning.Proofs.Url.Relative
import Pinning.Proofs.Url.Below
import Pinning.Proofs.Http.Request
import Pinning.Proofs.Store.Requests
import Pinning.Proofs.RunX.Requests
import Pinning.Proofs.RunX.Reference
import Pinning.Proofs.Resolver.Protocols
import Pinning.Proofs.Resolver.TwoStores
import Pinning.Proofs.Resolver.Representative
import Pinning.Proofs.RunX.Release
import Pinning.Proofs.RunX.Candidates
import Pinning.Proofs.Flake
import Pinning.Proofs.Draft
import Pinning.Proofs.Resolver.Results
import Pinning.Proofs.Resolver.Pinned
import Pinning.Proofs.Resolver.LastModified
import Pinning.Proofs.Resolver.StorePaths
import Pinning.Proofs.Cancellation
import Pinning.Proofs.Fanout.Cancelled
import Pinning.Proofs.Resolver.Cancelled
import Pinning.Proofs.Resolver.Calls
import Pinning.Proofs.Text.Numeral
import Pinning.Proofs.Json.Grammar
import Pinning.Proofs.Json.Reader
import Pinning.Proofs.Json.Record
import Pinning.Proofs.Report.Lock
import Pinning.Proofs.Calendar
import Pinning.Proofs.Calendar.Succession
import Pinning.Proofs.Timestamp.Reader
import Pinning.Proofs.Timestamp.Unix
import Pinning.Proofs.Timestamp.Moment
import Pinning.Proofs.Search.Codec
import Pinning.Proofs.Resolver.Batch
import Pinning.Proofs.Resolver.Advance
import Pinning.Proofs.Resolver.Listing
import Pinning.Proofs.Resolver.Together
import Pinning.Proofs.Served
import Pinning.Proofs.Resolver.Served
import Pinning.Proofs.Files
import Pinning.Proofs.Command.Run
import Pinning.Proofs.Timestamp.Internet
import Pinning.Proofs.Search.Answers
import Pinning.Proofs.Resolver.Failures
import Pinning.Proofs.Resolver.ExitCode
import Pinning.Proofs.Resolver.TwoReaders
import Pinning.Proofs.Url.Base
import Pinning.Proofs.Search.Endpoint
import Pinning.Proofs.Resolver.BaseUrls
import Pinning.Proofs.Flake.Directory
import Pinning.Proofs.Report.Listing
import Pinning.Proofs.Timestamp.Truncated
import Pinning.Proofs.Resolver.Enriched
import Pinning.Proofs.Resolver.Configured
