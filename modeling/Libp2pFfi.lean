import Libp2pFfi.Tables
import Libp2pFfi.Abi
import Libp2pFfi.Crates
import Libp2pFfi.Arithmetic
import Libp2pFfi.Events
import Libp2pFfi.QueueRuns
import Libp2pFfi.Delegation
import Libp2pFfi.Wire
import Libp2pFfi.Buckets
import Libp2pFfi.Limits
import Libp2pFfi.BucketTables
import Libp2pFfi.Admission
import Libp2pFfi.LimitRuns
import Libp2pFfi.RateBound
import Libp2pFfi.Fitting
import Libp2pFfi.Arrivals
import Libp2pFfi.FixedWindows
import Libp2pFfi.RateLimiters
import Libp2pFfi.Latest
import Libp2pFfi.Rotation
import Libp2pFfi.ReportWindows
import Libp2pFfi.Decision
import Libp2pFfi.SourceRates
import Libp2pFfi.RateChange
import Libp2pFfi.Traceless
import Libp2pFfi.Runs
import Libp2pFfi.Remembered
import Libp2pFfi.AddressBook
import Libp2pFfi.BookRuns
import Libp2pFfi.Options
import Libp2pFfi.RelayRate
import Libp2pFfi.NodeState
import Libp2pFfi.Node
import Libp2pFfi.CandidateOrder
import Libp2pFfi.Frames
import Libp2pFfi.Advance
import Libp2pFfi.EventLoop
import Libp2pFfi.TopicDials
import Libp2pFfi.Outcomes
import Libp2pFfi.Ledger
import Libp2pFfi.Bookkeeping
import Libp2pFfi.Story
import Libp2pFfi.Chronicle
import Libp2pFfi.Tidings
import Libp2pFfi.Failover
import Libp2pFfi.Authenticity
import Libp2pFfi.PollBuffer
import Libp2pFfi.Provided
import Libp2pFfi.Utf8
import Libp2pFfi.Formats
import Libp2pFfi.FrameFormat
import Libp2pFfi.Reader
import Libp2pFfi.DelegationFormat
import Libp2pFfi.Gossip
import Libp2pFfi.Parts
import Libp2pFfi.Reachability
import Libp2pFfi.Relays
import Libp2pFfi.Reservations
import Libp2pFfi.Memory
import Libp2pFfi.Inbound
import Libp2pFfi.DhtQueries
import Libp2pFfi.Subscriptions
import Libp2pFfi.Topics
import Libp2pFfi.Announcements
import Libp2pFfi.Publications
import Libp2pFfi.Connections
import Libp2pFfi.Protocols
import Libp2pFfi.QueueBound
import Libp2pFfi.PollAnswers
import Libp2pFfi.Lengths
import Libp2pFfi.RoutingSamples
import Libp2pFfi.Penalties
import Libp2pFfi.Mirror
import Libp2pFfi.Errands
import Libp2pFfi.Routine
import Libp2pFfi.Admissions
import Libp2pFfi.Provenance
import Libp2pFfi.Interleavings
import Libp2pFfi.Network
import Libp2pFfi.Deliveries
import Libp2pFfi.Postings
import Libp2pFfi.Refinement
import Libp2pFfi.Interface
import Libp2pFfi.Process
import Libp2pFfi.Threads
import Libp2pFfi.Lifecycle
import Libp2pFfi.Startup
import Libp2pFfi.Rationing
import Libp2pFfi.Statistics
import Libp2pFfi.Acceptance
import Libp2pFfi.Presence
import Libp2pFfi.Monitors
import Libp2pFfi.Waiting
import Libp2pFfi.Deadlines
import Libp2pFfi.Interop
import Libp2pFfi.StatsRecord
import Libp2pFfi.Agenda
import Libp2pFfi.Pacing
import Libp2pFfi.Learning
import Libp2pFfi.Upkeep
import Libp2pFfi.Lookups
