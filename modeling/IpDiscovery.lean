import IpDiscovery.Base.Machine
import IpDiscovery.Base.Bytes
import IpDiscovery.Types
import IpDiscovery.Provider
import IpDiscovery.Stun.Message
import IpDiscovery.Stun.Wire
import IpDiscovery.Stun.Alignment
import IpDiscovery.Stun.Address
import IpDiscovery.Stun.Provider
import IpDiscovery.Stun.Reply
import IpDiscovery.AddrText
import IpDiscovery.AddrTextLaws
import IpDiscovery.Dns.Protocol
import IpDiscovery.Dns.Names
import IpDiscovery.Dns.Wire
import IpDiscovery.Dns.Answers
import IpDiscovery.Dns.Parse
import IpDiscovery.Dns.Provider
import IpDiscovery.Dns.Reply
import IpDiscovery.Base.HashMap
import IpDiscovery.Base.Plurality
import IpDiscovery.Consensus
import IpDiscovery.Async.Futures
import IpDiscovery.Async.FutureLaws
import IpDiscovery.Base.Text
import IpDiscovery.Http.Provider
import IpDiscovery.Config
import IpDiscovery.Async.Resolver
import IpDiscovery.Base.Runs
import IpDiscovery.Blocking.Threads
import IpDiscovery.Blocking.Collect
import IpDiscovery.Blocking.First
import IpDiscovery.Blocking.Resolver
import IpDiscovery.Blocking.ThreadLaws
import IpDiscovery.Blocking.CollectLaws
import IpDiscovery.Blocking.FirstLaws
import IpDiscovery.Async.Answers
import IpDiscovery.Blocking.Answers
import IpDiscovery.Resolvers
import IpDiscovery.Supporters
import IpDiscovery.Agreement
import IpDiscovery.Builder
import IpDiscovery.Blocking.Undelayed
import IpDiscovery.Blocking.Deadline
import IpDiscovery.Blocking.Accounting
import IpDiscovery.Blocking.InTime
import IpDiscovery.Async.FirstOrder
import IpDiscovery.Blocking.FirstOrder
import IpDiscovery.FirstSuccess
import IpDiscovery.Async.Race
import IpDiscovery.Async.Join
import IpDiscovery.Gist
import IpDiscovery.Blocking.Punctual
import IpDiscovery.Parity
import IpDiscovery.Dns.Safety
import IpDiscovery.Dns.Query
import IpDiscovery.Dns.QueryLaws
import IpDiscovery.Dns.Limits
import IpDiscovery.Dns.Segments
import IpDiscovery.Dns.Truncation
import IpDiscovery.Dns.Order
import IpDiscovery.Network
import IpDiscovery.Dns.Request
import IpDiscovery.Http.Request
import IpDiscovery.Stun.Request
import IpDiscovery.Families
import IpDiscovery.Preference
import IpDiscovery.Base.Exchange
import IpDiscovery.Stun.Exchange
import IpDiscovery.Dns.Exchange
import IpDiscovery.Base.Quorum
import IpDiscovery.Ballots
import IpDiscovery.Tolerance
import IpDiscovery.Base.Turns
import IpDiscovery.Blocking.Turns
import IpDiscovery.Blocking.Attribution
import IpDiscovery.Attribution
import IpDiscovery.Blocking.Timing
import IpDiscovery.Blocking.FirstTiming
import IpDiscovery.Features
import IpDiscovery.Builtins
import IpDiscovery.EntryPoints
import IpDiscovery.Base.TextLaws
import IpDiscovery.Http.Bodies
import IpDiscovery.Ipd
import IpDiscovery.Node
import IpDiscovery.FrontEnds
import IpDiscovery.Sightings
import IpDiscovery.Base.NameTable
import IpDiscovery.Spelling
