import Eventhub.Lib.ListLemmas
import Eventhub.Lib.Wildcard
import Eventhub.Lib.Decimal
import Eventhub.Lib.Binary64
import Eventhub.Lib.Transition
import Eventhub.Lib.Program
import Eventhub.Lib.EventStream
import Eventhub.Lib.Scan
import Eventhub.Lib.Memory
import Eventhub.Lib.Radix64
import Eventhub.Lib.Progress
import Eventhub.Lib.LockOrder
import Eventhub.Bytes
import Eventhub.Util
import Eventhub.TopicFilter
import Eventhub.Json
import Eventhub.AccessController
import Eventhub.AclContainment
import Eventhub.TopicGrammar
import Eventhub.TokenHistory
import Eventhub.Jwt.Base64
import Eventhub.Jwt.Decode
import Eventhub.Jwt.Signature
import Eventhub.Jwt.Safety
import Eventhub.Websocket.WsParser
import Eventhub.Websocket.Machine
import Eventhub.Websocket.Refinement
import Eventhub.Websocket.Parser
import Eventhub.Websocket.Stream
import Eventhub.Websocket.Chunking
import Eventhub.Websocket.Errors
import Eventhub.Websocket.Frame
import Eventhub.Websocket.Decode
import Eventhub.Websocket.Response
import Eventhub.Websocket.RoundTrip
import Eventhub.Websocket.Reading
import Eventhub.Websocket.Fragments
import Eventhub.Websocket.Limits
import Eventhub.Websocket.Ping
import Eventhub.Redis.Store
import Eventhub.Redis.Keys
import Eventhub.Redis.CacheMessage
import Eventhub.Redis.CacheIds
import Eventhub.Redis.GetCache
import Eventhub.Redis.TopicLog
import Eventhub.Redis.Window
import Eventhub.Redis.Resume
import Eventhub.Redis.ResumeTopic
import Eventhub.Redis.ResumePattern
import Eventhub.Redis.ResumeLimit
import Eventhub.Redis.Shelf
import Eventhub.Config.Stream
import Eventhub.Config.Settings
import Eventhub.Config.LineEndings
import Eventhub.Hub.Registry
import Eventhub.Hub.Coherence
import Eventhub.Hub.Subscriptions
import Eventhub.Hub.History
import Eventhub.Hub.Publish
import Eventhub.Hub.Calls
import Eventhub.Hub.Serial
import Eventhub.Hub.Interleaving
import Eventhub.Hub.Server
import Eventhub.Hub.Fanout
import Eventhub.Hub.WorkerLoop
import Eventhub.Hub.Isolation
import Eventhub.Hub.Probe
import Eventhub.Cluster.System
import Eventhub.Cluster.Delivery
import Eventhub.Cluster.Tenants
import Eventhub.Cluster.Reconnect
import Eventhub.Replay.System
import Eventhub.Replay.Stored
import Eventhub.Replay.Query
import Eventhub.Replay.Wiring
import Eventhub.Replay.NoGap
import Eventhub.RateLimit.Config
import Eventhub.RateLimit.Closest
import Eventhub.RateLimit.System
import Eventhub.RateLimit.Bound
import Eventhub.RateLimit.Expiry
import Eventhub.Integrity.System
import Eventhub.Integrity.Tied
import Eventhub.Integrity.Purge
import Eventhub.Connection.Output
import Eventhub.Connection.Stream
import Eventhub.Connection.SslRead
import Eventhub.Http.Parser
import Eventhub.Http.Query
import Eventhub.Http.Picohttpparser
import Eventhub.Http.Incremental
import Eventhub.Http.Response
import Eventhub.Session.Command
import Eventhub.Session.Rpc
import Eventhub.Session.Http
import Eventhub.Session.Handlers
import Eventhub.Session.System
import Eventhub.Session.Mediation
import Eventhub.Session.SignedToken
import Eventhub.Session.HangUp
import Eventhub.Session.Sse
import Eventhub.Session.Reply
import Eventhub.Session.Pong
import Eventhub.Session.Lifetime
import Eventhub.Session.ErrorReply
import Eventhub.Session.CacheRuns
import Eventhub.Session.ReplayWindow
import Eventhub.EventLoop
import Eventhub.TimerFd
import Eventhub.Locks
import Eventhub.Connection.Wire
import Eventhub.Workers.Table
import Eventhub.Workers.Accounting
import Eventhub.Redis.KvStore
