import PgBalancer.QueryCache.OidMap
import PgBalancer.Config.Variables
import PgBalancer.Replication.VictimNodes
import PgBalancer.Watchdog.LostTimer
import PgBalancer.Watchdog.SplitBrain
import PgBalancer.Watchdog.Failover
import PgBalancer.QueryCache.OwnWrites
import PgBalancer.QueryCache.Lock
import PgBalancer.QueryCache.StoredResults
import PgBalancer.Replication.SnapshotIsolation
import PgBalancer.Child.ConnectionCounter
import PgBalancer.Watchdog.Commands
import PgBalancer.Main.DegenerateRequest
import PgBalancer.Main.RecordedNodes
import PgBalancer.Main.VictimProcesses
import PgBalancer.Routing.ReplicationDelay
import PgBalancer.Routing.NodeSelection
import PgBalancer.Watchdog.NodeFunction
import PgBalancer.Child.ApplicationName
import PgBalancer.QueryCache.FreeSpaceMap
import PgBalancer.QueryCache.BlockLayout
import PgBalancer.QueryCache.Reclaim
import PgBalancer.QueryCache.Expiry
import PgBalancer.QueryCache.BoundedIndex
import PgBalancer.QueryCache.Replay
import PgBalancer.Worker.ReplicationLag
import PgBalancer.Auth.ScramClient
import PgBalancer.Auth.HostBasedAccess
import PgBalancer.QueryCache.ModifiedTables
import PgBalancer.Routing.SessionSettings
import PgBalancer.QueryCache.LikelySelect
import PgBalancer.Relcache.Serialisation
import PgBalancer.Relcache.LocalCache
import PgBalancer.Session.CloseAnswers
import PgBalancer.Routing.AdaptiveReads
import PgBalancer.Session.Destinations
import PgBalancer.Protocol.Reporting
import PgBalancer.Protocol.FunctionCall
import PgBalancer.Protocol.PacketKinds
import PgBalancer.Main.FalsePrimary
import PgBalancer.Main.FollowPrimaryLock
import PgBalancer.Watchdog.Lifecheck
import PgBalancer.Watchdog.Decoders
import PgBalancer.Watchdog.NodeHash
