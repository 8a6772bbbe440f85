import Gocql.Support.BigEndian
import Gocql.Marshal.Integers
import Gocql.Marshal.Varint
import Gocql.Cluster.Host
import Gocql.Cluster.Topology
import Gocql.Support.Panic
import Gocql.Frame.Read
import Gocql.Marshal.TypeInfo
import Gocql.Frame.Parse
import Gocql.Support.Stream
import Gocql.Frame.Header
import Gocql.Conn.Recv
import Gocql.Support.Reflect
import Gocql.Marshal.Composite
import Gocql.Marshal.Decode
import Gocql.Marshal.RoundTrip
import Gocql.Cluster.Pick
import Gocql.Session.Scan
import Gocql.Conn.Execute
import Gocql.Conn.Exec
import Gocql.Support.WordBits
import Gocql.Streams.IDGenerator
import Gocql.Metadata.Compile
import Gocql.Marshal.Duration
import Gocql.Support.Chan
import Gocql.Cluster.RefreshDebouncer
import Gocql.Frame.Write
import Gocql.Frame.Encode
import Gocql.Marshal.Date
import Gocql.Marshal.Scalars
import Gocql.Cluster.RoundRobin
import Gocql.Cluster.NodeEvents
import Gocql.Cluster.Replicas
import Gocql.Conn.Coalesce
import Gocql.Cluster.Version
import Gocql.Session.RoutingKey
import Gocql.Cluster.HostList
import Gocql.Support.Recency
import Gocql.Cache.Lru
import Gocql.Session.RoutingKeyInfo
import Gocql.Support.Fuel
import Gocql.Conn.Reprepare
import Gocql.Session.QueryExecutor
import Gocql.Marshal.Timestamp
import Gocql.Uuid.Time
import Gocql.Uuid.Text
import Gocql.Support.MurmurHash3
import Gocql.Internal.Murmur
import Gocql.Support.GoStrings
import Gocql.Metadata.TypeParser
import Gocql.Metadata.TypeNames
import Gocql.Support.Wp
import Gocql.Metadata.TypeParserFuel
import Gocql.Cluster.Ring
import Gocql.Marshal.Native
