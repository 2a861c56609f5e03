import Ormpp.Data.Bytes
import Ormpp.Data.Chunk
import Ormpp.Data.Decoder
import Ormpp.Data.Effect
import Ormpp.Data.Run
import Ormpp.Wire.Connection
import Ormpp.Wire.Framing
import Ormpp.Data.Decimal
import Ormpp.Wire.PacketReader
import Ormpp.Wire.Packet
import Ormpp.Wire.Response
import Ormpp.Wire.Server
import Ormpp.Wire.ResultSet
import Ormpp.Wire.Extent
import Ormpp.Wire.Command
import Ormpp.Wire.Answer
import Ormpp.Wire.Session
import Ormpp.Data.Transducer
import Ormpp.Sql.Lexer
import Ormpp.Sql.Literal
import Ormpp.Sql.Token
import Ormpp.Sql.Parameter
import Ormpp.Sql.Grammar
import Ormpp.Sql.Region
import Ormpp.Sql.Placeholder
import Ormpp.Bind.Format
import Ormpp.Bind.Scan
import Ormpp.Query.Condition
import Ormpp.Bind.Escape
import Ormpp.Query.Rendering
import Ormpp.Query.Injection
import Ormpp.Query.Tree
import Ormpp.Query.Builder
import Ormpp.AsyncPool.Accounting
import Ormpp.AsyncPool.Capacity
import Ormpp.AsyncPool.Ownership
import Ormpp.Query.Numbering
import Ormpp.Query.Items
import Ormpp.Query.Arity
import Ormpp.Query.Comparison
import Ormpp.Query.Fidelity
import Ormpp.AsyncPool.Generation
import Ormpp.AsyncPool.Shutdown
import Ormpp.Update.Key
import Ormpp.Update.Statement
import Ormpp.Update.Binding
import Ormpp.Data.Ownership
import Ormpp.SyncPool.Pool
import Ormpp.SyncPool.Conservation
import Ormpp.Adapter.Cancellation
import Ormpp.Bulk.Atomicity
import Ormpp.Bulk.Isolation
import Ormpp.Bulk.OpenTransaction
import Ormpp.Bulk.Visibility
import Ormpp.Registry.Resolution
import Ormpp.Schema.Alias
import Ormpp.Partition.Removal
import Ormpp.Conninfo.Connect
import Ormpp.Handle.Accounting
import Ormpp.View.Result
import Ormpp.Codec.RoundTrip
import Ormpp.Codec.Postgresql
import Ormpp.Codec.MysqlAsync
import Ormpp.Bulk.Count
import Ormpp.Bulk.InsertId
import Ormpp.Schema.InsertBinding
import Ormpp.Bind.Delimiter
import Ormpp.Update.Condition
import Ormpp.Update.Partial
import Ormpp.Codec.Parameter
import Ormpp.Fetch.Rows
import Ormpp.Fetch.Completeness
import Ormpp.Codec.Blob
import Ormpp.Data.Memory
import Ormpp.Wire.PacketCursor
import Ormpp.Wire.Robustness
import Ormpp.Wire.Lenenc
import Ormpp.Wire.Password
import Ormpp.Wire.Login
import Ormpp.Wire.HandshakeResponse
import Ormpp.Wire.Authentication
import Ormpp.Wire.Secrecy
import Ormpp.Fetch.Tuple
import Ormpp.Schema.Clients
import Ormpp.Sql.Evaluation
import Ormpp.Query.Membership
import Ormpp.Data.Growth
import Ormpp.Query.Join
import Ormpp.Data.Search
import Ormpp.Statement.Select
import Ormpp.Statement.Query
import Ormpp.Registry.KeyList
import Ormpp.Data.Substitution
import Ormpp.Statement.Argument
import Ormpp.Alter.Operation
import Ormpp.Alter.Index
import Ormpp.Alter.Execution
import Ormpp.Schema.TableBuilder
import Ormpp.Schema.CompositeKey
import Ormpp.Query.Clauses
import Ormpp.Query.Sum
import Ormpp.Sql.Database
import Ormpp.Data.Collection
import Ormpp.Sql.Conjunction
import Ormpp.Store.Class
import Ormpp.Store.Client
import Ormpp.Store.Create
import Ormpp.Store.Execute
import Ormpp.Store.History
