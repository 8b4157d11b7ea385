import DataProxy.Rust
import DataProxy.Ulid
import DataProxy.Structs
import DataProxy.Transition
import DataProxy.Caching.Cache
import DataProxy.Auth.Intent
import DataProxy.Auth.Resources
import DataProxy.Auth.Token
import DataProxy.Auth.Access
import DataProxy.Auth.Bearer
import DataProxy.Caching.Auth
import DataProxy.DataServer.Ranges
import DataProxy.Replication.Messages
import DataProxy.Replication.Md5
import DataProxy.Replication.Backend
import DataProxy.Replication.Scheduler
import DataProxy.Replication.Session
import DataProxy.Replication.Commit
import DataProxy.Replication.Loads
import DataProxy.Replication.Outcome
import DataProxy.Replication.Acks
import DataProxy.Replication.Liveness
import DataProxy.Replication.Result
import DataProxy.Replication.Delivery
import DataProxy.Replication.Unrequested
import DataProxy.DataBackends.S3Backend
import DataProxy.Bundler.WebServer
import DataProxy.Presign.Signer
