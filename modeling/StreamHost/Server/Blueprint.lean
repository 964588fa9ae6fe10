import StreamHost.Config.Registry
import StreamHost.Connection.Pipeline
import StreamHost.Deadline
import StreamHost.Handler
import StreamHost.Server.Core

/-!
Servers before they run: where they listen, what they attach to connections, and how they serve them. A
blueprint is made by hand or from settings, and `Blueprint.check` finds what is wrong with it before
anything is bound.
-/

namespace StreamHost.Server

open Connection (Pipeline)

/-- A `TcpServer`. -/
structure Blueprint where
  address : Address.Options := {}
  transport : Transport := .native
  registry : Option Tls.Registry := none
  pipeline : Pipeline := {}
  /-- Whether connections are kept in a group, so that a disposal can wait for them. -/
  tracked : Bool := false
  maxConnections : Nat := 10000
  handler : Handler := .discard

namespace Blueprint

/-- The same server at a socket address: `TcpServer::bind_address`. -/
def bindAddress (b : Blueprint) (a : Address.SocketAddress) : Blueprint :=
  { b with address := b.address.withSocketAddress a }

/-- The observer that keeps the metrics: a `MetricsObserver`. -/
def metricsObserver : Connection.Observer := { name := "metrics" }

/-- The server that settings describe: `TcpServer::from_config`. -/
def ofConfig (files : Files) (c : Config.Server) : Except Error Blueprint := do
  let registry ← c.tls.mapM (Config.buildRegistry files)
  return {
    address := c.listener.addressOptions
    transport := .ofNative c.listener.native
    registry
    pipeline :=
      { observers := if c.observability.metricsEnabled then [metricsObserver] else []
        wiretap := c.observability.wiretap }
    tracked := c.shutdown.trackConnections
    maxConnections := c.listener.maxConnections }

def shape (b : Blueprint) : String :=
  Shape.record "TcpServer"
    [("address", b.address.shape), ("transport", b.transport.shape),
      ("secure", Shape.bool b.registry.isSome), ("pipeline", b.pipeline.shape),
      ("max_connections", toString b.maxConnections)]

/-- What `TcpServer::bind_with` checks before anything is bound: the limit, the address and the number of
places. -/
def check (b : Blueprint) (now : Nat) (limit : Duration) : Except Error Address.Target := do
  let _ ← Deadline.check now limit
  let target ← b.address.target
  if b.maxConnections = 0 then
    throw (.configuration "max_connections must be greater than zero")
  return target

end Blueprint

end StreamHost.Server
