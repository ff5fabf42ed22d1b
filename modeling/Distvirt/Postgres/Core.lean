import Distvirt.Postgres.Connection
import Distvirt.Table

/-! The activator for Postgres: it tracks its client connections, connects them to the backend when
there is one, and tells the host whether it needs one. -/

namespace Distvirt.Postgres

inductive BackendNeed
  | none
  | traffic
  | active
deriving DecidableEq, Repr

inductive Event
  | streamOpen (handle : Nat)
  | streamData (handle : Nat) (data : List UInt8)
  | streamClose (handle : Nat)
  | backendAvailable (available : Bool)
  | upstreamConnectResult (handle : Nat) (ok : Bool)
  | upstreamData (handle : Nat) (data : List UInt8)
  | upstreamClose (handle : Nat)
  | tick
deriving DecidableEq

inductive Action
  | downstreamSend (stream : Nat) (data : List UInt8)
  | upstreamSend (stream : Nat) (data : List UInt8)
  | downstreamClose (stream : Nat)
  | upstreamClose (stream : Nat)
  | upstreamConnect (port : Nat)
  | setBackendNeed (need : BackendNeed)
  | log (message : String)
deriving DecidableEq

structure PostgresActivator where
  connections : Table Nat Connection := ∅
  upstreamToDownstream : Table Nat Nat := ∅
  pendingConnects : List Nat := []
  backendAvailable : Bool := false

namespace PostgresActivator

/-- A connection without a startup message needs no backend. -/
def meaningful (c : Connection) : Bool := c.phase ≠ .awaitingStartup && c.phase ≠ .sslNegotiation

def computeBackendNeed (a : PostgresActivator) : BackendNeed :=
  let meaningfulConnections := (a.connections.toList.map Prod.snd).filter meaningful
  if a.connections.toList.isEmpty then .none
  else if meaningfulConnections.isEmpty then .none
  else if meaningfulConnections.all Connection.isIdle then .none
  else .active

def updateBackendNeed (a : PostgresActivator) (oldNeed : BackendNeed) : List Action :=
  if oldNeed ≠ a.computeBackendNeed then [.setBackendNeed a.computeBackendNeed] else []

/-- The upstream of a client, the first that is found. -/
def upstreamOf (a : PostgresActivator) (handle : Nat) : Option Nat :=
  (a.upstreamToDownstream.toList.find? (fun e => e.2 == handle)).map Prod.fst

def processConnActions (a : PostgresActivator) (handle : Nat) (actions : List ConnAction) :
    List Action :=
  actions.filterMap (fun
    | .downstreamSend data => some (.downstreamSend handle data)
    | .upstreamSend data => (a.upstreamOf handle).map (.upstreamSend · data)
    | .downstreamClose => some (.downstreamClose handle)
    | .upstreamClose => (a.upstreamOf handle).map .upstreamClose
    | .log message => some (.log message))

def setConnection (a : PostgresActivator) (handle : Nat) (c : Connection) : PostgresActivator :=
  { a with connections := a.connections.insert handle c }

def handleStreamOpen (a : PostgresActivator) (handle : Nat) : PostgresActivator × List Action :=
  (a.setConnection handle .new,[])

def handleStreamData (t : Target) (a : PostgresActivator) (handle : Nat) (data : List UInt8) :
    PostgresActivator × List Action :=
  match a.connections.lookup handle with
  | none => (a,[])
  | some c =>
    let (c,connActions) := c.onClientData t data
    let b := a.setConnection handle c
    let actions := b.processConnActions handle connActions
    let (b,connects) := if b.backendAvailable && c.hasBufferedStartup then
        ({ b with pendingConnects := b.pendingConnects ++ [handle] },[.upstreamConnect 5432])
      else (b,[])
    (b,actions ++ connects ++ b.updateBackendNeed a.computeBackendNeed)

def handleStreamClose (a : PostgresActivator) (handle : Nat) : PostgresActivator × List Action :=
  match a.connections.lookup handle with
  | none => (a,a.updateBackendNeed a.computeBackendNeed)
  | some _ =>
    let b := { a with
      connections := a.connections.erase handle
      pendingConnects := a.pendingConnects.filter (· != handle) }
    match a.upstreamOf handle with
    | none => (b,b.updateBackendNeed a.computeBackendNeed)
    | some upstream =>
      let b := { b with upstreamToDownstream := b.upstreamToDownstream.erase upstream }
      (b,.upstreamClose upstream :: b.updateBackendNeed a.computeBackendNeed)

def handleBackendAvailable (a : PostgresActivator) (available : Bool) :
    PostgresActivator × List Action :=
  let b := { a with backendAvailable := available }
  if available then
    let handles := (b.connections.toList.filter (fun e => e.2.hasBufferedStartup)).map Prod.fst
    let b := { b with pendingConnects := b.pendingConnects ++ handles }
    (b,handles.map (fun _ => .upstreamConnect 5432) ++ b.updateBackendNeed a.computeBackendNeed)
  else
    let actions := b.connections.toList.flatMap
      (fun e => b.processConnActions e.1 e.2.onUpstreamClosed.2)
    let b := { b with
      connections := b.connections.retain (fun _ c => some c.onUpstreamClosed.1)
      upstreamToDownstream := ∅ }
    (b,actions ++ a.upstreamToDownstream.toList.map (fun e => .upstreamClose e.1) ++
      b.updateBackendNeed a.computeBackendNeed)

/-- Lets a client's connection see an event. -/
def inform (a b : PostgresActivator) (handle : Nat) (f : Connection → Connection × List ConnAction) :
    PostgresActivator × List Action :=
  match b.connections.lookup handle with
  | none => (b,b.updateBackendNeed a.computeBackendNeed)
  | some c =>
    let b := b.setConnection handle (f c).1
    (b,b.processConnActions handle (f c).2 ++ b.updateBackendNeed a.computeBackendNeed)

def handleUpstreamConnectResult (a : PostgresActivator) (upstream : Nat) (ok : Bool) :
    PostgresActivator × List Action :=
  match a.pendingConnects with
  | [] => (a,[.upstreamClose upstream])
  | downstream :: rest =>
    let b := { a with pendingConnects := rest }
    if ok then
      a.inform { b with
          upstreamToDownstream := b.upstreamToDownstream.insert upstream downstream } downstream
        Connection.onUpstreamConnected
    else a.inform b downstream Connection.onUpstreamFailed

/-- Returns if the connection's scan does. -/
def handleUpstreamData (t : Target) (a : PostgresActivator) (upstream : Nat) (data : List UInt8) :
    Option (PostgresActivator × List Action) :=
  match a.upstreamToDownstream.lookup upstream with
  | none => some (a,[])
  | some downstream =>
    match a.connections.lookup downstream with
    | none => some (a,[])
    | some c => (c.onUpstreamData t data).map (fun r => a.inform a downstream (fun _ => r))

def handleUpstreamClose (a : PostgresActivator) (upstream : Nat) :
    PostgresActivator × List Action :=
  match a.upstreamToDownstream.lookup upstream with
  | none => (a,[])
  | some downstream =>
    let b := { a with upstreamToDownstream := a.upstreamToDownstream.erase upstream }
    match b.connections.lookup downstream with
    | none => (b,[])
    | some _ => a.inform b downstream Connection.onUpstreamClosed

def process (t : Target) (a : PostgresActivator) : Event → Option (PostgresActivator × List Action)
  | .streamOpen handle => some (a.handleStreamOpen handle)
  | .streamData handle data => some (a.handleStreamData t handle data)
  | .streamClose handle => some (a.handleStreamClose handle)
  | .backendAvailable available => some (a.handleBackendAvailable available)
  | .upstreamConnectResult handle ok => some (a.handleUpstreamConnectResult handle ok)
  | .upstreamData handle data => a.handleUpstreamData t handle data
  | .upstreamClose handle => some (a.handleUpstreamClose handle)
  | .tick => some (a,[])

end PostgresActivator

end Distvirt.Postgres
