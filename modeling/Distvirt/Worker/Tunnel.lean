import Distvirt.Namespace.Spec
import Distvirt.Runs
import Distvirt.Worker.Flow

/-! The tunnels between workers: the transport with its one socket, and the manager that gives each
pair of a peer and a local namespace a port. -/

namespace Distvirt.Worker.Tunnel

inductive NoiseSession
  | handshaking
  | transport
deriving DecidableEq

structure TransportPeer where
  endpoint : SocketAddr
  /-- Present only when encryption is enabled. -/
  noise : Option NoiseSession
deriving DecidableEq

/-- The two ends of a channel port: the transport sends into it what comes for a segment, and a
task of the fabric reads it. -/
structure Channel where
  id : Nat
  worker : WorkerId
  segment : Nat
  fabric : Nat
deriving DecidableEq

structure Transport where
  encrypted : Bool
  /-- The public keys that the noise builder takes. -/
  accepts : Nat → Bool
  peers : Table WorkerId TransportPeer
  segmentChannels : Table Nat Channel
  addrToWorker : Table SocketAddr WorkerId
  nextChannel : Nat

namespace Transport

def addPeer (t : Transport) (worker : WorkerId) (endpoint : SocketAddr) (publicKey : Nat) :
    Option Transport :=
  if t.encrypted && !t.accepts publicKey then none
  else
    some { t with
      addrToWorker := t.addrToWorker.insert endpoint worker
      peers := t.peers.insert worker ⟨endpoint,if t.encrypted then some .handshaking else none⟩ }

def removePeer (t : Transport) (worker : WorkerId) : Transport :=
  match t.peers.lookup worker with
  | some peer =>
    { t with peers := t.peers.erase worker, addrToWorker := t.addrToWorker.erase peer.endpoint }
  | none => t

/-- A port for a namespace and a peer. Its channel becomes the one of the segment. -/
def createNamespacePort (t : Transport) (worker : WorkerId) (segment fabric : Nat) :
    Option (Transport × Channel) :=
  match t.peers.lookup worker with
  | some _ =>
    let channel : Channel := ⟨t.nextChannel,worker,segment,fabric⟩
    some ({ t with
      nextChannel := t.nextChannel + 1
      segmentChannels := t.segmentChannels.insert segment channel },channel)
  | none => none

/-- A dropped handle removes the channel of its segment, whose ever it is. -/
def dropHandle (t : Transport) (channel : Channel) : Transport :=
  { t with segmentChannels := t.segmentChannels.erase channel.segment }

/-- The last message of a handshake, by the address it comes from. -/
def handshakeFinished (t : Transport) (src : SocketAddr) : Transport :=
  match t.addrToWorker.lookup src with
  | some worker =>
    match t.peers.lookup worker with
    | some ⟨endpoint,some .handshaking⟩ =>
      { t with peers := t.peers.insert worker ⟨endpoint,some .transport⟩ }
    | _ => t
  | none => t

def fabricHdrSz : Nat := 3

def segmentId (frame : List UInt8) : Nat := (frame.getD 1 0).toNat * 256 + (frame.getD 2 0).toNat

/-- The channel that the frame is sent into, which has room for it: the source drops a frame for a
channel that is full. -/
def dispatchFrame (t : Transport) (frame : List UInt8) : Option Channel :=
  if frame.length < fabricHdrSz + 20 then none
  else t.segmentChannels.lookup (segmentId frame)

/-- One datagram of the receive loop. With encryption, its frame comes out only under the session
of the worker that sealed it. -/
def recv (t : Transport) (sender : WorkerId) (src : SocketAddr) (frame : List UInt8) :
    Option Channel :=
  if t.encrypted then
    match t.addrToWorker.lookup src with
    | some worker =>
      match t.peers.lookup worker with
      | some ⟨_,some .transport⟩ => if worker = sender then t.dispatchFrame frame else none
      | _ => none
    | none => none
  else t.dispatchFrame frame

end Transport

structure PeerState where
  endpoint : SocketAddr
  segments : List Nat
  publicKey : Nat
  namespacePorts : Table Nat Channel

/-- An entry of the registry. The endpoint is there if it could be parsed. -/
structure WorkerPeerInfo where
  workerId : WorkerId
  endpoint : Option SocketAddr
  publicKey : Nat
  segments : List Nat
deriving DecidableEq

structure Manager where
  transport : Transport
  peers : Table WorkerId PeerState
  /-- The fabric of the namespace with a segment. -/
  namespaces : Table Nat Nat

namespace Manager

def new (encrypted : Bool) (accepts : Nat → Bool) : Manager :=
  ⟨⟨encrypted,accepts,∅,∅,∅,0⟩,∅,∅⟩

def dropHandles (t : Transport) (ports : Table Nat Channel) : Transport :=
  ports.toList.foldl (fun t port => t.dropHandle port.2) t

def removePeer (m : Manager) (worker : WorkerId) : Manager :=
  match m.peers.lookup worker with
  | some peer =>
    { m with
      peers := m.peers.erase worker
      transport := (dropHandles m.transport peer.namespacePorts).removePeer worker }
  | none => m

/-- The handle that an insertion replaces is dropped. -/
def insertPort (t : Transport) (ports : Table Nat Channel) (segment : Nat) (channel : Channel) :
    Transport × Table Nat Channel :=
  (match ports.lookup segment with
    | some old => t.dropHandle old
    | none => t,ports.insert segment channel)

/-- Ports for the local namespaces among some segments. -/
def createPorts (namespaces : Table Nat Nat) (worker : WorkerId) :
    List Nat → Transport × Table Nat Channel → Transport × Table Nat Channel
  | [],ports => ports
  | segment :: segments,(t,ports) =>
    match namespaces.lookup segment with
    | some fabric =>
      match t.createNamespacePort worker segment fabric with
      | some (t,channel) =>
        createPorts namespaces worker segments (insertPort t ports segment channel)
      | none => createPorts namespaces worker segments (t,ports)
    | none => createPorts namespaces worker segments (t,ports)

/-- Whether an entry of the registry says something new about its worker. -/
def changed (m : Manager) (info : WorkerPeerInfo) (endpoint : SocketAddr) : Bool :=
  match m.peers.lookup info.workerId with
  | some peer =>
    peer.segments != info.segments || peer.endpoint != endpoint || peer.publicKey != info.publicKey
  | none => true

def addPeer (m : Manager) (info : WorkerPeerInfo) (endpoint : SocketAddr) : Manager :=
  match m.transport.addPeer info.workerId endpoint info.publicKey with
  | some t =>
    let (t,ports) := createPorts m.namespaces info.workerId info.segments (t,∅)
    { m with
      transport := t
      peers := m.peers.insert info.workerId ⟨endpoint,info.segments,info.publicKey,ports⟩ }
  | none => m

/-- One round of the loop over the registry. -/
def updatePeer (m : Manager) (info : WorkerPeerInfo) : Manager :=
  match info.endpoint with
  | some endpoint =>
    if m.changed info endpoint then (m.removePeer info.workerId).addPeer info endpoint else m
  | none => m

/-- A step of a registry sync. -/
inductive SyncStep
  | remove (worker : WorkerId)
  | update (info : WorkerPeerInfo)
deriving DecidableEq

def syncStep (m : Manager) : SyncStep → Manager
  | .remove worker => m.removePeer worker
  | .update info => m.updatePeer info

/-- Peers that are no longer registered go first. -/
def syncSteps (m : Manager) (workers : List WorkerPeerInfo) : List SyncStep :=
  ((m.peers.toList.map Prod.fst).filter (fun id => id ∉ workers.map (·.workerId))).map .remove ++
    workers.map .update

def handleRegistrySync (m : Manager) (workers : List WorkerPeerInfo) : Manager :=
  (m.syncSteps workers).foldl syncStep m

/-- The peers keep their places in the map. -/
def setPorts (peers : Table WorkerId PeerState) (worker : WorkerId) (ports : Table Nat Channel) :
    Table WorkerId PeerState :=
  peers.retain (fun w p => some (if w = worker then { p with namespacePorts := ports } else p))

/-- The loop of `on_namespace_created` over the peers. -/
def createPortsOnPeers (segment fabric : Nat) :
    List (WorkerId × PeerState) → Manager → Manager
  | [],m => m
  | (worker,peer) :: rest,m =>
    if segment ∈ peer.segments ∧ peer.namespacePorts.lookup segment = none then
      match m.transport.createNamespacePort worker segment fabric with
      | some (t,channel) =>
        let (t,ports) := insertPort t peer.namespacePorts segment channel
        createPortsOnPeers segment fabric rest
          { m with transport := t, peers := setPorts m.peers worker ports }
      | none => createPortsOnPeers segment fabric rest m
    else createPortsOnPeers segment fabric rest m

def onNamespaceCreated (m : Manager) (segment fabric : Nat) : Manager :=
  createPortsOnPeers segment fabric m.peers.toList
    { m with namespaces := m.namespaces.insert segment fabric }

def onNamespaceDestroyed (m : Manager) (segment : Nat) : Manager :=
  { m with
    namespaces := m.namespaces.erase segment
    transport := m.peers.toList.foldl (fun t entry =>
      match entry.2.namespacePorts.lookup segment with
      | some channel => t.dropHandle channel
      | none => t) m.transport
    peers := m.peers.retain (fun _ p =>
      some { p with namespacePorts := p.namespacePorts.erase segment }) }

/-- The fabric that reads a channel: its task lives as long as the handle of the port. -/
def reader (m : Manager) (channel : Channel) : Option Nat :=
  match m.peers.lookup channel.worker with
  | some peer =>
    if peer.namespacePorts.lookup channel.segment = some channel then some channel.fabric else none
  | none => none

/-- The fabric that a datagram is handed to. -/
def receive (m : Manager) (sender : WorkerId) (src : SocketAddr) (frame : List UInt8) :
    Option Nat :=
  (m.transport.recv sender src frame).bind m.reader

end Manager

inductive Event
  | registrySync (workers : List WorkerPeerInfo)
  | namespaceCreated (segment fabric : Nat)
  | namespaceDestroyed (segment : Nat)
  | handshakeFinished (src : SocketAddr)
deriving DecidableEq

def Manager.step (m : Manager) : Event → Manager
  | .registrySync workers => m.handleRegistrySync workers
  | .namespaceCreated segment fabric => m.onNamespaceCreated segment fabric
  | .namespaceDestroyed segment => m.onNamespaceDestroyed segment
  | .handshakeFinished src => { m with transport := m.transport.handshakeFinished src }

def Manager.run (m : Manager) (events : List Event) : Option Manager :=
  Runs.run (fun m ev => some (m.step ev)) m events

end Distvirt.Worker.Tunnel
