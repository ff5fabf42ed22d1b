import Distvirt.Namespace.Spec
import Distvirt.Runs
import Distvirt.Worker.Flow

/-! The WireGuard adapter of a worker: peers by their key and by the address they are heard from,
and the channels of the namespaces. -/

namespace Distvirt.Worker.WireGuard

inductive TunnResult
  | done
  | err
  | writeToNetwork (data : List UInt8)
  | writeToTunnelV4 (packet : List UInt8)
  | writeToTunnelV6 (packet : List UInt8)
deriving DecidableEq

/-- The sessions of boringtun and what they make of a datagram. -/
structure Noise where
  Session : Type
  new : (peerPublic : Nat) → (presharedKey : Option Nat) → (index : Nat) → Session
  decapsulate : (peerPublic : Nat) → Session → (srcIp : Option Nat) → (datagram : List UInt8) →
    Session × TunnResult

/-- One allocation of a `PeerState`. Its session and its endpoint are cells of the state. Of the
namespace it keeps the name; the incarnation is the one it was added for. -/
structure Peer where
  arc : Nat
  publicKey : Nat
  namespaceId : NamespaceId
  peerIp : Nat
deriving DecidableEq

/-- The sending end of a namespace's port, with the incarnation that created it. -/
structure NamespaceChannel where
  id : Nat
deriving DecidableEq

structure State (N : Noise) where
  peersByKey : Table Nat Peer
  peersByAddr : Table SocketAddr Peer
  namespaceChannels : Table String NamespaceChannel
  endpoint : Nat → Option SocketAddr
  session : Nat → N.Session
  next : Nat

/-- What a datagram does besides changing the state. -/
inductive Effect
  | decapsulated (peer : Peer)
  | sent (addr : SocketAddr) (data : List UInt8)
  | injected (peer : Peer) (channel : NamespaceChannel) (packet : List UInt8)
deriving DecidableEq

inductive Event
  | addPeer (namespaceId : NamespaceId) (publicKey peerIp : Nat) (presharedKey : Option Nat)
  | removePeer (publicKey : Nat)
  | createPort (namespaceId : NamespaceId)
  | cleanup (namespaceName : String) (id : Nat)
  | datagram (src : SocketAddr) (data : List UInt8)
  /-- The map of peers is iterated in another order from here on. -/
  | rehash (peers : Table Nat Peer)

namespace State

variable {N : Noise}

def new (N : Noise) : State N where
  peersByKey := ∅
  peersByAddr := ∅
  namespaceChannels := ∅
  endpoint _ := none
  session _ := N.new 0 none 0
  next := 0

def addPeer (s : State N) (namespaceId : NamespaceId) (publicKey peerIp : Nat)
    (presharedKey : Option Nat) : State N :=
  { s with
    next := s.next + 1
    session := Function.update s.session s.next (N.new publicKey presharedKey (s.next % 2 ^ 32))
    endpoint := Function.update s.endpoint s.next none
    peersByKey := s.peersByKey.insert publicKey ⟨s.next,publicKey,namespaceId,peerIp⟩ }

/-- The address index without the address that a peer is heard from. -/
def withoutEndpoint (s : State N) (peer : Peer) : Table SocketAddr Peer :=
  match s.endpoint peer.arc with
  | some addr => s.peersByAddr.erase addr
  | none => s.peersByAddr

def removePeer (s : State N) (publicKey : Nat) : State N :=
  match s.peersByKey.lookup publicKey with
  | some peer =>
    { s with
      peersByKey := s.peersByKey.erase publicKey
      peersByAddr := s.withoutEndpoint peer }
  | none => s

def createPort (s : State N) (namespaceId : NamespaceId) : State N :=
  { s with namespaceChannels := s.namespaceChannels.insert namespaceId.name ⟨namespaceId.id⟩ }

/-- One request of the cleanup loop. -/
def cleanup (s : State N) (namespaceName : String) (id : Nat) : State N :=
  match s.namespaceChannels.lookup namespaceName with
  | some channel =>
    if channel.id = id then
      { s with namespaceChannels := s.namespaceChannels.erase namespaceName }
    else s
  | none => s

def decapsulate (s : State N) (peer : Peer) (srcIp : Option Nat) (datagram : List UInt8) :
    State N × TunnResult :=
  let (session,result) := N.decapsulate peer.publicKey (s.session peer.arc) srcIp datagram
  ({ s with session := Function.update s.session peer.arc session },result)

/-- The packets that wait in a session after a handshake, for as many rounds as there is fuel. -/
def continuation (peer : Peer) (src : SocketAddr) : Nat → State N → State N × List Effect
  | 0,s => (s,[])
  | fuel + 1,s =>
    let (s,result) := s.decapsulate peer none []
    match result with
    | .writeToNetwork data =>
      let (s,effects) := continuation peer src fuel s
      (s,.sent src data :: effects)
    | _ => (s,[])

def processTunnResult (fuel : Nat) (s : State N) (peer : Peer) (src : SocketAddr)
    (result : TunnResult) : State N × List Effect :=
  match result with
  | .done | .err | .writeToTunnelV6 _ => (s,[])
  | .writeToNetwork data =>
    let (s,effects) := continuation peer src fuel s
    (s,.sent src data :: effects)
  | .writeToTunnelV4 packet =>
    match s.namespaceChannels.lookup peer.namespaceId.name with
    | some channel => (s,[.injected peer channel packet])
    | none => (s,[])

def updatePeerEndpoint (s : State N) (peer : Peer) (newAddr : SocketAddr) : State N :=
  if s.endpoint peer.arc = some newAddr then s
  else
    { s with
      endpoint := Function.update s.endpoint peer.arc (some newAddr)
      peersByAddr := (s.withoutEndpoint peer).insert newAddr peer }

def handlePeerPacket (fuel : Nat) (s : State N) (peer : Peer) (src : SocketAddr)
    (datagram : List UInt8) : State N × List Effect :=
  let (s,result) := s.decapsulate peer (some src.ip) datagram
  let (s,effects) := s.processTunnResult fuel peer src result
  (s,.decapsulated peer :: effects)

def handleUnknownSource (fuel : Nat) (src : SocketAddr) (datagram : List UInt8) :
    List Peer → State N → State N × List Effect
  | [],s => (s,[])
  | peer :: peers,s =>
    let (s,result) := s.decapsulate peer (some src.ip) datagram
    if result = .err then
      let (s,effects) := handleUnknownSource fuel src datagram peers s
      (s,.decapsulated peer :: effects)
    else
      let (s,effects) := (s.updatePeerEndpoint peer src).processTunnResult fuel peer src result
      (s,.decapsulated peer :: effects)

def peers (s : State N) : List Peer := s.peersByKey.toList.map Prod.snd

/-- One round of the receive loop. -/
def udpRecv (fuel : Nat) (s : State N) (src : SocketAddr) (datagram : List UInt8) :
    State N × List Effect :=
  match s.peersByAddr.lookup src with
  | some peer => s.handlePeerPacket fuel peer src datagram
  | none => handleUnknownSource fuel src datagram s.peers s

/-- Where the egress loop of a namespace sends what is for an address. -/
def egressEndpoint (s : State N) (namespaceName : String) (dstIp : Nat) : Option SocketAddr :=
  (s.peers.find? (fun p => p.namespaceId.name = namespaceName ∧ p.peerIp = dstIp)).bind
    (fun p => s.endpoint p.arc)

/-- Each operation is one step. In the source a datagram takes the locks of the maps, of the session
and of the endpoint one after the other, so that other operations can come in between; such
interleavings are not modelled. -/
def step (fuel : Nat) (s : State N) : Event → State N × List Effect
  | .addPeer namespaceId publicKey peerIp presharedKey =>
    (s.addPeer namespaceId publicKey peerIp presharedKey,[])
  | .removePeer publicKey => (s.removePeer publicKey,[])
  | .createPort namespaceId => (s.createPort namespaceId,[])
  | .cleanup namespaceName id => (s.cleanup namespaceName id,[])
  | .datagram src data => s.udpRecv fuel src data
  | .rehash peers =>
    (if peers.entries.Perm s.peersByKey.entries then { s with peersByKey := peers } else s,[])

def run (fuel : Nat) (s : State N) (events : List Event) : Option (State N) :=
  Runs.run (fun s ev => some (s.step fuel ev).1) s events

end State

end Distvirt.Worker.WireGuard
