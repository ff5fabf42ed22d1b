import Distvirt.Table

/-! The TCP connections that an endpoint sees, as far as they can be told from the flags of the
packets sent to it. -/

namespace Distvirt.Worker

/-- Where a UDP datagram comes from or goes to. -/
structure SocketAddr where
  ip : Nat
  port : Nat
deriving DecidableEq, Repr

/-- The fields of an IP packet that the fabric reads. -/
structure Header where
  srcIp : Nat
  dstIp : Nat
  protocol : Nat
  ports : Option (Nat × Nat)
  tcpFlags : Option Nat
deriving DecidableEq, Repr

def ipProtoTcp : Nat := 6

structure FlowKey where
  srcIp : Nat
  dstIp : Nat
  protocol : Nat
  srcPort : Nat
  dstPort : Nat
deriving DecidableEq, Repr

inductive TcpFlowState where
  | opening
  | established
  | halfClosed
  | closed
deriving DecidableEq, Repr

structure FlowState where
  lastSeen : Nat
  tcpState : TcpFlowState
deriving DecidableEq, Repr

namespace TcpFlowState

/-- A connection attempt is no demand, and neither is a connection that is over. -/
def isActive : TcpFlowState → Bool
  | .established | .halfClosed => true
  | .opening | .closed => false

/-- For how long a flow stays after its last packet. -/
def timeout : TcpFlowState → Nat
  | .opening => 10000
  | .established => 300000
  | .halfClosed => 30000
  | .closed => 5000

def next (state : TcpFlowState) (fin rst ack : Bool) : TcpFlowState :=
  if rst then .closed
  else if fin then
    match state with
    | .halfClosed => .closed
    | _ => .halfClosed
  else if state = .opening ∧ ack then .established
  else state

end TcpFlowState

structure FlowTracker where
  flows : Table FlowKey FlowState

namespace FlowTracker

def new : FlowTracker := ⟨∅⟩

def trackPacket (t : FlowTracker) (key : FlowKey) (tcpFlags : Nat) (now : Nat) : FlowTracker :=
  let fin := tcpFlags.testBit 0
  let syn := tcpFlags.testBit 1
  let rst := tcpFlags.testBit 2
  let ack := tcpFlags.testBit 4
  match t.flows.lookup key with
  | some state => ⟨t.flows.insert key ⟨now,state.tcpState.next fin rst ack⟩⟩
  | none =>
    if syn then ⟨t.flows.insert key ⟨now,if ack then .established else .opening⟩⟩ else t

def hasActiveFlows (t : FlowTracker) : Bool :=
  t.flows.toList.any (fun (_,state) => state.tcpState.isActive)

def gc (t : FlowTracker) (now : Nat) : FlowTracker :=
  ⟨t.flows.retain (fun _ state =>
    if now - state.lastSeen < state.tcpState.timeout then some state else none)⟩

/-- Packets that are not TCP, or too short, are not tracked. -/
def track (t : FlowTracker) (h : Header) (now : Nat) : FlowTracker :=
  if h.protocol = ipProtoTcp then
    match h.ports,h.tcpFlags with
    | some (srcPort,dstPort),some tcpFlags =>
      t.trackPacket ⟨h.srcIp,h.dstIp,ipProtoTcp,srcPort,dstPort⟩ tcpFlags now
    | _,_ => t
  else t

end FlowTracker

end Distvirt.Worker
