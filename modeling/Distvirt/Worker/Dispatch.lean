import Distvirt.Worker.Fabric
import Distvirt.Worker.Flow

/-! How the fabric of a namespace on a worker passes a frame on: the source of a reply is
rewritten, the address is looked up in the endpoint table, and a frame for a service goes round
once more with the address of the pod. -/

namespace Distvirt.Worker

inductive BackendNeed where
  | none
  | traffic
  | active
deriving DecidableEq, Repr

inductive ActivatorAction (Frame : Type) where
  | replayPacket (rawFrame : Frame)
  | setBackendNeed (need : BackendNeed)
  | other

def ActivatorAction.isNeed {Frame : Type} : ActivatorAction Frame → Bool
  | .setBackendNeed _ => true
  | _ => false

/-- What the fabric uses of frames and of the actions of activators. A frame without a header is a
runt. The laws are assumptions on the frames and the processors of a namespace:
* rewriting an address changes no other field of the header. `FabricPacket::new` checks the length
  of a frame and not its IHL, and with an IHL below 5 the ports and the checksums lie over the
  addresses; such frames, and addresses beyond 32 bits, are left out;
* whether a processor is a passthrough is settled when it is built, and one that is has no
  activator that could ask for its backend. -/
structure Wire extends Parts where
  header : Frame → Option Header
  rewriteSrc : Frame → Nat → Nat → Frame
  rewriteDst : Frame → Nat → Nat → Frame
  l4Frames : Action → List Frame
  actions : Action → List (ActivatorAction Frame)
  pollDelay : Action → Option Nat
  handleTimeout : Processor → Option Action × Processor
  header_rewriteSrc : ∀ frame old new,
    header (rewriteSrc frame old new) = (header frame).map ({ · with srcIp := new })
  header_rewriteDst : ∀ frame old new,
    header (rewriteDst frame old new) = (header frame).map ({ · with dstIp := new })
  hasActiveFlows_new : hasActiveFlows newTracker = false
  isPassthrough_processFrame : ∀ p frame, isPassthrough (processFrame p frame).2 = isPassthrough p
  isPassthrough_onMarkReady : ∀ p, isPassthrough (onMarkReady p).2 = isPassthrough p
  isPassthrough_onBackendUpdate : ∀ p ip, isPassthrough (onBackendUpdate p ip) = isPassthrough p
  isPassthrough_handleTimeout : ∀ p, isPassthrough (handleTimeout p).2 = isPassthrough p
  passthrough_needs : ∀ p action need, isPassthrough p = true →
    (handleTimeout p).1 = some action → .setBackendNeed need ∉ actions action

/-- Services without activators. -/
def Wire.passthrough : Wire where
  Frame := Header
  Processor := Unit
  Tracker := FlowTracker
  Action := Unit
  makeProcessor := fun _ _ _ => ()
  isPassthrough := fun _ => true
  hasStreamManager := fun _ => false
  processFrame := fun processor _ => (none,processor)
  onMarkReady := fun processor => (none,processor)
  onBackendUpdate := fun processor _ => processor
  newTracker := .new
  track := FlowTracker.track
  hasActiveFlows := FlowTracker.hasActiveFlows
  gc := FlowTracker.gc
  header := some
  rewriteSrc := fun h _ new => { h with srcIp := new }
  rewriteDst := fun h _ new => { h with dstIp := new }
  l4Frames := fun _ => []
  actions := fun _ => []
  pollDelay := fun _ => none
  handleTimeout := fun processor => (none,processor)
  header_rewriteSrc := fun _ _ _ => rfl
  header_rewriteDst := fun _ _ _ => rfl
  hasActiveFlows_new := rfl
  isPassthrough_processFrame := fun _ _ => rfl
  isPassthrough_onMarkReady := fun _ => rfl
  isPassthrough_onBackendUpdate := fun _ _ => rfl
  isPassthrough_handleTimeout := fun _ => rfl
  passthrough_needs := fun _ _ _ _ h => nomatch h

structure ConntrackKey where
  srcIp : Nat
  dstIp : Nat
  protocol : Nat
  srcPort : Nat
  dstPort : Nat
deriving DecidableEq, Repr

structure ConntrackEntry where
  serviceIp : Nat
  backendIp : Nat
  lastSeen : Nat
deriving DecidableEq, Repr

abbrev ConntrackTable := Table ConntrackKey ConntrackEntry

namespace ConntrackTable

/-- An entry that is found is seen now. -/
def find (ct : ConntrackTable) (key : ConntrackKey) (now : Nat) :
    Option ConntrackEntry × ConntrackTable :=
  match ct.lookup key with
  | some entry => (some entry,ct.insert key { entry with lastSeen := now })
  | none => (none,ct)

def gc (ct : ConntrackTable) (maxAge now : Nat) : ConntrackTable :=
  ct.retain (fun _ entry => if now - entry.lastSeen ≤ maxAge then some entry else none)

end ConntrackTable

namespace Header

/-- Packets without ports count as packets between the ports 0. -/
def portPair (h : Header) : Nat × Nat := h.ports.getD (0,0)

/-- The key under which a packet is looked up. -/
def key (h : Header) : ConntrackKey :=
  ⟨h.srcIp,h.dstIp,h.protocol,h.portPair.1,h.portPair.2⟩

/-- The key of the replies to a packet for the pod. -/
def reverseKey (h : Header) (podIp : Nat) : ConntrackKey :=
  ⟨podIp,h.srcIp,h.protocol,h.portPair.2,h.portPair.1⟩

end Header

inductive FrameSource where
  | port (portId : PortId)
  | gateway
  | internal
deriving DecidableEq, Repr

/-- What comes out of the fabric. An event that is `lossy` is lost when the channel is full. -/
inductive Output (Frame : Type) where
  | port (portId : PortId) (frame : Frame)
  | tunnel (workerId : WorkerId) (frame : Frame)
  | gateway (frame : Frame)
  | activation (dstIp : Nat) (serviceId : Option ServiceId)
  | demand (ip : Nat) (serviceId : Option ServiceId) (active lossy : Bool)
  | pollTimer (ip delay : Nat)

def Output.frame? {Frame : Type} : Output Frame → Option Frame
  | .port _ frame | .tunnel _ frame | .gateway frame => some frame
  | _ => none

structure Fabric (W : Wire) where
  table : EndpointTable W.toParts
  conntrack : ConntrackTable
  ports : List PortId
  tunnelPorts : Table WorkerId PortId
  hasGateway : Bool
  gatewayIp : Nat
  prefixLen : Nat

/-- What one look at the table leaves to do. -/
inductive Pass (W : Wire) where
  | stop (out : List (Output W.Frame))
  | forward (frame : W.Frame) (out : List (Output W.Frame))
  | act (action : W.Action) (serviceId : ServiceId) (dstIp : Nat) (out : List (Output W.Frame))

def EndpointTable.getServiceNatInfo {K : Parts} (t : EndpointTable K) (serviceId : ServiceId) :
    Option (Nat × Nat) := do
  let ip ← t.serviceIdToIp.lookup serviceId
  let ep ← t.byIp.lookup ip
  match ep.backend with
  | .service _ _ backendIp _ => backendIp.map (fun backendIp => (ip,backendIp))
  | _ => none

namespace Fabric

variable {W : Wire}

def isInSubnet (f : Fabric W) (ip : Nat) : Bool :=
  ip / 2 ^ (32 - f.prefixLen) = f.gatewayIp / 2 ^ (32 - f.prefixLen)

def insertConntrackEntry (f : Fabric W) (rewritten : W.Frame) (serviceIp podIp now : Nat) :
    Fabric W :=
  match W.header rewritten with
  | some h => { f with conntrack := f.conntrack.insert (h.reverseKey podIp) ⟨serviceIp,podIp,now⟩ }
  | none => f

/-- A reply from the pod of a service gets the address of the service as its source. -/
def reverseDnat (f : Fabric W) (frame : W.Frame) (now : Nat) : W.Frame × Fabric W :=
  match W.header frame with
  | none => (frame,f)
  | some h =>
    match ConntrackTable.find f.conntrack h.key now with
    | (some entry,conntrack) =>
      (W.rewriteSrc frame h.srcIp entry.serviceIp,{ f with conntrack })
    | (none,_) => (frame,f)

def sendPort (f : Fabric W) (portId : PortId) (frame : W.Frame) : List (Output W.Frame) :=
  if portId ∈ f.ports then [.port portId frame] else []

def sendTunnel (f : Fabric W) (workerId : WorkerId) (frame : W.Frame) : List (Output W.Frame) :=
  match f.tunnelPorts.lookup workerId with
  | some portId => if portId ∈ f.ports then [.tunnel workerId frame] else []
  | none => []

/-- Only frames from ports go to the gateway. -/
def sendGateway (f : Fabric W) (dstIp : Nat) (source : FrameSource) (frame : W.Frame) :
    List (Output W.Frame) :=
  if dstIp = f.gatewayIp ∨ ¬ f.isInSubnet dstIp then
    match source with
    | .gateway | .internal => []
    | .port _ => if f.hasGateway then [.gateway frame] else []
  else []

def sendL4Frames (f : Fabric W) (frames : List W.Frame) : List (Output W.Frame) :=
  frames.flatMap fun frame =>
    match W.header frame with
    | none => []
    | some h =>
      match f.table.getPortId h.dstIp with
      | some portId => f.sendPort portId frame
      | none => []

/-- The events of a change of an endpoint's flows. -/
def changed : Option FlowStatusChange → List (Output W.Frame)
  | some change => [.demand change.ip change.serviceId change.active true]
  | none => []

def activated (dstIp : Nat) (serviceId : Option ServiceId) (activate : Bool) :
    List (Output W.Frame) :=
  if activate then [.activation dstIp serviceId] else []

/-- One turn of the dispatch loop. -/
def pass (f : Fabric W) (frame : W.Frame) (skipFlowTracking : Bool) (source : FrameSource)
    (now : Nat) : Pass W × Fabric W :=
  match W.header frame with
  | none => (.stop [],f)
  | some h =>
    let ((action,activate,change),table) :=
      f.table.lookupAndBuffer h.dstIp frame skipFlowTracking now
    let f := { f with table }
    let out := changed change
    match action with
    | .serviceForward podIp serviceIp =>
      let rewritten := W.rewriteDst frame serviceIp podIp
      (.forward rewritten (out ++ activated h.dstIp none activate),
        f.insertConntrackEntry rewritten serviceIp podIp now)
    | .buffered serviceId | .drop serviceId =>
      (.stop (out ++ activated h.dstIp serviceId activate),f)
    | .processed action serviceId => (.act action serviceId h.dstIp out,f)
    | .remoteWorker workerId => (.stop (out ++ f.sendTunnel workerId frame),f)
    | .localAdapter portId | .localPod portId => (.stop (out ++ f.sendPort portId frame),f)
    | .notFound => (.stop (out ++ f.sendGateway h.dstIp source frame),f)

def demanded (dstIp : Nat) (serviceId : ServiceId) : BackendNeed → Output W.Frame
  | .traffic => .activation dstIp (some serviceId)
  | .active => .demand dstIp (some serviceId) true false
  | .none => .demand dstIp (some serviceId) false false

/-- A frame that is replayed goes to the pod of the service. -/
def dispatchAction (replay : Fabric W → W.Frame → Fabric W × List (Output W.Frame))
    (serviceId : ServiceId) (dstIp now : Nat) (f : Fabric W) :
    ActivatorAction W.Frame → Fabric W × List (Output W.Frame)
  | .replayPacket rawFrame =>
    match f.table.getServiceNatInfo serviceId with
    | some (serviceIp,backendIp) =>
      let rewritten := W.rewriteDst rawFrame serviceIp backendIp
      replay (f.insertConntrackEntry rewritten serviceIp backendIp now) rewritten
    | none => (f,[])
  | .setBackendNeed need => (f,[demanded dstIp serviceId need])
  | .other => (f,[])

def dispatchActions (replay : Fabric W → W.Frame → Fabric W × List (Output W.Frame))
    (serviceId : ServiceId) (dstIp now : Nat) (f : Fabric W) :
    List (ActivatorAction W.Frame) → Fabric W × List (Output W.Frame)
  | [] => (f,[])
  | action :: actions =>
    let (f,out) := f.dispatchAction replay serviceId dstIp now action
    let (f,more) := f.dispatchActions replay serviceId dstIp now actions
    (f,out ++ more)

/-- The frames of a stream manager, the actions of the activators and the next poll. -/
def execute (replay : Fabric W → W.Frame → Fabric W × List (Output W.Frame))
    (serviceId : ServiceId) (dstIp now : Nat) (f : Fabric W) (action : W.Action) :
    Fabric W × List (Output W.Frame) :=
  let (f',out) := f.dispatchActions replay serviceId dstIp now (W.actions action)
  (f',f.sendL4Frames (W.l4Frames action) ++ out ++
    ((W.pollDelay action).map (Output.pollTimer dstIp)).toList)

/-- What is left to do after the last turn of the loop: a frame is not forwarded twice. -/
def finish (replay : Fabric W → W.Frame → Fabric W × List (Output W.Frame)) (now : Nat) :
    Pass W × Fabric W → Fabric W × List (Output W.Frame)
  | (.stop out,f) => (f,out)
  | (.forward _ out,f) => (f,out)
  | (.act action serviceId dstIp out,f) =>
    let (f,more) := f.execute replay serviceId dstIp now action
    (f,out ++ more)

/-- `fuel` bounds how deep replayed frames may lead to further replays. -/
def dispatchFrame : Nat → Fabric W → W.Frame → FrameSource → Nat →
    Fabric W × List (Output W.Frame)
  | 0,f,_,_,_ => (f,[])
  | fuel + 1,f,frame,source,now =>
    let replay := fun f frame => dispatchFrame fuel f frame .internal now
    let (frame,f) := f.reverseDnat frame now
    match f.pass frame false source now with
    | (.forward frame out,f) =>
      let (f,more) := finish replay now (f.pass frame true source now)
      (f,out ++ more)
    | last => finish replay now last

end Fabric

end Distvirt.Worker
