import Distvirt.Worker.Lookup
import Distvirt.Worker.Packet

/-! The processor of a service, which gives each frame to the activator of its port, and what
becomes of the frames for other ports. -/

namespace Distvirt.Worker

open Packet (Bytes)

/-- What a processor uses of activators and of the stream manager. -/
structure Engine where
  Activator : Type
  StreamManager : Type
  Flows : Type
  PacketInfo : Type
  Act : Type
  Output : Type
  newFlows : Flows
  newActivator : Nat → Option Activator
  newStreamManager : Nat → List Nat → StreamManager
  parseFrame : Bytes → Bytes → Flows → Option PacketInfo × Flows
  pushPacket : Activator → PacketInfo → Activator
  pushBackend : Activator → Bool → Activator
  processEvents : Activator → Option (List Act) × Activator
  receiveFrame : StreamManager → Bytes → Output × StreamManager
  handleTimeout : StreamManager → Output × StreamManager
  updateBackend : StreamManager → Option Nat → StreamManager

inductive PortMode (E : Engine) where
  | passthrough
  | l3 (activator : E.Activator)
  | l4

inductive DefaultPortMode where
  | drop
  | passthrough
deriving DecidableEq

structure ServiceProcessor (E : Engine) where
  portRoutes : Table Nat (PortMode E)
  defaultMode : DefaultPortMode
  streamManager : Option E.StreamManager
  flowTracker : E.Flows

inductive ProcessorAction (E : Engine) where
  | activatorActions (actions : List E.Act)
  | l4Result (output : E.Output)

variable {E : Engine}

def PortMode.pushBackend (available : Bool) : PortMode E → PortMode E
  | .l3 activator => .l3 (E.pushBackend activator available)
  | mode => mode

/-- The actions of an activator that fails are left out. -/
def PortMode.drain : PortMode E → List E.Act × PortMode E
  | .l3 activator =>
    let (actions,activator) := E.processEvents activator
    (actions.getD [],.l3 activator)
  | mode => ([],mode)

def PortMode.isPassthrough : PortMode E → Bool
  | .passthrough => true
  | _ => false

def extractDstPort (ipPacket : Bytes) : Option Nat :=
  let ihl := Packet.byte ipPacket 0 % 16 * 4
  let protocol := Packet.byte ipPacket 9
  if ipPacket.length < 20 then none
  else if ipPacket.length < ihl + 4 then none
  else if protocol = 6 ∨ protocol = 17 then some (Packet.word ipPacket (ihl + 2))
  else none

namespace ServiceProcessor

def pass : ServiceProcessor E := ⟨∅,.passthrough,none,E.newFlows⟩

def modeOf (config : PortConfig) : PortMode E :=
  match config.activator with
  | none => .passthrough
  | some .http2 => .l4
  | some (.tcp _) =>
    match E.newActivator config.port with
    | some activator => .l3 activator
    | none => .passthrough

def build (policy : ServicePolicy) (ip : Nat) : ServiceProcessor E :=
  if policy.ports.isEmpty then pass
  else
    let l4Ports := (policy.ports.filter (fun config => config.activator = some .http2)).map
      PortConfig.port
    { portRoutes := policy.ports.foldl (fun routes config => routes.insert config.port (modeOf config)) ∅
      defaultMode := if policy.ports.any (fun config => config.activator.isSome) then .drop
        else .passthrough
      streamManager := if l4Ports.isEmpty then none else some (E.newStreamManager ip l4Ports)
      flowTracker := E.newFlows }

/-- The two default modes give the caller the same answer. -/
def processFrame (p : ServiceProcessor E) (ipPacket rawFrame : Bytes) :
    Option (ProcessorAction E) × ServiceProcessor E :=
  match extractDstPort ipPacket with
  | none =>
    match p.defaultMode with
    | .passthrough => (none,p)
    | .drop => (none,p)
  | some dstPort =>
    match p.portRoutes.lookup dstPort with
    | none =>
      match p.defaultMode with
      | .passthrough => (none,p)
      | .drop => (none,p)
    | some .passthrough => (none,p)
    | some .l4 =>
      match p.streamManager with
      | none => (none,p)
      | some manager =>
        let (output,manager) := E.receiveFrame manager ipPacket
        (some (.l4Result output),{ p with streamManager := some manager })
    | some (.l3 activator) =>
      let (info,flowTracker) := E.parseFrame ipPacket rawFrame p.flowTracker
      let pushed := (info.map (E.pushPacket activator)).getD activator
      let (actions,activator) := E.processEvents pushed
      (actions.map .activatorActions,
        { p with flowTracker, portRoutes := p.portRoutes.insert dstPort (.l3 activator) })

def onMarkReady (p : ServiceProcessor E) : Option (ProcessorAction E) × ServiceProcessor E :=
  let routes := p.portRoutes.retain (fun _ mode => some (mode.pushBackend true))
  match p.streamManager with
  | some manager =>
    let (output,manager) := E.handleTimeout manager
    (some (.l4Result output),{ p with portRoutes := routes, streamManager := some manager })
  | none =>
    let actions := routes.toList.flatMap (fun (_,mode) => mode.drain.1)
    (if actions.isEmpty then none else some (.activatorActions actions),
      { p with portRoutes := routes.retain (fun _ mode => some mode.drain.2) })

def onBackendUpdate (p : ServiceProcessor E) (backendIp : Option Nat) : ServiceProcessor E :=
  { p with
    portRoutes := p.portRoutes.retain (fun _ mode => some (mode.pushBackend backendIp.isSome))
    streamManager := p.streamManager.map (E.updateBackend · backendIp) }

def isPassthrough (p : ServiceProcessor E) : Bool :=
  p.portRoutes.toList.all (fun (_,mode) => mode.isPassthrough)

end ServiceProcessor

/-- Services with their processors, over frames of bytes. -/
abbrev Engine.parts (E : Engine) : Parts where
  Frame := Bytes
  Processor := ServiceProcessor E
  Tracker := FlowTracker
  Action := ProcessorAction E
  makeProcessor := fun _ policy ip => .build policy ip
  isPassthrough := ServiceProcessor.isPassthrough
  hasStreamManager := fun p => p.streamManager.isSome
  processFrame := fun p frame =>
    if Packet.accepts frame then p.processFrame (Packet.ipPacket frame) frame else (none,p)
  onMarkReady := ServiceProcessor.onMarkReady
  onBackendUpdate := ServiceProcessor.onBackendUpdate
  newTracker := .new
  track := fun tracker frame now => ((Packet.header frame).map (tracker.track · now)).getD tracker
  hasActiveFlows := FlowTracker.hasActiveFlows
  gc := FlowTracker.gc

/-- The frame is for none of the ports of the service. -/
def ServiceProcessor.Undeclared (p : ServiceProcessor E) (frame : Bytes) : Prop :=
  ∀ port, extractDstPort (Packet.ipPacket frame) = some port → p.portRoutes.lookup port = none

namespace FlowTracker

/-- The same flows, in whatever order. -/
def Same (t t' : FlowTracker) : Prop := ∀ key, t.flows.lookup key = t'.flows.lookup key

/-- A packet that is not TCP, or too short, is not tracked. Any other leaves the flows as they are
if it has no flow and does not open one, or if its flow was seen at this very time and keeps its
state. -/
def Ignores (t : FlowTracker) (h : Header) (now : Nat) : Prop :=
  h.protocol = ipProtoTcp → ∀ srcPort dstPort flags, h.ports = some (srcPort,dstPort) →
    h.tcpFlags = some flags →
      match t.flows.lookup ⟨h.srcIp,h.dstIp,ipProtoTcp,srcPort,dstPort⟩ with
      | none => flags.testBit 1 = false
      | some flow => flow.lastSeen = now ∧
          flow.tcpState.next (flags.testBit 0) (flags.testBit 2) (flags.testBit 4) = flow.tcpState

variable {tracker : FlowTracker} {key : FlowKey} {flow : FlowState}

theorem same_insert_iff :
    Same ⟨tracker.flows.insert key flow⟩ tracker ↔ tracker.flows.lookup key = some flow := by
  simp only [Same,AList.lookup_insert_if]
  constructor
  · intro h
    have hkey := h key
    rw [if_pos rfl] at hkey
    exact hkey.symm
  · rintro h key'
    split
    · subst key'
      exact h.symm
    · rfl

/-- A packet of a TCP flow, by the flow's entry. -/
theorem trackPacket_same_iff (tracker : FlowTracker) (key : FlowKey) (flags now : Nat) :
    (tracker.trackPacket key flags now).Same tracker ↔
      match tracker.flows.lookup key with
      | none => flags.testBit 1 = false
      | some flow => flow.lastSeen = now ∧
          flow.tcpState.next (flags.testBit 0) (flags.testBit 2) (flags.testBit 4) =
            flow.tcpState := by
  unfold trackPacket
  cases hflow : tracker.flows.lookup key with
  | none =>
    cases hsyn : flags.testBit 1 with
    | false => simp [Same]
    | true =>
      refine iff_of_false (fun h => ?_) Bool.noConfusion
      cases hflow.symm.trans (same_insert_iff.mp h)
  | some flow =>
    obtain ⟨lastSeen,tcpState⟩ := flow
    simp only [same_insert_iff,hflow,Option.some.injEq,FlowState.mk.injEq]
    exact and_congr Iff.rfl eq_comm

theorem track_same_iff (tracker : FlowTracker) (h : Header) (now : Nat) :
    (tracker.track h now).Same tracker ↔ tracker.Ignores h now := by
  unfold track Ignores
  by_cases htcp : h.protocol = ipProtoTcp
  · rw [if_pos htcp]
    cases hports : h.ports with
    | none => simp [Same]
    | some ports =>
      cases hflags : h.tcpFlags with
      | none => simp [Same]
      | some flags =>
        obtain ⟨srcPort,dstPort⟩ := ports
        refine (trackPacket_same_iff tracker _ flags now).trans ⟨fun h _ => ?_,fun h => ?_⟩
        · rintro _ _ _ ⟨⟩ ⟨⟩
          exact h
        · exact h htcp _ _ _ rfl rfl
  · simp [htcp,Same]

end FlowTracker

namespace EndpointTable

variable {t : EndpointTable E.parts} {ip now : Nat} {ep : Endpoint E.parts} {frame : Bytes}
  {serviceId : ServiceId} {policy : ServicePolicy} {backendIp : Option Nat}
  {processor : ServiceProcessor E} {skipFlowTracking : Bool}

/-- What a frame that has no effect leaves: nothing is done with it, and the buffer, the flows and
the processor of the endpoint are as before. -/
def NoEffect (ep : Endpoint E.parts) (ip : Nat)
    (r : (EndpointAction E.parts × Bool × Option FlowStatusChange) × EndpointTable E.parts) : Prop :=
  r.1.1 = .drop ep.backend.serviceId? ∧ r.1.2.1 = false ∧
    ∃ ep', r.2.byIp.lookup ip = some ep' ∧ ep'.buffer = ep.buffer ∧
      Option.Rel FlowTracker.Same ep'.flowTracker ep.flowTracker ∧ ep'.backend = ep.backend

/-- The frame is not forwarded, the last activation is recent, the buffer takes no frame and loses
none, and the flow tracker, if it sees the frame, ignores it. -/
structure Quiet (t : EndpointTable E.parts) (ip : Nat) (ep : Endpoint E.parts) (frame : Bytes)
    (policy : ServicePolicy) (backendIp : Option Nat) (skipFlowTracking : Bool) (now : Nat) :
    Prop where
  held : t.forwardIp ip ep.state backendIp = none
  debounced : ∃ last, ep.lastActivation = some last ∧ now - last < activationDebounce
  full : policy.bufferFrames = 0 ∨
    if ∃ start, ep.bufferStart = some start ∧ policy.timeoutMs ≤ now - start then ep.buffer = []
    else policy.bufferFrames ≤ ep.buffer.length
  untracked : skipFlowTracking = true ∨ ∀ tracker, ep.flowTracker = some tracker →
    ∀ h, Packet.header frame = some h → tracker.Ignores h now

theorem tracked_same_iff (frame : Bytes) (skipFlowTracking : Bool) (now : Nat)
    (flowTracker : Option FlowTracker) :
    Option.Rel FlowTracker.Same
        (if skipFlowTracking then flowTracker else flowTracker.map (E.parts.track · frame now))
        flowTracker ↔
      skipFlowTracking = true ∨ ∀ tracker, flowTracker = some tracker →
        ∀ h, Packet.header frame = some h → tracker.Ignores h now := by
  cases skipFlowTracking with
  | true =>
    refine iff_of_true ?_ (.inl rfl)
    cases flowTracker with
    | none => exact .none
    | some tracker => exact .some (fun _ => rfl)
  | false =>
    cases flowTracker with
    | none => simp
    | some tracker =>
      cases hheader : Packet.header frame with
      | none => simp [hheader,FlowTracker.Same]
      | some h => simp [hheader,FlowTracker.track_same_iff]

theorem processFrame_undeclared (h : processor.Undeclared frame) :
    E.parts.processFrame processor frame = (none,processor) := by
  change (if Packet.accepts frame then processor.processFrame (Packet.ipPacket frame) frame
    else (none,processor)) = _
  split
  · unfold ServiceProcessor.processFrame
    cases hport : extractDstPort (Packet.ipPacket frame) with
    | none => cases processor.defaultMode <;> rfl
    | some port =>
      simp only [h port hport]
      cases processor.defaultMode <;> rfl
  · rfl

/-- The buffer takes no frame and loses none. -/
theorem offered_iff (ep : Endpoint E.parts)
    (h : Offered ep.bufferStart ep.buffer frame limits now taken start buffer) :
    taken = false ∧ buffer = ep.buffer ↔ limits.bufferFrames = 0 ∨
      if ∃ start, ep.bufferStart = some start ∧ limits.timeoutMs ≤ now - start then ep.buffer = []
      else limits.bufferFrames ≤ ep.buffer.length := by
  cases h with
  | refused h =>
    refine iff_of_true ⟨rfl,rfl⟩ (h.imp_right (fun hfull => ?_))
    rw [if_neg hfull.1]
    exact hfull.2
  | expired hsome hlate =>
    rw [if_pos hlate]
    simp [hsome,eq_comm]
  | taken hsome hyoung hroom =>
    rw [if_neg hyoung]
    simp [hsome,hroom]

/-- In either default mode, a frame for a port that the service does not declare is not dropped by
the processor. It has no effect exactly where no frame would have one. -/
theorem undeclared_noEffect_iff (t : EndpointTable E.parts) (ip : Nat) (ep : Endpoint E.parts)
    (frame : Bytes) (skipFlowTracking : Bool) (now : Nat) (hep : t.byIp.lookup ip = some ep)
    (hservice : ep.backend = .service serviceId policy backendIp processor)
    (hport : processor.Undeclared frame) :
    NoEffect ep ip (t.lookupAndBuffer ip frame skipFlowTracking now) ↔
      t.Quiet ip ep frame policy backendIp skipFlowTracking now := by
  obtain ⟨tracker,change,htrack,htracker,-⟩ := trackFlow_spec ip ep frame skipFlowTracking now
  have hsame := tracked_same_iff (E := E) frame skipFlowTracking now ep.flowTracker
  rw [← htracker] at hsame
  unfold lookupAndBuffer
  simp only [hep,htrack,hservice]
  unfold dispatchService
  rw [forwardIp_put]
  cases hforward : t.forwardIp ip ep.state backendIp with
  | some podIp =>
    refine iff_of_false (fun h => ?_) (fun h => ?_)
    · cases h.1
    · cases hforward.symm.trans h.held
  | none =>
    have hprocessed : (if E.parts.isPassthrough processor then (none,processor)
        else E.parts.processFrame processor frame) = (none,processor) := by
      rw [processFrame_undeclared hport]
      split <;> rfl
    obtain ⟨accepted,activate,last,start,buffer,hbuffer,hactivate,hoffered⟩ :=
      (t.put ip { ep with flowTracker := tracker }).dispatchBuffer_spec ip
        { ep with flowTracker := tracker } frame ⟨policy.bufferFrames,policy.timeoutMs⟩ now
    have haccept := offered_iff ep hoffered
    simp only [hprocessed,← hservice,hbuffer]
    constructor
    · rintro ⟨hdropped,hsilent,ep',hep',hkept,htracker,_⟩
      simp only [lookup_put,if_true,Option.some.injEq] at hep'
      subst hep'
      refine ⟨hforward,hactivate.mp hsilent,haccept.mp ⟨?_,hkept⟩,hsame.mp htracker⟩
      cases accepted with
      | false => rfl
      | true => cases hdropped
    · intro h
      obtain ⟨rfl,rfl⟩ := haccept.mpr h.full
      refine ⟨rfl,hactivate.mpr h.debounced,
        { ep with flowTracker := tracker, lastActivation := last, bufferStart := start },?_,rfl,
        hsame.mpr h.untracked,rfl⟩
      simp only [lookup_put,if_true]

/-- An engine whose activators do nothing. -/
def idleEngine : Engine where
  Activator := Unit
  StreamManager := Unit
  Flows := Unit
  PacketInfo := Unit
  Act := Unit
  Output := Unit
  newFlows := ()
  newActivator := fun _ => some ()
  newStreamManager := fun _ _ => ()
  parseFrame := fun _ _ flows => (none,flows)
  pushPacket := fun activator _ => activator
  pushBackend := fun activator _ => activator
  processEvents := fun activator => (some [],activator)
  receiveFrame := fun manager _ => ((),manager)
  handleTimeout := fun manager => ((),manager)
  updateBackend := fun manager _ => manager

def webPolicy (bufferFrames : Nat) : ServicePolicy := ⟨[⟨80,80,some (.tcp 1)⟩],bufferFrames,30000⟩

/-- A service for port 80 with an activator. -/
def webProcessor (bufferFrames : Nat) : ServiceProcessor idleEngine :=
  .build (webPolicy bufferFrames) 7

/-- Its endpoint, which last asked for the backend at `last`. -/
def webEndpoint (bufferFrames : Nat) (last : Option Nat) : Endpoint idleEngine.parts where
  state := .buffering
  buffer := []
  bufferStart := none
  backend := .service 1 (webPolicy bufferFrames) none (webProcessor bufferFrames)
  flowTracker := none
  lastActivation := last

def webTable (bufferFrames : Nat) (last : Option Nat) : EndpointTable idleEngine.parts :=
  new.put 7 (webEndpoint bufferFrames last)

/-- A UDP packet for port 53. -/
def otherFrame : Bytes :=
  [0,0,0,69,0,0,28,0,0,0,0,64,17,0,0,10,0,0,1,0,0,0,7,4,210,0,53,0,8,0,0]

theorem otherFrame_undeclared (bufferFrames : Nat) :
    (webProcessor bufferFrames).Undeclared otherFrame := by
  intro port hport
  have hdns : port = 53 := Option.some.inj (hport.symm.trans (by decide))
  subst hdns
  rfl

theorem recent_noEffect : NoEffect (webEndpoint 0 (some 0)) 7
    ((webTable 0 (some 0)).lookupAndBuffer 7 otherFrame false 500) := by
  have hiff := undeclared_noEffect_iff (webTable 0 (some 0)) 7 (webEndpoint 0 (some 0)) otherFrame
    false 500 rfl rfl (otherFrame_undeclared 0)
  refine hiff.mpr ⟨rfl,⟨0,rfl,by decide⟩,.inl rfl,.inr (fun tracker h => ?_)⟩
  cases h

/-- The frame is buffered and the backend is asked for. -/
theorem undeclared_activates :
    (webTable 8 none).serviceAt 7 = some 1 ∧
    (webProcessor 8).defaultMode = .drop ∧ (webProcessor 8).portRoutes.lookup 53 = none ∧
    extractDstPort (Packet.ipPacket otherFrame) = some 53 ∧
    ((webTable 8 none).lookupAndBuffer 7 otherFrame false 0).1.2.1 = true ∧
    ((webTable 8 none).lookupAndBuffer 7 otherFrame false 0).2.waiting 7 = [otherFrame] := by
  refine ⟨rfl,rfl,rfl,by decide,rfl,rfl⟩

end EndpointTable

end Distvirt.Worker
