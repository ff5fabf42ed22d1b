import Distvirt.Namespace.Spec
import Distvirt.Table

/-! The endpoint table of a namespace on a worker: where the frames for an address go, and which
frames wait for it. -/

namespace Distvirt.Worker

abbrev PortId := Nat

/-- What the table uses of frames, activators and flow trackers. `processFrame` has no action for
a frame that is left to the buffer. Times are in milliseconds. -/
structure Parts where
  Frame : Type
  Processor : Type
  Tracker : Type
  Action : Type
  makeProcessor : ServiceId → ServicePolicy → Nat → Processor
  isPassthrough : Processor → Bool
  hasStreamManager : Processor → Bool
  processFrame : Processor → Frame → Option Action × Processor
  onMarkReady : Processor → Option Action × Processor
  onBackendUpdate : Processor → Option Nat → Processor
  newTracker : Tracker
  track : Tracker → Frame → Nat → Tracker
  hasActiveFlows : Tracker → Bool
  gc : Tracker → Nat → Tracker

/-- Services without activators, and frames that belong to no flow. -/
abbrev Parts.passthrough (Frame : Type) : Parts where
  Frame := Frame
  Processor := Unit
  Tracker := Unit
  Action := Unit
  makeProcessor := fun _ _ _ => ()
  isPassthrough := fun _ => true
  hasStreamManager := fun _ => false
  processFrame := fun processor _ => (none,processor)
  onMarkReady := fun processor => (none,processor)
  onBackendUpdate := fun processor _ => processor
  newTracker := ()
  track := fun tracker _ _ => tracker
  hasActiveFlows := fun _ => false
  gc := fun tracker _ => tracker

inductive EndpointState where
  | buffering
  | pending
  | ready
deriving DecidableEq, Repr

structure BufferPolicy where
  bufferFrames : Nat
  timeoutMs : Nat
deriving DecidableEq, Repr

/-- The policy of an endpoint that is a pod without a port. -/
def podPolicy : BufferPolicy := ⟨64,30000⟩

inductive EndpointBackend (K : Parts) where
  | service (serviceId : ServiceId) (policy : ServicePolicy) (backendIp : Option Nat)
      (processor : K.Processor)
  | unplacedPod (policy : BufferPolicy)
  | remoteSegment (workerId : WorkerId)
  | localAdapter (portId : PortId)
  | localPod (portId : Option PortId)

/-- Times are in milliseconds. -/
structure Endpoint (K : Parts) where
  state : EndpointState
  buffer : List K.Frame
  bufferStart : Option Nat
  backend : EndpointBackend K
  flowTracker : Option K.Tracker
  lastActivation : Option Nat

structure EndpointTable (K : Parts) where
  byIp : Table Nat (Endpoint K)
  serviceIdToIp : Table ServiceId Nat

inductive EndpointSyncEffect (K : Parts) where
  | serviceReady (serviceId : ServiceId)
  | flushPodBuffer (ip : Nat)
  | flushAdapterBuffer (ip : Nat) (portId : PortId) (frames : List K.Frame)
  | flowStatusChange (ip : Nat) (serviceId : Option ServiceId) (active : Bool)

inductive EndpointAction (K : Parts) where
  | serviceForward (podIp serviceIp : Nat)
  | buffered (serviceId : Option ServiceId)
  | drop (serviceId : Option ServiceId)
  | processed (action : K.Action) (serviceId : ServiceId)
  | remoteWorker (workerId : WorkerId)
  | localAdapter (portId : PortId)
  | localPod (portId : PortId)
  | notFound

structure FlowStatusChange where
  ip : Nat
  serviceId : Option ServiceId
  active : Bool
deriving DecidableEq, Repr

inductive MarkReadyResult (K : Parts) where
  | passthrough (frames : List K.Frame) (backendIp serviceIp : Nat) (action : Option K.Action)
  | l4 (action : K.Action)

structure ServiceFlushData (K : Parts) where
  serviceIp : Nat
  backendIp : Nat
  frames : List K.Frame

inductive AttachError where
  | noEndpoint (ip : Nat)
  | notLocalPod (ip : Nat)
deriving DecidableEq, Repr

variable {K : Parts}

namespace EndpointBackend

def serviceId? : EndpointBackend K → Option ServiceId
  | .service serviceId _ _ _ => some serviceId
  | _ => none

def podPort? : EndpointBackend K → Option PortId
  | .localPod portId => portId
  | _ => none

def isUnplaced : EndpointBackend K → Bool
  | .unplacedPod _ => true
  | _ => false

/-- Whether frames for a service with this endpoint as backend can be forwarded. -/
def isReachable : EndpointBackend K → Bool
  | .localPod portId => portId.isSome
  | .remoteSegment _ | .localAdapter _ => true
  | _ => false

end EndpointBackend

namespace Endpoint

/-- An endpoint that has just been set up. -/
def start (state : EndpointState) (backend : EndpointBackend K) : Endpoint K :=
  ⟨state,[],none,backend,none,none⟩

def unplaced : Endpoint K := start .buffering (.unplacedPod podPolicy)

def remote (workerId : WorkerId) : Endpoint K := start .ready (.remoteSegment workerId)

def adapter (portId : PortId) : Endpoint K := start .ready (.localAdapter portId)

def drained (ep : Endpoint K) : Endpoint K := { ep with buffer := [], bufferStart := none }

end Endpoint

namespace EndpointTable

def new : EndpointTable K := ⟨∅,∅⟩

def put (t : EndpointTable K) (ip : Nat) (ep : Endpoint K) : EndpointTable K :=
  { t with byIp := t.byIp.insert ip ep }

@[simp] theorem lookup_put {t : EndpointTable K} :
    (t.put ip ep).byIp.lookup ip' = if ip' = ip then some ep else t.byIp.lookup ip' :=
  AList.lookup_insert_if

theorem put_put {t : EndpointTable K} : (t.put ip ep).put ip ep' = t.put ip ep' := by
  unfold put
  rw [AList.insert_insert]

def serviceAt (t : EndpointTable K) (ip : Nat) : Option ServiceId :=
  (t.byIp.lookup ip).bind (fun ep => ep.backend.serviceId?)

/-- The frames that are buffered for an address. -/
def waiting (t : EndpointTable K) (ip : Nat) : List K.Frame :=
  ((t.byIp.lookup ip).map Endpoint.buffer).getD []

/-- The service at an address is no longer found by its id. -/
def forgetServiceAt (t : EndpointTable K) (ip : Nat) : EndpointTable K :=
  match t.serviceAt ip with
  | some serviceId => { t with serviceIdToIp := t.serviceIdToIp.erase serviceId }
  | none => t

@[simp] theorem forgetServiceAt_byIp {t : EndpointTable K} :
    (t.forgetServiceAt ip).byIp = t.byIp := by
  unfold forgetServiceAt
  split <;> rfl

def removeIp (t : EndpointTable K) (ip : Nat) : EndpointTable K :=
  let t := t.forgetServiceAt ip
  { t with byIp := t.byIp.erase ip }

@[simp] theorem lookup_removeIp {t : EndpointTable K} :
    (t.removeIp ip).byIp.lookup ip' = if ip' = ip then none else t.byIp.lookup ip' := by
  simp only [removeIp,forgetServiceAt_byIp]
  exact AList.lookup_erase_if

/-- A port that is attached stays attached. Only what was buffered before the placement was known
stays buffered. -/
def applyLocalPod (t : EndpointTable K) (ip : Nat) : EndpointTable K :=
  let portId := (t.byIp.lookup ip).bind (fun ep => ep.backend.podPort?)
  let unplaced := (t.byIp.lookup ip).filter (fun ep => ep.backend.isUnplaced)
  (t.forgetServiceAt ip).put ip
    { state := if portId.isSome then .ready else .pending
      buffer := (unplaced.map Endpoint.buffer).getD []
      bufferStart := none
      backend := .localPod portId
      flowTracker := if portId.isSome then some K.newTracker else none
      lastActivation := none }

/-- The frames buffered before are gone when the effect is handled. -/
def flushRemote (t : EndpointTable K) (ip : Nat) : List (EndpointSyncEffect K) :=
  match t.byIp.lookup ip with
  | some ep => if ep.state = .buffering ∧ ¬ ep.buffer.isEmpty then [.flushPodBuffer ip] else []
  | none => []

/-- An endpoint that exists stays what it is. -/
def applyUnplaced (t : EndpointTable K) (ip : Nat) : EndpointTable K :=
  if ip ∈ t.byIp then t else t.put ip .unplaced

def applyPod (t : EndpointTable K) (me : WorkerId) (ip : Nat) :
    Option WorkerId → EndpointTable K × List (EndpointSyncEffect K)
  | some workerId =>
    if workerId = me then (t.applyLocalPod ip,[])
    else (t.put ip (.remote workerId),t.flushRemote ip)
  | none => (t.applyUnplaced ip,[])

/-- A peer on this worker without an adapter port changes nothing. -/
def applyWireGuardPeer (t : EndpointTable K) (me : WorkerId) (adapterPort : Option PortId)
    (ip : Nat) : Option WorkerId → EndpointTable K × List (EndpointSyncEffect K)
  | some workerId =>
    if workerId = me then
      match adapterPort with
      | none => (t,[])
      | some portId =>
        let frames := t.waiting ip
        ((t.forgetServiceAt ip).put ip (.adapter portId),
          if frames.isEmpty then [] else [.flushAdapterBuffer ip portId frames])
    else ((t.forgetServiceAt ip).put ip (.remote workerId),t.flushRemote ip)
  | none => (t.applyUnplaced ip,[])

def serviceState : Option Proto.EndpointPodBackend → EndpointState
  | none => .buffering
  | some backend => if backend.ready then .ready else .pending

/-- The buffer goes when the backend goes or moves. -/
def shouldClear (old new : Option Nat) : Bool :=
  match old,new with
  | _,none => true
  | some old,some new => old ≠ new
  | none,some _ => false

/-- A service that stays with the same ports keeps its processor. -/
def updateService (t : EndpointTable K) (ip : Nat) (ep : Endpoint K) (serviceId : ServiceId)
    (policy : ServicePolicy) (old : Option Nat) (processor : K.Processor)
    (backend : Option Proto.EndpointPodBackend) :
    EndpointTable K × List (EndpointSyncEffect K) :=
  let new := backend.map Proto.EndpointPodBackend.podIp
  let state := serviceState backend
  let kept := if shouldClear old new then ep.drained else ep
  let active := (ep.flowTracker.map K.hasActiveFlows).getD false
  (t.put ip
    { kept with
      state
      backend := .service serviceId policy new (K.onBackendUpdate processor new)
      lastActivation := if new.isNone then none else ep.lastActivation
      flowTracker := if new.isNone then none else ep.flowTracker },
    (if new.isNone ∧ active then [.flowStatusChange ip (some serviceId) false] else []) ++
      if state = .ready ∧ ep.state ≠ .ready then [.serviceReady serviceId] else [])

/-- Another service at the address is no longer found by its id. -/
def forgetOtherServiceAt (t : EndpointTable K) (ip : Nat) (serviceId : ServiceId) :
    EndpointTable K :=
  if t.serviceAt ip = some serviceId then t else t.forgetServiceAt ip

@[simp] theorem forgetOtherServiceAt_byIp {t : EndpointTable K} :
    (t.forgetOtherServiceAt ip serviceId).byIp = t.byIp := by
  unfold forgetOtherServiceAt
  split
  · rfl
  · exact forgetServiceAt_byIp

def createService (t : EndpointTable K) (ip : Nat) (serviceId : ServiceId)
    (policy : ServicePolicy) (backend : Option Proto.EndpointPodBackend) :
    EndpointTable K × List (EndpointSyncEffect K) :=
  let processor := K.makeProcessor serviceId policy ip
  let state := serviceState backend
  let t := t.forgetOtherServiceAt ip serviceId
  ({ t with serviceIdToIp := t.serviceIdToIp.insert serviceId ip }.put ip
    { Endpoint.start state
        (.service serviceId policy (backend.map Proto.EndpointPodBackend.podIp) processor) with
      flowTracker := if K.isPassthrough processor then some K.newTracker else none },
    if state = .ready then [.serviceReady serviceId] else [])

def applyService (t : EndpointTable K) (ip : Nat) (serviceId : ServiceId)
    (policy : ServicePolicy) (backend : Option Proto.EndpointPodBackend) :
    EndpointTable K × List (EndpointSyncEffect K) :=
  match t.byIp.lookup ip with
  | some ep =>
    match ep.backend with
    | .service oldId oldPolicy oldIp processor =>
      if oldId = serviceId ∧ oldPolicy.ports = policy.ports then
        t.updateService ip ep serviceId policy oldIp processor backend
      else t.createService ip serviceId policy backend
    | _ => t.createService ip serviceId policy backend
  | none => t.createService ip serviceId policy backend

def applySingleSpec (me : WorkerId) (adapterPort : Option PortId) (t : EndpointTable K)
    (spec : Proto.EndpointSpec) : EndpointTable K × List (EndpointSyncEffect K) :=
  match spec.kind with
  | .pod placement => t.applyPod me spec.ip placement
  | .wireGuardPeer placement => t.applyWireGuardPeer me adapterPort spec.ip placement
  | .service serviceId policy backend => t.applyService spec.ip serviceId policy backend

def applySpecs (me : WorkerId) (adapterPort : Option PortId) (t : EndpointTable K) :
    List Proto.EndpointSpec → EndpointTable K × List (EndpointSyncEffect K)
  | [] => (t,[])
  | spec :: specs =>
    let (t,effects) := applySingleSpec me adapterPort t spec
    let (t,more) := applySpecs me adapterPort t specs
    (t,effects ++ more)

/-- What a spec can do to the table. -/
inductive Specced (me : WorkerId) (adapterPort : Option PortId) (t : EndpointTable K) (ip : Nat) :
    Proto.EndpointKind → EndpointTable K × List (EndpointSyncEffect K) → Prop where
  | known : kind = .pod none ∨ kind = .wireGuardPeer none → t.byIp.lookup ip = some ep →
      Specced me adapterPort t ip kind (t,[])
  | unplaced : kind = .pod none ∨ kind = .wireGuardPeer none → t.byIp.lookup ip = none →
      Specced me adapterPort t ip kind (t.put ip .unplaced,[])
  | localPod : Specced me adapterPort t ip (.pod (some me)) (t.applyLocalPod ip,[])
  | remotePod : w ≠ me →
      Specced me adapterPort t ip (.pod (some w)) (t.put ip (.remote w),t.flushRemote ip)
  | remotePeer : w ≠ me → Specced me adapterPort t ip (.wireGuardPeer (some w))
      ((t.forgetServiceAt ip).put ip (.remote w),t.flushRemote ip)
  | portless : adapterPort = none →
      Specced me adapterPort t ip (.wireGuardPeer (some me)) (t,[])
  | adapter : adapterPort = some p → Specced me adapterPort t ip (.wireGuardPeer (some me))
      ((t.forgetServiceAt ip).put ip (.adapter p),
        if (t.waiting ip).isEmpty then [] else [.flushAdapterBuffer ip p (t.waiting ip)])
  | update : t.byIp.lookup ip = some ep →
      ep.backend = .service serviceId oldPolicy old processor → oldPolicy.ports = policy.ports →
      Specced me adapterPort t ip (.service serviceId policy backend)
        (t.updateService ip ep serviceId policy old processor backend)
  | create : (∀ ep oldPolicy old processor, t.byIp.lookup ip = some ep →
        ep.backend = .service serviceId oldPolicy old processor → oldPolicy.ports ≠ policy.ports) →
      Specced me adapterPort t ip (.service serviceId policy backend)
        (t.createService ip serviceId policy backend)

theorem specced_unplaced (h : kind = .pod none ∨ kind = .wireGuardPeer none) :
    Specced me adapterPort t ip kind (t.applyUnplaced ip,[]) := by
  unfold applyUnplaced
  split
  · rename_i hm
    obtain ⟨ep,hl⟩ := AList.mem_iff.mp hm
    exact .known h hl
  · rename_i hm
    exact .unplaced h (AList.lookup_eq_none.mpr hm)

theorem specced (me : WorkerId) (adapterPort : Option PortId) (t : EndpointTable K)
    (spec : Proto.EndpointSpec) :
    Specced me adapterPort t spec.ip spec.kind (applySingleSpec me adapterPort t spec) := by
  obtain ⟨ip,kind⟩ := spec
  cases kind with
  | pod placement =>
    cases placement with
    | none => exact specced_unplaced (.inl rfl)
    | some w =>
      simp only [applySingleSpec,applyPod]
      split
      · subst w
        exact .localPod
      · exact .remotePod ‹_›
  | wireGuardPeer placement =>
    cases placement with
    | none => exact specced_unplaced (.inr rfl)
    | some w =>
      simp only [applySingleSpec,applyWireGuardPeer]
      split
      · subst w
        cases hp : adapterPort with
        | none => exact .portless rfl
        | some p => exact .adapter rfl
      · exact .remotePeer ‹_›
  | service id policy backend =>
    simp only [applySingleSpec,applyService]
    split
    · rename_i ep hl
      split
      · rename_i oldId oldPolicy old processor hb
        split
        · rename_i hsame
          rw [hsame.1] at hb
          exact .update hl hb hsame.2
        · rename_i hother
          refine .create (fun ep' _ _ _ hl' hb' hports => ?_)
          cases hl.symm.trans hl'
          cases hb.symm.trans hb'
          exact hother ⟨rfl,hports⟩
      · rename_i hb
        refine .create (fun ep' _ _ _ hl' hb' _ => ?_)
        cases hl.symm.trans hl'
        exact hb _ _ _ _ hb'
    · rename_i hl
      refine .create (fun _ _ _ _ hl' _ _ => ?_)
      cases hl.symm.trans hl'

def removeIps (t : EndpointTable K) (ips : List Nat) : EndpointTable K := ips.foldl removeIp t

theorem lookup_removeIps {ips : List Nat} : ∀ {t : EndpointTable K},
    (t.removeIps ips).byIp.lookup ip = if ip ∈ ips then none else t.byIp.lookup ip := by
  induction ips with
  | nil => exact rfl
  | cons i ips ih =>
    intro t
    change ((t.removeIp i).removeIps ips).byIp.lookup ip = _
    rw [ih,lookup_removeIp]
    grind

/-- The addresses that have no spec any more. -/
def unlisted (t : EndpointTable K) (specs : List Proto.EndpointSpec) : List Nat :=
  t.byIp.keys.filter (fun ip => ip ∉ specs.map Proto.EndpointSpec.ip)

theorem mem_unlisted {t : EndpointTable K} :
    ip ∈ t.unlisted specs ↔ ip ∈ t.byIp ∧ ip ∉ specs.map Proto.EndpointSpec.ip := by
  simp only [unlisted,List.mem_filter,AList.mem_keys,decide_eq_true_eq]

def applyEndpointSync (t : EndpointTable K) (specs : List Proto.EndpointSpec) (me : WorkerId)
    (adapterPort : Option PortId) : EndpointTable K × List (EndpointSyncEffect K) :=
  applySpecs me adapterPort (t.removeIps (t.unlisted specs)) specs

def applyEndpointUpdate (t : EndpointTable K) (upserted : List Proto.EndpointSpec)
    (removedIps : List Nat) (me : WorkerId) (adapterPort : Option PortId) :
    EndpointTable K × List (EndpointSyncEffect K) :=
  applySpecs me adapterPort (t.removeIps removedIps) upserted

/-- With a stream manager the buffer is left alone. -/
def markServiceReady (t : EndpointTable K) (serviceId : ServiceId) :
    Option (MarkReadyResult K) × EndpointTable K :=
  match t.serviceIdToIp.lookup serviceId with
  | none => (none,t)
  | some ip =>
    match t.byIp.lookup ip with
    | none => (none,t)
    | some ep =>
      match ep.backend with
      | .service id policy (some backendIp) processor =>
        let (action,processor) := K.onMarkReady processor
        let ep := { ep with
          state := .ready, backend := .service id policy (some backendIp) processor }
        match action with
        | some action =>
          if K.hasStreamManager processor then (some (.l4 action),t.put ip ep)
          else (some (.passthrough ep.buffer backendIp ip (some action)),t.put ip ep.drained)
        | none =>
          (some (.passthrough ep.buffer backendIp ip none),
            t.put ip { ep.drained with flowTracker := some (ep.flowTracker.getD K.newTracker) })
      | _ => (none,t)

def flushPodBuffer (t : EndpointTable K) (ip : Nat) : List K.Frame × EndpointTable K :=
  match t.byIp.lookup ip with
  | some ep =>
    match ep.backend with
    | .unplacedPod _ | .localPod _ => (ep.buffer,t.put ip ep.drained)
    | _ => ([],t)
  | none => ([],t)

/-- The ready services that forward to the address and have frames waiting. -/
def waitsFor (target : Nat) (ep : Endpoint K) : Bool :=
  match ep.backend with
  | .service _ _ backendIp _ =>
    ep.state = .ready && backendIp = some target && !ep.buffer.isEmpty
  | _ => false

def flushByBackendIp (t : EndpointTable K) (target : Nat) :
    List (ServiceFlushData K) × EndpointTable K :=
  (t.byIp.toList.filterMap (fun (ip,ep) =>
      if waitsFor target ep then some ⟨ip,target,ep.buffer⟩ else none),
    { t with byIp := t.byIp.retain (fun _ ep =>
        some (if waitsFor target ep then ep.drained else ep)) })

def attachPort (t : EndpointTable K) (ip : Nat) (portId : PortId) :
    Except AttachError (List K.Frame × EndpointTable K) :=
  match t.byIp.lookup ip with
  | none => .error (.noEndpoint ip)
  | some ep =>
    match ep.backend with
    | .localPod _ =>
      .ok (ep.buffer,t.put ip { ep.drained with
        state := .ready
        backend := .localPod (some portId)
        flowTracker := some (ep.flowTracker.getD K.newTracker) })
    | _ => .error (.notLocalPod ip)

/-- The first endpoint found that has the port loses it. -/
def detachPort (t : EndpointTable K) (portId : PortId) : EndpointTable K :=
  match t.byIp.toList.find? (fun (_,ep) => ep.backend.podPort? = some portId) with
  | some (ip,ep) => t.put ip { ep with state := .pending, backend := .localPod none }
  | none => t

def getPortId (t : EndpointTable K) (ip : Nat) : Option PortId :=
  match (t.byIp.lookup ip).map Endpoint.backend with
  | some (.localPod portId) => portId
  | some (.localAdapter portId) => some portId
  | _ => none

def trackFlow (ip : Nat) (ep : Endpoint K) (frame : K.Frame) (now : Nat) :
    Endpoint K × Option FlowStatusChange :=
  match ep.flowTracker with
  | none => (ep,none)
  | some tracker =>
    let tracker' := K.track tracker frame now
    ({ ep with flowTracker := some tracker' },
      if K.hasActiveFlows tracker' ≠ K.hasActiveFlows tracker then
        some ⟨ip,ep.backend.serviceId?,K.hasActiveFlows tracker'⟩
      else none)

def activationDebounce : Nat := 1000

def checkActivationDebounce (ep : Endpoint K) (now : Nat) : Endpoint K × Bool :=
  match ep.lastActivation with
  | some last => if now - last < activationDebounce then (ep,false)
      else ({ ep with lastActivation := some now },true)
  | none => ({ ep with lastActivation := some now },true)

/-- Whether the frame was accepted. A buffer that is too old is emptied. -/
def tryBufferFrame (ep : Endpoint K) (frame : K.Frame) (policy : BufferPolicy) (now : Nat) :
    Endpoint K × Bool :=
  if policy.bufferFrames = 0 then (ep,false)
  else if (ep.bufferStart.map (fun start => decide (policy.timeoutMs ≤ now - start))).getD false then
    (ep.drained,false)
  else if policy.bufferFrames ≤ ep.buffer.length then (ep,false)
  else ({ ep with
      bufferStart := some (ep.bufferStart.getD now)
      buffer := ep.buffer ++ [frame] },true)

/-- The frame goes to the buffer of the endpoint. -/
def dispatchBuffer (t : EndpointTable K) (ip : Nat) (ep : Endpoint K) (frame : K.Frame)
    (policy : BufferPolicy) (now : Nat) : (EndpointAction K × Bool) × EndpointTable K :=
  let (ep,activate) := checkActivationDebounce ep now
  let (ep,accepted) := tryBufferFrame ep frame policy now
  ((if accepted then .buffered ep.backend.serviceId? else .drop ep.backend.serviceId?,activate),
    t.put ip ep)

/-- The address of the pod that a ready service forwards to. -/
def forwardIp (t : EndpointTable K) (ip : Nat) (state : EndpointState) (backendIp : Option Nat) :
    Option Nat :=
  match backendIp with
  | some podIp =>
    if state = .ready ∧ podIp ≠ ip ∧
        ((t.byIp.lookup podIp).map (fun ep => ep.backend.isReachable)).getD false
    then some podIp else none
  | none => none

/-- The activator of a service sees the frame before it is buffered. -/
def dispatchService (t : EndpointTable K) (ip : Nat) (ep : Endpoint K) (frame : K.Frame)
    (serviceId : ServiceId) (policy : ServicePolicy) (backendIp : Option Nat)
    (processor : K.Processor) (change : Option FlowStatusChange) (now : Nat) :
    (EndpointAction K × Bool × Option FlowStatusChange) × EndpointTable K :=
  match t.forwardIp ip ep.state backendIp with
  | some podIp => ((.serviceForward podIp ip,false,change),t)
  | none =>
    let (action,processor) :=
      if K.isPassthrough processor then (none,processor) else K.processFrame processor frame
    let ep := { ep with backend := .service serviceId policy backendIp processor }
    match action with
    | some action => ((.processed action serviceId,false,none),t.put ip ep)
    | none =>
      let ((action,activate),t) := t.dispatchBuffer ip ep frame
        ⟨policy.bufferFrames,policy.timeoutMs⟩ now
      ((action,activate,change),t)

def lookupAndBuffer (t : EndpointTable K) (ip : Nat) (frame : K.Frame) (skipFlowTracking : Bool)
    (now : Nat) : (EndpointAction K × Bool × Option FlowStatusChange) × EndpointTable K :=
  match t.byIp.lookup ip with
  | none => ((.notFound,false,none),t)
  | some ep =>
    let (ep,change) := if skipFlowTracking then (ep,none) else trackFlow ip ep frame now
    let t := t.put ip ep
    match ep.backend with
    | .remoteSegment workerId => ((.remoteWorker workerId,false,none),t)
    | .localAdapter portId => ((.localAdapter portId,false,change),t)
    | .localPod (some portId) => ((.localPod portId,false,change),t)
    | .localPod none =>
      let ((action,activate),t) := t.dispatchBuffer ip ep frame podPolicy now
      ((action,activate,change),t)
    | .unplacedPod policy =>
      let ((action,activate),t) := t.dispatchBuffer ip ep frame policy now
      ((action,activate,change),t)
    | .service serviceId policy backendIp processor =>
      t.dispatchService ip ep frame serviceId policy backendIp processor change now

end EndpointTable

end Distvirt.Worker
