import Distvirt.Sm.Types

/-! The endpoint and service machines. An endpoint turns traffic and activity into demand for
its workload and publishes where its address leads. -/

namespace Distvirt

inductive EndpointState where
  | idle
  | needBackend
  | active (ready : ReadyInfo)
deriving DecidableEq, Repr

structure EndpointSm where
  state : EndpointState
  hasActivation : Bool
  idleGeneration : Nat
  idleTimerActive : Bool
  idleTimeout : Duration
  lastReadiness : Option ReadyInfo
  activeLevel : Bool
  placementWorkerId : Option WorkerId
  kind : Option EndpointKind
  ip : Nat
  dnsEntry : Option DnsEntryInfo
deriving DecidableEq, Repr

structure EndpointCtx where
  setDemand : Option Bool := none
  setWantedTimers : Option (List (TimerRequest EndpointTimerKey)) := none
  setStatus : Option EndpointStatus := none
  setCurrentBackendNeed : Option BackendNeed := none
  setIdleTimerActive : Option Bool := none
  setEndpointInfo : Option (Option EndpointInfo) := none
  setDnsEntry : Option (Option DnsEntryInfo) := none
  setEndpointDemandEdges : Option (List WorkloadId) := none
  setEndpointTimersEdges : Option (List Nat) := none
  setEndpointFabricEndpointsEdges : Option (List Nat) := none
  setEndpointDnsEdges : Option (List Nat) := none
  setEndpointObservabilityEdges : Option (List Nat) := none
  selfDestruct : Bool := false

/-- An endpoint together with the context of the input it is handling. -/
structure EndpointTurn extends EndpointSm, EndpointCtx

inductive EndpointInput where
  | configInput (config : Option EndpointConfig)
  | readinessInput (readiness : List (Option ReadyInfo))
  | placementInput (placement : List (Option WorkerId))
  | backendNeedInput (need : Bool)
  | activateEndpoint (active : Bool)
  | endpointTimerFired (key : EndpointTimerKey)
  | endpointDemandTraffic

namespace EndpointSm

/-- Without activation an endpoint always has demand. -/
def computeDemand (e : EndpointSm) : Bool :=
  if e.hasActivation then e.activeLevel || e.idleTimerActive else true

def derivedState (e : EndpointSm) : EndpointState :=
  match e.lastReadiness with
  | some ready => .active ready
  | none => if e.computeDemand then .needBackend else .idle

def new (hasActivation : Bool) : EndpointSm :=
  let e : EndpointSm := ⟨.idle,hasActivation,0,false,0,none,false,none,none,0,none⟩
  { e with state := e.derivedState }

def wantedTimers (e : EndpointSm) : List (TimerRequest EndpointTimerKey) :=
  if e.idleTimerActive then [⟨.idleTimeout,e.idleGeneration,e.idleTimeout⟩] else []

def status (e : EndpointSm) : EndpointStatus :=
  match e.state with
  | .idle => .idle
  | .needBackend => .needBackend
  | .active _ => .active

/-- A workload endpoint is published as soon as its kind is known, a service endpoint without
a ready backend only if it has activation. -/
def endpointInfo (e : EndpointSm) : Option EndpointInfo :=
  match e.state,e.kind with
  | .active ready,some kind =>
    let backendIp := match kind with
      | .service _ _ => some ready.podIp
      | .workload => none
    some ⟨kind,e.ip,some ⟨backendIp,ready.workerId⟩⟩
  | _,some .workload => some ⟨.workload,e.ip,e.placementWorkerId.map (fun w => ⟨none,w⟩)⟩
  | _,some kind => if e.hasActivation then some ⟨kind,e.ip,none⟩ else none
  | _,none => none

def begin (e : EndpointSm) : EndpointTurn := { toEndpointSm := e, toEndpointCtx := {} }

end EndpointSm

namespace EndpointTurn

def updateTimerSignal (t : EndpointTurn) : EndpointTurn :=
  { t with setWantedTimers := some t.wantedTimers }

def updateStatusSignals (t : EndpointTurn) : EndpointTurn :=
  { t with
    setStatus := some t.status
    setCurrentBackendNeed := some (if t.computeDemand then .active else .none)
    setIdleTimerActive := some t.idleTimerActive
    setEndpointInfo := some t.endpointInfo
    setDnsEntry := some t.dnsEntry }

def handleConfig (t : EndpointTurn) (config : Option EndpointConfig) : EndpointTurn :=
  match config with
  | some config =>
    let t := { t with
      kind := some config.kind
      hasActivation := config.hasActivation
      idleTimeout := config.idleTimeout
      ip := config.ip
      dnsEntry := config.dnsEntry
      setEndpointDemandEdges := some [config.workload] }
    if t.idleTimerActive && !t.hasActivation then
      { t with idleTimerActive := false }.updateTimerSignal
    else t
  | none => { t with selfDestruct := true }

def handleActivate (t : EndpointTurn) (active : Bool) : EndpointTurn :=
  let t := { t with activeLevel := active }
  if active && t.idleTimerActive then { t with idleTimerActive := false }.updateTimerSignal else t

def handleTrafficEvent (t : EndpointTurn) : EndpointTurn :=
  if t.hasActivation then
    { t with
      idleTimerActive := true
      idleGeneration := t.idleGeneration + 1 }.updateTimerSignal
  else t

def handleTimerFired (t : EndpointTurn) : EndpointTurn :=
  if t.idleTimerActive then { t with idleTimerActive := false }.updateTimerSignal else t

/-- What every input and the creation hook end with. -/
def publish (t : EndpointTurn) : EndpointTurn :=
  let t := { t with state := t.derivedState }
  { t with setDemand := some t.computeDemand }.updateStatusSignals

def dispatch (t : EndpointTurn) : EndpointInput → EndpointTurn
  | .configInput config => t.handleConfig config
  | .readinessInput readiness => { t with lastReadiness := readiness.head?.join }
  | .placementInput placement => { t with placementWorkerId := placement.head?.join }
  | .endpointDemandTraffic => t.handleTrafficEvent
  | .backendNeedInput need => t.handleActivate need
  | .activateEndpoint _ => t
  | .endpointTimerFired _ => t.handleTimerFired

def handle (t : EndpointTurn) (input : EndpointInput) : EndpointTurn := (t.dispatch input).publish

def onInit (t : EndpointTurn) : EndpointTurn :=
  { t with
    setEndpointTimersEdges := some [singleton]
    setEndpointFabricEndpointsEdges := some [singleton]
    setEndpointDnsEdges := some [singleton]
    setEndpointObservabilityEdges := some [singleton] }.publish

end EndpointTurn

/-- A service only owns and configures its endpoint. -/
structure ServiceSm where
  endpointId : Option EndpointId
deriving DecidableEq, Repr

structure ServiceCtx where
  id : ServiceId
  nextEndpoint : EndpointId
  setEndpointConfig : Option (Option EndpointConfig) := none
  setServiceEndpointOwnershipEdges : Option (List EndpointId) := none
  activateEndpoint : List (EndpointId × Bool) := []
  createEndpoint : List (EndpointId × EndpointSm) := []
  selfDestruct : Bool := false

structure ServiceTurn extends ServiceSm, ServiceCtx

inductive ServiceInput where
  | svcSpecInput (spec : Option (ManagementId × Sm.ServiceSpec))
  | activateService (active : Bool)

namespace ServiceTurn

def ensureEndpoint (t : ServiceTurn) (hasActivation : Bool) : ServiceTurn :=
  match t.endpointId with
  | some _ => t
  | none =>
    { t with
      endpointId := some t.nextEndpoint
      nextEndpoint := t.nextEndpoint + 1
      createEndpoint := t.createEndpoint ++ [(t.nextEndpoint,.new hasActivation)]
      setServiceEndpointOwnershipEdges := some [t.nextEndpoint] }

def handle (t : ServiceTurn) : ServiceInput → ServiceTurn
  | .svcSpecInput (some (_,spec)) =>
    let t := t.ensureEndpoint spec.hasActivation
    { t with setEndpointConfig := some (some
        { kind := .service t.id spec.policy
          workload := spec.workload
          hasActivation := spec.hasActivation
          idleTimeout := spec.idleTimeout
          ip := spec.ip
          dnsEntry := match spec.dnsName,spec.dnsIp with
            | some name,some ip => some ⟨name,ip⟩
            | _,_ => none }) }
  | .svcSpecInput none => { t with selfDestruct := true }
  | .activateService active =>
    match t.endpointId with
    | some ep => { t with activateEndpoint := t.activateEndpoint ++ [(ep,active)] }
    | none => t

end ServiceTurn

end Distvirt
