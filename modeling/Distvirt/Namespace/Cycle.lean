import Distvirt.Namespace.Namespace

/-! Worker events, the reconcile loop and command building. -/

namespace Distvirt
open Std (ExtTreeMap)
open Ns

namespace NamespaceEffects

def command (effects : NamespaceEffects) (workerId : WorkerId) (cmd : WorkerCommand) :
    NamespaceEffects :=
  { effects with workerCommands := effects.workerCommands ++ [(workerId,cmd)] }

def broadcast (effects : NamespaceEffects) (cmd : WorkerCommand) : NamespaceEffects :=
  { effects with broadcastCommands := effects.broadcastCommands ++ [cmd] }

def observe (effects : NamespaceEffects) (events : List ObservabilityEvent) : NamespaceEffects :=
  { effects with observabilityEvents := effects.observabilityEvents ++ events }

def message (effects : NamespaceEffects) (msg : SchedulerMessage) : NamespaceEffects :=
  { effects with schedulerMessages := effects.schedulerMessages ++ [msg] }

end NamespaceEffects

/-- A service endpoint with a backend is expected to know the backend's address. -/
def buildEndpointSpec (info : EndpointInfo) : Except Fault Proto.EndpointSpec :=
  match info.kind with
  | .service serviceId policy =>
    match info.backend with
    | some ⟨some ip,workerId⟩ =>
      .ok ⟨info.ip,.service serviceId policy (some ⟨ip,some workerId,true⟩)⟩
    | some ⟨none,_⟩ => .error .backendIp
    | none => .ok ⟨info.ip,.service serviceId policy none⟩
  | .workload => .ok ⟨info.ip,.pod (info.backend.map EndpointBackendInfo.workerId)⟩

def buildWgPeerSpec (info : WireGuardPeerEndpointInfo) : Proto.EndpointSpec :=
  ⟨info.peerIp,.wireGuardPeer (some info.workerId)⟩

inductive PodAssignmentAction where
  | launch (workerId : WorkerId) (podId : PodId) (spec : Option Sm.WorkloadSpec)
  | resume (workerId : WorkerId) (podId : PodId) (artifactId : ArtifactPortId)
      (spec : Option Sm.WorkloadSpec)
  | stop (workerId : WorkerId) (podId : PodId)
  | suspend (workerId : WorkerId) (podId : PodId)
deriving DecidableEq, Repr

def PodAssignmentAction.ofDelta (workerId : WorkerId) : PodAssignmentDelta → PodAssignmentAction
  | .launch podId _ spec => .launch workerId podId spec
  | .resume podId artifactId spec => .resume workerId podId artifactId spec
  | .stop podId => .stop workerId podId
  | .suspend podId => .suspend workerId podId

/-- The queued inputs of the ports, by kind. Ports other than the singletons are ignored where
the adapters ignore them. -/
structure ReconcileActions where
  timerActions : List TimerAction
  scheduleDeltas : List ScheduleRequestDelta
  podActions : List PodAssignmentAction
  endpointActions : List EndpointAction
  dnsRegistryActions : List DnsRegistryAction
  observabilityEvents : List ObservabilityEvent

namespace ReconcileActions

abbrev Queued := Nat × (i : Inc) × Delta i

def timers (queue : List Queued) : List TimerAction :=
  queue.flatMap (fun
    | (0,⟨.workloadTimersInput,actions⟩) => actions
    | (0,⟨.endpointTimersInput,actions⟩) => actions
    | (0,⟨.podTimersInput,actions⟩) => actions
    | _ => [])

def schedules (queue : List Queued) : List ScheduleRequestDelta :=
  queue.filterMap (fun
    | (0,⟨.podRequestsInput,delta⟩) => some delta
    | _ => none)

def pods (queue : List Queued) : List PodAssignmentAction :=
  queue.filterMap (fun
    | (workerId,⟨.assignedPodsInput,delta⟩) => some (.ofDelta workerId delta)
    | _ => none)

def endpoints (queue : List Queued) : List EndpointAction :=
  queue.flatMap (fun
    | (0,⟨.endpointsInput,actions⟩) => actions
    | _ => [])

def dns (queue : List Queued) : List DnsRegistryAction :=
  queue.flatMap (fun
    | (0,⟨.endpointDnsInput,actions⟩) => actions
    | (0,⟨.workloadDnsInput,actions⟩) => actions
    | _ => [])

def observations (queue : List Queued) : List ObservabilityEvent :=
  queue.filterMap (fun
    | (0,⟨.obsPodStatusInput,event⟩) => some event
    | (0,⟨.obsPodWorkerInput,event⟩) => some event
    | (0,⟨.obsWorkloadStatusInput,event⟩) => some event
    | (0,⟨.obsEndpointStatusInput,event⟩) => some event
    | (0,⟨.obsEndpointIdleTimerInput,event⟩) => some event
    | _ => none)

end ReconcileActions

def EndpointAction.updateCaches :
    ExtTreeMap EndpointId EndpointInfo × ExtTreeMap Nat WireGuardPeerEndpointInfo → EndpointAction →
      ExtTreeMap EndpointId EndpointInfo × ExtTreeMap Nat WireGuardPeerEndpointInfo
  | (eps,peers),.update endpointId info => (eps.insert endpointId info,peers)
  | (eps,peers),.remove endpointId _ => (eps.erase endpointId,peers)
  | (eps,peers),.wireGuardPeerUpdate peerId info => (eps,peers.insert peerId info)
  | (eps,peers),.wireGuardPeerRemove peerId _ => (eps,peers.erase peerId)

def DnsRegistryAction.updateCache (cache : ExtTreeMap String Nat) : DnsRegistryAction →
    ExtTreeMap String Nat
  | .add name ip => cache.insert name ip
  | .remove name => cache.erase name

namespace Namespace

def fillNetworkFromNamespace (ns : Namespace) (network : PodNetworkConfig) :
    Except Fault PodNetworkConfig :=
  fillNetwork ns.currentSpec network

def podNetwork (ns : Namespace) (spec : Option Sm.WorkloadSpec) : Except Fault PodNetworkConfig :=
  ns.fillNetworkFromNamespace ((spec.bind (fun s => s.podSpec.network)).getD defaultPodNetwork)

def buildLaunchCommand (ns : Namespace) (podId : PodId) (spec : Option Sm.WorkloadSpec) :
    Except Fault WorkerCommand :=
  (ns.podNetwork spec).map (fun network => .launchPod ns.namespaceId podId network
    ((spec.map (fun s => s.podSpec.containers)).getD [])
    (spec.bind (fun s => s.podSpec.resources))
    ((spec.map (fun s => s.podSpec.volumes)).getD []))

def defaultPool (ns : Namespace) (workerId : WorkerId) : Option String :=
  (ns.activeWorkers workerId).join

def buildResumeCommand (ns : Namespace) (workerId : WorkerId) (podId : PodId)
    (artifactId : ArtifactPortId) (spec : Option Sm.WorkloadSpec) : Except Fault WorkerCommand :=
  match ns.defaultPool workerId with
  | some poolId => (ns.podNetwork spec).map (fun network =>
    .resumePod ns.namespaceId podId artifactId network poolId)
  | none => .error .resumePool

def buildEndpointCommand (ns : Namespace) : EndpointAction → Except Fault WorkerCommand
  | .update _ info =>
    (buildEndpointSpec info).map (fun spec => .endpointUpdate ns.namespaceId [spec] [])
  | .remove _ oldInfo => .ok (.endpointUpdate ns.namespaceId [] [oldInfo.ip])
  | .wireGuardPeerUpdate _ info =>
    .ok (.endpointUpdate ns.namespaceId [buildWgPeerSpec info] [])
  | .wireGuardPeerRemove _ oldInfo => .ok (.endpointUpdate ns.namespaceId [] [oldInfo.peerIp])

/-- Launch and resume commands wait until the worker has confirmed the namespace. -/
def sendOrBuffer (ns : Namespace) (effects : NamespaceEffects) (workerId : WorkerId)
    (cmd : WorkerCommand) : Namespace × NamespaceEffects :=
  if (ns.activeWorkers workerId).isSome then (ns,effects.command workerId cmd)
  else
    ({ ns with
        bufferedWorkerCommands := Function.update ns.bufferedWorkerCommands workerId
          (ns.bufferedWorkerCommands workerId ++ [cmd]) },effects)

def collectSchedule (ns : Namespace) (effects : NamespaceEffects) :
    ScheduleRequestDelta → NamespaceEffects
  | .request podId request =>
    effects.message (.requestLease ns.namespaceId podId request.resumeArtifact)
  | .drop podId => effects.message (.dropRequest ns.namespaceId podId)

def collectPod : Namespace × NamespaceEffects → PodAssignmentAction →
    Except Fault (Namespace × NamespaceEffects)
  | (ns,effects),.launch workerId podId spec =>
    (ns.buildLaunchCommand podId spec).map (ns.sendOrBuffer effects workerId)
  | (ns,effects),.resume workerId podId artifactId spec =>
    (ns.buildResumeCommand workerId podId artifactId spec).map (ns.sendOrBuffer effects workerId)
  | (ns,effects),.stop workerId podId =>
    .ok (ns,effects.command workerId (.stopPod ns.namespaceId podId true))
  | (ns,effects),.suspend workerId podId =>
    match ns.defaultPool workerId with
    | none => .error .suspendPool
    | some poolId =>
      -- `alloc_artifact_id`
      let artifactId := ns.nextArtifactCounter + 1
      .ok ({ ns with nextArtifactCounter := artifactId },
        effects.command workerId (.suspendPod ns.namespaceId podId artifactId poolId))

def collectEndpoint (ns : Namespace) (effects : NamespaceEffects) (action : EndpointAction) :
    Except Fault NamespaceEffects :=
  (ns.buildEndpointCommand action).map (fun cmd =>
    let effects := effects.broadcast cmd
    match action with
    | .wireGuardPeerUpdate _ info =>
      effects.command info.workerId
        (.addWireGuardPeer ns.namespaceId info.peerPublicKey info.peerIp none)
    | .wireGuardPeerRemove _ oldInfo =>
      effects.broadcast (.removeWireGuardPeer oldInfo.peerPublicKey)
    | _ => effects)

def collectDns (ns : Namespace) (effects : NamespaceEffects) (actions : List DnsRegistryAction) :
    NamespaceEffects :=
  let added : List RegistryEntry := actions.filterMap (fun
    | .add name ip => some ⟨name,ip⟩
    | .remove _ => none)
  let removed := actions.filterMap (fun
    | .add _ _ => none
    | .remove name => some name)
  if added.isEmpty && removed.isEmpty then effects
  else effects.broadcast (.registryUpdate ns.namespaceId added removed)

/-- Turns the drained actions into effects. -/
def collectEffects (ns : Namespace) (actions : ReconcileActions) (effects : NamespaceEffects) :
    Except Fault (Namespace × NamespaceEffects) := do
  let effects := { effects with timerActions := effects.timerActions ++ actions.timerActions }
  let effects := actions.scheduleDeltas.foldl ns.collectSchedule effects
  let (ns,effects) ← actions.podActions.foldlM collectPod (ns,effects)
  let effects ← actions.endpointActions.foldlM ns.collectEndpoint effects
  let effects := ns.collectDns effects actions.dnsRegistryActions
  return (ns,effects.observe actions.observabilityEvents)

/-- Drains every port; only the artifact adapter writes to the router. -/
def reconcile (ns : Namespace) : ReconcileActions × Bool × Namespace :=
  let (timerInputs,r) := ns.router.drain PortKind.timer
  let (scheduleInputs,r) := r.drain PortKind.scheduleRequest
  let (podInputs,r) := r.drain PortKind.worker
  let (endpointInputs,r) := r.drain PortKind.fabricEndpoint
  let (dnsInputs,r) := r.drain PortKind.dnsRegistry
  let endpointActions := ReconcileActions.endpoints endpointInputs
  let dnsRegistryActions := ReconcileActions.dns dnsInputs
  let (mutated,artifact,r) := ns.artifact.reconcile r
  let (observabilityInputs,r) := r.drain PortKind.observability
  let caches := endpointActions.foldl EndpointAction.updateCaches (ns.endpointCache,ns.wgPeerCache)
  ({ timerActions := ReconcileActions.timers timerInputs
     scheduleDeltas := ReconcileActions.schedules scheduleInputs
     podActions := ReconcileActions.pods podInputs
     endpointActions
     dnsRegistryActions
     observabilityEvents := ReconcileActions.observations observabilityInputs },
    mutated,
    { ns with
      router := r
      artifact
      endpointCache := caches.1
      wgPeerCache := caches.2
      dnsCache := dnsRegistryActions.foldl DnsRegistryAction.updateCache ns.dnsCache })

def propagate (ns : Namespace) : Except Fault Namespace :=
  match ns.router.propagate with
  | some r => .ok { ns with router := r }
  | none => .error .router

def finalize (ns : Namespace) (effects : NamespaceEffects) : Namespace × NamespaceEffects :=
  let (actions,artifact,r) := ns.artifact.finalize ns.router
  ({ ns with artifact, router := r },
    actions.foldl (fun effects action =>
      match action with
      | .referenced portId => effects.message (.artifactReferenced ns.namespaceId portId)
      | .released portId => effects.message (.artifactReleased ns.namespaceId portId)) effects)

/-- One turn of the loop: reconcile and collect. -/
def settleOnce (ns : Namespace) (effects : NamespaceEffects) :
    Except Fault (Bool × Namespace × NamespaceEffects) :=
  let (actions,mutated,ns) := ns.reconcile
  (ns.collectEffects actions effects).map (Prod.mk mutated)

/-- The loop runs again as long as the artifact adapter wrote to the router. -/
def reconcileLoop : Nat → Namespace → NamespaceEffects → Except Fault (Namespace × NamespaceEffects)
  | 0,_,_ => .error .outOfFuel
  | fuel + 1,ns,effects => do
    let (mutated,ns,effects) ← ns.settleOnce effects
    if mutated then reconcileLoop fuel (← ns.propagate) effects
    else return (ns,effects)

def runCycle (fuel : Nat) (ns : Namespace) (effects : NamespaceEffects) :
    Except Fault (Namespace × NamespaceEffects) := do
  let (ns,effects) ← reconcileLoop fuel (← ns.propagate) effects
  return ns.finalize effects

end Namespace

end Distvirt
