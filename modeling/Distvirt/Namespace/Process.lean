import Distvirt.Namespace.Cycle

/-! The entry points of a namespace: messages of the orchestrator, timers, and spec changes. -/

namespace Distvirt
open Std (ExtTreeMap)
open Ns

namespace Namespace

def registryEntries (ns : Namespace) : List RegistryEntry :=
  ns.dnsCache.toList.map (fun (name,ip) => ⟨name,ip⟩)

def wgPeers (ns : Namespace) : List WireGuardPeerEndpointInfo := ns.wgPeerCache.toList.map Prod.snd

/-- A worker that confirms the namespace gets the registry, the endpoints, the peers it hosts
and the commands that were held back for it. -/
def namespaceCreated (ns : Namespace) (effects : NamespaceEffects) (workerId : WorkerId) :
    Except Fault (Namespace × NamespaceEffects) :=
  match ns.pendingWorkers workerId with
  | none => .ok (ns,effects)
  | some info => do
    let ns := { ns with
      pendingWorkers := Function.update ns.pendingWorkers workerId none
      activeWorkers := Function.update ns.activeWorkers workerId (some info.defaultPool) }
    let effects := if ns.registryEntries.isEmpty then effects
      else effects.command workerId (.registrySync ns.namespaceId ns.registryEntries)
    let endpoints ← (ns.endpointCache.toList.map Prod.snd).mapM buildEndpointSpec
    let endpoints := endpoints ++ ns.wgPeers.map buildWgPeerSpec
    let effects := if endpoints.isEmpty then effects
      else effects.command workerId (.endpointSync ns.namespaceId endpoints)
    let hosted := ns.wgPeers.filter (fun info => info.workerId = workerId)
    let effects := hosted.foldl (fun effects info => effects.command workerId
      (.addWireGuardPeer ns.namespaceId info.peerPublicKey info.peerIp none)) effects
    let effects := (ns.bufferedWorkerCommands workerId).foldl
      (fun effects cmd => effects.command workerId cmd) effects
    return ({ ns with
      bufferedWorkerCommands := Function.update ns.bufferedWorkerCommands workerId [] },effects)

/-- Reports for pods that are gone are dropped. -/
def notifyPod (ns : Namespace) (workerId : WorkerId) (podId : PodId) (status : PodStatus) :
    Namespace :=
  match ns.getPod podId with
  | some _ => { ns with router := ns.router.send ⟨Event.notifyPodStatus,workerId,podId,status⟩ }
  | none => ns

/-- The live endpoint with the lowest id among those with this address. -/
def endpointByIp (r : DRouter) (ip : Nat) : Option EndpointId :=
  (List.range (r.alloc (.inl SmKind.endpoint))).find? (fun id =>
    match (r.sms SmKind.endpoint id : Option EndpointSm) with
    | some ep => ep.ip = ip
    | none => false)

def podSuspended (ns : Namespace) (workerId : WorkerId) (podId : PodId)
    (artifactId : Option ArtifactPortId) : Except Fault Namespace :=
  match ns.getPod podId,artifactId with
  | none,_ => .ok ns
  | some _,none => .error .artifactId
  | some _,some portId =>
    .ok { ns with
      router := (ns.router.createPort PortKind.artifact portId).send
        ⟨Event.notifyPodSuspended,workerId,podId,portId⟩
      artifact := ns.artifact.registerPending portId }

def dispatchActiveWorkerEvent (ns : Namespace) (effects : NamespaceEffects) (workerId : WorkerId) :
    WorkerNamespaceEventKind → Except Fault (Namespace × NamespaceEffects)
  | .podRunning podId => .ok (ns.notifyPod workerId podId .running,effects)
  | .podExited podId exitCode =>
    .ok (ns.notifyPod workerId podId
      (if exitCode = 0 then .finished exitCode
       else .failed (some exitCode) s!"process exited with code {exitCode}"),effects)
  | .podFailed podId error => .ok (ns.notifyPod workerId podId (.failed none error),effects)
  | .podSuspended podId artifactId =>
    (ns.podSuspended workerId podId artifactId).map (fun ns => (ns,effects))
  | .podSuspendFailed podId =>
    .ok (ns.notifyPod workerId podId (.failed none "suspend failed"),effects)
  | .endpointDemand ip signal =>
    match endpointByIp ns.router ip with
    | some endpointId =>
      let (d,r) := ns.endpointDemand.pushDemand ns.router workerId endpointId signal
      .ok ({ ns with endpointDemand := d, router := r },effects)
    | none => .ok (ns,effects)
  | .podMemoryConstrained podId reason =>
    .ok (ns,effects.observe [.pod podId (.memoryConstrained reason)])
  | .podMemoryConstraintCleared podId =>
    .ok (ns,effects.observe [.pod podId .memoryConstraintCleared])
  | .podOomKill podId count => .ok (ns,effects.observe [.pod podId (.oomKill count)])
  -- handled before the worker is known to be active
  | .namespaceCreated | .namespaceFailed _ => .ok (ns,effects)

def workerEvent (ns : Namespace) (effects : NamespaceEffects) (workerId : WorkerId)
    (event : WorkerNamespaceEventKind) : Except Fault (Namespace × NamespaceEffects) :=
  match event with
  | .namespaceCreated => ns.namespaceCreated effects workerId
  | .namespaceFailed _ => .ok (ns.namespaceFailed workerId,effects)
  | event =>
    if (ns.activeWorkers workerId).isSome then ns.dispatchActiveWorkerEvent effects workerId event
    else .ok (ns,effects)

def pushEvent (ns : Namespace) (effects : NamespaceEffects) :
    OrchestratorToNamespace → Except Fault (Namespace × NamespaceEffects)
  | .workerConnected workerId info => .ok (ns.workerConnected workerId info,effects)
  | .workerDisconnected workerId => .ok (ns.workerDisconnected workerId,effects)
  | .workerEvent workerId event => ns.workerEvent effects workerId event
  | .schedulerDecision decision => .ok (ns.schedulerDecision decision,effects)
  | .clientCommand command => .ok (ns.clientCommand command,effects)
  | .artifactInvalidated portId =>
    .ok ({ ns with router := ns.router.destroyPort PortKind.artifact portId },effects)

def processEvent (fuel : Nat) (ns : Namespace) (event : OrchestratorToNamespace) :
    Except Fault (Namespace × NamespaceEffects) := do
  let (ns,effects) ← ns.pushEvent {} event
  ns.runCycle fuel effects

def fireTimer (fuel : Nat) (ns : Namespace) (identity : TimerIdentity) :
    Except Fault (Namespace × NamespaceEffects) :=
  { ns with router := identity.fire ns.router }.runCycle fuel {}

end Namespace

end Distvirt
