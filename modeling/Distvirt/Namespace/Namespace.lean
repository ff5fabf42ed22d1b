import Distvirt.Namespace.Adapters

/-! One namespace: its router and adapters, the worker handshake, and the cycle that propagates,
drains the ports and turns what they received into commands. -/

namespace Distvirt
open Std (ExtTreeMap)
open Ns

/-- The allocator's invariant is part of the state. Tables that are only looked up are
functions. -/
structure Namespace where
  namespaceId : NamespaceId
  router : DRouter
  management : ManagementAdapter
  endpointDemand : EndpointDemandAdapter
  endpointCache : ExtTreeMap EndpointId EndpointInfo
  wgPeerCache : ExtTreeMap Nat WireGuardPeerEndpointInfo
  dnsCache : ExtTreeMap String Nat
  artifact : ArtifactAdapter
  leases : PodId → Option ScheduleLeaseId
  workerPodEdges : WorkerId → Option (List PodId)
  podWorker : PodId → Option WorkerId
  currentSpec : Option NamespaceSpec
  ipAllocator : NamespaceIpAllocator
  ipValid : ipAllocator.Valid
  wgPeerMgr : WireGuardPeerManager
  wgPeerPorts : Nat → Option Nat
  pendingWorkers : WorkerId → Option WorkerInfo
  /-- The default pool of each worker that confirmed the namespace. -/
  activeWorkers : WorkerId → Option (Option String)
  deferredGrants : List (PodId × WorkerId)
  bufferedWorkerCommands : WorkerId → List WorkerCommand
  nextArtifactCounter : Nat

namespace Namespace

def newRouter : DRouter :=
  [PortKind.timer,PortKind.scheduleRequest,PortKind.fabricEndpoint,PortKind.dnsRegistry,
    PortKind.observability].foldl (fun r p => r.createPort p singleton) (.new topology)

def new (namespaceId : NamespaceId) (network : NetworkConfig) : Namespace where
  namespaceId
  router := newRouter
  management := .new
  endpointDemand := ⟨[]⟩
  endpointCache := ∅
  wgPeerCache := ∅
  dnsCache := ∅
  artifact := ⟨[],[]⟩
  leases := fun _ => none
  workerPodEdges := fun _ => none
  podWorker := fun _ => none
  currentSpec := none
  ipAllocator := .new network.subnet network.prefixLen 10
  ipValid := NamespaceIpAllocator.valid_new _ _ _
  wgPeerMgr := .new network.subnet network.prefixLen
  wgPeerPorts := fun _ => none
  pendingWorkers := fun _ => none
  activeWorkers := fun _ => none
  deferredGrants := []
  bufferedWorkerCommands := fun _ => []
  nextArtifactCounter := 0

def getPod (ns : Namespace) (podId : PodId) : Option PodSm := ns.router.sms SmKind.pod podId

def addPodToWorker (ns : Namespace) (workerId : WorkerId) (podId : PodId) : Namespace :=
  let pods := (ns.workerPodEdges workerId).getD []
  let pods := if podId ∈ pods then pods else pods ++ [podId]
  { ns with
    podWorker := Function.update ns.podWorker podId (some workerId)
    workerPodEdges := Function.update ns.workerPodEdges workerId (some pods)
    router := ns.router.setEdges Edge.workerAssignment workerId pods }

def removePodFromWorker (ns : Namespace) (podId : PodId) : Namespace :=
  match ns.podWorker podId with
  | none => ns
  | some workerId =>
    let ns := { ns with podWorker := Function.update ns.podWorker podId none }
    match ns.workerPodEdges workerId with
    | none => ns
    | some pods =>
      let pods := pods.filter (fun p => p ≠ podId)
      { ns with
        workerPodEdges := Function.update ns.workerPodEdges workerId (some pods)
        router := ns.router.setEdges Edge.workerAssignment workerId pods }

/-- A grant for a pod that is gone is dropped. -/
def applyGrant (ns : Namespace) (workerId : WorkerId) (podId : PodId) : Namespace :=
  match ns.getPod podId with
  | none => ns
  | some _ =>
    let (leaseId,r) := ns.router.createPortAuto PortKind.scheduleLease
    let r := r.setSignal Signal.scheduleLeaseLease leaseId ⟨workerId⟩
    let r := r.setEdges Edge.podLease leaseId [podId]
    { ns with
      router := r
      leases := Function.update ns.leases podId (some leaseId) }.addPodToWorker workerId podId

/-- Forgets which pods a worker has, without touching the router. -/
def forgetWorkerPods (ns : Namespace) (workerId : WorkerId) : Namespace :=
  match ns.workerPodEdges workerId with
  | none => ns
  | some pods =>
    { ns with
      workerPodEdges := Function.update ns.workerPodEdges workerId none
      podWorker := fun p => if p ∈ pods then none else ns.podWorker p }

/-- The port of a worker exists from here on, before the worker confirms the namespace; grants
that came even earlier are applied now. -/
def workerConnected (ns : Namespace) (workerId : WorkerId) (info : WorkerInfo) : Namespace :=
  let r := (ns.router.createPort PortKind.worker workerId).setSignal Signal.workerInfo workerId info
  let deferred := ns.deferredGrants.filter (fun g => g.2 = workerId)
  deferred.foldl (fun ns g => ns.applyGrant workerId g.1)
    { ns with
      router := r
      pendingWorkers := Function.update ns.pendingWorkers workerId (some info)
      deferredGrants := ns.deferredGrants.filter (fun g => g.2 ≠ workerId) }

def dropWorkerQueues (ns : Namespace) (workerId : WorkerId) : Namespace :=
  { ns with
    deferredGrants := ns.deferredGrants.filter (fun g => g.2 ≠ workerId)
    bufferedWorkerCommands := Function.update ns.bufferedWorkerCommands workerId [] }

def workerDisconnected (ns : Namespace) (workerId : WorkerId) : Namespace :=
  let wasActive := (ns.activeWorkers workerId).isSome
  let wasPending := (ns.pendingWorkers workerId).isSome
  let ns := { ns with
    activeWorkers := Function.update ns.activeWorkers workerId none
    pendingWorkers := Function.update ns.pendingWorkers workerId none }.dropWorkerQueues workerId
  if wasActive || wasPending then
    let ns := ns.forgetWorkerPods workerId
    let ns := if wasActive then
        let (d,r) := ns.endpointDemand.removeWorker ns.router workerId
        { ns with endpointDemand := d, router := r }
      else ns
    { ns with router := ns.router.destroyPort PortKind.worker workerId }
  else ns

/-- The port is destroyed whether or not the worker was still pending. -/
def namespaceFailed (ns : Namespace) (workerId : WorkerId) : Namespace :=
  let ns := { ns with
    pendingWorkers := Function.update ns.pendingWorkers workerId none }.dropWorkerQueues workerId
  let ns := ns.forgetWorkerPods workerId
  { ns with router := ns.router.destroyPort PortKind.worker workerId }

def schedulerDecision (ns : Namespace) : SchedulerDecision → Namespace
  | .grant podId workerId =>
    if (ns.activeWorkers workerId).isSome || (ns.pendingWorkers workerId).isSome then
      ns.applyGrant workerId podId
    else { ns with deferredGrants := ns.deferredGrants ++ [(podId,workerId)] }
  | .revoke podId _ =>
    let ns := match ns.leases podId with
      | some leaseId =>
        { ns with
          leases := Function.update ns.leases podId none
          router := ns.router.destroyPort PortKind.scheduleLease leaseId }
      | none => ns
    ns.removePodFromWorker podId

def wgConnect (ns : Namespace) (clientPublicKey : Nat) (workerId : WorkerId) : Namespace :=
  match ns.wgPeerMgr.connect clientPublicKey with
  | (.ok _ outputs,mgr) =>
    outputs.foldl (fun ns output =>
      match output with
      | .addPeer peerPublicKey peerIp =>
        let (portId,r) := ns.router.createPortAuto PortKind.wireGuardPeer
        let r := r.setSignal Signal.wireGuardPeerEndpointInfo portId
          (some ⟨peerIp,workerId,peerPublicKey⟩)
        { ns with
          wgPeerPorts := Function.update ns.wgPeerPorts peerPublicKey (some portId)
          router := r.setEdges Edge.wireGuardPeerEndpoints portId [singleton] }
      | .removePeer _ => ns) { ns with wgPeerMgr := mgr }
  | (.error _,mgr) => { ns with wgPeerMgr := mgr }

def wgDisconnect (ns : Namespace) (clientPublicKey : Nat) : Namespace :=
  let (outputs,mgr) := ns.wgPeerMgr.disconnect clientPublicKey
  outputs.foldl (fun ns output =>
    match output with
    | .removePeer peerPublicKey =>
      match ns.wgPeerPorts peerPublicKey with
      | some portId =>
        { ns with
          wgPeerPorts := Function.update ns.wgPeerPorts peerPublicKey none
          router := ns.router.destroyPort PortKind.wireGuardPeer portId }
      | none => ns
    | .addPeer _ _ => ns) { ns with wgPeerMgr := mgr }

def clientCommand (ns : Namespace) : ClientCommand → Namespace
  | .adminRestart name =>
    { ns with router := ns.management.sendAdminCommand ns.router name .restart }
  | .scavenge name =>
    { ns with router := ns.management.sendAdminCommand ns.router name .scavenge }
  | .activateService name active =>
    { ns with router := ns.management.sendActivateService ns.router name active }
  | .connect clientPublicKey workerId => ns.wgConnect clientPublicKey workerId
  | .disconnect clientPublicKey => ns.wgDisconnect clientPublicKey

end Namespace

end Distvirt
