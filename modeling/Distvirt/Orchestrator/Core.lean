import Distvirt.Orchestrator.WorkerState

/-! The orchestrator: the scheduler and the worker state, the namespaces by name and id, and the
routing of effects between them. A call that does not end has no result. -/

namespace Distvirt

structure ConnectedWorkerInfo where
  protoWorkerId : WorkerId
  maxPods : Nat
  defaultPool : Option String
deriving DecidableEq, Repr

/-- The network of a namespace with its segment. -/
structure SegmentedNetwork where
  network : NetworkConfig
  segmentId : Nat
deriving DecidableEq, Repr

structure OrchestratorCore where
  scheduler : SchedulerCore
  workerState : WorkerStateCore
  connectedWorkers : Table WorkerId ConnectedWorkerInfo
  namespaceIds : Table NamespaceId Unit
  namespaceNames : Table String NamespaceId
  nextNamespaceId : Nat
  nextSegmentId : Nat
  activeSegmentIds : Finset Nat
  namespaceSegments : Table NamespaceId Nat
  namespaceNetworks : Table NamespaceId SegmentedNetwork
deriving DecidableEq

structure CreateNamespaceCommand where
  workerId : WorkerId
  namespaceId : NamespaceId
  network : SegmentedNetwork
deriving DecidableEq, Repr

/-- `schedulerCalls` is not part of the code: it keeps the states in which the scheduler was
called on the way, for what is said about them. -/
structure OrchestratorOutput where
  toNamespaces : List (NamespaceId × OrchestratorToNamespace) := []
  workerCommands : List DeleteArtifactCommand := []
  directWorkerCommands : List CreateNamespaceCommand := []
  globalBroadcasts : List WorkerRegistry := []
  schedulerCalls : List (SchedulerCore × SchedulerCoreInput) := []
deriving DecidableEq

structure WorkerConnectedInfo where
  workerId : WorkerId
  capabilities : WorkerCapabilities
  tunnelInfo : Option WorkerTunnelInfo
  protoWorkerId : WorkerId
deriving DecidableEq, Repr

structure ConnectedWorkerSummary where
  workerId : WorkerId
  protoWorkerId : WorkerId
  maxPods : Nat
  defaultPool : Option String
deriving DecidableEq, Repr

structure NamespaceCreationInfo where
  namespaceId : NamespaceId
  network : SegmentedNetwork
  connectedWorkers : List ConnectedWorkerSummary
deriving DecidableEq, Repr

inductive OrchestratorInput where
  | workerStateEvent (event : WorkerStateCoreEvent)
  | schedulerEvent (input : SchedulerCoreInput)
  | fromNamespace (namespaceId : NamespaceId) (message : SchedulerMessage)
deriving DecidableEq

/-- The port ids of a namespace become texts on the way to the scheduler. -/
def schedulerMessageToInput : SchedulerMessage → SchedulerCoreInput
  | .requestLease namespaceId podId resumeArtifact =>
    .requestLease (namespaceId,podId) (resumeArtifact.map toString)
  | .dropRequest namespaceId podId => .dropRequest (namespaceId,podId)
  | .artifactReferenced namespaceId artifactId => .artifactReferenced (toString artifactId) namespaceId
  | .artifactReleased namespaceId artifactId => .artifactReleased (toString artifactId) namespaceId

namespace Decision

def key : Decision → PodKey
  | .grant key _ | .revoke key _ => key

def workerId : Decision → WorkerId
  | .grant _ workerId | .revoke _ workerId => workerId

def delta : Decision → Int
  | .grant _ _ => 1
  | .revoke _ _ => -1

/-- What the namespace of the pod is told. -/
def message : Decision → OrchestratorToNamespace
  | .grant key workerId => .schedulerDecision (.grant key.2 workerId)
  | .revoke key workerId => .schedulerDecision (.revoke key.2 workerId)

end Decision

namespace OrchestratorCore

def new : OrchestratorCore where
  scheduler := .new
  workerState := .new
  connectedWorkers := ∅
  namespaceIds := ∅
  namespaceNames := ∅
  nextNamespaceId := 1
  nextSegmentId := 1
  activeSegmentIds := ∅
  namespaceSegments := ∅
  namespaceNetworks := ∅

abbrev Routed := OrchestratorCore × OrchestratorOutput

section routing
variable (route : Routed → SchedulerEffects → Option Routed)

def callScheduler : Routed → SchedulerCoreInput → Option Routed
  | (core,output),input =>
    let (scheduler,effects) := core.scheduler.process input
    route ({ core with scheduler },
      { output with schedulerCalls := output.schedulerCalls ++ [(core.scheduler,input)] }) effects

def routeWorkerStateEffects (routed : Routed) (effects : WorkerStateEffects) : Option Routed := do
  let (core,output) ← effects.schedulerUpdates.foldlM (callScheduler route) routed
  return (core,{ output with
    globalBroadcasts := output.globalBroadcasts ++ effects.workerRegistryBroadcast.toList })

def callWorkerState : Routed → WorkerStateCoreEvent → Option Routed
  | (core,output),event =>
    let (workerState,effects) := core.workerState.process event
    routeWorkerStateEffects route ({ core with workerState },output) effects

/-- The pod count of the worker changes, with everything that follows from it, before the
namespace is told. -/
def routeDecision (routed : Routed) (decision : Decision) : Option Routed := do
  let (core,output) ←
    callWorkerState route routed (.podCountChange decision.workerId decision.delta)
  return (core,{ output with
    toNamespaces := output.toNamespaces ++ [(decision.key.1,decision.message)] })

end routing

/-- The recursion of `route_scheduler_effects` and `route_worker_state_effects`, to the given
depth. -/
def routeSchedulerEffects : Nat → Routed → SchedulerEffects → Option Routed
  | 0,_,_ => none
  | fuel + 1,routed,effects => do
    let (core,output) ← effects.decisions.foldlM (routeDecision (routeSchedulerEffects fuel)) routed
    return (core,{ output with
      toNamespaces := output.toNamespaces ++ effects.artifactInvalidations.flatMap (fun portId =>
        core.namespaceIds.keys.map (fun namespaceId =>
          (namespaceId,.artifactInvalidated portId)))
      workerCommands := output.workerCommands ++ effects.deleteCommands })

/-- Deep enough: each level but the last grants a request that was pending. -/
def depth (core : OrchestratorCore) : Nat := core.scheduler.pending.entries.length + 2

def toScheduler (routed : Routed) (input : SchedulerCoreInput) : Option Routed :=
  callScheduler (routeSchedulerEffects routed.1.depth) routed input

def toWorkerState (routed : Routed) (event : WorkerStateCoreEvent) : Option Routed :=
  callWorkerState (routeSchedulerEffects routed.1.depth) routed event

def process (core : OrchestratorCore) : OrchestratorInput → Option Routed
  | .workerStateEvent event => toWorkerState (core,{}) event
  | .schedulerEvent input => toScheduler (core,{}) input
  | .fromNamespace _ message => toScheduler (core,{}) (schedulerMessageToInput message)

/-- A namespace learns of the worker, and the worker of the namespace. -/
def introduceWorker (info : WorkerConnectedInfo) (routed : Routed) (namespaceId : NamespaceId) :
    Option Routed :=
  let (core,output) := routed
  let created := (core.namespaceNetworks.lookup namespaceId).map (fun network =>
    (⟨info.workerId,namespaceId,network⟩ : CreateNamespaceCommand))
  let message := OrchestratorToNamespace.workerConnected info.workerId
    ⟨info.capabilities.maxPods,info.capabilities.pools.head?⟩
  toWorkerState (core,{ output with
    directWorkerCommands := output.directWorkerCommands ++ created.toList
    toNamespaces := output.toNamespaces ++ [(namespaceId,message)] })
    (.namespaceAssigned info.workerId namespaceId)

def workerConnected (core : OrchestratorCore) (info : WorkerConnectedInfo) : Option Routed := do
  let connected : ConnectedWorkerInfo :=
    ⟨info.protoWorkerId,info.capabilities.maxPods,info.capabilities.pools.head?⟩
  let core := { core with
    connectedWorkers := core.connectedWorkers.insert info.workerId connected }
  let routed ← toWorkerState (core,{})
    (.connected info.workerId info.capabilities info.tunnelInfo info.protoWorkerId)
  routed.1.namespaceIds.keys.foldlM (introduceWorker info) routed

def dismissWorker (workerId : WorkerId) (routed : Routed) (namespaceId : NamespaceId) :
    Option Routed :=
  let (core,output) := routed
  toWorkerState (core,{ output with
    toNamespaces := output.toNamespaces ++ [(namespaceId,.workerDisconnected workerId)] })
    (.namespaceUnassigned workerId namespaceId)

def workerDisconnected (core : OrchestratorCore) (workerId : WorkerId) : Option Routed := do
  let core := { core with connectedWorkers := core.connectedWorkers.erase workerId }
  let routed ← toWorkerState (core,{}) (.disconnected workerId)
  routed.1.namespaceIds.keys.foldlM (dismissWorker workerId) routed

/-- The number of values of a `u16`. -/
def segmentIdCount : Nat := 2 ^ 16

/-- The counter is a `u16` that wraps around; 0 and the ids in use are skipped. -/
def allocSegmentId : Nat → OrchestratorCore → Option (Nat × OrchestratorCore)
  | 0,_ => none
  | tries + 1,core =>
    let id := core.nextSegmentId
    let core := { core with nextSegmentId := (id + 1) % segmentIdCount }
    if id = 0 ∨ id ∈ core.activeSegmentIds then allocSegmentId tries core
    else some (id,{ core with activeSegmentIds := insert id core.activeSegmentIds })

def summaries (core : OrchestratorCore) : List ConnectedWorkerSummary :=
  core.connectedWorkers.toList.map (fun (workerId,info) =>
    ⟨workerId,info.protoWorkerId,info.maxPods,info.defaultPool⟩)

def assignNamespace (namespaceId : NamespaceId) (network : SegmentedNetwork) (routed : Routed)
    (summary : ConnectedWorkerSummary) : Option Routed :=
  let (core,output) := routed
  toWorkerState (core,{ output with
    directWorkerCommands :=
      output.directWorkerCommands ++ [⟨summary.workerId,namespaceId,network⟩] })
    (.namespaceAssigned summary.workerId namespaceId)

def trackNamespace (core : OrchestratorCore) (namespaceId : NamespaceId)
    (network : SegmentedNetwork) : OrchestratorCore :=
  { core with
    namespaceSegments := core.namespaceSegments.insert namespaceId network.segmentId
    namespaceNetworks := core.namespaceNetworks.insert namespaceId network
    namespaceIds := core.namespaceIds.insert namespaceId ()
    namespaceNames := core.namespaceNames.insert namespaceId.name namespaceId }

/-- The segment is free again. -/
def untrackNamespace (core : OrchestratorCore) (namespaceId : NamespaceId) : OrchestratorCore :=
  { core with
    namespaceIds := core.namespaceIds.erase namespaceId
    namespaceNames := core.namespaceNames.erase namespaceId.name
    activeSegmentIds := match core.namespaceSegments.lookup namespaceId with
      | some segmentId => core.activeSegmentIds.erase segmentId
      | none => core.activeSegmentIds
    namespaceSegments := core.namespaceSegments.erase namespaceId
    namespaceNetworks := core.namespaceNetworks.erase namespaceId }

/-- After 65536 tries every id has been tried, and the search goes on for ever. -/
def createNamespace (core : OrchestratorCore) (name : String) (network : NetworkConfig) :
    Option (Except ClientError NamespaceCreationInfo × Routed) :=
  if name ∈ core.namespaceNames then some (.error .namespaceAlreadyExists,core,{})
  else do
    let namespaceId : NamespaceId := ⟨name,core.nextNamespaceId⟩
    let core := { core with nextNamespaceId := core.nextNamespaceId + 1 }
    let (segmentId,core) ← core.allocSegmentId segmentIdCount
    let network : SegmentedNetwork := ⟨network,segmentId⟩
    let routed ← toWorkerState (core.trackNamespace namespaceId network,{})
      (.registerNamespaceSegment namespaceId segmentId)
    let connectedWorkers := routed.1.summaries
    let routed ← connectedWorkers.foldlM (assignNamespace namespaceId network) routed
    return (.ok ⟨namespaceId,network,connectedWorkers⟩,routed)

/-- The workers are told to leave the segment while the namespace is still registered. -/
def destroyNamespace (core : OrchestratorCore) (namespaceId : NamespaceId) :
    Option (Except ClientError Unit × Routed) :=
  if namespaceId ∉ core.namespaceIds then some (.error .namespaceNotFound,core,{})
  else do
    let routed ← core.connectedWorkers.keys.foldlM (fun routed workerId =>
      toWorkerState routed (.namespaceUnassigned workerId namespaceId))
      (core.untrackNamespace namespaceId,{})
    let routed ← toWorkerState routed (.unregisterNamespaceSegment namespaceId)
    return (.ok (),routed)

/-- The public entry points. -/
inductive Call where
  | process (input : OrchestratorInput)
  | workerConnected (info : WorkerConnectedInfo)
  | workerDisconnected (workerId : WorkerId)
  | createNamespace (name : String) (network : NetworkConfig)
  | destroyNamespace (namespaceId : NamespaceId)
deriving DecidableEq

def call (core : OrchestratorCore) : Call → Option Routed
  | .process input => core.process input
  | .workerConnected info => core.workerConnected info
  | .workerDisconnected workerId => core.workerDisconnected workerId
  | .createNamespace name network => (core.createNamespace name network).map Prod.snd
  | .destroyNamespace namespaceId => (core.destroyNamespace namespaceId).map Prod.snd

def run (core : OrchestratorCore) : List Call → Option (OrchestratorCore × List OrchestratorOutput)
  | [] => some (core,[])
  | c :: calls => do
    let (core,output) ← core.call c
    let (core,outputs) ← core.run calls
    return (core,output :: outputs)

end OrchestratorCore

end Distvirt
