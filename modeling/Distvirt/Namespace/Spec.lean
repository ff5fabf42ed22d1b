import Distvirt.Namespace.WgPeers
import Distvirt.Sm.Deltas

/-! What a namespace receives and sends: client specs before and after address allocation, the
messages of the orchestrator, and the effects a cycle produces. -/

namespace Distvirt
open Std (ExtTreeMap)

structure NamespaceId where
  name : String
  id : Nat
deriving DecidableEq, Repr

structure NetworkConfig where
  subnet : Nat
  gateway : Nat
  prefixLen : Nat
deriving DecidableEq, Repr

structure WorkloadSpecInput where
  explicitIp : Option Nat
  containers : List ContainerSpec
  suspendOnIdle : Bool
  resources : Option ResourceRequirements
  activation : Option ActivationSpec
  runPolicy : RunPolicy
  respectsDemand : Bool
  volumes : List VolumeSpec
deriving DecidableEq, Repr

structure ServiceSpecInput where
  workloadId : String
  explicitIp : Option Nat
  ports : List PortConfig
  hasActivation : Bool
  idleTimeout : Duration
  bufferFrames : Nat
  bufferTimeoutMs : Nat
deriving DecidableEq, Repr

structure NamespaceSpecInput where
  network : NetworkConfig
  workloads : ExtTreeMap String WorkloadSpecInput
  services : ExtTreeMap String ServiceSpecInput

structure NamespacePatchInput where
  workloads : ExtTreeMap String WorkloadSpecInput
  services : ExtTreeMap String ServiceSpecInput
  removeWorkloads : List String
  removeServices : List String

structure WorkloadSpec where
  containers : List ContainerSpec
  network : PodNetworkConfig
  suspendOnIdle : Bool
  resources : Option ResourceRequirements
  activation : Option ActivationSpec
  runPolicy : RunPolicy
  respectsDemand : Bool
  volumes : List VolumeSpec
deriving DecidableEq, Repr

structure ServiceSpec where
  workloadId : String
  ip : Nat
  ports : List PortConfig
  hasActivation : Bool
  idleTimeout : Duration
  bufferFrames : Nat
  bufferTimeoutMs : Nat
deriving DecidableEq, Repr

structure NamespaceSpec where
  network : NetworkConfig
  workloads : ExtTreeMap String WorkloadSpec
  services : ExtTreeMap String ServiceSpec

inductive ClientError where
  | namespaceNotFound
  | namespaceAlreadyExists
  | ipAllocation (error : IpAllocError)
deriving DecidableEq, Repr

inductive EndpointDemandSignal where
  | traffic
  | active (active : Bool)
deriving DecidableEq, Repr

/-- The artifact id of a suspend report is a text: `none` if it is not a number. -/
inductive WorkerNamespaceEventKind where
  | podRunning (podId : PodId)
  | podExited (podId : PodId) (exitCode : Int)
  | podFailed (podId : PodId) (error : String)
  | podSuspended (podId : PodId) (artifactId : Option ArtifactPortId)
  | podSuspendFailed (podId : PodId)
  | endpointDemand (ip : Nat) (signal : EndpointDemandSignal)
  | podMemoryConstrained (podId : PodId) (reason : String)
  | podMemoryConstraintCleared (podId : PodId)
  | podOomKill (podId : PodId) (count : Nat)
  | namespaceCreated
  | namespaceFailed (error : String)
deriving DecidableEq, Repr

inductive SchedulerDecision where
  | grant (podId : PodId) (workerId : WorkerId)
  | revoke (podId : PodId) (workerId : WorkerId)
deriving DecidableEq, Repr

inductive ClientCommand where
  | adminRestart (workloadName : String)
  | scavenge (workloadName : String)
  | activateService (serviceName : String) (active : Bool)
  | connect (clientPublicKey : Nat) (workerId : WorkerId)
  | disconnect (clientPublicKey : Nat)
deriving DecidableEq, Repr

inductive OrchestratorToNamespace where
  | workerConnected (workerId : WorkerId) (info : WorkerInfo)
  | workerDisconnected (workerId : WorkerId)
  | workerEvent (workerId : WorkerId) (event : WorkerNamespaceEventKind)
  | schedulerDecision (decision : SchedulerDecision)
  | clientCommand (command : ClientCommand)
  | artifactInvalidated (artifactPortId : ArtifactPortId)
deriving DecidableEq, Repr

namespace Proto

structure EndpointPodBackend where
  podIp : Nat
  placement : Option WorkerId
  ready : Bool
deriving DecidableEq, Repr

inductive EndpointKind where
  | service (serviceId : ServiceId) (policy : ServicePolicy) (backend : Option EndpointPodBackend)
  | pod (placement : Option WorkerId)
  | wireGuardPeer (placement : Option WorkerId)
deriving DecidableEq, Repr

/-- An endpoint as the workers know it: they key their tables by `ip`. -/
structure EndpointSpec where
  ip : Nat
  kind : EndpointKind
deriving DecidableEq, Repr

end Proto

structure RegistryEntry where
  name : String
  ip : Nat
deriving DecidableEq, Repr

/-- The commands that a namespace sends. -/
inductive WorkerCommand where
  | registrySync (namespaceId : NamespaceId) (entries : List RegistryEntry)
  | registryUpdate (namespaceId : NamespaceId) (added : List RegistryEntry) (removed : List String)
  | launchPod (namespaceId : NamespaceId) (podId : PodId) (network : PodNetworkConfig)
      (containers : List ContainerSpec) (resources : Option ResourceRequirements)
      (volumes : List VolumeSpec)
  | stopPod (namespaceId : NamespaceId) (podId : PodId) (graceful : Bool)
  | addWireGuardPeer (namespaceId : NamespaceId) (peerPublicKey peerIp : Nat)
      (presharedKey : Option Nat)
  | removeWireGuardPeer (peerPublicKey : Nat)
  | suspendPod (namespaceId : NamespaceId) (podId : PodId) (artifactId : ArtifactPortId)
      (poolId : String)
  | resumePod (namespaceId : NamespaceId) (podId : PodId) (artifactId : ArtifactPortId)
      (network : PodNetworkConfig) (poolId : String)
  | endpointSync (namespaceId : NamespaceId) (endpoints : List Proto.EndpointSpec)
  | endpointUpdate (namespaceId : NamespaceId) (upserted : List Proto.EndpointSpec)
      (removedIps : List Nat)
deriving DecidableEq, Repr

inductive SchedulerMessage where
  | requestLease (namespaceId : NamespaceId) (podId : PodId)
      (resumeArtifact : Option ArtifactPortId)
  | dropRequest (namespaceId : NamespaceId) (podId : PodId)
  | artifactReferenced (namespaceId : NamespaceId) (artifactId : ArtifactPortId)
  | artifactReleased (namespaceId : NamespaceId) (artifactId : ArtifactPortId)
deriving DecidableEq, Repr

structure NamespaceEffects where
  timerActions : List TimerAction := []
  schedulerMessages : List SchedulerMessage := []
  workerCommands : List (WorkerId × WorkerCommand) := []
  broadcastCommands : List WorkerCommand := []
  observabilityEvents : List ObservabilityEvent := []
deriving DecidableEq, Repr

/-- The ways in which the code gives up: a panic inside the router, a worker's artifact id that
is not a number, one of the expectations of command building, a prefix length above 32 in a
netmask, or (of the model only) a reconcile loop that is still running when the given fuel is
used up. -/
inductive Fault where
  | router
  | artifactId
  | suspendPool
  | resumePool
  | backendIp
  | netmask
  | outOfFuel
deriving DecidableEq, Repr

def ipToMac (ip : Nat) : List Nat :=
  [0x02,0x00,ip / 2 ^ 24 % 256,ip / 2 ^ 16 % 256,ip / 2 ^ 8 % 256,ip % 256]

def ipToString (ip : Nat) : String :=
  s!"{ip / 2 ^ 24 % 256}.{ip / 2 ^ 16 % 256}.{ip / 2 ^ 8 % 256}.{ip % 256}"

/-- `32 - prefix_len` is a difference of bytes. -/
def prefixLenToNetmask (prefixLen : Nat) : Except Fault String :=
  if prefixLen ≤ 32 then
    .ok (ipToString (if prefixLen = 0 then 0 else 2 ^ 32 - 2 ^ (32 - prefixLen)))
  else .error .netmask

def defaultPodNetwork : PodNetworkConfig := ⟨0,[0,0,0,0,0,0],0,""⟩

/-- The gateway and the netmask of a pod are those of its namespace. -/
def fillNetwork (currentSpec : Option NamespaceSpec) (network : PodNetworkConfig) :
    Except Fault PodNetworkConfig :=
  match currentSpec with
  | some spec => (prefixLenToNetmask spec.network.prefixLen).map (fun netmask =>
    { network with gateway := spec.network.gateway, netmask })
  | none => .ok network

end Distvirt
