import Mathlib.Data.String.Basic

/-! The data the state machines of a namespace exchange. Ids are `u64` counters, durations are
counted in milliseconds and IPv4 addresses are their 32-bit values. -/

namespace Distvirt

abbrev PodId := Nat
abbrev WorkloadId := Nat
abbrev ServiceId := Nat
abbrev EndpointId := Nat
abbrev WorkerId := Nat
abbrev ManagementId := Nat
abbrev ScheduleLeaseId := Nat
abbrev EndpointDemandId := Nat
abbrev ArtifactPortId := Nat
abbrev Duration := Nat

/-- The singleton ports all have id 0. -/
def singleton : Nat := 0

/-- Readiness broadcast from a workload to its endpoints. -/
structure ReadyInfo where
  podId : PodId
  workerId : WorkerId
  podIp : Nat
deriving DecidableEq, Repr

inductive PodStatus where
  | pending
  | running
  | suspending
  | suspended (artifactId : ArtifactPortId)
  | finished (exitCode : Int)
  | failed (exitCode : Option Int) (reason : String)
  /-- Lost its worker or its lease. -/
  | displaced
deriving DecidableEq, Repr

def PodStatus.isTerminal : PodStatus → Bool
  | .pending | .running | .suspending => false
  | _ => true

inductive PodIntent where
  | none
  | want
  | suspend
deriving DecidableEq, Repr

structure DnsEntryInfo where
  name : String
  ip : Nat
deriving DecidableEq, Repr

structure PodNetworkConfig where
  ip : Nat
  mac : List Nat
  gateway : Nat
  netmask : String
deriving DecidableEq, Repr

/-- The container configuration is only compared and passed on. -/
structure ContainerSpec where
  containerId : String
  imageRef : String
  config : String
deriving DecidableEq, Repr

structure ResourceValues where
  memoryMib : Nat
  vcpus : Nat
deriving DecidableEq, Repr

structure ResourceRequirements where
  requests : Option ResourceValues
  limits : Option ResourceValues
deriving DecidableEq, Repr

structure VolumeSpec where
  name : String
  volumeType : String
deriving DecidableEq, Repr

inductive RunPolicy where
  | service
  | job
deriving DecidableEq, Repr

structure ActivationSpec where
  idleTimeout : Duration
deriving DecidableEq, Repr

/-- The part of a workload's spec whose change needs a new pod. -/
structure PodSpec where
  image : String
  network : Option PodNetworkConfig
  containers : List ContainerSpec
  resources : Option ResourceRequirements
  volumes : List VolumeSpec
deriving DecidableEq, Repr

structure WorkloadConfig where
  suspendOnIdle : Bool
  runPolicy : RunPolicy
  respectsDemand : Bool
  activation : Option ActivationSpec
deriving DecidableEq, Repr

namespace Sm

/-- The workload spec the management port signals. -/
structure WorkloadSpec where
  podSpec : PodSpec
  config : WorkloadConfig
deriving DecidableEq, Repr

def WorkloadSpec.default : WorkloadSpec :=
  ⟨⟨"",none,[],none,[]⟩,⟨false,.service,false,none⟩⟩

end Sm

inductive ActivatorKind where
  | tcp (maxFlows : Nat)
  | http2
deriving DecidableEq, Repr

structure PortConfig where
  port : Nat
  targetPort : Nat
  activator : Option ActivatorKind
deriving DecidableEq, Repr

structure ServicePolicy where
  ports : List PortConfig
  bufferFrames : Nat
  timeoutMs : Nat
deriving DecidableEq, Repr

namespace Sm

structure ServiceSpec where
  workload : WorkloadId
  hasActivation : Bool
  idleTimeout : Duration
  dnsName : Option String
  dnsIp : Option Nat
  ip : Nat
  policy : ServicePolicy
deriving DecidableEq, Repr

def ServiceSpec.default : ServiceSpec := ⟨0,false,0,none,none,0,⟨[],0,0⟩⟩

end Sm

inductive EndpointKind where
  | service (serviceId : ServiceId) (policy : ServicePolicy)
  | workload
deriving DecidableEq, Repr

structure EndpointConfig where
  kind : EndpointKind
  workload : WorkloadId
  hasActivation : Bool
  idleTimeout : Duration
  ip : Nat
  dnsEntry : Option DnsEntryInfo
deriving DecidableEq, Repr

/-- `ip` is only given for service endpoints: it is the address traffic is forwarded to. -/
structure EndpointBackendInfo where
  ip : Option Nat
  workerId : WorkerId
deriving DecidableEq, Repr

structure EndpointInfo where
  kind : EndpointKind
  ip : Nat
  backend : Option EndpointBackendInfo
deriving DecidableEq, Repr

structure WireGuardPeerEndpointInfo where
  peerIp : Nat
  workerId : WorkerId
  peerPublicKey : Nat
deriving DecidableEq, Repr

/-- What a pod tells the schedule-request port and the worker it is placed on. -/
structure PodScheduleRequest where
  resumeArtifact : Option ArtifactPortId
  suspend : Bool
  spec : Option Sm.WorkloadSpec
deriving DecidableEq, Repr

def PodScheduleRequest.default : PodScheduleRequest := ⟨none,false,none⟩

structure LeaseInfo where
  workerId : WorkerId
deriving DecidableEq, Repr

structure WorkerInfo where
  capacity : Nat
  defaultPool : Option String
deriving DecidableEq, Repr

inductive AdminCmd where
  | restart
  | scavenge
deriving DecidableEq, Repr

inductive WlStatus where
  | dormant
  | waitingForSpec
  | launching
  | running
  | suspending
  | suspended
  | retryBackoff
  | failed (exitCode : Option Int) (reason : String)
  | completed (exitCode : Int)
deriving DecidableEq, Repr

inductive BackendNeed where
  | none
  | traffic
  | active
deriving DecidableEq, Repr

inductive EndpointStatus where
  | idle
  | needBackend
  | active
deriving DecidableEq, Repr

inductive WorkloadTimerKey where
  | retryBackoff
  | artifactConfirm
deriving DecidableEq, Repr

inductive PodTimerKey where
  | launchTimeout
  | suspendTimeout
deriving DecidableEq, Repr

inductive EndpointTimerKey where
  | idleTimeout
deriving DecidableEq, Repr

/-- A timer that a machine wants to run. A new generation restarts it. -/
structure TimerRequest (Key : Type) where
  key : Key
  generation : Nat
  duration : Duration
deriving DecidableEq, Repr

structure DemandInfo where
  demandCount : Nat
  endpointIds : List EndpointId
deriving DecidableEq, Repr

end Distvirt
