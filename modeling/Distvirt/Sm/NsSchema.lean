import Distvirt.Sm.Deltas
import Distvirt.SmRouter.Topology

/-! The `router!` declaration of a namespace. Declarations are listed in source order. -/

namespace Distvirt.Ns

inductive SmKind where
  | service | workload | pod | endpoint
deriving DecidableEq, Repr

inductive PortKind where
  | worker | endpointDemand | management | timer | scheduleRequest | scheduleLease
  | fabricEndpoint | dnsRegistry | artifact | wireGuardPeer | observability
deriving DecidableEq, Repr

inductive Signal where
  | serviceEndpointConfig
  | endpointDemand | endpointWantedTimers | endpointStatus | endpointCurrentBackendNeed
  | endpointIdleTimerActive | endpointEndpointInfo | endpointDnsEntry
  | wireGuardPeerEndpointInfo
  | workloadReadiness | workloadPlacement | workloadDnsEntry | workloadPodIntent
  | workloadPodLaunchSpec | workloadWantedTimers | workloadStatus | workloadConsecutiveFailures
  | workloadSpecStale | workloadArtifactRef | workloadEndpointConfig
  | podStatus | podAssignedWorker | podWantedTimers | podScheduleRequest
  | workerInfo | endpointDemandActive | managementWlSpec | managementSvcSpec
  | scheduleLeaseLease | artifactValid
deriving DecidableEq, Repr

inductive Edge where
  | serviceEndpointOwnership | workloadEndpointOwnership | endpointDemand | endpointReadiness
  | endpointPortDemand | endpointTimers | endpointFabricEndpoints | endpointDns | podOwnership
  | podReport | workerAssignment | workloadConfig | serviceConfig | workloadTimers | podTimers
  | podScheduleIntent | podLease | podPlacement | wireGuardPeerEndpoints | workloadDns
  | workloadArtifactRef | artifactValidity | podObservability | workloadObservability
  | endpointObservability
deriving DecidableEq, Repr

/-- The batch inputs, all of state machines. -/
inductive Batch where
  | demandInput | specInput | podStatusInput | podWorkerInput
  | svcSpecInput
  | configInput | readinessInput | placementInput | backendNeedInput
  | workerInput | ownerInput | launchSpecInput | leaseInput
  | artifactInput
deriving DecidableEq, Repr

/-- The incremental inputs, all of ports. -/
inductive Inc where
  | assignedPodsInput | podRequestsInput | workloadTimersInput | endpointTimersInput
  | podTimersInput | endpointsInput | endpointDnsInput | workloadDnsInput | refsInput
  | obsPodStatusInput | obsPodWorkerInput | obsWorkloadStatusInput | obsEndpointStatusInput
  | obsEndpointIdleTimerInput
deriving DecidableEq, Repr

inductive Event where
  | adminCommand | activateService | activateEndpoint | notifyPodStatus | notifyPodSuspended
  | workloadTimerFired | endpointTimerFired | podTimerFired | endpointDemandTraffic
deriving DecidableEq, Repr

abbrev State : SmKind → Type
  | .service => ServiceSm
  | .workload => WorkloadSm
  | .pod => PodSm
  | .endpoint => EndpointSm

abbrev Val : Signal → Type
  | .serviceEndpointConfig => Option EndpointConfig
  | .endpointDemand => Bool
  | .endpointWantedTimers => List (TimerRequest EndpointTimerKey)
  | .endpointStatus => EndpointStatus
  | .endpointCurrentBackendNeed => BackendNeed
  | .endpointIdleTimerActive => Bool
  | .endpointEndpointInfo => Option EndpointInfo
  | .endpointDnsEntry => Option DnsEntryInfo
  | .wireGuardPeerEndpointInfo => Option WireGuardPeerEndpointInfo
  | .workloadReadiness => Option ReadyInfo
  | .workloadPlacement => Option WorkerId
  | .workloadDnsEntry => Option DnsEntryInfo
  | .workloadPodIntent => PodIntent
  | .workloadPodLaunchSpec => Option Sm.WorkloadSpec
  | .workloadWantedTimers => List (TimerRequest WorkloadTimerKey)
  | .workloadStatus => WlStatus
  | .workloadConsecutiveFailures => Nat
  | .workloadSpecStale => Bool
  | .workloadArtifactRef => Bool
  | .workloadEndpointConfig => Option EndpointConfig
  | .podStatus => PodStatus
  | .podAssignedWorker => Option WorkerId
  | .podWantedTimers => List (TimerRequest PodTimerKey)
  | .podScheduleRequest => PodScheduleRequest
  | .workerInfo => WorkerInfo
  | .endpointDemandActive => Bool
  | .managementWlSpec => Sm.WorkloadSpec
  | .managementSvcSpec => Sm.ServiceSpec
  | .scheduleLeaseLease => LeaseInfo
  | .artifactValid => Bool

/-- The `Default` value of each signal. -/
def initial : (s : Signal) → Val s
  | .serviceEndpointConfig => none
  | .endpointDemand => false
  | .endpointWantedTimers => []
  | .endpointStatus => .idle
  | .endpointCurrentBackendNeed => .none
  | .endpointIdleTimerActive => false
  | .endpointEndpointInfo => none
  | .endpointDnsEntry => none
  | .wireGuardPeerEndpointInfo => none
  | .workloadReadiness => none
  | .workloadPlacement => none
  | .workloadDnsEntry => none
  | .workloadPodIntent => .none
  | .workloadPodLaunchSpec => none
  | .workloadWantedTimers => []
  | .workloadStatus => .dormant
  | .workloadConsecutiveFailures => (0 : Nat)
  | .workloadSpecStale => false
  | .workloadArtifactRef => false
  | .workloadEndpointConfig => none
  | .podStatus => .pending
  | .podAssignedWorker => none
  | .podWantedTimers => []
  | .podScheduleRequest => .default
  | .workerInfo => ⟨0,none⟩
  | .endpointDemandActive => false
  | .managementWlSpec => .default
  | .managementSvcSpec => .default
  | .scheduleLeaseLease => ⟨0⟩
  | .artifactValid => false

instance : (s : Signal) → DecidableEq (Val s)
  | .serviceEndpointConfig | .endpointDemand | .endpointWantedTimers | .endpointStatus
  | .endpointCurrentBackendNeed | .endpointIdleTimerActive | .endpointEndpointInfo
  | .endpointDnsEntry | .wireGuardPeerEndpointInfo | .workloadReadiness | .workloadPlacement
  | .workloadDnsEntry | .workloadPodIntent | .workloadPodLaunchSpec | .workloadWantedTimers
  | .workloadStatus | .workloadConsecutiveFailures | .workloadSpecStale | .workloadArtifactRef
  | .workloadEndpointConfig | .podStatus | .podAssignedWorker | .podWantedTimers
  | .podScheduleRequest | .workerInfo | .endpointDemandActive | .managementWlSpec
  | .managementSvcSpec | .scheduleLeaseLease | .artifactValid => inferInstance

abbrev Out : Batch → Type
  | .demandInput => DemandInfo
  | .specInput => Option (ManagementId × Sm.WorkloadSpec)
  | .podStatusInput => List PodStatus
  | .podWorkerInput => List (Option WorkerId)
  | .svcSpecInput => Option (ManagementId × Sm.ServiceSpec)
  | .configInput => Option EndpointConfig
  | .readinessInput => List (Option ReadyInfo)
  | .placementInput => List (Option WorkerId)
  | .backendNeedInput => Bool
  | .workerInput => Option (WorkerId × WorkerInfo)
  | .ownerInput => Option (WorkloadId × PodIntent)
  | .launchSpecInput => Option Sm.WorkloadSpec
  | .leaseInput => Option LeaseInfo
  | .artifactInput => Option Bool

instance : (b : Batch) → DecidableEq (Out b)
  | .demandInput | .specInput | .podStatusInput | .podWorkerInput | .svcSpecInput | .configInput
  | .readinessInput | .placementInput | .backendNeedInput | .workerInput | .ownerInput
  | .launchSpecInput | .leaseInput | .artifactInput => inferInstance

abbrev Delta : Inc → Type
  | .assignedPodsInput => PodAssignmentDelta
  | .podRequestsInput => ScheduleRequestDelta
  | .workloadTimersInput | .endpointTimersInput | .podTimersInput => List TimerAction
  | .endpointsInput => List EndpointAction
  | .endpointDnsInput | .workloadDnsInput => List DnsRegistryAction
  | .refsInput => ArtifactRefDelta
  | .obsPodStatusInput | .obsPodWorkerInput | .obsWorkloadStatusInput | .obsEndpointStatusInput
  | .obsEndpointIdleTimerInput => ObservabilityEvent

instance : (i : Inc) → DecidableEq (Delta i)
  | .assignedPodsInput | .podRequestsInput | .workloadTimersInput | .endpointTimersInput
  | .podTimersInput | .endpointsInput | .endpointDnsInput | .workloadDnsInput | .refsInput
  | .obsPodStatusInput | .obsPodWorkerInput | .obsWorkloadStatusInput | .obsEndpointStatusInput
  | .obsEndpointIdleTimerInput => inferInstance

abbrev Payload : Event → Type
  | .adminCommand => AdminCmd
  | .activateService | .activateEndpoint => Bool
  | .notifyPodStatus => PodStatus
  | .notifyPodSuspended => ArtifactPortId
  | .workloadTimerFired => WorkloadTimerKey
  | .endpointTimerFired => EndpointTimerKey
  | .podTimerFired => PodTimerKey
  | .endpointDemandTraffic => Unit

end Distvirt.Ns
