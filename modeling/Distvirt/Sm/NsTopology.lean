import Distvirt.Sm.NsSchema
import Distvirt.SmRouter.Router

/-! The namespace topology: how the declared nodes are connected, the aggregators of the inputs
and the handlers of the machines. -/

namespace Distvirt.Ns
open SmRouter

def node : Signal → SmKind ⊕ PortKind
  | .serviceEndpointConfig => .inl .service
  | .endpointDemand | .endpointWantedTimers | .endpointStatus | .endpointCurrentBackendNeed
  | .endpointIdleTimerActive | .endpointEndpointInfo | .endpointDnsEntry => .inl .endpoint
  | .wireGuardPeerEndpointInfo => .inr .wireGuardPeer
  | .workloadReadiness | .workloadPlacement | .workloadDnsEntry | .workloadPodIntent
  | .workloadPodLaunchSpec | .workloadWantedTimers | .workloadStatus
  | .workloadConsecutiveFailures | .workloadSpecStale | .workloadArtifactRef
  | .workloadEndpointConfig => .inl .workload
  | .podStatus | .podAssignedWorker | .podWantedTimers | .podScheduleRequest => .inl .pod
  | .workerInfo => .inr .worker
  | .endpointDemandActive => .inr .endpointDemand
  | .managementWlSpec | .managementSvcSpec => .inr .management
  | .scheduleLeaseLease => .inr .scheduleLease
  | .artifactValid => .inr .artifact

def ends : Edge → (SmKind ⊕ PortKind) × (SmKind ⊕ PortKind)
  | .serviceEndpointOwnership => (.inl .service,.inl .endpoint)
  | .workloadEndpointOwnership => (.inl .workload,.inl .endpoint)
  | .endpointDemand => (.inl .endpoint,.inl .workload)
  | .endpointReadiness => (.inl .workload,.inl .endpoint)
  | .endpointPortDemand => (.inr .endpointDemand,.inl .endpoint)
  | .endpointTimers => (.inl .endpoint,.inr .timer)
  | .endpointFabricEndpoints => (.inl .endpoint,.inr .fabricEndpoint)
  | .endpointDns => (.inl .endpoint,.inr .dnsRegistry)
  | .podOwnership => (.inl .workload,.inl .pod)
  | .podReport => (.inl .pod,.inl .workload)
  | .workerAssignment => (.inr .worker,.inl .pod)
  | .workloadConfig => (.inr .management,.inl .workload)
  | .serviceConfig => (.inr .management,.inl .service)
  | .workloadTimers => (.inl .workload,.inr .timer)
  | .podTimers => (.inl .pod,.inr .timer)
  | .podScheduleIntent => (.inl .pod,.inr .scheduleRequest)
  | .podLease => (.inr .scheduleLease,.inl .pod)
  | .podPlacement => (.inl .pod,.inr .worker)
  | .wireGuardPeerEndpoints => (.inr .wireGuardPeer,.inr .fabricEndpoint)
  | .workloadDns => (.inl .workload,.inr .dnsRegistry)
  | .workloadArtifactRef => (.inl .workload,.inr .artifact)
  | .artifactValidity => (.inr .artifact,.inl .workload)
  | .podObservability => (.inl .pod,.inr .observability)
  | .workloadObservability => (.inl .workload,.inr .observability)
  | .endpointObservability => (.inl .endpoint,.inr .observability)

def batchNode : Batch → SmKind
  | .demandInput | .specInput | .podStatusInput | .podWorkerInput | .artifactInput => .workload
  | .svcSpecInput => .service
  | .configInput | .readinessInput | .placementInput | .backendNeedInput => .endpoint
  | .workerInput | .ownerInput | .launchSpecInput | .leaseInput => .pod

def incNode : Inc → PortKind
  | .assignedPodsInput => .worker
  | .podRequestsInput => .scheduleRequest
  | .workloadTimersInput | .endpointTimersInput | .podTimersInput => .timer
  | .endpointsInput => .fabricEndpoint
  | .endpointDnsInput | .workloadDnsInput => .dnsRegistry
  | .refsInput => .artifact
  | .obsPodStatusInput | .obsPodWorkerInput | .obsWorkloadStatusInput | .obsEndpointStatusInput
  | .obsEndpointIdleTimerInput => .observability

def sources : Batch ⊕ Inc → List (Edge × Signal)
  | .inl .demandInput => [(.endpointDemand,.endpointDemand)]
  | .inl .specInput => [(.workloadConfig,.managementWlSpec)]
  | .inl .podStatusInput => [(.podReport,.podStatus)]
  | .inl .podWorkerInput => [(.podReport,.podAssignedWorker)]
  | .inl .svcSpecInput => [(.serviceConfig,.managementSvcSpec)]
  | .inl .configInput =>
    [(.serviceEndpointOwnership,.serviceEndpointConfig),
      (.workloadEndpointOwnership,.workloadEndpointConfig)]
  | .inl .readinessInput => [(.endpointReadiness,.workloadReadiness)]
  | .inl .placementInput => [(.endpointReadiness,.workloadPlacement)]
  | .inl .backendNeedInput => [(.endpointPortDemand,.endpointDemandActive)]
  | .inl .workerInput => [(.workerAssignment,.workerInfo)]
  | .inl .ownerInput => [(.podOwnership,.workloadPodIntent)]
  | .inl .launchSpecInput => [(.podOwnership,.workloadPodLaunchSpec)]
  | .inl .leaseInput => [(.podLease,.scheduleLeaseLease)]
  | .inl .artifactInput => [(.artifactValidity,.artifactValid)]
  | .inr .assignedPodsInput => [(.podPlacement,.podScheduleRequest)]
  | .inr .podRequestsInput => [(.podScheduleIntent,.podScheduleRequest)]
  | .inr .workloadTimersInput => [(.workloadTimers,.workloadWantedTimers)]
  | .inr .endpointTimersInput => [(.endpointTimers,.endpointWantedTimers)]
  | .inr .podTimersInput => [(.podTimers,.podWantedTimers)]
  | .inr .endpointsInput =>
    [(.endpointFabricEndpoints,.endpointEndpointInfo),
      (.wireGuardPeerEndpoints,.wireGuardPeerEndpointInfo)]
  | .inr .endpointDnsInput => [(.endpointDns,.endpointDnsEntry)]
  | .inr .workloadDnsInput => [(.workloadDns,.workloadDnsEntry)]
  | .inr .refsInput => [(.workloadArtifactRef,.workloadArtifactRef)]
  | .inr .obsPodStatusInput => [(.podObservability,.podStatus)]
  | .inr .obsPodWorkerInput => [(.podObservability,.podAssignedWorker)]
  | .inr .obsWorkloadStatusInput => [(.workloadObservability,.workloadStatus)]
  | .inr .obsEndpointStatusInput => [(.endpointObservability,.endpointStatus)]
  | .inr .obsEndpointIdleTimerInput => [(.endpointObservability,.endpointIdleTimerActive)]

def sender : Event → SmKind ⊕ PortKind
  | .adminCommand | .activateService => .inr .management
  | .activateEndpoint => .inl .service
  | .notifyPodStatus | .notifyPodSuspended => .inr .worker
  | .workloadTimerFired | .endpointTimerFired | .podTimerFired => .inr .timer
  | .endpointDemandTraffic => .inr .endpointDemand

def receiver : Event → SmKind
  | .adminCommand | .workloadTimerFired => .workload
  | .activateService => .service
  | .activateEndpoint | .endpointTimerFired | .endpointDemandTraffic => .endpoint
  | .notifyPodStatus | .notifyPodSuspended | .podTimerFired => .pod

def signals : List Signal :=
  [.serviceEndpointConfig,.endpointDemand,.endpointWantedTimers,.endpointStatus,
    .endpointCurrentBackendNeed,.endpointIdleTimerActive,.endpointEndpointInfo,
    .endpointDnsEntry,.wireGuardPeerEndpointInfo,.workloadReadiness,.workloadPlacement,
    .workloadDnsEntry,.workloadPodIntent,.workloadPodLaunchSpec,.workloadWantedTimers,
    .workloadStatus,.workloadConsecutiveFailures,.workloadSpecStale,.workloadArtifactRef,
    .workloadEndpointConfig,.podStatus,.podAssignedWorker,.podWantedTimers,
    .podScheduleRequest,.workerInfo,.endpointDemandActive,.managementWlSpec,
    .managementSvcSpec,.scheduleLeaseLease,.artifactValid]

def edges : List Edge :=
  [.serviceEndpointOwnership,.workloadEndpointOwnership,.endpointDemand,.endpointReadiness,
    .endpointPortDemand,.endpointTimers,.endpointFabricEndpoints,.endpointDns,.podOwnership,
    .podReport,.workerAssignment,.workloadConfig,.serviceConfig,.workloadTimers,.podTimers,
    .podScheduleIntent,.podLease,.podPlacement,.wireGuardPeerEndpoints,.workloadDns,
    .workloadArtifactRef,.artifactValidity,.podObservability,.workloadObservability,
    .endpointObservability]

def inputs : List (Batch ⊕ Inc) :=
  [.inl .demandInput,.inl .specInput,.inl .podStatusInput,.inl .podWorkerInput,
    .inl .svcSpecInput,.inl .configInput,.inl .readinessInput,.inl .placementInput,
    .inl .backendNeedInput,.inl .workerInput,.inl .ownerInput,.inl .launchSpecInput,
    .inl .leaseInput,.inr .assignedPodsInput,.inr .podRequestsInput,
    .inr .workloadTimersInput,.inr .endpointTimersInput,.inr .podTimersInput,
    .inr .endpointsInput,.inr .endpointDnsInput,.inr .workloadDnsInput,.inl .artifactInput,
    .inr .refsInput,.inr .obsPodStatusInput,.inr .obsPodWorkerInput,
    .inr .obsWorkloadStatusInput,.inr .obsEndpointStatusInput,
    .inr .obsEndpointIdleTimerInput]

abbrev schema : Schema where
  Sm := SmKind
  Port := PortKind
  Signal := Signal
  Edge := Edge
  Batch := Batch
  Inc := Inc
  Event := Event
  State := State
  Val := Val
  Out := Out
  Delta := Delta
  Payload := Payload
  initial := initial
  signals := signals
  edges := edges
  inputs := inputs
  node := node
  src e := (ends e).1
  tgt e := (ends e).2
  batchNode := batchNode
  incNode i := .inr (incNode i)
  whole _ := false
  sources := sources
  sender := sender
  receiver := receiver

def aggregate : (b : Batch) → schema.View → Out b
  | .demandInput,v =>
    let inputs : List (Nat × Bool) := v Edge.endpointDemand Signal.endpointDemand
    ⟨(inputs.filter (fun i => i.2)).length,inputs.map (fun i => i.1)⟩
  | .specInput,v => (v Edge.workloadConfig Signal.managementWlSpec).head?
  | .podStatusInput,v => (v Edge.podReport Signal.podStatus).map Prod.snd
  | .podWorkerInput,v => (v Edge.podReport Signal.podAssignedWorker).map Prod.snd
  | .svcSpecInput,v => (v Edge.serviceConfig Signal.managementSvcSpec).head?
  | .configInput,v =>
    let fromService : List (Nat × Option EndpointConfig) :=
      v Edge.serviceEndpointOwnership Signal.serviceEndpointConfig
    let fromWorkload : List (Nat × Option EndpointConfig) :=
      v Edge.workloadEndpointOwnership Signal.workloadEndpointConfig
    (fromService ++ fromWorkload).findSome? Prod.snd
  | .readinessInput,v => (v Edge.endpointReadiness Signal.workloadReadiness).map Prod.snd
  | .placementInput,v => (v Edge.endpointReadiness Signal.workloadPlacement).map Prod.snd
  | .backendNeedInput,v =>
    let inputs : List (Nat × Bool) := v Edge.endpointPortDemand Signal.endpointDemandActive
    inputs.any (fun i => i.2)
  | .workerInput,v => (v Edge.workerAssignment Signal.workerInfo).head?
  | .ownerInput,v => (v Edge.podOwnership Signal.workloadPodIntent).head?
  | .launchSpecInput,v =>
    let inputs : List (Nat × Option Sm.WorkloadSpec) :=
      v Edge.podOwnership Signal.workloadPodLaunchSpec
    inputs.head?.bind Prod.snd
  | .leaseInput,v => (v Edge.podLease Signal.scheduleLeaseLease).head?.map Prod.snd
  | .artifactInput,v => (v Edge.artifactValidity Signal.artifactValid).head?.map Prod.snd

def added : (i : Inc) → Edge → (s : Signal) → Nat → Val s → Option (Delta i)
  | .assignedPodsInput,_,.podScheduleRequest,id,v => PodAssignmentDelta.added id v
  | .podRequestsInput,_,.podScheduleRequest,id,v => some (.request id v)
  | .workloadTimersInput,_,.workloadWantedTimers,id,v => Timers.added (.workload id) v
  | .endpointTimersInput,_,.endpointWantedTimers,id,v => Timers.added (.endpoint id) v
  | .podTimersInput,_,.podWantedTimers,id,v => Timers.added (.pod id) v
  | .endpointsInput,_,.endpointEndpointInfo,id,v => EndpointAction.added (.update id) v
  | .endpointsInput,_,.wireGuardPeerEndpointInfo,id,v =>
    EndpointAction.added (.wireGuardPeerUpdate id) v
  | .endpointDnsInput,_,.endpointDnsEntry,_,v => DnsRegistryAction.added v
  | .workloadDnsInput,_,.workloadDnsEntry,_,v => DnsRegistryAction.added v
  | .refsInput,_,.workloadArtifactRef,id,_ => some (.referenced id)
  | .obsPodStatusInput,_,.podStatus,id,_ => some (.pod id .created)
  | _,_,_,_,_ => none

def removed : (i : Inc) → Edge → (s : Signal) → Nat → Val s → Option (Delta i)
  | .assignedPodsInput,_,.podScheduleRequest,id,v => PodAssignmentDelta.removed id v
  | .podRequestsInput,_,.podScheduleRequest,id,_ => some (.drop id)
  | .workloadTimersInput,_,.workloadWantedTimers,id,v => Timers.removed (.workload id) v
  | .endpointTimersInput,_,.endpointWantedTimers,id,v => Timers.removed (.endpoint id) v
  | .podTimersInput,_,.podWantedTimers,id,v => Timers.removed (.pod id) v
  | .endpointsInput,_,.endpointEndpointInfo,id,v => EndpointAction.removed (.remove id) v
  | .endpointsInput,_,.wireGuardPeerEndpointInfo,id,v =>
    EndpointAction.removed (.wireGuardPeerRemove id) v
  | .endpointDnsInput,_,.endpointDnsEntry,_,v => DnsRegistryAction.removed v
  | .workloadDnsInput,_,.workloadDnsEntry,_,v => DnsRegistryAction.removed v
  | .refsInput,_,.workloadArtifactRef,id,_ => some (.released id)
  | .obsPodStatusInput,_,.podStatus,id,v => some (.pod id (.reaped v))
  | _,_,_,_,_ => none

def changed : (i : Inc) → Edge → (s : Signal) → Nat → Val s → Val s → Option (Delta i)
  | .assignedPodsInput,_,.podScheduleRequest,id,old,new => PodAssignmentDelta.changed id old new
  | .workloadTimersInput,_,.workloadWantedTimers,id,old,new =>
    Timers.changed (.workload id) old new
  | .endpointTimersInput,_,.endpointWantedTimers,id,old,new =>
    Timers.changed (.endpoint id) old new
  | .podTimersInput,_,.podWantedTimers,id,old,new => Timers.changed (.pod id) old new
  | .endpointsInput,_,.endpointEndpointInfo,id,old,new =>
    EndpointAction.changed (.update id) (.remove id) old new
  | .endpointsInput,_,.wireGuardPeerEndpointInfo,id,old,new =>
    EndpointAction.changed (.wireGuardPeerUpdate id) (.wireGuardPeerRemove id) old new
  | .endpointDnsInput,_,.endpointDnsEntry,_,old,new => DnsRegistryAction.changed old new
  | .workloadDnsInput,_,.workloadDnsEntry,_,old,new => DnsRegistryAction.changed old new
  | .obsPodStatusInput,_,.podStatus,id,old,new => some (.pod id (.statusChanged old new))
  | .obsPodWorkerInput,_,.podAssignedWorker,id,old,new =>
    some (.pod id (.workerChanged old new))
  | .obsWorkloadStatusInput,_,.workloadStatus,id,old,new =>
    some (.workloadStatusChanged id old new)
  | .obsEndpointStatusInput,_,.endpointStatus,id,old,new =>
    some (.endpointStatusChanged id old new)
  | .obsEndpointIdleTimerInput,_,.endpointIdleTimerActive,id,_,new =>
    some (.endpointIdleTimerChanged id new)
  | _,_,_,_,_,_ => none

def workloadCreate : WorkloadCreate → schema.PendingCreate
  | .pod id pod => ⟨SmKind.pod,id,pod⟩
  | .endpoint id endpoint => ⟨SmKind.endpoint,id,endpoint⟩

def workloadReaction (alloc : schema.IdAlloc) (t : WorkloadTurn) :
    schema.Reaction SmKind.workload where
  state := t.toWorkloadSm
  effects :=
    { signal := fun
        | .workloadReadiness => t.setReadiness
        | .workloadPlacement => t.setPlacement
        | .workloadPodIntent => t.setPodIntent
        | .workloadPodLaunchSpec => t.setPodLaunchSpec
        | .workloadWantedTimers => t.setWantedTimers
        | .workloadStatus => t.setStatus
        | .workloadConsecutiveFailures => t.setConsecutiveFailures
        | .workloadSpecStale => t.setSpecStale
        | .workloadArtifactRef => t.setArtifactRef
        | .workloadEndpointConfig => t.setEndpointConfig
        | _ => none
      edge := fun
        | .workloadEndpointOwnership => t.setWorkloadEndpointOwnershipEdges
        | .endpointReadiness => t.setEndpointReadinessEdges
        | .podOwnership => t.setPodOwnershipEdges
        | .workloadTimers => t.setWorkloadTimersEdges
        | .workloadArtifactRef => t.setWorkloadArtifactRefEdges
        | .workloadObservability => t.setWorkloadObservabilityEdges
        | _ => none
      events := []
      creates := t.creates.map workloadCreate
      selfDestruct := t.selfDestruct }
  alloc := Function.update (Function.update alloc (.inl SmKind.pod) t.nextPod)
    (.inl SmKind.endpoint) t.nextEndpoint

def podReaction (alloc : schema.IdAlloc) (t : PodTurn) : schema.Reaction SmKind.pod where
  state := t.toPodSm
  effects :=
    { signal := fun
        | .podStatus => t.setStatus
        | .podAssignedWorker => t.setAssignedWorker
        | .podWantedTimers => t.setWantedTimers
        | .podScheduleRequest => t.setScheduleRequest
        | _ => none
      edge := fun
        | .podReport => t.setPodReportEdges
        | .podTimers => t.setPodTimersEdges
        | .podScheduleIntent => t.setPodScheduleIntentEdges
        | .podPlacement => t.setPodPlacementEdges
        | .podObservability => t.setPodObservabilityEdges
        | _ => none
      events := []
      creates := []
      selfDestruct := t.selfDestruct }
  alloc

def endpointReaction (alloc : schema.IdAlloc) (t : EndpointTurn) :
    schema.Reaction SmKind.endpoint where
  state := t.toEndpointSm
  effects :=
    { signal := fun
        | .endpointDemand => t.setDemand
        | .endpointWantedTimers => t.setWantedTimers
        | .endpointStatus => t.setStatus
        | .endpointCurrentBackendNeed => t.setCurrentBackendNeed
        | .endpointIdleTimerActive => t.setIdleTimerActive
        | .endpointEndpointInfo => t.setEndpointInfo
        | .endpointDnsEntry => t.setDnsEntry
        | _ => none
      edge := fun
        | .endpointDemand => t.setEndpointDemandEdges
        | .endpointTimers => t.setEndpointTimersEdges
        | .endpointFabricEndpoints => t.setEndpointFabricEndpointsEdges
        | .endpointDns => t.setEndpointDnsEdges
        | .endpointObservability => t.setEndpointObservabilityEdges
        | _ => none
      events := []
      creates := []
      selfDestruct := t.selfDestruct }
  alloc

def serviceReaction (alloc : schema.IdAlloc) (t : ServiceTurn) :
    schema.Reaction SmKind.service where
  state := t.toServiceSm
  effects :=
    { signal := fun
        | .serviceEndpointConfig => t.setEndpointConfig
        | _ => none
      edge := fun
        | .serviceEndpointOwnership => t.setServiceEndpointOwnershipEdges
        | _ => none
      events := t.activateEndpoint.map (fun (ep,active) => ⟨Event.activateEndpoint,t.id,ep,active⟩)
      creates := t.createEndpoint.map (fun (id,endpoint) => ⟨SmKind.endpoint,id,endpoint⟩)
      selfDestruct := t.selfDestruct }
  alloc := Function.update alloc (.inl SmKind.endpoint) t.nextEndpoint

def runWorkload (id : Nat) (alloc : schema.IdAlloc) (w : WorkloadSm)
    (f : WorkloadTurn → WorkloadTurn) : schema.Reaction SmKind.workload :=
  workloadReaction alloc (f (w.begin id (alloc (.inl SmKind.pod)) (alloc (.inl SmKind.endpoint))))

def runPod (alloc : schema.IdAlloc) (p : PodSm) (f : PodTurn → PodTurn) :
    schema.Reaction SmKind.pod :=
  podReaction alloc (f p.begin)

def runEndpoint (alloc : schema.IdAlloc) (e : EndpointSm) (f : EndpointTurn → EndpointTurn) :
    schema.Reaction SmKind.endpoint :=
  endpointReaction alloc (f e.begin)

def runService (id : Nat) (alloc : schema.IdAlloc) (s : ServiceSm)
    (f : ServiceTurn → ServiceTurn) : schema.Reaction SmKind.service :=
  serviceReaction alloc (f { toServiceSm := s, id, nextEndpoint := alloc (.inl SmKind.endpoint) })

def onInit : (k : SmKind) → Nat → schema.IdAlloc → State k → schema.Reaction k
  | .service,id,alloc,s => runService id alloc s (fun t => t)
  | .workload,id,alloc,w => runWorkload id alloc w WorkloadTurn.onInit
  | .pod,_,alloc,p => runPod alloc p PodTurn.onInit
  | .endpoint,_,alloc,e => runEndpoint alloc e EndpointTurn.onInit

def onInput : (b : Batch) → Out b → Nat → schema.IdAlloc → State (batchNode b) →
    schema.Reaction (batchNode b)
  | .demandInput,v,id,alloc,w => runWorkload id alloc w (·.handle (.demandInput v))
  | .specInput,v,id,alloc,w => runWorkload id alloc w (·.handle (.specInput v))
  | .podStatusInput,v,id,alloc,w => runWorkload id alloc w (·.handle (.podStatusInput v))
  | .podWorkerInput,v,id,alloc,w => runWorkload id alloc w (·.handle (.podWorkerInput v))
  | .artifactInput,v,id,alloc,w => runWorkload id alloc w (·.handle (.artifactInput v))
  | .svcSpecInput,v,id,alloc,s => runService id alloc s (·.handle (.svcSpecInput v))
  | .configInput,v,_,alloc,e => runEndpoint alloc e (·.handle (.configInput v))
  | .readinessInput,v,_,alloc,e => runEndpoint alloc e (·.handle (.readinessInput v))
  | .placementInput,v,_,alloc,e => runEndpoint alloc e (·.handle (.placementInput v))
  | .backendNeedInput,v,_,alloc,e => runEndpoint alloc e (·.handle (.backendNeedInput v))
  | .workerInput,v,_,alloc,p => runPod alloc p (·.handle (.workerInput v))
  | .ownerInput,v,_,alloc,p => runPod alloc p (·.handle (.ownerInput v))
  | .launchSpecInput,v,_,alloc,p => runPod alloc p (·.handle (.launchSpecInput v))
  | .leaseInput,v,_,alloc,p => runPod alloc p (·.handle (.leaseInput v))

def onEvent : (ev : Event) → Payload ev → Nat → schema.IdAlloc → State (receiver ev) →
    schema.Reaction (receiver ev)
  | .adminCommand,v,id,alloc,w => runWorkload id alloc w (·.handle (.adminCommand v))
  | .workloadTimerFired,v,id,alloc,w => runWorkload id alloc w (·.handle (.workloadTimerFired v))
  | .activateService,v,id,alloc,s => runService id alloc s (·.handle (.activateService v))
  | .activateEndpoint,v,_,alloc,e => runEndpoint alloc e (·.handle (.activateEndpoint v))
  | .endpointTimerFired,v,_,alloc,e => runEndpoint alloc e (·.handle (.endpointTimerFired v))
  | .endpointDemandTraffic,_,_,alloc,e => runEndpoint alloc e (·.handle .endpointDemandTraffic)
  | .notifyPodStatus,v,_,alloc,p => runPod alloc p (·.handle (.notifyPodStatus v))
  | .notifyPodSuspended,v,_,alloc,p => runPod alloc p (·.handle (.notifyPodSuspended v))
  | .podTimerFired,v,_,alloc,p => runPod alloc p (·.handle (.podTimerFired v))

/-- No machine creates others when it is created, and `Namespace::new` sets the depth limit. -/
abbrev topology : Topology where
  toSchema := schema
  aggregate := aggregate
  added := added
  removed := removed
  changed := changed
  summary _ h := nomatch h
  onInit := onInit
  onInput := onInput
  onDelta _ _ h := nomatch h
  onEvent := onEvent
  createDepth := 1
  depthLimit := 16

end Distvirt.Ns

namespace Distvirt

/-- The router of a namespace. -/
abbrev DRouter := SmRouter.Router Ns.topology

end Distvirt
