import Distvirt.Sm.Workload

/-! Every path through a workload's handlers is made of a few moves: it disowns or creates a
pod, drops or takes an artifact, and configures its endpoint. A property that the moves keep is
kept by every input. -/

namespace Distvirt

/-- The part of a turn that the moves change. -/
structure WorkloadCore where
  podId : Option PodId
  artifactPort : Option ArtifactPortId
  endpointId : Option EndpointId
  id : WorkloadId
  nextPod : PodId
  nextEndpoint : EndpointId
  setEndpointConfig : Option (Option EndpointConfig)
  setWorkloadEndpointOwnershipEdges : Option (List EndpointId)
  setEndpointReadinessEdges : Option (List EndpointId)
  setPodOwnershipEdges : Option (List PodId)
  setWorkloadArtifactRefEdges : Option (List ArtifactPortId)
  creates : List WorkloadCreate
  hasSpec : Bool
  selfDestruct : Bool

namespace WorkloadCore

def disown (c : WorkloadCore) : WorkloadCore :=
  { c with podId := none, setPodOwnershipEdges := some [] }

def create (c : WorkloadCore) : WorkloadCore :=
  { c with
    creates := c.creates ++ [.pod c.nextPod { PodSm.new with resumeArtifact := c.artifactPort }]
    podId := some c.nextPod
    nextPod := c.nextPod + 1
    setPodOwnershipEdges := some [c.nextPod] }

def hold (c : WorkloadCore) (artifact : Option ArtifactPortId) : WorkloadCore :=
  { c with artifactPort := artifact, setWorkloadArtifactRefEdges := some artifact.toList }

def answer (c : WorkloadCore) (endpoints : List EndpointId) : WorkloadCore :=
  { c with setEndpointReadinessEdges := some endpoints }

def ensureEndpoint (c : WorkloadCore) (hasActivation : Bool) : WorkloadCore :=
  match c.endpointId with
  | some _ => c
  | none =>
    { c with
      creates := c.creates ++ [.endpoint c.nextEndpoint (.new hasActivation)]
      endpointId := some c.nextEndpoint
      nextEndpoint := c.nextEndpoint + 1
      setWorkloadEndpointOwnershipEdges := some [c.nextEndpoint] }

/-- The config of a workload's own endpoint. -/
def endpointConfig (id : WorkloadId) (config : WorkloadConfig) (network : PodNetworkConfig) :
    EndpointConfig where
  kind := .workload
  workload := id
  hasActivation := config.respectsDemand
  idleTimeout := (config.activation.map ActivationSpec.idleTimeout).getD 30000
  ip := network.ip
  dnsEntry := none

def configure (c : WorkloadCore) (config : WorkloadConfig) (network : PodNetworkConfig) :
    WorkloadCore :=
  { c.ensureEndpoint config.respectsDemand with
    setEndpointConfig := some (some (endpointConfig c.id config network)) }

/-- A property that the moves of a workload keep, when it is told of the endpoints in `known`
only. -/
structure Closed (known : List EndpointId → Prop) (K : WorkloadCore → Prop) : Prop where
  disown : ∀ {c}, K c → K c.disown
  create : ∀ {c}, K c → K c.create
  hold : ∀ {c} artifact, K c → K (c.hold artifact)
  answer : ∀ {c endpoints}, known endpoints → K c → K (c.answer endpoints)
  configure : ∀ {c} config network, K c → K (c.configure config network)

end WorkloadCore

open WorkloadCore

namespace WorkloadTurn

def core (t : WorkloadTurn) : WorkloadCore :=
  ⟨t.podId,t.artifactPort,t.endpointId,t.id,t.nextPod,t.nextEndpoint,t.setEndpointConfig,
    t.setWorkloadEndpointOwnershipEdges,t.setEndpointReadinessEdges,t.setPodOwnershipEdges,
    t.setWorkloadArtifactRefEdges,t.creates,t.hasSpec,t.selfDestruct⟩

theorem core_createPod (t : WorkloadTurn) : t.createPod.core = t.core.create := by
  unfold createPod
  cases h : t.artifactPort with
  | none => simp [core,create,h,PodSm.new]
  | some port => simp [core,create,h,PodSm.newFromArtifact]

theorem core_configureEndpoint (t : WorkloadTurn) (h : spec.podSpec.network = some network) :
    (t.configureEndpoint spec).core = t.core.configure spec.config network := by
  unfold configureEndpoint
  rw [h]
  cases he : t.endpointId with
  | none | some e => simp [core,configure,ensureEndpoint,he,endpointConfig]

variable {K : WorkloadCore → Prop} {t : WorkloadTurn}

theorem closed_ite [Decidable c] (h : K t.core) (h' : K t'.core) :
    K (if c then t else t').core := by
  split
  · exact h
  · exact h'

section closed
variable (hK : WorkloadCore.Closed known K)
include hK

theorem closed_clearArtifactRef (h : K t.core) : K t.clearArtifactRef.core :=
  closed_ite (hK.hold none h) h

theorem closed_reapRetainedPod (h : K t.core) : K t.reapRetainedPod.core :=
  closed_ite (hK.disown h) h

theorem closed_destroyCurrentPod (h : K t.core) : K t.destroyCurrentPod.core := by
  have disowned : K (if t.podId.isSome then t.disownPod else t).core := closed_ite (hK.disown h) h
  exact closed_clearArtifactRef hK
    (t := { (if t.podId.isSome then t.disownPod else t) with awaitingSuspend := false }) disowned

theorem closed_reconcile (h : K t.core) : K t.reconcile.core := by
  have created : K ({ t with wantsPod := t.wantPod } : WorkloadTurn).createPod.core := by
    rw [core_createPod]
    exact hK.create h
  unfold reconcile
  exact closed_ite h (closed_ite (closed_ite h created) (closed_ite h
    (closed_ite (closed_ite h (closed_ite h (hK.disown h))) h)))

theorem closed_onPodRunning (h : K t.core) : K t.onPodRunning.core := by
  have base : K ({ t with committedToBoot := false, consecutiveFailures := 0 } :
      WorkloadTurn).clearArtifactRef.core := closed_clearArtifactRef hK h
  exact closed_ite (closed_reconcile hK (closed_destroyCurrentPod hK base))
    (closed_ite (closed_reconcile hK base) base)

theorem closed_onPodFinished (h : K t.core) (exitCode : Int) :
    K (t.onPodFinished exitCode).core := by
  have base : K ({ t with awaitingSuspend := false } :
      WorkloadTurn).clearArtifactRef.clearReadiness.disownPod.core :=
    hK.disown (closed_clearArtifactRef hK (t := { t with awaitingSuspend := false }) h)
  exact closed_reconcile hK (closed_ite base (closed_ite base base))

theorem closed_onPodFailed (h : K t.core) (exitCode : Option Int) (reason : String) :
    K (t.onPodFailed exitCode reason).core := by
  have base : K ({ t with awaitingSuspend := false } :
      WorkloadTurn).clearArtifactRef.clearReadiness.core :=
    closed_clearArtifactRef hK (t := { t with awaitingSuspend := false }) h
  refine closed_reconcile hK (closed_ite ?_ (closed_ite (closed_reapRetainedPod hK ?_) ?_)) <;>
    exact closed_ite (closed_ite base base) (closed_ite base base)

theorem closed_onPodDisplaced (h : K t.core) : K t.onPodDisplaced.core := by
  have base : K ({ t with awaitingSuspend := false } :
      WorkloadTurn).clearReadiness.disownPod.core := hK.disown h
  exact closed_reconcile hK (closed_ite base base)

theorem closed_onPodSuspended (h : K t.core) (artifactId : ArtifactPortId) :
    K (t.onPodSuspended artifactId).core := by
  have taken : ∀ c : Prop, ∀ _ : Decidable c, K (if c then
      { t with
        artifactPort := some artifactId
        artifactConfirmed := false
        artifactConfirmGen := t.artifactConfirmGen + 1
        setWorkloadArtifactRefEdges := some [artifactId]
        setArtifactRef := some true }
    else t).core := fun _ _ => closed_ite (hK.hold (some artifactId) h) h
  exact closed_reconcile hK (hK.disown (taken _ _))

theorem closed_handleDemand (h : K t.core) (demand : DemandInfo) (hd : known demand.endpointIds) :
    K (t.handleDemand demand).core := by
  have answered : ∀ {t' : WorkloadTurn}, K t'.core →
      K ({ t' with setEndpointReadinessEdges := some demand.endpointIds } : WorkloadTurn).core :=
    fun h' => hK.answer hd h'
  refine closed_reconcile hK (answered ?_)
  exact closed_ite (closed_ite (closed_ite h h) (closed_ite h h))
    (closed_ite (closed_ite h h) (closed_ite h h))

theorem closed_configureEndpoint (h : K t.core) (spec : Sm.WorkloadSpec) :
    K (t.configureEndpoint spec).core := by
  cases hn : spec.podSpec.network with
  | none => simpa [configureEndpoint,hn] using h
  | some network =>
    rw [core_configureEndpoint t hn]
    exact hK.configure spec.config network h

theorem closed_changePodSpec (h : K t.core) : K t.changePodSpec.core := by
  have reaped : K ({ t with specVersion := t.specVersion + 1 } :
      WorkloadTurn).reapRetainedPod.core := closed_reapRetainedPod hK h
  have cleared : K ({ ({ t with specVersion := t.specVersion + 1 } :
      WorkloadTurn).reapRetainedPod with
    consecutiveFailures := 0
    restartCount := 0
    inBackoff := false
    completed := false } : WorkloadTurn).clearArtifactRef.core := closed_clearArtifactRef hK reaped
  exact closed_ite (closed_destroyCurrentPod hK cleared) cleared

theorem closed_stopSuspending (h : K t.core) : K t.stopSuspending.core :=
  closed_clearArtifactRef hK (closed_ite (closed_destroyCurrentPod hK h) h)

theorem closed_applySpec (h : K t.core) (spec : Sm.WorkloadSpec) : K (t.applySpec spec).core := by
  have base := closed_configureEndpoint hK
    (t := { t with podIp := (spec.podSpec.network.map PodNetworkConfig.ip).getD 0 }) h spec
  refine closed_ite (closed_stopSuspending hK ?_) ?_ <;>
    exact closed_ite (closed_changePodSpec hK (closed_ite base base)) (closed_ite base base)

theorem closed_handleSpec (hs : ∀ {c : WorkloadCore} hasSpec, K c → K { c with hasSpec })
    (hd : ∀ {c : WorkloadCore}, K c → K { c with selfDestruct := true }) (h : K t.core)
    (spec : Option (ManagementId × Sm.WorkloadSpec)) : K (t.handleSpec spec).core := by
  have base : K ({ t with setPodLaunchSpec := some (spec.map Prod.snd) } : WorkloadTurn).core := h
  cases spec with
  | some spec =>
    have applied : K ({ ({ t with setPodLaunchSpec := some (some spec.2) } :
        WorkloadTurn).applySpec spec.2 with hasSpec := true } : WorkloadTurn).core :=
      hs true (closed_applySpec hK base spec.2)
    exact closed_reconcile hK applied
  | none =>
    have kept : K ({ t with setPodLaunchSpec := some none, hasSpec := false } : WorkloadTurn).core :=
      hs false base
    exact closed_ite (hd (closed_destroyCurrentPod hK base)) (closed_reconcile hK kept)

theorem closed_handlePodStatus (h : K t.core) (statuses : List PodStatus) :
    K (t.handlePodStatus statuses).core := by
  have base : ∀ c : Bool, K (if c then
      ({ t with podRunning := decide (PodStatus.running ∈ statuses) } : WorkloadTurn).forgetPod
      else { t with podRunning := decide (PodStatus.running ∈ statuses) }).core :=
    fun c => closed_ite (hK.disown h) h
  unfold handlePodStatus
  simp only
  change K (WorkloadTurn.core _)
  split
  · exact closed_onPodSuspended hK (base _) _
  · refine closed_ite (closed_onPodRunning hK (base _)) ?_
    split
    · exact closed_onPodFailed hK (base _) _ _
    · refine closed_ite (closed_onPodDisplaced hK (base _)) ?_
      split
      · exact closed_onPodFinished hK (base _) _
      · exact closed_ite (closed_reconcile hK (base _)) (closed_reconcile hK (base _))

theorem closed_handleAdmin (h : K t.core) (cmd : AdminCmd) : K (t.handleAdmin cmd).core := by
  cases cmd with
  | scavenge =>
    exact closed_ite h (closed_reconcile hK (closed_destroyCurrentPod hK
      (closed_clearArtifactRef hK (t := t.resetRetries) h)))
  | restart =>
    have base := closed_destroyCurrentPod hK
      (t := { t with
        consecutiveFailures := 0
        restartCount := 0
        inBackoff := false
        completed := false }) h
    exact closed_reconcile hK base

theorem closed_handleArtifact (h : K t.core) (valid : Option Bool) :
    K (t.handleArtifact valid).core := by
  have base := closed_reconcile hK (t := { t with artifactConfirmed := true }) h
  exact closed_ite base (closed_ite (closed_reconcile hK (closed_clearArtifactRef hK h)) h)

theorem closed_handleTimer (h : K t.core) (key : WorkloadTimerKey) :
    K (t.handleTimer key).core := by
  cases key with
  | retryBackoff =>
    have base := closed_reconcile hK (t := { t.reapRetainedPod with inBackoff := false })
      (closed_reapRetainedPod hK h)
    exact closed_ite base h
  | artifactConfirm =>
    have base := closed_reconcile hK
      (t := { t with
        artifactPort := none
        setWorkloadArtifactRefEdges := some []
        setArtifactRef := some false }) (hK.hold none h)
    exact closed_ite base h

/-- A property of the core that every move keeps is kept by every input, a spec apart. -/
theorem closed_handle (h : K t.core) (input : WorkloadInput)
    (hd : ∀ demand, input = .demandInput demand → known demand.endpointIds)
    (hs : ∀ spec, input = .specInput spec → K (t.handleSpec spec).core) :
    K (t.handle input).core := by
  cases input with
  | demandInput demand => exact closed_handleDemand hK h demand (hd demand rfl)
  | specInput spec => exact hs spec rfl
  | podStatusInput statuses => exact closed_handlePodStatus hK h statuses
  | podWorkerInput workers => exact closed_ite (closed_ite h h) h
  | artifactInput valid => exact closed_handleArtifact hK h valid
  | adminCommand cmd => exact closed_handleAdmin hK h cmd
  | workloadTimerFired key => exact closed_handleTimer hK h key

end closed

end WorkloadTurn

end Distvirt
