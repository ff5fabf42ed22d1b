import Distvirt.Sm.Pod
import Distvirt.Sm.Endpoint

/-! The workload machine: it decides from its spec, the demand of its endpoints and the reports
of its pod whether it wants a pod, and creates, keeps, suspends or abandons one. -/

namespace Distvirt

def maxRetriesDefault : Nat := 5

structure WorkloadSm where
  hasSpec : Bool
  hasDemand : Bool
  podRunning : Bool
  wantsPod : Bool
  podId : Option PodId
  /-- Set when demand appears, so that a launch is not aborted before the pod runs. -/
  committedToBoot : Bool
  specVersion : Nat
  launchedWithSpecVersion : Nat
  consecutiveFailures : Nat
  restartCount : Nat
  maxRetries : Nat
  inBackoff : Bool
  backoffGeneration : Nat
  podWorkerId : Option WorkerId
  suspendOnIdle : Bool
  artifactPort : Option ArtifactPortId
  artifactConfirmed : Bool
  artifactConfirmGen : Nat
  awaitingSuspend : Bool
  currentPodSpec : Option PodSpec
  podIp : Nat
  endpointId : Option EndpointId
  runPolicy : RunPolicy
  completed : Bool
  lastExitCode : Option Int
  lastFailureReason : Option String
  respectsDemand : Bool
deriving DecidableEq, Repr

/-- A machine a workload creates while it handles an input. -/
inductive WorkloadCreate where
  | pod (id : PodId) (pod : PodSm)
  | endpoint (id : EndpointId) (endpoint : EndpointSm)

structure WorkloadCtx where
  id : WorkloadId
  nextPod : PodId
  nextEndpoint : EndpointId
  setReadiness : Option (Option ReadyInfo) := none
  setPlacement : Option (Option WorkerId) := none
  setPodIntent : Option PodIntent := none
  setPodLaunchSpec : Option (Option Sm.WorkloadSpec) := none
  setWantedTimers : Option (List (TimerRequest WorkloadTimerKey)) := none
  setStatus : Option WlStatus := none
  setConsecutiveFailures : Option Nat := none
  setSpecStale : Option Bool := none
  setArtifactRef : Option Bool := none
  setEndpointConfig : Option (Option EndpointConfig) := none
  setWorkloadEndpointOwnershipEdges : Option (List EndpointId) := none
  setEndpointReadinessEdges : Option (List EndpointId) := none
  setPodOwnershipEdges : Option (List PodId) := none
  setWorkloadTimersEdges : Option (List Nat) := none
  setWorkloadArtifactRefEdges : Option (List ArtifactPortId) := none
  setWorkloadObservabilityEdges : Option (List Nat) := none
  creates : List WorkloadCreate := []
  selfDestruct : Bool := false

/-- A workload together with the context of the input it is handling. -/
structure WorkloadTurn extends WorkloadSm, WorkloadCtx

inductive WorkloadInput where
  | demandInput (demand : DemandInfo)
  | specInput (spec : Option (ManagementId × Sm.WorkloadSpec))
  | podStatusInput (statuses : List PodStatus)
  | podWorkerInput (workers : List (Option WorkerId))
  | artifactInput (valid : Option Bool)
  | adminCommand (cmd : AdminCmd)
  | workloadTimerFired (key : WorkloadTimerKey)

namespace WorkloadSm

def withMaxRetries (maxRetries : Nat) : WorkloadSm where
  hasSpec := false
  hasDemand := false
  podRunning := false
  wantsPod := false
  podId := none
  committedToBoot := false
  specVersion := 0
  launchedWithSpecVersion := 0
  consecutiveFailures := 0
  restartCount := 0
  maxRetries
  inBackoff := false
  backoffGeneration := 0
  podWorkerId := none
  suspendOnIdle := false
  artifactPort := none
  artifactConfirmed := false
  artifactConfirmGen := 0
  awaitingSuspend := false
  currentPodSpec := none
  podIp := 0
  endpointId := none
  runPolicy := .service
  completed := false
  lastExitCode := none
  lastFailureReason := none
  respectsDemand := false

def new : WorkloadSm := withMaxRetries maxRetriesDefault

def effectiveDemand (w : WorkloadSm) : Bool := !w.respectsDemand || w.hasDemand

def isFailed (w : WorkloadSm) : Bool := decide (w.maxRetries ≤ w.consecutiveFailures)

def wantPod (w : WorkloadSm) : Bool :=
  w.hasSpec && (w.effectiveDemand || w.committedToBoot) && !w.inBackoff && !w.isFailed &&
    !w.completed

/-- A dead pod that is kept for inspection while the workload backs off or has given up. -/
def holdsRetainedPod (w : WorkloadSm) : Bool :=
  w.podId.isSome && !w.podRunning && (w.inBackoff || w.isFailed)

def wantedTimers (w : WorkloadSm) : List (TimerRequest WorkloadTimerKey) :=
  (if w.inBackoff then [⟨.retryBackoff,w.backoffGeneration,500⟩] else []) ++
  (if w.artifactPort.isSome && !w.artifactConfirmed then
    [⟨.artifactConfirm,w.artifactConfirmGen,100⟩] else [])

def status (w : WorkloadSm) : WlStatus :=
  let demand := w.effectiveDemand || w.committedToBoot
  if w.completed then .completed (w.lastExitCode.getD 0)
  else if w.isFailed && demand then .failed w.lastExitCode (w.lastFailureReason.getD "")
  else if w.inBackoff then .retryBackoff
  else if w.awaitingSuspend then .suspending
  else if w.artifactPort.isSome && w.podId.isNone then .suspended
  else if w.podRunning then .running
  else if w.podId.isSome then .launching
  else if !w.hasSpec && demand then .waitingForSpec
  else .dormant

def specStale (w : WorkloadSm) : Bool :=
  w.podId.isSome && w.launchedWithSpecVersion ≠ w.specVersion

/-- An unassigned pod or worker shows as id 0. -/
def readyInfo (w : WorkloadSm) : ReadyInfo := ⟨w.podId.getD 0,w.podWorkerId.getD 0,w.podIp⟩

def begin (w : WorkloadSm) (id nextPod nextEndpoint : Nat) : WorkloadTurn :=
  { toWorkloadSm := w, toWorkloadCtx := { id, nextPod, nextEndpoint } }

end WorkloadSm

namespace WorkloadTurn

def clearArtifactRef (t : WorkloadTurn) : WorkloadTurn :=
  if t.artifactPort.isSome then
    { t with
      artifactPort := none
      artifactConfirmed := false
      setWorkloadArtifactRefEdges := some []
      setArtifactRef := some false }
  else t

/-- Removes the ownership edge: the pod drives itself to a terminal status. -/
def disownPod (t : WorkloadTurn) : WorkloadTurn :=
  { t with podId := none, setPodOwnershipEdges := some [], setPodIntent := some .none }

def clearReadiness (t : WorkloadTurn) : WorkloadTurn :=
  { t with setReadiness := some none, setPlacement := some none }

def updateReadiness (t : WorkloadTurn) : WorkloadTurn :=
  { t with setReadiness := some (some t.readyInfo) }

def updateTimerSignal (t : WorkloadTurn) : WorkloadTurn :=
  { t with setWantedTimers := some t.wantedTimers }

def updateStatusSignals (t : WorkloadTurn) : WorkloadTurn :=
  { t with
    setStatus := some t.status
    setConsecutiveFailures := some t.consecutiveFailures
    setSpecStale := some t.specStale }

def reapRetainedPod (t : WorkloadTurn) : WorkloadTurn :=
  if t.holdsRetainedPod then t.disownPod else t

/-- `podRunning` and `podWorkerId` stay as they are until the pod's reports are gone. -/
def destroyCurrentPod (t : WorkloadTurn) : WorkloadTurn :=
  let t := if t.podId.isSome then t.disownPod else t
  { t with awaitingSuspend := false }.clearArtifactRef.clearReadiness

def createPod (t : WorkloadTurn) : WorkloadTurn :=
  let pod := match t.artifactPort with
    | some port => PodSm.newFromArtifact port
    | none => PodSm.new
  { t with
    creates := t.creates ++ [WorkloadCreate.pod t.nextPod pod]
    podId := some t.nextPod
    nextPod := t.nextPod + 1
    launchedWithSpecVersion := t.specVersion
    setPodOwnershipEdges := some [t.nextPod]
    setPodIntent := some .want }

def reconcile (t : WorkloadTurn) : WorkloadTurn :=
  if t.awaitingSuspend then t
  else
    let wantPod := t.wantPod
    let t := { t with wantsPod := wantPod }
    if wantPod && t.podId.isNone then
      -- an artifact that is not confirmed yet is waited for
      if t.artifactPort.isSome && !t.artifactConfirmed then t else t.createPod
    else if wantPod then { t with setPodIntent := some .want }
    else if t.podId.isSome then
      if t.podRunning && t.suspendOnIdle then
        { t with setPodIntent := some .suspend, awaitingSuspend := true }
      else if !t.podRunning && (t.inBackoff || t.isFailed) then t
      else t.disownPod.clearReadiness
    else { t with setPodIntent := some .none }

def onPodRunning (t : WorkloadTurn) : WorkloadTurn :=
  let t := { t with committedToBoot := false, consecutiveFailures := 0 }.clearArtifactRef
  if t.launchedWithSpecVersion ≠ t.specVersion then t.destroyCurrentPod.reconcile
  else if !t.effectiveDemand then t.reconcile
  else t.updateReadiness

def onPodFinished (t : WorkloadTurn) (exitCode : Int) : WorkloadTurn :=
  let t := { t with awaitingSuspend := false }.clearArtifactRef.clearReadiness.disownPod
  let t := { t with lastExitCode := some exitCode }
  let t := if t.runPolicy = .job then { t with completed := true, committedToBoot := false }
    else if !t.effectiveDemand then { t with committedToBoot := false }
    else t
  t.reconcile.updateTimerSignal

/-- The failed pod is kept while the workload backs off or has run out of retries, unless
nobody asks for it any more. -/
def onPodFailed (t : WorkloadTurn) (exitCode : Option Int) (reason : String) : WorkloadTurn :=
  let t := { t with awaitingSuspend := false }.clearArtifactRef.clearReadiness
  let t := { t with
    lastExitCode := exitCode
    lastFailureReason := some reason
    consecutiveFailures := t.consecutiveFailures + 1
    restartCount := t.restartCount + 1 }
  let t := if !t.effectiveDemand then { t with committedToBoot := false } else t
  let t := if t.isFailed then { t with committedToBoot := false } else t
  let wantRetry := (t.effectiveDemand || t.committedToBoot) && !t.isFailed
  let t := if wantRetry then
      { t with inBackoff := true, backoffGeneration := t.backoffGeneration + 1 }
    else if !t.effectiveDemand then { t with consecutiveFailures := 0 }.reapRetainedPod
    else t
  t.reconcile.updateTimerSignal

def onPodDisplaced (t : WorkloadTurn) : WorkloadTurn :=
  let t := { t with awaitingSuspend := false }.clearReadiness.disownPod
  let t := if !t.effectiveDemand then { t with committedToBoot := false } else t
  t.reconcile.updateTimerSignal

def onPodSuspended (t : WorkloadTurn) (artifactId : ArtifactPortId) : WorkloadTurn :=
  let t := if t.specVersion = t.launchedWithSpecVersion then
      { t with
        artifactPort := some artifactId
        artifactConfirmed := false
        artifactConfirmGen := t.artifactConfirmGen + 1
        setWorkloadArtifactRefEdges := some [artifactId]
        setArtifactRef := some true }
    else t
  { t with awaitingSuspend := false }.clearReadiness.disownPod.reconcile

def resetRetries (t : WorkloadTurn) : WorkloadTurn :=
  { t with
    committedToBoot := false
    consecutiveFailures := 0
    inBackoff := false
    completed := false }

def handleDemand (t : WorkloadTurn) (demand : DemandInfo) : WorkloadTurn :=
  let oldDemand := t.hasDemand
  let t := { t with hasDemand := decide (0 < demand.demandCount) }
  let t := if t.hasDemand && !oldDemand then { t with committedToBoot := true } else t
  let t := if !t.hasDemand && t.podId.isNone then t.resetRetries else t
  let t := if !t.hasDemand && t.holdsRetainedPod then t.resetRetries else t
  { t with setEndpointReadinessEdges := some demand.endpointIds }.reconcile.updateTimerSignal

/-- Creates the workload's own endpoint at the first spec with a network and configures it. -/
def configureEndpoint (t : WorkloadTurn) (spec : Sm.WorkloadSpec) : WorkloadTurn :=
  match spec.podSpec.network with
  | none => t
  | some network =>
    let t := match t.endpointId with
      | some _ => t
      | none =>
        { t with
          creates := t.creates ++ [WorkloadCreate.endpoint t.nextEndpoint (.new spec.config.respectsDemand)]
          endpointId := some t.nextEndpoint
          nextEndpoint := t.nextEndpoint + 1
          setWorkloadEndpointOwnershipEdges := some [t.nextEndpoint] }
    { t with setEndpointConfig := some (some
        { kind := .workload
          workload := t.id
          hasActivation := spec.config.respectsDemand
          idleTimeout := (spec.config.activation.map ActivationSpec.idleTimeout).getD 30000
          ip := network.ip
          dnsEntry := none }) }

/-- A changed pod spec restarts a running pod at once. A pending pod is kept: the new version
is noticed when it runs. -/
def changePodSpec (t : WorkloadTurn) : WorkloadTurn :=
  let t := { t with specVersion := t.specVersion + 1 }.reapRetainedPod
  let t := { t with
    consecutiveFailures := 0
    restartCount := 0
    inBackoff := false
    completed := false }.clearArtifactRef
  if t.podRunning then t.destroyCurrentPod else t

def stopSuspending (t : WorkloadTurn) : WorkloadTurn :=
  (if t.awaitingSuspend then t.destroyCurrentPod else t).clearArtifactRef

def applySpec (t : WorkloadTurn) (spec : Sm.WorkloadSpec) : WorkloadTurn :=
  let t := { t with podIp := (spec.podSpec.network.map PodNetworkConfig.ip).getD 0 }.configureEndpoint spec
  let oldSuspendOnIdle := t.suspendOnIdle
  let oldRunPolicy := t.runPolicy
  let t := { t with
    respectsDemand := spec.config.respectsDemand
    suspendOnIdle := spec.config.suspendOnIdle
    runPolicy := spec.config.runPolicy }
  let t := if oldRunPolicy = .job ∧ t.runPolicy = .service ∧ t.completed then
      { t with completed := false }
    else t
  let podSpecChanged := t.currentPodSpec ≠ some spec.podSpec
  let t := { t with currentPodSpec := some spec.podSpec }
  let t := if t.hasSpec ∧ podSpecChanged then t.changePodSpec else t
  if oldSuspendOnIdle && !t.suspendOnIdle then t.stopSuspending else t

/-- A removed spec destroys the workload without a last status. -/
def handleSpec (t : WorkloadTurn) (spec : Option (ManagementId × Sm.WorkloadSpec)) :
    WorkloadTurn :=
  let t := { t with setPodLaunchSpec := some (spec.map Prod.snd) }
  match spec with
  | some (_,spec) =>
    { t.applySpec spec with hasSpec := true }.reconcile.updateTimerSignal.updateStatusSignals
  | none =>
    if t.hasSpec then
      { t.destroyCurrentPod with currentPodSpec := none, selfDestruct := true }
    else { t with hasSpec := false }.reconcile.updateTimerSignal.updateStatusSignals

/-- No report at all while a pod is expected: forget the pod. -/
def forgetPod (t : WorkloadTurn) : WorkloadTurn :=
  { t with
    podWorkerId := none
    awaitingSuspend := false
    committedToBoot := false }.disownPod.clearReadiness

def suspendedArtifact : List PodStatus → Option ArtifactPortId :=
  List.findSome? (fun
    | .suspended artifactId => some artifactId
    | _ => none)

def failure : List PodStatus → Option (Option Int × String) :=
  List.findSome? (fun
    | .failed exitCode reason => some (exitCode,reason)
    | _ => none)

def finish : List PodStatus → Option Int :=
  List.findSome? (fun
    | .finished exitCode => some exitCode
    | _ => none)

def handlePodStatus (t : WorkloadTurn) (statuses : List PodStatus) : WorkloadTurn :=
  let wasRunning := t.podRunning
  let t := { t with podRunning := decide (PodStatus.running ∈ statuses) }
  let t := if statuses.isEmpty && t.podId.isSome then t.forgetPod else t
  let t := match suspendedArtifact statuses with
    | some artifactId => t.onPodSuspended artifactId
    | none =>
      if t.podRunning && !wasRunning then t.onPodRunning
      else
        match failure statuses,t.podId with
        | some (exitCode,reason),some _ => t.onPodFailed exitCode reason
        | _,_ =>
          if PodStatus.displaced ∈ statuses ∧ t.podId.isSome then t.onPodDisplaced
          else
            match finish statuses,t.podId with
            | some exitCode,some _ => t.onPodFinished exitCode
            | _,_ =>
              if !t.podRunning && wasRunning then t.clearReadiness.reconcile else t.reconcile
  t.updateTimerSignal

def handlePodWorker (t : WorkloadTurn) (workers : List (Option WorkerId)) : WorkloadTurn :=
  let newWorkerId := workers.head?.join
  if newWorkerId ≠ t.podWorkerId then
    let t := { t with podWorkerId := newWorkerId, setPlacement := some newWorkerId }
    if t.podRunning then t.updateReadiness else t
  else t

/-- A scavenge of a workload in demand does nothing at all. -/
def handleAdmin (t : WorkloadTurn) : AdminCmd → WorkloadTurn
  | .scavenge =>
    if t.effectiveDemand then t
    else
      let t := t.resetRetries.clearArtifactRef.destroyCurrentPod
      t.reconcile.updateTimerSignal.updateStatusSignals
  | .restart =>
    let t := { t with
      consecutiveFailures := 0
      restartCount := 0
      inBackoff := false
      completed := false }.destroyCurrentPod
    let t := { t with launchedWithSpecVersion := t.specVersion }
    t.reconcile.updateTimerSignal.updateStatusSignals

def handleArtifact (t : WorkloadTurn) (valid : Option Bool) : WorkloadTurn :=
  let t := if valid = some true then { t with artifactConfirmed := true }.reconcile
    else if t.artifactPort.isSome then t.clearArtifactRef.reconcile
    else t
  t.updateTimerSignal

def handleTimer (t : WorkloadTurn) : WorkloadTimerKey → WorkloadTurn
  | .retryBackoff =>
    if t.inBackoff then
      { t.reapRetainedPod with inBackoff := false }.reconcile.updateTimerSignal
    else t
  | .artifactConfirm =>
    if t.artifactPort.isSome && !t.artifactConfirmed then
      { t with
        artifactPort := none
        setWorkloadArtifactRefEdges := some []
        setArtifactRef := some false }.reconcile.updateTimerSignal
    else t

def handle (t : WorkloadTurn) : WorkloadInput → WorkloadTurn
  | .demandInput demand => (t.handleDemand demand).updateStatusSignals
  | .specInput spec => t.handleSpec spec
  | .podStatusInput statuses => (t.handlePodStatus statuses).updateStatusSignals
  | .podWorkerInput workers => (t.handlePodWorker workers).updateStatusSignals
  | .adminCommand cmd => t.handleAdmin cmd
  | .artifactInput valid => (t.handleArtifact valid).updateStatusSignals
  | .workloadTimerFired key => (t.handleTimer key).updateStatusSignals

def onInit (t : WorkloadTurn) : WorkloadTurn :=
  { t with
    setWorkloadTimersEdges := some [singleton]
    setWorkloadObservabilityEdges := some [singleton] }.updateStatusSignals

end WorkloadTurn

end Distvirt
