import Distvirt.Sm.Types

/-! The pod machine. A pod drives one running thing from creation to a terminal status and
destroys itself once it is terminal and nobody owns it. -/

namespace Distvirt

structure PodSm where
  status : PodStatus
  workloadId : Option WorkloadId
  workerId : Option WorkerId
  intent : PodIntent
  resumeArtifact : Option ArtifactPortId
  timerGeneration : Nat
  assignedWorker : Option WorkerId
  launchSpec : Option Sm.WorkloadSpec
deriving DecidableEq, Repr

/-- What a handler sets on its context: the signals and edge lists of a pod. -/
structure PodCtx where
  setStatus : Option PodStatus := none
  setAssignedWorker : Option (Option WorkerId) := none
  setWantedTimers : Option (List (TimerRequest PodTimerKey)) := none
  setScheduleRequest : Option PodScheduleRequest := none
  setPodReportEdges : Option (List WorkloadId) := none
  setPodTimersEdges : Option (List Nat) := none
  setPodScheduleIntentEdges : Option (List Nat) := none
  setPodPlacementEdges : Option (List WorkerId) := none
  setPodObservabilityEdges : Option (List Nat) := none
  selfDestruct : Bool := false

/-- A pod together with the context of the input it is handling. -/
structure PodTurn extends PodSm, PodCtx

inductive PodInput where
  | workerInput (worker : Option (WorkerId × WorkerInfo))
  | ownerInput (owner : Option (WorkloadId × PodIntent))
  | launchSpecInput (spec : Option Sm.WorkloadSpec)
  | leaseInput (lease : Option LeaseInfo)
  | notifyPodStatus (status : PodStatus)
  | notifyPodSuspended (artifactId : ArtifactPortId)
  | podTimerFired (key : PodTimerKey)

namespace PodSm

def new : PodSm := ⟨.pending,none,none,.none,none,0,none,none⟩

def newFromArtifact (artifactId : ArtifactPortId) : PodSm :=
  { new with resumeArtifact := some artifactId }

def makeScheduleRequest (p : PodSm) : PodScheduleRequest :=
  ⟨p.resumeArtifact,p.status = .suspending,p.launchSpec⟩

def wantedTimers (p : PodSm) : List (TimerRequest PodTimerKey) :=
  match p.status with
  | .pending => [⟨.launchTimeout,p.timerGeneration,120000⟩]
  | .suspending => [⟨.suspendTimeout,p.timerGeneration,30000⟩]
  | _ => []

/-- The worker may only report that a pending pod runs, or that a pod ended. -/
def acceptsStatus (p : PodSm) (status : PodStatus) : Bool :=
  !p.status.isTerminal &&
    match status with
    | .running => p.status = .pending
    | .failed _ _ | .finished _ => true
    | _ => false

def begin (p : PodSm) : PodTurn := { toPodSm := p, toPodCtx := {} }

end PodSm

namespace PodTurn

def updateTimerSignal (t : PodTurn) : PodTurn :=
  { t with setWantedTimers := some t.wantedTimers }

def maybeReap (t : PodTurn) : PodTurn :=
  if t.status.isTerminal && t.workloadId.isNone then { t with selfDestruct := true } else t

/-- Moves to a status and publishes it together with the timers it needs. -/
def moveTo (t : PodTurn) (status : PodStatus) : PodTurn :=
  { t with status, setStatus := some status }.updateTimerSignal

def handleWorker (t : PodTurn) (worker : Option (WorkerId × WorkerInfo)) : PodTurn :=
  let newWorkerId := worker.map (·.1)
  let t := if newWorkerId ≠ t.workerId then
      { t with workerId := newWorkerId, setAssignedWorker := some newWorkerId }
    else t
  if worker.isNone && !t.status.isTerminal then (t.moveTo .displaced).maybeReap else t

/-- Losing the owner in a live status is a failure; running with a suspend intent starts the
suspend. -/
def handleOwner (t : PodTurn) (owner : Option (WorkloadId × PodIntent)) : PodTurn :=
  let hadOwner := t.workloadId.isSome
  let (newWl,newIntent) := match owner with
    | some (wl,intent) => (some wl,intent)
    | none => (none,.none)
  let t := { t with
    workloadId := newWl
    intent := newIntent
    setPodReportEdges := some newWl.toList }
  let t := if t.status = .running ∧ t.intent = .suspend then
      let t := { t with
        timerGeneration := t.timerGeneration + 1
        status := .suspending
        setStatus := some .suspending }
      { t with setScheduleRequest := some t.makeScheduleRequest }.updateTimerSignal
    else t
  let t := if hadOwner && t.workloadId.isNone && !t.status.isTerminal then
      t.moveTo (.failed none "owner lost")
    else t
  t.maybeReap

def handleLease (t : PodTurn) (lease : Option LeaseInfo) : PodTurn :=
  match lease with
  | some info =>
    if t.assignedWorker.isNone ∧ t.status = .pending then
      { t with
        assignedWorker := some info.workerId
        setAssignedWorker := some (some info.workerId)
        setPodPlacementEdges := some [info.workerId] }
    else t
  | none =>
    if t.assignedWorker.isSome && !t.status.isTerminal then
      ({ t with assignedWorker := none, setPodPlacementEdges := some [] }.moveTo
        .displaced).maybeReap
    else t

/-- A timer that fires in another status than the one that wanted it is ignored. -/
def handleTimer (t : PodTurn) : PodTimerKey → PodTurn
  | .launchTimeout =>
    if t.status = .pending then (t.moveTo (.failed none "launch timeout")).maybeReap else t
  | .suspendTimeout =>
    if t.status = .suspending then (t.moveTo (.failed none "suspend timeout")).maybeReap else t

def handle (t : PodTurn) : PodInput → PodTurn
  | .launchSpecInput spec =>
    if t.launchSpec ≠ spec then
      let t := { t with launchSpec := spec }
      { t with setScheduleRequest := some t.makeScheduleRequest }
    else t
  | .workerInput worker => t.handleWorker worker
  | .ownerInput owner => t.handleOwner owner
  | .notifyPodStatus status =>
    if t.acceptsStatus status then (t.moveTo status).maybeReap else t
  | .notifyPodSuspended artifactId =>
    if t.status = .suspending then (t.moveTo (.suspended artifactId)).maybeReap else t
  | .leaseInput lease => t.handleLease lease
  | .podTimerFired key => t.handleTimer key

/-- The hook that runs once when the router creates the pod. -/
def onInit (t : PodTurn) : PodTurn :=
  { t with
    setPodTimersEdges := some [singleton]
    setPodScheduleIntentEdges := some [singleton]
    setPodObservabilityEdges := some [singleton]
    setScheduleRequest := some t.makeScheduleRequest }.updateTimerSignal

end PodTurn

end Distvirt
