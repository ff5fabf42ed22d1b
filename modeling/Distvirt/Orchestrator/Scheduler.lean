import Distvirt.Namespace.Spec
import Distvirt.Table
import Mathlib.Data.List.MinMax

/-! The scheduler: lease requests, worker candidates, and where the copies of artifacts are. -/

namespace Distvirt

inductive PressureBand where
  | normal
  | elevated
  | high
  | critical
deriving DecidableEq, Repr

def PressureBand.rank : PressureBand → Nat
  | .normal => 0
  | .elevated => 1
  | .high => 2
  | .critical => 3

/-- An artifact is named by a text: the decimal form of the port id of the namespace it comes
from. -/
abbrev ArtifactId := String

def digit (c : Char) : Option Nat := if c.isDigit then some (c.toNat - '0'.toNat) else none

/-- `str::parse::<u64>`. -/
def parseU64 (text : String) : Option Nat :=
  let digits := match text.toList with
    | '+' :: rest => rest
    | chars => chars
  if digits.isEmpty then none
  else digits.foldlM (fun n c => do
    let n := n * 10 + (← digit c)
    if n < 2 ^ 64 then some n else none) 0

structure WorkerCandidate where
  workerId : WorkerId
  maxPressureBand : PressureBand
  podCount : Nat
  draining : Bool
  active : Bool
deriving DecidableEq, Repr

inductive ArtifactStatus where
  | writing
  | ready (poolId : String) (sizeBytes : Nat)
deriving DecidableEq, Repr

def ArtifactStatus.isReady : ArtifactStatus → Bool
  | .writing => false
  | .ready _ _ => true

inductive ArtifactPlacementEvent where
  | writeStarted (artifactId : ArtifactId) (poolId : String)
  | writeCommitted (artifactId : ArtifactId) (poolId : String) (sizeBytes : Nat)
  | transferReceived (artifactId : ArtifactId) (poolId : String) (sizeBytes : Nat)
  | transferFailed (artifactId : ArtifactId)
deriving DecidableEq, Repr

/-- Which workers have a copy of an artifact. -/
structure PlacementTable where
  entries : Table ArtifactId (Table WorkerId ArtifactStatus)
deriving DecidableEq

namespace PlacementTable

def copies (t : PlacementTable) (artifactId : ArtifactId) : Table WorkerId ArtifactStatus :=
  (t.entries.lookup artifactId).getD ∅

def put (t : PlacementTable) (artifactId : ArtifactId) (workerId : WorkerId)
    (status : ArtifactStatus) : PlacementTable :=
  ⟨t.entries.insert artifactId ((t.copies artifactId).insert workerId status)⟩

/-- An artifact without copies has no entry. -/
def applyEvent (t : PlacementTable) (workerId : WorkerId) : ArtifactPlacementEvent → PlacementTable
  | .writeStarted artifactId _ => t.put artifactId workerId .writing
  | .writeCommitted artifactId poolId sizeBytes =>
    t.put artifactId workerId (.ready poolId sizeBytes)
  | .transferReceived artifactId poolId sizeBytes =>
    t.put artifactId workerId (.ready poolId sizeBytes)
  | .transferFailed artifactId =>
    match t.entries.lookup artifactId with
    | none => t
    | some workers =>
      let workers := workers.erase workerId
      if workers.entries.isEmpty then ⟨t.entries.erase artifactId⟩
      else ⟨t.entries.insert artifactId workers⟩

def removeWorker (t : PlacementTable) (workerId : WorkerId) : PlacementTable :=
  ⟨t.entries.retain (fun _ workers =>
    let workers := workers.erase workerId
    if workers.entries.isEmpty then none else some workers)⟩

/-- The workers with a copy that is complete. -/
def workersWithArtifact (t : PlacementTable) (artifactId : ArtifactId) : List WorkerId :=
  (t.copies artifactId).toList.filterMap (fun (workerId,status) =>
    if status.isReady then some workerId else none)

def anyWorkerWithArtifact (t : PlacementTable) (artifactId : ArtifactId) :
    Option (WorkerId × String) :=
  (t.copies artifactId).toList.findSome? (fun (workerId,status) =>
    match status with
    | .ready poolId _ => some (workerId,poolId)
    | .writing => none)

def removeArtifact (t : PlacementTable) (artifactId : ArtifactId) : PlacementTable :=
  ⟨t.entries.erase artifactId⟩

end PlacementTable

/-- Pod ids are unique within a namespace only. -/
abbrev PodKey := NamespaceId × PodId

inductive Decision where
  | grant (key : PodKey) (workerId : WorkerId)
  | revoke (key : PodKey) (workerId : WorkerId)
deriving DecidableEq, Repr

structure DeleteArtifactCommand where
  workerId : WorkerId
  artifactId : ArtifactId
  poolId : String
deriving DecidableEq, Repr

structure SchedulerEffects where
  decisions : List Decision := []
  artifactInvalidations : List ArtifactPortId := []
  deleteCommands : List DeleteArtifactCommand := []
deriving DecidableEq, Repr

inductive SchedulerCoreInput where
  | requestLease (key : PodKey) (resumeArtifact : Option ArtifactId)
  | dropRequest (key : PodKey)
  | workerUpdate (workerId : WorkerId) (candidate : WorkerCandidate)
  | workerRemoved (workerId : WorkerId)
  | artifactEvent (workerId : WorkerId) (event : ArtifactPlacementEvent)
  | artifactReferenced (artifactId : ArtifactId) (namespaceId : NamespaceId)
  | artifactReleased (artifactId : ArtifactId) (namespaceId : NamespaceId)
deriving DecidableEq, Repr

/-- A pending request keeps the artifact to resume from, a granted one its worker. -/
structure SchedulerCore where
  pending : Table PodKey (Option ArtifactId)
  granted : Table PodKey WorkerId
  workers : Table WorkerId WorkerCandidate
  placements : PlacementTable
  artifactRefs : Table ArtifactId NamespaceId
deriving DecidableEq

def WorkerCandidate.eligible (c : WorkerCandidate) : Bool :=
  c.active && !c.draining && c.maxPressureBand.rank < PressureBand.high.rank

/-- The workers that have the artifact to resume from, if there are any. -/
def affinityWorkers (resumeArtifact : Option ArtifactId) (placements : PlacementTable) :
    Option (List WorkerId) :=
  resumeArtifact.bind (fun artifactId =>
    let workers := placements.workersWithArtifact artifactId
    if workers.isEmpty then none else some workers)

/-- Artifact affinity first, then pressure, then the number of pods, then the id. -/
def preference (affinity : Option (List WorkerId)) (workerId : WorkerId) (band : PressureBand)
    (podCount : Nat) : Nat ×ₗ Nat ×ₗ Nat ×ₗ Nat :=
  let noAffinity := (affinity.map (fun workers => !workers.contains workerId)).getD false
  toLex (if noAffinity then 1 else 0,toLex (band.rank,toLex (podCount,workerId)))

def selectWorker (candidates : List WorkerCandidate) (resumeArtifact : Option ArtifactId)
    (placements : PlacementTable) : Option WorkerId :=
  let affinity := affinityWorkers resumeArtifact placements
  ((candidates.filter WorkerCandidate.eligible).argmin (fun c =>
    preference affinity c.workerId c.maxPressureBand c.podCount)).map WorkerCandidate.workerId

namespace SchedulerCore

def new : SchedulerCore := ⟨∅,∅,∅,⟨∅⟩,∅⟩

def candidates (s : SchedulerCore) : List WorkerCandidate := s.workers.toList.map Prod.snd

def select (s : SchedulerCore) (resumeArtifact : Option ArtifactId) : Option WorkerId :=
  selectWorker s.candidates resumeArtifact s.placements

/-- A key that was selected is looked up again; the candidates are the same for all. -/
def retryOne : SchedulerCore × List Decision → PodKey → SchedulerCore × List Decision
  | (s,decisions),key =>
    match s.pending.lookup key with
    | none => (s,decisions)
    | some resumeArtifact =>
      let s := { s with pending := s.pending.erase key }
      match s.select resumeArtifact with
      | some workerId =>
        ({ s with granted := s.granted.insert key workerId },decisions ++ [.grant key workerId])
      | none => ({ s with pending := s.pending.insert key resumeArtifact },decisions)

def retryPending (s : SchedulerCore) : SchedulerCore × List Decision :=
  let newlyGranted := s.pending.toList.filterMap (fun (key,resumeArtifact) =>
    (s.select resumeArtifact).map (fun _ => key))
  newlyGranted.foldl retryOne (s,[])

/-- Only complete copies count for what is reachable. -/
def workerRemoved (s : SchedulerCore) (workerId : WorkerId) : SchedulerCore × SchedulerEffects :=
  let placements := s.placements.removeWorker workerId
  let unreachable := s.artifactRefs.keys.filter (fun artifactId =>
    (placements.workersWithArtifact artifactId).isEmpty)
  ({ s with
      workers := s.workers.erase workerId
      placements
      artifactRefs := unreachable.foldl (fun refs artifactId => refs.erase artifactId)
        s.artifactRefs },
    { artifactInvalidations := unreachable.filterMap parseU64 })

/-- One of the workers that have the artifact is told to delete it. -/
def artifactReleased (s : SchedulerCore) (artifactId : ArtifactId) :
    SchedulerCore × SchedulerEffects :=
  ({ s with
      artifactRefs := s.artifactRefs.erase artifactId
      placements := s.placements.removeArtifact artifactId },
    { deleteCommands := match s.placements.anyWorkerWithArtifact artifactId with
      | some (workerId,poolId) => [⟨workerId,artifactId,poolId⟩]
      | none => [] })

def process (s : SchedulerCore) : SchedulerCoreInput → SchedulerCore × SchedulerEffects
  | .requestLease key resumeArtifact =>
    match s.select resumeArtifact with
    | some workerId =>
      ({ s with granted := s.granted.insert key workerId },{ decisions := [.grant key workerId] })
    | none => ({ s with pending := s.pending.insert key resumeArtifact },{})
  | .dropRequest key =>
    match s.granted.lookup key with
    | some workerId =>
      ({ s with granted := s.granted.erase key },{ decisions := [.revoke key workerId] })
    | none => ({ s with pending := s.pending.erase key },{})
  | .workerUpdate workerId candidate =>
    let (s,decisions) :=
      { s with workers := s.workers.insert workerId candidate }.retryPending
    (s,{ decisions })
  | .workerRemoved workerId => s.workerRemoved workerId
  | .artifactEvent workerId event =>
    ({ s with placements := s.placements.applyEvent workerId event },{})
  | .artifactReferenced artifactId namespaceId =>
    ({ s with artifactRefs := s.artifactRefs.insert artifactId namespaceId },{})
  | .artifactReleased artifactId _ => s.artifactReleased artifactId

end SchedulerCore

end Distvirt
