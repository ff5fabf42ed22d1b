import Distvirt.Orchestrator.Scheduler
import Mathlib.Data.Rat.Defs
import Mathlib.Algebra.Order.Ring.Rat

/-! What the orchestrator knows of each worker: its pressure, conditions, pods and segments.
Scores are rationals. -/

namespace Distvirt

namespace PressureBand

def max (a b : PressureBand) : PressureBand := if a.rank ≤ b.rank then b else a

def enterThreshold : PressureBand → ℚ
  | .normal => 0
  | .elevated => 1 / 2
  | .high => 4 / 5
  | .critical => 19 / 20

def leaveThreshold : PressureBand → ℚ
  | .normal => 0
  | .elevated => 2 / 5
  | .high => 7 / 10
  | .critical => 17 / 20

end PressureBand

/-- A band is left at a lower score than it is entered. -/
def computeBandWithHysteresis (current : PressureBand) (score : ℚ) : PressureBand :=
  if score ≥ PressureBand.critical.enterThreshold then .critical
  else if score ≥ PressureBand.high.enterThreshold && current.rank < PressureBand.high.rank then
    .high
  else if score ≥ PressureBand.elevated.enterThreshold &&
      current.rank < PressureBand.elevated.rank then .elevated
  else if current = .critical && score < PressureBand.critical.leaveThreshold then
    if score ≥ PressureBand.high.enterThreshold then .high
    else if score ≥ PressureBand.elevated.enterThreshold then .elevated
    else .normal
  else if current = .high && score < PressureBand.high.leaveThreshold then
    if score ≥ PressureBand.elevated.enterThreshold then .elevated else .normal
  else if current = .elevated && score < PressureBand.elevated.leaveThreshold then .normal
  else current

structure PressureBands where
  compute : PressureBand
  memory : PressureBand
  storage : PressureBand
  network : PressureBand
deriving DecidableEq, Repr

def PressureBands.maxBand (b : PressureBands) : PressureBand :=
  ((b.compute.max b.memory).max b.storage).max b.network

structure WorkerPressure where
  compute : ℚ
  memory : ℚ
  storage : ℚ
  network : ℚ
deriving DecidableEq

def WorkerPressure.updateBands (p : WorkerPressure) (current : PressureBands) : PressureBands where
  compute := computeBandWithHysteresis current.compute p.compute
  memory := computeBandWithHysteresis current.memory p.memory
  storage := computeBandWithHysteresis current.storage p.storage
  network := computeBandWithHysteresis current.network p.network

/-- The ten second averages, in percent. -/
structure WorkerPsi where
  cpu : ℚ
  memory : ℚ
  io : ℚ
deriving DecidableEq

def WorkerPsi.score (avg10 : ℚ) : ℚ := if avg10 < 0 then 0 else if 100 < avg10 then 1 else avg10 / 100

def WorkerPsi.pressure (psi : WorkerPsi) : WorkerPressure where
  compute := score psi.cpu
  memory := score psi.memory
  storage := score psi.io
  network := 0

structure WorkerTunnelInfo where
  listenPort : Nat
  publicKey : Nat
deriving DecidableEq, Repr

/-- The first pool is the default one. -/
structure WorkerCapabilities where
  maxPods : Nat
  publicEndpoint : String
  pools : List String
deriving DecidableEq, Repr

structure TrackedWorkerStateCore where
  pressureBands : PressureBands
  psi : Option WorkerPsi
  capabilities : WorkerCapabilities
  conditions : Table String Bool
  podCount : Nat
  tunnelInfo : Option WorkerTunnelInfo
  protoWorkerId : WorkerId
  segments : Finset Nat
deriving DecidableEq

structure WorkerPeerInfo where
  workerId : WorkerId
  endpoint : String
  publicKey : Nat
  segments : Finset Nat
deriving DecidableEq

namespace TrackedWorkerStateCore

def new (capabilities : WorkerCapabilities) (tunnelInfo : Option WorkerTunnelInfo)
    (protoWorkerId : WorkerId) : TrackedWorkerStateCore where
  pressureBands := ⟨.normal,.normal,.normal,.normal⟩
  psi := none
  capabilities
  conditions := ∅
  podCount := 0
  tunnelInfo
  protoWorkerId
  segments := ∅

def toCandidate (t : TrackedWorkerStateCore) (workerId : WorkerId) : WorkerCandidate where
  workerId
  maxPressureBand := t.pressureBands.maxBand
  podCount := t.podCount
  draining := (t.conditions.lookup "draining").getD false
  active := true

def recomputePressureFromPsi (t : TrackedWorkerStateCore) : TrackedWorkerStateCore :=
  match t.psi with
  | some psi => { t with pressureBands := psi.pressure.updateBands t.pressureBands }
  | none => t

/-- A worker without a tunnel or a public endpoint is not in the registry. -/
def toPeerInfo (t : TrackedWorkerStateCore) : Option WorkerPeerInfo :=
  match t.tunnelInfo with
  | none => none
  | some tunnel =>
    if t.capabilities.publicEndpoint.isEmpty then none
    else some ⟨t.protoWorkerId,s!"{t.capabilities.publicEndpoint}:{tunnel.listenPort}",
      tunnel.publicKey,t.segments⟩

end TrackedWorkerStateCore

inductive WorkerStateCoreEvent where
  | pressureUpdate (workerId : WorkerId) (psi : WorkerPsi)
  | poolCapacityUpdate (workerId : WorkerId) (pools : List String)
  | conditionUpdate (workerId : WorkerId) (key : String) (active : Bool)
  | connected (workerId : WorkerId) (capabilities : WorkerCapabilities)
      (tunnelInfo : Option WorkerTunnelInfo) (protoWorkerId : WorkerId)
  | disconnected (workerId : WorkerId)
  | namespaceAssigned (workerId : WorkerId) (namespaceId : NamespaceId)
  | namespaceUnassigned (workerId : WorkerId) (namespaceId : NamespaceId)
  | registerNamespaceSegment (namespaceId : NamespaceId) (segmentId : Nat)
  | unregisterNamespaceSegment (namespaceId : NamespaceId)
  | podCountChange (workerId : WorkerId) (delta : Int)
deriving DecidableEq

/-- The registry that is broadcast to the workers. -/
abbrev WorkerRegistry := List WorkerPeerInfo

structure WorkerStateEffects where
  schedulerUpdates : List SchedulerCoreInput := []
  workerRegistryBroadcast : Option WorkerRegistry := none
deriving DecidableEq

structure WorkerStateCore where
  workers : Table WorkerId TrackedWorkerStateCore
  namespaceSegments : Table NamespaceId Nat
deriving DecidableEq

/-- `(count as i32 + delta).max(0) as usize`, with the wrapping of a release build. -/
def changePodCount (count : Nat) (delta : Int) : Nat :=
  ((Int.bmod count (2 ^ 32) + delta).bmod (2 ^ 32)).toNat

namespace WorkerStateCore

def new : WorkerStateCore := ⟨∅,∅⟩

def buildWorkerRegistry (s : WorkerStateCore) : WorkerRegistry :=
  s.workers.toList.filterMap (fun e => e.2.toPeerInfo)

/-- Changes one worker, which the scheduler is told. -/
def update (s : WorkerStateCore) (workerId : WorkerId)
    (change : TrackedWorkerStateCore → TrackedWorkerStateCore) :
    WorkerStateCore × WorkerStateEffects :=
  match s.workers.lookup workerId with
  | none => (s,{})
  | some state =>
    let state := change state
    ({ s with workers := s.workers.insert workerId state },
      { schedulerUpdates := [.workerUpdate workerId (state.toCandidate workerId)] })

/-- The registry is broadcast if the change of the set of segments is one. -/
def changeSegments (s : WorkerStateCore) (workerId : WorkerId) (namespaceId : NamespaceId)
    (change : Finset Nat → Nat → Finset Nat) : WorkerStateCore × WorkerStateEffects :=
  match s.workers.lookup workerId,s.namespaceSegments.lookup namespaceId with
  | some state,some segment =>
    let segments := change state.segments segment
    let s' := { s with workers := s.workers.insert workerId { state with segments } }
    (s',{ workerRegistryBroadcast :=
      if segments = state.segments then none else some s'.buildWorkerRegistry })
  | _,_ => (s,{})

def process (s : WorkerStateCore) : WorkerStateCoreEvent → WorkerStateCore × WorkerStateEffects
  | .pressureUpdate workerId psi =>
    s.update workerId (fun state => { state with psi := some psi }.recomputePressureFromPsi)
  | .poolCapacityUpdate workerId pools =>
    match s.workers.lookup workerId with
    | none => (s,{})
    | some state =>
      let state := { state with capabilities := { state.capabilities with pools := pools } }
      ({ s with workers := s.workers.insert workerId state },{})
  | .conditionUpdate workerId key active =>
    s.update workerId (fun state => { state with conditions := state.conditions.insert key active })
  | .connected workerId capabilities tunnelInfo protoWorkerId =>
    let state := TrackedWorkerStateCore.new capabilities tunnelInfo protoWorkerId
    let s := { s with workers := s.workers.insert workerId state }
    (s,{ schedulerUpdates := [.workerUpdate workerId (state.toCandidate workerId)]
         workerRegistryBroadcast := some s.buildWorkerRegistry })
  | .disconnected workerId =>
    let s := { s with workers := s.workers.erase workerId }
    (s,{ schedulerUpdates := [.workerRemoved workerId]
         workerRegistryBroadcast := some s.buildWorkerRegistry })
  | .namespaceAssigned workerId namespaceId =>
    s.changeSegments workerId namespaceId (fun segments segment => insert segment segments)
  | .namespaceUnassigned workerId namespaceId =>
    s.changeSegments workerId namespaceId (fun segments segment => segments.erase segment)
  | .registerNamespaceSegment namespaceId segmentId =>
    ({ s with namespaceSegments := s.namespaceSegments.insert namespaceId segmentId },{})
  | .unregisterNamespaceSegment namespaceId =>
    ({ s with namespaceSegments := s.namespaceSegments.erase namespaceId },{})
  | .podCountChange workerId delta =>
    s.update workerId (fun state =>
      { state with podCount := changePodCount state.podCount delta }.recomputePressureFromPsi)

end WorkerStateCore

end Distvirt
