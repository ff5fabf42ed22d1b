import Distvirt.Sm.Workload

/-! The deltas that the ports of a namespace receive from incremental aggregators. Each
aggregator says what is reported when a source appears, disappears or changes its signal. -/

namespace Distvirt

inductive TimerIdentity where
  | workload (id : WorkloadId) (key : WorkloadTimerKey)
  | endpoint (id : EndpointId) (key : EndpointTimerKey)
  | pod (id : PodId) (key : PodTimerKey)
deriving DecidableEq, Repr

inductive TimerAction where
  | start (identity : TimerIdentity) (generation : Nat) (duration : Duration)
  | cancel (identity : TimerIdentity)
deriving DecidableEq, Repr

namespace Timers

variable {Key : Type} [DecidableEq Key]

def find (requests : List (TimerRequest Key)) (key : Key) : Option (TimerRequest Key) :=
  requests.find? (fun r => r.key = key)

def nonempty {α : Type} : List α → Option (List α)
  | [] => none
  | l => some l

/-- A timer that is no longer wanted, or wanted with another generation, is cancelled; one
that is wanted anew is started. -/
def diffTimerRequests (identity : Key → TimerIdentity) (old new : List (TimerRequest Key)) :
    List TimerAction :=
  old.filterMap (fun r =>
    match find new r.key with
    | none => some (.cancel (identity r.key))
    | some n => if n.generation ≠ r.generation then some (.cancel (identity r.key)) else none) ++
  new.filterMap (fun n =>
    match find old n.key with
    | none => some (.start (identity n.key) n.generation n.duration)
    | some r =>
      if r.generation ≠ n.generation then some (.start (identity n.key) n.generation n.duration)
      else none)

def added (identity : Key → TimerIdentity) (requests : List (TimerRequest Key)) :
    Option (List TimerAction) :=
  nonempty (requests.map (fun r => .start (identity r.key) r.generation r.duration))

def removed (identity : Key → TimerIdentity) (requests : List (TimerRequest Key)) :
    Option (List TimerAction) :=
  nonempty (requests.map (fun r => .cancel (identity r.key)))

def changed (identity : Key → TimerIdentity) (old new : List (TimerRequest Key)) :
    Option (List TimerAction) :=
  nonempty (diffTimerRequests identity old new)

end Timers

inductive PodAssignmentDelta where
  | launch (podId : PodId) (request : PodScheduleRequest) (spec : Option Sm.WorkloadSpec)
  | resume (podId : PodId) (artifactId : ArtifactPortId) (spec : Option Sm.WorkloadSpec)
  | stop (podId : PodId)
  | suspend (podId : PodId)
deriving DecidableEq, Repr

namespace PodAssignmentDelta

def added (podId : PodId) (request : PodScheduleRequest) : Option PodAssignmentDelta :=
  match request.resumeArtifact with
  | some artifactId => some (.resume podId artifactId request.spec)
  | none => some (.launch podId request request.spec)

def removed (podId : PodId) (_ : PodScheduleRequest) : Option PodAssignmentDelta :=
  some (.stop podId)

def changed (podId : PodId) (old new : PodScheduleRequest) : Option PodAssignmentDelta :=
  if new.suspend && !old.suspend then some (.suspend podId) else none

end PodAssignmentDelta

inductive ScheduleRequestDelta where
  | request (podId : PodId) (request : PodScheduleRequest)
  | drop (podId : PodId)
deriving DecidableEq, Repr

inductive EndpointAction where
  | update (endpointId : EndpointId) (info : EndpointInfo)
  | remove (endpointId : EndpointId) (oldInfo : EndpointInfo)
  | wireGuardPeerUpdate (peerId : Nat) (info : WireGuardPeerEndpointInfo)
  | wireGuardPeerRemove (peerId : Nat) (oldInfo : WireGuardPeerEndpointInfo)
deriving DecidableEq, Repr

namespace EndpointAction

/-- One aggregator for both sources: a source is shown while its signal is `some`. -/
def added {Info : Type} (update : Info → EndpointAction) (info : Option Info) :
    Option (List EndpointAction) :=
  info.map (fun i => [update i])

def removed {Info : Type} (remove : Info → EndpointAction) (info : Option Info) :
    Option (List EndpointAction) :=
  info.map (fun i => [remove i])

def changed {Info : Type} (update remove : Info → EndpointAction) :
    Option Info → Option Info → Option (List EndpointAction)
  | _,some info => some [update info]
  | some old,none => some [remove old]
  | none,none => none

end EndpointAction

inductive DnsRegistryAction where
  | add (name : String) (ip : Nat)
  | remove (name : String)
deriving DecidableEq, Repr

namespace DnsRegistryAction

def added (info : Option DnsEntryInfo) : Option (List DnsRegistryAction) :=
  info.map (fun entry => [.add entry.name entry.ip])

def removed (info : Option DnsEntryInfo) : Option (List DnsRegistryAction) :=
  info.map (fun entry => [.remove entry.name])

def changed : Option DnsEntryInfo → Option DnsEntryInfo → Option (List DnsRegistryAction)
  | some old,some new =>
    some ((if old.name ≠ new.name then [.remove old.name] else []) ++ [.add new.name new.ip])
  | some old,none => some [.remove old.name]
  | none,some new => some [.add new.name new.ip]
  | none,none => none

end DnsRegistryAction

inductive ArtifactRefDelta where
  | referenced (workloadId : WorkloadId)
  | released (workloadId : WorkloadId)
deriving DecidableEq, Repr

inductive PodEventKind where
  | created
  | statusChanged (old new : PodStatus)
  | workerChanged (old new : Option WorkerId)
  | reaped (lastStatus : PodStatus)
  | memoryConstrained (reason : String)
  | memoryConstraintCleared
  | oomKill (count : Nat)
deriving DecidableEq, Repr

inductive ObservabilityEvent where
  | pod (podId : PodId) (event : PodEventKind)
  | workloadStatusChanged (workloadId : WorkloadId) (old new : WlStatus)
  | endpointStatusChanged (endpointId : EndpointId) (old new : EndpointStatus)
  | endpointIdleTimerChanged (endpointId : EndpointId) (active : Bool)
deriving DecidableEq, Repr

end Distvirt
