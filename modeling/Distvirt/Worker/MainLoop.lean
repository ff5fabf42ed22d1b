import Distvirt.Guest.Memory
import Distvirt.Worker.Commands

/-! The main loop of a worker, the bounded channel of background events that it alone reads, and
the supervisors of its pods. A step takes one task from a point where it waits to the next such
point; a task that waits for room in the channel takes no step until there is room. What the
writer does with the events, and the timers for capacity and pressure, are not part of it. -/

namespace Distvirt.Worker

inductive MemoryConstraintReason where
  | balloonExhausted
  | deflationStalled
deriving DecidableEq, Repr

def MemoryConstraintReason.ofGuest : Guest.ConstraintReason → MemoryConstraintReason
  | .balloonExhausted => .balloonExhausted
  | .deflationStalled => .deflationStalled

structure Transfer where
  transferId : Nat
  sourceArtifactId : ArtifactId
  sourcePoolId : String
  destArtifactId : ArtifactId
  destPoolId : String
deriving DecidableEq, Repr

/-- The events of the background channel. `shuttingDown` is written without it. -/
inductive WorkerEvent where
  | namespaceCreated (namespaceId : NamespaceId)
  | podRunning (key : PodKey)
  | podExited (key : PodKey) (exitCode : Int)
  | podFailed (key : PodKey) (error : String)
  | namespaceFailed (namespaceId : NamespaceId) (error : String)
  | shuttingDown
  | podLogStreamError (key : PodKey) (containerId phase error : String)
  | podSuspended (key : PodKey) (artifactId : ArtifactId) (artifactSizeBytes : Nat)
      (poolId : String)
  | podSuspendFailed (key : PodKey) (error : String)
  | namespaceDestroyed (namespaceId : NamespaceId)
  | artifactWriteStarted (namespaceId : NamespaceId) (artifactId : ArtifactId) (poolId : String)
  | artifactWriteCommitted (namespaceId : NamespaceId) (artifactId : ArtifactId)
      (poolId : String) (sizeBytes : Nat)
  | artifactTransferReceived (transfer : Transfer) (sizeBytes : Nat)
  | transferFailed (transfer : Transfer) (error : String)
  | endpointDemandTraffic (namespaceId : NamespaceId) (ip : Nat) (serviceId : Option Nat)
  | endpointDemandActive (namespaceId : NamespaceId) (ip : Nat) (serviceId : Option Nat)
      (active : Bool)
  | podMemoryConstrained (key : PodKey) (reason : MemoryConstraintReason)
  | podMemoryConstraintCleared (key : PodKey)
  | podOomKill (key : PodKey) (count : Nat)
deriving DecidableEq, Repr

/-- The pod whose end the event reports. -/
def WorkerEvent.ends : WorkerEvent → Option PodKey
  | .podExited key _ | .podFailed key _ | .podSuspended key _ _ _ | .podSuspendFailed key _ =>
    some key
  | _ => none

structure SuspendRequest where
  artifactId : ArtifactId
  poolId : String
deriving DecidableEq, Repr

/-- What the guest has said so far, of its memory and else. The size of the balloon only goes back
to the guest. -/
structure EventDispatchState extends Guest.Dispatch where
  exited : List (String × Int) := []
  taskError : Option (String × String) := none
  streamClosed : Bool := false
  streamError : Option String := none
  oomKillCount : Nat := 0
deriving DecidableEq, Repr

/-- What ends the loop of the monitor, a request to suspend apart. -/
inductive LoopOutcome where
  | containerExited (exitCode : Int)
  | fatal (error : String)
  | vmExited
  | cancelled
deriving DecidableEq, Repr

def LoopOutcome.event (key : PodKey) : LoopOutcome → WorkerEvent
  | .containerExited exitCode => .podExited key exitCode
  | .fatal error => .podFailed key error
  | .vmExited => .podFailed key "VM process exited unexpectedly"
  | .cancelled => .podExited key (-1)

structure StateTracker where
  lastMemoryConstrained : Bool := false
  lastOomKillCount : Nat := 0
deriving DecidableEq, Repr

/-- The events to send for a new state of the guest, and whether the pod ends with it. -/
def StateTracker.process (tracker : StateTracker) (key : PodKey) (state : EventDispatchState) :
    StateTracker × List WorkerEvent × Option LoopOutcome :=
  match state.taskError,state.exited with
  | some (task,message),_ =>
    (tracker,[],some (.fatal s!"guest task error: task={task}, message={message}"))
  | none,(_,code) :: _ => (tracker,[],some (.containerExited code))
  | none,[] =>
    let memory :=
      if state.memoryConstrained && !tracker.lastMemoryConstrained then
        [.podMemoryConstrained key
          ((state.memoryConstraintReason.map .ofGuest).getD .balloonExhausted)]
      else if !state.memoryConstrained && tracker.lastMemoryConstrained then
        [.podMemoryConstraintCleared key]
      else []
    let kills :=
      if tracker.lastOomKillCount < state.oomKillCount then
        [.podOomKill key (state.oomKillCount - tracker.lastOomKillCount)]
      else []
    (⟨state.memoryConstrained,max tracker.lastOomKillCount state.oomKillCount⟩,memory ++ kills,
      if state.streamClosed then
        some (.fatal (state.streamError.getD "event stream closed unexpectedly"))
      else none)

inductive Vm where
  | absent
  | running
  | gone
deriving DecidableEq, Repr

inductive Phase where
  | launch
  | resume
deriving DecidableEq, Repr

/-- Where a supervisor is. In `closing` it shuts the VM down or kills it, in `snapshot` it writes
the snapshot, in `returning` it has only the events of its outbox left to send. An aborted task
runs no more; its VM goes when the runtime drops it. -/
inductive Stage where
  | setup (phase : Phase)
  | monitor (tracker : StateTracker)
  | closing (outcome : LoopOutcome)
  | snapshot (request : SuspendRequest)
  | returning
  | aborted (dropped : Bool)
deriving DecidableEq, Repr

def Stage.isAborted : Stage → Bool
  | .aborted _ => true
  | _ => false

/-- The task of one pod: the events it is sending, its token, the request in its suspend channel,
and its VM. -/
structure Supervisor where
  key : PodKey
  stage : Stage
  outbox : List WorkerEvent := []
  cancelled : Bool := false
  suspendRx : Option SuspendRequest := none
  vm : Vm := .absent
deriving DecidableEq, Repr

inductive DriverExit where
  | clean
  | failed (message : String)
  | dropped
deriving DecidableEq, Repr

def DriverExit.error : DriverExit → String
  | .clean => "yamux driver exited unexpectedly"
  | .failed message => s!"yamux driver error: {message}"
  | .dropped => "yamux driver task dropped exit signal"

/-- What a supervisor reacts to, from its VM, its guest and the other tasks. -/
inductive SupervisorInput where
  | launched
  | logStreamError (containerId phase error : String)
  | ready
  | setupFailed (error : String)
  | guestStateChanged (state : EventDispatchState)
  | driverExited (exit : DriverExit)
  | portTaskExited
  | vmDied
  | vmExited
  | suspendRequested
  | cancelled
  | closed
  | suspended (result : Except String Nat)
  | dropped
deriving DecidableEq, Repr

namespace Supervisor

def finished (t : Supervisor) : Prop := t.stage = .returning ∧ t.outbox = []

def ended (t : Supervisor) : Prop := t.stage.isAborted = true ∨ t.finished

/-- The awaited handle resolves. -/
def joined (t : Supervisor) : Prop := t.stage = .aborted true ∨ t.finished

instance (t : Supervisor) : Decidable t.finished := inferInstanceAs (Decidable (_ ∧ _))
instance (t : Supervisor) : Decidable t.ended := inferInstanceAs (Decidable (_ ∨ _))
instance (t : Supervisor) : Decidable t.joined := inferInstanceAs (Decidable (_ ∨ _))

/-- Whoever asked for a suspend still waits: the request is in the channel or being served. -/
def replyPending (t : Supervisor) : Bool :=
  match t.stage with
  | .snapshot _ => true
  | _ => t.suspendRx.isSome

def abort (t : Supervisor) : Supervisor :=
  if t.ended then t else { t with stage := .aborted false, outbox := [], suspendRx := none }

/-- With its last event sent the task returns, and its end of the suspend channel is gone. -/
def sent (t : Supervisor) (rest : List WorkerEvent) : Supervisor :=
  { t with
    outbox := rest
    suspendRx := if t.stage = .returning ∧ rest = [] then none else t.suspendRx }

/-- A step of the task's own, when it is not sending. -/
def advance (t : Supervisor) (input : SupervisorInput) : Option Supervisor :=
  match t.stage,input with
  | .setup _,.launched =>
    if t.vm = .absent then some { t with vm := .running } else none
  -- restoring a pod opens no log stream
  | .setup .launch,.logStreamError containerId phase error =>
    if t.vm = .absent then none
    else some { t with outbox := [.podLogStreamError t.key containerId phase error] }
  | .setup _,.ready =>
    if t.vm = .absent then none
    else some { t with stage := .monitor {}, outbox := [.podRunning t.key] }
  | .monitor tracker,.guestStateChanged state =>
    let (tracker,events,outcome) := tracker.process t.key state
    some { t with
      stage := match outcome with
        | some outcome => .closing outcome
        | none => .monitor tracker
      outbox := events }
  | .monitor _,.driverExited exit => some { t with stage := .closing (.fatal exit.error) }
  | .monitor _,.portTaskExited =>
    some { t with stage := .closing (.fatal "port task exited unexpectedly") }
  | .monitor _,.vmExited => if t.vm = .gone then some { t with stage := .closing .vmExited } else none
  | .monitor _,.suspendRequested => t.suspendRx.map (fun request => { t with
      stage := .snapshot request
      outbox := [.artifactWriteStarted t.key.1 request.artifactId request.poolId]
      suspendRx := none })
  | .monitor _,.cancelled =>
    if t.cancelled then some { t with stage := .closing .cancelled } else none
  | .closing outcome,.closed =>
    some { t with stage := .returning, outbox := [outcome.event t.key], vm := .gone }
  | .snapshot request,.suspended (.ok size) => some { t with
      stage := .returning
      outbox := [.artifactWriteCommitted t.key.1 request.artifactId request.poolId size,
        .podSuspended t.key request.artifactId size request.poolId]
      vm := .gone }
  | .snapshot _,.suspended (.error error) =>
    some { t with stage := .returning, outbox := [.podSuspendFailed t.key error], vm := .gone }
  | _,_ => none

/-- The VM may die at any time. While it is set up, that and the token also break off a send. A
VM that is killed is gone. -/
def step (t : Supervisor) : SupervisorInput → Option Supervisor
  | .vmDied => if t.vm = .running then some { t with vm := .gone } else none
  | .dropped =>
    if t.stage = .aborted false then some { t with stage := .aborted true, vm := .gone } else none
  | .setupFailed error =>
    match t.stage with
    | .setup _ =>
      if t.outbox = [] ∨ t.cancelled ∨ t.vm = .gone then some { t with
        stage := .returning
        outbox := [if t.cancelled then .podExited t.key (-1) else .podFailed t.key error]
        vm := .gone }
      else none
    | _ => none
  | input => if t.outbox = [] then t.advance input else none

/-- What a step can do to a supervisor. -/
inductive Moved (t : Supervisor) : Supervisor → Prop
  | launched {phase : Phase} (hs : t.stage = .setup phase) (hv : t.vm = .absent) :
      Moved t { t with vm := .running }
  | vmDied (hv : t.vm = .running) : Moved t { t with vm := .gone }
  | dropped (hs : t.stage = .aborted false) : Moved t { t with stage := .aborted true, vm := .gone }
  | logged {phase : Phase} {event : WorkerEvent} (hs : t.stage = .setup phase)
      (ho : t.outbox = []) (hv : t.vm ≠ .absent) (he : event.ends = none) :
      Moved t { t with outbox := [event] }
  | ready {phase : Phase} (hs : t.stage = .setup phase) (ho : t.outbox = []) :
      Moved t { t with stage := .monitor {}, outbox := [.podRunning t.key] }
  | watched {tracker tracker' : StateTracker} {events : List WorkerEvent}
      (hs : t.stage = .monitor tracker) (ho : t.outbox = [])
      (he : ∀ event ∈ events, event.ends = none) :
      Moved t { t with stage := .monitor tracker', outbox := events }
  | broken {tracker : StateTracker} {events : List WorkerEvent} {outcome : LoopOutcome}
      (hs : t.stage = .monitor tracker) (ho : t.outbox = [])
      (he : ∀ event ∈ events, event.ends = none) :
      Moved t { t with stage := .closing outcome, outbox := events }
  | requested {tracker : StateTracker} {request : SuspendRequest}
      (hs : t.stage = .monitor tracker) (ho : t.outbox = []) (hr : t.suspendRx = some request) :
      Moved t { t with
        stage := .snapshot request
        outbox := [.artifactWriteStarted t.key.1 request.artifactId request.poolId]
        suspendRx := none }
  | failed {phase : Phase} {event : WorkerEvent} (hs : t.stage = .setup phase)
      (hend : event.ends = some t.key) :
      Moved t { t with stage := .returning, outbox := [event], vm := .gone }
  | closed {outcome : LoopOutcome} {event : WorkerEvent} (hs : t.stage = .closing outcome)
      (ho : t.outbox = []) (hend : event.ends = some t.key) :
      Moved t { t with stage := .returning, outbox := [event], vm := .gone }
  | suspended {request : SuspendRequest} (events : List WorkerEvent) {event : WorkerEvent}
      (hs : t.stage = .snapshot request) (ho : t.outbox = [])
      (he : ∀ event ∈ events, event.ends = none) (hend : event.ends = some t.key) :
      Moved t { t with stage := .returning, outbox := events ++ [event], vm := .gone }

theorem process_ends (tracker : StateTracker) (key : PodKey) (state : EventDispatchState) :
    ∀ event ∈ (tracker.process key state).2.1, event.ends = none := by
  unfold StateTracker.process
  split
  · simp
  · simp
  · intro event h
    rcases List.mem_append.mp h with h | h
    · split at h
      · rw [List.mem_singleton.mp h]
        rfl
      · split at h
        · rw [List.mem_singleton.mp h]
          rfl
        · cases h
    · split at h
      · rw [List.mem_singleton.mp h]
        rfl
      · cases h

theorem outcome_ends (key : PodKey) (outcome : LoopOutcome) :
    (outcome.event key).ends = some key := by
  cases outcome <;> rfl

variable {t t' : Supervisor} {input : SupervisorInput}

theorem Moved.broken_off (hs : t.stage = .monitor tracker) (ho : t.outbox = []) :
    t.Moved { t with stage := .closing outcome } := by
  have h : t.Moved { t with stage := .closing outcome, outbox := [] } :=
    .broken hs ho (List.forall_mem_nil _)
  rwa [← ho] at h

theorem moved_advance (ho : t.outbox = []) (h : t.advance input = some t') : t.Moved t' := by
  unfold advance at h
  split at h
  · rename_i hs
    split at h
    · cases h
      exact .launched hs ‹_›
    · cases h
  · rename_i hs
    split at h
    · cases h
    · cases h
      exact .logged hs ho ‹_› rfl
  · rename_i hs
    split at h
    · cases h
    · cases h
      exact .ready hs ho
  · rename_i tracker state hs
    cases h
    have he := process_ends tracker t.key state
    split
    · exact .broken hs ho he
    · exact .watched hs ho he
  · rename_i hs
    cases h
    exact .broken_off hs ho
  · rename_i hs
    cases h
    exact .broken_off hs ho
  · rename_i hs
    split at h
    · cases h
      exact .broken_off hs ho
    · cases h
  · rename_i hs
    obtain ⟨request,hr,rfl⟩ := Option.map_eq_some_iff.mp h
    exact .requested hs ho hr
  · rename_i hs
    split at h
    · cases h
      exact .broken_off hs ho
    · cases h
  · rename_i outcome hs
    cases h
    exact .closed hs ho (outcome_ends t.key outcome)
  · rename_i request size hs
    cases h
    exact .suspended [_] hs ho (by simp [WorkerEvent.ends]) rfl
  · rename_i hs
    cases h
    exact .suspended [] hs ho (List.forall_mem_nil _) rfl
  · cases h

theorem moved_step (h : t.step input = some t') : t.Moved t' := by
  unfold step at h
  split at h
  · split at h
    · cases h
      exact .vmDied ‹_›
    · cases h
  · split at h
    · cases h
      exact .dropped ‹_›
    · cases h
  · split at h
    · rename_i hs
      split at h
      · cases h
        exact .failed hs (by split <;> rfl)
      · cases h
    · cases h
  · split at h
    · exact moved_advance ‹_› h
    · cases h

end Supervisor

/-- The pods of a namespace with the tasks of their supervisors, its token, and whether its
gateway runs. -/
structure NamespaceState where
  pods : Table PodId Nat
  cancelled : Bool
  gateway : Bool
deriving DecidableEq

/-- Where the main loop is: in its `select!`, or in a handler that sends an event, waits for
supervisors, or waits for the answer to a request. -/
inductive Main where
  | select
  | sending (event : WorkerEvent)
  | stopping (task : Nat)
  | destroying (namespaceId : NamespaceId) (tasks : List Nat)
  | suspending (task : Nat)
  | shuttingDown (tasks : List Nat)
  | exited
deriving DecidableEq, Repr

/-- Something that is seen from outside. A resume that fails at once has no task. -/
inductive LoopOccurrence where
  | launched (key : PodKey) (task : Option Nat)
  | emitted (event : WorkerEvent)
deriving DecidableEq, Repr

/-- `trace`, the latest first, and `stopped`, the tasks that were stopped before their end, are
not part of the code. -/
structure MainLoop where
  pools : List String
  namespaces : Table NamespaceId NamespaceState := ∅
  tasks : List Supervisor := []
  channel : List WorkerEvent := []
  main : Main := .select
  trace : List LoopOccurrence := []
  stopped : List Nat := []
deriving DecidableEq

inductive LoopCommand where
  | protocol (command : ProtocolCommand)
  | transferArtifact (transfer : Transfer) (destEndpoint : Option String)
  | shutdown
deriving DecidableEq

/-- What a handler meets on the machine: whether a gateway can be set up, what is wrong with the
snapshot it reads, and the changes of demand that the endpoint table reports. -/
structure Found where
  gateway : Bool := true
  snapshotError : Option String := none
  demand : List (Nat × Option Nat × Bool) := []
deriving DecidableEq

inductive LoopInput where
  | command (command : LoopCommand) (found : Found)
  | receive
  | proceed
  | timeout
  | send (task : Nat)
  | supervisor (task : Nat) (input : SupervisorInput)
  | gatewayExited (namespaceId : NamespaceId)
  | bridge (namespaceId : NamespaceId) (ip : Nat) (serviceId : Option Nat)
      (signal : EndpointDemandSignal)
  | transferDone (transfer : Transfer) (result : Except String Nat)
deriving DecidableEq

def backgroundCapacity : Nat := 256

namespace MainLoop

def hasRoom (s : MainLoop) : Prop := s.channel.length < backgroundCapacity

instance (s : MainLoop) : Decidable s.hasRoom := inferInstanceAs (Decidable (_ < _))

def trySend (s : MainLoop) (event : WorkerEvent) : MainLoop :=
  if s.hasRoom then { s with channel := s.channel ++ [event] } else s

/-- `send_event`, which waits for room. -/
def sendEvent (s : MainLoop) (event : WorkerEvent) : Option MainLoop :=
  if s.hasRoom then some { s with channel := s.channel ++ [event] } else none

theorem sendEvent_some {s s' : MainLoop} (h : s.sendEvent event = some s') :
    s.hasRoom ∧ s' = { s with channel := s.channel ++ [event] } := by
  unfold sendEvent at h
  split at h
  · cases h
    exact ⟨‹_›,rfl⟩
  · cases h

def taskOf (s : MainLoop) (key : PodKey) : Option Nat :=
  (s.namespaces.lookup key.1).bind (·.pods.lookup key.2)

def removePod (s : MainLoop) (key : PodKey) : MainLoop :=
  match s.namespaces.lookup key.1 with
  | some ns =>
    { s with namespaces := s.namespaces.insert key.1 { ns with pods := ns.pods.erase key.2 } }
  | none => s

/-- Dropping the handle of a task aborts it. -/
def abort (s : MainLoop) (tasks : List Nat) : MainLoop :=
  { s with tasks := s.tasks.mapIdx (fun i t => if i ∈ tasks then t.abort else t) }

def cancel (s : MainLoop) (p : Nat → Supervisor → Bool) : MainLoop :=
  { s with
    tasks := s.tasks.mapIdx (fun i t => if p i t then { t with cancelled := true } else t) }

def markStopped (s : MainLoop) (tasks : List Nat) : MainLoop :=
  { s with
    stopped := tasks.filter (fun id => (s.tasks[id]?).any (fun t => !decide t.finished)) ++
      s.stopped }

def podTasks (ns : NamespaceState) : List Nat := ns.pods.toList.map (·.2)

/-- What is left after the loop ends, by a command or by a fatal error. -/
def shutdownAll (s : MainLoop) : MainLoop :=
  { s.cancel (fun _ _ => true) with
    namespaces := ∅
    main := .shuttingDown (s.namespaces.toList.flatMap (fun (_,ns) => podTasks ns)) }

def launched (s : MainLoop) (key : PodKey) (task : Option Nat) : MainLoop :=
  { s with trace := .launched key task :: s.trace }

/-- A supervisor of the pod is spawned; the one in its place, if any, is dropped. -/
def spawn (s : MainLoop) (key : PodKey) (phase : Phase) (ns : NamespaceState) : MainLoop :=
  let id := s.tasks.length
  let s := (s.abort (ns.pods.lookup key.2).toList).launched key (some id)
  { s with
    tasks := s.tasks ++ [{ key, stage := .setup phase, cancelled := ns.cancelled }]
    namespaces := s.namespaces.insert key.1 { ns with pods := ns.pods.insert key.2 id } }

def handleCreateNamespace (s : MainLoop) (found : Found) (namespaceId : NamespaceId) : MainLoop :=
  if found.gateway then
    -- the namespace of that id, if there is one, is dropped with its pods
    let s := s.abort ((s.namespaces.lookup namespaceId).elim [] podTasks)
    { s with
      namespaces := s.namespaces.insert namespaceId ⟨∅,false,true⟩
      main := .sending (.namespaceCreated namespaceId) }
  else s.shutdownAll

def handleDestroyNamespace (s : MainLoop) (namespaceId : NamespaceId) : MainLoop :=
  match s.namespaces.lookup namespaceId with
  | some ns =>
    let s := (s.markStopped (podTasks ns)).cancel (fun _ t => t.key.1 = namespaceId)
    { s with
      namespaces := s.namespaces.erase namespaceId
      main := .destroying namespaceId (podTasks ns) }
  | none => s

def handleLaunchPod (s : MainLoop) (key : PodKey) : MainLoop :=
  match s.namespaces.lookup key.1 with
  | some ns => s.spawn key .launch ns
  | none => s.shutdownAll

def handleStopPod (s : MainLoop) (key : PodKey) (graceful : Bool) : MainLoop :=
  match s.namespaces.lookup key.1 with
  | some ns =>
    match ns.pods.lookup key.2 with
    | some id =>
      let s := { (s.removePod key).markStopped [id] with main := .stopping id }
      if graceful then s.cancel (fun i _ => i = id) else s.abort [id]
    | none => s
  | none => s.shutdownAll

/-- The channel for requests is empty here: the loop waits for the answer to each. -/
def handleSuspendPod (s : MainLoop) (key : PodKey) (artifactId : ArtifactPortId)
    (poolId : String) : MainLoop :=
  if poolId ∈ s.pools then
    match s.namespaces.lookup key.1 with
    | some ns =>
      match (ns.pods.lookup key.2).bind (fun id => (s.tasks[id]?).map (id,·)) with
      | some (id,t) =>
        if t.ended then
          { s with main := .sending (.podSuspendFailed key "pod supervisor already exited") }
        else
          { s with
            tasks := s.tasks.set id { t with suspendRx := some ⟨toString artifactId,poolId⟩ }
            main := .suspending id }
      | none =>
        { s with main := .sending (.podSuspendFailed key s!"pod '{toString key.2}' not found") }
    | none => s.shutdownAll
  else { s with main := .sending (.podSuspendFailed key s!"unknown pool '{poolId}'") }

def failResume (s : MainLoop) (key : PodKey) (error : String) : MainLoop :=
  { s.launched key none with main := .sending (.podFailed key error) }

def handleResumePod (s : MainLoop) (found : Found) (key : PodKey) (poolId : String) : MainLoop :=
  if poolId ∈ s.pools then
    match s.namespaces.lookup key.1 with
    | some ns =>
      match found.snapshotError with
      | some error => s.failResume key error
      | none => s.spawn key .resume ns
    | none => s.shutdownAll
  else s.failResume key s!"unknown pool '{poolId}'"

/-- The copy itself is another task, which reports its end. -/
def handleTransferArtifact (s : MainLoop) (transfer : Transfer) (destEndpoint : Option String) :
    MainLoop :=
  if transfer.sourcePoolId ∈ s.pools then
    if destEndpoint.isSome ∨ transfer.destPoolId ∈ s.pools then s
    else { s with main := .sending (.transferFailed transfer "unknown dest pool") }
  else { s with main := .sending (.transferFailed transfer "unknown source pool") }

/-- A command that only needs its namespace to be there. -/
def withNamespace (s : MainLoop) (namespaceId : NamespaceId) (next : MainLoop) : MainLoop :=
  if namespaceId ∈ s.namespaces then next else s.shutdownAll

def reportDemand (s : MainLoop) (found : Found) (namespaceId : NamespaceId) : MainLoop :=
  found.demand.foldl (fun s (ip,serviceId,active) =>
    s.trySend (.endpointDemandActive namespaceId ip serviceId active)) s

def handleNamespaceCommand (s : MainLoop) (found : Found) : WorkerCommand → MainLoop
  | .registrySync namespaceId _ | .registryUpdate namespaceId _ _ => s.withNamespace namespaceId s
  | .launchPod namespaceId podId _ _ _ _ => s.handleLaunchPod (namespaceId,podId)
  | .stopPod namespaceId podId graceful => s.handleStopPod (namespaceId,podId) graceful
  | .addWireGuardPeer _ _ _ _ | .removeWireGuardPeer _ => s
  | .suspendPod namespaceId podId artifactId poolId =>
    s.handleSuspendPod (namespaceId,podId) artifactId poolId
  | .resumePod namespaceId podId _ _ poolId => s.handleResumePod found (namespaceId,podId) poolId
  | .endpointSync namespaceId _ | .endpointUpdate namespaceId _ _ =>
    s.withNamespace namespaceId (s.reportDemand found namespaceId)

def handleCommand (s : MainLoop) (found : Found) : LoopCommand → MainLoop
  | .protocol (.createNamespace namespaceId _) => s.handleCreateNamespace found namespaceId
  | .protocol (.destroyNamespace namespaceId) => s.handleDestroyNamespace namespaceId
  | .protocol (.deleteArtifact _ _) | .protocol (.workerRegistrySync _) => s
  | .protocol (.ofNamespace command) => s.handleNamespaceCommand found command
  | .transferArtifact transfer destEndpoint => s.handleTransferArtifact transfer destEndpoint
  | .shutdown => { s with trace := .emitted .shuttingDown :: s.trace }.shutdownAll

/-- An event is taken from the channel. One that reports the end of a pod removes the pod first. -/
def forward (s : MainLoop) (event : WorkerEvent) (rest : List WorkerEvent) : MainLoop :=
  let s := { s with channel := rest, trace := .emitted event :: s.trace }
  match event.ends with
  | some key => (s.removePod key).abort (s.taskOf key).toList
  | none => s

/-- What the handler of the loop waits for has come. -/
def proceed (s : MainLoop) : Option MainLoop :=
  match s.main with
  | .sending event => { s with main := .select }.sendEvent event
  | .stopping id =>
    if (s.tasks[id]?).any (fun t => decide t.joined) then some { s with main := .select } else none
  | .destroying namespaceId [] =>
    { s with main := .select }.sendEvent (.namespaceDestroyed namespaceId)
  | .destroying namespaceId (id :: rest) =>
    if (s.tasks[id]?).any (fun t => decide t.joined) then
      some { s with main := .destroying namespaceId rest }
    else none
  | .suspending id =>
    if (s.tasks[id]?).any (·.replyPending) then none else some { s with main := .select }
  | .shuttingDown [] => some { s with main := .exited }
  | .shuttingDown (id :: rest) =>
    if (s.tasks[id]?).any (fun t => decide t.joined) then
      some { s with main := .shuttingDown rest }
    else none
  | .select | .exited => none

/-- The wait for a supervisor is over before the supervisor is. -/
def timeOut (s : MainLoop) : Option MainLoop :=
  match s.main with
  | .stopping id => some { s.abort [id] with main := .select }
  | .destroying namespaceId (id :: rest) =>
    some { s.abort [id] with main := .destroying namespaceId rest }
  | .shuttingDown (id :: rest) => some { s.abort [id] with main := .shuttingDown rest }
  | _ => none

def sendOf (s : MainLoop) (id : Nat) : Option MainLoop :=
  match s.tasks[id]? with
  | some t =>
    match t.outbox with
    | event :: rest => { s with tasks := s.tasks.set id (t.sent rest) }.sendEvent event
    | [] => none
  | none => none

theorem sendOf_some {s s' : MainLoop} {id : Nat} (h : s.sendOf id = some s') :
    ∃ t event rest, s.tasks[id]? = some t ∧ t.outbox = event :: rest ∧ s.hasRoom ∧
      s' = { s with
        tasks := s.tasks.set id (t.sent rest)
        channel := s.channel ++ [event] } := by
  unfold sendOf at h
  split at h
  · rename_i t hget
    split at h
    · obtain ⟨hroom,rfl⟩ := sendEvent_some h
      exact ⟨t,_,_,hget,‹_›,hroom,rfl⟩
    · cases h
  · cases h

/-- The gateway reports its end, and then cancels the pods of its namespace. -/
def gatewayExited (s : MainLoop) (namespaceId : NamespaceId) : Option MainLoop :=
  match s.namespaces.lookup namespaceId with
  | some ns =>
    if ns.gateway then
      { s.cancel (fun _ t => t.key.1 = namespaceId) with
        namespaces := s.namespaces.insert namespaceId
          { ns with cancelled := true, gateway := false } }.sendEvent
        (.namespaceFailed namespaceId "gateway exited unexpectedly")
    else none
  | none => none

theorem gatewayExited_some {s s' : MainLoop} (h : s.gatewayExited namespaceId = some s') :
    ∃ ns, s.namespaces.lookup namespaceId = some ns ∧ s.hasRoom ∧
      s' = { s.cancel (fun _ t => t.key.1 = namespaceId) with
        namespaces := s.namespaces.insert namespaceId
          { ns with cancelled := true, gateway := false }
        channel := s.channel ++
          [.namespaceFailed namespaceId "gateway exited unexpectedly"] } := by
  unfold gatewayExited at h
  split at h
  · split at h
    · obtain ⟨hroom,rfl⟩ := sendEvent_some h
      exact ⟨_,‹_›,hroom,rfl⟩
    · cases h
  · cases h

def bridgeEvent (namespaceId : NamespaceId) (ip : Nat) (serviceId : Option Nat) :
    EndpointDemandSignal → WorkerEvent
  | .traffic => .endpointDemandTraffic namespaceId ip serviceId
  | .active active => .endpointDemandActive namespaceId ip serviceId active

def transferEvent (transfer : Transfer) : Except String Nat → WorkerEvent
  | .ok sizeBytes => .artifactTransferReceived transfer sizeBytes
  | .error error => .transferFailed transfer error

def step (s : MainLoop) : LoopInput → Option MainLoop
  | .command command found => if s.main = .select then some (s.handleCommand found command) else none
  | .receive =>
    match s.main,s.channel with
    | .select,event :: rest => some (s.forward event rest)
    | _,_ => none
  | .proceed => s.proceed
  | .timeout => s.timeOut
  | .send id => s.sendOf id
  | .supervisor id input =>
    (s.tasks[id]?).bind (fun t =>
      (t.step input).map (fun t' => { s with tasks := s.tasks.set id t' }))
  | .gatewayExited namespaceId => s.gatewayExited namespaceId
  | .bridge namespaceId ip serviceId signal =>
    if namespaceId ∈ s.namespaces then
      some (s.trySend (bridgeEvent namespaceId ip serviceId signal))
    else none
  | .transferDone transfer result => s.sendEvent (transferEvent transfer result)

def init (pools : List String) : MainLoop := { pools }

def demo : NamespaceId := ⟨"demo",1⟩

/-- A namespace with one pod that runs. -/
def podRunning : List LoopInput :=
  [.command (.protocol (.createNamespace demo ⟨⟨0,1,24⟩,1⟩)) {},.proceed,
    .command (.protocol (.ofNamespace (.launchPod demo 0 defaultPodNetwork [] none []))) {},
    .supervisor 0 .launched,.supervisor 0 .ready,.send 0]

def suspendPod : LoopInput :=
  .command (.protocol (.ofNamespace (.suspendPod demo 0 7 "local-default"))) {}

end MainLoop

end Distvirt.Worker
