import Distvirt.Worker.MainLoop

/-! Each instance of a pod ends once: what the worker reports about it between its launch and the
next launch of the pod, as long as the commands keep to what the handlers rely on. -/

namespace Distvirt.Worker

open List AList
open Supervisor hiding key

/-- One launch of a pod: its task, and the reports of its end that the worker has given until the
next launch. -/
structure Instance where
  task : Option Nat
  told : List WorkerEvent
deriving DecidableEq, Repr

namespace Instance

def tell (event : WorkerEvent) : List Instance → List Instance
  | [] => []
  | i :: earlier => { i with told := i.told ++ [event] } :: earlier

/-- The instances of a pod, the latest first. -/
def ofTrace (key : PodKey) : List LoopOccurrence → List Instance
  | [] => []
  | .launched key' task :: older =>
    if key' = key then ⟨task,[]⟩ :: ofTrace key older else ofTrace key older
  | .emitted event :: older =>
    if event.ends = some key then tell event (ofTrace key older) else ofTrace key older

end Instance

/-- The pod whose end the handler of the loop is about to report. -/
def Main.reports : Main → Option PodKey
  | .sending event => event.ends
  | _ => none

/-- The tasks whose end the handler of the loop waits for. -/
def Main.awaited : Main → List Nat
  | .stopping id => [id]
  | .destroying _ ids | .shuttingDown ids => ids
  | .select | .sending _ | .suspending _ | .exited => []

namespace MainLoop

/-- The reports of the pod's end that wait in the channel. -/
def onTheWay (s : MainLoop) (key : PodKey) : Nat := s.channel.countP (·.ends = some key)

/-- There is no pod of that name, nor a report of its end that is still to be taken. -/
def Vacant (s : MainLoop) (key : PodKey) : Prop := s.taskOf key = none ∧ s.onTheWay key = 0

/-- There is a pod of that name, and its supervisor has not returned. -/
def Supervised (s : MainLoop) (key : PodKey) : Prop :=
  ((s.taskOf key).bind (s.tasks[·]?)).any (fun t => !decide t.finished) = true

/-- A namespace is made once, a pod is launched or resumed only where there is none and nothing
about an earlier one is still to be told, and is suspended, into a known pool, only while its
supervisor runs. A namespace that a command names is there, and the worker is not shut down. -/
def Orderly (s : MainLoop) : LoopInput → Prop
  | .command (.protocol (.createNamespace namespaceId _)) found =>
    found.gateway = true ∧ namespaceId ∉ s.namespaces
  | .command (.protocol (.ofNamespace command)) _ =>
    match command with
    | .launchPod namespaceId podId _ _ _ _ =>
      namespaceId ∈ s.namespaces ∧ s.Vacant (namespaceId,podId)
    | .resumePod namespaceId podId _ _ poolId =>
      (poolId ∈ s.pools → namespaceId ∈ s.namespaces) ∧ s.Vacant (namespaceId,podId)
    | .suspendPod namespaceId podId _ poolId =>
      poolId ∈ s.pools ∧ s.Supervised (namespaceId,podId)
    | command => ∀ namespaceId ∈ command.lookedUp, namespaceId ∈ s.namespaces
  | .command .shutdown _ => False
  | _ => True

instance (s : MainLoop) (key : PodKey) : Decidable (s.Vacant key) :=
  inferInstanceAs (Decidable (_ ∧ _))

instance (s : MainLoop) (key : PodKey) : Decidable (s.Supervised key) :=
  inferInstanceAs (Decidable (_ = _))

instance (s : MainLoop) : DecidablePred s.Orderly
  | .command (.protocol (.createNamespace _ _)) _ =>
    inferInstanceAs (Decidable (_ ∧ _))
  | .command (.protocol (.ofNamespace command)) _ =>
    match command with
    | .launchPod _ _ _ _ _ _ => inferInstanceAs (Decidable (_ ∧ _))
    | .resumePod _ _ _ _ _ => inferInstanceAs (Decidable ((_ → _) ∧ _))
    | .suspendPod _ _ _ _ => inferInstanceAs (Decidable (_ ∧ _))
    | .registrySync namespaceId _ | .registryUpdate namespaceId _ _ | .stopPod namespaceId _ _
    | .endpointSync namespaceId _ | .endpointUpdate namespaceId _ _ =>
      inferInstanceAs (Decidable (∀ id ∈ some namespaceId, id ∈ s.namespaces))
    | .addWireGuardPeer _ _ _ _ | .removeWireGuardPeer _ =>
      inferInstanceAs (Decidable (∀ id ∈ (none : Option NamespaceId), id ∈ s.namespaces))
  | .command .shutdown _ => inferInstanceAs (Decidable False)
  | .command (.protocol (.destroyNamespace _)) _ | .command (.protocol (.deleteArtifact _ _)) _
  | .command (.protocol (.workerRegistrySync _)) _ | .command (.transferArtifact _ _) _
  | .receive | .proceed | .timeout | .send _ | .supervisor _ _ | .gatewayExited _
  | .bridge _ _ _ _ | .transferDone _ _ => inferInstanceAs (Decidable True)

end MainLoop

namespace Instance

/-- The instance is no more: its task is over, or the handler that could not start one is done. -/
def ended (i : Instance) (s : MainLoop) (key : PodKey) : Prop :=
  match i.task with
  | some id => ∃ t, s.tasks[id]? = some t ∧ t.ended
  | none => s.main.reports ≠ some key

/-- An instance has at most one report of its end, exactly one if it is over and was not stopped,
and with a report it has no VM. -/
structure EndsOnce (i : Instance) (s : MainLoop) (key : PodKey) (reports : Nat) : Prop where
  once : reports ≤ 1
  reported : i.ended s key → (∀ id ∈ i.task, id ∉ s.stopped) → reports = 1
  vm : 0 < reports → ∀ id t, i.task = some id → s.tasks[id]? = some t → t.vm ≠ .running

end Instance

/-- Of the reports about the latest instance, one may still be on its way. -/
structure MainLoop.EndsOnce (s : MainLoop) : Prop where
  latest : ∀ key i earlier, Instance.ofTrace key s.trace = i :: earlier →
    i.EndsOnce s key (i.told.length + s.onTheWay key)
  earlier : ∀ key i earlier, Instance.ofTrace key s.trace = i :: earlier →
    ∀ j ∈ earlier, j.EndsOnce s key j.told.length

namespace Supervisor

variable {t t' : Supervisor}

/-- The report of the end is the last event that a supervisor sends, and its VM is gone by then. -/
structure Shaped (t : Supervisor) : Prop where
  silent : t.stage ≠ .returning → ∀ event ∈ t.outbox, event.ends = none
  last : t.stage = .returning → t.outbox ≠ [] → ∃ events event, t.outbox = events ++ [event] ∧
    event.ends = some t.key ∧ ∀ event ∈ events, event.ends = none
  vm : t.stage = .returning → t.vm ≠ .running

inductive Status where
  | running
  | finished
  | aborted
deriving DecidableEq

def status (t : Supervisor) : Status :=
  if t.stage.isAborted then .aborted else if t.finished then .finished else .running

theorem status_finished : t.status = .finished ↔ t.finished := by
  unfold status
  split
  · rename_i ha
    refine iff_of_false nofun (fun hf => ?_)
    rw [hf.1] at ha
    cases ha
  · simp

theorem status_running : t.status = .running ↔ ¬ t.ended := by
  unfold status ended
  split
  · simp [*]
  · simp [*]

/-- What those who wait for the task see of it. -/
def face (t : Supervisor) : PodKey × Status := (t.key,t.status)

theorem Moved.face (h : t.Moved t') : t'.face = t.face := by
  cases h with
  | launched | vmDied => rfl
  | _ => simp [*,Supervisor.face,status,finished,Stage.isAborted]

theorem Moved.shaped (h : t.Moved t') (ht : t.Shaped) : t'.Shaped := by
  cases h with
  | launched hs hv =>
    refine ⟨ht.silent,ht.last,fun hret => ?_⟩
    cases hs.symm.trans hret
  | vmDied hv => exact ⟨ht.silent,ht.last,by simp⟩
  | dropped hs => exact ⟨fun _ => ht.silent (by simp [hs]),by simp,by simp⟩
  | logged hs ho hv he => exact ⟨by simpa using fun _ => he,by simp [hs],by simp [hs]⟩
  | ready hs ho | requested hs ho hr => exact ⟨by simp [WorkerEvent.ends],by simp,by simp⟩
  | watched hs ho he | broken hs ho he => exact ⟨fun _ => he,by simp,by simp⟩
  | failed hs hend | closed hs ho hend =>
    exact ⟨by simp,fun _ _ => ⟨[],_,rfl,hend,by simp⟩,by simp⟩
  | suspended events hs ho he hend => exact ⟨by simp,fun _ _ => ⟨events,_,rfl,hend,he⟩,by simp⟩

/-- What is sent before the report changes nothing. -/
theorem Shaped.sent (h : t.Shaped) (ho : t.outbox = event :: rest) : (t.sent rest).Shaped ∧
    (event.ends = none ∧ (t.sent rest).face = t.face ∨
      event.ends = some t.key ∧ t.stage = .returning ∧ rest = []) := by
  by_cases hret : t.stage = .returning
  · obtain ⟨events,last,hout,hlast,hevents⟩ := h.last hret (by simp [ho])
    rw [ho] at hout
    cases events with
    | nil =>
      cases hout
      exact ⟨⟨by simp [Supervisor.sent],by simp [Supervisor.sent],h.vm⟩,.inr ⟨hlast,hret,rfl⟩⟩
    | cons event' events =>
      cases hout
      obtain ⟨he,hevents⟩ := forall_mem_cons.mp hevents
      refine ⟨⟨by simp [Supervisor.sent,hret],fun _ _ => ⟨events,last,rfl,hlast,hevents⟩,h.vm⟩,
        .inl ⟨he,?_⟩⟩
      simp [Supervisor.face,status,finished,Supervisor.sent,ho]
  · obtain ⟨he,hrest⟩ := forall_mem_cons.mp (ho ▸ h.silent hret)
    refine ⟨⟨fun _ => hrest,fun h => absurd h hret,fun h => absurd h hret⟩,.inl ⟨he,?_⟩⟩
    simp [face,status,finished,Supervisor.sent,hret]

end Supervisor

/-- The task of the latest instance. -/
def Instance.latest (instances : List Instance) : Option (Option Nat) :=
  instances.head?.map Instance.task

/-- What there is of one pod: its entry in the table, its tasks and its instances, and the reports
of its end that are on their way and that the loop is about to send. The loop waits for the tasks
`awaited`, of this and of other pods. -/
structure PodView where
  entry : Option Nat
  tasks : Nat → Option Status
  awaited : List Nat
  stopped : List Nat
  instances : List Instance
  onTheWay : Nat
  reporting : Nat

namespace PodView

open Instance

/-- Where the one report about an instance is: given or on its way, or still to come. Only an
instance that was stopped may do without. -/
def Counted (v : PodView) (task : Option Nat) (reports reporting : Nat) : Prop :=
  match task with
  | some id => ∃ status, v.tasks id = some status ∧ (status = .aborted → id ∈ v.stopped) ∧
    reports = if status = .finished then 1 else 0
  | none => reports + reporting = 1

/-- An instance that another one has followed. -/
def Closed (v : PodView) (i : Instance) : Prop :=
  v.Counted i.task i.told.length 0 ∧ ∀ id ∈ i.task, v.tasks id ≠ some .running

/-- The loop reports no end and waits for no task. -/
def Idle (v : PodView) : Prop := v.reporting = 0 ∧ v.awaited = []

structure Sound (v : PodView) : Prop where
  entry : ∀ id, v.entry = some id → latest v.instances = some (some id) ∧ id ∉ v.awaited ∧
    ∃ status, v.tasks id = some status ∧ status ≠ .aborted
  running : ∀ id, v.tasks id = some .running →
    latest v.instances = some (some id) ∧ (v.entry = some id ∨ id ∈ v.awaited)
  awaited : ∀ id ∈ v.awaited, ∀ status, v.tasks id = some status →
    status = .finished ∨ id ∈ v.stopped
  instances : ∀ i earlier, v.instances = i :: earlier →
    v.Counted i.task (i.told.length + v.onTheWay) v.reporting ∧ ∀ j ∈ earlier, v.Closed j
  reports : v.reporting ≠ 0 → latest v.instances = some none

variable {v v' : PodView} {instances : List Instance} {task : Option Nat} {id reports now : Nat}
  {i : Instance}

theorem exists_of_latest (h : latest instances = some task) :
    ∃ told earlier, instances = ⟨task,told⟩ :: earlier := by
  cases instances with
  | nil => cases h
  | cons i earlier =>
    cases h
    exact ⟨i.told,earlier,rfl⟩

theorem Counted.mono (h : v.Counted task reports now) (hstopped : ∀ id ∈ v.stopped, id ∈ v'.stopped)
    (ht : ∀ id ∈ task, v.tasks id ≠ none → v'.tasks id = v.tasks id) :
    v'.Counted task reports now := by
  cases task with
  | none => exact h
  | some id =>
    obtain ⟨status,hget,ha,hc⟩ := h
    exact ⟨status,(ht id rfl (by simp [hget])).trans hget,fun h => hstopped id (ha h),hc⟩

theorem Closed.mono (h : v.Closed i) (hstopped : ∀ id ∈ v.stopped, id ∈ v'.stopped)
    (ht : ∀ id ∈ i.task, v.tasks id ≠ none → v'.tasks id = v.tasks id) : v'.Closed i := by
  refine ⟨h.1.mono hstopped ht,fun id hid => ?_⟩
  obtain ⟨status,hget,-⟩ := (hid ▸ h.1 : v.Counted (some id) _ _)
  rw [ht id hid (by simp [hget])]
  exact h.2 id hid

namespace Sound

/-- The entry may go, and the loop waits for other tasks. -/
theorem change (h : v.Sound) {entry : Option Nat} {awaited stopped : List Nat}
    (hstopped : ∀ id ∈ v.stopped, id ∈ stopped)
    (hentry : ∀ id ∈ entry, v.entry = some id ∧ id ∉ awaited)
    (hrunning : ∀ id, v.tasks id = some .running → v.entry = some id ∨ id ∈ v.awaited →
      entry = some id ∨ id ∈ awaited)
    (hawaited : ∀ id ∈ awaited, ∀ status, v.tasks id = some status →
      status = .finished ∨ id ∈ stopped) :
    Sound { v with entry := entry, awaited := awaited, stopped := stopped } := by
  refine ⟨fun id hid => ?_,fun id hrun => ?_,hawaited,fun i earlier hi => ?_,h.reports⟩
  · obtain ⟨hold,hnot⟩ := hentry id hid
    obtain ⟨hlatest,-,htask⟩ := h.entry id hold
    exact ⟨hlatest,hnot,htask⟩
  · obtain ⟨hlatest,hwhere⟩ := h.running id hrun
    exact ⟨hlatest,hrunning id hrun hwhere⟩
  · obtain ⟨hc,hclosed⟩ := h.instances i earlier hi
    exact ⟨hc.mono hstopped (fun _ _ _ => rfl),
      fun j hj => (hclosed j hj).mono hstopped (fun _ _ _ => rfl)⟩

/-- A running task comes to its end: with the report that it sends last, or aborted. -/
theorem settle (h : v.Sound) (hrun : v.tasks id = some .running) {status : Status} {way : Nat}
    (hover : status = .finished ∧ way = v.onTheWay + 1 ∨
      status = .aborted ∧ id ∈ v.awaited ∧ way = v.onTheWay) : Sound { v with
        tasks := Function.update v.tasks id (some status), onTheWay := way } := by
  obtain ⟨hlatest,hwhere⟩ := h.running id hrun
  obtain ⟨told,before,htrace⟩ := exists_of_latest hlatest
  have hstop : id ∈ v.awaited → id ∈ v.stopped :=
    fun hid => (h.awaited id hid _ hrun).resolve_left nofun
  constructor
  case entry => grind [h.entry,Function.update_apply]
  case running => grind [h.running,Function.update_apply]
  case awaited => grind [h.awaited,Function.update_apply]
  case instances =>
    intro i earlier hi
    cases htrace.symm.trans hi
    obtain ⟨⟨status',hget,-,hzero⟩,hclosed⟩ := h.instances _ _ htrace
    cases hrun.symm.trans hget
    refine ⟨⟨status,Function.update_self ..,?_,?_⟩,fun j hj => ?_⟩
    · rintro rfl
      exact hstop (hover.elim nofun (·.2.1))
    · grind
    · refine (hclosed j hj).mono (fun _ hk => hk) (fun k hk _ => Function.update_of_ne ?_ _ _)
      rintro rfl
      exact (hclosed j hj).2 k hk hrun
  case reports => exact h.reports

/-- With a report on its way no task runs. -/
theorem none_running (h : v.Sound) (hway : v.onTheWay ≠ 0) : v.tasks id ≠ some .running := by
  intro hrun
  obtain ⟨told,before,htrace⟩ := exists_of_latest (h.running id hrun).1
  obtain ⟨⟨status,hget,-,hzero⟩,-⟩ := h.instances _ _ htrace
  cases hrun.symm.trans hget
  exact hway (Nat.add_eq_zero_iff.mp hzero).2

/-- The report of an end is given, and the pod goes. -/
theorem told (h : v.Sound) (hidle : v.Idle) (hway : v.onTheWay = way + 1) : Sound { v with
      entry := none, instances := Instance.tell event v.instances, onTheWay := way } := by
  refine ⟨nofun,fun id hrun => absurd hrun (h.none_running (by simp [hway])),h.awaited,
    fun i earlier hi => ?_,fun hr => absurd hidle.1 hr⟩
  cases hold : v.instances with
  | nil => simp [hold,Instance.tell] at hi
  | cons latest earlier =>
    simp only [hold,Instance.tell] at hi
    cases hi
    obtain ⟨hc,hclosed⟩ := h.instances _ _ hold
    refine ⟨?_,hclosed⟩
    rw [length_append,length_singleton,Nat.add_assoc,Nat.add_comm 1,← hway]
    exact hc

/-- The loop sends the report of a pod that could not be started. -/
theorem sent (h : v.Sound) (hr : v.reporting = 1) :
    Sound { v with onTheWay := v.onTheWay + 1, reporting := 0 } := by
  refine ⟨h.entry,h.running,h.awaited,fun i earlier hi => ?_,nofun⟩
  obtain ⟨told,before,htrace⟩ := exists_of_latest (h.reports (by simp [hr]))
  cases htrace.symm.trans hi
  obtain ⟨hc,hclosed⟩ := h.instances _ _ htrace
  rw [hr] at hc
  exact ⟨hc,hclosed⟩

/-- A pod is launched where there is none: with a task, or with the report that there is none. -/
theorem launch (h : v.Sound) (hidle : v.Idle) (hentry : v.entry = none) (hway : v.onTheWay = 0)
    (hnew : ∀ id ∈ task, v.tasks id = none) : Sound { v with
      entry := task
      tasks := fun id => if task = some id then some .running else v.tasks id
      instances := ⟨task,[]⟩ :: v.instances
      reporting := if task = none then 1 else 0 } := by
  obtain ⟨hzero,hselect⟩ := hidle
  have still : ∀ id, v.tasks id ≠ some .running := by
    intro id hrun
    have hwhere := (h.running id hrun).2
    simp [hentry,hselect] at hwhere
  have keeps : ∀ id, v.tasks id ≠ none →
      (if task = some id then some .running else v.tasks id) = v.tasks id :=
    fun id hget => if_neg (fun hid => hget (hnew id hid))
  constructor
  case entry =>
    rintro id rfl
    exact ⟨rfl,by simp [hselect],_,if_pos rfl,nofun⟩
  case running => grind [latest]
  case awaited => simp [hselect]
  case instances =>
    rintro i earlier ⟨⟩
    refine ⟨?_,fun j hj => Closed.mono (v := v) ?_ (fun _ hk => hk) (fun id _ => keeps id)⟩
    · cases task with
      | none => simp [Counted,hway]
      | some id => exact ⟨_,if_pos rfl,nofun,by simp [hway]⟩
    · cases hold : v.instances with
      | nil => simp [hold] at hj
      | cons latest earlier =>
        obtain ⟨hc,hclosed⟩ := h.instances _ _ hold
        rcases mem_cons.mp (hold ▸ hj) with rfl | hj
        · rw [hway,hzero] at hc
          exact ⟨hc,fun id _ => still id⟩
        · exact hclosed j hj
  case reports => grind [latest]

end Sound

end PodView

namespace MainLoop

variable {s s' : MainLoop} {key : PodKey} {event : WorkerEvent} {id : Nat} {t t' : Supervisor}
  {main : Main} {namespaces : Table NamespaceId NamespaceState}

def view (s : MainLoop) (key : PodKey) : PodView where
  entry := s.taskOf key
  tasks id := (((s.tasks[id]?).map face).filter (·.1 = key)).map Prod.snd
  awaited := s.main.awaited
  stopped := s.stopped
  instances := Instance.ofTrace key s.trace
  onTheWay := s.onTheWay key
  reporting := if s.main.reports = some key then 1 else 0

structure Sound (s : MainLoop) : Prop where
  shaped : ∀ t ∈ s.tasks, t.Shaped
  pods : ∀ key, (s.view key).Sound

theorem view_tasks : (s.view key).tasks id = some x ↔
    ∃ t, s.tasks[id]? = some t ∧ t.key = key ∧ t.status = x := by
  simp only [view,Option.map_eq_some_iff,Option.filter_eq_some_iff]
  constructor
  · rintro ⟨_,⟨⟨t,hget,rfl⟩,hkey⟩,rfl⟩
    exact ⟨t,hget,of_decide_eq_true hkey,rfl⟩
  · rintro ⟨t,hget,hkey,rfl⟩
    exact ⟨t.face,⟨⟨t,hget,rfl⟩,decide_eq_true hkey⟩,rfl⟩

theorem Sound.one_report (h : s.Sound) {i : Instance}
    (hc : (s.view key).Counted i.task reports now) (hnow : s.main.reports ≠ some key → now = 0) :
    i.EndsOnce s key reports := by
  obtain ⟨task,told⟩ := i
  cases task with
  | none =>
    have hc : reports + now = 1 := hc
    refine ⟨by omega,fun hover _ => ?_,fun _ id t hid => nomatch hid⟩
    rw [hnow hover] at hc
    exact hc
  | some id =>
    obtain ⟨x,hx,ha,rfl⟩ := hc
    obtain ⟨t,hget,-,rfl⟩ := view_tasks.mp hx
    refine ⟨by split <;> omega,?_,?_⟩
    · rintro ⟨t',hget',hover⟩ hnot
      cases hget.symm.trans hget'
      cases hs : t.status with
      | running => exact absurd hover (status_running.mp hs)
      | finished => rfl
      | aborted => exact absurd (ha hs) (hnot id rfl)
    · intro hpos id' t' hid' hget'
      cases hid'
      cases hget.symm.trans hget'
      split at hpos
      · exact (h.shaped t (mem_of_getElem? hget)).vm (status_finished.mp ‹_›).1
      · cases hpos

theorem Sound.endsOnce (h : s.Sound) : s.EndsOnce where
  latest key i earlier htrace :=
    h.one_report ((h.pods key).instances i earlier htrace).1 (fun hr => if_neg hr)
  earlier key i earlier htrace j hj :=
    h.one_report (((h.pods key).instances i earlier htrace).2 j hj).1 (fun _ => rfl)

theorem taskOf_insert (h : s'.namespaces = s.namespaces.insert namespaceId ns) (key : PodKey) :
    s'.taskOf key = if key.1 = namespaceId then ns.pods.lookup key.2 else s.taskOf key := by
  unfold taskOf
  rw [h,lookup_insert_if]
  split <;> rfl

/-- A namespace is written with the pods that it had. -/
theorem taskOf_same (h : s'.namespaces = s.namespaces.insert namespaceId ns)
    (hpods : ∀ podId, ns.pods.lookup podId = s.taskOf (namespaceId,podId)) (key : PodKey) :
    s'.taskOf key = s.taskOf key := by
  rw [taskOf_insert h]
  split
  · rename_i heq
    rw [hpods,← heq]
  · rfl

/-- One pod of a namespace is written. -/
theorem taskOf_pod (hns : s.namespaces.lookup key.1 = some ns)
    (h : s'.namespaces = s.namespaces.insert key.1 ns')
    (hpods : ∀ podId, ns'.pods.lookup podId = if podId = key.2 then task else ns.pods.lookup podId)
    (key' : PodKey) : s'.taskOf key' = if key' = key then task else s.taskOf key' := by
  rw [taskOf_insert h,hpods]
  obtain ⟨namespaceId,podId⟩ := key'
  by_cases hid : namespaceId = key.1
  · subst hid
    simp [Prod.ext_iff,taskOf,hns]
  · simp [Prod.ext_iff,hid]

theorem taskOf_removePod (s : MainLoop) (key key' : PodKey) :
    (s.removePod key).taskOf key' = if key' = key then none else s.taskOf key' := by
  unfold removePod
  split
  · rename_i ns hns
    exact taskOf_pod hns rfl (fun podId => lookup_erase_if) key'
  · rename_i hns
    split
    · rename_i heq
      subst heq
      simp [taskOf,hns]
    · rfl

theorem removePod_eq (s : MainLoop) (key : PodKey) :
    ∃ namespaces, s.removePod key = { s with namespaces := namespaces } := by
  unfold removePod
  split
  · exact ⟨_,rfl⟩
  · exact ⟨s.namespaces,rfl⟩

theorem face_set (hget : s.tasks[id]? = some t) (j : Nat) :
    ((s.tasks.set id t')[j]?).map face =
      if j = id then some t'.face else (s.tasks[j]?).map face := by
  obtain ⟨hlt,-⟩ := List.getElem?_eq_some_iff.mp hget
  rw [getElem?_set]
  split
  · rename_i hj
    rw [if_pos hj.symm]
    rfl
  · rename_i hj
    rw [if_neg (Ne.symm hj)]

namespace Sound

/-- Nothing that concerns a pod is changed. -/
theorem same (h : s.Sound) (hshaped : ∀ t ∈ s'.tasks, t.Shaped)
    (hview : ∀ key, s'.view key = s.view key) : s'.Sound :=
  ⟨hshaped,fun key => hview key ▸ h.pods key⟩

theorem set (h : s.Sound) (hget : s.tasks[id]? = some t) (hshaped : t'.Shaped)
    (hface : t'.face = t.face) : Sound { s with tasks := s.tasks.set id t' } := by
  refine h.same (fun u hu => ?_) (fun key => ?_)
  · rcases mem_or_eq_of_mem_set hu with hu | rfl
    · exact h.shaped u hu
    · exact hshaped
  · have hsame : ∀ j : Nat, ((s.tasks.set id t')[j]?).map face = (s.tasks[j]?).map face := by
      intro j
      rw [face_set hget]
      split
      · rename_i hj
        rw [hj,hget,hface]
        rfl
      · rfl
    simp only [view,hsame]
    rfl

theorem cancel (h : s.Sound) (p : Nat → Supervisor → Bool) : (s.cancel p).Sound := by
  have hsame : ∀ i t, face (if p i t then { t with cancelled := true } else t) = t.face := by
    intro i t
    split <;> rfl
  refine h.same (fun u hu => ?_) (fun key => ?_)
  · obtain ⟨i,hi,rfl⟩ := mem_mapIdx.mp hu
    have hold := h.shaped _ (getElem_mem hi)
    split
    · exact ⟨hold.silent,hold.last,hold.vm⟩
    · exact hold
  · simp only [view,MainLoop.cancel,getElem?_mapIdx,Option.map_map,Function.comp_def,hsame]
    rfl

/-- An event that reports no end. -/
theorem push (h : s.Sound) (he : event.ends = none) :
    Sound { s with channel := s.channel ++ [event] } :=
  h.same h.shaped (fun key => by simp [view,onTheWay,taskOf,he])

theorem trySend (h : s.Sound) (he : event.ends = none) : (s.trySend event).Sound := by
  unfold MainLoop.trySend
  split
  · exact h.push he
  · exact h

/-- The loop waits for other tasks, and pods may be taken from the table. -/
theorem wait (h : s.Sound) {stopped : List Nat} (hreports : main.reports = s.main.reports)
    (hstopped : ∀ id ∈ s.stopped, id ∈ stopped)
    (hentry : ∀ key id, taskOf { s with namespaces := namespaces } key = some id →
      s.taskOf key = some id ∧ id ∉ main.awaited)
    (hrunning : ∀ id t, s.tasks[id]? = some t → ¬ t.ended →
      s.taskOf t.key = some id ∨ id ∈ s.main.awaited →
      taskOf { s with namespaces := namespaces } t.key = some id ∨ id ∈ main.awaited)
    (hawaited : ∀ id ∈ main.awaited, ∀ t, s.tasks[id]? = some t → t.finished ∨ id ∈ stopped) :
    Sound { s with main := main, namespaces := namespaces, stopped := stopped } := by
  refine ⟨h.shaped,fun key => ?_⟩
  have hview : view { s with main := main, namespaces := namespaces, stopped := stopped } key =
      { s.view key with
        entry := taskOf { s with namespaces := namespaces } key
        awaited := main.awaited
        stopped := stopped } := by
    simp only [view,hreports]
    rfl
  rw [hview]
  refine (h.pods key).change hstopped (hentry key) (fun id hrun => ?_) (fun id hid status hx => ?_)
  · obtain ⟨t,hget,rfl,ht⟩ := view_tasks.mp hrun
    exact hrunning id t hget (status_running.mp ht)
  · obtain ⟨t,hget,-,rfl⟩ := view_tasks.mp hx
    exact (hawaited id hid t hget).imp_left status_finished.mpr

/-- A running task comes to its end: with the report that it sends last, or aborted. -/
theorem settle (h : s.Sound) (hget : s.tasks[id]? = some t) (hrun : ¬ t.ended)
    (hs : s' = { s with tasks := s.tasks.set id t', channel := queue })
    (hkey : t'.key = t.key) (hshaped : t'.Shaped)
    (hover : t'.status = .finished ∧ (∀ key, queue.countP (·.ends = some key) = s.onTheWay key +
        if key = t.key then 1 else 0) ∨
      t'.status = .aborted ∧ id ∈ s.main.awaited ∧ queue = s.channel) : s'.Sound := by
  refine ⟨fun u hu => ?_,fun key => ?_⟩
  · rw [hs] at hu
    rcases mem_or_eq_of_mem_set hu with hu | rfl
    · exact h.shaped u hu
    · exact hshaped
  by_cases hk : key = t.key
  · subst hk
    have hview : s'.view t.key = { s.view t.key with
        tasks := Function.update (s.view t.key).tasks id (some t'.status)
        onTheWay := queue.countP (·.ends = some t.key) } := by
      simp only [hs,view,face_set hget]
      congr 1
      funext j
      rw [Function.update_apply]
      split
      · simp [*,face,Option.filter]
      · rfl
    rw [hview]
    refine (h.pods t.key).settle (view_tasks.mpr ⟨t,hget,rfl,status_running.mpr hrun⟩) ?_
    rcases hover with ⟨hover,hway⟩ | ⟨hover,hid,rfl⟩
    · exact .inl ⟨hover,by simp [hway,view]⟩
    · exact .inr ⟨hover,hid,rfl⟩
  · have hway : queue.countP (·.ends = some key) = s.onTheWay key := by
      rcases hover with ⟨-,hway⟩ | ⟨-,-,rfl⟩
      · rw [hway,if_neg hk,Nat.add_zero]
      · rfl
    have hview : s'.view key = s.view key := by
      simp only [hs,view,face_set hget,onTheWay,hway]
      congr 1
      funext j
      split
      · simp [*,face,Option.filter,Ne.symm hk]
      · rfl
    exact hview ▸ h.pods key

theorem sendOf (h : s.Sound) (hs : s.sendOf id = some s') : s'.Sound := by
  obtain ⟨t,event,rest,hget,ho,-,rfl⟩ := sendOf_some hs
  obtain ⟨hshaped,⟨he,hface⟩ | ⟨he,hret,rfl⟩⟩ := (h.shaped t (mem_of_getElem? hget)).sent ho
  · exact (h.set hget hshaped hface).push he
  · have hrun : ¬ t.ended := by
      simp [ended,finished,hret,ho,Stage.isAborted]
    refine h.settle hget hrun rfl rfl hshaped (.inl ⟨status_finished.mpr ⟨hret,rfl⟩,fun key => ?_⟩)
    simp [countP_append,onTheWay,he,eq_comm]

/-- The handler sends its event, perhaps the report of a pod that could not be started. -/
theorem sendReport (h : s.Sound) (hmain : s.main = .sending event) :
    Sound { s with main := .select, channel := s.channel ++ [event] } := by
  refine ⟨h.shaped,fun key => ?_⟩
  have hview : view { s with main := .select, channel := s.channel ++ [event] } key =
      { s.view key with
        onTheWay := s.onTheWay key + if event.ends = some key then 1 else 0, reporting := 0 } := by
    simp only [view,hmain,Main.awaited,onTheWay,countP_append]
    simp [countP_cons,Main.reports,taskOf]
  have hreports : (s.view key).reporting = if event.ends = some key then 1 else 0 := by
    simp [view,hmain,Main.reports]
  rw [hview]
  split
  · rename_i he
    exact (h.pods key).sent (by rw [hreports,if_pos he])
  · rename_i he
    rw [if_neg he] at hreports
    rw [Nat.add_zero,← hreports]
    exact h.pods key

end Sound

theorem abort_one (hget : s.tasks[id]? = some t) :
    s.abort [id] = { s with tasks := s.tasks.set id t.abort } := by
  unfold abort
  congr 1
  apply ext_getElem?
  intro j
  rw [getElem?_mapIdx,getElem?_set]
  by_cases hj : id = j
  · subst hj
    obtain ⟨hlt,-⟩ := List.getElem?_eq_some_iff.mp hget
    rw [hget,if_pos rfl,if_pos hlt]
    simp
  · have : ¬ j ∈ [id] := by simpa using Ne.symm hj
    simp [this,hj]

/-- Tasks that are over cannot be aborted. -/
theorem abort_ended (h : ∀ id ∈ ids, ∀ t, s.tasks[id]? = some t → t.ended) : s.abort ids = s := by
  have htasks : s.tasks.mapIdx (fun i t => if i ∈ ids then t.abort else t) = s.tasks := by
    apply ext_getElem?
    intro j
    rw [getElem?_mapIdx]
    cases hget : s.tasks[j]? with
    | none => rfl
    | some t =>
      simp only [Option.map_some]
      split
      · rw [Supervisor.abort,if_pos (h j ‹_› t hget)]
      · rfl
  unfold abort
  rw [htasks]

namespace Sound

variable {found : Found}

/-- A task that the loop has waited for long enough is aborted. -/
theorem abortAwaited (h : s.Sound) (hid : id ∈ s.main.awaited) : (s.abort [id]).Sound := by
  cases hget : s.tasks[id]? with
  | none =>
    rw [abort_ended (by simp [hget])]
    exact h
  | some t =>
    by_cases hover : t.ended
    · rw [abort_ended (by simp [hget,hover])]
      exact h
    · rw [abort_one hget,Supervisor.abort,if_neg hover]
      exact h.settle hget hover rfl rfl ⟨by simp,by simp,by simp⟩ (.inr ⟨rfl,hid,rfl⟩)

/-- The loop goes on, with no more tasks to wait for than before. -/
theorem goOn (h : s.Sound) (hreports : main.reports = s.main.reports)
    (hrun : ∀ id ∈ s.main.awaited, ∀ t, s.tasks[id]? = some t → ¬ t.ended → id ∈ main.awaited)
    (hawaited : ∀ id ∈ main.awaited, id ∈ s.main.awaited) : Sound { s with main := main } := by
  refine h.wait hreports (fun _ hs => hs) (fun key id hid => ⟨hid,fun hm => ?_⟩)
    (fun id t hget hover => Or.imp_right (fun hid => hrun id hid t hget hover))
    (fun id hid t hget => ?_)
  · exact ((h.pods key).entry id hid).2.1 (hawaited id hm)
  · exact ((h.pods t.key).awaited id (hawaited id hid) _ (view_tasks.mpr ⟨t,hget,rfl,rfl⟩)).imp_left
      status_finished.mp

theorem proceed (h : s.Sound) (hs : s.proceed = some s') : s'.Sound := by
  -- a task that has been joined is over
  have joined : ∀ {id : Nat}, (s.tasks[id]?).any (fun t => decide t.joined) = true →
      ∀ t, s.tasks[id]? = some t → t.ended := by
    intro id hj t hget
    rw [hget] at hj
    rcases of_decide_eq_true hj with hs | hf
    · exact .inl (by rw [hs]; rfl)
    · exact .inr hf
  have next : ∀ {id : Nat} {main : Main}, (s.tasks[id]?).any (fun t => decide t.joined) = true →
      main.reports = s.main.reports → s.main.awaited = id :: main.awaited →
      Sound { s with main := main } := by
    intro id main hj hreports hawaited
    refine h.goOn hreports ?_ (fun j hj => hawaited ▸ mem_cons_of_mem _ hj)
    rw [hawaited]
    intro j hmem t hget hrun
    rcases mem_cons.mp hmem with rfl | hmem
    · exact absurd (joined hj t hget) hrun
    · exact hmem
  unfold MainLoop.proceed at hs
  split at hs <;> rename_i hmain
  · obtain ⟨-,rfl⟩ := sendEvent_some hs
    exact h.sendReport hmain
  · split at hs <;> cases hs
    exact next ‹_› (by rw [hmain]; rfl) (by rw [hmain]; rfl)
  · obtain ⟨-,rfl⟩ := sendEvent_some hs
    refine Sound.push (s := { s with main := .select }) (h.goOn ?_ ?_ ?_) rfl
    · rw [hmain]
      rfl
    · simp [hmain,Main.awaited]
    · simp [Main.awaited]
  · split at hs <;> cases hs
    exact next ‹_› (by rw [hmain]; rfl) (by rw [hmain]; rfl)
  · split at hs <;> cases hs
    exact h.goOn (by rw [hmain]; rfl) (by simp [hmain,Main.awaited]) (by simp [Main.awaited])
  · cases hs
    exact h.goOn (by rw [hmain]; rfl) (by simp [hmain,Main.awaited]) (by simp [Main.awaited])
  · split at hs <;> cases hs
    exact next ‹_› (by rw [hmain]; rfl) (by rw [hmain]; rfl)
  · cases hs
  · cases hs

theorem timeOut (h : s.Sound) (hs : s.timeOut = some s') : s'.Sound := by
  -- the aborted task is over, so the loop need not wait for it
  have aborted : ∀ {id : Nat} {main : Main}, id ∈ s.main.awaited →
      main.reports = s.main.reports → (∀ j ∈ s.main.awaited, j ≠ id → j ∈ main.awaited) →
      (∀ j ∈ main.awaited, j ∈ s.main.awaited) →
      Sound { s.abort [id] with main := main } := by
    intro id main hid hreports hrest hsub
    refine (h.abortAwaited hid).goOn hreports (fun j hj t hget hover => ?_) hsub
    refine hrest j hj (fun hj => hover ?_)
    subst hj
    simp only [abort,getElem?_mapIdx] at hget
    obtain ⟨u,-,rfl⟩ := Option.map_eq_some_iff.mp hget
    rw [if_pos (mem_singleton_self j),Supervisor.abort]
    split
    · assumption
    · exact .inl rfl
  unfold MainLoop.timeOut at hs
  split at hs <;> cases hs <;> rename_i hmain
  · exact aborted (by simp [hmain,Main.awaited]) (by simp [hmain,Main.reports])
      (by simp [hmain,Main.awaited]) (by simp [Main.awaited])
  all_goals
    refine aborted (by simp [hmain,Main.awaited]) (by simp [hmain,Main.reports]) ?_ ?_
    · simp only [hmain,Main.awaited,mem_cons]
      exact fun j hj hne => hj.resolve_left hne
    · simp only [hmain,Main.awaited,mem_cons]
      exact fun j hj => .inr hj

theorem idle (hmain : s.main = .select) (key : PodKey) : (s.view key).Idle := by
  simp [PodView.Idle,view,hmain,Main.reports,Main.awaited]

/-- An event is taken from the channel, and the pod whose end it reports goes. -/
theorem taken (h : s.Sound) (hmain : s.main = .select) (hchannel : s.channel = event :: rest)
    (hs : s' = { s with
      namespaces := namespaces, channel := rest, trace := .emitted event :: s.trace })
    (hentry : ∀ key, s'.taskOf key = if event.ends = some key then none else s.taskOf key) :
    s'.Sound := by
  refine ⟨hs ▸ h.shaped,fun key => ?_⟩
  by_cases he : event.ends = some key
  · have hview : s'.view key = { s.view key with
        entry := none
        instances := Instance.tell event (s.view key).instances
        onTheWay := rest.countP (·.ends = some key) } := by
      simp only [view,(hentry key).trans (if_pos he)]
      simp only [hs,Instance.ofTrace,if_pos he,onTheWay]
    rw [hview]
    exact (h.pods key).told (idle hmain key) (by simp [view,onTheWay,hchannel,he])
  · have hview : s'.view key = s.view key := by
      simp only [view,(hentry key).trans (if_neg he)]
      simp [hs,Instance.ofTrace,he,onTheWay,hchannel]
    exact hview ▸ h.pods key

/-- The task of a pod carries its name. -/
theorem entry_key (h : s.Sound) (hentry : s.taskOf key = some id) :
    ∃ t, s.tasks[id]? = some t ∧ t.key = key ∧ t.status ≠ .aborted := by
  obtain ⟨-,-,x,hx,ha⟩ := (h.pods key).entry id hentry
  obtain ⟨t,hget,hkey,rfl⟩ := view_tasks.mp hx
  exact ⟨t,hget,hkey,ha⟩

/-- A pod whose end is on its way has no task that runs. -/
theorem ended_of_onTheWay (h : s.Sound) (hentry : s.taskOf key = some id)
    (hway : 0 < s.onTheWay key) : ∀ t, s.tasks[id]? = some t → t.ended := by
  intro t hget
  obtain ⟨t',hget',hkey,-⟩ := h.entry_key hentry
  cases hget.symm.trans hget'
  by_contra hrun
  exact (h.pods key).none_running (Nat.ne_of_gt hway)
    (view_tasks.mpr ⟨t,hget,hkey,status_running.mpr hrun⟩)

theorem forward (h : s.Sound) (hmain : s.main = .select) (hchannel : s.channel = event :: rest) :
    (s.forward event rest).Sound := by
  unfold MainLoop.forward
  dsimp only
  split
  · rename_i key he
    obtain ⟨namespaces,hns⟩ := removePod_eq { s with
      channel := rest, trace := .emitted event :: s.trace } key
    have hentry := taskOf_removePod { s with
      channel := rest, trace := .emitted event :: s.trace } key
    rw [hns] at hentry ⊢
    rw [abort_ended]
    · refine h.taken hmain hchannel rfl (fun key' => (hentry key').trans ?_)
      simp [he,eq_comm,taskOf]
    · intro id hid
      refine h.ended_of_onTheWay (Option.mem_toList.mp hid) ?_
      simp [onTheWay,hchannel,he]
  · rename_i he
    exact h.taken hmain hchannel rfl (fun key' => by simp [he,taskOf])

/-- A pod is launched where there is none: with a task, or with the report that there is none. -/
theorem launch (h : s.Sound) (hmain : s.main = .select) (hvacant : s.Vacant key)
    (new : Option Supervisor) (htask : task = new.map (fun _ => s.tasks.length))
    (hnew : ∀ t ∈ new, t.face = (key,.running) ∧ t.Shaped) (hs : s' = { s with
      main := main
      namespaces := namespaces
      tasks := s.tasks ++ new.toList
      trace := .launched key task :: s.trace })
    (hentry : ∀ key', s'.taskOf key' = if key' = key then task else s.taskOf key')
    (hawaited : main.awaited = [])
    (hreports : ∀ key', main.reports = some key' ↔ task = none ∧ key' = key) : s'.Sound := by
  have hfresh : ∀ id : Nat, task = some id → s.tasks[id]? = none := by
    intro id hid
    rw [htask] at hid
    obtain ⟨_,-,rfl⟩ := Option.map_eq_some_iff.mp hid
    simp
  have hselect : Main.select.awaited = [] := rfl
  have hface : ∀ id : Nat, ((s.tasks ++ new.toList)[id]?).map face =
      if task = some id then some (key,.running) else (s.tasks[id]?).map face := by
    intro id
    cases new with
    | none => simp [htask]
    | some t =>
      obtain ⟨ht,-⟩ := hnew t rfl
      simp only [htask,Option.map_some,Option.toList_some,Option.some.injEq]
      split
      · rename_i hid
        simp [← hid,ht]
      · grind
  refine ⟨fun t ht => ?_,fun key' => ?_⟩
  · rw [hs] at ht
    rcases mem_append.mp ht with ht | ht
    · exact h.shaped t ht
    · exact (hnew t (Option.mem_toList.mp ht)).2
  by_cases hk : key' = key
  · subst hk
    have hview : s'.view key' = { s.view key' with
        entry := task
        tasks := fun id => if task = some id then some .running else (s.view key').tasks id
        instances := ⟨task,[]⟩ :: (s.view key').instances
        reporting := if task = none then 1 else 0 } := by
      simp only [view,(hentry key').trans (if_pos rfl)]
      simp only [hs,hface,hreports,Instance.ofTrace,hmain,and_true,if_true,hawaited,hselect]
      congr 1
      funext id
      split <;> simp [Option.filter]
    rw [hview]
    refine (h.pods key').launch (idle hmain key') hvacant.1 hvacant.2 (fun id hid => ?_)
    simp [view,hfresh id hid]
  · have hview : s'.view key' = s.view key' := by
      simp only [view,(hentry key').trans (if_neg hk)]
      simp only [hs,hface,hreports,Instance.ofTrace,hmain,if_neg (Ne.symm hk),hawaited,hselect]
      congr 1
      · funext id
        split
        · simp [Option.filter,Ne.symm hk,hfresh id ‹_›]
        · rfl
      · simp [Main.reports,hk]
    exact hview ▸ h.pods key'

theorem spawn (h : s.Sound) (hmain : s.main = .select) (hvacant : s.Vacant key)
    (hns : s.namespaces.lookup key.1 = some ns) (phase : Phase) : (s.spawn key phase ns).Sound := by
  have hnone : ns.pods.lookup key.2 = none := by
    have := hvacant.1
    simpa [taskOf,hns] using this
  unfold MainLoop.spawn launched
  rw [hnone,abort_ended (by simp)]
  refine h.launch hmain hvacant (some { key, stage := .setup phase, cancelled := ns.cancelled })
    rfl ?_ rfl (taskOf_pod hns rfl (fun podId => lookup_insert_if))
    (by simp [hmain,Main.awaited]) (by simp [hmain,Main.reports])
  intro t ht
  cases ht
  refine ⟨?_,by simp,by simp,by simp⟩
  simp [face,status,finished,Stage.isAborted]

/-- A resume that fails before there is a task. -/
theorem failResume (h : s.Sound) (hmain : s.main = .select) (hvacant : s.Vacant key)
    (error : String) : (s.failResume key error).Sound := by
  unfold MainLoop.failResume launched
  rw [← append_nil s.tasks]
  refine h.launch hmain hvacant none rfl nofun rfl (fun key' => ?_) rfl (fun key' => ?_)
  · split
    · rename_i hkey
      subst hkey
      exact hvacant.1
    · rfl
  · exact ⟨fun hr => ⟨rfl,(Option.some.inj hr).symm⟩,fun hr => hr.2 ▸ rfl⟩

/-- The loop enters a handler that reports no end and waits for no task. -/
theorem enter (h : s.Sound) (hmain : s.main = .select) (hreports : main.reports = none)
    (hawaited : main.awaited = []) : Sound { s with main := main } :=
  h.goOn (by rw [hreports,hmain]; rfl) (by simp [hmain,Main.awaited]) (by simp [hawaited])

theorem reportDemand (h : s.Sound) (found : Found) (namespaceId : NamespaceId) :
    (s.reportDemand found namespaceId).Sound := by
  unfold MainLoop.reportDemand
  induction found.demand generalizing s with
  | nil => exact h
  | cons demand demands ih => exact ih (h.trySend rfl)

/-- The pods of the namespaces stay the same. -/
theorem rename (h : s.Sound)
    (hentry : ∀ key, taskOf { s with namespaces := namespaces } key = s.taskOf key) :
    Sound { s with namespaces := namespaces } := by
  refine h.same h.shaped (fun key => ?_)
  rw [view,view,← hentry]
  rfl

theorem createNamespace (h : s.Sound) (hmain : s.main = .select) (hgateway : found.gateway = true)
    (hnew : namespaceId ∉ s.namespaces) : (s.handleCreateNamespace found namespaceId).Sound := by
  have hnone : s.namespaces.lookup namespaceId = none := lookup_eq_none.mpr hnew
  unfold handleCreateNamespace
  rw [if_pos hgateway,hnone]
  simp only [Option.elim_none]
  rw [abort_ended (by simp)]
  refine Sound.enter (s := { s with
    namespaces := s.namespaces.insert namespaceId ⟨∅,false,true⟩ }) (h.rename ?_) hmain rfl rfl
  exact taskOf_same rfl (fun podId => by simp [taskOf,hnone])

theorem mem_markStopped (hid : id ∈ ids) (hget : s.tasks[id]? = some t) :
    t.finished ∨ id ∈ (s.markStopped ids).stopped := by
  by_cases hf : t.finished
  · exact .inl hf
  · refine .inr (mem_append_left _ (mem_filter.mpr ⟨hid,?_⟩))
    simp [hget,hf]

/-- Pods are taken from the table, and the loop waits for their tasks. -/
theorem release (h : s.Sound) (hmain : s.main = .select) [DecidablePred gone] (ids : List Nat)
    (main : Main) (hreports : main.reports = none) (hawaited : main.awaited = ids)
    (hentry : ∀ key, taskOf { s with namespaces := namespaces } key =
      if gone key then none else s.taskOf key)
    (hids : ∀ id, id ∈ ids ↔ ∃ key, gone key ∧ s.taskOf key = some id) :
    Sound { s.markStopped ids with namespaces := namespaces, main := main } := by
  refine h.wait (by rw [hmain,hreports]; rfl) (fun id hid => mem_append_right _ hid)
    (fun key id hid => ?_) (fun id t _ _ hwhere => ?_)
    (fun id hid t hget => mem_markStopped (hawaited ▸ hid) hget)
  · have hid := (hentry key).symm.trans hid
    split at hid
    · cases hid
    · rename_i hne
      refine ⟨hid,fun hm => ?_⟩
      obtain ⟨key',hgone,hpod⟩ := (hids id).mp (hawaited ▸ hm)
      obtain ⟨t,hget,rfl,-⟩ := h.entry_key hid
      obtain ⟨t',hget',rfl,-⟩ := h.entry_key hpod
      cases hget.symm.trans hget'
      exact hne hgone
  · have hwhere : s.taskOf t.key = some id := hwhere.resolve_right (by simp [hmain,Main.awaited])
    by_cases hgone : gone t.key
    · exact .inr (hawaited ▸ (hids id).mpr ⟨t.key,hgone,hwhere⟩)
    · exact .inl ((hentry t.key).trans (by rwa [if_neg hgone]))

theorem destroyNamespace (h : s.Sound) (hmain : s.main = .select) (namespaceId : NamespaceId) :
    (s.handleDestroyNamespace namespaceId).Sound := by
  unfold handleDestroyNamespace
  split
  · rename_i ns hns
    have hentry : ∀ key, taskOf { s with
        namespaces := s.namespaces.erase namespaceId } key =
        if key.1 = namespaceId then none else s.taskOf key := by
      intro key
      unfold taskOf
      rw [lookup_erase_if]
      split <;> rfl
    refine (h.release hmain (podTasks ns) (.destroying namespaceId (podTasks ns)) rfl rfl hentry
      (fun id => ?_)).cancel _
    simp [podTasks,mem_map,mem_toList,taskOf,hns]
  · exact h

theorem stopPod (h : s.Sound) (hmain : s.main = .select) (hns : key.1 ∈ s.namespaces)
    (graceful : Bool) : (s.handleStopPod key graceful).Sound := by
  obtain ⟨ns,hns⟩ := mem_iff.mp hns
  unfold handleStopPod
  rw [hns]
  dsimp only
  split
  · rename_i id hid
    have hpod : s.taskOf key = some id := by simpa [taskOf,hns] using hid
    have hentry := taskOf_removePod s key
    obtain ⟨namespaces,hremove⟩ := removePod_eq s key
    rw [hremove] at hentry ⊢
    have hstop := h.release hmain [id] (.stopping id) rfl rfl hentry
      (fun id' => by simp [hpod,eq_comm])
    split
    · exact hstop.cancel _
    · exact hstop.abortAwaited (mem_singleton_self id)
  · exact h

theorem suspendPod (h : s.Sound) (hmain : s.main = .select) {poolId : String}
    (hpool : poolId ∈ s.pools) (hsup : s.Supervised key) (artifactId : ArtifactPortId) :
    (s.handleSuspendPod key artifactId poolId).Sound := by
  obtain ⟨t,ht,hrun⟩ := (Option.any_eq_true _ _).mp hsup
  obtain ⟨id,hentry,hget⟩ := Option.bind_eq_some_iff.mp ht
  obtain ⟨ns,hns,hpod⟩ := Option.bind_eq_some_iff.mp hentry
  obtain ⟨t',hget',-,ha⟩ := h.entry_key hentry
  cases hget.symm.trans hget'
  have hover : ¬ t.ended := by
    rw [← status_running]
    cases hs : t.status with
    | running => rfl
    | finished => simp [status_finished.mp hs] at hrun
    | aborted => exact absurd hs ha
  unfold handleSuspendPod
  simp only [if_pos hpool,hns,hpod,Option.bind_some,hget,Option.map_some,if_neg hover]
  obtain ⟨hsilent,hlast,hvm⟩ := h.shaped t (mem_of_getElem? hget)
  have hshaped : Shaped { t with suspendRx := some ⟨toString artifactId,poolId⟩ } :=
    ⟨hsilent,hlast,hvm⟩
  exact (h.set hget hshaped rfl).enter hmain rfl rfl

theorem withNamespace (hnext : s'.Sound) (hns : namespaceId ∈ s.namespaces) :
    (s.withNamespace namespaceId s').Sound := by
  unfold MainLoop.withNamespace
  rwa [if_pos hns]

theorem namespaceCommand (h : s.Sound) (hmain : s.main = .select)
    (ho : s.Orderly (.command (.protocol (.ofNamespace command)) found)) :
    (s.handleNamespaceCommand found command).Sound := by
  cases command with
  | registrySync namespaceId entries | registryUpdate namespaceId added removed =>
    exact withNamespace h (ho namespaceId rfl)
  | launchPod namespaceId podId network containers resources volumes =>
    obtain ⟨hmem,hvacant⟩ := ho
    obtain ⟨ns,hns⟩ := mem_iff.mp hmem
    simp only [handleNamespaceCommand,handleLaunchPod,hns]
    exact h.spawn hmain hvacant hns .launch
  | stopPod namespaceId podId graceful => exact h.stopPod hmain (ho namespaceId rfl) graceful
  | addWireGuardPeer namespaceId peerPublicKey peerIp presharedKey
  | removeWireGuardPeer peerPublicKey => exact h
  | suspendPod namespaceId podId artifactId poolId => exact h.suspendPod hmain ho.1 ho.2 artifactId
  | resumePod namespaceId podId artifactId network poolId =>
    obtain ⟨hmem,hvacant⟩ := ho
    simp only [handleNamespaceCommand,handleResumePod]
    split
    · rename_i hpool
      obtain ⟨ns,hns⟩ := mem_iff.mp (hmem hpool)
      simp only [hns]
      split
      · exact h.failResume hmain hvacant _
      · exact h.spawn hmain hvacant hns .resume
    · exact h.failResume hmain hvacant _
  | endpointSync namespaceId endpoints | endpointUpdate namespaceId upserted removedIps =>
    exact withNamespace (h.reportDemand found namespaceId) (ho namespaceId rfl)

theorem command (h : s.Sound) (hmain : s.main = .select) {command : LoopCommand}
    (ho : s.Orderly (.command command found)) : (s.handleCommand found command).Sound := by
  unfold handleCommand
  split
  · exact h.createNamespace hmain ho.1 ho.2
  · exact h.destroyNamespace hmain _
  · exact h
  · exact h
  · exact h.namespaceCommand hmain ho
  · unfold handleTransferArtifact
    split
    · split
      · exact h
      · exact h.enter hmain rfl rfl
    · exact h.enter hmain rfl rfl
  · exact ho.elim

theorem gatewayExited (h : s.Sound) (hs : s.gatewayExited namespaceId = some s') : s'.Sound := by
  obtain ⟨ns,hns,-,rfl⟩ := gatewayExited_some hs
  have hentry : ∀ key, taskOf { s with
      namespaces := s.namespaces.insert namespaceId
        { ns with cancelled := true, gateway := false } } key = s.taskOf key :=
    taskOf_same rfl (fun podId => by simp [taskOf,hns])
  exact ((h.rename hentry).cancel _).push rfl

theorem step (h : s.Sound) (ho : s.Orderly input) (hs : s.step input = some s') : s'.Sound := by
  cases input with
  | command command found =>
    simp only [MainLoop.step] at hs
    split at hs <;> cases hs
    exact h.command ‹_› ho
  | receive =>
    simp only [MainLoop.step] at hs
    split at hs <;> cases hs
    exact h.forward ‹_› ‹_›
  | proceed => exact h.proceed hs
  | timeout => exact h.timeOut hs
  | send id => exact h.sendOf hs
  | supervisor id input =>
    obtain ⟨t,hget,hs⟩ := Option.bind_eq_some_iff.mp hs
    obtain ⟨t',ht',rfl⟩ := Option.map_eq_some_iff.mp hs
    have hmoved := moved_step ht'
    exact h.set hget (hmoved.shaped (h.shaped t (mem_of_getElem? hget))) hmoved.face
  | gatewayExited namespaceId => exact h.gatewayExited hs
  | bridge namespaceId ip serviceId signal =>
    simp only [MainLoop.step] at hs
    split at hs <;> cases hs
    exact h.trySend (by cases signal <;> rfl)
  | transferDone transfer result =>
    obtain ⟨-,rfl⟩ := sendEvent_some hs
    exact h.push (by cases result <;> rfl)

theorem init (pools : List String) : (MainLoop.init pools).Sound := by
  refine ⟨by simp [MainLoop.init],fun key => ⟨nofun,?_,?_,nofun,nofun⟩⟩
  · simp [view,MainLoop.init]
  · simp [view,MainLoop.init]

end Sound

/-- As long as the commands are orderly, each instance ends once. -/
theorem instances_end_once {pools : List String} {inputs : List LoopInput}
    (ho : Runs.Along step Orderly (init pools) inputs)
    (hr : Runs.run step (init pools) inputs = some s) : s.EndsOnce :=
  (ho.keeps (I := Sound) (fun _ _ _ h ho hs => h.step ho hs) (.init pools) hr).endsOnce

/-- The pod is suspended, with its report in the channel. -/
def podSuspended : List LoopInput :=
  podRunning ++ [suspendPod,.supervisor 0 .suspendRequested,.send 0,
    .supervisor 0 (.suspended (.ok 5)),.proceed,.send 0,.send 0]

theorem podSuspended_ends_once :
    ∃ s, Runs.run step (init ["local-default"])
        (podSuspended ++ replicate 5 .receive) = some s ∧ s.EndsOnce := by
  have hsome : (Runs.run step (init ["local-default"])
      (podSuspended ++ replicate 5 .receive)).isSome = true := by decide +kernel
  obtain ⟨s,hs⟩ := Option.isSome_iff_exists.mp hsome
  exact ⟨s,hs,instances_end_once (by decide +kernel) hs⟩

/-- A second request finds a supervisor that has returned: the pod is reported as suspended, and
then as not suspended. -/
theorem suspendedTwice_ends_twice :
    ∃ s, Runs.run step (init ["local-default"]) (podSuspended ++ [suspendPod,.proceed]) = some s ∧
      ¬ s.EndsOnce := by
  have htwice : (Runs.run step (init ["local-default"]) (podSuspended ++ [suspendPod,.proceed])).any
      (fun s => Instance.ofTrace (demo,0) s.trace = [⟨some 0,[]⟩] ∧ s.onTheWay (demo,0) = 2) =
        true := by
    decide +kernel
  obtain ⟨s,hs,h⟩ := (Option.any_eq_true _ _).mp htwice
  obtain ⟨htrace,hway⟩ := of_decide_eq_true h
  refine ⟨s,hs,fun hends => ?_⟩
  have := (hends.latest (demo,0) _ _ htrace).once
  rw [hway] at this
  exact absurd this (by simp)

end MainLoop

end Distvirt.Worker
