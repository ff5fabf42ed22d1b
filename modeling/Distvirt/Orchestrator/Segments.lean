import Distvirt.Orchestrator.Routing
import Mathlib.Order.Interval.Finset.Nat
import Mathlib.Data.Finset.Card
import Mathlib.Data.List.Infix

/-! Every live namespace has a segment of its own, and every connected worker is in the segments
of the live namespaces. Which namespaces and workers these are follows from the calls. -/

namespace Distvirt

open List
open AList hiding insert keys
open Option (bind_eq_some_iff elim_some map_eq_some_iff map_some some_or)

namespace OrchestratorCore

variable {core core' : OrchestratorCore} {a b : Routed} {w : WorkerId} {segment : Nat}
  {prior : Option WorkerRegistry}

/-- The segments of each worker, and what the registry says of it in given segments. -/
def listing (s : WorkerStateCore) (w : WorkerId) :
    Option (Finset Nat × (Finset Nat → Option WorkerPeerInfo)) :=
  (s.workers.lookup w).map (fun t => (t.segments,fun segments => { t with segments }.toPeerInfo))

/-- The routing of decisions changes the scheduler and pod counts only. -/
structure Frame (r r' : Routed) : Prop where
  core : r'.1 = { r.1 with scheduler := r'.1.scheduler, workerState := r'.1.workerState }
  registered : r'.1.workerState.namespaceSegments = r.1.workerState.namespaceSegments
  workers : listing r'.1.workerState = listing r.1.workerState

theorem Frame.refl (r : Routed) : Frame r r := ⟨rfl,rfl,rfl⟩

theorem Frame.trans (h : Frame r r') (h' : Frame r' r'') : Frame r r'' where
  core := by
    rw [h'.core,h.core]
  registered := h'.registered.trans h.registered
  workers := h'.workers.trans h.workers

theorem counted_fixed (state : TrackedWorkerStateCore) (d : Decision) :
    ((counted state d).segments,fun segments => { counted state d with segments }.toPeerInfo) =
      (state.segments,fun segments => { state with segments }.toPeerInfo) := by
  simp only [counted,TrackedWorkerStateCore.recomputePressureFromPsi]
  cases state.psi <;> simp [TrackedWorkerStateCore.toPeerInfo]

theorem frame_settle (r : Routed) (d : Decision) : Frame r (settle r d).1 := by
  simp only [settle]
  cases hw : r.1.workerState.workers.lookup d.workerId with
  | none => exact .refl r
  | some state =>
    refine ⟨rfl,rfl,funext (fun w => ?_)⟩
    rw [listing,listing,lookup_insert_if]
    split
    · rename_i heq
      rw [heq,hw,map_some,map_some,counted_fixed]
    · rfl

theorem frame_toScheduler (h : toScheduler a input = some b) : Frame a b := by
  refine toScheduler_rule (P := fun r _ => Frame a r) (D := fun _ => True) (fun _ _ _ _ => trivial)
    (fun r d _ hp => hp.trans (frame_settle r d)) (fun r d _ _ hp => ?_) (fun r effects hp => ?_) ?_ h
  · exact ⟨hp.core,hp.registered,hp.workers⟩
  · exact ⟨hp.core,hp.registered,hp.workers⟩
  · exact ⟨rfl,rfl,rfl⟩

/-- The registry lists the workers that have a tunnel. Until the first one there are no workers. -/
def Current (last : Option WorkerRegistry)
    (workers : WorkerId → Option (Finset Nat × (Finset Nat → Option WorkerPeerInfo))) : Prop :=
  match last with
  | none => ∀ w, workers w = none
  | some registry => ∀ peer, peer ∈ registry ↔ ∃ w e, workers w = some e ∧ e.2 e.1 = some peer

theorem current_build (s : WorkerStateCore) : Current (some s.buildWorkerRegistry) (listing s) := by
  intro peer
  simp [listing,WorkerStateCore.buildWorkerRegistry,mem_toList]

/-- The last registry sent, in this call or before. -/
def last (prior : Option WorkerRegistry) (output : OrchestratorOutput) : Option WorkerRegistry :=
  output.globalBroadcasts.getLast?.or prior

theorem last_withBroadcast (registry : Option WorkerRegistry) :
    last prior (withBroadcast a registry).2 = registry.or (last prior a.2) := by
  cases registry with
  | none | some registry => simp [last,withBroadcast]

/-- Workers enter or leave segments. -/
structure Moved (r r' : Routed) (f : WorkerId → Finset Nat → Finset Nat) : Prop where
  core : r'.1 = { r.1 with workerState := r'.1.workerState }
  registered : r'.1.workerState.namespaceSegments = r.1.workerState.namespaceSegments
  workers : ∀ w, listing r'.1.workerState w =
    (listing r.1.workerState w).map (fun e => (f w e.1,e.2))
  current : ∀ prior, Current (last prior r.2) (listing r.1.workerState) →
    Current (last prior r'.2) (listing r'.1.workerState)

/-- The segments of a worker when `w` enters or leaves one. -/
def moveOne (segment : Option Nat) (change : Finset Nat → Nat → Finset Nat) (w w' : WorkerId)
    (segs : Finset Nat) : Finset Nat :=
  if w' = w then segment.elim segs (change segs) else segs

@[simp] theorem moveOne_self :
    moveOne entry change w w = fun segs => entry.elim segs (change segs) := by
  funext segs
  exact if_pos rfl

theorem moveOne_ne (h : w' ≠ w) : moveOne entry change w w' = id := by
  funext segs
  exact if_neg h

theorem changeSegments_moved (r : Routed) (w : WorkerId) (ns : NamespaceId)
    (change : Finset Nat → Nat → Finset Nat) : Moved r (withBroadcast
      ({ r.1 with workerState := (r.1.workerState.changeSegments w ns change).1 },r.2)
      (r.1.workerState.changeSegments w ns change).2.workerRegistryBroadcast)
      (moveOne (r.1.workerState.namespaceSegments.lookup ns) change w) := by
  unfold WorkerStateCore.changeSegments
  split
  · rename_i t segment hw hs
    refine ⟨rfl,rfl,fun w' => ?_,fun prior h => ?_⟩
    · simp only [listing,withBroadcast,lookup_insert_if,hs]
      by_cases hww : w' = w
      · subst hww
        simp [hw]
      · simp [hww,moveOne_ne hww,Function.comp_def]
    · rw [last_withBroadcast]
      simp only
      by_cases hsame : change t.segments segment = t.segments
      · rw [if_pos hsame,Option.none_or]
        convert h using 1
        funext w'
        simp only [listing,withBroadcast,lookup_insert_if]
        split
        · rename_i heq
          rw [heq,hw,hsame]
        · rfl
      · rw [if_neg hsame,some_or]
        exact current_build _
  · rename_i hno
    refine ⟨rfl,rfl,fun w' => ?_,fun prior h => by rwa [last_withBroadcast]⟩
    simp only [listing,withBroadcast]
    by_cases hww : w' = w
    · subst hww
      cases hw : r.1.workerState.workers.lookup w' with
      | none => rfl
      | some t =>
        cases hs : r.1.workerState.namespaceSegments.lookup ns with
        | none => simp
        | some segment => exact absurd hs (hno t segment hw)
    · simp [moveOne_ne hww,Function.comp_def]

/-- The events that do not reach the scheduler. -/
theorem toWorkerState_segment_eq (h : toWorkerState a event = some b) (he : SegmentEvent event) :
    b = withBroadcast
      (afterEvent a event) (a.1.workerState.process event).2.workerRegistryBroadcast := by
  obtain ⟨mid,rfl,⟨_,rfl⟩ | ⟨update,_,hu,_⟩⟩ := toWorkerState_some h
  · rfl
  · rw [(process_segment _ he).1] at hu
    cases hu

theorem assigned_moved (h : toWorkerState a (.namespaceAssigned w ns) = some b) :
    Moved a b (moveOne (a.1.workerState.namespaceSegments.lookup ns)
      (fun segments segment => insert segment segments) w) := by
  rw [toWorkerState_segment_eq h trivial]
  exact changeSegments_moved a w ns (fun segments segment => insert segment segments)

theorem unassigned_moved (h : toWorkerState a (.namespaceUnassigned w ns) = some b) :
    Moved a b (moveOne (a.1.workerState.namespaceSegments.lookup ns) Finset.erase w) := by
  rw [toWorkerState_segment_eq h trivial]
  exact changeSegments_moved a w ns Finset.erase

/-- Messages other than registries do not matter. -/
theorem Moved.of_output (h : Moved (r.1,output) a f)
    (hb : output.globalBroadcasts = r.2.globalBroadcasts) : Moved r a f where
  core := h.core
  registered := h.registered
  workers := h.workers
  current prior hc := by
    refine h.current prior ?_
    simp only [last,hb]
    exact hc

/-- One move after the other. -/
theorem Moved.all {f : α → WorkerId → Finset Nat → Finset Nat} {segments : Table NamespaceId Nat}
    (hstep : ∀ r x r', r.1.workerState.namespaceSegments = segments → step r x = some r' →
      Moved r r' (f x)) :
    ∀ (l : List α) (r r' : Routed), r.1.workerState.namespaceSegments = segments →
      l.foldlM step r = some r' → Moved r r' (fun w segs => l.foldl (fun segs x => f x w segs) segs) := by
  intro l
  induction l with
  | nil =>
    intro r r' _ h
    cases h
    exact ⟨rfl,rfl,fun w => Option.map_id'.symm,fun _ h => h⟩
  | cons x l ih =>
    intro r r' ht h
    rw [foldlM_cons] at h
    obtain ⟨mid,hmid,h⟩ := bind_eq_some_iff.mp h
    have first := hstep r x mid ht hmid
    have rest := ih mid r' (first.registered.trans ht) h
    refine ⟨by rw [rest.core,first.core],rest.registered.trans first.registered,fun w => ?_,
      fun prior h => rest.current prior (first.current prior h)⟩
    rw [rest.workers,first.workers,Option.map_map]
    rfl

/-- Everyone of a list of workers moves, and it does not matter how often. -/
theorem foldl_where {f : Finset Nat → Finset Nat} (hf : ∀ segs, f (f segs) = f segs)
    (worker : α → WorkerId) (l : List α) (segs : Finset Nat) :
    l.foldl (fun segs x => if w = worker x then f segs else segs) segs =
      if w ∈ l.map worker then f segs else segs := by
  induction l generalizing segs with
  | nil => rfl
  | cons x l ih =>
    rw [foldl_cons,ih]
    by_cases hw : w = worker x
    · simp [hw,hf]
    · simp [hw]

/-- One worker enters the segments of a list of namespaces. -/
theorem mem_foldl_insert {segments : Table NamespaceId Nat} (l : List NamespaceId)
    (segs : Finset Nat) : s ∈ l.foldl (fun segs id => (segments.lookup id).elim segs
      (fun segment => insert segment segs)) segs ↔
      s ∈ segs ∨ ∃ id ∈ l, segments.lookup id = some s := by
  induction l generalizing segs with
  | nil => simp
  | cons id l ih =>
    rw [foldl_cons,ih]
    cases hs : segments.lookup id with
    | none => simp [hs]
    | some s' =>
      simp only [elim_some,Finset.mem_insert,mem_cons,exists_eq_or_imp,hs,
        Option.some.injEq,or_assoc,eq_comm (a := s),or_left_comm]

theorem summaries_workers : core.summaries.map ConnectedWorkerSummary.workerId =
    core.connectedWorkers.keys := by
  simp only [summaries,AList.toList,map_map,AList.keys,keys]
  rfl

/-- The tables of live namespaces and their segments agree. -/
structure Numbered (core : OrchestratorCore) : Prop where
  live : ∀ id, id ∈ core.namespaceIds ↔ ∃ s, core.namespaceSegments.lookup id = some s
  old : ∀ id, id ∈ core.namespaceIds → id.id < core.nextNamespaceId
  distinct : ∀ id id' s, core.namespaceSegments.lookup id = some s →
    core.namespaceSegments.lookup id' = some s → id = id'
  active : ∀ s, s ∈ core.activeSegmentIds ↔ ∃ id, core.namespaceSegments.lookup id = some s
  range : ∀ s ∈ core.activeSegmentIds, s ≠ 0 ∧ s < segmentIdCount
  next : core.nextSegmentId < segmentIdCount
  named : ∀ name, name ∈ core.namespaceNames ↔ ∃ id ∈ core.namespaceIds, id.name = name
  single : ∀ id ∈ core.namespaceIds, ∀ id' ∈ core.namespaceIds, id.name = id'.name → id = id'

namespace Numbered

theorem init : Numbered new where
  live id := by simp [new]
  old id h := absurd h (notMem_empty id)
  distinct id id' s h := by simp [new] at h
  active s := by simp [new]
  range s h := by simp [new] at h
  next := by decide
  named name := by simp [new]
  single id h := absurd h (notMem_empty id)

theorem rest (h : Numbered core) {scheduler : SchedulerCore} {workerState : WorkerStateCore}
    {connectedWorkers : Table WorkerId ConnectedWorkerInfo} :
    Numbered { core with scheduler, workerState, connectedWorkers } :=
  ⟨h.live,h.old,h.distinct,h.active,h.range,h.next,h.named,h.single⟩

/-- The counter passes a free id before it has gone around. -/
theorem alloc_ends : ∀ (tries : Nat) (core : OrchestratorCore) (i : Nat), i < tries →
    core.nextSegmentId < segmentIdCount →
    (core.nextSegmentId + i) % segmentIdCount ≠ 0 →
    (core.nextSegmentId + i) % segmentIdCount ∉ core.activeSegmentIds →
    ∃ found, core.allocSegmentId tries = some found := by
  intro tries
  induction tries with
  | zero => exact fun _ i h => absurd h (Nat.not_lt_zero i)
  | succ tries ih =>
    intro core i hi hnext h0 hfree
    simp only [allocSegmentId]
    split
    · rename_i hused
      cases i with
      | zero =>
        rw [Nat.add_zero,Nat.mod_eq_of_lt hnext] at h0 hfree
        exact absurd hused (not_or.mpr ⟨h0,hfree⟩)
      | succ i =>
        have hsum : ((core.nextSegmentId + 1) % segmentIdCount + i) % segmentIdCount =
            (core.nextSegmentId + (i + 1)) % segmentIdCount := by
          rw [Nat.mod_add_mod,Nat.add_assoc,Nat.add_comm 1 i]
        refine ih _ i (Nat.lt_of_succ_lt_succ hi) (Nat.mod_lt _ (by decide)) ?_ ?_
        · simp only [hsum]
          exact h0
        · simp only [hsum]
          exact hfree
    · exact ⟨_,rfl⟩

/-- With fewer than 65535 live namespaces a segment is found. -/
theorem alloc_found (h : Numbered core)
    (hroom : core.namespaceIds.entries.length < segmentIdCount - 1) :
    ∃ found, core.allocSegmentId segmentIdCount = some found := by
  have hcard : core.activeSegmentIds.card ≤ core.namespaceIds.entries.length := by
    have hsub : core.activeSegmentIds ⊆ (core.namespaceIds.keys.map (fun id =>
        (core.namespaceSegments.lookup id).getD 0)).toFinset := by
      intro s hs
      obtain ⟨id,hid⟩ := (h.active s).mp hs
      rw [mem_toFinset,mem_map]
      exact ⟨id,AList.mem_keys.mp ((h.live id).mpr ⟨s,hid⟩),by rw [hid]; rfl⟩
    calc core.activeSegmentIds.card
        ≤ (core.namespaceIds.keys.map (fun id =>
            (core.namespaceSegments.lookup id).getD 0)).toFinset.card := Finset.card_le_card hsub
      _ ≤ (core.namespaceIds.keys.map (fun id =>
            (core.namespaceSegments.lookup id).getD 0)).length := toFinset_card_le _
      _ = core.namespaceIds.entries.length := by simp [AList.keys,keys]
  have hfree : ∃ s ∈ Finset.Ico 1 segmentIdCount, s ∉ core.activeSegmentIds := by
    refine Finset.exists_mem_notMem_of_card_lt_card ?_
    rw [Nat.card_Ico]
    omega
  obtain ⟨s,hs,hfree⟩ := hfree
  rw [Finset.mem_Ico] at hs
  have hreach : (core.nextSegmentId + (s + segmentIdCount - core.nextSegmentId) %
      segmentIdCount) % segmentIdCount = s := by
    rw [Nat.add_mod_mod]
    have : core.nextSegmentId + (s + segmentIdCount - core.nextSegmentId) = s + segmentIdCount := by
      have := h.next
      omega
    rw [this,Nat.add_mod_right,Nat.mod_eq_of_lt hs.2]
  refine alloc_ends segmentIdCount core ((s + segmentIdCount - core.nextSegmentId) %
    segmentIdCount) (Nat.mod_lt _ (by decide)) h.next ?_ ?_
  · rw [hreach]
    omega
  · rw [hreach]
    exact hfree

theorem alloc_range : ∀ (tries : Nat) (core core' : OrchestratorCore) (id : Nat),
    core.nextSegmentId < segmentIdCount → core.allocSegmentId tries = some (id,core') →
    id < segmentIdCount ∧ core'.nextSegmentId < segmentIdCount := by
  intro tries
  induction tries with
  | zero => exact fun _ _ _ _ h => nomatch h
  | succ tries ih =>
    intro core core' id hnext h
    have hlt : (core.nextSegmentId + 1) % segmentIdCount < segmentIdCount := Nat.mod_lt _ (by decide)
    simp only [allocSegmentId] at h
    split at h
    · exact ih _ _ _ hlt h
    · cases h
      exact ⟨hnext,hlt⟩

/-- A new id enters with a free segment. -/
theorem track {segment next : Nat} (h : Numbered core) (hne : segment ≠ 0)
    (hlt : segment < segmentIdCount) (hfree : segment ∉ core.activeSegmentIds)
    (hnext : next < segmentIdCount) (hname : name ∉ core.namespaceNames) : Numbered ({ core with
      nextNamespaceId := core.nextNamespaceId + 1
      nextSegmentId := next
      activeSegmentIds := insert segment core.activeSegmentIds }.trackNamespace
        ⟨name,core.nextNamespaceId⟩ ⟨network,segment⟩) := by
  have new : core.namespaceSegments.lookup ⟨name,core.nextNamespaceId⟩ = none := by
    rw [lookup_eq_none]
    intro hm
    have := h.old _ ((h.live _).mpr (mem_iff.mp hm))
    exact absurd this (Nat.lt_irrefl _)
  have fresh : ∀ id, core.namespaceSegments.lookup id ≠ some segment :=
    fun id hid => hfree ((h.active segment).mpr ⟨id,hid⟩)
  obtain ⟨live,old,distinct,active,range,-,named,single⟩ := h
  constructor <;> simp only [trackNamespace,mem_insert,lookup_insert_if,Finset.mem_insert]
  all_goals grind

theorem untrack (h : Numbered core) (hns : ns ∈ core.namespaceIds) :
    Numbered (core.untrackNamespace ns) := by
  obtain ⟨live,old,distinct,active,range,next,named,single⟩ := h
  cases hs : core.namespaceSegments.lookup ns with
  | none | some segment =>
    constructor <;> simp only [untrackNamespace,hs,mem_erase,lookup_erase_if,Finset.mem_erase]
    all_goals grind

end Numbered

/-- What the registry has to say of a worker that has connected with a tunnel and an address. -/
def peerOf (info : WorkerConnectedInfo) (segments : Finset Nat) : Option WorkerPeerInfo :=
  if info.capabilities.publicEndpoint.isEmpty then none
  else info.tunnelInfo.map (fun tunnel => ⟨info.protoWorkerId,
    s!"{info.capabilities.publicEndpoint}:{tunnel.listenPort}",tunnel.publicKey,segments⟩)

theorem toPeerInfo_new (info : WorkerConnectedInfo) : (fun segments => { TrackedWorkerStateCore.new
    info.capabilities info.tunnelInfo info.protoWorkerId with segments }.toPeerInfo) =
      peerOf info := by
  funext segments
  unfold TrackedWorkerStateCore.toPeerInfo peerOf TrackedWorkerStateCore.new
  cases info.tunnelInfo with
  | none => simp
  | some tunnel => rfl

/-- What the calls alone say: the namespaces that are live and the workers that are connected. -/
structure Ledger where
  next : Nat := 1
  live : List NamespaceId := []
  workers : Table WorkerId WorkerConnectedInfo := ∅

def Ledger.record (l : Ledger) : Call → Ledger
  | .createNamespace name _ =>
    if name ∈ l.live.map NamespaceId.name then l
    else { l with next := l.next + 1, live := ⟨name,l.next⟩ :: l.live }
  | .destroyNamespace namespaceId => { l with live := l.live.filter (· ≠ namespaceId) }
  | .workerConnected info => { l with workers := l.workers.insert info.workerId info }
  | .workerDisconnected workerId => { l with workers := l.workers.erase workerId }
  | .process _ => l

def Ledger.of (calls : List Call) : Ledger := calls.foldl record {}

/-- The tables of the orchestrator hold what the calls say. -/
structure Agrees (l : Ledger) (core : OrchestratorCore) : Prop where
  next : core.nextNamespaceId = l.next
  live : ∀ id, id ∈ core.namespaceIds ↔ id ∈ l.live
  connected : ∀ w, w ∈ core.connectedWorkers ↔ w ∈ l.workers

/-- What holds between calls, with the last registry that was broadcast. -/
structure Segmented (l : Ledger) (core : OrchestratorCore) (prior : Option WorkerRegistry) : Prop where
  numbered : Numbered core
  agrees : Agrees l core
  registered : ∀ id, core.workerState.namespaceSegments.lookup id = core.namespaceSegments.lookup id
  workers : ∀ w, listing core.workerState w =
    (l.workers.lookup w).map (fun info => (core.activeSegmentIds,peerOf info))
  current : Current prior (listing core.workerState)

variable {l : Ledger}

namespace Segmented

theorem init : Segmented {} new none where
  numbered := .init
  agrees := ⟨rfl,fun id => by simp [new],fun w => by simp [new]⟩
  registered id := rfl
  workers w := by simp [new,listing,WorkerStateCore.new]
  current w := rfl

/-- The worker state follows the rest of the state. -/
theorem of_rest {c : OrchestratorCore} (hcore : core' = { c with
      scheduler := core'.scheduler, workerState := core'.workerState }) (hnum : Numbered c)
    (hagrees : Agrees l c)
    (hreg : ∀ id, core'.workerState.namespaceSegments.lookup id = c.namespaceSegments.lookup id)
    (hworkers : ∀ w, listing core'.workerState w =
      (l.workers.lookup w).map (fun info => (c.activeSegmentIds,peerOf info)))
    (hcur : Current prior (listing core'.workerState)) : Segmented l core' prior := by
  refine ⟨?_,?_,fun id => ?_,fun w => ?_,hcur⟩
  · rw [hcore]
    exact hnum.rest
  · rw [hcore]
    exact ⟨hagrees.next,hagrees.live,hagrees.connected⟩
  · rw [hreg,hcore]
  · rw [hworkers,hcore]

theorem named (h : Segmented l core prior) :
    name ∈ core.namespaceNames ↔ name ∈ l.live.map NamespaceId.name := by
  rw [h.numbered.named,mem_map]
  exact exists_congr (fun id => and_congr_left' (h.agrees.live id))

/-- When every connected worker moves, every worker of the ledger has moved. -/
theorem all_moved (h : Segmented l core prior) {f : Finset Nat → Finset Nat}
    (hf : ∀ segs, f (f segs) = f segs) (worker : α → WorkerId) (xs : List α)
    (hxs : xs.map worker = core.connectedWorkers.keys) (w : WorkerId) :
    (listing core.workerState w).map (fun e =>
        (xs.foldl (fun segs x => if w = worker x then f segs else segs) e.1,e.2)) =
      (l.workers.lookup w).map (fun info => (f core.activeSegmentIds,peerOf info)) := by
  rw [h.workers]
  cases hw : l.workers.lookup w with
  | none => rfl
  | some info =>
    have hin : w ∈ xs.map worker := by
      rw [hxs]
      exact mem_keys.mp ((h.agrees.connected w).mpr (mem_iff.mpr ⟨info,hw⟩))
    have hmoved := foldl_where (w := w) hf worker xs core.activeSegmentIds
    rw [if_pos hin] at hmoved
    exact congrArg (fun segs => some (segs,peerOf info)) hmoved

theorem create (h : Segmented l core prior)
    (hr : core.createNamespace name network = some (result,a)) :
    Segmented (l.record (.createNamespace name network)) a.1 (last prior a.2) := by
  simp only [createNamespace] at hr
  simp only [Ledger.record,← h.named]
  split at hr
  · rename_i hname
    cases hr
    rw [if_pos hname]
    exact h
  · rename_i hname
    rw [if_neg hname]
    obtain ⟨⟨segment,core'⟩,halloc,hr⟩ := bind_eq_some_iff.mp hr
    obtain ⟨hne,hfree,hcore⟩ := allocSegmentId_some _ _ _ _ halloc
    obtain ⟨hlt,hnext⟩ := Numbered.alloc_range segmentIdCount
      { core with nextNamespaceId := core.nextNamespaceId + 1 } core' segment h.numbered.next halloc
    obtain ⟨mid,hmid,hr⟩ := bind_eq_some_iff.mp hr
    obtain ⟨fin,hfin,hr⟩ := bind_eq_some_iff.mp hr
    cases hr
    have numbered : Numbered (core'.trackNamespace ⟨name,core.nextNamespaceId⟩ ⟨network,segment⟩) := by
      rw [hcore]
      exact h.numbered.track hne hlt hfree hnext hname
    have hmid := toWorkerState_segment_eq hmid trivial
    have registered : mid.1.workerState.namespaceSegments =
        core.workerState.namespaceSegments.insert ⟨name,core.nextNamespaceId⟩ segment := by
      rw [hmid,hcore]
      rfl
    have moved := Moved.all (fun r x r' ht hr => by
      have hm := assigned_moved hr
      rw [show r.1.workerState.namespaceSegments.lookup ⟨name,core.nextNamespaceId⟩ = some segment by
        rw [ht,registered]; exact lookup_insert _] at hm
      exact hm.of_output rfl) mid.1.summaries mid a rfl hfin
    have hworkers := moved.workers
    rw [show listing mid.1.workerState = listing core.workerState by rw [hmid,hcore]; rfl] at hworkers
    refine .of_rest ?_ numbered ⟨?_,fun id => ?_,fun w => ?_⟩ (fun id => ?_) (fun w => ?_)
      (moved.current prior ?_)
    · rw [moved.core,hmid]
      rfl
    · rw [hcore]
      exact congrArg (· + 1) h.agrees.next
    · rw [hcore]
      simp only [trackNamespace,mem_insert,mem_cons,h.agrees.live,h.agrees.next]
    · rw [hcore]
      exact h.agrees.connected w
    · rw [moved.registered,registered,lookup_insert_if,h.registered,hcore]
      exact lookup_insert_if.symm
    · rw [hworkers,hcore]
      refine h.all_moved (fun _ => Finset.insert_idem ..) ConnectedWorkerSummary.workerId
        mid.1.summaries ?_ w
      rw [summaries_workers,hmid,hcore]
      rfl
    · rw [hmid,hcore]
      exact h.current

/-- The workers leave the segment before it is no longer registered. -/
theorem destroy (h : Segmented l core prior) (hr : core.destroyNamespace ns = some (result,a)) :
    Segmented (l.record (.destroyNamespace ns)) a.1 (last prior a.2) := by
  have hfilter : ∀ id, id ∈ l.live.filter (· ≠ ns) ↔ id ∈ core.namespaceIds ∧ id ≠ ns := by
    intro id
    rw [mem_filter,h.agrees.live,decide_eq_true_eq]
  simp only [destroyNamespace] at hr
  split at hr
  · rename_i hgone
    cases hr
    refine ⟨h.numbered,⟨h.agrees.next,fun id => ?_,h.agrees.connected⟩,h.registered,h.workers,h.current⟩
    rw [Ledger.record,hfilter]
    refine (and_iff_left_of_imp (fun hid => ?_)).symm
    rintro rfl
    exact hgone hid
  · rename_i hlive
    obtain ⟨segment,hsegment⟩ := (h.numbered.live ns).mp (not_not.mp hlive)
    obtain ⟨mid,hmid,hr⟩ := bind_eq_some_iff.mp hr
    obtain ⟨fin,hfin,hr⟩ := bind_eq_some_iff.mp hr
    cases hr
    have moved := Moved.all (fun r w r' ht hr => by
      have hm := unassigned_moved hr
      rw [ht] at hm
      exact hm) core.connectedWorkers.keys (core.untrackNamespace ns,{}) mid rfl hmid
    have hfin := toWorkerState_segment_eq hfin trivial
    have hworkers := moved.workers
    rw [← show listing a.1.workerState = listing mid.1.workerState by rw [hfin]; rfl] at hworkers
    refine .of_rest ?_ (h.numbered.untrack (not_not.mp hlive))
      ⟨h.agrees.next,fun id => ?_,h.agrees.connected⟩ (fun id => ?_) (fun w => ?_) ?_
    · rw [hfin]
      simp only [withBroadcast,afterEvent]
      rw [moved.core]
    · rw [Ledger.record,hfilter,untrackNamespace,mem_erase,and_comm]
    · have registered : a.1.workerState.namespaceSegments =
          core.workerState.namespaceSegments.erase ns := by
        rw [hfin]
        simp only [withBroadcast,afterEvent,WorkerStateCore.process,moved.registered]
        rfl
      rw [registered,lookup_erase_if,h.registered]
      exact lookup_erase_if.symm
    · have hlookup : core.workerState.namespaceSegments.lookup ns = some segment :=
        (h.registered ns).trans hsegment
      rw [hworkers]
      simp only [untrackNamespace,moveOne,hsegment,hlookup,elim_some]
      exact h.all_moved (f := fun segs => segs.erase segment) (fun _ => Finset.erase_idem) id
        core.connectedWorkers.keys (map_id _) w
    · rw [hfin,last_withBroadcast]
      exact moved.current prior h.current

/-- The registry is broadcast with the event, and what the scheduler then does leaves it as it
is. -/
theorem arrived (prior : Option WorkerRegistry)
    (hb : (a.1.workerState.process event).2.workerRegistryBroadcast = some registry)
    (hs : Current (some registry) (listing (a.1.workerState.process event).1))
    (h : toWorkerState a event = some b) :
    b.1 = { a.1 with scheduler := b.1.scheduler, workerState := b.1.workerState } ∧
    b.1.workerState.namespaceSegments = (a.1.workerState.process event).1.namespaceSegments ∧
    listing b.1.workerState = listing (a.1.workerState.process event).1 ∧
    Current (last prior b.2) (listing b.1.workerState) := by
  have done : ∃ mid, b = withBroadcast mid (some registry) ∧ Frame (afterEvent a event) mid := by
    obtain ⟨mid,rfl,⟨_,rfl⟩ | ⟨update,_,_,hr⟩⟩ := toWorkerState_some h
    · exact ⟨_,by rw [hb],.refl _⟩
    · exact ⟨mid,by rw [hb],frame_toScheduler hr⟩
  obtain ⟨mid,rfl,hF⟩ := done
  refine ⟨?_,hF.registered,hF.workers,?_⟩
  · simp only [withBroadcast]
    rw [hF.core]
    rfl
  · rw [last_withBroadcast,some_or]
    exact hF.workers ▸ hs

theorem connect (h : Segmented l core prior) (hr : core.workerConnected info = some a) :
    Segmented (l.record (.workerConnected info)) a.1 (last prior a.2) := by
  obtain ⟨mid,hmid,hr⟩ := bind_eq_some_iff.mp hr
  obtain ⟨hcore,hreg,hlisting,hcur⟩ := arrived prior rfl (current_build _) hmid
  have hlisting : ∀ w, listing mid.1.workerState w =
      if w = info.workerId then some (∅,peerOf info) else listing core.workerState w := by
    intro w
    rw [hlisting]
    simp only [listing,WorkerStateCore.process,lookup_insert_if]
    split
    · rw [map_some,toPeerInfo_new]
      rfl
    · rfl
  have ids : mid.1.namespaceIds = core.namespaceIds := by
    rw [hcore]
  have registered : ∀ id, mid.1.workerState.namespaceSegments.lookup id =
      core.namespaceSegments.lookup id := by
    intro id
    rw [hreg]
    exact h.registered id
  have moved := Moved.all (fun r id r' ht hr => by
    have hm := assigned_moved hr
    rw [ht] at hm
    exact hm.of_output rfl) mid.1.namespaceIds.keys mid a rfl hr
  have all : ∀ w, listing a.1.workerState w = if w = info.workerId then
      some (core.activeSegmentIds,peerOf info) else listing core.workerState w := by
    intro w
    rw [moved.workers,hlisting]
    split
    · rename_i hw
      simp only [hw,moveOne_self,map_some,Option.some.injEq,Prod.mk.injEq,and_true]
      ext s
      rw [mem_foldl_insert,h.numbered.active s,ids]
      simp only [Finset.notMem_empty,false_or,registered]
      refine exists_congr (fun id => and_iff_right_of_imp (fun hs => ?_))
      exact mem_keys.mp ((h.numbered.live id).mpr ⟨s,hs⟩)
    · rename_i hw
      simp only [moveOne_ne hw,id,foldl_fixed,Option.map_id']
  refine .of_rest (c := { core with
    connectedWorkers := core.connectedWorkers.insert info.workerId
      ⟨info.protoWorkerId,info.capabilities.maxPods,info.capabilities.pools.head?⟩ }) ?_ h.numbered.rest
    ⟨h.agrees.next,h.agrees.live,fun w => ?_⟩ (fun id => ?_) (fun w => ?_) (moved.current prior hcur)
  · rw [moved.core,hcore]
  · rw [Ledger.record,mem_insert,mem_insert,h.agrees.connected]
  · rw [moved.registered,registered]
  · rw [all,h.workers,Ledger.record,lookup_insert_if]
    split <;> rfl

theorem disconnect (h : Segmented l core prior) (hr : core.workerDisconnected w = some a) :
    Segmented (l.record (.workerDisconnected w)) a.1 (last prior a.2) := by
  unfold workerDisconnected at hr
  obtain ⟨mid,hmid,hr⟩ := bind_eq_some_iff.mp hr
  obtain ⟨hcore,hreg,hlisting,hcur⟩ := arrived prior rfl (current_build _) hmid
  have hlisting : ∀ w', listing mid.1.workerState w' =
      if w' = w then none else listing core.workerState w' := by
    intro w'
    rw [hlisting]
    simp only [listing,WorkerStateCore.process,lookup_erase_if]
    split <;> rfl
  -- The worker is gone, so that leaving its segments changes nothing.
  have still : a.1 = mid.1 ∧ a.2.globalBroadcasts = mid.2.globalBroadcasts := by
    refine Runs.run_keeps (I := fun r : Routed => r.1 = mid.1 ∧
      r.2.globalBroadcasts = mid.2.globalBroadcasts) (fun r id r' hP hr' => ?_) ⟨rfl,rfl⟩ hr
    have gone : r.1.workerState.workers.lookup w = none := by
      have := hlisting w
      rw [if_pos rfl] at this
      rw [hP.1]
      simpa [listing] using this
    rw [toWorkerState_segment_eq hr' trivial]
    simp only [withBroadcast,afterEvent,WorkerStateCore.process,WorkerStateCore.changeSegments,gone]
    exact ⟨hP.1,by simpa using hP.2⟩
  rw [still.1,last,still.2]
  refine .of_rest (c := { core with connectedWorkers := core.connectedWorkers.erase w }) hcore
    h.numbered.rest ⟨h.agrees.next,h.agrees.live,fun w' => ?_⟩ (fun id => ?_) (fun w' => ?_) hcur
  · rw [Ledger.record,mem_erase,mem_erase,h.agrees.connected]
  · rw [hreg]
    exact h.registered id
  · rw [hlisting,h.workers,Ledger.record,lookup_erase_if]
    split <;> rfl

theorem call (hc : ∀ input, c ≠ .process input) (h : Segmented l core prior)
    (hr : core.call c = some a) : Segmented (l.record c) a.1 (last prior a.2) := by
  cases c with
  | process input => exact absurd rfl (hc input)
  | workerConnected info => exact h.connect hr
  | workerDisconnected w => exact h.disconnect hr
  | createNamespace name network =>
    obtain ⟨r,hcreate,rfl⟩ := map_eq_some_iff.mp hr
    exact h.create hcreate
  | destroyNamespace ns =>
    obtain ⟨r,hdestroy,rfl⟩ := map_eq_some_iff.mp hr
    exact h.destroy hdestroy

/-- With room for one more namespace a call returns. -/
theorem ends (h : Segmented l core prior) (hroom : l.live.length < segmentIdCount - 1) (c : Call) :
    ∃ a, core.call c = some a := by
  have hcount : core.namespaceIds.keys.length ≤ l.live.length :=
    (subperm_of_subset core.namespaceIds.nodupKeys
      (fun id hid => (h.agrees.live id).mp (mem_keys.mpr hid))).length_le
  rw [AList.keys,keys,length_map] at hcount
  rcases call_ends core c with h' | ⟨_,_,_,hnone⟩
  · exact h'
  · obtain ⟨found,hfound⟩ := h.numbered.alloc_found (Nat.lt_of_le_of_lt hcount hroom)
    rw [hfound] at hnone
    cases hnone

end Segmented

/-- The last registry of a whole run. -/
def lastRegistry (prior : Option WorkerRegistry) (outputs : List OrchestratorOutput) :
    Option WorkerRegistry :=
  outputs.foldl last prior

/-- With room for one more namespace before each call, all calls return. -/
theorem Segmented.run : ∀ (calls : List Call) (l : Ledger) (core : OrchestratorCore)
    (prior : Option WorkerRegistry), (∀ c ∈ calls, ∀ input, c ≠ .process input) →
    (∀ taken, taken <+: calls → (taken.foldl Ledger.record l).live.length < segmentIdCount - 1) →
    Segmented l core prior → ∃ core' outputs, core.run calls = some (core',outputs) ∧
      Segmented (calls.foldl Ledger.record l) core' (lastRegistry prior outputs) := by
  intro calls
  induction calls with
  | nil => exact fun l core prior _ _ h => ⟨core,[],rfl,h⟩
  | cons c calls ih =>
    intro l core prior hcalls hroom h
    obtain ⟨a,ha⟩ := h.ends (hroom [] ( nil_prefix ..)) c
    have hnext := h.call (hcalls c (mem_cons_self ..)) ha
    obtain ⟨core',outputs,hr,h'⟩ := ih (l.record c) a.1 (last prior a.2)
      (fun c' hc' => hcalls c' (mem_cons_of_mem _ hc'))
      (fun taken htaken => hroom (c :: taken) (cons_prefix_cons.mpr ⟨rfl,htaken⟩)) hnext
    exact ⟨core',a.2 :: outputs,by rw [OrchestratorCore.run,ha]; simp [hr],h'⟩

/-- The segments of the live namespaces. -/
def LiveSegment (l : Ledger) (core : OrchestratorCore) (s : Nat) : Prop :=
  ∃ id ∈ l.live, core.namespaceSegments.lookup id = some s

structure Isolated (l : Ledger) (core : OrchestratorCore) (registry : Option WorkerRegistry) :
    Prop where
  live : ∀ id, id ∈ core.namespaceIds ↔ id ∈ l.live
  segment : ∀ id ∈ l.live, ∃ s, core.namespaceSegments.lookup id = some s ∧ s ≠ 0 ∧ s < 2 ^ 16
  distinct : ∀ id ∈ l.live, ∀ id' ∈ l.live, id ≠ id' →
    core.namespaceSegments.lookup id ≠ core.namespaceSegments.lookup id'
  worker : ∀ w, (∃ state, core.workerState.workers.lookup w = some state) ↔ w ∈ l.workers
  entered : ∀ w state, core.workerState.workers.lookup w = some state → ∀ s,
    s ∈ state.segments ↔ core.LiveSegment l s
  unsent : registry = none → ∀ w, w ∉ l.workers
  listed : ∀ peers, registry = some peers → ∃ segments, (∀ s, s ∈ segments ↔ core.LiveSegment l s) ∧
    ∀ peer, peer ∈ peers ↔ ∃ w info, l.workers.lookup w = some info ∧ peerOf info segments = some peer

theorem Segmented.isolated (h : Segmented l core prior) : core.Isolated l prior := by
  have live : ∀ s, s ∈ core.activeSegmentIds ↔ core.LiveSegment l s := by
    intro s
    rw [h.numbered.active s]
    refine exists_congr (fun id => (and_iff_right_of_imp (fun hs => ?_)).symm)
    exact (h.agrees.live id).mp ((h.numbered.live id).mpr ⟨s,hs⟩)
  have segment : ∀ id ∈ l.live, ∃ s, core.namespaceSegments.lookup id = some s :=
    fun id hid => (h.numbered.live id).mp ((h.agrees.live id).mpr hid)
  have worker : ∀ w, (∃ state, core.workerState.workers.lookup w = some state) ↔ w ∈ l.workers := by
    intro w
    have := congrArg Option.isSome (h.workers w)
    simp only [listing,Option.isSome_map] at this
    rw [← Option.isSome_iff_exists,this,Option.isSome_iff_exists,mem_iff]
  refine ⟨h.agrees.live,fun id hid => ?_,fun id hid id' _ hne heq => ?_,worker,fun w state hw s => ?_,
    ?_,?_⟩
  · obtain ⟨s,hs⟩ := segment id hid
    exact ⟨s,hs,h.numbered.range s ((h.numbered.active s).mpr ⟨id,hs⟩)⟩
  · obtain ⟨s,hs⟩ := segment id hid
    exact hne (h.numbered.distinct id id' s hs (heq ▸ hs))
  · obtain ⟨info,hinfo⟩ := mem_iff.mp ((worker w).mp ⟨state,hw⟩)
    have hlisting := h.workers w
    rw [listing,hw,hinfo] at hlisting
    rw [← live,← show state.segments = core.activeSegmentIds from
      congrArg Prod.fst (Option.some.inj hlisting)]
  · rintro rfl w hw
    obtain ⟨info,hinfo⟩ := mem_iff.mp hw
    have hlisting := (h.current w).symm.trans (h.workers w)
    rw [hinfo] at hlisting
    cases hlisting
  · rintro peers rfl
    refine ⟨core.activeSegmentIds,live,fun peer => ?_⟩
    rw [h.current peer]
    simp only [h.workers,map_eq_some_iff]
    constructor
    · rintro ⟨w,e,⟨info,hinfo,rfl⟩,hpeer⟩
      exact ⟨w,info,hinfo,hpeer⟩
    · rintro ⟨w,info,hinfo,hpeer⟩
      exact ⟨w,_,⟨info,hinfo,rfl⟩,hpeer⟩

/-- Every sequence of calls that connect and disconnect workers and create and destroy
namespaces, with fewer than 65535 namespaces live before each call, runs to its end. -/
theorem segments_isolate (calls : List Call) (hcalls : ∀ c ∈ calls, ∀ input, c ≠ .process input)
    (hroom : ∀ taken, taken <+: calls → (Ledger.of taken).live.length < 65535) :
    ∃ core outputs, new.run calls = some (core,outputs) ∧
      core.Isolated (.of calls) (lastRegistry none outputs) := by
  obtain ⟨core,outputs,hr,h⟩ := Segmented.run calls {} new none hcalls hroom .init
  exact ⟨core,outputs,hr,h.isolated⟩

/-- The segment of the first namespace is not given to the third. -/
def sampleTenancy : List Call :=
  [.createNamespace "a" ⟨0xac100000,0xac100001,24⟩,
    .workerConnected ⟨1,⟨10,"worker-1",["pool"]⟩,some ⟨51820,7⟩,1⟩,
    .createNamespace "b" ⟨0xac110000,0xac110001,24⟩,.destroyNamespace ⟨"a",1⟩,
    .workerConnected ⟨2,⟨10,"worker-2",["pool"]⟩,some ⟨51820,8⟩,2⟩,
    .createNamespace "c" ⟨0xac120000,0xac120001,24⟩,.workerDisconnected 1]

theorem segments_isolate_sample : ∃ core outputs,
    new.run sampleTenancy = some (core,outputs) ∧
    core.Isolated (.of sampleTenancy) (lastRegistry none outputs) ∧
    core.namespaceSegments.toList = [(⟨"c",3⟩,3),(⟨"b",2⟩,2)] := by
  have hroom : ∀ taken ∈ sampleTenancy.inits, (Ledger.of taken).live.length < 65535 := by
    decide +kernel
  obtain ⟨core,outputs,hr,h⟩ := segments_isolate sampleTenancy
    (by simp [sampleTenancy]) (fun taken htaken => hroom taken ((mem_inits _ _).mpr htaken))
  have hsegments : (new.run sampleTenancy).map (fun r => r.1.namespaceSegments.toList) =
      some [(⟨"c",3⟩,3),(⟨"b",2⟩,2)] := by
    decide +kernel
  rw [hr] at hsegments
  exact ⟨core,outputs,hr,h,Option.some.inj hsegments⟩

end OrchestratorCore

end Distvirt
