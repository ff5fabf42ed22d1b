import Distvirt.Orchestrator.Routing

/-! Destroying a namespace does not reach the scheduler: what the namespace held stays. -/

namespace Distvirt

open TrackedWorkerStateCore List AList

namespace SchedulerCore

variable {s : SchedulerCore} {ns : NamespaceId}

/-- No lease request of the namespace is known. -/
def Clear (s : SchedulerCore) (ns : NamespaceId) : Prop :=
  (∀ key ∈ s.pending, key.1 ≠ ns) ∧ ∀ key ∈ s.granted, key.1 ≠ ns

/-- The namespace has a lease request, a lease or a referenced artifact. -/
def Holds (s : SchedulerCore) (ns : NamespaceId) : Prop :=
  (∃ key ∈ s.pending, key.1 = ns) ∨ (∃ key ∈ s.granted, key.1 = ns) ∨
    ∃ artifactId, s.artifactRefs.lookup artifactId = some ns

theorem not_holds : ¬ s.Holds ns ↔
    s.Clear ns ∧ ∀ artifactId, s.artifactRefs.lookup artifactId ≠ some ns := by
  simp only [Holds,Clear,not_or,not_exists,not_and,ne_eq]
  exact and_assoc.symm

/-- The input is no request of the namespace. -/
def Silent (ns : NamespaceId) : SchedulerCoreInput → Prop
  | .requestLease key _ => key.1 ≠ ns
  | _ => True

theorem Clear.retry (h : s.Clear ns) :
    s.retryPending.1.Clear ns ∧ ∀ d ∈ s.retryPending.2, d.key.1 ≠ ns := by
  by_cases ho : s.Open
  · have pending : ∀ e ∈ s.pending.toList, e.1.1 ≠ ns := fun e he =>
      h.1 e.1 (mem_iff.mpr ⟨e.2,mem_toList.mp he⟩)
    rw [retryPending_open ho]
    refine ⟨⟨fun key hk => absurd hk (notMem_empty key),fun key hk => ?_⟩,fun d hd => ?_⟩
    · rcases mem_grantAll.mp hk with hk | hk
      · exact h.2 key hk
      · obtain ⟨e,he,rfl⟩ := mem_map.mp hk
        exact pending e he
    · obtain ⟨e,he,rfl⟩ := mem_map.mp hd
      exact pending e he
  · rw [retryPending_closed ho]
    exact ⟨h,by simp⟩

theorem Clear.process (h : s.Clear ns) (hi : Silent ns i) :
    (s.process i).1.Clear ns ∧ ∀ d ∈ (s.process i).2.decisions, d.key.1 ≠ ns := by
  cases i with
  | requestLease key resume =>
    simp only [SchedulerCore.process]
    cases s.select resume with
    | some w =>
      refine ⟨⟨h.1,fun key' hk => ?_⟩,fun d hd => ?_⟩
      · rcases (mem_insert _).mp hk with rfl | hk
        · exact hi
        · exact h.2 key' hk
      · rw [mem_singleton] at hd
        subst hd
        exact hi
    | none =>
      refine ⟨⟨fun key' hk => ?_,h.2⟩,by simp⟩
      rcases (mem_insert _).mp hk with rfl | hk
      · exact hi
      · exact h.1 key' hk
  | dropRequest key =>
    simp only [SchedulerCore.process]
    cases hg : s.granted.lookup key with
    | some w =>
      refine ⟨⟨h.1,fun key' hk => h.2 key' (mem_erase.mp hk).2⟩,fun d hd => ?_⟩
      rw [mem_singleton] at hd
      subst hd
      exact h.2 key (mem_iff.mpr ⟨w,hg⟩)
    | none => exact ⟨⟨fun key' hk => h.1 key' (mem_erase.mp hk).2,h.2⟩,by simp⟩
  | workerUpdate w candidate =>
    exact Clear.retry (s := { s with workers := s.workers.insert w candidate }) h
  | workerRemoved w => exact ⟨h,by simp [SchedulerCore.process,workerRemoved]⟩
  | artifactEvent w event | artifactReferenced a ns => exact ⟨h,by simp [SchedulerCore.process]⟩
  | artifactReleased a ns => exact ⟨h,by simp [SchedulerCore.process,artifactReleased]⟩

end SchedulerCore

namespace OrchestratorCore

variable {core : OrchestratorCore} {a b : Routed} {ns : NamespaceId}

/-- No decision about a pod of the namespace is sent. -/
def Untold (ns : NamespaceId) (output : OrchestratorOutput) : Prop :=
  ∀ e ∈ output.toNamespaces, e.1 = ns → ∀ decision, e.2 ≠ .schedulerDecision decision

/-- The call carries no request of the namespace. -/
def Call.Silent (ns : NamespaceId) : Call → Prop
  | .process (.schedulerEvent input) => SchedulerCore.Silent ns input
  | .process (.fromNamespace _ message) => SchedulerCore.Silent ns (schedulerMessageToInput message)
  | _ => True

theorem Untold.append (h : Untold ns output)
    (hm : ∀ e ∈ more, e.1 = ns → ∀ decision, e.2 ≠ .schedulerDecision decision) :
    Untold ns { output with toNamespaces := output.toNamespaces ++ more } := by
  intro e he
  rcases mem_append.mp he with he | he
  · exact h e he
  · exact hm e he

theorem clear_toScheduler (hi : SchedulerCore.Silent ns input)
    (h : a.1.scheduler.Clear ns ∧ Untold ns a.2) (hr : toScheduler a input = some b) :
    b.1.scheduler.Clear ns ∧ Untold ns b.2 := by
  have first := h.1.process hi
  have := toScheduler_rule (P := fun r ds => (r.1.scheduler.Clear ns ∧ Untold ns r.2) ∧
      ∀ d ∈ ds, d.key.1 ≠ ns) (D := fun d => d.key.1 ≠ ns) (fun _ d _ hp => hp.2 d (by simp))
    (fun r d ds hp => ?_) (fun r d ds hd hp => ?_) (fun r effects hp => ?_) ?_ hr
  · exact this.1
  · have rest : ∀ d' ∈ ds, d'.key.1 ≠ ns := fun d' hd' => hp.2 d' (mem_cons_of_mem _ hd')
    simp only [settle]
    cases r.1.workerState.workers.lookup d.workerId with
    | none => exact ⟨hp.1,rest⟩
    | some state =>
      have next := hp.1.1.process (i := .workerUpdate d.workerId
        ((counted state d).toCandidate d.workerId)) trivial
      refine ⟨⟨next.1,hp.1.2⟩,fun d' hd' => ?_⟩
      rcases mem_append.mp hd' with hd' | hd'
      · exact next.2 d' hd'
      · exact rest d' hd'
  · refine ⟨⟨hp.1.1,hp.1.2.append ?_⟩,hp.2⟩
    intro e he hns
    rw [mem_singleton] at he
    subst he
    exact absurd hns hd
  · refine ⟨⟨hp.1.1,hp.1.2.append ?_⟩,hp.2⟩
    intro e he _ decision
    obtain ⟨port,_,he⟩ := mem_flatMap.mp he
    obtain ⟨ns',_,rfl⟩ := mem_map.mp he
    simp
  · exact ⟨⟨first.1,h.2⟩,first.2⟩

theorem clear_toWorkerState (h : a.1.scheduler.Clear ns ∧ Untold ns a.2)
    (hr : toWorkerState a event = some b) : b.1.scheduler.Clear ns ∧ Untold ns b.2 := by
  obtain ⟨mid,rfl,⟨_,rfl⟩ | ⟨update,hn,_,hmid⟩⟩ := toWorkerState_some hr
  · exact h
  · have silent : SchedulerCore.Silent ns update := by
      cases update <;> first
        | exact hn.elim
        | exact trivial
    have := clear_toScheduler (a := afterEvent a event) silent h hmid
    exact this

/-- A call that carries no request of the namespace brings no decision for it. -/
theorem clear_call (h : core.scheduler.Clear ns) (hc : c.Silent ns) (hr : core.call c = some a) :
    a.1.scheduler.Clear ns ∧ Untold ns a.2 := by
  have silent : ∀ input, c.schedulerInput = some input → SchedulerCore.Silent ns input := by
    intro input hi
    cases c with
    | process input => cases input <;> cases hi <;> exact hc
    | _ => cases hi
  have start : ∀ connectedWorkers, core.scheduler.Clear ns ∧
      Untold ns (({ core with connectedWorkers },{}) : Routed).2 := fun _ => ⟨h,by simp [Untold]⟩
  refine call_rule (P := fun r => r.1.scheduler.Clear ns ∧ Untold ns r.2) (fun r r' hs hp => ?_)
    (fun _ _ _ => clear_toWorkerState) (fun input hi => ?_) start hr
  · obtain ⟨more,hmore,hquiet⟩ := hs.messages
    refine ⟨hs.scheduler ▸ hp.1,fun e he hns => ?_⟩
    rw [hmore] at he
    rcases mem_append.mp he with he | he
    · exact hp.2 e he hns
    · exact hquiet e he
  · exact clear_toScheduler (silent input hi) (start core.connectedWorkers)

theorem clear_run (h : core.scheduler.Clear ns) (hsilent : ∀ c ∈ calls, c.Silent ns)
    (hr : core.run calls = some (core',outputs)) : ∀ output ∈ outputs, Untold ns output := by
  refine (run_rule (P := fun _ core => core.scheduler.Clear ns) (fun history c core a hall h hc => ?_)
    calls [] core core' outputs rfl h hr).2
  exact clear_call h (hsilent c (hall.subset (by simp))) hc

/-- Events about segments leave the scheduler and the pod counts alone. -/
theorem toWorkerState_segment (he : SegmentEvent event) (hr : toWorkerState a event = some b) :
    b.1.scheduler = a.1.scheduler ∧
      ∀ w, (b.1.workerState.workers.lookup w).map podCount =
        (a.1.workerState.workers.lookup w).map podCount := by
  obtain ⟨hnone,hsame⟩ := process_segment a.1.workerState he
  obtain ⟨mid,rfl,⟨_,rfl⟩ | ⟨update,_,hu,_⟩⟩ := toWorkerState_some hr
  · refine ⟨rfl,fun w => ?_⟩
    have := congrArg (Option.map WorkerCandidate.podCount) (hsame w)
    rwa [Option.map_map,Option.map_map] at this
  · rw [hnone] at hu
    cases hu

/-- What a namespace held in the scheduler is gone, the pod counts are reduced accordingly, and
as long as the namespace asks for nothing it gets no decision. -/
structure Released (core : OrchestratorCore) (ns : NamespaceId) (a : Routed) : Prop where
  pending : ∀ key ∈ a.1.scheduler.pending, key.1 ≠ ns
  granted : ∀ key ∈ a.1.scheduler.granted, key.1 ≠ ns
  artifactRefs : ∀ artifactId, a.1.scheduler.artifactRefs.lookup artifactId ≠ some ns
  podCounts : ∀ w state, core.workerState.workers.lookup w = some state →
    ∃ state', a.1.workerState.workers.lookup w = some state' ∧
      state'.podCount + core.scheduler.granted.entries.countP (fun e => e.1.1 = ns ∧ e.2 = w) =
        state.podCount
  quiet : ∀ calls core' outputs, (∀ c ∈ calls, c.Silent ns) →
    a.1.run calls = some (core',outputs) → ∀ output ∈ outputs, Untold ns output

/-- Destroying a live namespace succeeds, and releases what it held exactly if it held nothing. -/
theorem destroy_releases_iff (core : OrchestratorCore) (ns : NamespaceId)
    (hlive : ns ∈ core.namespaceIds) : ∃ a, core.destroyNamespace ns = some (.ok (),a) ∧
      (core.Released ns a ↔ ¬ core.scheduler.Holds ns) := by
  obtain ⟨a,h⟩ := destroyNamespace_ends hlive
  refine ⟨a,h,?_⟩
  have unchanged : a.1.scheduler = core.scheduler ∧
      ∀ w, (a.1.workerState.workers.lookup w).map podCount =
        (core.workerState.workers.lookup w).map podCount := by
    refine destroyNamespace_keeps (P := fun r => r.1.scheduler = core.scheduler ∧
        ∀ w, (r.1.workerState.workers.lookup w).map podCount =
          (core.workerState.workers.lookup w).map podCount)
      (fun r r' hs hp => ⟨hs.scheduler.trans hp.1,by rw [hs.workerState]; exact hp.2⟩)
      (fun r r' event he hp hr => ?_) ⟨rfl,fun _ => rfl⟩ h
    obtain ⟨hs,hc⟩ := toWorkerState_segment he hr
    exact ⟨hs.trans hp.1,fun w => (hc w).trans (hp.2 w)⟩
  obtain ⟨scheduler,counts⟩ := unchanged
  rw [SchedulerCore.not_holds]
  constructor
  · intro released
    have pending := released.pending
    have granted := released.granted
    have refs := released.artifactRefs
    rw [scheduler] at pending granted refs
    exact ⟨⟨pending,granted⟩,refs⟩
  · intro ⟨clear,refs⟩
    refine ⟨?_,?_,?_,fun w state hw => ?_,fun calls core' outputs hsilent hr => ?_⟩
    · rw [scheduler]
      exact clear.1
    · rw [scheduler]
      exact clear.2
    · rw [scheduler]
      exact refs
    · have hcount := counts w
      rw [hw,Option.map_some] at hcount
      obtain ⟨state',hw',hcount⟩ := Option.map_eq_some_iff.mp hcount
      refine ⟨state',hw',?_⟩
      have none : core.scheduler.granted.entries.countP (fun e => e.1.1 = ns ∧ e.2 = w) = 0 := by
        rw [countP_eq_zero]
        intro e he
        have : e.1 ∈ core.scheduler.granted := mem_iff.mpr ⟨e.2,mem_lookup_iff.mpr he⟩
        simp [clear.2 e.1 this]
      rw [none,hcount]
      rfl
    · exact clear_run (scheduler ▸ clear) hsilent hr

/-- A namespace has given its leases back, one granted and one waiting, beside one that keeps its
own. -/
def returnedCalls : List Call :=
  [.workerConnected (sampleWorker 1),.createNamespace "demo" ⟨0xac100000,0xac100001,24⟩,
    .createNamespace "other" ⟨0xac110000,0xac110001,24⟩,sampleRequest 0,
    .process (.fromNamespace ⟨"other",2⟩ (.requestLease ⟨"other",2⟩ 0 none)),
    .process (.workerStateEvent (.conditionUpdate 1 "draining" true)),sampleRequest 1,
    .process (.fromNamespace sampleNamespace (.dropRequest sampleNamespace 0)),
    .process (.fromNamespace sampleNamespace (.dropRequest sampleNamespace 1))]

theorem destroy_releases_returned : ∃ core : OrchestratorCore, core.Reachable ∧
    core.scheduler.granted.toList = [((⟨"other",2⟩,0),1)] ∧
    ∃ a, core.destroyNamespace sampleNamespace = some (.ok (),a) ∧
      core.Released sampleNamespace a := by
  have hrun : (new.run returnedCalls).any (fun r => decide (sampleNamespace ∈ r.1.namespaceIds) &&
      r.1.scheduler.pending.keys.isEmpty && r.1.scheduler.artifactRefs.keys.isEmpty &&
      decide (r.1.scheduler.granted.toList = [((⟨"other",2⟩,0),1)])) = true := by
    decide +kernel
  obtain ⟨⟨core,outputs⟩,hr,hstate⟩ := (Option.any_eq_true ..).mp hrun
  simp only [Bool.and_eq_true,decide_eq_true_eq,List.isEmpty_iff] at hstate
  obtain ⟨⟨⟨hlive,hpending⟩,hrefs⟩,hgranted⟩ := hstate
  obtain ⟨a,ha,hiff⟩ := destroy_releases_iff core sampleNamespace hlive
  refine ⟨core,⟨_,outputs,hr⟩,hgranted,a,ha,hiff.mpr ?_⟩
  rintro (⟨key,hkey,_⟩ | ⟨key,hkey,heq⟩ | ⟨artifactId,hartifact⟩)
  · rw [AList.mem_keys,hpending] at hkey
    cases hkey
  · obtain ⟨w,hw⟩ := mem_iff.mp hkey
    have hmem := mem_toList.mpr hw
    rw [hgranted,mem_singleton] at hmem
    cases hmem
    exact absurd heq (by decide)
  · have hmem := AList.mem_keys.mp (mem_iff.mpr ⟨_,hartifact⟩)
    rw [hrefs] at hmem
    cases hmem

/-- A namespace is destroyed while one of its pods runs and another waits. The lease and the pod
count stay, and the waiting pod is granted a worker when there is room for it again. -/
theorem destroyed_namespace_granted :
    let calls : List Call := [.workerConnected (sampleWorker 1),
      .createNamespace "demo" ⟨0xac100000,0xac100001,24⟩,sampleRequest 0,
      .process (.workerStateEvent (.conditionUpdate 1 "draining" true)),sampleRequest 1,
      .destroyNamespace sampleNamespace]
    let later : Call := .process (.workerStateEvent (.conditionUpdate 1 "draining" false))
    (new.run calls).map (fun r => (r.1.namespaceIds.keys,r.1.scheduler.pending.keys)) =
      some ([],[(sampleNamespace,1)]) ∧
    (new.run calls).map (fun r => (r.1.scheduler.granted.toList,
      (r.1.workerState.workers.lookup 1).map podCount)) =
      some ([((sampleNamespace,0),1)],some 1) ∧
    ((new.run calls).bind (fun r => r.1.call later)).map (fun r => r.2.toNamespaces) =
      some [(sampleNamespace,.schedulerDecision (.grant 1 1))] := by
  decide +kernel

end OrchestratorCore

end Distvirt
