import Distvirt.Orchestrator.Routing

/-! What a call of the orchestrator sends out: only a new worker and a new namespace are announced,
to the namespaces and to the workers. -/

namespace Distvirt

open List Option

/-- The worker that a message announces. -/
def OrchestratorToNamespace.announced : OrchestratorToNamespace → Option WorkerId
  | .workerConnected w _ => some w
  | _ => none

namespace OrchestratorCore

variable {core core' : OrchestratorCore} {a b : Routed} {w : WorkerId} {ns : NamespaceId}

/-- Who is connected and which namespaces live is the same. -/
structure SameMembers (core core' : OrchestratorCore) : Prop where
  connectedWorkers : core'.connectedWorkers = core.connectedWorkers
  namespaceIds : core'.namespaceIds = core.namespaceIds
  namespaceNetworks : core'.namespaceNetworks = core.namespaceNetworks
  nextNamespaceId : core'.nextNamespaceId = core.nextNamespaceId

theorem SameMembers.refl : SameMembers core core := ⟨rfl,rfl,rfl,rfl⟩

theorem SameMembers.trans (h : SameMembers core core') (h' : SameMembers core' core'') :
    SameMembers core core'' :=
  ⟨h'.connectedWorkers.trans h.connectedWorkers,h'.namespaceIds.trans h.namespaceIds,
    h'.namespaceNetworks.trans h.namespaceNetworks,h'.nextNamespaceId.trans h.nextNamespaceId⟩

/-- Nothing is announced on the way. -/
structure Unannounced (a b : Routed) : Prop where
  members : SameMembers a.1 b.1
  direct : b.2.directWorkerCommands = a.2.directWorkerCommands
  messages : ∀ e ∈ b.2.toNamespaces, e ∈ a.2.toNamespaces ∨ e.2.announced = none

namespace Unannounced

theorem refl : Unannounced a a := ⟨.refl,rfl,fun _ he => .inl he⟩

theorem trans (h : Unannounced a b) (h' : Unannounced b c) : Unannounced a c where
  members := h.members.trans h'.members
  direct := h'.direct.trans h.direct
  messages e he := (h'.messages e he).elim (h.messages e) .inr

theorem tell (h : Unannounced a b) (d : Decision) : Unannounced a (tell b d) where
  members := h.members
  direct := h.direct
  messages e he := by
    rcases mem_append.mp he with he | he
    · exact h.messages e he
    · rw [mem_singleton] at he
      subst he
      right
      cases d <;> rfl

theorem finish (h : Unannounced a b) (effects : SchedulerEffects) :
    Unannounced a (finish b effects) where
  members := h.members
  direct := h.direct
  messages e he := by
    rcases mem_append.mp he with he | he
    · exact h.messages e he
    · obtain ⟨portId,_,he⟩ := mem_flatMap.mp he
      obtain ⟨id,_,rfl⟩ := mem_map.mp he
      exact .inr rfl

theorem settle (h : Unannounced a b) (d : Decision) : Unannounced a (settle b d).1 := by
  unfold OrchestratorCore.settle
  split
  · exact h
  · exact ⟨⟨h.members.1,h.members.2,h.members.3,h.members.4⟩,h.direct,h.messages⟩

theorem toScheduler (hr : toScheduler a input = some b) : Unannounced a b := by
  refine toScheduler_rule (P := fun r _ => Unannounced a r) (D := fun _ => True)
    (fun _ _ _ _ => trivial) (fun r d _ h => h.settle d) (fun r d _ _ h => h.tell d)
    (fun r effects h => h.finish effects) ?_ hr
  exact ⟨⟨rfl,rfl,rfl,rfl⟩,rfl,fun _ he => .inl he⟩

theorem toWorkerState (hr : toWorkerState a event = some b) : Unannounced a b := by
  obtain ⟨mid,rfl,⟨_,rfl⟩ | ⟨update,_,_,hmid⟩⟩ := toWorkerState_some hr
  · exact ⟨⟨rfl,rfl,rfl,rfl⟩,rfl,fun _ he => .inl he⟩
  · have h := toScheduler hmid
    exact ⟨⟨h.members.1,h.members.2,h.members.3,h.members.4⟩,h.direct,h.messages⟩

theorem foldlM {α : Type} {step : Routed → α → Option Routed}
    (hstep : ∀ a x b, step a x = some b → Unannounced a b) (l : List α)
    (hr : l.foldlM step a = some b) : Unannounced a b :=
  Runs.run_keeps (I := Unannounced a) (fun _ x _ h hs => h.trans (hstep _ x _ hs)) .refl hr

end Unannounced

/-- A call that announces nothing. -/
structure Silent (a : Routed) : Prop where
  direct : a.2.directWorkerCommands = []
  messages : ∀ e ∈ a.2.toNamespaces, e.2.announced = none

theorem Unannounced.silent (h : Unannounced (core,{}) a) : Silent a :=
  ⟨h.direct,fun e he => (h.messages e he).resolve_left (by simp)⟩

theorem process_unannounced (hr : core.process input = some a) : Unannounced (core,{}) a := by
  cases input with
  | workerStateEvent event => exact .toWorkerState hr
  | schedulerEvent input | fromNamespace ns message => exact .toScheduler hr

theorem workerDisconnected_out (hr : core.workerDisconnected w = some a) :
    SameMembers { core with connectedWorkers := core.connectedWorkers.erase w } a.1 ∧ Silent a := by
  unfold workerDisconnected at hr
  obtain ⟨mid,hmid,hr⟩ := bind_eq_some_iff.mp hr
  have first := Unannounced.toWorkerState hmid
  have rest : Unannounced mid a := by
    refine .foldlM (fun r ns r' hs => ?_) _ hr
    have next := Unannounced.toWorkerState hs
    refine ⟨next.members,next.direct,fun e he => ?_⟩
    rcases next.messages e he with he | he
    · rcases mem_append.mp he with he | he
      · exact .inl he
      · rw [mem_singleton] at he
        subst he
        exact .inr rfl
    · exact .inr he
  have all := first.trans rest
  exact ⟨all.members,all.direct,fun e he => (all.messages e he).resolve_left (by simp)⟩

theorem destroyNamespace_out {result : Except ClientError Unit}
    (hr : core.destroyNamespace ns = some (result,a)) :
    a.1.connectedWorkers = core.connectedWorkers ∧ a.1.nextNamespaceId = core.nextNamespaceId ∧
      a.1.namespaceIds = core.namespaceIds.erase ns ∧
      (∀ id, id ≠ ns → a.1.namespaceNetworks.lookup id = core.namespaceNetworks.lookup id) ∧
      Silent a := by
  simp only [destroyNamespace] at hr
  split at hr
  · rename_i hdead
    cases hr
    exact ⟨rfl,rfl,(AList.erase_of_not_mem hdead).symm,fun _ _ => rfl,rfl,by simp⟩
  · obtain ⟨mid,hmid,hr⟩ := bind_eq_some_iff.mp hr
    obtain ⟨last,hlast,hr⟩ := bind_eq_some_iff.mp hr
    cases hr
    have all := (Unannounced.foldlM (fun _ _ _ hs => .toWorkerState hs) _ hmid).trans
      (.toWorkerState hlast)
    refine ⟨all.members.1,all.members.4,all.members.2,fun id hid => ?_,all.direct,
      fun e he => (all.messages e he).resolve_left (by simp)⟩
    rw [all.members.3]
    exact AList.lookup_erase_ne hid

/-- The command that announces a namespace to a worker. -/
def announcement (w : WorkerId) (core : OrchestratorCore) (ns : NamespaceId) :
    List CreateNamespaceCommand :=
  ((core.namespaceNetworks.lookup ns).map (fun network =>
    (⟨w,ns,network⟩ : CreateNamespaceCommand))).toList

theorem introduceWorker_all {l : List NamespaceId} {r r' : Routed}
    (hl : ∀ id ∈ l, id ∈ core.namespaceIds)
    (hn : r.1.namespaceNetworks = core.namespaceNetworks)
    (hf : l.foldlM (introduceWorker info) r = some r') :
    SameMembers r.1 r'.1 ∧
      r'.2.directWorkerCommands = r.2.directWorkerCommands ++
        l.flatMap (announcement info.workerId core) ∧
      ∀ e ∈ r'.2.toNamespaces, e ∈ r.2.toNamespaces ∨ ∀ w, e.2.announced = some w →
        w = info.workerId ∧ e.1 ∈ core.namespaceIds := by
  induction l generalizing r with
  | nil =>
    cases hf
    exact ⟨.refl,by simp,fun e he => .inl he⟩
  | cons id l ih =>
    rw [foldlM_cons] at hf
    obtain ⟨next,hnext,hf⟩ := bind_eq_some_iff.mp hf
    have step := Unannounced.toWorkerState hnext
    obtain ⟨hm,hd,hmsg⟩ := ih (fun id' h => hl id' (mem_cons_of_mem _ h))
      (step.members.3.trans hn) hf
    refine ⟨SameMembers.trans step.members hm,?_,fun e he => ?_⟩
    · rw [hd,step.direct,flatMap_cons,← append_assoc]
      simp only [announcement,hn]
    · rcases hmsg e he with he | he
      · rcases step.messages e he with he | he
        · rcases mem_append.mp he with he | he
          · exact .inl he
          · rw [mem_singleton] at he
            subst he
            exact .inr (fun w hw => ⟨(some.inj hw).symm,hl id (mem_cons_self ..)⟩)
        · exact .inr (fun w hw => absurd (he.symm.trans hw) (by simp))
      · exact .inr he

/-- Every live namespace learns of the worker, and the worker of every live namespace. -/
theorem workerConnected_out (hr : core.workerConnected info = some a) :
    (∃ connected, SameMembers { core with
      connectedWorkers := core.connectedWorkers.insert info.workerId connected } a.1) ∧
    a.2.directWorkerCommands = core.namespaceIds.keys.flatMap (announcement info.workerId core) ∧
    ∀ e ∈ a.2.toNamespaces, ∀ w, e.2.announced = some w →
      w = info.workerId ∧ e.1 ∈ core.namespaceIds := by
  unfold workerConnected at hr
  obtain ⟨mid,hmid,hr⟩ := bind_eq_some_iff.mp hr
  have first := Unannounced.toWorkerState hmid
  obtain ⟨hm,hd,hmsg⟩ := introduceWorker_all (fun id h => by
    rw [first.members.2] at h
    exact h) first.members.3 hr
  refine ⟨⟨_,first.members.trans hm⟩,?_,fun e he w hw => ?_⟩
  · rw [hd,first.direct,first.members.2]
    rfl
  · rcases hmsg e he with he | he
    · rw [(first.messages e he).resolve_left (by simp)] at hw
      cases hw
    · exact he w hw

theorem assignNamespace_all {l : List ConnectedWorkerSummary} {r r' : Routed}
    (hf : l.foldlM (assignNamespace ns info) r = some r') :
    SameMembers r.1 r'.1 ∧
      r'.2.directWorkerCommands = r.2.directWorkerCommands ++ l.map (fun summary =>
        ⟨summary.workerId,ns,info⟩) ∧
      ∀ e ∈ r'.2.toNamespaces, e ∈ r.2.toNamespaces ∨ e.2.announced = none := by
  induction l generalizing r with
  | nil =>
    cases hf
    exact ⟨.refl,by simp,fun e he => .inl he⟩
  | cons summary l ih =>
    rw [foldlM_cons] at hf
    obtain ⟨next,hnext,hf⟩ := bind_eq_some_iff.mp hf
    have step := Unannounced.toWorkerState hnext
    obtain ⟨hm,hd,hmsg⟩ := ih hf
    refine ⟨SameMembers.trans step.members hm,?_,fun e he => ?_⟩
    · rw [hd,step.direct]
      simp
    · exact (hmsg e he).elim (step.messages e) .inr

/-- A new namespace is announced to every connected worker. -/
theorem createNamespace_out (hr : core.createNamespace name network = some (result,a)) :
    (∃ e, result = .error e) ∧ a = (core,{}) ∨
    ∃ info, result = .ok info ∧ info.namespaceId = ⟨name,core.nextNamespaceId⟩ ∧
      info.connectedWorkers = core.summaries ∧
      a.1.connectedWorkers = core.connectedWorkers ∧
      a.1.nextNamespaceId = core.nextNamespaceId + 1 ∧
      a.1.namespaceIds = core.namespaceIds.insert info.namespaceId () ∧
      a.1.namespaceNetworks = core.namespaceNetworks.insert info.namespaceId info.network ∧
      a.2.directWorkerCommands = core.summaries.map (fun summary =>
        ⟨summary.workerId,info.namespaceId,info.network⟩) ∧
      ∀ e ∈ a.2.toNamespaces, e.2.announced = none := by
  simp only [createNamespace] at hr
  split at hr
  · cases hr
    exact .inl ⟨⟨_,rfl⟩,rfl⟩
  · obtain ⟨⟨segment,core'⟩,halloc,hr⟩ := bind_eq_some_iff.mp hr
    obtain ⟨_,_,hcore⟩ := allocSegmentId_some _ _ _ _ halloc
    obtain ⟨mid,hmid,hr⟩ := bind_eq_some_iff.mp hr
    obtain ⟨last,hlast,hr⟩ := bind_eq_some_iff.mp hr
    cases hr
    have first := Unannounced.toWorkerState hmid
    have connected : mid.1.connectedWorkers = core.connectedWorkers := by
      rw [first.members.1,hcore]
      rfl
    obtain ⟨hm,hd,hmsg⟩ := assignNamespace_all hlast
    have same : mid.1.summaries = core.summaries := by
      simp only [summaries,connected]
    refine .inr ⟨_,rfl,rfl,same,hm.1.trans connected,?_,?_,?_,?_,fun e he => ?_⟩
    · rw [hm.4,first.members.4,hcore]
      rfl
    · rw [hm.2,first.members.2,hcore]
      rfl
    · rw [hm.3,first.members.3,hcore]
      rfl
    · rw [hd,first.direct,same]
      rfl
    · rcases hmsg e he with he | he
      · exact (first.messages e he).resolve_left (by simp)
      · exact he

end OrchestratorCore

end Distvirt
