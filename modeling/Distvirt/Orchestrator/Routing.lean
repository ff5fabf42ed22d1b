import Distvirt.Orchestrator.Core
import Distvirt.Orchestrator.Requests
import Distvirt.Runs

/-! The recursion between the scheduler and the worker state works off a list of decisions: each
decision changes one pod count, which may add decisions in front of the rest. Hence it ends, and
what one decision keeps the whole recursion keeps. -/

namespace Distvirt

open Option

namespace OrchestratorCore

/-- The pod count of a worker after a decision. -/
def counted (state : TrackedWorkerStateCore) (d : Decision) : TrackedWorkerStateCore :=
  { state with podCount := changePodCount state.podCount d.delta }.recomputePressureFromPsi

/-- One decision: the count, the update of the candidate, and the decisions that follow. A worker
that has left has no count. -/
def settle (a : Routed) (d : Decision) : Routed × List Decision :=
  match a.1.workerState.workers.lookup d.workerId with
  | none => (a,[])
  | some state =>
    let state := counted state d
    let update := SchedulerCoreInput.workerUpdate d.workerId (state.toCandidate d.workerId)
    let called := a.1.scheduler.process update
    (({ a.1 with
        workerState := { a.1.workerState with
          workers := a.1.workerState.workers.insert d.workerId state }
        scheduler := called.1 },
      { a.2 with
        schedulerCalls := a.2.schedulerCalls ++ [(a.1.scheduler,update)] }),
      called.2.decisions)

/-- The namespace of a pod is told of the decision. -/
def tell (a : Routed) (d : Decision) : Routed :=
  (a.1,{ a.2 with
    toNamespaces := a.2.toNamespaces ++ [(d.key.1,d.message)] })

/-- The last part of the routing: invalidations go to every namespace, deletions to workers. -/
def finish (a : Routed) (effects : SchedulerEffects) : Routed :=
  (a.1,{ a.2 with
    toNamespaces := a.2.toNamespaces ++ effects.artifactInvalidations.flatMap (fun portId =>
      a.1.namespaceIds.keys.map (fun namespaceId =>
        (namespaceId,OrchestratorToNamespace.artifactInvalidated portId)))
    workerCommands := a.2.workerCommands ++ effects.deleteCommands })

/-- The decisions are worked off, each with those that follow from it before its namespace is
told. -/
inductive Works : Routed → List Decision → Routed → Prop where
  | done : Works a [] a
  | next : Works (settle a d).1 (settle a d).2 mid → Works (tell mid d) ds b → Works a (d :: ds) b

variable {core core' : OrchestratorCore} {output : OrchestratorOutput} {a b : Routed}
  {effects : SchedulerEffects} {d : Decision}

theorem process_workerUpdate {s : SchedulerCore} (w : WorkerId) (c : WorkerCandidate) :
    (s.process (.workerUpdate w c)).2 = { decisions := (s.process (.workerUpdate w c)).2.decisions } :=
  rfl

theorem routeDecision_eq (hnil : ∀ a, route a {} = some a) : routeDecision route a d =
    (route (settle a d).1 { decisions := (settle a d).2 }).map (tell · d) := by
  obtain ⟨core,output⟩ := a
  simp only [routeDecision,callWorkerState,settle,WorkerStateCore.process,WorkerStateCore.update]
  cases hw : core.workerState.workers.lookup d.workerId with
  | none => simp [routeWorkerStateEffects,hnil,tell]
  | some state =>
    simp only [routeWorkerStateEffects,callScheduler,List.foldlM_cons,List.foldlM_nil,
      toList_none,List.append_nil,counted]
    rw [process_workerUpdate]
    cases route _ _ with
    | none => rfl
    | some r => rfl

theorem route_nil (a : Routed) : routeSchedulerEffects (fuel + 1) a {} = some a := by
  simp [routeSchedulerEffects]

theorem route_succ : routeSchedulerEffects (fuel + 1) a effects =
    (effects.decisions.foldlM (routeDecision (routeSchedulerEffects fuel)) a).map
      (fun r => finish r effects) := by
  simp only [routeSchedulerEffects]
  cases effects.decisions.foldlM (routeDecision (routeSchedulerEffects fuel)) a with
  | none => rfl
  | some r => rfl

/-- How many requests wait. -/
def waiting (core : OrchestratorCore) : Nat := core.scheduler.pending.entries.length

theorem settle_waiting : (settle a d).1.1.waiting + (settle a d).2.length = a.1.waiting := by
  obtain ⟨core,output⟩ := a
  simp only [settle]
  cases hw : core.workerState.workers.lookup d.workerId with
  | none => rfl
  | some state => exact SchedulerCore.retryPending_length _

/-- A decision grants as many requests that waited as there are decisions that follow from it, so
that a level of the recursion that has decisions to route needs one level less below it. -/
theorem works_off (n : Nat) (a : Routed) (ds : List Decision) (hn : a.1.waiting + ds.length < n) :
    ∃ b, Works a ds b ∧ b.1.waiting ≤ a.1.waiting ∧ ∀ fuel, ds = [] ∨ a.1.waiting < fuel →
      ds.foldlM (routeDecision (routeSchedulerEffects fuel)) a = some b := by
  induction n generalizing a ds with
  | zero => exact absurd hn (Nat.not_lt_zero _)
  | succ n ih =>
    cases ds with
    | nil => exact ⟨a,.done,Nat.le_refl _,fun _ _ => rfl⟩
    | cons d ds =>
      have hlen := settle_waiting (a := a) (d := d)
      rw [List.length_cons] at hn
      obtain ⟨inner,hinner,hle,hfold⟩ := ih (settle a d).1 (settle a d).2 (by omega)
      obtain ⟨b,hb,hle',hfold'⟩ := ih (tell inner d) ds (by simp only [tell]; omega)
      simp only [tell] at hle' hfold'
      refine ⟨b,.next hinner hb,by omega,fun fuel hfuel => ?_⟩
      have hfuel := hfuel.resolve_left (List.cons_ne_nil _ _)
      obtain ⟨depth,rfl⟩ : ∃ depth, fuel = depth + 1 := ⟨fuel - 1,by omega⟩
      have hnext : (settle a d).2 = [] ∨ (settle a d).1.1.waiting < depth := by
        cases hds : (settle a d).2 with
        | nil => exact .inl rfl
        | cons d' ds' =>
          rw [hds,List.length_cons] at hlen
          exact .inr (by omega)
      rw [List.foldlM_cons,routeDecision_eq route_nil,route_succ,hfold depth hnext]
      refine Eq.trans ?_ (hfold' (depth + 1) (.inr (by omega)))
      simp [finish,tell]

theorem route_works (a : Routed) (effects : SchedulerEffects) : ∃ b, Works a effects.decisions b ∧
    ∀ fuel, effects.decisions = [] ∨ a.1.waiting < fuel →
      routeSchedulerEffects (fuel + 1) a effects = some (finish b effects) := by
  obtain ⟨b,hb,-,hfold⟩ := works_off _ a effects.decisions (Nat.lt_succ_self _)
  exact ⟨b,hb,fun fuel hfuel => by rw [route_succ,hfold fuel hfuel]; rfl⟩

theorem process_waiting (s : SchedulerCore) (input : SchedulerCoreInput) :
    (s.process input).2.decisions = [] ∨
      (s.process input).1.pending.entries.length ≤ s.pending.entries.length := by
  cases input with
  | requestLease key resume =>
    simp only [SchedulerCore.process]
    cases s.select resume with
    | some w => exact .inr (Nat.le_refl _)
    | none => exact .inl rfl
  | dropRequest key =>
    simp only [SchedulerCore.process]
    cases s.granted.lookup key with
    | some w => exact .inr (Nat.le_refl _)
    | none => exact .inl rfl
  | workerUpdate w candidate =>
    have := SchedulerCore.retryPending_length { s with workers := s.workers.insert w candidate }
    exact .inr (Nat.le.intro this)
  | workerRemoved w | artifactEvent w event | artifactReferenced a ns | artifactReleased a ns =>
    exact .inl rfl

/-- News of a worker. -/
def WorkerNews : SchedulerCoreInput → Prop
  | .workerUpdate _ _ | .workerRemoved _ => True
  | _ => False

/-- What the worker state tells the scheduler: at most one thing. -/
theorem schedulerUpdates_cases (s : WorkerStateCore) (event : WorkerStateCoreEvent) :
    (s.process event).2.schedulerUpdates = [] ∨
      ∃ update, WorkerNews update ∧ (s.process event).2.schedulerUpdates = [update] := by
  cases event <;> simp only [WorkerStateCore.process]
  case pressureUpdate w psi | conditionUpdate w key active | podCountChange w delta =>
    simp only [WorkerStateCore.update]
    cases s.workers.lookup w with
    | none => exact .inl rfl
    | some state => exact .inr ⟨.workerUpdate w _,trivial,rfl⟩
  case poolCapacityUpdate w pools =>
    cases s.workers.lookup w <;> exact .inl rfl
  case connected w capabilities tunnel proto =>
    exact .inr ⟨.workerUpdate w _,trivial,rfl⟩
  case disconnected w => exact .inr ⟨.workerRemoved w,trivial,rfl⟩
  case namespaceAssigned | namespaceUnassigned =>
    simp only [WorkerStateCore.changeSegments]
    split <;> exact .inl rfl
  case registerNamespaceSegment => exact .inl trivial
  case unregisterNamespaceSegment => exact .inl trivial

/-- The state after a call of the scheduler, before it is routed. -/
def afterInput (a : Routed) (input : SchedulerCoreInput) : Routed :=
  ({ a.1 with scheduler := (a.1.scheduler.process input).1 },
    { a.2 with schedulerCalls := a.2.schedulerCalls ++ [(a.1.scheduler,input)] })

/-- A call of the scheduler returns, with its decisions worked off. -/
theorem toScheduler_works (a : Routed) (input : SchedulerCoreInput) : ∃ mid,
    Works (afterInput a input) (a.1.scheduler.process input).2.decisions mid ∧
      toScheduler a input = some (finish mid (a.1.scheduler.process input).2) := by
  obtain ⟨mid,hworks,hroute⟩ := route_works (afterInput a input) (a.1.scheduler.process input).2
  refine ⟨mid,hworks,hroute _ ((process_waiting a.1.scheduler input).imp_right (fun h => ?_))⟩
  exact Nat.lt_succ_of_le h

section rule
variable {P : Routed → List Decision → Prop} {D : Decision → Prop}
  (hD : ∀ a d ds, P a (d :: ds) → D d)
  (hstep : ∀ a d ds, P a (d :: ds) → P (settle a d).1 ((settle a d).2 ++ ds))
  (htell : ∀ a d ds, D d → P a ds → P (tell a d) ds)
include hD hstep htell

/-- What a decision keeps, with the decisions that are left, all of them keep. -/
theorem Works.rule (h : Works a ds b) (hp : P a (ds ++ rest)) : P b rest := by
  induction h generalizing rest with
  | done => exact hp
  | next _ _ ih ih' => exact ih' (htell _ _ _ (hD _ _ _ hp) (ih (hstep _ _ _ hp)))

theorem toScheduler_rule (hfinish : ∀ a effects, P a [] → P (finish a effects) [])
    (hp : P (afterInput a input) (a.1.scheduler.process input).2.decisions)
    (hr : toScheduler a input = some b) : P b [] := by
  obtain ⟨mid,hworks,heq⟩ := toScheduler_works a input
  rw [heq] at hr
  cases hr
  exact hfinish mid _ (hworks.rule hD hstep htell (by rwa [List.append_nil]))

end rule

theorem foldlM_ends {f : α → β → Option α} (hf : ∀ a x, ∃ a', f a x = some a') :
    ∀ (l : List β) (a : α), ∃ a', l.foldlM f a = some a' := by
  intro l
  induction l with
  | nil => exact fun a => ⟨a,rfl⟩
  | cons x l ih =>
    intro a
    obtain ⟨mid,hmid⟩ := hf a x
    obtain ⟨a',ha'⟩ := ih mid
    exact ⟨a',by rw [List.foldlM_cons,hmid]; exact ha'⟩

/-- The state after an event of the worker state, before it is routed. -/
def afterEvent (a : Routed) (event : WorkerStateCoreEvent) : Routed :=
  ({ a.1 with workerState := (a.1.workerState.process event).1 },a.2)

def withBroadcast (a : Routed) (registry : Option WorkerRegistry) : Routed :=
  (a.1,{ a.2 with
    globalBroadcasts := a.2.globalBroadcasts ++ registry.toList })

/-- The scheduler is told what the worker state has for it. -/
def Heard (a : Routed) (event : WorkerStateCoreEvent) (mid : Routed) : Prop :=
  (a.1.workerState.process event).2.schedulerUpdates = [] ∧ mid = afterEvent a event ∨
    ∃ update, WorkerNews update ∧
      (a.1.workerState.process event).2.schedulerUpdates = [update] ∧
      toScheduler (afterEvent a event) update = some mid

theorem toWorkerState_works (a : Routed) (event : WorkerStateCoreEvent) : ∃ mid,
    toWorkerState a event =
      some (withBroadcast mid (a.1.workerState.process event).2.workerRegistryBroadcast) ∧
    Heard a event mid := by
  simp only [toWorkerState,callWorkerState,routeWorkerStateEffects]
  rcases schedulerUpdates_cases a.1.workerState event with hu | ⟨update,hn,hu⟩
  · rw [hu]
    exact ⟨_,rfl,.inl ⟨hu,rfl⟩⟩
  · obtain ⟨mid,-,hmid⟩ := toScheduler_works (afterEvent a event) update
    have hmid' : callScheduler (routeSchedulerEffects a.1.depth) ({ a.1 with
      workerState := (a.1.workerState.process event).1 },a.2) update = _ := hmid
    simp only [hu,List.foldlM_cons,List.foldlM_nil,hmid']
    exact ⟨_,rfl,.inr ⟨update,hn,hu,hmid⟩⟩

theorem toWorkerState_ends (a : Routed) (event : WorkerStateCoreEvent) :
    ∃ b, toWorkerState a event = some b := by
  obtain ⟨mid,heq,-⟩ := toWorkerState_works a event
  exact ⟨_,heq⟩

theorem toWorkerState_some (h : toWorkerState a event = some b) : ∃ mid,
    b = withBroadcast mid (a.1.workerState.process event).2.workerRegistryBroadcast ∧
      Heard a event mid := by
  obtain ⟨mid,heq,hmid⟩ := toWorkerState_works a event
  rw [heq] at h
  cases h
  exact ⟨mid,rfl,hmid⟩

section scheduler
variable {Q : SchedulerCore → Prop} (hQ : ∀ s input, Q s → Q (s.process input).1)
include hQ

/-- What every call of the scheduler keeps, the routing keeps. -/
theorem toScheduler_keeps (h : Q a.1.scheduler) (hr : toScheduler a input = some b) :
    Q b.1.scheduler := by
  refine toScheduler_rule (P := fun r _ => Q r.1.scheduler) (D := fun _ => True)
    (fun _ _ _ _ => trivial) (fun r d _ hq => ?_) (fun _ _ _ _ hq => hq) (fun _ _ hq => hq)
    (hQ _ input h) hr
  simp only [settle]
  cases r.1.workerState.workers.lookup d.workerId with
  | none => exact hq
  | some state => exact hQ _ _ hq

theorem toWorkerState_keeps (h : Q a.1.scheduler) (hr : toWorkerState a event = some b) :
    Q b.1.scheduler := by
  obtain ⟨mid,rfl,⟨_,rfl⟩ | ⟨update,_,_,hmid⟩⟩ := toWorkerState_some hr
  · exact h
  · have hq := toScheduler_keeps hQ (a := afterEvent a event) h hmid
    exact hq

end scheduler

theorem allocSegmentId_some : ∀ (tries : Nat) (core core' : OrchestratorCore) (id : Nat),
    core.allocSegmentId tries = some (id,core') → id ≠ 0 ∧ id ∉ core.activeSegmentIds ∧
      core' = { core with
        nextSegmentId := core'.nextSegmentId
        activeSegmentIds := insert id core.activeSegmentIds } := by
  intro tries
  induction tries with
  | zero => exact fun _ _ _ h => nomatch h
  | succ tries ih =>
    intro core core' id h
    simp only [allocSegmentId] at h
    split at h
    · obtain ⟨h₁,h₂,h₃⟩ := ih _ _ _ h
      exact ⟨h₁,h₂,h₃⟩
    · rename_i hfree
      cases h
      simp only [not_or] at hfree
      exact ⟨hfree.1,hfree.2,rfl⟩

/-- The events about segments, which concern neither the scheduler nor the pods. -/
def SegmentEvent : WorkerStateCoreEvent → Prop
  | .namespaceAssigned _ _ | .namespaceUnassigned _ _ | .registerNamespaceSegment _ _
  | .unregisterNamespaceSegment _ => True
  | _ => False

/-- The scheduler is not told of them, and could not see what they change. -/
theorem process_segment (s : WorkerStateCore) (he : SegmentEvent event) :
    (s.process event).2.schedulerUpdates = [] ∧
      ∀ w, ((s.process event).1.workers.lookup w).map (fun state => state.toCandidate w) =
        (s.workers.lookup w).map (fun state => state.toCandidate w) := by
  have changed : ∀ w ns change, (s.changeSegments w ns change).2.schedulerUpdates = [] ∧
      ∀ w', ((s.changeSegments w ns change).1.workers.lookup w').map
          (fun state => state.toCandidate w') =
        (s.workers.lookup w').map (fun state => state.toCandidate w') := by
    intro w ns change
    simp only [WorkerStateCore.changeSegments]
    split
    · rename_i state segment hw _
      refine ⟨rfl,fun w' => ?_⟩
      rw [AList.lookup_insert_if]
      split
      · rename_i heq
        rw [heq,hw]
        rfl
      · rfl
    · exact ⟨rfl,fun _ => rfl⟩
  cases event <;> first
    | exact he.elim
    | exact changed _ _ _
    | exact ⟨rfl,fun _ => rfl⟩

/-- What has nothing to do with scheduling is done. -/
structure SameScheduling (r r' : Routed) : Prop where
  scheduler : r'.1.scheduler = r.1.scheduler
  workerState : r'.1.workerState = r.1.workerState
  connectedWorkers : r'.1.connectedWorkers = r.1.connectedWorkers
  schedulerCalls : r'.2.schedulerCalls = r.2.schedulerCalls
  messages : ∃ more, r'.2.toNamespaces = r.2.toNamespaces ++ more ∧
    ∀ e ∈ more, ∀ decision, e.2 ≠ .schedulerDecision decision

section segments
variable {P : Routed → Prop} (hother : ∀ r r' : Routed, SameScheduling r r' → P r → P r')
  (hseg : ∀ r r' event, SegmentEvent event → P r → toWorkerState r event = some r' → P r')
include hother hseg

/-- What the events about segments keep, the rest of a call keeps. -/
theorem workerConnected_keeps (h : core.workerConnected info = some a) : ∃ mid,
      toWorkerState ({ core with
        connectedWorkers := core.connectedWorkers.insert info.workerId
          ⟨info.protoWorkerId,info.capabilities.maxPods,info.capabilities.pools.head?⟩ },{})
        (.connected info.workerId info.capabilities info.tunnelInfo info.protoWorkerId) = some mid ∧
      (P mid → P a) := by
  unfold workerConnected at h
  obtain ⟨mid,hmid,hr⟩ := bind_eq_some_iff.mp h
  refine ⟨mid,hmid,fun hp => Runs.run_keeps (I := P) (fun r ns r' hp hr => ?_) hp hr⟩
  refine hseg _ _ (.namespaceAssigned info.workerId ns) trivial ?_ hr
  exact hother r _ ⟨rfl,rfl,rfl,rfl,_,rfl,by simp⟩ hp

theorem workerDisconnected_keeps (h : core.workerDisconnected w = some a) :
    ∃ mid, toWorkerState ({ core with
        connectedWorkers := core.connectedWorkers.erase w },{}) (.disconnected w) = some mid ∧
      (P mid → P a) := by
  unfold workerDisconnected at h
  obtain ⟨mid,hmid,hr⟩ := bind_eq_some_iff.mp h
  refine ⟨mid,hmid,fun hp => Runs.run_keeps (I := P) (fun r ns r' hp hr => ?_) hp hr⟩
  refine hseg _ _ (.namespaceUnassigned w ns) trivial ?_ hr
  exact hother r _ ⟨rfl,rfl,rfl,rfl,_,rfl,by simp⟩ hp

theorem createNamespace_keeps (hp : P (core,{}))
    (h : core.createNamespace name network = some (result,a)) : P a := by
  simp only [createNamespace] at h
  split at h
  · cases h
    exact hp
  · obtain ⟨⟨segment,core'⟩,halloc,h⟩ := bind_eq_some_iff.mp h
    obtain ⟨_,_,hcore⟩ := allocSegmentId_some _ _ _ _ halloc
    obtain ⟨mid,hmid,h⟩ := bind_eq_some_iff.mp h
    obtain ⟨last,hlast,h⟩ := bind_eq_some_iff.mp h
    cases h
    have started : P mid := by
      refine hseg _ _ (.registerNamespaceSegment _ segment) trivial ?_ hmid
      rw [hcore]
      exact hother (core,{}) _ ⟨rfl,rfl,rfl,rfl,[],rfl,by simp⟩ hp
    refine Runs.run_keeps (I := P) (fun r summary r' hp hr => ?_) started hlast
    refine hseg _ _ (.namespaceAssigned summary.workerId _) trivial ?_ hr
    exact hother r _ ⟨rfl,rfl,rfl,rfl,[],(List.append_nil _).symm,by simp⟩ hp

theorem destroyNamespace_keeps (hp : P (core,{})) (h : core.destroyNamespace ns = some (result,a)) :
    P a := by
  simp only [destroyNamespace] at h
  split at h
  · cases h
    exact hp
  · obtain ⟨mid,hmid,h⟩ := bind_eq_some_iff.mp h
    obtain ⟨last,hlast,h⟩ := bind_eq_some_iff.mp h
    cases h
    refine hseg _ _ (.unregisterNamespaceSegment ns) trivial ?_ hlast
    refine Runs.run_keeps (I := P) (fun r w r' hp hr => ?_) ?_ hmid
    · exact hseg _ _ (.namespaceUnassigned w ns) trivial hp hr
    · exact hother (core,{}) _ ⟨rfl,rfl,rfl,rfl,[],rfl,by simp⟩ hp

end segments

/-- What a call brings to the scheduler. -/
def Call.schedulerInput : Call → Option SchedulerCoreInput
  | .process (.schedulerEvent input) => some input
  | .process (.fromNamespace _ message) => some (schedulerMessageToInput message)
  | _ => none

/-- What the scheduler and the worker state keep, every call keeps. -/
theorem call_rule {P : Routed → Prop} (hother : ∀ r r' : Routed, SameScheduling r r' → P r → P r')
    (hstate : ∀ r event r', P r → toWorkerState r event = some r' → P r')
    (hscheduler : ∀ input, c.schedulerInput = some input → toScheduler (core,{}) input = some a → P a)
    (hp : ∀ connectedWorkers, P ({ core with connectedWorkers },{})) (hr : core.call c = some a) :
    P a := by
  have hseg : ∀ r r' event, SegmentEvent event → P r → toWorkerState r event = some r' → P r' :=
    fun r r' event _ => hstate r event r'
  cases c with
  | process input =>
    cases input with
    | workerStateEvent event => exact hstate _ event _ (hp core.connectedWorkers) hr
    | schedulerEvent input | fromNamespace ns message => exact hscheduler _ rfl hr
  | workerConnected info =>
    obtain ⟨mid,hmid,hend⟩ := workerConnected_keeps hother hseg hr
    exact hend (hstate _ _ _ (hp _) hmid)
  | workerDisconnected w =>
    obtain ⟨mid,hmid,hend⟩ := workerDisconnected_keeps hother hseg hr
    exact hend (hstate _ _ _ (hp _) hmid)
  | createNamespace name network =>
    obtain ⟨⟨result,b⟩,hres,rfl⟩ := map_eq_some_iff.mp hr
    exact createNamespace_keeps hother hseg (hp core.connectedWorkers) hres
  | destroyNamespace ns =>
    obtain ⟨⟨result,b⟩,hres,rfl⟩ := map_eq_some_iff.mp hr
    exact destroyNamespace_keeps hother hseg (hp core.connectedWorkers) hres

theorem conserving_call (h : core.scheduler.Conserving) (hr : core.call c = some a) :
    a.1.scheduler.Conserving := by
  refine call_rule (P := fun r => r.1.scheduler.Conserving) (fun r r' hs hq => hs.scheduler ▸ hq)
    (fun _ _ _ hq hs => toWorkerState_keeps (fun _ input hs => hs.process input) hq hs)
    (fun input _ hs => ?_) (fun _ => h) hr
  exact toScheduler_keeps (a := (core,{})) (fun _ input hs => hs.process input) h hs

/-- What every call keeps, with the calls so far, holds after a run. -/
theorem run_rule {P : List Call → OrchestratorCore → Prop} {Q : OrchestratorOutput → Prop}
    (hcall : ∀ history c core a, history ++ [c] <+: all → P history core → core.call c = some a →
      P (history ++ [c]) a.1 ∧ Q a.2) : ∀ (calls history : List Call)
      (core core' : OrchestratorCore) (outputs : List OrchestratorOutput), history ++ calls = all →
      P history core → core.run calls = some (core',outputs) →
      P all core' ∧ ∀ output ∈ outputs, Q output := by
  intro calls
  induction calls with
  | nil =>
    intro history core core' outputs hall h hr
    cases hr
    rw [List.append_nil] at hall
    exact ⟨hall ▸ h,by simp⟩
  | cons c calls ih =>
    intro history core core' outputs hall h hr
    obtain ⟨r,hc,hr⟩ := bind_eq_some_iff.mp hr
    obtain ⟨r',hrest,hr⟩ := bind_eq_some_iff.mp hr
    cases hr
    have hall : (history ++ [c]) ++ calls = all := by simpa using hall
    obtain ⟨hnext,hq⟩ := hcall history c core r ⟨calls,hall⟩ h hc
    obtain ⟨hlast,hqs⟩ := ih _ r.1 r'.1 r'.2 hall hnext hrest
    exact ⟨hlast,List.forall_mem_cons.mpr ⟨hq,hqs⟩⟩

theorem run_snoc : ∀ (calls : List Call) (core core' : OrchestratorCore)
    (outputs : List OrchestratorOutput), core.run calls = some (core',outputs) →
    core'.call c = some a → core.run (calls ++ [c]) = some (a.1,outputs ++ [a.2]) := by
  intro calls
  induction calls with
  | nil =>
    intro core core' outputs h hc
    cases h
    simp [run,hc]
  | cons c' calls ih =>
    intro core core' outputs h hc
    obtain ⟨r,hr,h⟩ := bind_eq_some_iff.mp h
    obtain ⟨r',hrest,h⟩ := bind_eq_some_iff.mp h
    cases h
    have := ih r.1 r'.1 r'.2 hrest hc
    simp [run,hr,this]

/-- A state that some sequence of calls leads to. -/
def Reachable (core : OrchestratorCore) : Prop := ∃ calls outputs, new.run calls = some (core,outputs)

theorem Reachable.conserving (h : core.Reachable) : core.scheduler.Conserving := by
  obtain ⟨calls,outputs,h⟩ := h
  refine (run_rule (P := fun _ core => core.scheduler.Conserving) (Q := fun _ => True)
    (fun _ _ _ _ _ hp hr => ⟨conserving_call hp hr,trivial⟩) calls [] new core outputs rfl ?_ h).1
  exact fun hne => absurd rfl hne

/-- The search for a segment reads the counter and the ids in use only. -/
theorem allocSegmentId_none : ∀ (tries : Nat) (core core' : OrchestratorCore),
    core'.nextSegmentId = core.nextSegmentId → core'.activeSegmentIds = core.activeSegmentIds →
    core'.allocSegmentId tries = none → core.allocSegmentId tries = none := by
  intro tries
  induction tries with
  | zero => exact fun _ _ _ _ _ => rfl
  | succ tries ih =>
    intro core core' hn ha h
    simp only [allocSegmentId,hn,ha] at h ⊢
    split at h
    · rename_i hused
      rw [if_pos hused]
      exact ih _ { core' with
        nextSegmentId := (core.nextSegmentId + 1) % segmentIdCount
        activeSegmentIds := core.activeSegmentIds } rfl rfl h
    · cases h

theorem destroyNamespace_ends (hlive : ns ∈ core.namespaceIds) :
    ∃ a, core.destroyNamespace ns = some (.ok (),a) := by
  obtain ⟨mid,hmid⟩ := foldlM_ends
    (f := fun a w => toWorkerState a (.namespaceUnassigned w ns))
    (fun r w => toWorkerState_ends _ _) core.connectedWorkers.keys (core.untrackNamespace ns,{})
  obtain ⟨last,hlast⟩ := toWorkerState_ends mid (.unregisterNamespaceSegment ns)
  refine ⟨last,?_⟩
  rw [destroyNamespace,if_neg (not_not.mpr hlive)]
  simp only [bind_eq_bind,hmid,bind_some,hlast]
  rfl

/-- A call only fails to return if it looks for a segment and there is none. -/
theorem call_ends (core : OrchestratorCore) (c : Call) : (∃ a, core.call c = some a) ∨
    ∃ name network, c = .createNamespace name network ∧ core.allocSegmentId segmentIdCount = none := by
  cases c with
  | process input =>
    cases input with
    | workerStateEvent event => exact .inl (toWorkerState_ends _ _)
    | schedulerEvent input | fromNamespace ns message =>
      obtain ⟨mid,-,heq⟩ := toScheduler_works (core,{}) _
      exact .inl ⟨_,heq⟩
  | workerConnected info =>
    obtain ⟨mid,hmid⟩ := toWorkerState_ends ({ core with
      connectedWorkers := core.connectedWorkers.insert info.workerId
        ⟨info.protoWorkerId,info.capabilities.maxPods,info.capabilities.pools.head?⟩ },{})
      (.connected info.workerId info.capabilities info.tunnelInfo info.protoWorkerId)
    obtain ⟨last,hlast⟩ := foldlM_ends (f := introduceWorker info)
      (fun r ns => toWorkerState_ends _ _) mid.1.namespaceIds.keys mid
    refine .inl ⟨last,?_⟩
    simp only [call,workerConnected,hmid]
    exact hlast
  | workerDisconnected w =>
    obtain ⟨mid,hmid⟩ := toWorkerState_ends ({ core with
      connectedWorkers := core.connectedWorkers.erase w },{}) (.disconnected w)
    obtain ⟨last,hlast⟩ := foldlM_ends (f := dismissWorker w)
      (fun r ns => toWorkerState_ends _ _) mid.1.namespaceIds.keys mid
    refine .inl ⟨last,?_⟩
    simp only [call,workerDisconnected,hmid]
    exact hlast
  | createNamespace name network =>
    simp only [call,createNamespace]
    split
    · exact .inl ⟨_,rfl⟩
    · cases halloc : ({ core with nextNamespaceId := core.nextNamespaceId + 1 }).allocSegmentId
          segmentIdCount with
      | none => exact .inr ⟨name,network,rfl,allocSegmentId_none segmentIdCount core
        { core with nextNamespaceId := core.nextNamespaceId + 1 } rfl rfl halloc⟩
      | some found =>
        left
        obtain ⟨mid,hmid⟩ := toWorkerState_ends
          (found.2.trackNamespace ⟨name,core.nextNamespaceId⟩ ⟨network,found.1⟩,{})
          (.registerNamespaceSegment ⟨name,core.nextNamespaceId⟩ found.1)
        obtain ⟨last,hlast⟩ := foldlM_ends
          (f := assignNamespace ⟨name,core.nextNamespaceId⟩ ⟨network,found.1⟩)
          (fun r ns => toWorkerState_ends _ _) mid.1.summaries mid
        refine ⟨last,?_⟩
        simp only [bind_eq_bind,bind_some,hmid,hlast]
        rfl
  | destroyNamespace ns =>
    by_cases hlive : ns ∈ core.namespaceIds
    · obtain ⟨a,h⟩ := destroyNamespace_ends hlive
      exact .inl ⟨a,by rw [call,h]; rfl⟩
    · exact .inl ⟨_,by rw [call,destroyNamespace,if_pos hlive]; rfl⟩

/-- The recursion ends, at the same result for every depth that is enough, and no request waits
while some worker could take it. -/
theorem work_conserving (core : OrchestratorCore) (h : core.Reachable) :
    (∀ output effects, ∃ depth a, ∀ more,
      routeSchedulerEffects (depth + more) (core,output) effects = some a) ∧
    (∀ c, (∃ a, core.call c = some a) ∨ ∃ name network,
      c = .createNamespace name network ∧ core.allocSegmentId segmentIdCount = none) ∧
    ∀ c a, core.call c = some a → a.1.scheduler.pending.entries ≠ [] →
      ∀ candidate ∈ a.1.scheduler.candidates, ¬ (candidate.active = true ∧
        candidate.draining = false ∧ candidate.maxPressureBand.rank < PressureBand.high.rank) := by
  refine ⟨fun output effects => ?_,call_ends core,fun c a hr hne candidate hm helig => ?_⟩
  · obtain ⟨b,-,hroute⟩ := route_works (core,output) effects
    refine ⟨core.waiting + 2,finish b effects,fun more => ?_⟩
    rw [Nat.add_right_comm]
    exact hroute (core.waiting + more + 1) (.inr (by simp only; omega))
  · refine conserving_call h.conserving hr hne ⟨candidate,hm,?_⟩
    simp [WorkerCandidate.eligible,helig.1,helig.2.1,helig.2.2]

def sampleNamespace : NamespaceId := ⟨"demo",1⟩

def sampleWorker (workerId : WorkerId) : WorkerConnectedInfo :=
  ⟨workerId,⟨10,"",["pool"]⟩,none,workerId⟩

def sampleRequest (podId : PodId) : Call :=
  .process (.fromNamespace sampleNamespace (.requestLease sampleNamespace podId none))

/-- A request that comes while the only worker is draining waits, and no worker is eligible. -/
theorem work_conserving_draining : ∃ core : OrchestratorCore, core.Reachable ∧
    core.scheduler.pending.keys = [(sampleNamespace,7)] ∧
    ∀ c a, core.call c = some a → a.1.scheduler.pending.entries ≠ [] →
      ∀ candidate ∈ a.1.scheduler.candidates, ¬ (candidate.active = true ∧
        candidate.draining = false ∧ candidate.maxPressureBand.rank < PressureBand.high.rank) := by
  have hrun : (new.run [.workerConnected (sampleWorker 1),
      .process (.workerStateEvent (.conditionUpdate 1 "draining" true)),sampleRequest 7]).map
      (fun r => r.1.scheduler.pending.keys) = some [(sampleNamespace,7)] := by
    decide +kernel
  obtain ⟨r,hr,hkeys⟩ := map_eq_some_iff.mp hrun
  have reached : r.1.Reachable := ⟨_,r.2,hr⟩
  exact ⟨r.1,reached,hkeys,(work_conserving r.1 reached).2.2⟩

end OrchestratorCore

end Distvirt
