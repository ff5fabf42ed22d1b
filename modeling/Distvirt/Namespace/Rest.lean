import Distvirt.Namespace.Sound
import Distvirt.SmRouter.Layers

/-! A namespace between its steps. A step writes to the router and then runs a cycle, and the
cycle writes to artifact ports only. -/

namespace Distvirt

open Std (ExtTreeMap)
open List ScheduleRequestDelta Ns SmRouter PortKind

namespace ArtifactAdapter

variable {n : Bounds} {r : DRouter} {a : ArtifactAdapter}

theorem reconcileOne_calls (h : Ready n s.2) (hd : ∀ w, d.2 = .referenced w → w < n.workload) :
    Calls [.artifact] n s.2 (reconcileOne s d).2 := by
  obtain ⟨a,r⟩ := s
  obtain ⟨portId,delta⟩ := d
  cases delta with
  | referenced w =>
    have linked : Calls [.artifact] n r (r.setEdges Edge.artifactValidity portId [w]) := by
      refine .setEdges h rfl (by simp) (by simp [Auto]) (fun k hk t ht => ?_)
      cases hk
      rw [mem_singleton] at ht
      subst ht
      exact hd _ rfl
    exact linked.trans (.setSignal linked.ready rfl (by simp) (.inr (.inr rfl)) (by decide))
  | released w => exact .destroyPort h (by simp) (by simp [Shared])

theorem deltas_calls : ∀ (deltas : List (ArtifactPortId × ArtifactRefDelta))
    (s : ArtifactAdapter × DRouter), Ready n s.2 →
    (∀ d ∈ deltas, ∀ w, d.2 = .referenced w → w < n.workload) →
    Calls [.artifact] n s.2 (deltas.foldl reconcileOne s).2 := by
  intro deltas
  induction deltas with
  | nil => exact fun s h _ => .refl h
  | cons d deltas ih =>
    intro s h hall
    have first := reconcileOne_calls h (hall d (mem_cons_self ..))
    exact first.trans (ih _ first.ready (fun d' hd' => hall d' (mem_cons_of_mem _ hd')))

theorem mem_refDeltas : (portId,delta) ∈ refDeltas queue ↔ (portId,⟨.refsInput,delta⟩) ∈ queue := by
  rw [refDeltas,mem_filterMap]
  constructor
  · rintro ⟨q,hq,heq⟩
    split at heq
    · cases heq
      exact hq
    · cases heq
  · exact fun h => ⟨_,h,rfl⟩

theorem refDeltas_bounded (h : Ready n r) (p : PortKind) :
    ∀ d ∈ refDeltas (r.drain p).1, ∀ w, d.2 = .referenced w → w < n.workload := by
  rintro ⟨portId,delta⟩ hd w rfl
  exact h.holds.queued _ (mem_of_mem_filter (mem_refDeltas.mp hd))

theorem reconcile_calls (h : Ready n r) : Calls [.artifact] n r (a.reconcile r).2.2 := by
  have drained : Calls [.artifact] n r (r.drain artifact).2 := .drain h _
  exact drained.trans (deltas_calls _ (a,(r.drain artifact).2) drained.ready
    (refDeltas_bounded h _))

theorem destroys_calls : ∀ (l : List ArtifactPortId) (r : DRouter), Ready n r →
    Calls [.artifact] n r (l.foldl (fun r portId => r.destroyPort artifact portId) r) := by
  intro l
  induction l with
  | nil => exact fun r h => .refl h
  | cons portId l ih =>
    intro r h
    have first : Calls [.artifact] n r (r.destroyPort artifact portId) :=
      .destroyPort h (by simp) (by simp [Shared])
    exact first.trans (ih _ first.ready)

theorem finalize_calls (h : Ready n r) : Calls [.artifact] n r (a.finalize r).2.2 :=
  destroys_calls _ r h

end ArtifactAdapter

/-- How the scheduler hears of a delta. -/
def ScheduleRequestDelta.message (namespaceId : NamespaceId) :
    ScheduleRequestDelta → SchedulerMessage
  | .request podId req => .requestLease namespaceId podId req.resumeArtifact
  | .drop podId => .dropRequest namespaceId podId

def ArtifactAction.message (namespaceId : NamespaceId) : ArtifactAction → SchedulerMessage
  | .referenced portId => .artifactReferenced namespaceId portId
  | .released portId => .artifactReleased namespaceId portId

namespace Namespace

variable {ns ns' : Namespace} {effects : NamespaceEffects}

/-- What a cycle leaves alone. -/
structure Cycled (ns ns' : Namespace) : Prop where
  management : ns'.management = ns.management
  currentSpec : ns'.currentSpec = ns.currentSpec
  tables : ns'.tables = ns.tables
  same : ∀ q, q ≠ PortKind.artifact → Router.SamePort q ns.router ns'.router

namespace Cycled

theorem refl : Cycled ns ns := ⟨rfl,rfl,rfl,fun _ _ => .refl⟩

theorem trans (h : Cycled ns ns') (h' : Cycled ns' ns'') : Cycled ns ns'' where
  management := h'.management.trans h.management
  currentSpec := h'.currentSpec.trans h.currentSpec
  tables := h'.tables.trans h.tables
  same q hq := (h.same q hq).trans (h'.same q hq)

end Cycled

/-- Collecting effects holds commands back and counts artifacts. -/
def Collected (ns ns' : Namespace) : Prop :=
  ns' = { ns with
    bufferedWorkerCommands := ns'.bufferedWorkerCommands
    nextArtifactCounter := ns'.nextArtifactCounter }

theorem Collected.refl : Collected ns ns := rfl

theorem Collected.trans (h : Collected ns ns') (h' : Collected ns' ns'') : Collected ns ns'' := by
  rw [Collected] at *
  rw [h',h]

theorem Collected.router (h : Collected ns ns') : ns'.router = ns.router := by rw [h]

theorem Collected.cycled (h : Collected ns ns') : Cycled ns ns' := by
  rw [h]
  exact ⟨rfl,rfl,rfl,fun _ _ => .refl⟩

theorem sendOrBuffer_collected (w : WorkerId) (cmd : WorkerCommand) :
    Collected ns (ns.sendOrBuffer effects w cmd).1 ∧
      (ns.sendOrBuffer effects w cmd).2.schedulerMessages = effects.schedulerMessages := by
  unfold sendOrBuffer
  split <;> exact ⟨rfl,rfl⟩

theorem collectPod_collected (a : PodAssignmentAction) :
    Outcome (fun r => Collected ns r.1 ∧ r.2.schedulerMessages = effects.schedulerMessages)
      (fun _ => True) (collectPod (ns,effects) a) := by
  cases a with
  | launch w p spec =>
    simp only [collectPod,buildLaunchCommand]
    cases ns.podNetwork spec with
    | error fault => trivial
    | ok network => exact sendOrBuffer_collected w _
  | resume w p artifactId spec =>
    simp only [collectPod,buildResumeCommand]
    cases ns.defaultPool w with
    | none => trivial
    | some poolId =>
      cases ns.podNetwork spec with
      | error fault => trivial
      | ok network => exact sendOrBuffer_collected w _
  | stop w p => exact ⟨rfl,rfl⟩
  | suspend w p =>
    simp only [collectPod]
    cases ns.defaultPool w with
    | none => trivial
    | some poolId => exact ⟨rfl,rfl⟩

theorem collectEndpoint_messages (action : EndpointAction) :
    Outcome (fun e => e.schedulerMessages = effects.schedulerMessages) (fun _ => True)
      (ns.collectEndpoint effects action) := by
  simp only [collectEndpoint]
  cases ns.buildEndpointCommand action with
  | error f => trivial
  | ok cmd => cases action <;> rfl

theorem collectSchedule_messages (deltas : List ScheduleRequestDelta) :
    (deltas.foldl ns.collectSchedule effects).schedulerMessages =
      effects.schedulerMessages ++ deltas.map (message ns.namespaceId) := by
  induction deltas generalizing effects with
  | nil => simp
  | cons d deltas ih =>
    rw [foldl_cons,ih]
    cases d <;> simp [collectSchedule,NamespaceEffects.message,message]

/-- The scheduler is told the schedule deltas. -/
theorem collectEffects_collected (actions : ReconcileActions) :
    Outcome (fun r => Collected ns r.1 ∧ r.2.schedulerMessages = effects.schedulerMessages ++
        actions.scheduleDeltas.map (message ns.namespaceId))
      (fun _ => True) (ns.collectEffects actions effects) := by
  unfold collectEffects
  simp only
  have pods : Outcome (fun r => Collected ns r.1 ∧ r.2.schedulerMessages =
      effects.schedulerMessages ++
        actions.scheduleDeltas.map (message ns.namespaceId)) (fun _ => True)
      (actions.podActions.foldlM collectPod (ns,actions.scheduleDeltas.foldl ns.collectSchedule
        { effects with timerActions := effects.timerActions ++ actions.timerActions })) := by
    refine Outcome.foldlM (I := fun _ (r : Namespace × NamespaceEffects) =>
      Collected ns r.1 ∧ r.2.schedulerMessages = effects.schedulerMessages ++
        actions.scheduleDeltas.map (message ns.namespaceId))
      (fun a _ r hr => ?_) _ _ ⟨.refl,collectSchedule_messages _⟩
    exact (collectPod_collected a).imp (fun r' hr' => ⟨hr.1.trans hr'.1,hr'.2.trans hr.2⟩)
  refine pods.bind (fun r hr => ?_)
  have endpoints : Outcome (fun e => e.schedulerMessages = r.2.schedulerMessages) (fun _ => True)
      (actions.endpointActions.foldlM r.1.collectEndpoint r.2) := by
    refine Outcome.foldlM
      (I := fun _ (e : NamespaceEffects) => e.schedulerMessages = r.2.schedulerMessages)
      (fun a _ e he => ?_) _ _ rfl
    exact (collectEndpoint_messages a).imp (fun e' he' => he'.trans he)
  refine endpoints.bind (fun e he => ⟨hr.1,?_⟩)
  have hdns : (r.1.collectDns e actions.dnsRegistryActions).schedulerMessages =
      e.schedulerMessages := by
    simp only [collectDns]
    split <;> rfl
  exact (hdns.trans he).trans hr.2

/-- The ports that are drained before the artifact adapter writes. -/
def earlyPorts : List PortKind := [.timer,.scheduleRequest,.worker,.fabricEndpoint,.dnsRegistry]

theorem reconcile_router : ns.reconcile.2.2.router = ((ns.artifact.reconcile
    (earlyPorts.foldl (fun r p => (r.drain p).2) ns.router)).2.2.drain observability).2 :=
  rfl

theorem reconcile_pushed (h : ns.Sound) : Pushed [.artifact] ns ns.reconcile.2.2 := by
  have drained : Calls [.artifact] ns.bounds ns.router
      (earlyPorts.foldl (fun r p => (r.drain p).2) ns.router) := .drains earlyPorts h.ready
  have settled := drained.trans (ArtifactAdapter.reconcile_calls (a := ns.artifact) drained.ready)
  have calls := settled.trans (.drain settled.ready observability)
  rw [← reconcile_router] at calls
  exact h.calls calls rfl (by decide) (.inl ⟨rfl,rfl⟩) h.pods

theorem Pushed.cycled (h : Pushed [.artifact] ns ns') : Cycled ns ns' :=
  ⟨h.management,h.spec,(h.kept (by decide) (by decide)).1,
    fun q hq => h.calls.same q (by simpa using hq)⟩

theorem foldl_drain : ∀ (ps : List PortKind) (r : DRouter),
    ps.foldl (fun r p => (r.drain p).2) r =
      { r with queue := r.queue.filter (fun q => incNode q.2.1 ∉ ps) } := by
  intro ps
  induction ps with
  | nil =>
    intro r
    simp
  | cons p ps ih =>
    intro r
    rw [foldl_cons,ih]
    simp [Router.drain,filter_filter,not_or,Bool.and_comm]

theorem incNode_drained (i : Inc) :
    incNode i ∈ earlyPorts ++ [PortKind.artifact,PortKind.observability] := by
  cases i <;> decide

/-- Without references to settle the ports are only drained. -/
theorem reconcile_settled (h : ns.reconcile.2.1 = false) :
    ns.reconcile.2.2.router = { ns.router with queue := [] } ∧
      ns.reconcile.2.2.artifact = ns.artifact := by
  have hnone : ArtifactAdapter.refDeltas ((earlyPorts.foldl (fun r p => (r.drain p).2)
      ns.router).drain PortKind.artifact).1 = [] := by
    have h : (!(ArtifactAdapter.refDeltas ((earlyPorts.foldl (fun r p => (r.drain p).2)
      ns.router).drain PortKind.artifact).1).isEmpty) = false := h
    simpa using h
  have hsame : ns.artifact.reconcile (earlyPorts.foldl (fun r p => (r.drain p).2) ns.router) =
      (false,ns.artifact,((earlyPorts.foldl (fun r p => (r.drain p).2) ns.router).drain
        PortKind.artifact).2) := by
    simp only [ArtifactAdapter.reconcile,hnone]
    rfl
  have hall : (earlyPorts ++ [PortKind.artifact,PortKind.observability]).foldl (fun r p => (r.drain p).2)
      ns.router = { ns.router with queue := [] } := by
    rw [foldl_drain]
    congr 1
    refine filter_eq_nil_iff.mpr (fun q _ => ?_)
    rw [decide_eq_true_eq,not_not]
    exact incNode_drained q.2.1
  constructor
  · rw [reconcile_router,hsame,← hall,foldl_append]
    rfl
  · exact congrArg (fun x => x.2.1) hsame

section cycle
variable {ns₀ : Namespace} {A B D : Namespace → NamespaceEffects → Prop}

/-- What holds before each propagation of a cycle, after it, and at its end. -/
structure CycleKeeps (ns₀ : Namespace) (A B D : Namespace → NamespaceEffects → Prop) : Prop where
  propagate : ∀ ns effects r', ns.Sound → Cycled ns₀ ns → A ns effects →
    ns.router.propagate = some r' → B { ns with router := r' } effects
  settle : ∀ ns effects ns' effects', ns.Sound → Cycled ns₀ ns → ns.router.Quiescent →
    B ns effects → Collected ns.reconcile.2.2 ns' →
    effects'.schedulerMessages = effects.schedulerMessages ++
      ns.reconcile.1.scheduleDeltas.map (ScheduleRequestDelta.message ns.namespaceId) →
    if ns.reconcile.2.1 then A ns' effects' else D ns' effects'

theorem Sound.propagate (h : ns.Sound) (hp : ns.router.propagate = some r') :
    { ns with router := r' }.Sound ∧ Cycled ns { ns with router := r' } ∧ r'.Quiescent := by
  obtain ⟨ready,same,quiet⟩ := h.ready.propagate hp
  have sames : ∀ q, Router.SamePort q ns.router r' := fun q => .of_samePorts same
  refine ⟨⟨⟨h.management.toFits.same (sames _),ready⟩,h.demand.same (sames _),fun w pods hw p hm => ?_⟩,
    ⟨rfl,rfl,rfl,fun q _ => sames q⟩,quiet⟩
  exact Nat.lt_of_lt_of_le (h.pods w pods hw p hm)
    (Router.bound_le (base_kept h.ready.specs) h.ready.holds hp SmKind.pod)

theorem Collected.sound (h : Collected ns ns') (hs : ns.Sound) : ns'.Sound := by
  rw [h]
  exact { hs with }

/-- The state at the end of the reconcile loop. -/
structure Ended (ns₀ ns : Namespace) : Prop where
  sound : ns.Sound
  cycled : Cycled ns₀ ns
  quiet : ns.router.Quiescent
  queue : ns.router.queue = []

theorem settleOnce_eq : ns.settleOnce effects =
    (ns.reconcile.2.2.collectEffects ns.reconcile.1 effects).map (Prod.mk ns.reconcile.2.1) := rfl

theorem CycleKeeps.rule (h : CycleKeeps ns₀ A B D) :
    Rule (fun ns effects => ns.Sound ∧ Cycled ns₀ ns ∧ A ns effects)
      (fun ns effects => ns.Sound ∧ Cycled ns₀ ns ∧ ns.router.Quiescent ∧ B ns effects)
      (fun ns effects => Ended ns₀ ns ∧ D ns effects) (fun _ => True) where
  propagate ns effects := by
    rintro ⟨sound,cycled,ha⟩
    unfold Namespace.propagate
    cases hp : ns.router.propagate with
    | none => trivial
    | some r' =>
      obtain ⟨sound',cycled',quiet⟩ := sound.propagate hp
      exact ⟨sound',cycled.trans cycled',quiet,h.propagate ns effects r' sound cycled ha hp⟩
  settle ns effects := by
    rintro ⟨sound,cycled,quiet,hb⟩
    have pushed := reconcile_pushed sound
    rw [settleOnce_eq]
    refine (collectEffects_collected ns.reconcile.1).map (fun r hr => ?_)
    have settled := h.settle ns effects r.1 r.2 sound cycled quiet hb hr.1 hr.2
    have sound' := hr.1.sound pushed.sound
    have cycled' := (cycled.trans pushed.cycled).trans hr.1.cycled
    by_cases hm : ns.reconcile.2.1 = true
    · rw [if_pos hm] at settled
      rw [if_pos hm]
      exact ⟨sound',cycled',settled⟩
    · rw [if_neg hm] at settled
      rw [if_neg hm]
      have hrouter := hr.1.router.trans (reconcile_settled (Bool.eq_false_iff.mpr hm)).1
      refine ⟨⟨sound',cycled',?_,?_⟩,settled⟩
      · rw [hrouter]
        exact quiet
      · rw [hrouter]
  fuel := trivial

theorem CycleKeeps.runCycle (h : CycleKeeps ns₀ A B D) (hs : ns₀.Sound) (ha : A ns₀ effects) :
    Outcome (fun r => ∃ ns' effects', Ended ns₀ ns' ∧ D ns' effects' ∧ r = ns'.finalize effects')
      (fun _ => True) (ns₀.runCycle fuel effects) :=
  h.rule.runCycle (P := fun ns e => ∃ ns' effects', Ended ns₀ ns' ∧ D ns' effects' ∧
      (ns,e) = ns'.finalize effects')
    (fun ns' effects' hd => ⟨ns',effects',hd.1,hd.2,rfl⟩) ⟨hs,.refl,ha⟩

end cycle

theorem finalize_messages : (ns.finalize effects).2.schedulerMessages =
    effects.schedulerMessages ++
      (ns.artifact.finalize ns.router).1.map (ArtifactAction.message ns.namespaceId) := by
  have fold : ∀ (actions : List ArtifactAction) (effects : NamespaceEffects),
      (actions.foldl (fun effects action =>
        match action with
        | .referenced portId => effects.message (.artifactReferenced ns.namespaceId portId)
        | .released portId => effects.message (.artifactReleased ns.namespaceId portId))
        effects).schedulerMessages = effects.schedulerMessages ++
          actions.map (ArtifactAction.message ns.namespaceId) := by
    intro actions
    induction actions with
    | nil => simp
    | cons action actions ih =>
      intro effects
      rw [foldl_cons,ih]
      cases action <;> simp [NamespaceEffects.message,ArtifactAction.message]
  exact fold _ effects

theorem finalize_pushed (h : ns.Sound) : Pushed [.artifact] ns (ns.finalize effects).1 :=
  h.calls (ArtifactAdapter.finalize_calls h.ready) rfl (by decide) (.inl ⟨rfl,rfl⟩) h.pods

/-- A namespace between its steps. All that may wait is what workloads are told of artifacts. -/
structure Rested (ns : Namespace) : Prop where
  sound : ns.Sound
  creates : ns.router.pendingCreates = []
  marks : ∀ x ∈ ns.router.dirty, x.1 = .inl Batch.artifactInput
  queue : ns.router.queue = []

theorem fedBy_artifact (h : FedBy .artifact x) : x = .inl .artifactInput := by
  obtain ⟨source,hm,he⟩ := h
  rcases x with b | i
  · cases b with
    | configInput =>
      simp only [sources,mem_cons,not_mem_nil,or_false] at hm
      rcases hm with rfl | rfl <;> cases he
    | _ =>
      simp only [sources,mem_singleton] at hm
      subst hm
      first
        | rfl
        | cases he
  · cases i with
    | endpointsInput =>
      simp only [sources,mem_cons,not_mem_nil,or_false] at hm
      rcases hm with rfl | rfl <;> cases he
    | _ =>
      simp only [sources,mem_singleton] at hm
      subst hm
      cases he

theorem Ended.rested (h : Ended ns₀ ns) : (ns.finalize effects).1.Rested := by
  have pushed : Pushed [.artifact] ns (ns.finalize effects).1 := finalize_pushed h.sound
  obtain ⟨hd,he,hc⟩ := h.quiet
  refine ⟨pushed.sound,?_,fun x hx => ?_,?_⟩
  · rw [pushed.calls.creates,hc]
  · rcases pushed.calls.marks x hx with hx | ⟨q,hq,hf⟩
    · rw [hd] at hx
      cases hx
    · rw [mem_singleton] at hq
      subst hq
      exact fedBy_artifact hf
  · refine eq_nil_iff_forall_not_mem.mpr (fun q hq => ?_)
    have := pushed.calls.pushed.queue q hq
    rw [h.queue] at this
    cases this

theorem namespaceCreated_pushed (h : ns.Sound) (w : WorkerId) :
    Outcome (fun r => (Pushed [.worker] ns r.1 ∧ r.1.router = ns.router ∧ r.1.tables = ns.tables) ∧
        r.2.schedulerMessages = effects.schedulerMessages)
      (fun _ => True) (ns.namespaceCreated effects w) := by
  have sent : ∀ (cs : List WorkerCommand) (effects : NamespaceEffects),
      (cs.foldl (fun effects cmd => effects.command w cmd) effects).schedulerMessages =
        effects.schedulerMessages := by
    intro cs
    induction cs with
    | nil => exact fun _ => rfl
    | cons c cs ih => exact fun effects => ih _
  have peers : ∀ (ps : List WireGuardPeerEndpointInfo) (effects : NamespaceEffects),
      (ps.foldl (fun effects info => effects.command w (.addWireGuardPeer ns.namespaceId
        info.peerPublicKey info.peerIp none)) effects).schedulerMessages =
        effects.schedulerMessages := by
    intro ps
    induction ps with
    | nil => exact fun _ => rfl
    | cons p ps ih => exact fun effects => ih _
  have told : ∀ (c : Prop) [Decidable c] (effects : NamespaceEffects) (cmd : WorkerCommand),
      (if c then effects else effects.command w cmd).schedulerMessages =
        effects.schedulerMessages := by
    intro c _ effects cmd
    split <;> rfl
  unfold namespaceCreated
  cases ns.pendingWorkers w with
  | none => exact ⟨⟨.refl h,rfl,rfl⟩,rfl⟩
  | some info =>
    simp only
    have built : Outcome (fun _ => True) (fun _ => True)
        ((ns.endpointCache.toList.map Prod.snd).mapM buildEndpointSpec) := by
      cases (ns.endpointCache.toList.map Prod.snd).mapM buildEndpointSpec <;> trivial
    refine built.bind (fun endpoints _ => ⟨⟨h.frame rfl rfl (by simp) h.pods,rfl,rfl⟩,?_⟩)
    rw [sent,peers,told,told]

/-- What is to be sent to the scheduler and to the workers. -/
abbrev told (effects : NamespaceEffects) :=
  (effects.schedulerMessages,effects.workerCommands,effects.broadcastCommands)

/-- The ports of which an event may say something that is no concern of the leases. -/
def quietPorts : List PortKind := [.artifact,.endpointDemand,.wireGuardPeer]

/-- The ports that are neither created once nor for the specs. -/
def apartPorts : List PortKind := .worker :: .scheduleLease :: quietPorts

theorem dispatchActiveWorkerEvent_pushed (h : ns.Sound) (w : WorkerId)
    (event : WorkerNamespaceEventKind) :
    Outcome (fun r => Pushed quietPorts ns r.1 ∧ told r.2 = told effects) (fun _ => True)
      (ns.dispatchActiveWorkerEvent effects w event) := by
  have notified : ∀ p status, Pushed quietPorts ns (ns.notifyPod w p status) := by
    intro p status
    unfold notifyPod
    split
    · exact (send_pushed h _).mono (by simp)
    · exact .refl h
  have same : Pushed quietPorts ns ns := .refl h
  cases event with
  | podRunning p | podExited p code | podFailed p error | podSuspendFailed p =>
    exact ⟨notified _ _,rfl⟩
  | podSuspended p artifactId =>
    simp only [dispatchActiveWorkerEvent,podSuspended]
    cases ns.getPod p with
    | none => exact ⟨same,rfl⟩
    | some sm =>
      cases artifactId with
      | none => trivial
      | some portId => exact ⟨(podSuspended_pushed h).mono (by decide),rfl⟩
  | endpointDemand ip signal =>
    simp only [dispatchActiveWorkerEvent]
    cases he : endpointByIp ns.router ip with
    | none => exact ⟨same,rfl⟩
    | some e =>
      have hlt : e < ns.router.alloc (.inl SmKind.endpoint) :=
        mem_range.mp (mem_of_find?_eq_some he)
      obtain ⟨ok,calls⟩ := EndpointDemandAdapter.pushDemand_sound h.demand h.ready (w := w) hlt
        signal
      exact ⟨(h.demandCalls ok calls).mono (by decide),rfl⟩
  | podMemoryConstrained p reason | podMemoryConstraintCleared p | podOomKill p count
  | namespaceCreated | namespaceFailed error => exact ⟨same,rfl⟩

theorem clientCommand_pushed (h : ns.Sound) (command : ClientCommand) :
    Pushed quietPorts ns (ns.clientCommand command) := by
  have admin : ∀ name cmd, Pushed quietPorts ns
      { ns with router := ns.management.sendAdminCommand ns.router name cmd } := by
    intro name cmd
    unfold ManagementAdapter.sendAdminCommand
    split
    · exact (send_pushed h _).mono (by simp)
    · exact .refl h
  cases command with
  | adminRestart name | scavenge name => exact admin name _
  | activateService name active =>
    simp only [clientCommand,ManagementAdapter.sendActivateService]
    split
    · exact (send_pushed h _).mono (by simp)
    · exact .refl h
  | connect key w => exact (wgConnect_pushed h key).mono (by decide)
  | disconnect key => exact (wgDisconnect_pushed h key).mono (by decide)

/-- The event is not about leases or the handshake with a worker. -/
def Quiet : OrchestratorToNamespace → Prop
  | .clientCommand _ | .artifactInvalidated _ => True
  | .workerEvent _ event => event ≠ .namespaceCreated ∧ ∀ error, event ≠ .namespaceFailed error
  | .workerConnected _ _ | .workerDisconnected _ | .schedulerDecision _ => False

theorem pushEvent_quiet (h : ns.Sound) (hq : Quiet event) :
    Outcome (fun r => Pushed quietPorts ns r.1 ∧ told r.2 = told effects) (fun _ => True)
      (ns.pushEvent effects event) := by
  cases event with
  | workerConnected w info | workerDisconnected w | schedulerDecision decision => exact hq.elim
  | clientCommand command => exact ⟨clientCommand_pushed h command,rfl⟩
  | artifactInvalidated portId =>
    exact ⟨(destroyPort_pushed h portId (by simp [Shared]) (by decide) (by decide)).mono (by decide),rfl⟩
  | workerEvent w event =>
    have active : Outcome (fun r => Pushed quietPorts ns r.1 ∧ told r.2 = told effects) (fun _ => True)
        (if (ns.activeWorkers w).isSome then ns.dispatchActiveWorkerEvent effects w event
          else .ok (ns,effects)) := by
      split
      · exact dispatchActiveWorkerEvent_pushed h w event
      · exact ⟨.refl h,rfl⟩
    cases event with
    | namespaceCreated => exact absurd rfl hq.1
    | namespaceFailed error => exact absurd rfl (hq.2 error)
    | _ => exact active

theorem pushEvent_pushed (h : ns.Sound) (event : OrchestratorToNamespace) :
    Outcome (fun r => Pushed apartPorts ns r.1 ∧
        r.2.schedulerMessages = effects.schedulerMessages) (fun _ => True)
      (ns.pushEvent effects event) := by
  have quiet (hq : Quiet event) : Outcome (fun r => Pushed apartPorts ns r.1 ∧
        r.2.schedulerMessages = effects.schedulerMessages) (fun _ => True)
      (ns.pushEvent effects event) :=
    (pushEvent_quiet h hq).imp (fun r hr => ⟨hr.1.mono (by decide),congrArg Prod.fst hr.2⟩)
  cases event with
  | workerConnected w info => exact ⟨(workerConnected_pushed h info).mono (by decide),rfl⟩
  | workerDisconnected w => exact ⟨(workerDisconnected_pushed h).mono (by decide),rfl⟩
  | schedulerDecision decision => exact ⟨(schedulerDecision_pushed h decision).mono (by decide),rfl⟩
  | clientCommand command | artifactInvalidated portId => exact quiet trivial
  | workerEvent w event =>
    cases event with
    | namespaceCreated =>
      exact (namespaceCreated_pushed h w).imp (fun r hr => ⟨hr.1.1.mono (by decide),hr.2⟩)
    | namespaceFailed error => exact ⟨(namespaceFailed_pushed h).mono (by decide),rfl⟩
    | _ => exact quiet ⟨nofun,nofun⟩

theorem TimerIdentity.fire_pushed (h : ns.Sound) (identity : TimerIdentity) :
    Pushed [] ns { ns with router := identity.fire ns.router } := by
  cases identity <;> exact send_pushed h _

theorem withSpec_sound (h : ns.Sound) (spec : NamespaceSpec) :
    (ns.withSpec spec).Sound ∧ Touched [.management] ns.router (ns.withSpec spec).router := by
  have applied := h.management.apply ns.currentSpec spec
  rw [ManagementAdapter.apply_shown (ns.management,ns.router)] at applied
  obtain ⟨sound,touched⟩ := applied
  refine ⟨⟨sound,h.demand.same (touched.same _ (by decide)),fun w pods hw p hm => ?_⟩,touched⟩
  have halloc : (ns.withSpec spec).router.alloc (.inl SmKind.pod) = _ := touched.alloc SmKind.pod
  rw [halloc]
  exact h.pods w pods hw p hm

/-- The addresses are no concern of the router. -/
theorem withRequests_sound (h : ns.Sound) (rel : List IpResourceKey)
    (workloads : ExtTreeMap String WorkloadSpecInput)
    (services : ExtTreeMap String ServiceSpecInput) :
    (ns.withRequests rel workloads services).2.Sound := { h with }

theorem pushOp_sound (h : ns.Sound) (op : Op) :
    Outcome (fun
      | .error ns' => ns' = ns ∨ ∃ rel workloads services,
          ns' = (ns.withRequests rel workloads services).2
      | .ok (ns',effects) => (ns'.Sound ∧ ∀ i, Shared (incNode i) →
          ns'.router.prev i = ns.router.prev i) ∧ (∀ q ∈ ns'.router.queue, q ∈ ns.router.queue) ∧
          effects.schedulerMessages = []) (fun _ => True)
      (ns.pushOp op) := by
  have shared : ∀ q, Shared q → q ∉ apartPorts := by
    rintro q (rfl | rfl | rfl | rfl | rfl) <;> decide
  refine pushOp_rule (fun event _ => ?_) (fun identity => ?_) (.inl rfl)
    (fun rel workloads services => ⟨.inr ⟨_,_,_,rfl⟩,fun spec => ?_⟩)
  · refine (pushEvent_pushed h event).imp (fun r hr => ?_)
    exact ⟨⟨hr.1.sound,fun i hi => hr.1.calls.prev i (shared _ hi)⟩,hr.1.calls.pushed.queue,hr.2⟩
  · have pushed := TimerIdentity.fire_pushed h identity
    exact ⟨⟨pushed.sound,fun i _ => pushed.calls.prev i (by simp)⟩,pushed.calls.pushed.queue,rfl⟩
  · obtain ⟨sound,touched⟩ := withSpec_sound (withRequests_sound h rel workloads services) spec
    exact ⟨⟨sound,fun i _ => touched.prev i (by cases i <;> decide)⟩,touched.pushed.queue,rfl⟩

theorem Rested.withRequests (h : ns.Rested) (rel : List IpResourceKey)
    (workloads : ExtTreeMap String WorkloadSpecInput)
    (services : ExtTreeMap String ServiceSpecInput) :
    (ns.withRequests rel workloads services).2.Rested :=
  ⟨withRequests_sound h.sound _ _ _,h.creates,h.marks,h.queue⟩

theorem newRouter_prev (i : Inc) (source : Edge × Signal) (t : Nat) :
    newRouter.prev i source t = [] := by
  simp only [newRouter,foldl_cons,foldl_nil,Router.createPort,Router.initState,Router.new]
  repeat' split
  all_goals simp [Function.update_apply]

theorem newRouter_link (e : Edge) (source t : Nat) : ¬ newRouter.link e source t := by
  simp [Router.link,newRouter,Router.createPort,Router.initState,Router.new]

theorem newRouter_holds : (base ⟨1,1⟩).Holds [] newRouter where
  tended _ id := ⟨⟨fun h => absurd rfl h,fun _ b _ => by cases b <;> rfl⟩,fun _ =>
    ⟨fun s hs => by cases s <;> cases hs <;> rfl,fun e t _ => newRouter_link e id t⟩⟩
  live_lt _ _ h := absurd rfl h
  pending c hc := nomatch hc
  distinct := .nil
  link_lt e _ source t _ hl := absurd hl (newRouter_link e source t)
  dirty_lt b t hc := nomatch hc
  queued q hc := nomatch hc
  node _ _ _ h := nomatch h

theorem newRouter_ready : Ready ⟨1,1⟩ newRouter where
  positive := Nat.one_pos
  holds := newRouter_holds
  specs id spec ho := by
    have hnone : newRouter.out Signal.managementSvcSpec id = none := rfl
    cases hnone.symm.trans ho
  fresh x t _ hp := by
    rcases x with b | i
    · rcases hp with hp | ⟨c,hc,_⟩
      · exact absurd rfl hp
      · cases hc
    · refine .inr (.inr (fun source _ => ?_))
      rw [newRouter_prev,Router.collect_eq_nil (fun id => newRouter_link source.1 id t)]
  snapshots i source t := by
    rw [newRouter_prev]
    exact .nil
  auto _ _ e id t _ hl := absurd hl (newRouter_link e id t)
  shared p hp := by
    rcases hp with rfl | rfl | rfl | rfl | rfl <;> rfl

theorem new_entry (k : Side × String) : ManagementAdapter.new.seen.entry k = none := by
  rcases k with ⟨_ | _,_⟩ <;> simp [ManagementAdapter.seen,ManagementAdapter.new]

theorem new_rested (namespaceId : NamespaceId) (network : NetworkConfig) :
    (new namespaceId network).Rested where
  sound :=
    { management :=
        { ready := newRouter_ready
          entry := fun d name w id hn => by cases (new_entry (d,name)).symm.trans hn
          unique := fun k _ _ _ _ _ hn => by cases (new_entry k).symm.trans hn
          linked := fun _ id x hl => absurd hl (newRouter_link _ id x) }
      demand := ⟨by simp [new],by simp [new]⟩
      pods := by simp [new] }
  creates := rfl
  marks x hx := nomatch hx
  queue := rfl

/-- Nothing more than soundness is kept. -/
theorem cycleKeeps_sound : CycleKeeps ns₀ (fun _ _ => True) (fun _ _ => True) (fun _ _ => True) where
  propagate _ _ _ _ _ _ _ := trivial
  settle ns _ _ _ _ _ _ _ _ _ := by
    split <;> trivial

theorem Rested.step (h : ns.Rested) (op : Op) :
    Outcome (fun r => r.1.Rested) (fun _ => True) (ns.step fuel op) := by
  rw [step_eq]
  refine (pushOp_sound h.sound op).bind (fun r hr => ?_)
  cases r with
  | error ns' =>
    rcases hr with rfl | ⟨rel,workloads,services,rfl⟩
    · exact h
    · exact h.withRequests rel workloads services
  | ok r =>
    refine (cycleKeeps_sound.runCycle hr.1.1 trivial).imp (fun r' hr' => ?_)
    obtain ⟨ns',effects',ended,_,rfl⟩ := hr'
    exact ended.rested

end Namespace

end Distvirt
