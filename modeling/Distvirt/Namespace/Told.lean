import Distvirt.Namespace.Rest
import Distvirt.SmRouter.Hosts
import Distvirt.Worker.Commands

/-! A namespace speaks only to workers that it was told of: its worker ports, what is queued for
them and both stages of the handshake are about such workers. -/

namespace Distvirt

open Std (ExtTreeMap)
open Function List Ns SmRouter PortKind

/-- The command makes a worker look up no other namespace. -/
def WorkerCommand.About (id : NamespaceId) (c : WorkerCommand) : Prop :=
  ∀ id', c.lookedUp = some id' → id' = id

theorem WorkerCommand.About.some {id : NamespaceId} {c : WorkerCommand}
    (hc : c.lookedUp = some id) : c.About id :=
  fun _ hc' => (Option.some.inj (hc.symm.trans hc')).symm

/-- Commands that need the namespace go to workers of the set, and all are about `id`. -/
structure NamespaceEffects.Within (S : WorkerId → Prop) (id : NamespaceId)
    (effects : NamespaceEffects) : Prop where
  commands : ∀ e ∈ effects.workerCommands, e.2.About id ∧ (e.2.lookedUp ≠ none → S e.1)
  broadcasts : ∀ c ∈ effects.broadcastCommands, c.About id

namespace NamespaceEffects.Within

variable {S : WorkerId → Prop} {id : NamespaceId} {effects : NamespaceEffects} {w : WorkerId}
  {c : WorkerCommand}

theorem empty : Within S id {} := ⟨by simp,by simp⟩

theorem command (h : effects.Within S id) (hc : c.About id) (hw : c.lookedUp ≠ none → S w) :
    (effects.command w c).Within S id where
  commands e he := by
    rcases mem_append.mp he with he | he
    · exact h.commands e he
    · rw [mem_singleton] at he
      subst he
      exact ⟨hc,hw⟩
  broadcasts := h.broadcasts

theorem broadcast (h : effects.Within S id) (hc : c.About id) : (effects.broadcast c).Within S id where
  commands := h.commands
  broadcasts c' hc' := by
    rcases mem_append.mp hc' with hc' | hc'
    · exact h.broadcasts c' hc'
    · rw [mem_singleton] at hc'
      subst hc'
      exact hc

theorem same (h : effects.Within S id) (he : Namespace.told effects' = Namespace.told effects) :
    effects'.Within S id := by
  simp only [Prod.mk.injEq] at he
  exact ⟨he.2.1 ▸ h.commands,he.2.2 ▸ h.broadcasts⟩

theorem foldl {l : List α}
    (hf : ∀ effects, ∀ a ∈ l, effects.Within S id → (f effects a).Within S id)
    (h : effects.Within S id) : (l.foldl f effects).Within S id := by
  induction l generalizing effects with
  | nil => exact h
  | cons a l ih =>
    exact ih (fun effects b hb => hf effects b (mem_cons_of_mem _ hb))
      (hf effects a (mem_cons_self ..) h)

end NamespaceEffects.Within

def PodAssignmentAction.workerId : PodAssignmentAction → WorkerId
  | .launch w _ _ | .resume w _ _ _ | .stop w _ | .suspend w _ => w

/-- Ports of workers are those of the set. -/
def workersIn (S : WorkerId → Prop) (p : PortKind) (id : Nat) : Prop := p = .worker → S id

abbrev HostedIn (S : WorkerId → Prop) (r : DRouter) : Prop :=
  Router.Hosted (T := topology) (workersIn S) r

/-- The ports of workers stay, and nothing more is queued. -/
theorem HostedIn.same (h : HostedIn S r) (hw : Router.SamePort worker r r')
    (hq : ∀ q ∈ r'.queue, q ∈ r.queue) : HostedIn S r' where
  ports p id hp hc := by
    subst hc
    exact h.ports worker id (hw.ports ▸ hp) rfl
  queue q hm := h.queue q (hq q hm)

namespace Namespace

variable {S : WorkerId → Prop} {ns ns' : Namespace} {effects : NamespaceEffects} {w : WorkerId}
  {id : NamespaceId}

/-- The workers of the ports and of the handshake are of the set, and what is held back for them is
about the namespace. -/
structure Linked (S : WorkerId → Prop) (id : NamespaceId) (ns : Namespace) : Prop where
  named : ns.namespaceId = id
  hosted : HostedIn S ns.router
  pending : ∀ w, (ns.pendingWorkers w).isSome → S w
  active : ∀ w, (ns.activeWorkers w).isSome → S w
  buffered : ∀ w, ∀ c ∈ ns.bufferedWorkerCommands w, c.About id

structure Told (S : WorkerId → Prop) (id : NamespaceId) (ns : Namespace) : Prop
    extends Linked S id ns where
  sound : ns.Sound

/-- Only the connection of a worker lets a new worker in. -/
def Told.Allowed (S : WorkerId → Prop) : Op → Prop
  | .event (.workerConnected w _) => S w
  | _ => True

theorem Told.mono (h : ns.Told S id) (hS : ∀ w, S w → S' w) : ns.Told S' id where
  named := h.named
  hosted := h.hosted.mono (fun _ _ hp hc => hS _ (hp hc))
  pending w hw := hS w (h.pending w hw)
  active w hw := hS w (h.active w hw)
  buffered := h.buffered
  sound := h.sound

theorem Told.init (id : NamespaceId) (network : NetworkConfig) : (new id network).Told S id where
  named := rfl
  hosted := by
    refine ⟨fun p id' hp hc => ?_,fun q hq => ?_⟩
    · subst hc
      simp only [new,newRouter,foldl_cons,foldl_nil,Router.createPort,Router.initState] at hp
      cases hp
    · rw [(new_rested id network).queue] at hq
      cases hq
  pending w h := by simp [new] at h
  active w h := by simp [new] at h
  buffered w c h := by simp [new] at h
  sound := (new_rested id network).sound

namespace Linked

/-- A change of the router and of what the handshake does not use. -/
theorem frame (h : ns.Linked S id) (hr : HostedIn S ns'.router) (hs : ns'.handshake = ns.handshake) :
    ns'.Linked S id := by
  simp only [handshake,Prod.mk.injEq] at hs
  obtain ⟨hid,hp,ha,hb⟩ := hs
  exact ⟨hid.trans h.named,hr,hp ▸ h.pending,ha ▸ h.active,hb ▸ h.buffered⟩

/-- Calls on the ports of other kinds. -/
theorem quiet (h : ns.Linked S id) (hp : Pushed ps ns ns') (hw : worker ∉ ps)
    (hl : scheduleLease ∉ ps) : ns'.Linked S id :=
  h.frame (h.hosted.same (hp.calls.same _ hw) hp.calls.pushed.queue) (hp.kept hw hl).2

theorem foldl {f : Namespace → α → Namespace} (hf : ∀ ns a, ns.Linked S id → (f ns a).Linked S id)
    (l : List α) : ∀ ns : Namespace,
      ns.Linked S id → (l.foldl f ns).Linked S id := by
  induction l with
  | nil => exact fun _ h => h
  | cons a l ih => exact fun ns h => ih _ (hf ns a h)

theorem not_worker {p : PortKind} (hp : p ≠ .worker) (id : Nat) : workersIn S p id :=
  fun hc => absurd hc hp

theorem addPodToWorker (h : ns.Linked S id) : (ns.addPodToWorker w p).Linked S id :=
  h.frame h.hosted.setEdges rfl

theorem removePodFromWorker (h : ns.Linked S id) : (ns.removePodFromWorker p).Linked S id := by
  unfold Namespace.removePodFromWorker
  split
  · exact h
  · simp only
    split
    · exact h.frame h.hosted rfl
    · exact h.frame h.hosted.setEdges rfl

theorem applyGrant (h : ns.Linked S id) : (ns.applyGrant w p).Linked S id := by
  unfold Namespace.applyGrant
  split
  · exact h
  · refine Linked.addPodToWorker (h.frame ?_ rfl)
    exact ((h.hosted.createPortAuto (not_worker (by decide))).setSignal).setEdges

theorem forgetWorkerPods (h : ns.Linked S id) : (ns.forgetWorkerPods w).Linked S id := by
  unfold Namespace.forgetWorkerPods
  split
  · exact h
  · exact h.frame h.hosted rfl

/-- A worker enters a stage of the handshake, or leaves it. -/
theorem update_some {f : WorkerId → Option α} (hf : ∀ w', (f w').isSome → S w') (hw : S w) :
    ∀ w', (update f w (some a) w').isSome → S w' :=
  (forall_update_iff f (fun w o => o.isSome → S w)).mpr ⟨fun _ => hw,fun w' _ => hf w'⟩

theorem update_none {f : WorkerId → Option α} (hf : ∀ w', (f w').isSome → S w') :
    ∀ w', (update f w none w').isSome → S w' :=
  (forall_update_iff f (fun w o => o.isSome → S w)).mpr ⟨by simp,fun w' _ => hf w'⟩

theorem workerConnected (h : ns.Linked S id) (hw : S w) (info : WorkerInfo) :
    (ns.workerConnected w info).Linked S id := by
  refine foldl (fun ns g h => h.applyGrant) _ _ ?_
  exact ⟨h.named,(h.hosted.createPort (fun _ => hw)).setSignal,update_some h.pending hw,h.active,
    h.buffered⟩

/-- Other commands are held back for a worker. -/
theorem update_held (h : ns.Linked S id) {held : List WorkerCommand}
    (hl : ∀ c ∈ held, c.About id) :
    ∀ w', ∀ c ∈ update ns.bufferedWorkerCommands w held w', c.About id :=
  (forall_update_iff _ (fun _ l => ∀ c ∈ l, WorkerCommand.About id c)).mpr
    ⟨hl,fun w' _ => h.buffered w'⟩

theorem dropWorkerQueues (h : ns.Linked S id) : (ns.dropWorkerQueues w).Linked S id :=
  ⟨h.named,h.hosted,h.pending,h.active,h.update_held (by simp)⟩

theorem workerDisconnected (h : ns.Linked S id) : (ns.workerDisconnected w).Linked S id := by
  have left : ({ ns with
      activeWorkers := update ns.activeWorkers w none
      pendingWorkers := update ns.pendingWorkers w none } : Namespace).Linked S id :=
    ⟨h.named,h.hosted,update_none h.pending,update_none h.active,h.buffered⟩
  have dropped := left.dropWorkerQueues (w := w)
  have forgot := dropped.forgetWorkerPods (w := w)
  simp only [Namespace.workerDisconnected]
  split
  · split
    · refine forgot.frame (Router.Hosted.destroyPort ?_) rfl
      exact Router.Hosted.foldl (T := topology) (fun r e hr => hr.destroyPort) _ _ forgot.hosted
    · exact forgot.frame forgot.hosted.destroyPort rfl
  · exact dropped

theorem namespaceFailed (h : ns.Linked S id) : (ns.namespaceFailed w).Linked S id := by
  have left : ({ ns with
      pendingWorkers := update ns.pendingWorkers w none } : Namespace).Linked S id :=
    ⟨h.named,h.hosted,update_none h.pending,h.active,h.buffered⟩
  have forgot := (left.dropWorkerQueues (w := w)).forgetWorkerPods (w := w)
  exact forgot.frame forgot.hosted.destroyPort rfl

theorem schedulerDecision (h : ns.Linked S id) (decision : SchedulerDecision) :
    (ns.schedulerDecision decision).Linked S id := by
  cases decision with
  | grant p w =>
    simp only [Namespace.schedulerDecision]
    split
    · exact h.applyGrant
    · exact h.frame h.hosted rfl
  | revoke p w =>
    simp only [Namespace.schedulerDecision]
    cases ns.leases p with
    | none => exact h.removePodFromWorker
    | some leaseId => exact Linked.removePodFromWorker (h.frame h.hosted.destroyPort rfl)

/-- What a step keeps: the invariant, and effects within bounds. -/
def Kept (S : WorkerId → Prop) (id : NamespaceId) (ns : Namespace) (effects : NamespaceEffects) :
    Prop :=
  ns.Linked S id ∧ effects.Within S id

/-- The worker has been told before it may confirm. -/
theorem namespaceCreated (h : Kept S id ns effects) (w : WorkerId) :
    Outcome (fun r => Kept S id r.1 r.2) (fun _ => True) (ns.namespaceCreated effects w) := by
  obtain ⟨h,heff⟩ := h
  unfold Namespace.namespaceCreated
  cases hw : ns.pendingWorkers w with
  | none => exact ⟨h,heff⟩
  | some info =>
    rw [h.named]
    have told : S w := h.pending w (by rw [hw]; rfl)
    have about : ∀ (c : WorkerCommand) (effects : NamespaceEffects), c.About id →
        effects.Within S id → (effects.command w c).Within S id :=
      fun c effects hc he => he.command hc (fun _ => told)
    refine Outcome.bind (P := fun _ => True) ?_ (fun endpoints _ => ⟨?_,?_⟩)
    · cases mapM buildEndpointSpec _ with
      | ok a => trivial
      | error e => trivial
    · exact ⟨rfl,h.hosted,update_none h.pending,update_some h.active told,h.update_held (by simp)⟩
    · refine NamespaceEffects.Within.foldl (fun e c hc he => about c e (h.buffered w c hc) he) ?_
      refine NamespaceEffects.Within.foldl (fun e info _ he => ?_) ?_
      · exact about _ e (fun _ hc => nomatch hc) he
      · have synced : ∀ entries : List RegistryEntry, (if entries.isEmpty then effects
            else effects.command w (.registrySync id entries)).Within S id := by
          intro entries
          split
          · exact heff
          · exact about _ _ (.some rfl) heff
        simp only
        split
        · exact synced _
        · exact about _ _ (.some rfl) (synced _)

theorem pushEvent (h : ns.Linked S id) (hs : ns.Sound) (hop : Told.Allowed S (.event event)) :
    Outcome (fun r => Kept S id r.1 r.2) (fun _ => True) (ns.pushEvent {} event) := by
  have quiet (hq : Quiet event) : Outcome (fun r => Kept S id r.1 r.2) (fun _ => True)
      (ns.pushEvent {} event) :=
    (pushEvent_quiet hs hq).imp
      (fun r hr => ⟨h.quiet hr.1 (by decide) (by decide),.same .empty hr.2⟩)
  cases event with
  | workerConnected w info => exact ⟨h.workerConnected hop info,.empty⟩
  | workerDisconnected w => exact ⟨h.workerDisconnected,.empty⟩
  | workerEvent w event =>
    cases event with
    | namespaceCreated => exact namespaceCreated ⟨h,.empty⟩ w
    | namespaceFailed error => exact ⟨h.namespaceFailed,.empty⟩
    | _ => exact quiet ⟨nofun,nofun⟩
  | schedulerDecision decision => exact ⟨h.schedulerDecision decision,.empty⟩
  | clientCommand command | artifactInvalidated portId => exact quiet trivial

/-- Before the cycle of a step. -/
def PushedOk (S : WorkerId → Prop) (id : NamespaceId) :
    Except Namespace (Namespace × NamespaceEffects) → Prop
  | .error ns => Kept S id ns {} ∧ ns.Sound
  | .ok (ns,effects) => Kept S id ns effects ∧ ns.Sound

theorem pushOp (h : ns.Linked S id) (hs : ns.Sound) (hop : Told.Allowed S op) :
    Outcome (PushedOk S id) (fun _ => True) (ns.pushOp op) := by
  refine pushOp_rule (fun event heq => ?_) (fun identity => ?_) ⟨⟨h,.empty⟩,hs⟩
    (fun rel workloads services => ?_)
  · exact ((h.pushEvent hs (heq ▸ hop)).and (pushEvent_pushed hs event)).imp
      (fun r hr => ⟨hr.1,hr.2.1.sound⟩)
  · have pushed := TimerIdentity.fire_pushed hs identity
    exact ⟨⟨h.quiet pushed (by simp) (by simp),.empty⟩,pushed.sound⟩
  · have sound := withRequests_sound hs rel workloads services
    have asked : (ns.withRequests rel workloads services).2.Linked S id := h.frame h.hosted rfl
    refine ⟨⟨⟨asked,.empty⟩,sound⟩,fun spec => ?_⟩
    obtain ⟨sound',frame⟩ := withSpec_sound sound spec
    exact ⟨⟨asked.frame (asked.hosted.same (frame.same _ (by decide)) frame.pushed.queue) rfl,.empty⟩,
      sound'⟩

/-- What is drained from the ports of workers is for workers of the set. -/
theorem reconcile (h : ns.Linked S id) (hs : ns.Sound) : ns.reconcile.2.2.Linked S id ∧
    ∀ a ∈ ns.reconcile.1.podActions, S a.workerId := by
  have drained := (h.hosted.drain (p := timer)).drain (p := scheduleRequest)
  refine ⟨h.quiet (reconcile_pushed hs) (by decide) (by decide),fun a ha => ?_⟩
  · obtain ⟨q,hq,ha⟩ := mem_filterMap.mp ha
    obtain ⟨hq,hp⟩ := mem_filter.mp hq
    have hosted := drained.queue q hq
    obtain ⟨w,i,delta⟩ := q
    cases i <;> simp only [reduceCtorEq,Option.some.injEq] at ha
    subst ha
    cases delta <;> exact hosted rfl

theorem sendOrBuffer (h : Kept S id ns effects) (hc : c.About id) :
    Kept S id (ns.sendOrBuffer effects w c).1 (ns.sendOrBuffer effects w c).2 := by
  obtain ⟨ht,heff⟩ := h
  unfold Namespace.sendOrBuffer
  split
  · rename_i hw
    exact ⟨ht,heff.command hc (fun _ => ht.active w hw)⟩
  · refine ⟨⟨ht.named,ht.hosted,ht.pending,ht.active,ht.update_held (fun c' hm => ?_)⟩,heff⟩
    rcases mem_append.mp hm with hm | hm
    · exact ht.buffered w c' hm
    · rw [mem_singleton] at hm
      exact hm ▸ hc

theorem collectPod (h : Kept S id ns effects) (ha : S a.workerId) :
    Outcome (fun r => Kept S id r.1 r.2) (fun _ => True) (collectPod (ns,effects) a) := by
  have ⟨ht,heff⟩ := h
  have hid := congrArg some ht.named
  cases a with
  | launch w p spec =>
    simp only [Namespace.collectPod,buildLaunchCommand]
    cases ns.podNetwork spec with
    | error fault => trivial
    | ok network => exact sendOrBuffer h (.some hid)
  | resume w p artifactId spec =>
    simp only [Namespace.collectPod,buildResumeCommand]
    cases ns.defaultPool w with
    | none => trivial
    | some poolId =>
      cases ns.podNetwork spec with
      | error fault => trivial
      | ok network => exact sendOrBuffer h (.some hid)
  | stop w p => exact ⟨ht,heff.command (.some hid) (fun _ => ha)⟩
  | suspend w p =>
    simp only [Namespace.collectPod]
    cases ns.defaultPool w with
    | none => trivial
    | some poolId => exact ⟨ht.frame ht.hosted rfl,heff.command (.some hid) (fun _ => ha)⟩

theorem collectEndpoint (hid : ns.namespaceId = id) (heff : effects.Within S id)
    (action : EndpointAction) :
    Outcome (NamespaceEffects.Within S id) (fun _ => True) (ns.collectEndpoint effects action) := by
  subst hid
  cases action with
  | update endpointId info =>
    simp only [Namespace.collectEndpoint,buildEndpointCommand]
    cases buildEndpointSpec info with
    | error f => trivial
    | ok spec => exact heff.broadcast (.some rfl)
  | remove endpointId info => exact heff.broadcast (.some rfl)
  | wireGuardPeerUpdate peerId info =>
    refine (heff.broadcast (.some rfl)).command ?_ ?_
    · exact fun _ hc => by cases hc
    · exact fun hc => absurd rfl hc
  | wireGuardPeerRemove peerId info =>
    exact (heff.broadcast (.some rfl)).broadcast (fun _ hc => by cases hc)

theorem collectDns (hid : ns.namespaceId = id) (heff : effects.Within S id)
    (actions : List DnsRegistryAction) : (ns.collectDns effects actions).Within S id := by
  simp only [Namespace.collectDns]
  split
  · exact heff
  · exact heff.broadcast (.some (congrArg some hid))

theorem collectSchedule (heff : effects.Within S id) (delta : ScheduleRequestDelta) :
    (ns.collectSchedule effects delta).Within S id := by
  cases delta <;> exact ⟨heff.commands,heff.broadcasts⟩

theorem collectEffects (h : Kept S id ns effects) (hact : ∀ a ∈ actions.podActions, S a.workerId) :
    Outcome (fun r => Kept S id r.1 r.2) (fun _ => True) (ns.collectEffects actions effects) := by
  obtain ⟨ht,heff⟩ := h
  have timed : NamespaceEffects.Within S id
      { effects with timerActions := effects.timerActions ++ actions.timerActions } :=
    ⟨heff.commands,heff.broadcasts⟩
  have scheduled := NamespaceEffects.Within.foldl (l := actions.scheduleDeltas)
    (f := ns.collectSchedule) (fun e delta _ he => collectSchedule he delta) timed
  refine Outcome.bind (P := fun r => Kept S id r.1 r.2) ?_ (fun r hr => ?_)
  · refine Outcome.foldlM (I := fun l r => Kept S id r.1 r.2 ∧
      ∀ a ∈ l, S a.workerId) (fun a l r hr => ?_) _ _ ⟨⟨ht,scheduled⟩,hact⟩ |>.imp
        (fun r hr => hr.1)
    exact (collectPod hr.1 (hr.2 a (mem_cons_self ..))).imp
      (fun _ hk => ⟨hk,fun b hb => hr.2 b (mem_cons_of_mem _ hb)⟩)
  · obtain ⟨ht',heff'⟩ := hr
    refine Outcome.bind (P := NamespaceEffects.Within S id) ?_ (fun e he => ?_)
    · exact Outcome.foldlM (I := fun _ e => NamespaceEffects.Within S id e)
        (fun a _ e he => collectEndpoint ht'.named he a) _ _ heff'
    · have named := collectDns ht'.named he actions.dnsRegistryActions
      exact ⟨ht',named.commands,named.broadcasts⟩

/-- What a cycle keeps. -/
def Running (S : WorkerId → Prop) (id : NamespaceId) (ns : Namespace) (effects : NamespaceEffects) :
    Prop :=
  Kept S id ns effects ∧ ns.Sound

theorem rule (S : WorkerId → Prop) (id : NamespaceId) :
    Rule (Running S id) (Running S id) (Running S id) (fun _ => True) where
  propagate ns effects h := by
    unfold Namespace.propagate
    split
    · rename_i r hr
      exact ⟨⟨h.1.1.frame (h.1.1.hosted.propagate hr) rfl,h.1.2⟩,(h.2.propagate hr).1⟩
    · trivial
  settle ns effects h := by
    obtain ⟨⟨ht,heff⟩,hs⟩ := h
    obtain ⟨ht,hact⟩ := ht.reconcile hs
    refine ((collectEffects ⟨ht,heff⟩ hact).and (collectEffects_collected _)).map (fun r hr => ?_)
    have kept : Running S id r.1 r.2 := ⟨hr.1,hr.2.1.sound (reconcile_pushed hs).sound⟩
    split <;> exact kept
  fuel := trivial

theorem finalize (h : Running S id ns effects) :
    Running S id (ns.finalize effects).1 (ns.finalize effects).2 := by
  obtain ⟨⟨ht,heff⟩,hs⟩ := h
  have pushed : Pushed [.artifact] ns (ns.finalize effects).1 := finalize_pushed hs
  refine ⟨⟨ht.quiet pushed (by decide) (by decide),?_⟩,pushed.sound⟩
  refine NamespaceEffects.Within.foldl (fun e action _ he => ?_) heff
  cases action <;> exact ⟨he.commands,he.broadcasts⟩

end Linked

/-- A step keeps the set of workers, and its commands go to workers of the set. -/
theorem Told.step (h : ns.Told S id) (hop : Told.Allowed S op) :
    Outcome (fun r => r.1.Told S id ∧ r.2.Within S id) (fun _ => True) (ns.step fuel op) := by
  rw [step_eq]
  refine (h.pushOp h.sound hop).bind (fun pushed hp => ?_)
  cases pushed with
  | error ns' => exact ⟨⟨hp.1.1,hp.2⟩,hp.1.2⟩
  | ok r =>
    exact ((Linked.rule S id).runCycle (fun _ _ hk => Linked.finalize hk) hp).imp
      (fun r hr => ⟨⟨hr.1.1,hr.2⟩,hr.1.2⟩)

end Namespace

end Distvirt
