import Distvirt.Namespace.Steps
import Distvirt.Namespace.Ports

/-! Every step of a namespace leaves its adapters and its router fitting together. -/

namespace Distvirt

open Std (ExtTreeMap)
open Function List Ns SmRouter PortKind Router SmKind

/-- Calls on the ports of some kinds, and the sending of events. -/
structure Calls (ps : List PortKind) (n : Bounds) (r r' : DRouter) : Prop extends Touched ps r r' where
  ready : Ready n r'
  marks : ∀ x ∈ r'.dirty, x ∈ r.dirty ∨ ∃ q ∈ ps, FedBy q x.1
  creates : r'.pendingCreates = r.pendingCreates

namespace Calls

variable {ps : List PortKind} {r : DRouter} {id : Nat}

theorem refl (h : Ready n r) : Calls ps n r r := ⟨.refl,h,fun _ hx => .inl hx,rfl⟩

theorem trans (h : Calls ps n r r') (h' : Calls ps n r' r'') : Calls ps n r r'' where
  toTouched := h.toTouched.trans h'.toTouched
  ready := h'.ready
  marks x hx := (h'.marks x hx).elim (h.marks x) .inr
  creates := h'.creates.trans h.creates

theorem mono (h : Calls ps n r r') (hps : ∀ q ∈ ps, q ∈ ps') : Calls ps' n r r' :=
  { h with
    same := fun q hq => h.same q (fun hc => hq (hps q hc))
    prev := fun i hi => h.prev i (fun hc => hi (hps _ hc))
    marks := fun x hx => (h.marks x hx).imp_right (fun ⟨q,hq,hf⟩ => ⟨q,hps q hq,hf⟩) }

theorem setSignal (h : Ready n r) (hn : node s = .inr q) (hq : q ∈ ps)
    (hf : r.out s id ≠ none ∨ q = .worker ∨ q = .artifact) (hs : s ≠ .managementSvcSpec) :
    Calls ps n r (r.setSignal s id value) where
  toTouched := .setSignal hn hq
  ready := h.setSignal hn hf (.inl hs)
  marks _ hx := (marks_setSignal hn hx).imp_right (fun hf => ⟨q,hq,hf⟩)
  creates := setSignal_pendingCreates

theorem setEdges (h : Ready n r) (hn : (ends e).1 = .inr q) (hq : q ∈ ps)
    (hid : Auto q → id < r.alloc (.inr q))
    (hlt : ∀ k, (ends e).2 = .inl k → ∀ t ∈ targets, t < bound n r.alloc k) :
    Calls ps n r (r.setEdges e id targets) where
  toTouched := .setEdges hn hq
  ready := h.setEdges hn hid hlt
  marks _ hx := (marks_setEdges hn hx).imp_right (fun hf => ⟨q,hq,hf⟩)
  creates := rfl

theorem createPort (h : Ready n r) (hq : q ∈ ps) (hc : q = .worker ∨ q = .artifact) :
    Calls ps n r (r.createPort q id) :=
  ⟨.createPort hq,h.createPort hc,fun _ hx => .inl hx,rfl⟩

theorem createPortAuto (h : Ready n r) (hq : q ∈ ps) (hc : Auto q) :
    Calls ps n r (r.createPortAuto q).2 :=
  ⟨.createPortAuto hq,h.createPortAuto hc,fun _ hx => .inl hx,rfl⟩

/-- A new port gets its signal and its edges. -/
theorem openPort (h : Ready n r) (hq : q ∈ ps) (hc : Auto q) (hn : node s = .inr q)
    (hs : s ≠ .managementSvcSpec) (he : (ends e).1 = .inr q)
    (hlt : ∀ k, (ends e).2 = .inl k → ∀ t ∈ targets, t < bound n r.alloc k) :
    Calls ps n r (((r.createPortAuto q).2.setSignal s (r.alloc (.inr q)) value).setEdges e
      (r.alloc (.inr q)) targets) := by
  have created : Calls ps n r (r.createPortAuto q).2 := .createPortAuto h hq hc
  have signal : Calls ps n (r.createPortAuto q).2
      ((r.createPortAuto q).2.setSignal s (r.alloc (.inr q)) value) := by
    refine .setSignal created.ready hn hq (.inl ?_) hs
    have hout : (r.createPortAuto q).2.out s (r.alloc (.inr q)) = _ :=
      createPortAuto_out_self hn
    rw [hout]
    exact Option.some_ne_none _
  have halloc : ((r.createPortAuto q).2.setSignal s (r.alloc (.inr q)) value).alloc =
      update r.alloc (.inr q) (r.alloc (.inr q) + 1) := setSignal_alloc
  refine (created.trans signal).trans (.setEdges signal.ready he hq (fun _ => ?_)
    (fun k hk t ht => ?_))
  · rw [halloc,update_self]
    exact Nat.lt_succ_self _
  · rw [halloc]
    cases k <;> simpa [bound] using hlt _ hk t ht

theorem destroyPort (h : Ready n r) (hq : q ∈ ps) (hs : ¬ Shared q) :
    Calls ps n r (r.destroyPort q id) where
  toTouched := .destroyPort hq hs
  ready := h.destroyPort hs
  marks _ hx := (marks_destroyPort hx).imp_right (fun hf => ⟨q,hq,hf⟩)
  creates := destroyPort_pendingCreates

theorem send (h : Ready n r) (ev : topology.PendingEvent) : Calls ps n r (r.send ev) :=
  ⟨⟨.send,fun _ _ => .send,fun _ _ => rfl,fun _ => rfl⟩,h.send ev,fun _ hx => .inl hx,rfl⟩

theorem drain (h : Ready n r) (q : PortKind) : Calls ps n r (r.drain q).2 :=
  ⟨⟨.drain,fun _ _ => .drain,fun _ _ => rfl,fun _ => rfl⟩,h.drain q,fun _ hx => .inl hx,rfl⟩

theorem drains (qs : List PortKind) (h : Ready n r) :
    Calls ps n r (qs.foldl (fun r q => (r.drain q).2) r) := by
  induction qs generalizing r with
  | nil => exact .refl h
  | cons q qs ih =>
    have first : Calls ps n r (r.drain q).2 := .drain h q
    exact first.trans (ih first.ready)

end Calls

/-- Each entry of the demand adapter has a port of its own. -/
structure EndpointDemandAdapter.Ok (d : EndpointDemandAdapter) (r : DRouter) : Prop where
  entry : ∀ w e id, ((w,e),id) ∈ d.ports → id < r.alloc (.inr PortKind.endpointDemand) ∧
    r.out Signal.endpointDemandActive id ≠ none
  distinct : (d.ports.map Prod.snd).Nodup

namespace EndpointDemandAdapter

variable {d : EndpointDemandAdapter} {r : DRouter}

theorem Ok.same (h : d.Ok r) (hr : Router.SamePort endpointDemand r r') : d.Ok r' where
  entry w e id hm := by
    obtain ⟨hid,ho⟩ := h.entry w e id hm
    refine ⟨?_,?_⟩
    · rw [hr.alloc]
      exact hid
    · rw [hr.out _ rfl]
      exact ho
  distinct := h.distinct

theorem Ok.setSignal (h : d.Ok r) {id : Nat} :
    d.Ok (r.setSignal Signal.endpointDemandActive id value) := by
  have halloc : (r.setSignal Signal.endpointDemandActive id value).alloc = r.alloc :=
    setSignal_alloc
  refine ⟨fun w e id' hm => ?_,h.distinct⟩
  obtain ⟨hid,ho⟩ := h.entry w e id' hm
  refine ⟨?_,setSignal_out_ne ho⟩
  rw [halloc]
  exact hid

theorem ensurePort_sound (h : d.Ok r) (ready : Ready n r) (key : WorkerId × EndpointId)
    (hlive : key.2 < r.alloc (.inl endpoint)) :
    (d.ensurePort r key).2.1.Ok (d.ensurePort r key).2.2 ∧
      (key,(d.ensurePort r key).1) ∈ (d.ensurePort r key).2.1.ports ∧
      Calls [.endpointDemand] n r (d.ensurePort r key).2.2 := by
  unfold ensurePort
  cases hl : d.ports.lookup key with
  | some id => exact ⟨h,mem_of_lookup hl,.refl ready⟩
  | none =>
    have created : Calls [.endpointDemand] n r (r.createPortAuto endpointDemand).2 :=
      .createPortAuto ready (by simp) (.inr (.inr (.inl rfl)))
    refine ⟨⟨?_,?_⟩,mem_append_right _ (by simp),
      created.trans (.setEdges created.ready rfl (by simp) (fun _ => ?_) (fun k hk t ht => ?_))⟩
    · intro w e id hm
      rcases mem_append.mp hm with hm | hm
      · obtain ⟨hid,ho⟩ := h.entry w e id hm
        have hne := Nat.ne_of_lt hid
        refine ⟨?_,?_⟩
        · simp only [setEdges,createPortAuto_alloc,update_self]
          exact Nat.lt_succ_of_lt hid
        · simp only [setEdges,createPortAuto_out hne]
          exact ho
      · rw [mem_singleton] at hm
        cases hm
        refine ⟨?_,?_⟩
        · simp [setEdges,createPortAuto_alloc]
        · simp [setEdges,createPortAuto,createPort,initState,node]
    · rw [map_append]
      refine nodup_append.mpr ⟨h.distinct,by simp,?_⟩
      intro id hid id' hm'
      obtain ⟨⟨⟨w,e⟩,id⟩,hm,rfl⟩ := mem_map.mp hid
      simp only [map_cons,map_nil,mem_singleton] at hm'
      subst hm'
      exact Nat.ne_of_lt (h.entry w e id hm).1
    · simp [createPortAuto_alloc]
    · cases hk
      rw [mem_singleton] at ht
      subst ht
      exact hlive

theorem pushDemand_sound (h : d.Ok r) (ready : Ready n r)
    (hlive : e < r.alloc (.inl endpoint)) (signal : EndpointDemandSignal) :
    (d.pushDemand r w e signal).1.Ok (d.pushDemand r w e signal).2 ∧
      Calls [.endpointDemand] n r (d.pushDemand r w e signal).2 := by
  obtain ⟨ok,hm,calls⟩ := ensurePort_sound h ready (w,e) hlive
  cases signal with
  | active active =>
    obtain ⟨_,ho⟩ := ok.entry w e _ hm
    exact ⟨ok.setSignal,calls.trans (.setSignal calls.ready rfl (by simp) (.inl ho) (by decide))⟩
  | traffic => exact ⟨ok.same .send,calls.trans (.send calls.ready _)⟩

theorem Ok.perm (h : d.Ok r) {ports : List ((WorkerId × EndpointId) × EndpointDemandId)}
    (hp : ports.Perm d.ports) : Ok ⟨ports⟩ r where
  entry w e id hm := h.entry w e id (hp.subset hm)
  distinct := (hp.map Prod.snd).nodup_iff.mpr h.distinct

/-- A port goes together with its entry. -/
theorem Ok.destroy (h : d.Ok r) {ports : List ((WorkerId × EndpointId) × EndpointDemandId)}
    {id : Nat} (hsub : ports.Sublist d.ports) (hid : ∀ key, (key,id) ∉ ports) :
    Ok ⟨ports⟩ (r.destroyPort endpointDemand id) := by
  have halloc : (r.destroyPort endpointDemand id).alloc = r.alloc :=
    destroyPort_alloc
  refine ⟨fun w e id' hm => ?_,h.distinct.sublist (hsub.map _)⟩
  · obtain ⟨hlt,ho⟩ := h.entry w e id' (hsub.subset hm)
    have hne : id' ≠ id := by
      rintro rfl
      exact hid _ hm
    have hout : (r.destroyPort endpointDemand id).out Signal.endpointDemandActive id' =
        r.out Signal.endpointDemandActive id' := destroyPort_out (fun hc => hne hc.2)
    refine ⟨?_,?_⟩
    · rw [halloc]
      exact hlt
    · rw [hout]
      exact ho

theorem removeWorker_sound (h : d.Ok r) (ready : Ready n r) (w : WorkerId) :
    (d.removeWorker r w).1.Ok (d.removeWorker r w).2 ∧
      Calls [.endpointDemand] n r (d.removeWorker r w).2 := by
  have destroys : ∀ (gone kept : List ((WorkerId × EndpointId) × EndpointDemandId)) (r : DRouter),
      Ok ⟨gone ++ kept⟩ r → Ready n r →
      Ok ⟨kept⟩ (gone.foldl (fun r e => r.destroyPort endpointDemand e.2) r) ∧
        Calls [.endpointDemand] n r
          (gone.foldl (fun r e => r.destroyPort endpointDemand e.2) r) := by
    intro gone kept
    induction gone with
    | nil => exact fun r ok ready => ⟨ok,.refl ready⟩
    | cons x gone ih =>
      intro r ok ready
      have hn := ok.distinct
      simp only [cons_append,map_cons,nodup_cons] at hn
      have ok' : Ok ⟨gone ++ kept⟩ (r.destroyPort endpointDemand x.2) := by
        refine ok.destroy (sublist_cons_self _ _) (fun key hm => ?_)
        exact hn.1 (mem_map.mpr ⟨_,hm,rfl⟩)
      have first : Calls [.endpointDemand] n r (r.destroyPort endpointDemand x.2) :=
        .destroyPort ready (by simp) (by simp [Shared])
      obtain ⟨ok'',rest⟩ := ih _ ok' first.ready
      exact ⟨ok'',first.trans rest⟩
  refine destroys _ _ r (h.perm ?_) ready
  have hperm := filter_append_perm (fun e => decide (e.1.1 = w)) d.ports
  simpa only [decide_not,ne_eq] using hperm

end EndpointDemandAdapter

namespace Namespace

/-- The adapters of a namespace and its router fit together. -/
structure Sound (ns : Namespace) : Prop where
  management : Names.Sound (ns.management.seen,ns.router)
  demand : ns.endpointDemand.Ok ns.router
  pods : ∀ w pods, ns.workerPodEdges w = some pods →
    ∀ p ∈ pods, p < ns.router.alloc (.inl SmKind.pod)

abbrev bounds (ns : Namespace) : Bounds := ns.management.seen.bounds

theorem Sound.ready {ns : Namespace} (h : ns.Sound) : Ready ns.bounds ns.router :=
  h.management.ready

/-- Who has which lease. -/
abbrev tables (ns : Namespace) :=
  (ns.leases,ns.workerPodEdges,ns.podWorker,ns.deferredGrants)

/-- What the handshake with the workers uses, other than the router. -/
abbrev handshake (ns : Namespace) :=
  (ns.namespaceId,ns.pendingWorkers,ns.activeWorkers,ns.bufferedWorkerCommands)

/-- A namespace after calls on the ports of some kinds. -/
structure Pushed (ps : List PortKind) (ns ns' : Namespace) : Prop where
  sound : ns'.Sound
  management : ns'.management = ns.management
  spec : ns'.currentSpec = ns.currentSpec
  calls : Calls ps ns.bounds ns.router ns'.router
  kept : PortKind.worker ∉ ps → PortKind.scheduleLease ∉ ps →
    ns'.tables = ns.tables ∧ ns'.handshake = ns.handshake

variable {ns ns' : Namespace} {w : WorkerId} {p : PodId}

namespace Pushed

theorem bounds (h : Pushed ps ns ns') : ns'.bounds = ns.bounds :=
  congrArg (fun m => m.seen.bounds) h.management

theorem refl (h : ns.Sound) : Pushed ps ns ns := ⟨h,rfl,rfl,.refl h.ready,fun _ _ => ⟨rfl,rfl⟩⟩

theorem trans (h : Pushed ps ns ns') (h' : Pushed ps ns' ns'') : Pushed ps ns ns'' :=
  ⟨h'.sound,h'.management.trans h.management,h'.spec.trans h.spec,
    h.calls.trans (h.bounds ▸ h'.calls),fun hw hl => ⟨(h'.kept hw hl).1.trans (h.kept hw hl).1,
      (h'.kept hw hl).2.trans (h.kept hw hl).2⟩⟩

theorem mono (h : Pushed ps ns ns') (hps : ∀ q ∈ ps, q ∈ ps') : Pushed ps' ns ns' :=
  ⟨h.sound,h.management,h.spec,h.calls.mono hps,fun hw hl =>
    h.kept (fun hc => hw (hps _ hc)) (fun hc => hl (hps _ hc))⟩

theorem foldl {f : Namespace → α → Namespace} (hf : ∀ ns x, ns.Sound → Pushed ps ns (f ns x)) :
    ∀ (l : List α) (ns : Namespace),
      ns.Sound → Pushed ps ns (l.foldl f ns) := by
  intro l
  induction l with
  | nil => exact fun ns h => .refl h
  | cons x l ih => exact fun ns h => (hf ns x h).trans (ih _ (hf ns x h).sound)

end Pushed

/-- The calls of an adapter other than the management and the demand adapter. -/
theorem Sound.calls (h : ns.Sound) (hr : Calls ps ns.bounds ns.router ns'.router)
    (hk : (ns'.management,ns'.currentSpec,ns'.endpointDemand) =
      (ns.management,ns.currentSpec,ns.endpointDemand))
    (hps : PortKind.management ∉ ps ∧ PortKind.endpointDemand ∉ ps)
    (ht : ns'.tables = ns.tables ∧ ns'.handshake = ns.handshake ∨
      PortKind.worker ∈ ps ∨ PortKind.scheduleLease ∈ ps)
    (hp : ∀ w pods, ns'.workerPodEdges w = some pods →
      ∀ p ∈ pods, p < ns.router.alloc (.inl pod)) : Pushed ps ns ns' := by
  simp only [Prod.mk.injEq] at hk
  obtain ⟨hm,hs,hd⟩ := hk
  refine ⟨⟨?_,?_,fun w pods hw p hm' => ?_⟩,hm,hs,hr,fun hw hl =>
    ht.resolve_right (fun hc => hc.elim hw hl)⟩
  · rw [hm]
    exact ⟨h.management.toFits.same (hr.same _ hps.1),hr.ready⟩
  · rw [hd]
    exact h.demand.same (hr.same _ hps.2)
  · rw [hr.alloc]
    exact hp w pods hw p hm'

/-- Fields that the adapters do not read. -/
theorem Sound.frame (h : ns.Sound) (hr : ns'.router = ns.router)
    (hk : (ns'.management,ns'.currentSpec,ns'.endpointDemand) =
      (ns.management,ns.currentSpec,ns.endpointDemand))
    (ht : ns'.tables = ns.tables ∧ ns'.handshake = ns.handshake ∨ worker ∈ ps ∨ scheduleLease ∈ ps)
    (hp : ∀ w pods, ns'.workerPodEdges w = some pods → ∀ p ∈ pods,
      p < ns.router.alloc (.inl pod)) : Pushed ps ns ns' := by
  simp only [Prod.mk.injEq] at hk
  obtain ⟨hm,hs,hd⟩ := hk
  refine ⟨⟨?_,?_,?_⟩,hm,hs,?_,fun hw hl => ht.resolve_right (fun hc => hc.elim hw hl)⟩
  · rw [hm,hr]
    exact h.management
  · rw [hd,hr]
    exact h.demand
  · rw [hr]
    exact hp
  · rw [hr]
    exact .refl h.ready

theorem Sound.lt_of_pod (h : ns.Sound) (hp : ns.getPod p = some sm) :
    p < ns.router.alloc (.inl pod) := by
  refine h.ready.holds.live_lt pod p ?_
  intro hc
  rw [getPod,hc] at hp
  cases hp

/-- The pods of a worker change. -/
theorem Sound.setPods (h : ns.Sound) (hall : ∀ p ∈ list, p < ns.router.alloc (.inl pod))
    (hr : ns'.router = ns.router.setEdges Edge.workerAssignment w list)
    (hw : ns'.workerPodEdges = update ns.workerPodEdges w (some list))
    (hk : (ns'.management,ns'.currentSpec,ns'.endpointDemand) =
      (ns.management,ns.currentSpec,ns.endpointDemand)) : Pushed [.worker] ns ns' := by
  refine h.calls ?_ hk (by decide) (by simp) (fun w' pods' hw' => ?_)
  · rw [hr]
    refine .setEdges h.ready rfl (by simp) (by simp [Auto]) (fun k hk => ?_)
    cases hk
    exact hall
  · rw [hw] at hw'
    rcases update_cases hw' with ⟨_,heq⟩ | ⟨_,hold⟩
    · cases heq
      exact hall
    · exact h.pods w' pods' hold

theorem addPodToWorker_pushed (h : ns.Sound) (hp : p < ns.router.alloc (.inl pod)) :
    Pushed [.worker] ns (ns.addPodToWorker w p) := by
  have hall : ∀ p' ∈ (if p ∈ (ns.workerPodEdges w).getD [] then (ns.workerPodEdges w).getD []
      else (ns.workerPodEdges w).getD [] ++ [p]), p' < ns.router.alloc (.inl pod) := by
    have hold : ∀ p' ∈ (ns.workerPodEdges w).getD [], p' < ns.router.alloc (.inl pod) := by
      intro p' hp'
      cases hw : ns.workerPodEdges w with
      | none => simp [hw] at hp'
      | some pods =>
        rw [hw] at hp'
        exact h.pods w pods hw p' hp'
    intro p' hp'
    split at hp'
    · exact hold p' hp'
    · rcases mem_append.mp hp' with hp' | hp'
      · exact hold p' hp'
      · rw [mem_singleton] at hp'
        subst hp'
        exact hp
  exact h.setPods hall rfl rfl rfl

theorem removePodFromWorker_pushed (h : ns.Sound) :
    Pushed [.worker] ns (ns.removePodFromWorker p) := by
  unfold removePodFromWorker
  cases hpw : ns.podWorker p with
  | none => exact .refl h
  | some w =>
    simp only
    cases hw : ns.workerPodEdges w with
    | none => exact h.frame rfl rfl (by simp) h.pods
    | some pods =>
      have hall : ∀ p' ∈ pods.filter (fun p' => p' ≠ p), p' < ns.router.alloc (.inl pod) :=
        fun p' hp' => h.pods w pods hw p' (mem_of_mem_filter hp')
      exact h.setPods hall rfl rfl rfl

abbrev nextLease (r : DRouter) : ScheduleLeaseId := r.alloc (.inr PortKind.scheduleLease)

/-- A new lease port before it has its pod. -/
def leaseOf (r : DRouter) (w : WorkerId) : DRouter :=
  (r.createPortAuto PortKind.scheduleLease).2.setSignal Signal.scheduleLeaseLease (nextLease r) ⟨w⟩

/-- A new lease port. -/
def leasePort (r : DRouter) (w : WorkerId) (p : PodId) : DRouter :=
  (leaseOf r w).setEdges Edge.podLease (nextLease r) [p]

theorem applyGrant_pushed (h : ns.Sound) :
    Pushed [.worker,.scheduleLease] ns (ns.applyGrant w p) := by
  unfold applyGrant
  cases hp : ns.getPod p with
  | none => exact .refl h
  | some sm =>
    have hlt := h.lt_of_pod hp
    have calls : Calls [.scheduleLease] ns.bounds ns.router (leasePort ns.router w p) := by
      refine .openPort h.ready (by simp) (.inr (.inl rfl)) rfl (by decide) rfl (fun k hk t ht => ?_)
      cases hk
      rw [mem_singleton] at ht
      subst ht
      exact hlt
    have leased : Pushed [.scheduleLease] ns { ns with
        router := leasePort ns.router w p
        leases := update ns.leases p (some (nextLease ns.router)) } :=
      h.calls calls rfl (by decide) (by simp) h.pods
    refine (leased.mono (by simp)).trans ((addPodToWorker_pushed leased.sound ?_).mono (by simp))
    exact Nat.lt_of_lt_of_eq hlt (calls.alloc pod).symm

theorem forgetWorkerPods_pushed (h : ns.Sound) (hps : worker ∈ ps) :
    Pushed ps ns (ns.forgetWorkerPods w) := by
  unfold forgetWorkerPods
  cases hw : ns.workerPodEdges w with
  | none => exact .refl h
  | some pods =>
    refine h.frame rfl rfl (.inr (.inl hps)) (fun w' pods' hw' => ?_)
    rcases update_cases hw' with ⟨_,heq⟩ | ⟨_,hold⟩
    · cases heq
    · exact h.pods w' pods' hold

/-- The port of a worker, with the grants that had to wait for it taken from the queue. -/
theorem openWorker_pushed (h : ns.Sound) (info : WorkerInfo) :
    Pushed [.worker] ns { ns with
      router := (ns.router.createPort worker w).setSignal Signal.workerInfo w info
      pendingWorkers := update ns.pendingWorkers w (some info)
      deferredGrants := ns.deferredGrants.filter (fun g => g.2 ≠ w) } := by
  have created : Calls [.worker] ns.bounds ns.router (ns.router.createPort worker w) :=
    .createPort h.ready (by simp) (.inl rfl)
  have calls : Calls [.worker] ns.bounds ns.router
      ((ns.router.createPort worker w).setSignal Signal.workerInfo w info) :=
    created.trans (.setSignal created.ready rfl (by simp) (.inr (.inl rfl)) (by decide))
  exact h.calls calls rfl (by decide) (by simp) h.pods

theorem workerConnected_pushed (h : ns.Sound) (info : WorkerInfo) :
    Pushed [.worker,.scheduleLease] ns (ns.workerConnected w info) :=
  ((openWorker_pushed h info).mono (by simp)).trans
    (.foldl (fun ns g h => applyGrant_pushed h) _ _ (openWorker_pushed h info).sound)

/-- A port goes. -/
theorem destroyPort_pushed (h : ns.Sound) (id : Nat) (hs : ¬ Shared q) (hm : q ≠ .management)
    (hd : q ≠ .endpointDemand) :
    Pushed [q] ns { ns with router := ns.router.destroyPort q id } := by
  refine h.calls (.destroyPort h.ready (by simp) hs) rfl ⟨?_,?_⟩ (.inl ⟨rfl,rfl⟩) h.pods
  · simpa using hm.symm
  · simpa using hd.symm

/-- Calls on the demand ports, with the adapter that made them. -/
theorem Sound.demandCalls (h : ns.Sound) (hd : d.Ok r)
    (hr : Calls [.endpointDemand] ns.bounds ns.router r) :
    Pushed [.endpointDemand] ns { ns with endpointDemand := d, router := r } := by
  refine ⟨⟨⟨h.management.toFits.same (hr.same _ (by simp)),hr.ready⟩,hd,fun w pods hw p hm => ?_⟩,
    rfl,rfl,hr,
    fun _ _ => ⟨rfl,rfl⟩⟩
  show p < r.alloc (.inl pod)
  rw [hr.alloc]
  exact h.pods w pods hw p hm

theorem workerDisconnected_pushed (h : ns.Sound) :
    Pushed [.worker,.endpointDemand] ns (ns.workerDisconnected w) := by
  have cleared : Pushed [.worker,.endpointDemand] ns ({ ns with
      activeWorkers := update ns.activeWorkers w none
      pendingWorkers := update ns.pendingWorkers w none }.dropWorkerQueues w) :=
    h.frame rfl rfl (by simp) h.pods
  unfold workerDisconnected
  simp only
  split
  · have forgot := cleared.trans (forgetWorkerPods_pushed (w := w) cleared.sound (by simp))
    split
    · obtain ⟨ok,calls⟩ := EndpointDemandAdapter.removeWorker_sound forgot.sound.demand
        forgot.sound.ready w
      have removed := forgot.sound.demandCalls ok calls
      exact (forgot.trans (removed.mono (by simp))).trans ((destroyPort_pushed removed.sound w
        (by simp [Shared]) (by decide) (by decide)).mono (by simp))
    · exact forgot.trans ((destroyPort_pushed forgot.sound w (by simp [Shared]) (by decide)
        (by decide)).mono (by simp))
  · exact cleared

theorem namespaceFailed_pushed (h : ns.Sound) : Pushed [.worker] ns (ns.namespaceFailed w) := by
  have cleared : Pushed [.worker] ns ({ ns with
      pendingWorkers := update ns.pendingWorkers w none }.dropWorkerQueues w) :=
    h.frame rfl rfl (by simp) h.pods
  have forgot := cleared.trans (forgetWorkerPods_pushed (w := w) cleared.sound (by simp))
  exact forgot.trans (destroyPort_pushed forgot.sound w (by simp [Shared]) (by decide) (by decide))

theorem schedulerDecision_pushed (h : ns.Sound) (decision : SchedulerDecision) :
    Pushed [.worker,.scheduleLease] ns (ns.schedulerDecision decision) := by
  cases decision with
  | grant podId workerId =>
    simp only [schedulerDecision]
    split
    · exact applyGrant_pushed h
    · exact h.frame rfl rfl (by simp) h.pods
  | revoke podId workerId =>
    simp only [schedulerDecision]
    cases ns.leases podId with
    | none => exact (removePodFromWorker_pushed h).mono (by simp)
    | some leaseId =>
      have gone : Pushed [.scheduleLease] ns { ns with
          leases := update ns.leases podId none
          router := ns.router.destroyPort scheduleLease leaseId } :=
        h.calls (.destroyPort h.ready (by simp) (by simp [Shared])) rfl (by decide) (by simp) h.pods
      exact (gone.mono (by simp)).trans ((removePodFromWorker_pushed gone.sound).mono (by simp))

/-- Events do not touch the ports. -/
theorem send_pushed (h : ns.Sound) (ev : topology.PendingEvent) :
    Pushed [] ns { ns with router := ns.router.send ev } :=
  h.calls (.send h.ready ev) rfl (by decide) (.inl ⟨rfl,rfl⟩) h.pods

theorem addPeer_pushed (h : ns.Sound) (key : Nat) (info : WireGuardPeerEndpointInfo) :
    Pushed [.wireGuardPeer] ns { ns with
      wgPeerPorts := update ns.wgPeerPorts key (some (ns.router.alloc (.inr wireGuardPeer)))
      router := ((ns.router.createPortAuto wireGuardPeer).2.setSignal
        Signal.wireGuardPeerEndpointInfo (ns.router.alloc (.inr wireGuardPeer))
        (some info)).setEdges Edge.wireGuardPeerEndpoints
        (ns.router.alloc (.inr wireGuardPeer)) [singleton] } :=
  h.calls (.openPort h.ready (by simp) (.inr (.inr (.inr rfl))) rfl (by decide) rfl
    (fun k hk => by cases hk)) rfl (by decide) (.inl ⟨rfl,rfl⟩) h.pods

theorem wgConnect_pushed (h : ns.Sound) (key : Nat) :
    Pushed [.wireGuardPeer] ns (ns.wgConnect key w) := by
  have managed : ∀ mgr, Pushed [.wireGuardPeer] ns { ns with wgPeerMgr := mgr } :=
    fun _ => h.frame rfl rfl (.inl ⟨rfl,rfl⟩) h.pods
  unfold wgConnect
  split
  · rename_i mgr _
    refine (managed mgr).trans (.foldl (fun ns output h => ?_) _ _ (managed mgr).sound)
    cases output with
    | addPeer key ip => exact addPeer_pushed h key ⟨ip,w,key⟩
    | removePeer key => exact .refl h
  · exact managed _

theorem wgDisconnect_pushed (h : ns.Sound) (key : Nat) :
    Pushed [.wireGuardPeer] ns (ns.wgDisconnect key) := by
  have managed : Pushed [.wireGuardPeer] ns
      { ns with wgPeerMgr := (ns.wgPeerMgr.disconnect key).2 } :=
    h.frame rfl rfl (.inl ⟨rfl,rfl⟩) h.pods
  unfold wgDisconnect
  refine managed.trans (.foldl (fun ns output h => ?_) _ _ managed.sound)
  cases output with
  | addPeer key ip => exact .refl h
  | removePeer key =>
    simp only
    split
    · exact h.calls (.destroyPort h.ready (by simp) (by simp [Shared])) rfl (by decide) (.inl ⟨rfl,rfl⟩)
        h.pods
    · exact .refl h

theorem podSuspended_pushed (h : ns.Sound) {artifact : ArtifactAdapter} :
    Pushed [.artifact] ns { ns with
      router := (ns.router.createPort PortKind.artifact portId).send ev
      artifact } := by
  have created : Calls [.artifact] ns.bounds ns.router
      (ns.router.createPort PortKind.artifact portId) :=
    .createPort h.ready (by simp) (.inr rfl)
  exact h.calls (created.trans (.send created.ready ev)) rfl (by decide) (.inl ⟨rfl,rfl⟩) h.pods

end Namespace

end Distvirt
