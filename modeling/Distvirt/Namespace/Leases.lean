import Distvirt.Namespace.Asked

/-! Who has which lease: the tables of a namespace, its lease and worker ports, and what the
scheduler is told. -/

namespace Distvirt

open Std (ExtTreeMap)
open Function List Ns SmRouter PortKind Router Edge

namespace Namespace

variable {ns ns' : Namespace} {effects : NamespaceEffects} {w : WorkerId} {p : PodId}

/-- The pods that are assigned to a worker. -/
def assigned (ns : Namespace) (w : WorkerId) : List PodId := (ns.workerPodEdges w).getD []

/-- The pod has a lease port that names the worker and leads to the pod. -/
def HoldsLease (ns : Namespace) (p : PodId) (w : WorkerId) : Prop :=
  ∃ leaseId, ns.leases p = some leaseId ∧
    ns.router.ports PortKind.scheduleLease leaseId = true ∧
    ns.router.out Signal.scheduleLeaseLease leaseId = some ⟨w⟩ ∧
    (ns.router.edge Edge.podLease).targets leaseId = [p]

/-- The tables agree with each other and with the ports. -/
structure Leased (ns : Namespace) : Prop where
  inverse : ∀ p w, ns.podWorker p = some w ↔ p ∈ ns.assigned w
  edges : ∀ w, (ns.router.edge Edge.workerAssignment).targets w = ns.assigned w
  lease : ∀ p w, ns.podWorker p = some w → ns.HoldsLease p w

/-- Each pod has a lease of its own, and pods with deferred grants have no worker yet. -/
structure LeaseInv (ns : Namespace) : Prop extends Leased ns where
  counted : ∀ p leaseId, ns.leases p = some leaseId →
    leaseId < ns.router.alloc (.inr PortKind.scheduleLease)
  own : ∀ p p' leaseId, ns.leases p = some leaseId → ns.leases p' = some leaseId → p = p'
  distinct : (ns.deferredGrants.map Prod.fst).Nodup
  deferred : ∀ g ∈ ns.deferredGrants, ns.podWorker g.1 = none

theorem HoldsLease.same (h : ns.HoldsLease p w) (hl : ns'.leases p = ns.leases p)
    (hs : Router.SamePort scheduleLease ns.router ns'.router) : ns'.HoldsLease p w := by
  rw [HoldsLease,hl,hs.ports,hs.out _ rfl,hs.edge _ rfl]
  exact h

/-- Some pods leave their workers, and grants that wait may be dropped. -/
theorem LeaseInv.leave (h : ns.LeaseInv) [DecidablePred P]
    (hpod : ∀ q, ns'.podWorker q = if P q then none else ns.podWorker q)
    (hmem : ∀ q w, q ∈ ns'.assigned w ↔ q ∈ ns.assigned w ∧ ¬ P q)
    (hedges : ∀ w, (ns'.router.edge workerAssignment).targets w = ns'.assigned w)
    (hleases : ∀ q l, ns'.leases q = some l → ns.leases q = some l)
    (halloc : ns'.router.alloc (.inr scheduleLease) = ns.router.alloc (.inr scheduleLease))
    (hgrants : ns'.deferredGrants.Sublist ns.deferredGrants)
    (hlease : ∀ q w, ¬ P q → ns.HoldsLease q w → ns'.HoldsLease q w) : ns'.LeaseInv where
  inverse q w := by
    rw [hpod,hmem,← h.inverse]
    split <;> simp [*]
  edges := hedges
  counted q l hl := by
    rw [halloc]
    exact h.counted q l (hleases q l hl)
  own q q' l hl hl' := h.own q q' l (hleases q l hl) (hleases q' l hl')
  distinct := h.distinct.sublist (hgrants.map _)
  deferred g hg := by
    rw [hpod,h.deferred g (hgrants.subset hg)]
    split <;> rfl
  lease q w hq := by
    rw [hpod] at hq
    split at hq
    · cases hq
    · rename_i hn
      exact hlease q w hn (h.lease q w hq)

/-- The tables and the ports that they are about stay. -/
theorem LeaseInv.same (h : ns.LeaseInv) (ht : ns'.tables = ns.tables)
    (hw : ns'.router.edge workerAssignment = ns.router.edge workerAssignment)
    (hs : Router.SamePort scheduleLease ns.router ns'.router) : ns'.LeaseInv := by
  simp only [Prod.mk.injEq] at ht
  obtain ⟨hl,hedges,hp,hg⟩ := ht
  have hassigned : ns'.assigned = ns.assigned := by
    unfold assigned
    rw [hedges]
  refine h.leave (P := fun _ => False) (fun q => ?_) (fun q w => ?_) (fun w => ?_)
    (fun q l hq => hl ▸ hq) hs.alloc (hg ▸ .refl _) (fun q w _ hq => hq.same (congrFun hl q) hs)
  · rw [if_neg id,hp]
  · rw [hassigned]
    simp
  · rw [hassigned,hw]
    exact h.edges w

theorem LeaseInv.cycled (h : ns.LeaseInv) (hc : Cycled ns ns') : ns'.LeaseInv :=
  h.same hc.tables ((hc.same worker (by decide)).edge _ rfl) (hc.same _ (by decide))

theorem LeaseInv.quiet (h : ns.LeaseInv) (hp : Pushed quietPorts ns ns') : ns'.LeaseInv :=
  h.same (hp.kept (by decide) (by decide)).1
    ((hp.calls.same worker (by decide)).edge _ rfl) (hp.calls.same _ (by decide))

theorem new_leaseInv (namespaceId : NamespaceId) (network : NetworkConfig) :
    (new namespaceId network).LeaseInv where
  inverse p w := by simp [new,assigned]
  edges w := by
    simp [new,assigned,newRouter,Router.createPort,Router.initState,Router.new]
  lease p w hw := nomatch hw
  counted p leaseId hl := nomatch hl
  own p p' leaseId hl := nomatch hl
  distinct := .nil
  deferred g hg := nomatch hg

section writes

theorem assigned_update {edges : List PodId} :
    ((update ns.workerPodEdges w (some edges)) w').getD [] =
      if w' = w then edges else ns.assigned w' := by
  by_cases hw : w' = w
  · subst hw
    simp
  · simp [hw,assigned]

/-- The edges of one worker are replaced. -/
theorem targets_setEdges {r : DRouter} (h : pods = (r.edge workerAssignment).targets w ∨
      ∃ p, ¬ (p ∈ (r.edge workerAssignment).targets w ↔ p ∈ pods)) :
    ((r.setEdges workerAssignment w pods).edge workerAssignment).targets w' =
      if w' = w then pods else (r.edge workerAssignment).targets w' := by
  simp only [setEdges,update_self]
  by_cases hw : w' = w
  · subst hw
    rw [if_pos rfl]
    exact EdgeMap.setEdges_targets h
  · rw [if_neg hw]
    exact EdgeMap.setEdges_other hw

section leasePort
variable {r : DRouter}

theorem leasePort_edge : (leasePort r w p).edge = update r.edge podLease
    ((r.edge podLease).setEdges (nextLease r) [p]) := by
  have hedge : (leaseOf r w).edge = r.edge := setSignal_edge
  simp only [leasePort,setEdges]
  rw [hedge]

theorem leasePort_alloc : (leasePort r w p).alloc (.inr scheduleLease) = nextLease r + 1 := by
  have halloc : (leaseOf r w).alloc = (r.createPortAuto scheduleLease).2.alloc := setSignal_alloc
  simp only [leasePort,setEdges]
  rw [halloc]
  simp [createPortAuto,createPort,initState]

theorem leasePort_ports : (leasePort r w p).ports =
    put r.ports scheduleLease (nextLease r) true := by
  have hports : (leaseOf r w).ports = (r.createPortAuto scheduleLease).2.ports := setSignal_ports
  simp only [leasePort,setEdges]
  rw [hports]
  rfl

theorem leasePort_out_self : (leasePort r w p).out Signal.scheduleLeaseLease
    (nextLease r) = some ⟨w⟩ := setSignal_out_self

theorem leasePort_out (h : l ≠ nextLease r) :
    (leasePort r w p).out Signal.scheduleLeaseLease l = r.out Signal.scheduleLeaseLease l := by
  have hout : (leaseOf r w).out Signal.scheduleLeaseLease l =
      (r.createPortAuto scheduleLease).2.out Signal.scheduleLeaseLease l :=
    setSignal_out (fun hc => h hc.2)
  simp only [leasePort,setEdges]
  rw [hout]
  simp [createPortAuto,createPort,initState,node,update_of_ne h]

end leasePort

/-- A pod without a worker, and without a grant that waits, gets a lease and a worker. -/
theorem LeaseInv.applyGrant (h : ns.LeaseInv) (hs : ns.Sound) (hp : ns.podWorker p = none)
    (hd : ∀ g ∈ ns.deferredGrants, g.1 ≠ p) : (ns.applyGrant w p).LeaseInv := by
  cases hpod : ns.getPod p with
  | none =>
    rw [Namespace.applyGrant,hpod]
    exact h
  | some pod =>
    have hnot : ∀ w', p ∉ ns.assigned w' := by
      intro w' hm
      cases hp.symm.trans ((h.inverse p w').mpr hm)
    have hpods : (if p ∈ (ns.workerPodEdges w).getD [] then (ns.workerPodEdges w).getD []
        else (ns.workerPodEdges w).getD [] ++ [p]) = ns.assigned w ++ [p] := if_neg (hnot w)
    generalize heq : ns.applyGrant w p = ns'
    simp only [Namespace.applyGrant,hpod,addPodToWorker,hpods] at heq
    have hworker : ns'.podWorker = update ns.podWorker p (some w) := heq ▸ rfl
    have hleases : ns'.leases = update ns.leases p (some (nextLease ns.router)) := heq ▸ rfl
    have hgrants : ns'.deferredGrants = ns.deferredGrants := heq ▸ rfl
    have hassigned : ∀ w', ns'.assigned w' = if w' = w then ns.assigned w ++ [p] else ns.assigned w' := by
      intro w'
      rw [← heq]
      exact assigned_update
    have hedges : ∀ w', (ns'.router.edge workerAssignment).targets w' = ns'.assigned w' := by
      intro w'
      have hbefore : ∀ w', ((leasePort ns.router w p).edge workerAssignment).targets w' =
          ns.assigned w' := by
        intro w'
        rw [leasePort_edge,update_of_ne (by decide),h.edges]
      rw [hassigned,← hbefore w',← heq]
      refine targets_setEdges (.inr ⟨p,fun hc => hnot w ?_⟩)
      rw [← hbefore w]
      exact hc.mpr (by simp)
    have hlease : Router.SamePort scheduleLease (leasePort ns.router w p) ns'.router :=
      heq ▸ .setEdges rfl (by decide)
    refine ⟨⟨fun q w' => ?_,hedges,fun q w' hq => ?_⟩,fun q l hl => ?_,fun q q' l hl hl' => ?_,
      hgrants ▸ h.distinct,fun g hg => ?_⟩
    · have := h.inverse q w'
      have := hnot w'
      rw [hassigned,hworker,update_apply]
      grind
    · unfold HoldsLease
      rw [hlease.ports,hlease.out _ rfl,hlease.edge _ rfl,hleases,leasePort_ports,leasePort_edge,
        update_self]
      rw [hworker] at hq
      rcases update_cases hq with ⟨rfl,hw⟩ | ⟨hne,hq⟩
      · cases hw
        refine ⟨_,update_self ..,put_self,leasePort_out_self,
          EdgeMap.setEdges_targets (.inr ⟨q,fun hc => ?_⟩)⟩
        exact Nat.lt_irrefl _ (hs.ready.auto _ (.inr (.inl rfl)) podLease _ q rfl
          (hc.mpr (mem_singleton.mpr rfl)))
      · obtain ⟨l,hl,hport,hout,ht⟩ := h.lease q w' hq
        have hlt := Nat.ne_of_lt (h.counted q l hl)
        exact ⟨l,(update_of_ne hne _ _).trans hl,(put_id hlt).trans hport,
          (leasePort_out hlt).trans hout,(EdgeMap.setEdges_other hlt).trans ht⟩
    · have := h.counted q l
      rw [hleases,update_apply] at hl
      rw [hlease.alloc,leasePort_alloc]
      grind
    · have := h.counted
      have := h.own q q' l
      rw [hleases,update_apply] at hl hl'
      grind
    · rw [hgrants] at hg
      rw [hworker,update_of_ne (hd g hg)]
      exact h.deferred g hg

/-- A pod leaves the list of its worker. -/
theorem removePodFromWorker_eq (hn : ns.removePodFromWorker p = ns')
    (hi : ∀ q w, ns.podWorker q = some w ↔ q ∈ ns.assigned w)
    (he : ∀ w, (ns.router.edge workerAssignment).targets w = ns.assigned w) :
    (∀ q, ns'.podWorker q = if q = p then none else ns.podWorker q) ∧
    (∀ q w, q ∈ ns'.assigned w ↔ q ∈ ns.assigned w ∧ ¬ q = p) ∧
    (∀ w, (ns'.router.edge workerAssignment).targets w = ns'.assigned w) ∧
    ns'.leases = ns.leases ∧ ns'.deferredGrants.Sublist ns.deferredGrants ∧
    Router.SamePort scheduleLease ns.router ns'.router := by
  unfold Namespace.removePodFromWorker at hn
  cases hp : ns.podWorker p with
  | none =>
    rw [hp] at hn
    simp only at hn
    subst hn
    refine ⟨fun q => ?_,fun q w => ?_,he,rfl,.refl _,.refl⟩
    · split
      · rename_i hq
        rw [hq,hp]
      · rfl
    · refine ⟨fun hm => ⟨hm,?_⟩,And.left⟩
      rintro rfl
      cases hp.symm.trans ((hi q w).mpr hm)
  | some w =>
    have hm := (hi p w).mp hp
    rw [hp] at hn
    simp only at hn
    cases hw : ns.workerPodEdges w with
    | none =>
      rw [assigned,hw] at hm
      cases hm
    | some pods =>
      have hpods : ns.assigned w = pods := by rw [assigned,hw,Option.getD_some]
      simp only [hw] at hn
      have hassigned : ∀ w', ns'.assigned w' =
          if w' = w then pods.filter (fun q => q ≠ p) else ns.assigned w' := by
        intro w'
        subst hn
        exact assigned_update
      refine ⟨fun q => ?_,fun q w' => ?_,fun w' => ?_,?_⟩
      · subst hn
        exact update_apply ..
      · rw [hassigned]
        split
        · rename_i hww
          rw [hww,hpods]
          simp
        · rename_i hww
          refine ⟨fun hq => ⟨hq,?_⟩,And.left⟩
          rintro rfl
          exact hww (Option.some.inj (((hi q w').mpr hq).symm.trans hp))
      · rw [hassigned]
        subst hn
        simp only
        rw [targets_setEdges (.inr ⟨p,?_⟩),he]
        rw [he,hpods]
        intro hc
        have := hc.mp (hpods ▸ hm)
        simp at this
      · subst hn
        exact ⟨rfl,.refl _,.setEdges rfl (by decide)⟩

/-- Deferred grants may be dropped. -/
theorem LeaseInv.undefer (h : ns.LeaseInv) (hg : grants.Sublist ns.deferredGrants) :
    { ns with deferredGrants := grants }.LeaseInv :=
  { h with
    distinct := h.distinct.sublist (hg.map _)
    deferred := fun g hm => h.deferred g (hg.subset hm) }

theorem applyGrant_frame : (ns.applyGrant w p).deferredGrants = ns.deferredGrants ∧
    ∀ q, q ≠ p → (ns.applyGrant w p).podWorker q = ns.podWorker q := by
  unfold Namespace.applyGrant
  cases ns.getPod p with
  | none => exact ⟨rfl,fun _ _ => rfl⟩
  | some pod => exact ⟨rfl,fun q hq => update_of_ne hq _ _⟩

/-- The deferred grants of a worker are applied one after the other. -/
theorem LeaseInv.applyGrants (grants : List (PodId × WorkerId)) (h : ns.LeaseInv) (hs : ns.Sound)
    (hn : (grants.map Prod.fst).Nodup) (hnone : ∀ g ∈ grants, ns.podWorker g.1 = none)
    (hd : ∀ g ∈ grants, ∀ g' ∈ ns.deferredGrants, g'.1 ≠ g.1) :
    (grants.foldl (fun ns g => ns.applyGrant w g.1) ns).LeaseInv := by
  induction grants generalizing ns with
  | nil => exact h
  | cons g grants ih =>
    rw [map_cons,nodup_cons] at hn
    obtain ⟨hdef,hframe⟩ : (ns.applyGrant w g.1).deferredGrants = ns.deferredGrants ∧
      ∀ q, q ≠ g.1 → (ns.applyGrant w g.1).podWorker q = ns.podWorker q := applyGrant_frame
    refine ih (h.applyGrant hs (hnone g (mem_cons_self ..)) (hd g (mem_cons_self ..)))
      (applyGrant_pushed hs).sound hn.2 (fun g' hg' => ?_) (fun g' hg' => ?_)
    · rw [hframe g'.1 (fun hc => hn.1 (mem_map.mpr ⟨g',hg',hc⟩))]
      exact hnone g' (mem_cons_of_mem _ hg')
    · rw [hdef]
      exact hd g' (mem_cons_of_mem _ hg')

theorem LeaseInv.workerConnected (h : ns.LeaseInv) (hs : ns.Sound) (info : WorkerInfo) :
    (ns.workerConnected w info).LeaseInv := by
  have hedge : ((ns.router.createPort worker w).setSignal Signal.workerInfo w info).edge =
      ns.router.edge := setSignal_edge
  have opened : LeaseInv { ns with
      router := (ns.router.createPort worker w).setSignal Signal.workerInfo w info
      pendingWorkers := update ns.pendingWorkers w (some info)
      deferredGrants := ns.deferredGrants.filter (fun g => g.2 ≠ w) } :=
    (h.undefer (filter_sublist (p := fun g => decide (g.2 ≠ w)))).same rfl (congrFun hedge _)
      ((Router.SamePort.createPort (by decide)).trans (.setSignal rfl (by decide)))
  refine opened.applyGrants _ (openWorker_pushed hs info).sound
    (h.distinct.sublist (filter_sublist.map _))
    (fun g hg => h.deferred g (mem_of_mem_filter hg)) (fun g hg g' hg' heq => ?_)
  have hsame := inj_on_of_nodup_map h.distinct (mem_of_mem_filter hg') (mem_of_mem_filter hg) heq
  subst hsame
  have hw := (mem_filter.mp hg).2
  have hw' := (mem_filter.mp hg').2
  simp only [decide_eq_true_eq] at hw hw'
  exact hw' hw

theorem forgetWorkerPods_router : (ns.forgetWorkerPods w).router = ns.router := by
  unfold forgetWorkerPods
  split <;> rfl

theorem forgetWorkerPods_podWorker (q : PodId) : (ns.forgetWorkerPods w).podWorker q =
    if q ∈ ns.assigned w then none else ns.podWorker q := by
  unfold forgetWorkerPods assigned
  cases ns.workerPodEdges w with
  | none => simp
  | some pods => rfl

theorem forgetWorkerPods_assigned (w' : WorkerId) : (ns.forgetWorkerPods w).assigned w' =
    if w' = w then [] else ns.assigned w' := by
  unfold forgetWorkerPods assigned
  cases hw : ns.workerPodEdges w with
  | none =>
    simp only
    split
    · rename_i hww
      rw [hww,hw]
      rfl
    · rfl
  | some pods =>
    simp only [update_apply]
    split <;> rfl

/-- A worker port goes, and with it all that was known of its pods. -/
theorem LeaseInv.dropWorker (h : ns.LeaseInv)
    (hedge : r.edge workerAssignment = (ns.forgetWorkerPods w).router.edge workerAssignment)
    (hl : Router.SamePort scheduleLease (ns.forgetWorkerPods w).router r) :
    LeaseInv { ns.forgetWorkerPods w with
      endpointDemand := d
      router := r.destroyPort worker w } := by
  rw [forgetWorkerPods_router] at hedge hl
  have hleases : (ns.forgetWorkerPods w).leases = ns.leases ∧
      (ns.forgetWorkerPods w).deferredGrants = ns.deferredGrants := by
    unfold forgetWorkerPods
    split <;> exact ⟨rfl,rfl⟩
  have hlease : Router.SamePort scheduleLease ns.router (r.destroyPort worker w) :=
    hl.trans (.destroyPort (by decide) (fun e he => by cases e <;> cases he; decide))
  refine h.leave (P := (· ∈ ns.assigned w)) forgetWorkerPods_podWorker (fun q w' => ?_)
    (fun w' => ?_) (fun q l hl => ?_) hlease.alloc ?_ (fun q w' _ hq => hq.same (congrFun hleases.1 q) hlease)
  · show q ∈ (ns.forgetWorkerPods w).assigned w' ↔ _
    rw [forgetWorkerPods_assigned]
    split
    · rename_i heq
      rw [heq]
      simp
    · rename_i hne
      refine ⟨fun hq => ⟨hq,fun hc => ?_⟩,And.left⟩
      exact hne (Option.some.inj (((h.inverse q w').mpr hq).symm.trans ((h.inverse q w).mpr hc)))
  · show ((r.destroyPort worker w).edge workerAssignment).targets w' =
      (ns.forgetWorkerPods w).assigned w'
    rw [forgetWorkerPods_assigned]
    split
    · rename_i heq
      subst heq
      exact destroyPort_targets_self rfl (by decide)
    · rename_i hne
      refine (destroyPort_targets (T := topology) hne (by decide)).trans ?_
      rw [hedge]
      exact h.edges w'
  · exact hleases.1 ▸ hl
  · exact hleases.2 ▸ .refl _

theorem LeaseInv.workerDisconnected (h : ns.LeaseInv) (hs : ns.Sound) :
    (ns.workerDisconnected w).LeaseInv := by
  have cleared : ({ ns with
      activeWorkers := update ns.activeWorkers w none
      pendingWorkers := update ns.pendingWorkers w none }.dropWorkerQueues w).LeaseInv :=
    (h.undefer (filter_sublist (p := fun g => decide (g.2 ≠ w)))).same rfl rfl .refl
  have sound : ({ ns with
      activeWorkers := update ns.activeWorkers w none
      pendingWorkers := update ns.pendingWorkers w none }.dropWorkerQueues w).Sound :=
    { hs with }
  unfold Namespace.workerDisconnected
  simp only
  split
  · split
    · have forgot : (Namespace.forgetWorkerPods _ w).Sound :=
        (forgetWorkerPods_pushed sound (mem_singleton_self _)).sound
      obtain ⟨_,calls⟩ := EndpointDemandAdapter.removeWorker_sound forgot.demand forgot.ready w
      exact cleared.dropWorker ((calls.same worker (by simp)).edge _ rfl)
        (calls.same scheduleLease (by simp))
    · exact cleared.dropWorker (d := (Namespace.forgetWorkerPods _ w).endpointDemand) rfl .refl
  · exact cleared

theorem LeaseInv.namespaceFailed (h : ns.LeaseInv) : (ns.namespaceFailed w).LeaseInv := by
  have cleared : ({ ns with
      pendingWorkers := update ns.pendingWorkers w none }.dropWorkerQueues w).LeaseInv :=
    (h.undefer (filter_sublist (p := fun g => decide (g.2 ≠ w)))).same rfl rfl .refl
  exact cleared.dropWorker (d := (Namespace.forgetWorkerPods _ w).endpointDemand) rfl .refl

theorem LeaseInv.revoke (h : ns.LeaseInv) : (ns.schedulerDecision (.revoke p w)).LeaseInv := by
  simp only [schedulerDecision]
  cases hl : ns.leases p with
  | none =>
    obtain ⟨hpod,hmem,hedges,hleases,hgrants,hs⟩ := removePodFromWorker_eq rfl h.inverse h.edges
    exact h.leave hpod hmem hedges (fun q l hq => hleases ▸ hq) hs.alloc hgrants
      (fun q w' _ hq => hq.same (congrFun hleases q) hs)
  | some leaseId =>
    have hworker : Router.SamePort worker ns.router (ns.router.destroyPort scheduleLease leaseId) :=
      .destroyPort (by decide) (fun e he => by cases e <;> cases he; decide)
    have halloc : (ns.router.destroyPort scheduleLease leaseId).alloc = ns.router.alloc :=
      destroyPort_alloc
    simp only
    generalize hn : removePodFromWorker _ p = ns'
    obtain ⟨hpod,hmem,hedges,hleases,hgrants,hs⟩ := removePodFromWorker_eq hn h.inverse
      (fun w' => (congrArg (fun m => m.targets w') (hworker.edge workerAssignment rfl)).trans
        (h.edges w'))
    refine h.leave hpod hmem hedges (fun q l hq => ?_)
      (hs.alloc.trans (congrFun halloc _)) hgrants (fun q w' hne => ?_)
    · rw [hleases] at hq
      simp only [update_apply] at hq
      split at hq
      · cases hq
      · exact hq
    · rintro ⟨l,hlq,hport,hout,ht⟩
      have hother : l ≠ leaseId := by
        rintro rfl
        exact hne (h.own q p l hlq hl)
      refine HoldsLease.same ⟨l,(update_of_ne hne _ _).trans hlq,?_,?_,?_⟩ (congrFun hleases q) hs
      · have hports : (ns.router.destroyPort scheduleLease leaseId).ports = _ :=
          destroyPort_ports
        exact (congrFun (congrFun hports _) l).trans ((put_id hother).trans hport)
      · exact (destroyPort_out (T := topology) (fun hc => hother hc.2)).trans hout
      · exact (destroyPort_targets (T := topology) hother (by decide)).trans ht

/-- Deferred or not, a grant needs a pod without a worker and without a grant that waits. -/
theorem LeaseInv.grant (h : ns.LeaseInv) (hs : ns.Sound) (hp : ns.podWorker p = none)
    (hd : ∀ g ∈ ns.deferredGrants, g.1 ≠ p) : (ns.schedulerDecision (.grant p w)).LeaseInv := by
  simp only [schedulerDecision]
  split
  · exact h.applyGrant hs hp hd
  · refine { h with distinct := ?_, deferred := fun g hg => ?_ }
    · rw [map_append,nodup_append]
      refine ⟨h.distinct,nodup_singleton _,fun q hq q' hq' heq => ?_⟩
      obtain ⟨g,hg,rfl⟩ := mem_map.mp hq
      simp only [map_cons,map_nil,mem_singleton] at hq'
      exact hd g hg (heq.trans hq')
    · rcases mem_append.mp hg with hg | hg
      · exact h.deferred g hg
      · rw [mem_singleton] at hg
        subst hg
        exact hp

end writes

/-- A pod is granted a worker only while it has none and no grant for it waits. -/
def GrantedOnce (ns : Namespace) : Op → Prop
  | .event (.schedulerDecision (.grant podId _)) =>
    ns.podWorker podId = none ∧ ∀ g ∈ ns.deferredGrants, g.1 ≠ podId
  | _ => True

theorem LeaseInv.pushEvent (h : ns.LeaseInv) (hs : ns.Sound) (event : OrchestratorToNamespace)
    (hg : GrantedOnce ns (.event event)) :
    Outcome (fun r => r.1.LeaseInv) (fun _ => True) (ns.pushEvent effects event) := by
  have quiet (hq : Quiet event) :
      Outcome (fun r => r.1.LeaseInv) (fun _ => True) (ns.pushEvent effects event) :=
    (pushEvent_quiet hs hq).imp (fun r hr => h.quiet hr.1)
  cases event with
  | workerConnected w info => exact h.workerConnected hs info
  | workerDisconnected w => exact h.workerDisconnected hs
  | schedulerDecision decision =>
    cases decision with
    | grant p w => exact h.grant hs hg.1 hg.2
    | revoke p w => exact h.revoke (w := w)
  | clientCommand command | artifactInvalidated portId => exact quiet trivial
  | workerEvent w event =>
    cases event with
    | namespaceCreated =>
      refine (namespaceCreated_pushed hs w).imp (fun r hr => ?_)
      obtain ⟨⟨_,hr,ht⟩,_⟩ := hr
      exact h.same ht (by rw [hr]) (hr ▸ .refl)
    | namespaceFailed error => exact h.namespaceFailed
    | _ => exact quiet ⟨nofun,nofun⟩

theorem LeaseInv.pushOp (h : ns.LeaseInv) (hs : ns.Sound) (op : Op) (hg : GrantedOnce ns op) :
    Outcome (fun
      | .error ns' => ns'.LeaseInv
      | .ok (ns',_) => ns'.LeaseInv) (fun _ => True) (ns.pushOp op) := by
  refine pushOp_rule (fun event heq => h.pushEvent hs event (heq ▸ hg)) (fun identity => ?_) h
    (fun rel workloads services => ?_)
  · exact h.quiet ((TimerIdentity.fire_pushed hs identity).mono (by simp))
  · have requested : (ns.withRequests rel workloads services).2.LeaseInv := h.same rfl rfl .refl
    refine ⟨requested,fun spec => ?_⟩
    have frame := (withSpec_sound (withRequests_sound hs rel workloads services) spec).2
    exact requested.same rfl ((frame.same worker (by decide)).edge _ rfl) (frame.same _ (by decide))

theorem LeaseInv.step (h : ns.LeaseInv) (hr : ns.Rested) (op : Op) (hg : GrantedOnce ns op) :
    Outcome (fun r => r.1.LeaseInv) (fun _ => True) (ns.step fuel op) := by
  rw [step_eq]
  refine ((pushOp_sound hr.sound op).and (h.pushOp hr.sound op hg)).bind (fun r hr => ?_)
  cases r with
  | error ns' => exact hr.2
  | ok r =>
    obtain ⟨⟨⟨sound,_⟩,_⟩,inv⟩ := hr
    refine (cycleKeeps_sound.runCycle sound trivial).imp (fun r' hr' => ?_)
    obtain ⟨ns',effects',ended,_,rfl⟩ := hr'
    exact inv.cycled (ended.cycled.trans (finalize_pushed ended.sound).cycled)

instance (ns : Namespace) : (op : Op) → Decidable (GrantedOnce ns op)
  | .event (.schedulerDecision (.grant podId _)) =>
    inferInstanceAs (Decidable (ns.podWorker podId = none ∧ ∀ g ∈ ns.deferredGrants, g.1 ≠ podId))
  | .event (.schedulerDecision (.revoke _ _)) | .event (.workerConnected _ _)
  | .event (.workerDisconnected _) | .event (.workerEvent _ _) | .event (.clientCommand _)
  | .event (.artifactInvalidated _) | .timer _ | .fullSpec _ | .patch _ => isTrue trivial

/-- In a run in which no pod is granted twice, the tables and the ports agree, and the scheduler is
asked for each pod and told to drop it in turn, and to drop it when the pod is gone. -/
theorem leases_consistent {id : NamespaceId} {network : NetworkConfig} {ops : List Op}
    {effects : List NamespaceEffects} (hg : Along GrantedOnce fuel (new id network) ops)
    (hr : (new id network).run fuel ops = .ok (ns,effects)) :
    ns.Leased ∧ ∀ p, Alternates (asked p (effects.flatMap (·.schedulerMessages))) ∧
      (ns.getPod p = none →
        (asked p (effects.flatMap (·.schedulerMessages))).getLast? ≠ some true) := by
  have kept := Along.history (E := fun _ => True) (I := fun done ns => (ns.Rested ∧ ns.LeaseInv) ∧
      AskedFor (done.flatMap (·.schedulerMessages)) ns.router)
    (fun done ns op h hg => ((h.1.1.step op).and (h.1.2.step h.1.1 op hg)).and
      ((h.1.1.askedFor h.2 op).imp (fun r hr => by simpa using hr))) ops []
    (new id network) ⟨⟨new_rested id network,new_leaseInv id network⟩,new_askedFor id network⟩ hg
  obtain ⟨⟨rested,inv⟩,asks⟩ := kept.of_ok hr
  exact ⟨inv.toLeased,rested.alternates asks⟩

/-- One worker, and one pod that is granted to it. -/
def grantedOps : List Op :=
  [.fullSpec (sampleSpec [("a",sampleWorkload)] []),
    .event (.workerConnected 1 ⟨1,none⟩),
    .event (.schedulerDecision (.grant 0 1))]

theorem grantedOps_consistent : ∃ ns effects, sample.run 3 grantedOps = .ok (ns,effects) ∧
    ns.podWorker 0 = some 1 ∧ ns.Leased ∧
    Alternates (asked 0 (effects.flatMap (·.schedulerMessages))) := by
  have hp : (sample.run 3 grantedOps).toOption.bind (fun r => r.1.podWorker 0) = some 1 := by
    decide +kernel
  cases hr : sample.run 3 grantedOps with
  | error f =>
    rw [hr] at hp
    cases hp
  | ok r =>
    obtain ⟨ns,effects⟩ := r
    rw [hr] at hp
    obtain ⟨leased,alternates⟩ := leases_consistent (by decide +kernel) hr
    exact ⟨ns,effects,rfl,hp,leased,(alternates 0).1⟩

/-- A grant waits for its worker, is revoked, and the pod is granted to another worker. When the
first worker connects, the grant that waited is applied. -/
def staleGrantOps : List Op :=
  [.fullSpec (sampleSpec [("a",sampleWorkload)] []),
    .event (.schedulerDecision (.grant 0 1)),
    .event (.schedulerDecision (.revoke 0 1)),
    .event (.workerConnected 2 ⟨1,none⟩),
    .event (.schedulerDecision (.grant 0 2)),
    .event (.workerConnected 1 ⟨1,none⟩)]

theorem staleGrant_inconsistent : ∃ ns effects, sample.run 3 staleGrantOps = .ok (ns,effects) ∧
    ns.podWorker 0 = some 1 ∧ 0 ∈ ns.assigned 2 ∧ ¬ ns.Leased := by
  have hp : (sample.run 3 staleGrantOps).toOption.map
      (fun r => (r.1.podWorker 0,r.1.assigned 2)) = some (some 1,[0]) := by
    decide +kernel
  cases hr : sample.run 3 staleGrantOps with
  | error f =>
    rw [hr] at hp
    cases hp
  | ok r =>
    rw [hr] at hp
    obtain ⟨hw,hm⟩ := Prod.mk.inj (Option.some.inj hp)
    have hmem : 0 ∈ r.1.assigned 2 := by
      rw [hm]
      exact mem_singleton_self 0
    refine ⟨r.1,r.2,rfl,hw,hmem,fun leased => ?_⟩
    have := (leased.inverse 0 2).mpr hmem
    rw [hw] at this
    cases this

end Namespace

end Distvirt
