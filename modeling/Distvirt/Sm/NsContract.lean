import Distvirt.Sm.Allocation
import Distvirt.Sm.NsTopology
import Distvirt.SmRouter.Writes

/-! The contract that every machine of a namespace keeps: it names ids in use, what it creates
gets new ids, and a workload knows whether it has a spec. -/

namespace Distvirt.Ns

open SmKind List Signal SmRouter

theorem sources_fit (i : Batch ⊕ Inc) : (sources i).Nodup ∧ ∀ source ∈ sources i,
    node source.2 = (ends source.1).1 ∧ (ends source.1).2 = schema.inputNode i := by
  rcases i with b | i
  · cases b <;> decide
  · cases i <;> decide

theorem signals_complete : (∀ s, s ∈ signals) ∧ signals.Nodup := by
  refine ⟨fun s => ?_,by decide⟩
  cases s <;> decide

theorem edges_complete : (∀ e, e ∈ edges) ∧ edges.Nodup := by
  refine ⟨fun e => ?_,by decide⟩
  cases e <;> decide

theorem inputs_complete (i : Batch ⊕ Inc) : i ∈ inputs := by
  rcases i with b | i
  · cases b <;> simp [inputs]
  · cases i <;> simp [inputs]

instance : Schema.Lawful schema where
  signals_mem := signals_complete.1
  signals_nodup := signals_complete.2
  edges_mem := edges_complete.1
  edges_nodup := edges_complete.2
  inputs_mem := inputs_complete
  source_node i e s h := ((sources_fit i).2 (e,s) h).1
  source_target i e s h := ((sources_fit i).2 (e,s) h).2
  sources_nodup i := (sources_fit i).1

instance : Schema.Lawful topology.toSchema := inferInstanceAs (Schema.Lawful schema)

instance : Schema.PortFed topology.toSchema where
  port := incNode
  incNode_eq _ := rfl
  not_whole _ := rfl

/-- The first ids that no workload and no service has had. -/
structure Bounds where
  workload : Nat
  service : Nat

def bound (n : Bounds) (alloc : schema.IdAlloc) : SmKind → Nat
  | .service => n.service
  | .workload => n.workload
  | .pod => alloc (.inl SmKind.pod)
  | .endpoint => alloc (.inl SmKind.endpoint)

/-- The states in which machines are created. -/
def Initial : topology.PendingCreate → Prop
  | ⟨.pod,_,state⟩ => ∃ artifact, state = { PodSm.new with resumeArtifact := artifact }
  | ⟨.endpoint,_,state⟩ => ∃ hasActivation, state = EndpointSm.new hasActivation
  | ⟨.workload,_,state⟩ => state = WorkloadSm.new
  | ⟨.service,_,state⟩ => state = ServiceSm.mk none

/-- What was last said to a workload about its spec. -/
def told (v : NodeView topology SmKind.workload) : Option (Option (ManagementId × Sm.WorkloadSpec)) :=
  v.inp Batch.specInput

/-- What holds of each machine: a service's endpoint is for a workload id in use, a workload's own
endpoint is for the workload. -/
def machineOk (n : Bounds) : (k : SmKind) → Nat → NodeView topology k → Prop
  | .service,_,v => ∀ config : EndpointConfig,
      v.out Signal.serviceEndpointConfig = some (some config) → config.workload < n.workload
  | .workload,id,v => v.state.hasSpec = (told v).join.isSome ∧ ∀ config : EndpointConfig,
      v.out Signal.workloadEndpointConfig = some (some config) → config.workload = id
  | .pod,_,_ | .endpoint,_,_ => True

/-- An artifact that is reported as referenced is so by a workload id in use. -/
def queuedOk (n : Bounds) : Nat × (i : Inc) × Delta i → Prop
  | (_,⟨.refsInput,.referenced w⟩) => w < n.workload
  | _ => True

def base (n : Bounds) : Contract topology where
  node := machineOk n
  new := Initial
  queued := queuedOk n
  bound := bound n

/-- The service specs that the management ports signal name workload ids in use. -/
def SpecsBounded (n : Bounds) (r : DRouter) : Prop :=
  ∀ id (spec : Sm.ServiceSpec), r.out Signal.managementSvcSpec id = some spec →
    spec.workload < n.workload

variable {n : Bounds} {id : Nat}

/-- The counter of a machine kind is not a port's. -/
theorem update_inl (k : SmKind) (x : Nat) (p : PortKind) :
    (Function.update alloc (.inl k) x : schema.IdAlloc) (.inr p) = alloc (.inr p) :=
  Function.update_of_ne (Sum.inr_ne_inl (a := k)) x alloc

theorem accepts_workload
    (hs : t.core.Sane id (alloc (.inl pod)) (alloc (.inl endpoint)))
    (hn : t.selfDestruct = false → t.hasSpec = (told v).join.isSome)
    (hc : ∀ config : EndpointConfig, v.out workloadEndpointConfig = some (some config) →
      config.workload = id) :
    (base n).Accepts alloc workload id v (workloadReaction alloc t) where
  node hd := by
    refine ⟨hn hd,fun config ho => ?_⟩
    change t.setEndpointConfig.or (v.out workloadEndpointConfig) = _ at ho
    rcases Option.or_eq_some_iff.mp ho with ho | ⟨_,ho⟩
    · exact hs.config config ho
    · exact hc config ho
  new c hc := by
    obtain ⟨c,hm,rfl⟩ := mem_map.mp hc
    cases c with
    | pod i p => exact (hs.podCreates i p hm).2.2
    | endpoint i e => exact (hs.endpointCreates i e hm).2.2
  ports p := (update_inl .endpoint t.nextEndpoint p).trans (update_inl .pod t.nextPod p)
  mono k := by
    cases k with
    | service | workload => exact Nat.le_refl _
    | pod => exact hs.pod
    | endpoint => exact hs.endpoint
  creates c hc := by
    obtain ⟨c,hm,rfl⟩ := mem_map.mp hc
    cases c with
    | pod i p => exact ⟨(hs.podCreates i p hm).1,(hs.podCreates i p hm).2.1⟩
    | endpoint i e => exact ⟨(hs.endpointCreates i e hm).1,(hs.endpointCreates i e hm).2.1⟩
  distinct := by
    refine pairwise_map.mpr (hs.distinct.imp ?_)
    intro c c' h
    cases c with
    | pod i p =>
      cases c' with
      | pod j q => exact fun heq => h heq.2
      | endpoint j e => exact fun heq => nomatch heq.1
    | endpoint i e =>
      cases c' with
      | pod j q => exact fun heq => nomatch heq.1
      | endpoint j e' => exact fun heq => h heq.2
  edges e l k' t' he _ ht hm := by
    cases e with
    | workloadEndpointOwnership =>
      cases ht
      exact (hs.endpoints l he t' hm).2
    | endpointReadiness =>
      cases ht
      exact Nat.lt_of_lt_of_le (hs.readiness l he t' hm) hs.endpoint
    | podOwnership =>
      cases ht
      exact (hs.pods l he t' hm).2
    | workloadTimers => cases ht
    | workloadArtifactRef => cases ht
    | workloadObservability => cases ht
    | _ => cases he

theorem accepts_pod (hr : ∀ l, t.setPodReportEdges = some l → ∀ i ∈ l, i < n.workload) :
    (base n).Accepts alloc pod id v (podReaction alloc t) where
  node _ := trivial
  new _ hc := nomatch hc
  ports _ := rfl
  mono _ := Nat.le_refl _
  creates _ hc := nomatch hc
  distinct := .nil
  edges e l k' t' he _ ht hm := by
    cases e with
    | podReport =>
      cases ht
      exact hr l he t' hm
    | podTimers => cases ht
    | podScheduleIntent => cases ht
    | podPlacement => cases ht
    | podObservability => cases ht
    | _ => cases he

theorem accepts_endpoint (hr : ∀ l, t.setEndpointDemandEdges = some l → ∀ i ∈ l, i < n.workload) :
    (base n).Accepts alloc endpoint id v (endpointReaction alloc t) where
  node _ := trivial
  new _ hc := nomatch hc
  ports _ := rfl
  mono _ := Nat.le_refl _
  creates _ hc := nomatch hc
  distinct := .nil
  edges e l k' t' he _ ht hm := by
    cases e with
    | endpointDemand =>
      cases ht
      exact hr l he t' hm
    | endpointTimers => cases ht
    | endpointFabricEndpoints => cases ht
    | endpointDns => cases ht
    | endpointObservability => cases ht
    | _ => cases he

theorem accepts_service (hs : ServiceTurn.Sane (alloc (.inl endpoint)) t)
    (hn : ∀ config : EndpointConfig, t.setEndpointConfig.or (v.out serviceEndpointConfig) =
      some (some config) → config.workload < n.workload) :
    (base n).Accepts alloc service id v (serviceReaction alloc t) where
  node _ := hn
  new c hc := by
    obtain ⟨c,hm,rfl⟩ := mem_map.mp hc
    rcases hs.creates with he | ⟨h,he,_⟩
    · rw [he] at hm
      cases hm
    · rw [he,mem_singleton] at hm
      subst hm
      exact ⟨h,rfl⟩
  ports p := update_inl .endpoint t.nextEndpoint p
  mono k := by
    cases k with
    | service | workload | pod => exact Nat.le_refl _
    | endpoint => exact hs.endpoint
  creates c hc := by
    obtain ⟨c,hm,rfl⟩ := mem_map.mp hc
    rcases hs.creates with he | ⟨h,he,hne⟩
    · rw [he] at hm
      cases hm
    · rw [he,mem_singleton] at hm
      subst hm
      refine ⟨Nat.le_refl _,?_⟩
      show alloc (.inl endpoint) < t.nextEndpoint
      rw [hne]
      exact Nat.lt_succ_self _
  distinct := by
    refine pairwise_map.mpr ?_
    rcases hs.creates with he | ⟨h,he,_⟩
    · rw [he]
      exact .nil
    · rw [he]
      exact pairwise_singleton _ _
  edges e l k' t' he _ ht hm := by
    cases e with
    | serviceEndpointOwnership =>
      cases ht
      exact (hs.endpoints l he t' hm).2
    | _ => cases he

section aggregates
variable {r : DRouter}

theorem mem_demand (hd : r.aggregate Batch.demandInput t = demand) (h : i ∈ demand.endpointIds) :
    r.link Edge.endpointDemand i t := by
  subst hd
  obtain ⟨⟨i,value⟩,hm,rfl⟩ := mem_map.mp h
  exact (Router.mem_collect.mp hm).1

theorem owner_linked (h : r.aggregate Batch.ownerInput t = some (w,intent)) :
    r.link Edge.podOwnership w t ∧ r.out workloadPodIntent w = some intent :=
  Router.mem_collect.mp (mem_of_head? h)

theorem svcSpec_linked (h : r.aggregate Batch.svcSpecInput t = some (m,spec)) :
    r.link Edge.serviceConfig m t ∧ r.out managementSvcSpec m = some spec :=
  Router.mem_collect.mp (mem_of_head? h)

theorem config_linked (h : r.aggregate Batch.configInput t = some config) :
    (∃ s, r.link Edge.serviceEndpointOwnership s t ∧
      r.out serviceEndpointConfig s = some (some config)) ∨
    (∃ w, r.link Edge.workloadEndpointOwnership w t ∧
      r.out workloadEndpointConfig w = some (some config)) := by
  obtain ⟨⟨i,value⟩,hm,hv⟩ := exists_of_findSome?_eq_some h
  simp only at hv
  subst hv
  rcases mem_append.mp hm with hm | hm
  · exact .inl ⟨i,Router.mem_collect.mp hm⟩
  · exact .inr ⟨i,Router.mem_collect.mp hm⟩

theorem refs_linked (h : ArtifactRefDelta.referenced w ∈
    r.deltas Inc.refsInput t (Edge.workloadArtifactRef,workloadArtifactRef)) :
    r.link Edge.workloadArtifactRef w t := by
  rcases mem_append.mp h with h | h
  · obtain ⟨⟨id,value⟩,hm,heq⟩ := mem_filterMap.mp h
    simp only at heq
    split at heq
    · cases heq
      exact (Router.mem_collect.mp hm).1
    · split at heq
      · cases heq
      · cases heq
  · obtain ⟨⟨id,value⟩,_,heq⟩ := mem_filterMap.mp h
    simp only at heq
    split at heq <;> cases heq

end aggregates

section kept
variable {r : DRouter}

theorem live_of_link {C : Contract topology} (h : C.Frame creating r) (he : (ends e).1 = .inl k)
    (hl : r.link e source t) : r.sms k source ≠ none :=
  fun hdead => ((h.tended k source).2 hdead).2 e t he hl

theorem live_of_out {C : Contract topology} (h : C.Frame creating r) (hs : node s = .inl k)
    (ho : r.out s id ≠ none) : r.sms k id ≠ none :=
  fun hdead => ho (((h.tended k id).2 hdead).1 s hs)

/-- An endpoint's config comes from a live service or workload. -/
theorem config_bounded (h : (base n).Holds creating r)
    (hc : r.aggregate Batch.configInput t = some config) : config.workload < n.workload := by
  rcases config_linked hc with ⟨s,hl,ho⟩ | ⟨w,hl,ho⟩
  · obtain ⟨sm,hsm⟩ := Option.ne_none_iff_exists'.mp (live_of_link h.toFrame rfl hl)
    exact h.node service s sm hsm config ho
  · have live := live_of_link h.toFrame rfl hl
    obtain ⟨sm,hsm⟩ := Option.ne_none_iff_exists'.mp live
    rw [(h.node workload w sm hsm).2 config ho]
    exact h.live_lt workload w live

theorem accepts_runWorkload (input : WorkloadInput) (hv : machineOk n .workload id v)
    (ho : v'.out = v.out) (hg : told v' = match input with
      | .specInput spec => some spec
      | _ => told v) (hd : ∀ demand, input = .demandInput demand →
      ∀ i ∈ demand.endpointIds, i < alloc (.inl endpoint)) :
    (base n).Accepts alloc workload id v' (runWorkload id alloc v.state (·.handle input)) := by
  refine accepts_workload (WorkloadTurn.sane_handle input hd) (fun hself => ?_) (ho ▸ hv.2)
  rw [hg]
  cases input with
  | specInput spec => exact WorkloadTurn.hasSpec_handleSpec hself
  | _ => exact (WorkloadTurn.stays_handle (by simp)).1.trans hv.1

theorem accepts_runPod (input : PodInput)
    (ho : ∀ w intent, input = .ownerInput (some (w,intent)) → w < n.workload) :
    (base n).Accepts alloc pod id v (runPod alloc p (·.handle input)) := by
  refine accepts_pod (fun l hl i hi => ?_)
  obtain ⟨owner,rfl,rfl⟩ := PodTurn.report_handle hl
  cases owner with
  | none => cases hi
  | some owner =>
    rw [Option.map_some,Option.toList_some,mem_singleton] at hi
    subst hi
    exact ho owner.1 owner.2 rfl

theorem accepts_runEndpoint (input : EndpointInput)
    (hc : ∀ config, input = .configInput (some config) → config.workload < n.workload) :
    (base n).Accepts alloc endpoint id v (runEndpoint alloc e (·.handle input)) := by
  refine accepts_endpoint (fun l hl i hi => ?_)
  obtain ⟨config,rfl,rfl⟩ := EndpointTurn.demand_handle hl
  rw [mem_singleton] at hi
  subst hi
  exact hc config rfl

theorem accepts_runService (input : ServiceInput) (hv : machineOk n .service id v)
    (ho : v'.out = v.out)
    (hs : ∀ m spec, input = .svcSpecInput (some (m,spec)) → spec.workload < n.workload) :
    (base n).Accepts alloc service id v' (runService id alloc v.state (·.handle input)) := by
  refine accepts_service (ServiceTurn.sane_handle input) (fun config hc => ?_)
  rw [ho] at hc
  cases input with
  | svcSpecInput spec =>
    cases spec with
    | none => exact hv config hc
    | some spec =>
      cases hc
      exact hs spec.1 spec.2 rfl
  | activateService active =>
    refine hv config (Eq.trans ?_ hc)
    cases he : v.state.endpointId with
    | none | some e => simp [ServiceTurn.handle,he]

/-- Every handler of a namespace keeps the contract. -/
theorem base_kept (hs : SpecsBounded n r₀) : (base n).Kept r₀ where
  init r c creating hr _ _ := by
    have hnew := (hr.pending c (by simp)).1
    obtain ⟨k,i,state⟩ := c
    cases k with
    | service =>
      cases hnew
      exact accepts_service ServiceTurn.sane_begin (fun config hc => nomatch hc)
    | workload =>
      cases hnew
      refine accepts_workload ?_ (fun _ => rfl) (fun config hc => nomatch hc)
      exact { WorkloadTurn.sane_begin with }
    | pod =>
      obtain ⟨artifact,rfl⟩ := hnew
      exact accepts_pod (fun l hl => nomatch hl)
    | endpoint =>
      obtain ⟨hasActivation,rfl⟩ := hnew
      exact accepts_endpoint (fun l hl => nomatch hl)
  input r b t sm hr hports hsm _ := by
    have hnode : machineOk n _ t _ := hr.node _ t sm hsm
    cases b with
    | demandInput =>
      refine accepts_runWorkload _ hnode rfl rfl (fun demand hd i hi => ?_)
      cases hd
      exact hr.live_lt endpoint i (live_of_link hr.toFrame rfl (mem_demand rfl hi))
    | specInput | podStatusInput | podWorkerInput | artifactInput =>
      exact accepts_runWorkload _ hnode rfl rfl (fun _ hd => nomatch hd)
    | svcSpecInput =>
      refine accepts_runService _ hnode rfl (fun m spec hspec => ?_)
      obtain ⟨_,ho⟩ := svcSpec_linked (ServiceInput.svcSpecInput.inj hspec)
      rw [hports.out managementSvcSpec PortKind.management rfl] at ho
      exact hs m spec ho
    | configInput =>
      refine accepts_runEndpoint _ (fun config hconfig => ?_)
      exact config_bounded hr (EndpointInput.configInput.inj hconfig)
    | readinessInput | placementInput | backendNeedInput =>
      exact accepts_runEndpoint _ (fun _ hc => nomatch hc)
    | ownerInput =>
      refine accepts_runPod _ (fun w intent hown => ?_)
      obtain ⟨hl,_⟩ := owner_linked (PodInput.ownerInput.inj hown)
      exact hr.live_lt workload w (live_of_link hr.toFrame rfl hl)
    | workerInput | launchSpecInput | leaseInput =>
      exact accepts_runPod _ (fun _ _ ho => nomatch ho)
  event r ev sm hr _ hsm _ := by
    have hnode : machineOk n _ ev.receiver _ := hr.node _ ev.receiver sm hsm
    obtain ⟨event,sender,receiver,payload⟩ := ev
    cases event with
    | adminCommand | workloadTimerFired =>
      exact accepts_runWorkload _ hnode rfl rfl (fun _ hd => nomatch hd)
    | activateService => exact accepts_runService _ hnode rfl (fun _ _ hspec => nomatch hspec)
    | activateEndpoint | endpointTimerFired | endpointDemandTraffic =>
      exact accepts_runEndpoint _ (fun _ hc => nomatch hc)
    | notifyPodStatus | notifyPodSuspended | podTimerFired =>
      exact accepts_runPod _ (fun _ _ ho => nomatch ho)
  report r i t source hr _ _ hm d hd := by
    cases i with
    | refsInput =>
      cases mem_singleton.mp hm
      cases d with
      | released w => trivial
      | referenced w =>
        exact hr.live_lt workload w (live_of_link hr.toFrame rfl (refs_linked hd))
    | _ => trivial

end kept

end Distvirt.Ns
