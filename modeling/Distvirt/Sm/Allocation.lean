import Distvirt.Sm.WorkloadPaths

/-! Which ids the turns of machines use: what a turn creates gets a new id, and edges name
machines that exist by the end of the turn. -/

namespace Distvirt

open List

/-- A turn of workload `wl` that began when `np` and `ne` were the next ids. -/
structure WorkloadCore.Sane (wl np ne : Nat) (c : WorkloadCore) : Prop where
  self : c.id = wl
  pod : np ≤ c.nextPod
  endpoint : ne ≤ c.nextEndpoint
  podCreates : ∀ i p, .pod i p ∈ c.creates → np ≤ i ∧ i < c.nextPod ∧
    ∃ artifact, p = { PodSm.new with resumeArtifact := artifact }
  endpointCreates : ∀ i e, .endpoint i e ∈ c.creates → ne ≤ i ∧ i < c.nextEndpoint ∧
    ∃ hasActivation, e = .new hasActivation
  distinct : c.creates.Pairwise (fun c c' => match c,c' with
    | .pod i _,.pod j _ => i ≠ j
    | .endpoint i _,.endpoint j _ => i ≠ j
    | _,_ => True)
  pods : ∀ l, c.setPodOwnershipEdges = some l → ∀ i ∈ l, np ≤ i ∧ i < c.nextPod
  endpoints : ∀ l, c.setWorkloadEndpointOwnershipEdges = some l →
    ∀ i ∈ l, ne ≤ i ∧ i < c.nextEndpoint
  readiness : ∀ l, c.setEndpointReadinessEdges = some l → ∀ i ∈ l, i < ne
  config : ∀ config, c.setEndpointConfig = some (some config) → config.workload = wl

namespace WorkloadCore

variable {ne : Nat} {c : WorkloadCore}

theorem Sane.create (h : c.Sane wl np ne) : c.create.Sane wl np ne where
  self := h.self
  pod := Nat.le_succ_of_le h.pod
  endpoint := h.endpoint
  podCreates i p hm := by
    rcases mem_append.mp hm with hm | hm
    · obtain ⟨hle,hlt,hp⟩ := h.podCreates i p hm
      exact ⟨hle,Nat.lt_succ_of_lt hlt,hp⟩
    · simp only [mem_singleton,WorkloadCreate.pod.injEq] at hm
      obtain ⟨rfl,rfl⟩ := hm
      exact ⟨h.pod,Nat.lt_succ_self _,_,rfl⟩
  endpointCreates i e hm := by
    rcases mem_append.mp hm with hm | hm
    · exact h.endpointCreates i e hm
    · simp at hm
  distinct := by
    refine pairwise_append.mpr ⟨h.distinct,by simp,?_⟩
    intro c hc c' hc'
    rw [mem_singleton] at hc'
    subst hc'
    cases c with
    | pod i p => exact Nat.ne_of_lt (h.podCreates i p hc).2.1
    | endpoint i e => trivial
  pods l hl i hi := by
    cases hl
    rw [mem_singleton] at hi
    subst hi
    exact ⟨h.pod,Nat.lt_succ_self _⟩
  endpoints := h.endpoints
  readiness := h.readiness
  config := h.config

theorem Sane.ensureEndpoint (h : c.Sane wl np ne) (hasActivation : Bool) :
    (c.ensureEndpoint hasActivation).Sane wl np ne := by
  unfold WorkloadCore.ensureEndpoint
  cases c.endpointId with
  | some _ => exact h
  | none =>
    exact
      { self := h.self
        pod := h.pod
        endpoint := Nat.le_succ_of_le h.endpoint
        podCreates := fun i p hm => by
          rcases mem_append.mp hm with hm | hm
          · exact h.podCreates i p hm
          · simp at hm
        endpointCreates := fun i e hm => by
          rcases mem_append.mp hm with hm | hm
          · obtain ⟨hle,hlt,he⟩ := h.endpointCreates i e hm
            exact ⟨hle,Nat.lt_succ_of_lt hlt,he⟩
          · simp only [mem_singleton,WorkloadCreate.endpoint.injEq] at hm
            obtain ⟨rfl,rfl⟩ := hm
            exact ⟨h.endpoint,Nat.lt_succ_self _,_,rfl⟩
        distinct := by
          refine pairwise_append.mpr ⟨h.distinct,by simp,?_⟩
          intro c hc c' hc'
          rw [mem_singleton] at hc'
          subst hc'
          cases c with
          | pod i p => trivial
          | endpoint i e => exact Nat.ne_of_lt (h.endpointCreates i e hc).2.1
        pods := h.pods
        endpoints := fun l hl i hi => by
          cases hl
          rw [mem_singleton] at hi
          subst hi
          exact ⟨h.endpoint,Nat.lt_succ_self _⟩
        readiness := h.readiness
        config := h.config }

theorem sane_closed : Closed (fun endpoints => ∀ i ∈ endpoints, i < ne) (Sane wl np ne) where
  disown h := { h with pods := fun l hl i hi => by cases hl; cases hi }
  create h := h.create
  hold _ h := { h with }
  answer hd h := { h with readiness := fun l hl => by cases hl; exact hd }
  configure config _ h :=
    { h.ensureEndpoint config.respectsDemand with
      config := fun c hc => by cases hc; exact h.self }

end WorkloadCore

namespace WorkloadTurn

variable {ne : Nat} {w : WorkloadSm}

theorem sane_begin : (w.begin wl np ne).core.Sane wl np ne where
  self := rfl
  pod := Nat.le_refl _
  endpoint := Nat.le_refl _
  podCreates _ _ h := nomatch h
  endpointCreates _ _ h := nomatch h
  distinct := .nil
  pods _ h := nomatch h
  endpoints _ h := nomatch h
  readiness _ h := nomatch h
  config _ h := nomatch h

theorem sane_handle (input : WorkloadInput)
    (hd : ∀ demand, input = .demandInput demand → ∀ i ∈ demand.endpointIds, i < ne) :
    ((w.begin wl np ne).handle input).core.Sane wl np ne :=
  closed_handle WorkloadCore.sane_closed sane_begin input hd (fun spec _ =>
    closed_handleSpec WorkloadCore.sane_closed (fun _ h => { h with }) (fun h => { h with })
      sane_begin spec)

/-- The moves of a workload leave alone whether it has a spec and whether it goes. -/
theorem stays_closed (hasSpec : Bool) : WorkloadCore.Closed (fun _ => True)
    (fun c => c.hasSpec = hasSpec ∧ c.selfDestruct = false) where
  disown h := h
  create h := h
  hold _ h := h
  answer _ h := h
  configure {c} config _ h := by
    unfold WorkloadCore.configure WorkloadCore.ensureEndpoint
    cases c.endpointId with
    | some _ => exact h
    | none => exact h

/-- Only a spec input tells a workload whether it has a spec, or ends it. -/
theorem stays_handle (h : ∀ spec, input ≠ .specInput spec) :
    ((w.begin wl np ne).handle input).hasSpec = w.hasSpec ∧
    ((w.begin wl np ne).handle input).selfDestruct = false :=
  closed_handle (stays_closed w.hasSpec) ⟨rfl,rfl⟩ input (fun _ _ => trivial)
    (fun spec hs => absurd hs (h spec))

theorem stays_handleSpec : ((w.begin wl np ne).handle (.specInput (some (m,spec)))).hasSpec = true ∧
    ((w.begin wl np ne).handle (.specInput (some (m,spec)))).selfDestruct = false := by
  have applied := closed_applySpec (stays_closed w.hasSpec)
    (t := { w.begin wl np ne with setPodLaunchSpec := some (some spec) }) ⟨rfl,rfl⟩ spec
  exact closed_reconcile (stays_closed true)
    (t := { ({ w.begin wl np ne with setPodLaunchSpec := some (some spec) } :
      WorkloadTurn).applySpec spec with hasSpec := true }) ⟨rfl,applied.2⟩

/-- Losing its spec ends a workload that had one. -/
theorem ends_handleSpec (h : w.hasSpec = true) :
    ((w.begin wl np ne).handle (.specInput none)).selfDestruct = true := by
  simp [handle,handleSpec,WorkloadSm.begin,h]

theorem hasSpec_handleSpec (hd : ((w.begin wl np ne).handle (.specInput spec)).selfDestruct = false) :
    ((w.begin wl np ne).handle (.specInput spec)).hasSpec = spec.isSome := by
  cases spec with
  | some spec => exact stays_handleSpec.1
  | none =>
    cases hs : w.hasSpec with
    | true =>
      rw [ends_handleSpec hs] at hd
      cases hd
    | false =>
      have kept := closed_reconcile (stays_closed false)
        (t := { w.begin wl np ne with setPodLaunchSpec := some none, hasSpec := false }) ⟨rfl,rfl⟩
      change (if w.hasSpec = true then _ else _ : WorkloadTurn).hasSpec = false
      rw [hs]
      exact kept.1

end WorkloadTurn

namespace PodTurn

variable {p : PodSm} {t : PodTurn}

theorem report_ite [Decidable c] (h : t.setPodReportEdges = l) (h' : t'.setPodReportEdges = l) :
    (if c then t else t').setPodReportEdges = l := by
  split
  · exact h
  · exact h'

theorem report_maybeReap : t.maybeReap.setPodReportEdges = t.setPodReportEdges :=
  report_ite rfl rfl

theorem report_handleWorker : (p.begin.handleWorker worker).setPodReportEdges = none :=
  report_ite (report_maybeReap.trans (report_ite rfl rfl)) (report_ite rfl rfl)

theorem report_handleOwner :
    (p.begin.handleOwner owner).setPodReportEdges = some (owner.map Prod.fst).toList := by
  cases owner with
  | some owner | none =>
    exact report_maybeReap.trans (report_ite (report_ite rfl rfl) (report_ite rfl rfl))

theorem report_handleLease : (p.begin.handleLease lease).setPodReportEdges = none := by
  cases lease with
  | some info => exact report_ite rfl rfl
  | none => exact report_ite report_maybeReap rfl

/-- Only the owner input sets whom a pod reports to. -/
theorem report_handle (h : (p.begin.handle input).setPodReportEdges = some l) :
    ∃ owner, input = .ownerInput owner ∧ l = (owner.map Prod.fst).toList := by
  have quiet : (p.begin.handle input).setPodReportEdges = none →
      ∃ owner, input = .ownerInput owner ∧ l = (owner.map Prod.fst).toList :=
    fun hn => nomatch hn.symm.trans h
  cases input with
  | ownerInput owner => exact ⟨owner,rfl,(Option.some.inj (report_handleOwner.symm.trans h)).symm⟩
  | workerInput worker => exact quiet report_handleWorker
  | launchSpecInput spec => exact quiet (report_ite rfl rfl)
  | leaseInput lease => exact quiet report_handleLease
  | notifyPodStatus status => exact quiet (report_ite report_maybeReap rfl)
  | notifyPodSuspended artifactId => exact quiet (report_ite report_maybeReap rfl)
  | podTimerFired key => cases key <;> exact quiet (report_ite report_maybeReap rfl)

end PodTurn

namespace EndpointTurn

/-- Only the config input sets for which workload an endpoint has demand. -/
theorem demand_handle {e : EndpointSm} (h : (e.begin.handle input).setEndpointDemandEdges = some l) :
    ∃ config, input = .configInput (some config) ∧ l = [config.workload] := by
  have edges_ite : ∀ {c : Prop} [Decidable c] {t t' : EndpointTurn},
      (if c then t else t').setEndpointDemandEdges = some l →
      t.setEndpointDemandEdges = some l ∨ t'.setEndpointDemandEdges = some l := by
    intro c _ t t' h
    split at h
    · exact .inl h
    · exact .inr h
  change (e.begin.dispatch input).setEndpointDemandEdges = some l at h
  cases input with
  | configInput config =>
    cases config with
    | none => cases h
    | some config =>
      refine ⟨config,rfl,?_⟩
      rcases edges_ite h with h | h <;> exact (Option.some.inj h).symm
  | readinessInput readiness => cases h
  | placementInput placement => cases h
  | backendNeedInput need | endpointTimerFired key | endpointDemandTraffic =>
    rcases edges_ite h with h | h <;> cases h
  | activateEndpoint active => cases h

end EndpointTurn

def ServiceSm.begin (s : ServiceSm) (id nextEndpoint : Nat) : ServiceTurn :=
  { toServiceSm := s, id, nextEndpoint }

namespace ServiceTurn

variable {s : ServiceSm} {id ne : Nat}

/-- A turn of a service that began when `ne` was the next endpoint id. -/
structure Sane (ne : Nat) (t : ServiceTurn) : Prop where
  endpoint : ne ≤ t.nextEndpoint
  creates : t.createEndpoint = [] ∨
    ∃ hasActivation, t.createEndpoint = [(ne,.new hasActivation)] ∧ t.nextEndpoint = ne + 1
  endpoints : ∀ l, t.setServiceEndpointOwnershipEdges = some l →
    ∀ i ∈ l, ne ≤ i ∧ i < t.nextEndpoint

theorem sane_begin : Sane ne (s.begin id ne) :=
  ⟨Nat.le_refl _,.inl rfl,fun _ h => nomatch h⟩

theorem sane_handle (input : ServiceInput) : Sane ne ((s.begin id ne).handle input) := by
  obtain ⟨endpointId⟩ := s
  cases input with
  | activateService active =>
    cases endpointId <;> exact ⟨Nat.le_refl _,.inl rfl,fun _ h => nomatch h⟩
  | svcSpecInput spec =>
    cases spec with
    | none => exact ⟨Nat.le_refl _,.inl rfl,fun _ h => nomatch h⟩
    | some spec =>
      cases endpointId with
      | some _ => exact ⟨Nat.le_refl _,.inl rfl,fun _ h => nomatch h⟩
      | none =>
        refine ⟨Nat.le_succ _,.inr ⟨_,rfl,rfl⟩,fun l hl i hi => ?_⟩
        cases hl
        rw [mem_singleton] at hi
        subst hi
        exact ⟨Nat.le_refl _,Nat.lt_succ_self _⟩

end ServiceTurn

end Distvirt
