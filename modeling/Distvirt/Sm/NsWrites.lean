import Distvirt.Sm.NsContract
import Distvirt.SmRouter.Reports

/-! What the calls that a namespace makes on its router keep. -/

namespace Distvirt.Ns
open SmRouter

/-- The inputs that are always up to date. Connecting a worker again, or suspending to an
artifact again, overwrites the state of a port that is in use, so the inputs of these ports and
those that read their signals are left out. -/
def Tracked : Batch ⊕ Inc → Prop
  | .inl .workerInput | .inl .artifactInput | .inr .assignedPodsInput | .inr .refsInput => False
  | _ => True

/-- No tracked input reads or belongs to a worker or an artifact. -/
theorem untracked (x : Batch ⊕ Inc) (h : Tracked x) :
    (∀ source ∈ sources x, (ends source.1).1 ≠ .inr .worker ∧ (ends source.1).1 ≠ .inr .artifact) ∧
    ∀ i, x = .inr i → incNode i ≠ .worker ∧ incNode i ≠ .artifact := by
  rcases x with b | i
  · refine ⟨?_,fun i hi => nomatch hi⟩
    cases b <;> first
      | exact h.elim
      | decide
  · cases i <;> first
      | exact h.elim
      | exact ⟨by decide,fun i hi => by cases hi; decide⟩

theorem unread_worker : Router.Unread (T := topology) Tracked PortKind.worker :=
  fun x _ _ hx hes => ((untracked x hx).1 _ hes).1

theorem unread_artifact : Router.Unread (T := topology) Tracked PortKind.artifact :=
  fun x _ _ hx hes => ((untracked x hx).1 _ hes).2

/-- The ports whose ids the router counts. -/
def Auto (p : PortKind) : Prop :=
  p = .management ∨ p = .scheduleLease ∨ p = .endpointDemand ∨ p = .wireGuardPeer

/-- The ports that a namespace creates once. -/
def Shared (p : PortKind) : Prop :=
  p = .timer ∨ p = .scheduleRequest ∨ p = .fabricEndpoint ∨ p = .dnsRegistry ∨ p = .observability

/-- What holds of a router between the calls. -/
structure Ready (n : Bounds) (r : DRouter) : Prop where
  positive : 0 < n.workload
  holds : (base n).Holds [] r
  specs : SpecsBounded n r
  fresh : Router.Fresh Tracked [] [] r
  snapshots : r.SnapshotsNodup
  auto : ∀ p, Auto p → ∀ e id t, (ends e).1 = .inr p → r.link e id t → id < r.alloc (.inr p)
  shared : ∀ p, Shared p → r.ports p singleton = true

/-- The input reads a signal of the ports of one kind. -/
def FedBy (p : PortKind) (x : Batch ⊕ Inc) : Prop :=
  ∃ source ∈ sources x, (ends source.1).1 = .inr p

section marks
variable {r : DRouter} {id : Nat} {x : (Batch ⊕ Inc) × Nat}

/-- The calls on a port mark what reads it. -/
theorem marks_setSignal (hs : node s = .inr p) (h : x ∈ (r.setSignal s id value).dirty) :
    x ∈ r.dirty ∨ FedBy p x.1 := by
  have hd : (r.setSignal s id value).dirty = _ := Router.setSignal_dirty
  rw [hd,List.mem_append] at h
  rcases h with h | h
  · exact .inl h
  · split at h
    · cases h
    · obtain ⟨i,t⟩ := x
      obtain ⟨e,hm,_⟩ := (Router.mem_readers (T := topology)).mp h
      exact .inr ⟨(e,s),hm,(((sources_fit i).2 (e,s) hm).1).symm.trans hs⟩

theorem marks_setEdges (he : (ends e).1 = .inr p) (h : x ∈ (r.setEdges e id targets).dirty) :
    x ∈ r.dirty ∨ FedBy p x.1 := by
  rcases List.mem_append.mp h with h | h
  · exact .inl h
  · obtain ⟨t,_,h⟩ := List.mem_flatMap.mp h
    obtain ⟨i,hi,rfl⟩ := List.mem_map.mp h
    obtain ⟨s,hs⟩ := (Router.mem_edgeInputs (T := topology)).mp hi
    exact .inr ⟨(e,s),hs,he⟩

theorem marks_destroyPort (h : x ∈ (r.destroyPort p id).dirty) : x ∈ r.dirty ∨ FedBy p x.1 := by
  have hd : (r.destroyPort p id).dirty = _ := Router.destroyPort_dirty
  rw [hd,List.mem_append] at h
  rcases h with h | h
  · exact .inl h
  · obtain ⟨i,t⟩ := x
    obtain ⟨e,_,he,_,_,s,hs⟩ := (Router.mem_edgesDirty (T := topology)).mp h
    exact .inr ⟨(e,s),hs,he⟩

end marks

namespace Ready

variable {n : Bounds} {r r' : DRouter} {id : Nat}

theorem send (h : Ready n r) (ev : topology.PendingEvent) : Ready n (r.send ev) :=
  { h with holds := h.holds.sendEvent ev, fresh := h.fresh.send ev }

theorem drain (h : Ready n r) (p : PortKind) : Ready n (r.drain p).2 :=
  { h with holds := h.holds.wrote .drain, fresh := h.fresh.drain }

theorem propagate (h : Ready n r) (hp : r.propagate = some r') :
    Ready n r' ∧ r'.SamePorts r ∧ r'.Quiescent := by
  have kept := base_kept h.specs
  obtain ⟨holds,same,quiet⟩ := kept.propagate h.holds hp
  refine ⟨⟨h.positive,holds,?_,Router.Fresh.propagate kept h.holds h.fresh hp,
    (Router.snapshotsNodup_told (T := topology)).propagate kept h.holds h.snapshots hp,?_,?_⟩,same,quiet⟩
  · intro id spec ho
    rw [same.out Signal.managementSvcSpec PortKind.management rfl] at ho
    exact h.specs id spec ho
  · intro p hauto e id t he hl
    rw [same.alloc p]
    have hl : t ∈ (r'.edge e).targets id := hl
    rw [same.edge e p he] at hl
    exact h.auto p hauto e id t he hl
  · intro p hs
    rw [same.ports]
    exact h.shared p hs

variable {v : NodeView topology k}

/-- A port's signal is written; a service spec has to name a workload id in use. -/
theorem setSignal (h : Ready n r) (hn : node s = .inr p)
    (hf : r.out s id ≠ none ∨ p = .worker ∨ p = .artifact)
    (hs : s ≠ .managementSvcSpec ∨ ∀ spec : Sm.ServiceSpec,
      (r.setSignal s id value).out Signal.managementSvcSpec id = some spec →
        spec.workload < n.workload) : Ready n (r.setSignal s id value) where
  positive := h.positive
  holds := h.holds.wrote (.setSignal h.holds hn)
  specs id' spec ho := by
    by_cases hid : id' = id
    · subst hid
      rcases hs with hs | hs
      · have kept : (r.setSignal s id' value).out Signal.managementSvcSpec id' =
            r.out Signal.managementSvcSpec id' ∨ _ := Router.setSignal_out_cases (Ne.symm hs)
        rcases kept with heq | heq
        · exact h.specs id' spec (heq.symm.trans ho)
        · cases heq.symm.trans ho
          exact h.positive
      · exact hs spec ho
    · rw [Router.setSignal_out (fun hc => hid hc.2)] at ho
      exact h.specs id' spec ho
  fresh := by
    rcases hf with hf | hp
    · exact h.fresh.setSignal hf
    · rcases hp with rfl | rfl
      · exact h.fresh.setSignal_unread hn unread_worker (fun i hi => ((untracked _ hi).2 i rfl).1)
      · exact h.fresh.setSignal_unread hn unread_artifact (fun i hi => ((untracked _ hi).2 i rfl).2)
  snapshots := h.snapshots.setSignal
  auto p' hauto e id' t he hl := by
    rw [Router.setSignal_alloc]
    refine h.auto p' hauto e id' t he ?_
    have hl : t ∈ ((r.setSignal s id value).edge e).targets id' := hl
    rw [Router.setSignal_edge] at hl
    exact hl
  shared p' hp' := by
    rw [Router.setSignal_ports]
    exact h.shared p' hp'

theorem setEdges (h : Ready n r) (hn : (ends e).1 = .inr p) (hid : Auto p → id < r.alloc (.inr p))
    (hlt : ∀ k, (ends e).2 = .inl k → ∀ t ∈ newTargets, t < bound n r.alloc k) :
    Ready n (r.setEdges e id newTargets) where
  positive := h.positive
  holds := h.holds.wrote (.setEdges h.holds hn hlt)
  specs := h.specs
  fresh := h.fresh.setEdges
  snapshots := h.snapshots
  auto p' hauto e' id' t he hl := by
    by_cases hself : e' = e ∧ id' = id
    · obtain ⟨rfl,rfl⟩ := hself
      cases hn.symm.trans he
      exact hid hauto
    · exact h.auto p' hauto e' id' t he ((Router.setEdges_link hself).mp hl)
  shared := h.shared

/-- A port of a worker or an artifact is created, possibly over one in use. -/
theorem createPort (h : Ready n r) (hp : p = .worker ∨ p = .artifact) :
    Ready n (r.createPort p id) where
  positive := h.positive
  holds := h.holds.wrote .createPort
  specs id' spec ho := by
    refine h.specs id' spec (Eq.trans ?_ ho)
    rcases hp with rfl | rfl <;> simp [Router.createPort,Router.initState,node]
  fresh := by
    rcases hp with rfl | rfl
    · refine h.fresh.createPort (.inl unread_worker) (fun i hi heq => ?_)
      exact absurd heq ((untracked _ hi).2 i rfl).1
    · refine h.fresh.createPort (.inl unread_artifact) (fun i hi heq => ?_)
      exact absurd heq ((untracked _ hi).2 i rfl).2
  snapshots := Router.SnapshotsNodup.initState (r := { r with ports := put r.ports p id true })
    h.snapshots _ _
  auto := h.auto
  shared p' hp' := by
    by_cases hself : p' = p ∧ singleton = id
    · obtain ⟨rfl,rfl⟩ := hself
      simp [Router.createPort,Router.initState]
    · simp only [Router.createPort,Router.initState,put_ne hself]
      exact h.shared p' hp'

theorem auto_not_inc (hp : Auto p) (i : Inc) : incNode i ≠ p := by
  rcases hp with rfl | rfl | rfl | rfl <;> cases i <;> decide

theorem auto_not_shared (hp : Auto p) : ¬ Shared p := by
  rcases hp with rfl | rfl | rfl | rfl <;> simp [Shared]

theorem createPortAuto (h : Ready n r) (hp : Auto p) : Ready n (r.createPortAuto p).2 where
  positive := h.positive
  holds := h.holds.wrote (.createPortAuto (fun alloc p x => by
    funext k
    cases k <;> simp [base,bound]))
  specs id' spec ho := by
    simp only [Router.createPortAuto,Router.createPort,Router.initState] at ho
    split at ho
    · by_cases hid : id' = r.alloc (.inr p)
      · subst hid
        rw [Function.update_self] at ho
        cases ho
        exact h.positive
      · rw [Function.update_of_ne hid] at ho
        exact h.specs id' spec ho
    · exact h.specs id' spec ho
  fresh := by
    refine Router.Fresh.createPort (h.fresh.countPort _) (.inr (fun e t he hl => ?_))
      (fun i _ heq => absurd heq (auto_not_inc hp i))
    exact absurd (h.auto p hp e _ t he hl) (Nat.lt_irrefl _)
  snapshots := Router.SnapshotsNodup.initState
    (r := { r with
      alloc := Function.update r.alloc (.inr p) (r.alloc (.inr p) + 1)
      ports := put r.ports p (r.alloc (.inr p)) true }) h.snapshots _ _
  auto p' hauto e id' t he hl := by
    have hlt := h.auto p' hauto e id' t he hl
    simp only [Router.createPortAuto,Router.createPort,Router.initState]
    by_cases hpp : p' = p
    · subst hpp
      rw [Function.update_self]
      exact Nat.lt_succ_of_lt hlt
    · rw [Function.update_of_ne (fun hc => hpp (Sum.inr.inj hc))]
      exact hlt
  shared p' hp' := by
    have hne : p' ≠ p := fun hc => auto_not_shared hp (hc ▸ hp')
    simp only [Router.createPortAuto,Router.createPort,Router.initState,put_name hne]
    exact h.shared p' hp'

/-- What holds of a machine does not depend on its edges. -/
theorem machineOk_unlink (h : machineOk n k id v) : machineOk n k id (v.unlink p t) := by
  cases k with
  | service | workload | pod | endpoint => exact h

theorem destroyPort (h : Ready n r) (hp : ¬ Shared p) : Ready n (r.destroyPort p id) where
  positive := h.positive
  holds := h.holds.destroyPort (fun _ _ _ _ hn => machineOk_unlink hn)
  specs id' spec ho := h.specs id' spec (Router.destroyPort_out_some ho)
  fresh := h.fresh.destroyPort
  snapshots := h.snapshots.destroyPort p id
  auto p' hauto e id' t he hl := by
    have halloc : (r.destroyPort p id).alloc = r.alloc := Router.destroyPort_alloc
    rw [halloc]
    exact h.auto p' hauto e id' t he ((Router.destroyPort_link (T := topology)).mp hl).1
  shared p' hp' := by
    have hne : p' ≠ p := fun hc => hp (hc ▸ hp')
    have hports : (r.destroyPort p id).ports = put r.ports p id false := Router.destroyPort_ports
    rw [hports,put_name hne]
    exact h.shared p' hp'

/-- More ids in use leave everything as it is. -/
theorem mono_base (h : (base n).Holds creating r) (hw : n.workload ≤ n'.workload)
    (hs : n.service ≤ n'.service) : (base n').Holds creating r := by
  refine h.mono (fun k id v hv => ?_) (fun _ hc => hc) (fun q _ hq => ?_) (fun k => ?_)
  · cases k with
    | service => exact fun config hc => Nat.lt_of_lt_of_le (hv config hc) hw
    | workload => exact hv
    | pod => exact hv
    | endpoint => exact hv
  · obtain ⟨t,i,d⟩ := q
    cases i with
    | refsInput =>
      cases d with
      | referenced w => exact Nat.lt_of_lt_of_le hq hw
      | released w => trivial
    | _ => trivial
  · cases k with
    | service => exact hs
    | workload => exact hw
    | pod | endpoint => exact Nat.le_refl _

/-- A machine whose id the namespace counts is created under the next one. -/
theorem createSm (h : Ready n r) (hw : n.workload ≤ n'.workload) (hs : n.service ≤ n'.service)
    (hnew : Initial ⟨k,id,state⟩) (hid : bound n r.alloc k ≤ id) (hid' : id < bound n' r.alloc k) :
    Ready n' (r.createSm k id state) where
  positive := Nat.lt_of_lt_of_le h.positive hw
  holds := by
    refine (mono_base h.holds hw hs).createSm hnew hid' ?_ ?_
    · by_contra hlive
      exact absurd (h.holds.live_lt k id hlive) (Nat.not_lt.mpr hid)
    · intro c hc heq
      have := (h.holds.pending c hc).2.1
      rw [heq.1,heq.2] at this
      exact absurd this (Nat.not_lt.mpr hid)
  specs id' spec ho := Nat.lt_of_lt_of_le (h.specs id' spec ho) hw
  fresh := h.fresh.createSm h.holds.toFrame hid
  snapshots := h.snapshots
  auto := h.auto
  shared := h.shared

end Ready

end Distvirt.Ns
