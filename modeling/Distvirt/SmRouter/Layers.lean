import Distvirt.SmRouter.Fresh

/-! Properties of a propagation in layers: each is kept while the ones below it hold. What has to
be shown is stated in terms of the turns of the machines. -/

namespace Distvirt.SmRouter

namespace Router

variable {T : Topology} {C : Contract T} {I J : Stages T} {r r' : Router T}

/-- What a layer has to show: every turn keeps it, and so does everything that is not a turn. -/
structure Layer (C : Contract T) (I J : Stages T) : Prop where
  begin : ∀ r, I.rest r → J.rest r → J.create r.pendingCreates { r with pendingCreates := [] }
  again : ∀ r, I.create [] r → J.create [] r →
    J.create r.pendingCreates { r with pendingCreates := [] }
  init : ∀ c todo r, I.create (c :: todo) r → J.create (c :: todo) r → r.sms c.kind c.id = none →
    J.create todo ((r.spawn c).turn c.kind c.id (T.onInit c.kind c.id r.alloc c.state))
  created : ∀ r, I.create [] r → J.create [] r → r.pendingCreates = [] →
    J.wave (dedupWave [] r.dirty) { r with dirty := [] }
  skip : ∀ b t todo r, I.wave ((.inl b,t) :: todo) r → J.wave ((.inl b,t) :: todo) r →
    r.sms (T.batchNode b) t = none ∨ r.inp b t = some (r.aggregate b t) → J.wave todo r
  input : ∀ b t todo r sm, I.wave ((.inl b,t) :: todo) r → J.wave ((.inl b,t) :: todo) r →
    r.sms (T.batchNode b) t = some sm → r.inp b t ≠ some (r.aggregate b t) →
    J.wave todo ((r.given b t).turn (T.batchNode b) t (T.onInput b (r.aggregate b t) t r.alloc sm))
  report : ∀ i t todo r, I.wave ((.inr i,t) :: todo) r → J.wave ((.inr i,t) :: todo) r →
    J.wave todo (r.processInc i t)
  delivered : ∀ r, I.wave [] r → J.wave [] r →
    J.event r.pendingEvents { r with pendingEvents := [] }
  lost : ∀ ev todo r, I.event (ev :: todo) r → J.event (ev :: todo) r →
    r.sms (T.receiver ev.event) ev.receiver = none → J.event todo r
  event : ∀ ev todo r sm, I.event (ev :: todo) r → J.event (ev :: todo) r →
    r.sms (T.receiver ev.event) ev.receiver = some sm → r.connected ev = true →
    J.event todo (r.turn (T.receiver ev.event) ev.receiver
      (T.onEvent ev.event ev.payload ev.receiver r.alloc sm))
  sent : ∀ r, I.event [] r → J.event [] r → J.rest r

/-- The layers below know the frame. -/
structure Framed (C : Contract T) (I : Stages T) : Prop where
  create : ∀ todo r, I.create todo r → C.Frame todo r
  wave : ∀ todo r, I.wave todo r → C.Frame [] r
  event : ∀ todo r, I.event todo r → C.Frame [] r

theorem stages_framed : Framed C (C.stages r₀) :=
  ⟨fun _ _ hr => hr.1.toFrame,fun _ _ hr => hr.1.toFrame,fun _ _ hr => hr.1.toFrame⟩

theorem Layer.kept [T.Lawful] (h : Layer C I J) (hf : Framed C I) : I.KeptUnder J where
  begin := h.begin
  again := h.again
  materialize c todo r r' hi hj hr := by
    obtain ⟨hdead,rfl⟩ := (hf.create _ r hi).materializeOne_eq hr
    exact h.init c todo r hi hj hdead
  created := h.created
  deliver x todo r hi hj := by
    obtain ⟨i,t⟩ := x
    cases i with
    | inl b =>
      rcases (hf.wave _ r hi).processBatch_cases b t with ⟨heq,hn⟩ | ⟨sm,hsm,hv,heq⟩
      · rw [processDirtyInput,heq]
        exact h.skip b t todo r hi hj hn
      · rw [processDirtyInput,heq]
        exact h.input b t todo r sm hi hj hsm hv
    | inr i => exact h.report i t todo r hi hj
  delivered := h.delivered
  send ev todo r r' hi hj hr := by
    rcases (hf.event _ r hi).processEvent_cases hr with ⟨rfl,hdead⟩ | ⟨sm,hsm,hcon,rfl⟩
    · exact h.lost ev todo r' hi hj hdead
    · exact h.event ev todo r sm hi hj hsm hcon
  sent := h.sent

/-- A property of the router alone, the same at every stage. -/
def Stages.const (J : Router T → Prop) : Stages T := ⟨J,fun _ => J,fun _ => J,fun _ => J⟩

/-- What a property of the machines has to show. -/
structure Invariant (I : Stages T) (J : Router T → Prop) : Prop where
  same : ∀ r r', r'.sms = r.sms → r'.inp = r.inp → r'.out = r.out → r'.edge = r.edge →
    r'.alloc = r.alloc → J r → J r'
  init : ∀ c todo r, I.create (c :: todo) r → J r → r.sms c.kind c.id = none →
    J ((r.spawn c).turn c.kind c.id (T.onInit c.kind c.id r.alloc c.state))
  input : ∀ b t todo r sm, I.wave ((.inl b,t) :: todo) r → J r →
    r.sms (T.batchNode b) t = some sm → r.inp b t ≠ some (r.aggregate b t) →
    J ((r.given b t).turn (T.batchNode b) t (T.onInput b (r.aggregate b t) t r.alloc sm))
  event : ∀ ev todo r sm, I.event (ev :: todo) r → J r →
    r.sms (T.receiver ev.event) ev.receiver = some sm → r.connected ev = true →
    J (r.turn (T.receiver ev.event) ev.receiver
      (T.onEvent ev.event ev.payload ev.receiver r.alloc sm))

theorem Invariant.layer [T.Lawful] [T.PortFed] (h : Invariant I P) : Layer C I (.const P) where
  begin r _ hr := h.same r _ rfl rfl rfl rfl rfl hr
  again r _ hr := h.same r _ rfl rfl rfl rfl rfl hr
  init c todo r hi hj hdead := h.init c todo r hi hj hdead
  created r _ hr _ := h.same r _ rfl rfl rfl rfl rfl hr
  skip _ _ _ _ _ hj _ := hj
  input b t todo r sm hi hj hsm hv := h.input b t todo r sm hi hj hsm hv
  report i t todo r _ hj := by
    obtain ⟨hs,hinp,ho,he,ha,_⟩ := processInc_same (r := r) i t
    exact h.same r _ hs hinp ho he ha hj
  delivered r _ hr := h.same r _ rfl rfl rfl rfl rfl hr
  lost _ _ _ _ hj _ := hj
  event ev todo r sm hi hj hsm hcon := h.event ev todo r sm hi hj hsm hcon
  sent _ _ hr := hr

/-- A propagation does not give ids back. -/
theorem bound_le [T.Lawful] [T.PortFed] (h : C.Kept r) (hr : C.Holds [] r)
    (hp : r.propagate = some r') (k : T.Sm) : C.bound r.alloc k ≤ C.bound r'.alloc k := by
  have grows : Invariant (C.stages r) (fun r' => C.bound r.alloc k ≤ C.bound r'.alloc k) :=
    { same := fun r₁ r₂ _ _ _ _ ha hle => by
        rw [ha]
        exact hle
      init := fun c todo r₁ hi hle hdead => by
        rw [turn_alloc]
        exact Nat.le_trans hle ((h.init r₁ c todo hi.1 hi.2 hdead).mono k)
      input := fun b t todo r₁ sm hi hle hsm hv => by
        rw [turn_alloc]
        exact Nat.le_trans hle ((h.input r₁ b t sm hi.1 hi.2 hsm hv).mono k)
      event := fun ev todo r₁ sm hi hle hsm hcon => by
        rw [turn_alloc]
        exact Nat.le_trans hle ((h.event r₁ ev sm hi.1 hi.2 hsm hcon).mono k) }
  have kept := h.stages.and ((grows.layer (C := C)).kept stages_framed)
  exact (kept.propagate ⟨⟨hr,.refl⟩,Nat.le_refl _⟩ hp).1.2

/-- The machine lives or is about to be created. -/
def Expected (creating : List T.PendingCreate) (r : Router T) (k : T.Sm) (id : Nat) : Prop :=
  r.sms k id ≠ none ∨ ∃ c ∈ creating ++ r.pendingCreates, c.kind = k ∧ c.id = id

theorem Expected.turn [T.Lawful] {id id' : Nat} (h : r.Expected creating k' id')
    (hself : k' = k ∧ id' = id → reaction.effects.selfDestruct = false) :
    (r.turn k id reaction).Expected creating k' id' := by
  rcases h with h | ⟨c,hc,heq⟩
  · left
    by_cases hs : k' = k ∧ id' = id
    · obtain ⟨rfl,rfl⟩ := hs
      rw [turn_sms_self,hself ⟨rfl,rfl⟩]
      exact Option.some_ne_none _
    · rwa [turn_sms_other hs]
  · refine .inr ⟨c,?_,heq⟩
    rw [turn_pendingCreates,← List.append_assoc]
    exact List.mem_append_left _ hc

/-- A machine that is created is there for the rest of its creation. -/
theorem Expected.spawn {id : Nat} (h : r.Expected (c :: creating) k id) :
    (r.spawn c).Expected creating k id := by
  by_cases hself : k = c.kind ∧ id = c.id
  · obtain ⟨rfl,rfl⟩ := hself
    exact .inl (by simp [Router.spawn,initState])
  · rcases h with h | ⟨c',hc,heq⟩
    · left
      simpa [Router.spawn,initState,put_ne hself] using h
    · rcases List.mem_cons.mp hc with rfl | hc
      · exact absurd ⟨heq.1.symm,heq.2.symm⟩ hself
      · exact .inr ⟨c',hc,heq⟩

/-- With one source at most, an input sees one value at most. -/
theorem collect_length_le_one (h : ∀ q, r.link e q t → q = p) : (r.collect t e s).length ≤ 1 := by
  have hone : ((r.edge e).sources t).length ≤ 1 := by
    have sorted := (r.edge e).sorted t
    match hl : (r.edge e).sources t with
    | [] => exact Nat.zero_le _
    | [_] => exact Nat.le_refl _
    | a :: b :: l =>
      have hlt : a < b := by
        change ((r.edge e).sources t).Pairwise (· < ·) at sorted
        rw [hl] at sorted
        exact (List.pairwise_cons.mp sorted).1 b (by simp)
      have ha := h a (mem_sources_iff.mp (by rw [hl]; simp))
      have hb := h b (mem_sources_iff.mp (by rw [hl]; simp))
      rw [ha,hb] at hlt
      exact absurd hlt (Nat.lt_irrefl _)
  exact Nat.le_trans (List.length_filterMap_le _ _) hone

theorem collect_eq_singleton (h : ∀ q, r.link e q t → q = p) (hl : r.link e p t)
    (ho : r.out s p = some v) : r.collect t e s = [(p,v)] := by
  have hm : (p,v) ∈ r.collect t e s := mem_collect.mpr ⟨hl,ho⟩
  match hc : r.collect t e s,collect_length_le_one (s := s) h with
  | [x],_ =>
    rw [hc,List.mem_singleton] at hm
    rw [hm]
  | [],_ =>
    rw [hc] at hm
    cases hm

end Router

end Distvirt.SmRouter
