import Distvirt.SmRouter.Layers

/-! Machines that live as long as one of their inputs is fed. The input is fed by ports, so that
it is settled before a propagation which of the machines are there when it has come to rest. -/

namespace Distvirt.SmRouter.Router

variable {T : Topology} {C : Contract T} {b : T.Batch} {good : T.Out b → Prop} {fed : Nat → Prop}
  {creating : List T.PendingCreate} {r r' : Router T}

/-- What the machines have to do: those that receive `b` go exactly when it is fed no longer, and
none is created by another machine. -/
structure Sustained (C : Contract T) (b : T.Batch) (good : T.Out b → Prop) : Prop where
  init : ∀ c alloc, C.new c → (∀ c' ∈ (T.onInit c.kind c.id alloc c.state).effects.creates,
    c'.kind ≠ T.batchNode b) ∧ (c.kind = T.batchNode b →
      (T.onInit c.kind c.id alloc c.state).effects.selfDestruct = false)
  input : ∀ b' v id alloc sm, (∀ c' ∈ (T.onInput b' v id alloc sm).effects.creates,
    c'.kind ≠ T.batchNode b) ∧ (T.batchNode b' = T.batchNode b → b' ≠ b →
      (T.onInput b' v id alloc sm).effects.selfDestruct = false)
  event : ∀ ev v id alloc sm, (∀ c' ∈ (T.onEvent ev v id alloc sm).effects.creates,
    c'.kind ≠ T.batchNode b) ∧ (T.receiver ev = T.batchNode b →
      (T.onEvent ev v id alloc sm).effects.selfDestruct = false)
  fed : ∀ v id alloc sm, good v → (T.onInput b v id alloc sm).effects.selfDestruct = false
  starved : ∀ r v v' id sm, C.Holds [] r → r.sms (T.batchNode b) id = some sm →
    r.inp b id = some v → good v → ¬ good v' →
    (T.onInput b v' id r.alloc sm).effects.selfDestruct = true

/-- The machines that are fed live or are about to be created, and no other is about to be. Those
that live were fed when they were last told. -/
structure Fed (b : T.Batch) (good : T.Out b → Prop) (fed : Nat → Prop)
    (creating : List T.PendingCreate) (r : Router T) : Prop where
  expected : ∀ id, fed id → r.Expected creating (T.batchNode b) id
  pending : ∀ c ∈ creating ++ r.pendingCreates, c.kind = T.batchNode b → fed c.id
  told : ∀ id, r.sms (T.batchNode b) id ≠ none →
    (∃ v, r.inp b id = some v ∧ good v) ∨ (r.inp b id = none ∧ fed id)

namespace Fed

theorem same (h : Fed b good fed creating r) (hs : r'.sms = r.sms) (hi : r'.inp = r.inp)
    (hc : r'.pendingCreates = r.pendingCreates) : Fed b good fed creating r' := by
  refine ⟨fun id hid => ?_,fun c hm => ?_,fun id hid => ?_⟩
  · unfold Expected
    rw [hs,hc]
    exact h.expected id hid
  · rw [hc] at hm
    exact h.pending c hm
  · rw [hi]
    rw [hs] at hid
    exact h.told id hid

theorem begin (h : Fed b good fed [] r) :
    Fed b good fed r.pendingCreates { r with pendingCreates := [] } := by
  refine ⟨fun id hid => ?_,fun c hm => ?_,h.told⟩
  · simpa [Expected] using h.expected id hid
  · exact h.pending c (by simpa using hm)

theorem spawn (h : Fed b good fed (c :: todo) r) : Fed b good fed todo (r.spawn c) := by
  refine ⟨fun id hid => (h.expected id hid).spawn,fun c' hm => ?_,fun id hid => ?_⟩
  · exact h.pending c' (List.mem_cons_of_mem _ hm)
  · by_cases hs : T.batchNode b = c.kind ∧ id = c.id
    · obtain ⟨hk,rfl⟩ := hs
      right
      exact ⟨by simp [Router.spawn,initState,hk],h.pending c List.mem_cons_self hk.symm⟩
    · have hinp : (r.spawn c).inp b id = r.inp b id := by
        by_cases hk : T.batchNode b = c.kind
        · have hid' : id ≠ c.id := fun hc => hs ⟨hk,hc⟩
          simp [Router.spawn,initState,hk,Function.update_of_ne hid']
        · simp [Router.spawn,initState,hk]
      rw [hinp]
      refine h.told id ?_
      simpa [Router.spawn,initState,put_ne hs] using hid

/-- Another input is handed over. -/
theorem given (h : Fed b good fed creating r) (hgood : b' = b → good (r.aggregate b t)) :
    Fed b good fed creating (r.given b' t) := by
  refine ⟨h.expected,h.pending,fun id hid => ?_⟩
  by_cases hs : b = b' ∧ id = t
  · obtain ⟨rfl,rfl⟩ := hs
    exact .inl ⟨r.aggregate b id,by simp [Router.given],hgood rfl⟩
  · have hinp : (r.given b' t).inp b id = r.inp b id := put_ne hs
    rw [hinp]
    exact h.told id hid

variable [T.Lawful] {k : T.Sm} {id : Nat} {reaction : T.Reaction k}

theorem turn (h : Fed b good fed creating r) (hlive : r.sms k id ≠ none)
    (hc : ∀ c ∈ reaction.effects.creates, c.kind ≠ T.batchNode b)
    (hself : k = T.batchNode b → fed id → reaction.effects.selfDestruct = false) :
    Fed b good fed creating (r.turn k id reaction) := by
  refine ⟨fun id' hid => ?_,fun c hm hk => ?_,fun id' hid => ?_⟩
  · refine (h.expected id' hid).turn ?_
    rintro ⟨rfl,rfl⟩
    exact hself rfl hid
  · rw [turn_pendingCreates,← List.append_assoc] at hm
    rcases List.mem_append.mp hm with hm | hm
    · exact h.pending c hm hk
    · exact absurd hk (hc c hm)
  · by_cases hs : T.batchNode b = k ∧ id' = id
    · obtain ⟨rfl,rfl⟩ := hs
      rw [turn_sms_self] at hid
      have hd : ¬ reaction.effects.selfDestruct = true := fun hd => hid (if_pos hd)
      rw [turn_inp_self rfl,if_neg hd]
      exact h.told id' hlive
    · rw [turn_sms_other hs] at hid
      rw [turn_inp_other hs]
      exact h.told id' hid

end Fed

def fedStages (b : T.Batch) (good : T.Out b → Prop) (fed : Nat → Prop) : Stages T where
  rest := Fed b good fed []
  create := Fed b good fed
  wave _ := Fed b good fed []
  event _ := Fed b good fed []

variable [T.Lawful]

/-- A machine that is starved goes, with what it was told. -/
theorem Fed.starve (h : Fed b good fed [] r) (hd : reaction.effects.selfDestruct = true)
    (hc : ∀ c ∈ reaction.effects.creates, c.kind ≠ T.batchNode b) (hfed : ¬ fed t) :
    Fed b good fed [] ((r.given b t).turn (T.batchNode b) t reaction) := by
  refine ⟨fun id hid => ?_,fun c hm hk => ?_,fun id hid => ?_⟩
  · have hne : id ≠ t := fun hc => hfed (hc ▸ hid)
    exact Expected.turn (r := r.given b t) (h.expected id hid) (fun hs => absurd hs.2 hne)
  · rw [turn_pendingCreates,← List.append_assoc] at hm
    rcases List.mem_append.mp hm with hm | hm
    · exact h.pending c hm hk
    · exact absurd hk (hc c hm)
  · by_cases hs : id = t
    · subst hs
      rw [turn_sms_self,if_pos hd] at hid
      exact absurd rfl hid
    · have hself : ¬ (T.batchNode b = T.batchNode b ∧ id = t) := fun hc => hs hc.2
      rw [turn_sms_other hself] at hid
      have hinp : (r.given b t).inp b id = r.inp b id := put_ne (fun hc => hs hc.2)
      rw [turn_inp_other hself,hinp]
      exact h.told id hid

variable [T.PortFed]

theorem Sustained.layer (h : Sustained C b good)
    (hfed : ∀ (r : Router T) id, r.SamePorts r₀ → (good (r.aggregate b id) ↔ fed id)) :
    Layer C (C.stages r₀) (fedStages b good fed) where
  begin _ _ hj := hj.begin
  again _ _ hj := hj.begin
  init c todo r hi hj _ := by
    obtain ⟨hc,hself⟩ := h.init c r.alloc (hi.1.pending c (by simp)).1
    refine Fed.turn (r := r.spawn c) hj.spawn ?_ hc (fun hk _ => hself hk)
    simp [Router.spawn,initState]
  created _ _ hj _ := hj.same rfl rfl rfl
  skip _ _ _ _ _ hj _ := hj
  input b' t todo r sm hi hj hsm _ := by
    obtain ⟨hc,hother⟩ := h.input b' (r.aggregate b' t) t r.alloc sm
    by_cases hb : b' = b
    · subst hb
      by_cases hg : good (r.aggregate b' t)
      · refine Fed.turn (r := r.given b' t) (hj.given (fun _ => hg)) ?_ hc
          (fun _ _ => h.fed _ t r.alloc sm hg)
        exact fun hdead => by cases hsm.symm.trans hdead
      · have hnot : ¬ fed t := fun hf => hg ((hfed r t hi.2).mpr hf)
        rcases hj.told t (by rw [hsm]; exact Option.some_ne_none _) with ⟨v,hv,hgood⟩ | ⟨_,hf⟩
        · exact hj.starve (h.starved r v _ t sm hi.1 hsm hv hgood hg) hc hnot
        · exact absurd hf hnot
    · refine Fed.turn (r := r.given b' t) (hj.given (fun heq => absurd heq hb)) ?_ hc
        (fun hk _ => hother hk hb)
      exact fun hdead => by cases hsm.symm.trans hdead
  report i t todo r _ hj := by
    obtain ⟨hs,hinp,_,_,_,_,hc,_⟩ := processInc_same (r := r) i t
    exact hj.same hs hinp hc
  delivered _ _ hj := hj.same rfl rfl rfl
  lost _ _ _ _ hj _ := hj
  event ev todo r sm _ hj hsm _ := by
    obtain ⟨hc,hself⟩ := h.event ev.event ev.payload ev.receiver r.alloc sm
    exact hj.turn (fun hdead => by cases hsm.symm.trans hdead) hc (fun hk _ => hself hk)
  sent _ _ hj := hj

/-- When a propagation has come to rest, exactly the machines that are fed live, and each was told
what it is fed. -/
theorem Sustained.propagate (h : Sustained C b good) (hk : C.Kept r) (hr : C.Holds [] r)
    (hfed : ∀ (r' : Router T) id, r'.SamePorts r → (good (r'.aggregate b id) ↔ fed id))
    (hj : Fed b good fed [] r) (hp : r.propagate = some r') : Fed b good fed [] r' := by
  have layer := (h.layer hfed).kept stages_framed
  exact ((hk.stages.and layer).propagate ⟨⟨hr,.refl⟩,hj⟩ hp).1.2

omit [T.Lawful] [T.PortFed] in
theorem Fed.live_iff (h : Fed b good fed [] r) (hfed : ∀ id, good (r.aggregate b id) ↔ fed id)
    (hc : r.pendingCreates = []) (hcurrent : ∀ id, r.sms (T.batchNode b) id ≠ none →
      r.UpToDate (.inl b) id) (id : Nat) :
    r.sms (T.batchNode b) id ≠ none ↔ fed id := by
  refine ⟨fun hlive => ?_,fun hf => ?_⟩
  · rcases h.told id hlive with ⟨v,hv,hgood⟩ | ⟨_,hf⟩
    · rcases hcurrent id hlive with hnow | ⟨hnone,_⟩
      · rw [hv] at hnow
        cases hnow
        exact (hfed id).mp hgood
      · rw [hv] at hnone
        cases hnone
    · exact hf
  · rcases h.expected id hf with hlive | ⟨c,hm,_⟩
    · exact hlive
    · rw [hc] at hm
      cases hm

end Distvirt.SmRouter.Router
