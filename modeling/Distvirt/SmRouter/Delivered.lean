import Distvirt.SmRouter.Calls
import Distvirt.Sm.NsContract
import Distvirt.Runs
import Mathlib.Logic.Relation

/-! When a machine has been given what the sources of its batch inputs say. Deliveries follow
marks, and a mark for a machine that does not exist is dropped; so it matters what points at a
machine when it is created. -/

namespace Distvirt.SmRouter

open Option

/-- Where a propagation stands, with what it has still to process. -/
inductive Stage (T : Topology) where
  | rest
  | create (todo : List T.PendingCreate)
  | wave (todo : List (T.Input × Nat))
  | event (todo : List T.PendingEvent)

namespace Router

/-- The states that a propagation goes through. -/
inductive Visits {T : Topology} (r₀ : Router T) : Stage T → Router T → Prop where
  | start : Visits r₀ .rest r₀
  | begin {r : Router T} (h : Visits r₀ .rest r) :
    Visits r₀ (.create r.pendingCreates) { r with pendingCreates := [] }
  | again {r : Router T} (h : Visits r₀ (.create []) r) :
    Visits r₀ (.create r.pendingCreates) { r with pendingCreates := [] }
  | materialize {r r' : Router T} {c : T.PendingCreate} {todo : List T.PendingCreate}
    (h : Visits r₀ (.create (c :: todo)) r) (hr : r.materializeOne c = some r') :
    Visits r₀ (.create todo) r'
  | created {r : Router T} (h : Visits r₀ (.create []) r) (hc : r.pendingCreates = []) :
    Visits r₀ (.wave (dedupWave [] r.dirty)) { r with dirty := [] }
  | deliver {r : Router T} {x : T.Input × Nat} {todo : List (T.Input × Nat)}
    (h : Visits r₀ (.wave (x :: todo)) r) : Visits r₀ (.wave todo) (r.processDirtyInput x)
  | delivered {r : Router T} (h : Visits r₀ (.wave []) r) :
    Visits r₀ (.event r.pendingEvents) { r with pendingEvents := [] }
  | send {r r' : Router T} {ev : T.PendingEvent} {todo : List T.PendingEvent}
    (h : Visits r₀ (.event (ev :: todo)) r) (hr : r.processEvent ev = some r') :
    Visits r₀ (.event todo) r'
  | sent {r : Router T} (h : Visits r₀ (.event []) r) : Visits r₀ .rest r

variable {T : Topology} {r r' r₀ : Router T} {todo : List (T.Input × Nat)} {k : T.Sm}
  {b : T.Batch} {id t : Nat}

def visited (r₀ : Router T) : Stages T where
  rest := Visits r₀ .rest
  create todo := Visits r₀ (.create todo)
  wave todo := Visits r₀ (.wave todo)
  event todo := Visits r₀ (.event todo)

theorem visited_kept : (visited r₀).Kept where
  begin _ h := h.begin
  again _ h := h.again
  materialize _ _ _ _ h hr := h.materialize hr
  created _ h hc := h.created hc
  deliver _ _ _ h := h.deliver
  delivered _ h := h.delivered
  send _ _ _ _ h hr := h.send hr
  sent _ h := h.sent

/-- The value last delivered is the aggregate, or nothing was delivered yet and the aggregate is
the one of no sources. -/
def Current (r : Router T) (b : T.Batch) (t : Nat) : Prop :=
  r.inp b t = some (r.aggregate b t) ∨
    (r.inp b t = none ∧ r.aggregate b t = T.aggregate b (fun _ _ => []))

instance : Decidable (r.Current b t) := inferInstanceAs (Decidable (_ ∨ _))

/-- A machine may be created if what points at it is still marked or says nothing, and if it
points at nothing itself. -/
structure Unseen (r : Router T) (c : T.PendingCreate) : Prop where
  inputs : ∀ b, T.batchNode b = c.kind → (.inl b,c.id) ∈ r.dirty ∨
    r.aggregate b c.id = T.aggregate b (fun _ _ => [])
  edges : ∀ e t, T.src e = .inl c.kind → ¬ r.link e c.id t

/-- No edge starts at the node. -/
def Loose (r : Router T) (k : T.Kind) (id : Nat) : Prop :=
  ∀ e t, T.src e = k → ¬ r.link e id t

/-- The calls after which the marks still say what has to be delivered: a node gets its signal
state before its edges, and a machine is created before its inputs have been forgotten. -/
def Clean (r : Router T) : Call T → Prop
  | .setSignal s id _ => r.out s id ≠ none ∨ r.Loose (T.node s) id
  | .createPort p id => r.Loose (.inr p) id
  | .createPortAuto p => r.Loose (.inr p) (r.alloc (.inr p))
  | .propagate => ∀ c todo r', Visits r (.create (c :: todo)) r' → r'.Unseen c
  | _ => True

abbrev CleanRun : Router T → List (Call T) → Prop :=
  Runs.Along (fun r c => (r.call c).map Prod.snd) Clean

/-- Each batch input of a live machine is marked or has been given what it sees. The signals of a
node have values all together. -/
structure Delivered (todo : List (T.Input × Nat)) (r : Router T) : Prop where
  uniform : ∀ s s' id, T.node s = T.node s' → r.out s id ≠ none → r.out s' id ≠ none
  settled : ∀ k id, r.Settled k id
  current : ∀ b t, r.sms (T.batchNode b) t ≠ none →
    (.inl b,t) ∈ todo ∨ (.inl b,t) ∈ r.dirty ∨ r.Current b t

theorem Current.same (h : r.Current b t) (hi : r'.inp b t = r.inp b t)
    (hc : ∀ e s, (e,s) ∈ T.sources (.inl b) → r'.collect t e s = r.collect t e s) :
    r'.Current b t := by
  have ha : r'.aggregate b t = r.aggregate b t := aggregate_congr hc
  unfold Current
  rw [hi,ha]
  exact h

theorem Delivered.new : Delivered [] (new T) where
  uniform _ _ _ _ h := absurd rfl h
  settled _ _ := ⟨fun h => absurd rfl h,fun _ _ _ => rfl⟩
  current _ _ h := absurd rfl h

/-- Only the waiting events, the ids, the ports and what they were told may differ. -/
theorem Delivered.same (h : Delivered todo r) (hs : r'.sms = r.sms) (hi : r'.inp = r.inp)
    (ho : r'.out = r.out) (he : r'.edge = r.edge) (hd : r'.dirty = r.dirty) :
    Delivered todo r' where
  uniform := by
    rw [ho]
    exact h.uniform
  settled k id := (h.settled k id).keep (by rw [hs]) (fun b _ => (congrFun (congrFun hi b) id).trans)
    (fun s _ => (congrFun (congrFun ho s) id).trans_ne)
  current b t hl := by
    rw [hs] at hl
    rw [hd]
    refine (h.current b t hl).imp_right (Or.imp_right (fun hc => hc.same (by rw [hi]) ?_))
    intro e s _
    simp only [collect,he,ho]

/-- A live machine whose input is not among the new marks sees what it saw before. -/
theorem Delivered.marks (h : Delivered todo r) (hl : r.sms (T.batchNode b) t ≠ none)
    (hd : r'.dirty = r.dirty ++ marked) (hs : (.inl b,t) ∉ marked → r'.inp b t = r.inp b t ∧
      ∀ e s, (e,s) ∈ T.sources (.inl b) → r'.collect t e s = r.collect t e s) :
    (.inl b,t) ∈ todo ∨ (.inl b,t) ∈ r'.dirty ∨ r'.Current b t := by
  rw [hd,List.mem_append]
  by_cases hm : (.inl b,t) ∈ marked
  · exact .inr (.inl (.inr hm))
  · exact (h.current b t hl).imp_right (Or.imp .inl (fun h' => h'.same (hs hm).1 (hs hm).2))

section turns
variable [T.Lawful]

/-- A reaction marks every input that sees something new. -/
theorem Delivered.turn (h : Delivered todo r) (live : r.sms k id ≠ none) :
    Delivered todo (r.turn k id reaction) where
  uniform s s' id' hn := by
    by_cases hself : T.node s = .inl k ∧ id' = id
    · obtain ⟨hs,rfl⟩ := hself
      rw [turn_out_self hs,turn_out_self (hn.symm.trans hs)]
      split
      · exact fun ho => absurd rfl ho
      · have := (h.settled k id').1 live s' (hn.symm.trans hs)
        cases reaction.effects.signal s' with
        | none => exact fun _ => this
        | some v => simp
    · rw [turn_out_other hself,turn_out_other (fun hc => hself ⟨hn.trans hc.1,hc.2⟩)]
      exact h.uniform s s' id' hn
  settled k' id' := (h.settled k' id').turn live
  current b t hl := by
    obtain ⟨hlive,hinp⟩ : r.sms (T.batchNode b) t ≠ none ∧
        (r.turn k id reaction).inp b t = r.inp b t := by
      by_cases hself : T.batchNode b = k ∧ t = id
      · obtain ⟨rfl,rfl⟩ := hself
        rw [turn_sms_self] at hl
        split at hl
        · exact absurd rfl hl
        · rename_i hd
          exact ⟨live,by rw [turn_inp_self rfl,if_neg hd]⟩
      · rw [turn_sms_other hself] at hl
        exact ⟨hl,turn_inp_other hself⟩
    exact h.marks hlive turn_dirty (fun hm => ⟨hinp,fun e s hs => collect_turn hs hm⟩)

theorem Delivered.react (h : Delivered todo r) (live : r.sms k id ≠ none) :
    Delivered todo (r.react k id reaction) := by
  rw [react_eq_turn ((h.settled k id).1 live)]
  exact h.turn live

theorem Delivered.processBatch (h : Delivered ((.inl b,t) :: todo) r) :
    Delivered todo (r.processBatch b t) := by
  have skip : (r.sms (T.batchNode b) t = none ∨ r.Current b t) → Delivered todo r := by
    intro hskip
    refine ⟨h.uniform,h.settled,fun b' t' hl => ?_⟩
    rcases h.current b' t' hl with h' | h' | h'
    · rcases List.mem_cons.mp h' with heq | h'
      · cases heq
        exact .inr (.inr (hskip.resolve_left hl))
      · exact .inl h'
    · exact .inr (.inl h')
    · exact .inr (.inr h')
  unfold Router.processBatch
  cases hsm : r.sms (T.batchNode b) t with
  | none => exact skip (.inl hsm)
  | some sm =>
    simp only
    split
    · rename_i hv
      exact skip (.inr (.inl hv))
    · have live : r.sms (T.batchNode b) t ≠ none := by simp [hsm]
      refine Delivered.react (r := r.given b t)
        ⟨h.uniform,fun k id => (h.settled k id).given live,fun b' t' hl => ?_⟩ live
      by_cases hself : b' = b ∧ t' = t
      · obtain ⟨rfl,rfl⟩ := hself
        refine .inr (.inr (.inl ?_))
        simp only [Router.given,put_self]
        rfl
      · rcases h.current b' t' hl with h' | h' | h'
        · rcases List.mem_cons.mp h' with heq | h'
          · cases heq
            exact absurd ⟨rfl,rfl⟩ hself
          · exact .inl h'
        · exact .inr (.inl h')
        · exact .inr (.inr (h'.same (put_ne hself) (fun _ _ _ => rfl)))

theorem Delivered.feed (ds : List D) (h : Delivered todo r) :
    Delivered todo (r.feed k t handle ds) := by
  induction ds generalizing r with
  | nil => exact h
  | cons d ds ih =>
    unfold Router.feed
    cases hsm : r.sms k t with
    | none => exact h
    | some sm =>
      have live : r.sms k t ≠ none := by simp [hsm]
      simp only
      split
      · exact h.react live
      · exact ih (h.react live)

omit [T.Lawful] in
theorem Delivered.processSources (sources : List (T.Edge × T.Signal)) (h : Delivered todo r) :
    Delivered todo (sources.foldl (fun r source => r.processSource i t source) r) := by
  induction sources generalizing r with
  | nil => exact h
  | cons source sources ih => exact ih (h.same rfl rfl rfl rfl rfl)

theorem Delivered.processInc (h : Delivered ((.inr i,t) :: todo) r) :
    Delivered todo (r.processInc i t) := by
  have h' : Delivered todo r := by
    refine ⟨h.uniform,h.settled,fun b t' hl => ?_⟩
    rcases h.current b t' hl with hm | hm
    · exact .inl ((List.mem_cons.mp hm).resolve_left (by simp))
    · exact .inr hm
  unfold Router.processInc
  split
  · split
    · exact h'
    · exact Delivered.feed _ (h'.same rfl rfl rfl rfl rfl)
  · split
    · split
      · unfold Router.processWhole
        simp only
        split
        · exact h'
        · exact h'.same rfl rfl rfl rfl rfl
      · exact h'.processSources _
    · exact h'

theorem Delivered.processEvent (h : Delivered todo r) (hr : r.processEvent ev = some r') :
    Delivered todo r' := by
  unfold Router.processEvent at hr
  split at hr
  · split at hr
    · rename_i sm hsm
      cases hr
      exact h.react (by simp [hsm])
    · cases hr
      exact h
  · cases hr

omit [T.Lawful] in
theorem initState_out_ne {k : T.Kind} (h : r.out s id' ≠ none) :
    (r.initState k id).out s id' ≠ none := by
  simp only [initState]
  split
  · by_cases hid : id' = id
    · subst hid
      simp
    · rwa [Function.update_of_ne hid]
  · exact h

omit [T.Lawful] in
theorem initState_inp_none {k : T.Kind} (h : r.inp b t = none) : (r.initState k id).inp b t = none := by
  simp only [initState]
  split
  · by_cases ht : t = id
    · subst ht
      exact Function.update_self ..
    · rwa [Function.update_of_ne ht]
  · exact h

omit [T.Lawful] in
theorem initState_hasState {k : T.Kind} : (r.initState k id).HasState k id := by
  intro s hn
  simp [initState,hn]

omit [T.Lawful] in
theorem initState_uniform {k : T.Kind}
    (h : ∀ s s' id, T.node s = T.node s' → r.out s id ≠ none → r.out s' id ≠ none)
    (s s' : T.Signal) (id' : Nat) (hn : T.node s = T.node s')
    (ho : (r.initState k id).out s id' ≠ none) : (r.initState k id).out s' id' ≠ none := by
  by_cases hself : T.node s' = k ∧ id' = id
  · obtain ⟨hs,rfl⟩ := hself
    exact initState_hasState s' hs
  · have other : ∀ s, T.node s = T.node s' → (r.initState k id).out s id' = r.out s id' :=
      fun s hs => update_if_ne (by rwa [hs])
    rw [other s hn] at ho
    rw [other s' rfl]
    exact h s s' id' hn ho

omit [T.Lawful] in
/-- A machine appears that nothing is forgotten of. -/
theorem Delivered.appear (h : Delivered [] r) (hc : r.Unseen c) (hdead : r.sms c.kind c.id = none)
    (hsms : r'.sms = put r.sms c.kind c.id (some c.state)) (hdirty : r'.dirty = r.dirty)
    (hnew : r'.HasState (.inl c.kind) c.id) (hout : ∀ s id, r.out s id ≠ none → r'.out s id ≠ none)
    (hu : ∀ s s' id, T.node s = T.node s' → r'.out s id ≠ none → r'.out s' id ≠ none)
    (hinp : ∀ b t, r'.inp b t = r.inp b t)
    (hcollect : ∀ b t e s, (e,s) ∈ T.sources (.inl b) → r'.collect t e s = r.collect t e s) :
    Delivered [] r' where
  uniform := hu
  settled k id := by
    by_cases hself : k = c.kind ∧ id = c.id
    · obtain ⟨rfl,rfl⟩ := hself
      exact ⟨fun _ => hnew,fun _ b hb => (hinp b _).trans ((h.settled _ _).2 hdead b hb)⟩
    · exact (h.settled k id).keep (by rw [hsms,put_ne hself]) (fun b _ => (hinp b id).trans)
        (fun s _ => hout s id)
  current b t hl := by
    rw [hdirty]
    by_cases hself : T.batchNode b = c.kind ∧ t = c.id
    · obtain ⟨hb,rfl⟩ := hself
      refine .inr ((hc.inputs b hb).imp_right (fun ha => .inr ⟨?_,?_⟩))
      · rw [hinp]
        exact (h.settled _ c.id).2 hdead b hb
      · rw [← ha]
        exact aggregate_congr (hcollect b c.id)
    · rw [hsms,put_ne hself] at hl
      exact (h.current b t hl).imp_right (Or.imp_right (fun h' => h'.same (hinp b t)
        (hcollect b t)))

theorem Delivered.materializeOne (h : Delivered [] r) (hc : r.Unseen c)
    (hr : r.materializeOne c = some r') : Delivered [] r' := by
  unfold Router.materializeOne at hr
  cases hdead : r.sms c.kind c.id with
  | some sm => simp [hdead] at hr
  | none =>
    simp only [hdead,some.injEq] at hr
    subst hr
    refine Delivered.react ?_ (by split <;> simp [initState])
    split
    · rename_i hs
      obtain ⟨s,_,hs⟩ := List.any_eq_true.mp hs
      simp only [decide_eq_true_eq] at hs
      refine h.appear hc hdead rfl rfl (fun s' hn => ?_) (fun _ _ ho => ho) h.uniform
        (fun _ _ => rfl) (fun _ _ _ _ _ => rfl)
      exact h.uniform s s' c.id (hs.1.trans hn.symm) (isSome_iff_ne_none.mp hs.2)
    · refine h.appear hc hdead rfl rfl initState_hasState (fun _ _ => initState_out_ne)
        (initState_uniform h.uniform) (fun b t => ?_) (fun b t e s hs => ?_)
      · simp only [initState,Sum.inl.injEq]
        split
        · rename_i hb
          by_cases ht : t = c.id
          · subst ht
            rw [Function.update_self]
            exact ((h.settled _ c.id).2 hdead b hb).symm
          · rw [Function.update_of_ne ht]
        · rfl
      · exact collect_initState hc.edges hs

end turns

section calls
variable [T.Lawful] {e : T.Edge}

/-- A node that is no live machine may be given a signal state while no edge starts at it. -/
theorem Delivered.initState {k : T.Kind} (h : Delivered [] r) (hl : r.Loose k id)
    (hk : ∀ m, k = .inl m → r.sms m id = none) : Delivered [] (r.initState k id) where
  uniform := initState_uniform h.uniform
  settled m id' := (h.settled m id').keep rfl (fun b _ hi => initState_inp_none hi)
    (fun s _ => initState_out_ne)
  current b t hm := by
    refine (h.current b t hm).imp_right (Or.imp_right (fun hc => hc.same (update_if_ne ?_)
      (fun e s hs => collect_initState hl hs)))
    rintro ⟨hb,rfl⟩
    exact hm (hk _ hb.symm)

/-- A signal is written and all that read it are marked. -/
theorem Delivered.write (h : Delivered [] r) (ho : r.out s id ≠ none) : Delivered [] { r with
      out := put r.out s id (some value)
      dirty := r.dirty ++ r.readers s id } := by
  have hout : ∀ s' id', r.out s' id' ≠ none ↔ put r.out s id (some value) s' id' ≠ none := by
    intro s' id'
    by_cases hself : s' = s ∧ id' = id
    · obtain ⟨rfl,rfl⟩ := hself
      simp [ho]
    · rw [put_ne hself]
  refine ⟨fun s' s'' id' hn ho' => ?_,fun k id' => (h.settled k id').keep rfl (fun _ _ hi => hi)
    (fun s' _ => (hout s' id').mp),fun b t hl => ?_⟩
  · exact (hout _ _).mp (h.uniform s' s'' id' hn ((hout _ _).mpr ho'))
  · refine h.marks hl rfl (fun hm => ⟨rfl,fun e s' hs => collect_congr rfl (fun id' hlink => ?_)⟩)
    refine put_ne ?_
    rintro ⟨rfl,rfl⟩
    exact hm (mem_readers.mpr ⟨e,hs,hlink⟩)

theorem Delivered.setSignal (h : Delivered [] r) (hc : r.out s id ≠ none ∨ r.Loose (T.node s) id) :
    Delivered [] (r.setSignal s id value) := by
  unfold Router.setSignal
  split
  · exact h
  · simp only
    split
    · rename_i hn
      refine (h.initState (hc.resolve_left (fun ho => ho hn)) (fun m hm => ?_)).write
        (initState_hasState s rfl)
      by_contra hlive
      exact (h.settled m id).1 hlive s hm hn
    · rename_i hn
      exact h.write hn

theorem Delivered.setEdges (h : Delivered [] r) : Delivered [] (r.setEdges e id newTargets) := by
  refine ⟨h.uniform,h.settled,fun b t hl => h.marks hl ?_ (fun hm =>
    ⟨rfl,fun e' s hs => collect_setEdges hs hm⟩)⟩
  rw [setEdges_eq]

omit [T.Lawful] in
theorem dropState_out {k : T.Kind} (h : ¬ (T.node s = k ∧ id' = id)) :
    (r.dropState k id).out s id' = r.out s id' := update_if_ne h

omit [T.Lawful] in
theorem dropState_uniform {k : T.Kind}
    (h : ∀ s s' id, T.node s = T.node s' → r.out s id ≠ none → r.out s' id ≠ none)
    (s s' : T.Signal) (id' : Nat) (hn : T.node s = T.node s')
    (ho : (r.dropState k id).out s id' ≠ none) : (r.dropState k id).out s' id' ≠ none := by
  by_cases hself : T.node s = k ∧ id' = id
  · obtain ⟨hs,rfl⟩ := hself
    simp [dropState,hs] at ho
  · rw [dropState_out hself] at ho
    rw [dropState_out (fun hc => hself ⟨hn.trans hc.1,hc.2⟩)]
    exact h s s' id' hn ho

theorem Delivered.destroyPort (h : Delivered [] r) : Delivered [] (r.destroyPort p id) := by
  have hout : (r.destroyPort p id).out = (r.dropState (.inr p) id).out := by
    rw [destroyPort_eq]
    rfl
  refine ⟨?_,fun k id' => (h.settled k id').keep (by rw [destroyPort_sms])
    (fun b _ => by rw [destroyPort_inp]; exact fun hi => hi) (fun s hn => ?_),fun b t hl => ?_⟩
  · rw [hout]
    exact dropState_uniform h.uniform
  · rw [hout,dropState_out (fun hc => Sum.inl_ne_inr (hn.symm.trans hc.1))]
    exact fun ho => ho
  · rw [destroyPort_sms] at hl
    refine h.marks hl destroyPort_dirty (fun hm => ⟨by rw [destroyPort_inp],fun e s hs => ?_⟩)
    exact collect_destroyPort hs (fun hc => Sum.inl_ne_inr hc.1) hm

theorem Delivered.destroySm (h : Delivered [] r) : Delivered [] (r.destroySm k id) := by
  have hsms : ∀ k' id', (r.destroySm k id).sms k' id' = put r.sms k id none k' id' := by
    intro k' id'
    rw [destroySm_eq]
    rfl
  have hinp : ∀ b t, ¬ (T.batchNode b = k ∧ t = id) → (r.destroySm k id).inp b t = r.inp b t := by
    intro b t hself
    rw [destroySm_eq]
    exact update_if_ne (fun hc => hself ⟨Sum.inl.inj hc.1,hc.2⟩)
  have hout : (r.destroySm k id).out = (r.dropState (.inl k) id).out := by
    rw [destroySm_eq]
    rfl
  have hdirty : (r.destroySm k id).dirty = r.dirty ++ r.edgesDirty (.inl k) id noTargets := by
    rw [destroySm_eq]
  refine ⟨?_,fun k' id' => ?_,fun b t hl => ?_⟩
  · rw [hout]
    exact dropState_uniform h.uniform
  · by_cases hself : k' = k ∧ id' = id
    · obtain ⟨rfl,rfl⟩ := hself
      refine ⟨fun hl => absurd (by rw [hsms,put_self]) hl,fun _ b hb => ?_⟩
      rw [destroySm_eq]
      simp [dropState,hb]
    · refine (h.settled k' id').keep (by rw [hsms,put_ne hself])
        (fun b hb => (hinp b id' (fun hc => hself ⟨hb.symm.trans hc.1,hc.2⟩)).trans) (fun s hn => ?_)
      rw [hout,dropState_out (node_ne hself hn)]
      exact fun ho => ho
  · have hself : ¬ (T.batchNode b = k ∧ t = id) := by
      rintro ⟨rfl,rfl⟩
      rw [hsms,put_self] at hl
      exact hl rfl
    rw [hsms,put_ne hself] at hl
    exact h.marks hl hdirty (fun hm => ⟨hinp b t hself,fun e s hs => collect_destroySm hs hm⟩)

def deliveredStages (T : Topology) : Stages T where
  rest := Delivered []
  create _ := Delivered []
  wave := Delivered
  event _ := Delivered []

theorem deliveredStages_kept (hc : r₀.Clean .propagate) :
    (visited r₀).KeptUnder (deliveredStages T) where
  begin _ _ h := h.same rfl rfl rfl rfl rfl
  again _ _ h := h.same rfl rfl rfl rfl rfl
  materialize c todo r _ hv h hr := h.materializeOne (hc c todo r hv) hr
  created r _ h _ := by
    refine ⟨h.uniform,h.settled,fun b t hl => ?_⟩
    rcases h.current b t hl with h' | h' | h'
    · cases h'
    · exact .inl (mem_dedupWave.mpr ⟨h',List.not_mem_nil⟩)
    · exact .inr (.inr h')
  deliver x todo r _ h := by
    obtain ⟨i,t⟩ := x
    cases i with
    | inl b => exact Delivered.processBatch h
    | inr i => exact Delivered.processInc h
  delivered _ _ h := h.same rfl rfl rfl rfl rfl
  send _ _ _ _ _ h hr := h.processEvent hr
  sent _ _ h := h

theorem Delivered.propagate (h : Delivered [] r) (hc : r.Clean .propagate)
    (hp : r.propagate = some r') : Delivered [] r' ∧ r'.Quiescent := by
  obtain ⟨⟨_,hd⟩,hq⟩ := (visited_kept.and (deliveredStages_kept hc)).propagate ⟨.start,h⟩ hp
  exact ⟨hd,hq⟩

theorem Delivered.call (h : Delivered [] r) (hc : r.Clean c) (hr : r.call c = some (reply,r')) :
    Delivered [] r' := by
  cases c with
  | propagate =>
    cases hp : r.propagate with
    | none => simp [Router.call,hp] at hr
    | some r₁ =>
      simp only [Router.call,hp,map_some,some.injEq,Prod.mk.injEq] at hr
      rw [← hr.2]
      exact (h.propagate hc hp).1
  | setSignal s id value =>
    cases hr
    exact h.setSignal hc
  | setEdges e source newTargets =>
    cases hr
    exact h.setEdges
  | createPort p id | createPortAuto p =>
    cases hr
    exact Delivered.initState (h.same rfl rfl rfl rfl rfl) hc (fun _ hk => nomatch hk)
  | destroyPort p id =>
    cases hr
    exact h.destroyPort
  | createSm k id state | createSmAuto k state | send ev | drain p =>
    cases hr
    exact h.same rfl rfl rfl rfl rfl
  | destroySm k id =>
    cases hr
    exact h.destroySm

theorem Delivered.run (calls : List (Call T)) (h : Delivered [] r) (hc : r.CleanRun calls)
    (hr : r.run calls = some (replies,r')) : Delivered [] r' := by
  induction calls generalizing r replies with
  | nil =>
    cases hr
    exact h
  | cons c calls ih =>
    unfold Router.run at hr
    cases hcall : r.call c with
    | none => simp [hcall] at hr
    | some out =>
      obtain ⟨reply,r₁⟩ := out
      cases hrun : r₁.run calls with
      | none => simp [hcall,hrun] at hr
      | some out =>
        obtain ⟨replies₁,r₂⟩ := out
        simp only [hcall,hrun,bind_eq_bind,bind_some,pure_def,some.injEq,Prod.mk.injEq] at hr
        obtain ⟨_,rfl⟩ := hr
        exact ih (h.call hc.1 hcall) (hc.tail (by simp only [hcall]; rfl)) hrun

/-- In a run in which no step forgets a mark, every propagation leaves each machine with what its
sources say. -/
theorem current_of_clean (calls : List (Call T)) {replies : List (Reply T)}
    (hc : (new T).CleanRun calls) (hr : (new T).run calls = some (replies,r))
    (hp : r.Clean .propagate) (h : r.propagate = some r') (b : T.Batch) (t : Nat)
    (live : r'.sms (T.batchNode b) t ≠ none) : r'.Current b t := by
  obtain ⟨hd,hq⟩ := (Delivered.run calls .new hc hr).propagate hp h
  rcases hd.current b t live with h' | h' | h'
  · cases h'
  · rw [hq.1] at h'
    cases h'
  · exact h'

end calls

/-! ### Running the condition -/

section check

/-- The state of a propagation after the given one. -/
def next : Stage T → Router T → Option (Stage T × Router T)
  | .rest,r => some (.create r.pendingCreates,{ r with pendingCreates := [] })
  | .create [],r =>
    if r.pendingCreates = [] then some (.wave (dedupWave [] r.dirty),{ r with dirty := [] })
    else some (.create r.pendingCreates,{ r with pendingCreates := [] })
  | .create (c :: todo),r => (r.materializeOne c).map (Prod.mk (.create todo))
  | .wave [],r => some (.event r.pendingEvents,{ r with pendingEvents := [] })
  | .wave (x :: todo),r => some (.wave todo,r.processDirtyInput x)
  | .event [],r => some (.rest,r)
  | .event (ev :: todo),r => (r.processEvent ev).map (Prod.mk (.event todo))

/-- One state of a propagation follows another. -/
def Follows (x y : Stage T × Router T) : Prop := next x.1 x.2 = some y

open Relation (ReflTransGen)

theorem Visits.follows (h : Visits r₀ stage r) : ReflTransGen Follows (.rest,r₀) (stage,r) := by
  induction h with
  | start => exact .refl
  | begin _ ih | deliver _ ih | delivered _ ih | sent _ ih => exact ih.tail rfl
  | @again r _ ih =>
    by_cases hc : r.pendingCreates = []
    · have same : { r with pendingCreates := [] } = r := by rw [← hc]
      rw [same,hc]
      exact ih
    · exact ih.tail (if_neg hc)
  | materialize _ hr ih | send _ hr ih => exact ih.tail (by rw [Follows,next,hr]; rfl)
  | created _ hc ih => exact ih.tail (if_pos hc)

/-- Nothing is left to be done. -/
def Rested (x : Stage T × Router T) : Prop :=
  x.2.Quiescent ∧ (x.1 = .rest ∨ x.1 = .create [] ∨ x.1 = .wave [] ∨ x.1 = .event [])

theorem Rested.follows (h : Rested x) (hstep : Follows x y) : Rested y := by
  obtain ⟨⟨hd,he,hc⟩,hx⟩ := h
  rcases hx with hx | hx | hx | hx <;>
    · simp only [Follows,hx,next,hc,hd,he,dedupWave,if_true,some.injEq] at hstep
      subst hstep
      simp [Rested,Quiescent,hc,hd,he]

/-- A machine is created only where nothing of it is forgotten. -/
def Allowed : Stage T → Router T → Prop
  | .create (c :: _),r => r.Unseen c
  | _,_ => True

instance decidableLoose [T.Lawful] (r : Router T) (k : T.Kind) (id : Nat) :
    Decidable (r.Loose k id) :=
  decidable_of_iff (∀ e ∈ T.edges, T.src e = k → (r.edge e).targets id = []) (by
    refine ⟨fun h e t he ht => ?_,fun h e _ he => ?_⟩
    · rw [link,h e (Schema.Lawful.edges_mem e) he] at ht
      cases ht
    · exact List.eq_nil_iff_forall_not_mem.mpr (fun t => h e t he))

instance decidableMarked (x : T.Input × Nat) (marks : List (T.Input × Nat)) :
    Decidable (x ∈ marks) :=
  let _ : BEq (T.Input × Nat) := instBEqOfDecidableEq
  inferInstance

instance decidableUnseen [T.Lawful] (r : Router T) (c : T.PendingCreate) : Decidable (r.Unseen c) :=
  decidable_of_iff ((∀ b ∈ T.inputs.filterMap Sum.getLeft?, T.batchNode b = c.kind →
      ((.inl b : T.Input),c.id) ∈ r.dirty ∨
        r.aggregate b c.id = T.aggregate b (fun _ _ => [])) ∧
    r.Loose (.inl c.kind) c.id) (by
    refine ⟨fun h => ⟨fun b => h.1 b ?_,h.2⟩,fun h => ⟨fun b _ => h.inputs b,h.edges⟩⟩
    exact List.mem_filterMap.mpr ⟨.inl b,Schema.Lawful.inputs_mem _,rfl⟩)

variable [T.Lawful]

instance decidableAllowed : (stage : Stage T) → (r : Router T) → Decidable (Allowed stage r)
  | .create (c :: _),r => decidableUnseen r c
  | .create [],_ | .rest,_ | .wave _,_ | .event _,_ => isTrue trivial

/-- The propagation comes to its end within so many steps, and all of them are allowed. -/
def endsWithin : Nat → Stage T → Router T → Bool
  | 0,_,_ => false
  | fuel + 1,stage,r => decide (Allowed stage r) && (decide (r.Quiescent ∧ stage matches .rest) ||
      (next stage r).all (fun x => endsWithin fuel x.1 x.2))

theorem Rested.allowed (h : Rested x) : Allowed x.1 x.2 := by
  rcases h.2 with hx | hx | hx | hx <;> rw [hx] <;> trivial

theorem allowed_of_endsWithin {x y : Stage T × Router T} (h : endsWithin fuel x.1 x.2 = true)
    (hy : ReflTransGen Follows x y) : Allowed y.1 y.2 := by
  induction fuel generalizing x with
  | zero => cases h
  | succ fuel ih =>
    simp only [endsWithin,Bool.and_eq_true,Bool.or_eq_true,decide_eq_true_eq] at h
    obtain ⟨hx,⟨hq,hrest⟩ | hnext⟩ := h
    · -- The propagation has ended in `x`.
      have rested : Rested x := ⟨hq,by revert hrest; split <;> simp_all⟩
      exact (hy.rec rested (fun _ hstep ih => ih.follows hstep) : Rested y).allowed
    · rcases ReflTransGen.cases_head hy with rfl | ⟨mid,hmid,hy⟩
      · exact hx
      · rw [hmid] at hnext
        exact ih hnext hy

/-- Whether the call is a clean one, if its propagation ends within so many steps. -/
def checks (fuel : Nat) (r : Router T) : Call T → Bool
  | .setSignal s id _ => r.out s id ≠ none ∨ r.Loose (T.node s) id
  | .createPort p id => r.Loose (.inr p) id
  | .createPortAuto p => r.Loose (.inr p) (r.alloc (.inr p))
  | .propagate => endsWithin fuel .rest r
  | _ => true

theorem clean_of_checks (h : r.checks fuel c = true) : r.Clean c := by
  cases c with
  | setSignal | createPort | createPortAuto =>
    rw [checks,decide_eq_true_eq] at h
    exact h
  | propagate => exact fun c todo r' hv => allowed_of_endsWithin (x := (.rest,r)) h hv.follows
  | _ => trivial

def checksRun (fuel : Nat) : Router T → List (Call T) → Bool
  | _,[] => true
  | r,c :: calls => r.checks fuel c && (r.call c).all (fun out => checksRun fuel out.2 calls)

theorem cleanRun_of_checksRun (calls : List (Call T)) (h : checksRun fuel r calls = true) :
    r.CleanRun calls := by
  induction calls generalizing r with
  | nil => trivial
  | cons c calls ih =>
    rw [checksRun,Bool.and_eq_true] at h
    refine .cons (clean_of_checks h.1) (fun r' hr' => ih ?_)
    obtain ⟨out,hcall,rfl⟩ := map_eq_some_iff.mp hr'
    simpa [hcall] using h.2

end check

end Router

namespace Router
open Ns

/-- A workload gets its spec from the management port, and creates an endpoint that gets its
address from it. -/
def specified : List (Call Ns.topology) :=
  [.createSm SmKind.workload 7 WorkloadSm.new,
    .propagate,
    .createPort PortKind.management 0,
    .setSignal Signal.managementWlSpec 0
      ⟨⟨"image",some ⟨0xac100005,[2,0,0,0,0,5],0xac100001,"255.255.255.0"⟩,[],none,[]⟩,⟨false,.service,true,none⟩⟩,
    .setEdges Edge.workloadConfig 0 [7]]
theorem specified_current : ∃ replies r r', (new Ns.topology).run specified = some (replies,r) ∧
    r.propagate = some r' ∧ (∃ spec, r'.inp Batch.specInput 7 = some (some (0,spec))) ∧
    r'.Current Batch.specInput 7 ∧ r'.inp Batch.configInput 0 = some (some
      ⟨.workload,7,true,30000,0xac100005,none⟩) ∧ r'.Current Batch.configInput 0 := by
  have hclean : (new Ns.topology).checksRun 40 specified = true := by
    decide +kernel
  have h : ((new Ns.topology).run specified).any (fun out => out.2.checks 40 .propagate &&
      out.2.propagate.any (fun r' => (r'.sms SmKind.workload 7).isSome &&
        (r'.sms SmKind.endpoint 0).isSome && (r'.inp Batch.specInput 7 = some (some (0,
          ⟨⟨"image",some ⟨0xac100005,[2,0,0,0,0,5],0xac100001,"255.255.255.0"⟩,[],none,[]⟩,
            ⟨false,.service,true,none⟩⟩))) &&
        (r'.inp Batch.configInput 0 = some (some ⟨.workload,7,true,30000,0xac100005,none⟩)))) =
      true := by
    decide +kernel
  obtain ⟨⟨replies,r⟩,hr,h⟩ := any_eq_true _ _ |>.mp h
  rw [Bool.and_eq_true] at h
  obtain ⟨r',hp,hlive⟩ := any_eq_true _ _ |>.mp h.2
  simp only [Bool.and_eq_true,decide_eq_true_eq,isSome_iff_ne_none] at hlive
  obtain ⟨⟨⟨hworkload,hendpoint⟩,hspec⟩,hconfig⟩ := hlive
  have current := current_of_clean specified (cleanRun_of_checksRun specified hclean) hr
    (clean_of_checks h.1) hp
  exact ⟨replies,r,r',hr,hp,⟨_,hspec⟩,current Batch.specInput 7 hworkload,hconfig,
    current Batch.configInput 0 hendpoint⟩

/-- The machine is created after an edge to it was set and propagated. -/
def linkedFirst : List (Call Ns.topology) :=
  [.createPort PortKind.management 0,
    .setEdges Edge.workloadConfig 0 [7],
    .propagate,
    .createSm SmKind.workload 7 WorkloadSm.new]

/-- The workload exists and is connected to its spec, which it has not been given. -/
theorem linkedFirst_not_current : ∃ replies r r', (new Ns.topology).run linkedFirst =
      some (replies,r) ∧ r.propagate = some r' ∧ r'.sms SmKind.workload 7 ≠ none ∧
      ¬ r'.Current Batch.specInput 7 := by
  have h : ((new Ns.topology).run linkedFirst).any (fun out => out.2.propagate.any (fun r' =>
      (r'.sms SmKind.workload 7).isSome ∧ ¬ r'.Current Batch.specInput 7)) = true := by
    decide +kernel
  obtain ⟨⟨replies,r⟩,hr,h⟩ := any_eq_true _ _ |>.mp h
  obtain ⟨r',hp,h⟩ := any_eq_true _ _ |>.mp h
  simp only [decide_eq_true_eq] at h
  exact ⟨replies,r,r',hr,hp,isSome_iff_ne_none.mp h.1,h.2⟩

end Router

end Distvirt.SmRouter
