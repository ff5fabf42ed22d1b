import Distvirt.SmRouter.Contract

/-! An input that is not waiting to be processed has been given what its sources say now. -/

namespace Distvirt.SmRouter

open List

namespace Router

variable {T : Topology} {F : T.Input → Prop} {creating : List T.PendingCreate}
  {todo : List (T.Input × Nat)} {r r' : Router T} {id t : Nat}

/-- A batch input was given its aggregate, or nothing has ever reached it; an incremental input
has reported what it sees. -/
def UpToDate (r : Router T) : T.Input → Nat → Prop
  | .inl b,t => r.inp b t = some (r.aggregate b t) ∨
      (r.inp b t = none ∧ ∀ e s, (e,s) ∈ T.sources (.inl b) → r.collect t e s = [])
  | .inr i,t => ∀ source ∈ T.sources (.inr i), r.prev i source t = r.collect t source.1 source.2

theorem aggregate_congr (h : ∀ e s, (e,s) ∈ T.sources (.inl b) → r'.collect t e s = r.collect t e s) :
    r'.aggregate b t = r.aggregate b t := by
  unfold aggregate
  congr 1
  funext e s
  unfold view
  split
  · exact h e s ‹_›
  · rfl

theorem collect_eq_nil (h : ∀ source, ¬ r.link e source t) : r.collect t e s = [] := by
  have : (r.edge e).sources t = [] :=
    eq_nil_iff_forall_not_mem.mpr (fun source hm => h source (mem_sources_iff.mp hm))
  simp [collect,this]

variable [T.PortFed]

/-- The node of the input exists or is about to be created. -/
def Present (r : Router T) (creating : List T.PendingCreate) : T.Input → Nat → Prop
  | .inl b,t => r.sms (T.batchNode b) t ≠ none ∨
      ∃ c ∈ creating ++ r.pendingCreates, c.kind = T.batchNode b ∧ c.id = t
  | .inr i,t => r.ports (T.incPort i) t = true

/-- Each input of `F` is up to date or marked. -/
def Fresh (F : T.Input → Prop) (creating : List T.PendingCreate) (todo : List (T.Input × Nat))
    (r : Router T) : Prop :=
  ∀ x t, F x → r.Present creating x t → (x,t) ∈ todo ∨ (x,t) ∈ r.dirty ∨ r.UpToDate x t

/-- What was recorded for an input and what it sees are the same in both routers. -/
def SameInput (r r' : Router T) (x : T.Input) (t : Nat) : Prop :=
  (∀ e s, (e,s) ∈ T.sources x → r'.collect t e s = r.collect t e s) ∧
  match x with
  | .inl b => r'.inp b t = r.inp b t
  | .inr i => ∀ source, r'.prev i source t = r.prev i source t

omit [T.PortFed] in
theorem SameInput.of_collect
    (hc : ∀ e s, (e,s) ∈ T.sources x → r'.collect t e s = r.collect t e s)
    (hi : r'.inp = r.inp) (hp : r'.prev = r.prev) : r.SameInput r' x t := by
  refine ⟨hc,?_⟩
  cases x with
  | inl b => simp only [hi]
  | inr i => simp only [hp,implies_true]

omit [T.PortFed] in
theorem UpToDate.same (h : r.UpToDate x t) (hs : r.SameInput r' x t) : r'.UpToDate x t := by
  obtain ⟨hc,hr⟩ := hs
  cases x with
  | inl b =>
    simp only at hr
    rcases h with h | ⟨hn,h⟩
    · left
      rw [hr,aggregate_congr hc]
      exact h
    · right
      refine ⟨hr.trans hn,fun e s hes => ?_⟩
      rw [hc e s hes]
      exact h e s hes
  | inr i =>
    intro source hsource
    simp only at hr
    rw [hr,hc _ _ hsource]
    exact h source hsource

/-- The general form of the preservation lemmas below. -/
theorem Fresh.transfer (h : Fresh F creating todo r) (hd : ∀ x ∈ r.dirty, x ∈ r'.dirty)
    (hs : ∀ x t, F x → r'.Present creating' x t → (x,t) ∉ r'.dirty →
      (r.Present creating x t ∧ r.SameInput r' x t) ∨ r'.UpToDate x t) :
    Fresh F creating' todo r' := by
  intro x t hF hp
  by_cases hx : (x,t) ∈ r'.dirty
  · exact .inr (.inl hx)
  · rcases hs x t hF hp hx with ⟨hp',hsame⟩ | hu
    · rcases h x t hF hp' with h' | h' | h'
      · exact .inl h'
      · exact absurd (hd _ h') hx
      · exact .inr (.inr (h'.same hsame))
    · exact .inr (.inr hu)

variable [T.Lawful] {C : Contract T}

omit [T.PortFed] in
/-- Nothing is said to an id that is not in use. -/
theorem unused (hf : C.Frame creating r) (hid : C.bound r.alloc (T.batchNode b) ≤ t) :
    r.inp b t = none ∧ ∀ e s, (e,s) ∈ T.sources (.inl b) → r.collect t e s = [] := by
  refine ⟨(hf.tended _ t).1.2 ?_ b rfl,fun e s hes => collect_eq_nil (fun source hl => ?_)⟩
  · by_contra hlive
    exact absurd (hf.live_lt _ _ hlive) (Nat.not_lt.mpr hid)
  · exact absurd (hf.link_lt e _ source t (Schema.Lawful.source_target _ e s hes) hl)
      (Nat.not_lt.mpr hid)

theorem Fresh.turn (h : Fresh F creating todo r) (hf : C.Frame creating r)
    (live : r.sms k id ≠ none) (ok : C.Accepts r.alloc k id v reaction) :
    Fresh F creating todo (r.turn k id reaction) := by
  refine h.transfer (fun x hx => by simp [turn_dirty,hx]) ?_
  intro x t _ hp hx
  rw [turn_dirty,mem_append,not_or] at hx
  have hcollect : ∀ e s, (e,s) ∈ T.sources x →
      (r.turn k id reaction).collect t e s = r.collect t e s :=
    fun e s hs => collect_turn hs hx.2
  cases x with
  | inr i => exact .inl ⟨by simpa [Present] using hp,hcollect,fun _ => by rw [turn_prev]⟩
  | inl b =>
    simp only [Present,turn_pendingCreates,← append_assoc] at hp
    by_cases hself : T.batchNode b = k ∧ t = id
    · obtain ⟨rfl,rfl⟩ := hself
      refine .inl ⟨.inl live,hcollect,?_⟩
      have hstay : reaction.effects.selfDestruct = false := by
        rcases hp with hp | ⟨c,hc,hk,hid⟩
        · rw [turn_sms_self] at hp
          split at hp
          · exact absurd rfl hp
          · rename_i hd
            simpa using hd
        · rcases mem_append.mp hc with hc | hc
          · have := (hf.pending c hc).2.2
            rw [hk,hid] at this
            exact absurd this live
          · have := hf.live_lt _ _ live
            rw [← hk,← hid] at this
            exact absurd this (Nat.not_lt.mpr (ok.creates c hc).1)
      simp only
      rw [turn_inp_self rfl,hstay]
      rfl
    · rcases hp with hp | ⟨c,hc,hk,hid⟩
      · rw [turn_sms_other hself] at hp
        exact .inl ⟨.inl hp,hcollect,turn_inp_other hself⟩
      · rcases mem_append.mp hc with hc | hc
        · exact .inl ⟨.inr ⟨c,hc,hk,hid⟩,hcollect,turn_inp_other hself⟩
        · -- a machine that this turn creates has not been linked by anyone before
          have hge := (ok.creates c hc).1
          rw [hk,hid] at hge
          obtain ⟨hi,hnil⟩ := unused hf hge
          exact .inr (.inr ⟨(turn_inp_other hself).trans hi,
            fun e s hes => (hcollect e s hes).trans (hnil e s hes)⟩)

omit [T.Lawful] in
/-- An input leaves the wave once it is up to date. -/
theorem Fresh.serve (h : Fresh F creating ((x₀,t₀) :: todo) r) (hd : ∀ x ∈ r.dirty, x ∈ r'.dirty)
    (hp : ∀ x t, r'.Present creating x t → r.Present creating x t)
    (hself : r'.Present creating x₀ t₀ → r'.UpToDate x₀ t₀)
    (hsame : ∀ x t, ¬ (x = x₀ ∧ t = t₀) → r.SameInput r' x t) : Fresh F creating todo r' := by
  intro x t hF hx
  by_cases heq : x = x₀ ∧ t = t₀
  · obtain ⟨rfl,rfl⟩ := heq
    exact .inr (.inr (hself hx))
  · rcases h x t hF (hp x t hx) with h' | h' | h'
    · rcases mem_cons.mp h' with h' | h'
      · cases h'
        exact absurd ⟨rfl,rfl⟩ heq
      · exact .inl h'
    · exact .inr (.inl (hd _ h'))
    · exact .inr (.inr (h'.same (hsame x t heq)))

omit [T.Lawful] in
theorem Fresh.given (h : Fresh F creating ((.inl b,t) :: todo) r) :
    Fresh F creating todo (r.given b t) := by
  refine h.serve (fun _ hx => hx) (fun _ _ hp => hp) (fun _ => .inl ?_) ?_
  · simp only [Router.given,put_self]
    rfl
  · intro x t' hself
    refine ⟨fun _ _ _ => rfl,?_⟩
    cases x with
    | inl b' => exact put_ne (fun hc => hself ⟨congrArg Sum.inl hc.1,hc.2⟩)
    | inr i => exact fun _ => rfl

theorem Fresh.spawn (h : Fresh F (c :: creating) todo r) (hf : C.Frame (c :: creating) r)
    (hdead : r.sms c.kind c.id = none) : Fresh F creating todo (r.spawn c) := by
  refine h.transfer (fun x hx => hx) ?_
  intro x t _ hp _
  refine .inl ⟨?_,?_,?_⟩
  · cases x with
    | inr i => exact hp
    | inl b =>
      rcases hp with hp | ⟨c',hc,hk,hid⟩
      · by_cases hself : T.batchNode b = c.kind ∧ t = c.id
        · exact .inr ⟨c,by simp,hself.1.symm,hself.2.symm⟩
        · simp only [Router.spawn,initState,put_ne hself] at hp
          exact .inl hp
      · exact .inr ⟨c',mem_cons_of_mem _ hc,hk,hid⟩
  · intro e s hes
    exact collect_initState ((hf.tended c.kind c.id).2 hdead).2 hes
  · cases x with
    | inr i =>
      intro source
      simp [Router.spawn,initState,Schema.PortFed.incNode_eq]
    | inl b =>
      simp only [Router.spawn,initState,Sum.inl.injEq]
      split
      · rename_i hb
        by_cases hid : t = c.id
        · subst hid
          rw [Function.update_self]
          exact ((hf.tended c.kind c.id).1.2 hdead b hb).symm
        · exact Function.update_of_ne hid _ _
      · rfl

theorem Fresh.processInc (h : Fresh F creating ((.inr i,t) :: todo) r) :
    Fresh F creating todo (r.processInc i t) := by
  by_cases hp : r.ports (T.incPort i) t = true
  · rw [processInc_eq hp]
    refine h.serve (fun _ hx => hx) (fun _ _ hx => hx) (fun _ source hs => ?_) ?_
    · simp only [hs,and_self,if_true]
      rfl
    · intro x t' hself
      refine ⟨fun _ _ _ => rfl,?_⟩
      cases x with
      | inl b => rfl
      | inr i' => exact fun source => if_neg (fun hc => hself ⟨congrArg Sum.inr hc.1,hc.2.2⟩)
  · rw [Router.processInc_none hp]
    exact h.serve (fun _ hx => hx) (fun _ _ hx => hx) (fun hx => absurd hx hp) (fun x t _ => .of_collect (fun _ _ _ => rfl) rfl rfl)

omit [T.Lawful] in
theorem mem_dedupWave {α : Type} [DecidableEq α] {seen l : List α} {a : α} :
    a ∈ dedupWave seen l ↔ a ∈ l ∧ a ∉ seen := by
  induction l generalizing seen with
  | nil => simp [dedupWave]
  | cons x l ih =>
    unfold dedupWave
    split
    · rename_i hx
      rw [ih,mem_cons]
      constructor
      · intro ⟨hm,hn⟩
        exact ⟨.inr hm,hn⟩
      · intro ⟨hm,hn⟩
        rcases hm with rfl | hm
        · exact absurd hx hn
        · exact ⟨hm,hn⟩
    · rename_i hx
      rw [mem_cons,ih,mem_cons,mem_cons,not_or]
      constructor
      · intro hm
        rcases hm with rfl | ⟨hm,_,hn⟩
        · exact ⟨.inl rfl,hx⟩
        · exact ⟨.inr hm,hn⟩
      · intro ⟨hm,hn⟩
        by_cases hax : a = x
        · exact .inl hax
        · exact .inr ⟨hm.resolve_left hax,hax,hn⟩

/-- The machines that the wave still has to serve exist: what a wave creates it cannot have been
marked before. -/
def Served (C : Contract T) (todo : List (T.Input × Nat)) (r : Router T) : Prop :=
  ∀ b t, (.inl b,t) ∈ todo → t < C.bound r.alloc (T.batchNode b) ∧
    ∀ c ∈ r.pendingCreates, ¬ (c.kind = T.batchNode b ∧ c.id = t)

omit [T.PortFed] in
theorem Served.turn (h : Served C todo r) (ok : C.Accepts r.alloc k id v reaction) :
    Served C todo (r.turn k id reaction) := by
  intro b t hm
  obtain ⟨hlt,hc⟩ := h b t hm
  rw [turn_alloc]
  refine ⟨Nat.lt_of_lt_of_le hlt (ok.mono _),fun c hcm heq => ?_⟩
  rw [turn_pendingCreates,mem_append] at hcm
  rcases hcm with hcm | hcm
  · exact hc c hcm heq
  · have := (ok.creates c hcm).1
    rw [heq.1,heq.2] at this
    exact absurd hlt (Nat.not_lt.mpr this)

def freshStages (C : Contract T) (F : T.Input → Prop) : Stages T where
  rest r := Fresh F [] [] r
  create todo r := Fresh F todo [] r
  wave todo r := Fresh F [] todo r ∧ Served C todo r
  event _ r := Fresh F [] [] r

omit [T.Lawful] in
theorem Fresh.begin (h : Fresh F [] [] r) :
    Fresh F r.pendingCreates [] { r with pendingCreates := [] } := by
  intro x t hF hp
  refine h x t hF ?_
  cases x with
  | inl b => simpa [Present] using hp
  | inr i => exact hp

theorem Served.processInc (h : Served C todo r) : Served C todo (r.processInc i t) := by
  intro b t' hm
  obtain ⟨_,_,_,_,ha,_,hc,_⟩ := processInc_same (r := r) i t
  rw [ha,hc]
  exact h b t' hm

theorem freshStages_kept (h : C.Kept r₀) : (C.stages r₀).KeptUnder (freshStages C F) where
  begin r _ hr := hr.begin
  again r _ hr := Fresh.begin hr
  materialize c todo r r' hc hfresh hr := by
    obtain ⟨hdead,rfl⟩ := hc.1.materializeOne_eq hr
    exact (Fresh.spawn hfresh hc.1.toFrame hdead).turn hc.1.toFrame.spawn
      (by simp [Router.spawn,initState]) (h.init r c todo hc.1 hc.2 hdead)
  created r hc hfresh hnil := by
    constructor
    · intro x t hF hp
      rcases hfresh x t hF hp with h' | h' | h'
      · cases h'
      · exact .inl (mem_dedupWave.mpr ⟨h',not_mem_nil⟩)
      · exact .inr (.inr h')
    · intro b t hm
      refine ⟨hc.1.dirty_lt b t (mem_dedupWave.mp hm).1,fun c hcm => ?_⟩
      simp [hnil] at hcm
  deliver x todo r hw hfresh := by
    obtain ⟨hfresh,hserved⟩ := hfresh
    have hserved' : Served C todo r := fun b t hm => hserved b t (mem_cons_of_mem _ hm)
    obtain ⟨i,t⟩ := x
    cases i with
    | inr i => exact ⟨Fresh.processInc hfresh,hserved'.processInc⟩
    | inl b =>
      rcases hw.1.processBatch_cases b t with ⟨heq,hn⟩ | ⟨sm,hsm,hv,heq⟩
      · rw [processDirtyInput,heq]
        refine ⟨Fresh.serve hfresh (fun _ hx => hx) (fun _ _ hx => hx) (fun hp => ?_)
          (fun x t _ => .of_collect (fun _ _ _ => rfl) rfl rfl),hserved'⟩
        rcases hn with hn | hn
        · obtain ⟨c,hcm,hk,hid⟩ := hp.resolve_left (fun hc => hc hn)
          exact absurd ⟨hk,hid⟩ ((hserved b t (by simp)).2 c hcm)
        · exact .inl hn
      · rw [processDirtyInput,heq]
        have live : r.sms (T.batchNode b) t ≠ none := by
          rw [hsm]
          exact Option.some_ne_none _
        have ok := h.input r b t sm hw.1 hw.2 hsm hv
        exact ⟨(Fresh.given hfresh).turn (hw.1.toFrame.given live) live ok,
          Served.turn (r := r.given b t) hserved' ok⟩
  delivered r _ hw := hw.1
  send ev todo r r' he hfresh hr := by
    rcases he.1.processEvent_cases hr with ⟨rfl,_⟩ | ⟨sm,hsm,hcon,rfl⟩
    · exact hfresh
    · exact Fresh.turn hfresh he.1.toFrame (by rw [hsm]; exact Option.some_ne_none _)
        (h.event r ev sm he.1 he.2 hsm hcon)
  sent r _ he := he

/-- When the propagation comes to rest, every input of a live node is up to date. -/
theorem Fresh.propagate (h : C.Kept r) (hr : C.Holds [] r) (hf : Fresh F [] [] r)
    (hp : r.propagate = some r') : Fresh F [] [] r' :=
  ((h.stages.and (freshStages_kept h)).propagate ⟨⟨hr,.refl⟩,hf⟩ hp).1.2

end Router

end Distvirt.SmRouter
