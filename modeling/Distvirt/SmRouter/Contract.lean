import Distvirt.SmRouter.Turn

/-! Invariants of the machines. A contract says what holds of each machine in terms of what
belongs to it alone; if every reaction keeps its machine's part, a propagation keeps the whole. -/

namespace Distvirt.SmRouter

open Router List

/-- What belongs to one machine: its state, the inputs last delivered to it, its signals and
its outgoing edges. -/
structure NodeView (T : Topology) (k : T.Sm) where
  state : T.State k
  inp : (b : T.Batch) → Option (T.Out b)
  out : (s : T.Signal) → Option (T.Val s)
  link : T.Edge → Nat → Prop

namespace NodeView

variable {T : Topology} {k : T.Sm}

/-- A machine that has just been created. -/
def start (state : T.State k) : NodeView T k where
  state
  inp _ := none
  out s := if T.node s = .inl k then some (T.initial s) else none
  link _ _ := False

def given (v : NodeView T k) (b : T.Batch) (value : T.Out b) : NodeView T k :=
  { v with inp := Function.update v.inp b (some value) }

def after (v : NodeView T k) (reaction : T.Reaction k) : NodeView T k where
  state := reaction.state
  inp := v.inp
  out s := if T.node s = .inl k then (reaction.effects.signal s).or (v.out s) else none
  link e t := T.src e = .inl k ∧ (reaction.effects.edge e).elim (v.link e t) (t ∈ ·)

/-- A port that disappears takes the edges to it along. -/
def unlink (v : NodeView T k) (p : T.Port) (target : Nat) : NodeView T k :=
  { v with link := fun e t => v.link e t ∧ ¬ (T.tgt e = .inr p ∧ t = target) }

end NodeView

namespace Router

variable {T : Topology} {r r' r₀ : Router T} {k k' : T.Sm} {id : Nat} {b : T.Batch} {t : Nat}

def nodeView (r : Router T) (k : T.Sm) (id : Nat) (sm : T.State k) : NodeView T k where
  state := sm
  inp b := if T.batchNode b = k then r.inp b id else none
  out s := if T.node s = .inl k then r.out s id else none
  link e t := T.src e = .inl k ∧ r.link e id t

/-- The ports and what belongs to them are as in another router. -/
structure SamePorts (r r₀ : Router T) : Prop where
  ports : r.ports = r₀.ports
  alloc : ∀ p, r.alloc (.inr p) = r₀.alloc (.inr p)
  out : ∀ s p, T.node s = .inr p → r.out s = r₀.out s
  edge : ∀ e p, T.src e = .inr p → r.edge e = r₀.edge e

theorem SamePorts.refl : r.SamePorts r := ⟨rfl,fun _ => rfl,fun _ _ _ => rfl,fun _ _ _ => rfl⟩

theorem SamePorts.turn [T.Lawful] (h : r.SamePorts r₀)
    (ha : ∀ p, reaction.alloc (.inr p) = r.alloc (.inr p)) :
    (r.turn k id reaction).SamePorts r₀ where
  ports := turn_ports.trans h.ports
  alloc p := by
    rw [turn_alloc,ha p]
    exact h.alloc p
  out s p hp := by
    rw [← h.out s p hp]
    funext id'
    exact turn_out_other (by simp [hp])
  edge e p hp := by
    rw [← h.edge e p hp]
    exact turn_edge_other (by simp [hp])

/-- The router as the handler of a batch input finds it. -/
def given (r : Router T) (b : T.Batch) (t : Nat) : Router T :=
  { r with inp := put r.inp b t (some (r.aggregate b t)) }

/-- The router as the creation hook of a machine finds it. -/
def spawn (r : Router T) (c : T.PendingCreate) : Router T :=
  { r with sms := put r.sms c.kind c.id (some c.state) }.initState (.inl c.kind) c.id

theorem nodeView_turn_self [T.Lawful] (h : reaction.effects.selfDestruct = false) (sm : T.State k) :
    (r.turn k id reaction).nodeView k id reaction.state = (r.nodeView k id sm).after reaction := by
  unfold nodeView NodeView.after
  congr 1
  · funext b
    by_cases hb : T.batchNode b = k
    · simp [hb,turn_inp_self hb,h]
    · simp [hb]
  · funext s
    by_cases hs : T.node s = .inl k
    · simp [hs,turn_out_self hs,h]
    · simp [hs]
  · funext e t
    refine propext ?_
    by_cases he : T.src e = .inl k
    · simp only [he,turn_link_self he,h,true_and]
    · simp [he]

theorem node_ne {n : T.Sm ⊕ T.Port} (h : ¬ (k' = k ∧ id' = id))
    (hn : n = .inl k') : ¬ (n = .inl k ∧ id' = id) :=
  fun hc => h ⟨Sum.inl.inj (hn.symm.trans hc.1),hc.2⟩

/-- A machine, or an id without one, is as in another router. -/
structure SameNode (r r' : Router T) (k : T.Sm) (id : Nat) : Prop where
  sms : r'.sms k id = r.sms k id
  inp : ∀ b, T.batchNode b = k → r'.inp b id = r.inp b id
  out : ∀ s, T.node s = .inl k → r'.out s id = r.out s id
  link : ∀ e t, T.src e = .inl k → (r'.link e id t ↔ r.link e id t)

theorem SameNode.nodeView {sm : T.State k} (h : SameNode r r' k id) :
    r'.nodeView k id sm = r.nodeView k id sm := by
  unfold Router.nodeView
  congr 1
  · funext b
    split
    · exact h.inp b ‹_›
    · rfl
  · funext s
    split
    · exact h.out s ‹_›
    · rfl
  · funext e t
    exact propext (and_congr_right (h.link e t))

theorem turn_other [T.Lawful] (h : ¬ (k' = k ∧ id' = id)) :
    SameNode r (r.turn k id reaction) k' id' where
  sms := turn_sms_other h
  inp _ hb := turn_inp_other (fun hc => h ⟨hb.symm.trans hc.1,hc.2⟩)
  out _ hs := turn_out_other (node_ne h hs)
  link _ _ he := turn_link_other (node_ne h he)

/-- A live machine has its signals, and a dead one was given nothing. -/
def Settled (r : Router T) (k : T.Sm) (id : Nat) : Prop :=
  (r.sms k id ≠ none → r.HasState (.inl k) id) ∧
  (r.sms k id = none → ∀ b, T.batchNode b = k → r.inp b id = none)

theorem Settled.keep (h : r.Settled k id) (hs : r'.sms k id = r.sms k id)
    (hi : ∀ b, T.batchNode b = k → r.inp b id = none → r'.inp b id = none)
    (ho : ∀ s, T.node s = .inl k → r.out s id ≠ none → r'.out s id ≠ none) :
    r'.Settled k id :=
  ⟨fun hl s hn => ho s hn (h.1 (by rwa [← hs]) s hn),
    fun hd b hb => hi b hb (h.2 (by rwa [← hs]) b hb)⟩

/-- Besides, a dead machine signals nothing and points at nothing. -/
def Tended (r : Router T) (k : T.Sm) (id : Nat) : Prop :=
  r.Settled k id ∧ (r.sms k id = none →
    (∀ s, T.node s = .inl k → r.out s id = none) ∧ ∀ e t, T.src e = .inl k → ¬ r.link e id t)

theorem Tended.keep (h : r.Tended k id) (hs : r'.sms k id = r.sms k id)
    (hi : ∀ b, T.batchNode b = k → r'.inp b id = r.inp b id)
    (ho : ∀ s, T.node s = .inl k → r'.out s id = r.out s id)
    (hl : ∀ e t, T.src e = .inl k → r'.link e id t → r.link e id t) : r'.Tended k id := by
  refine ⟨h.1.keep hs (fun b hb => (hi b hb).trans) (fun s hn => (ho s hn).trans_ne),fun hd => ?_⟩
  obtain ⟨hout,hlink⟩ := h.2 (hs.symm.trans hd)
  exact ⟨fun s hn => (ho s hn).trans (hout s hn),fun e t he hc => hlink e t he (hl e t he hc)⟩

theorem SameNode.tended (h : r.Tended k id) (hs : SameNode r r' k id) : r'.Tended k id :=
  h.keep hs.sms hs.inp hs.out (fun e t he => (hs.link e t he).mp)

theorem Settled.turn [T.Lawful] (h : r.Settled k' id') (live : r.sms k id ≠ none) :
    (r.turn k id reaction).Settled k' id' := by
  by_cases hself : k' = k ∧ id' = id
  · obtain ⟨rfl,rfl⟩ := hself
    refine ⟨fun hl s hs => ?_,fun hdead b hb => ?_⟩
    · rw [turn_sms_self] at hl
      rw [turn_out_self hs]
      split at hl
      · exact absurd rfl hl
      · rename_i hd
        rw [if_neg hd]
        cases reaction.effects.signal s with
        | none => exact h.1 live s hs
        | some value => simp
    · rw [turn_sms_self] at hdead
      rw [turn_inp_self hb]
      split at hdead
      · rename_i hd
        rw [if_pos hd]
      · cases hdead
  · have hother : SameNode r (r.turn k id reaction) k' id' := turn_other hself
    exact h.keep hother.sms (fun b hb => (hother.inp b hb).trans)
      (fun s hs => (hother.out s hs).trans_ne)

theorem nodeView_given_self : (r.given b t).nodeView (T.batchNode b) t sm =
      (r.nodeView (T.batchNode b) t sm).given b (r.aggregate b t) := by
  unfold nodeView NodeView.given
  congr 1
  funext b'
  by_cases hb : b' = b
  · subst hb
    simp [given]
  · simp [given,put_name hb,Function.update_of_ne hb]

theorem given_other (h : ¬ (k' = T.batchNode b ∧ id' = t)) : SameNode r (r.given b t) k' id' where
  sms := rfl
  inp b' hb := put_ne (fun hc => h ⟨by rw [← hb,hc.1],hc.2⟩)
  out _ _ := rfl
  link _ _ _ := Iff.rfl

theorem Settled.given (h : r.Settled k id) (live : r.sms (T.batchNode b) t ≠ none) :
    (r.given b t).Settled k id := by
  refine ⟨h.1,fun hdead b' hb => ?_⟩
  refine (put_ne (fun hc => live ?_)).trans (h.2 hdead b' hb)
  rw [← hc.1,← hc.2,hb]
  exact hdead

theorem nodeView_spawn_self (h : ∀ e t, T.src e = .inl c.kind → ¬ r.link e c.id t) :
    (r.spawn c).nodeView c.kind c.id sm = .start sm := by
  unfold nodeView NodeView.start
  congr 1
  · funext b
    by_cases hb : T.batchNode b = c.kind
    · simp [hb,spawn,initState]
    · simp [hb]
  · funext s
    by_cases hs : T.node s = .inl c.kind
    · simp [hs,spawn,initState]
    · simp [hs]
  · funext e t
    exact propext ⟨fun hc => h e t hc.1 hc.2,False.elim⟩

theorem spawn_other (h : ¬ (k' = c.kind ∧ id' = c.id)) : SameNode r (r.spawn c) k' id' where
  sms := put_ne h
  inp _ hb := update_if_ne (node_ne h (congrArg Sum.inl hb))
  out _ hs := update_if_ne (node_ne h hs)
  link _ _ _ := Iff.rfl

end Router

/-- What is claimed of the machines (`node`), of the states machines are created with (`new`),
of the inputs queued for ports (`queued`), and the ids in use: those of kind `k` lie below
`bound alloc k`. -/
structure Contract (T : Topology) where
  node : (k : T.Sm) → Nat → NodeView T k → Prop
  new : T.PendingCreate → Prop
  queued : Nat × (i : T.Inc) × T.Delta i → Prop
  bound : T.IdAlloc → T.Sm → Nat

namespace Contract

variable {T : Topology} {C : Contract T} {creating : List T.PendingCreate} {r r' r₀ : Router T}
  {k : T.Sm} {id : Nat} {v : NodeView T k} {reaction : T.Reaction k}

/-- The reaction of a machine with view `v` keeps the contract. -/
structure Accepts (C : Contract T) (alloc : T.IdAlloc) (k : T.Sm) (id : Nat) (v : NodeView T k)
    (reaction : T.Reaction k) : Prop where
  node : reaction.effects.selfDestruct = false → C.node k id (v.after reaction)
  new : ∀ c ∈ reaction.effects.creates, C.new c
  ports : ∀ p, reaction.alloc (.inr p) = alloc (.inr p)
  mono : ∀ k, C.bound alloc k ≤ C.bound reaction.alloc k
  creates : ∀ c ∈ reaction.effects.creates,
    C.bound alloc c.kind ≤ c.id ∧ c.id < C.bound reaction.alloc c.kind
  distinct : reaction.effects.creates.Pairwise (fun c c' => ¬ (c.kind = c'.kind ∧ c.id = c'.id))
  edges : ∀ e l k' t, reaction.effects.edge e = some l → T.src e = .inl k → T.tgt e = .inl k' →
    t ∈ l → t < C.bound reaction.alloc k'

/-- A machine that is to be created has an id in use and does not live yet. -/
def Pending (C : Contract T) (r : Router T) (c : T.PendingCreate) : Prop :=
  C.new c ∧ c.id < C.bound r.alloc c.kind ∧ r.sms c.kind c.id = none

/-- The contract without what it says of the machines: a machine has signals, inputs and edges
exactly while it lives, and ids stay in their bounds. -/
structure Frame (C : Contract T) (creating : List T.PendingCreate) (r : Router T) : Prop where
  tended : ∀ k id, r.Tended k id
  live_lt : ∀ k id, r.sms k id ≠ none → id < C.bound r.alloc k
  pending : ∀ c ∈ creating ++ r.pendingCreates, C.Pending r c
  distinct : (creating ++ r.pendingCreates).Pairwise
    (fun c c' => ¬ (c.kind = c'.kind ∧ c.id = c'.id))
  link_lt : ∀ e k source t, T.tgt e = .inl k → r.link e source t → t < C.bound r.alloc k
  dirty_lt : ∀ b t, (.inl b,t) ∈ r.dirty → t < C.bound r.alloc (T.batchNode b)
  queued : ∀ q ∈ r.queue, C.queued q

structure Holds (C : Contract T) (creating : List T.PendingCreate) (r : Router T) : Prop
    extends Frame C creating r where
  node : ∀ k id sm, r.sms k id = some sm → C.node k id (r.nodeView k id sm)

section turn

variable [T.Lawful] (h : C.Frame creating r) (live : r.sms k id ≠ none)
include h live

theorem Frame.turn_tended (k' : T.Sm) (id' : Nat) : (r.turn k id reaction).Tended k' id' := by
  by_cases hself : k' = k ∧ id' = id
  · obtain ⟨rfl,rfl⟩ := hself
    refine ⟨(h.tended k' id').1.turn live,fun hdead => ?_⟩
    rw [turn_sms_self] at hdead
    split at hdead
    · rename_i hd
      refine ⟨fun s hs => ?_,fun e t he => ?_⟩
      · rw [turn_out_self hs,if_pos hd]
      · simp [turn_link_self he,hd]
    · cases hdead
  · exact (turn_other hself).tended (h.tended k' id')

theorem Frame.turn_pending (ok : C.Accepts r.alloc k id v reaction) (c : T.PendingCreate)
    (hc : c ∈ creating ++ (r.turn k id reaction).pendingCreates) :
    C.Pending (r.turn k id reaction) c := by
  rw [turn_pendingCreates,← append_assoc,mem_append] at hc
  have hdead : r.sms c.kind c.id = none := by
    rcases hc with hc | hc
    · exact (h.pending c hc).2.2
    · by_contra hlive
      exact absurd (h.live_lt c.kind c.id hlive) (Nat.not_lt.mpr (ok.creates c hc).1)
  have hother : ¬ (c.kind = k ∧ c.id = id) := by
    rintro ⟨rfl,rfl⟩
    exact live hdead
  refine ⟨?_,?_,(turn_sms_other hother).trans hdead⟩
  · exact hc.elim (fun hc => (h.pending c hc).1) (ok.new c)
  · rw [turn_alloc]
    exact hc.elim (fun hc => Nat.lt_of_lt_of_le (h.pending c hc).2.1 (ok.mono _))
      (fun hc => (ok.creates c hc).2)

end turn

theorem Frame.turn [T.Lawful] (h : C.Frame creating r) (live : r.sms k id ≠ none)
    (ok : C.Accepts r.alloc k id v reaction) : C.Frame creating (r.turn k id reaction) where
  tended := h.turn_tended live
  live_lt k' id' hlive := by
    rw [turn_alloc]
    refine Nat.lt_of_lt_of_le ?_ (ok.mono k')
    by_cases hself : k' = k ∧ id' = id
    · obtain ⟨rfl,rfl⟩ := hself
      exact h.live_lt k' id' live
    · rw [turn_sms_other hself] at hlive
      exact h.live_lt k' id' hlive
  pending := h.turn_pending live ok
  distinct := by
    rw [turn_pendingCreates,← append_assoc]
    refine pairwise_append.mpr ⟨h.distinct,ok.distinct,?_⟩
    intro c hc c' hc' heq
    have := (h.pending c hc).2.1
    rw [heq.1,heq.2] at this
    exact absurd this (Nat.not_lt.mpr (ok.creates c' hc').1)
  link_lt e k' source t he hl := by
    rw [turn_alloc]
    by_cases hself : T.src e = .inl k ∧ source = id
    · obtain ⟨hsrc,rfl⟩ := hself
      rw [turn_link_self hsrc] at hl
      cases hedge : reaction.effects.edge e with
      | none =>
        rw [hedge] at hl
        exact Nat.lt_of_lt_of_le (h.link_lt e k' source t he hl.2) (ok.mono k')
      | some l =>
        rw [hedge] at hl
        exact ok.edges e l k' t hedge hsrc he hl.2
    · rw [turn_link_other hself] at hl
      exact Nat.lt_of_lt_of_le (h.link_lt e k' source t he hl) (ok.mono k')
  dirty_lt b t hm := by
    rw [turn_alloc]
    rw [turn_dirty,mem_append] at hm
    rcases hm with hm | hm
    · exact Nat.lt_of_lt_of_le (h.dirty_lt b t hm) (ok.mono _)
    · obtain ⟨e,s,hs,hsrc,hl⟩ := linked_of_turnDirty hm
      have htgt := Schema.Lawful.source_target _ e s hs
      rcases hl with hl | ⟨l,hedge,ht⟩
      · exact Nat.lt_of_lt_of_le (h.link_lt e _ id t htgt hl) (ok.mono _)
      · exact ok.edges e l _ t hedge hsrc htgt ht
  queued q hq := by
    rw [turn_queue] at hq
    exact h.queued q hq

theorem Frame.given (h : C.Frame creating r) (live : r.sms (T.batchNode b) t ≠ none) :
    C.Frame creating (r.given b t) :=
  { h with
    tended := fun k id => by
      by_cases hself : k = T.batchNode b ∧ id = t
      · obtain ⟨rfl,rfl⟩ := hself
        exact ⟨(h.tended _ _).1.given live,fun hdead => absurd hdead live⟩
      · exact (given_other hself).tended (h.tended k id) }

theorem Frame.spawn (h : C.Frame (c :: creating) r) : C.Frame creating (r.spawn c) where
  tended k id := by
    by_cases hself : k = c.kind ∧ id = c.id
    · obtain ⟨rfl,rfl⟩ := hself
      have hlive : (r.spawn c).sms c.kind c.id ≠ none := by simp [Router.spawn,Router.initState]
      refine ⟨⟨fun _ s hs => ?_,fun hdead => absurd hdead hlive⟩,fun hdead => absurd hdead hlive⟩
      simp [Router.spawn,Router.initState,hs]
    · exact (spawn_other hself).tended (h.tended k id)
  live_lt k id hlive := by
    by_cases hself : k = c.kind ∧ id = c.id
    · obtain ⟨rfl,rfl⟩ := hself
      exact (h.pending c (by simp)).2.1
    · simp only [Router.spawn,Router.initState,put_ne hself] at hlive
      exact h.live_lt k id hlive
  pending c' hc := by
    have hold := h.pending c' (mem_cons_of_mem _ hc)
    refine ⟨hold.1,hold.2.1,(put_ne (fun heq => ?_)).trans hold.2.2⟩
    exact (pairwise_cons.mp h.distinct).1 c' hc ⟨heq.1.symm,heq.2.symm⟩
  distinct := (pairwise_cons.mp h.distinct).2
  link_lt := h.link_lt
  dirty_lt := h.dirty_lt
  queued := h.queued

/-- After a turn the machine's view is the one it was accepted with, and the others are as before. -/
theorem Holds.turn [T.Lawful] (sm : T.State k) (hf : C.Frame creating (r.turn k id reaction))
    (hself : reaction.effects.selfDestruct = false →
      C.node k id ((r.nodeView k id sm).after reaction))
    (hother : ∀ k' id' sm', ¬ (k' = k ∧ id' = id) → r.sms k' id' = some sm' →
      C.node k' id' (r.nodeView k' id' sm')) : C.Holds creating (r.turn k id reaction) where
  toFrame := hf
  node k' id' sm' hsm' := by
    by_cases heq : k' = k ∧ id' = id
    · obtain ⟨rfl,rfl⟩ := heq
      rw [turn_sms_self] at hsm'
      split at hsm'
      · cases hsm'
      · rename_i hd
        cases hsm'
        simp only [Bool.not_eq_true] at hd
        rw [nodeView_turn_self hd sm]
        exact hself hd
    · rw [turn_sms_other heq] at hsm'
      rw [(turn_other heq).nodeView]
      exact hother k' id' sm' heq hsm'

theorem Holds.deliver [T.Lawful] (h : C.Holds creating r) {reaction : T.Reaction (T.batchNode b)}
    (hsm : r.sms (T.batchNode b) t = some sm) (ok : C.Accepts r.alloc (T.batchNode b) t
      ((r.nodeView (T.batchNode b) t sm).given b (r.aggregate b t)) reaction) :
    C.Holds creating ((r.given b t).turn (T.batchNode b) t reaction) := by
  have live : r.sms (T.batchNode b) t ≠ none := by
    rw [hsm]
    exact Option.some_ne_none _
  refine .turn sm ((h.toFrame.given live).turn live ok) ?_ (fun k id sm' hself hsm' => ?_)
  · rw [nodeView_given_self]
    exact ok.node
  · rw [(given_other hself).nodeView]
    exact h.node k id sm' hsm'

theorem Holds.send [T.Lawful] (h : C.Holds creating r) (hsm : r.sms k id = some sm)
    (ok : C.Accepts r.alloc k id (r.nodeView k id sm) reaction) :
    C.Holds creating (r.turn k id reaction) :=
  .turn sm (h.toFrame.turn (by rw [hsm]; exact Option.some_ne_none _) ok) ok.node
    (fun k' id' sm' _ => h.node k' id' sm')

theorem Holds.create [T.Lawful] (h : C.Holds (c :: creating) r) (hdead : r.sms c.kind c.id = none)
    {reaction : T.Reaction c.kind} (ok : C.Accepts r.alloc c.kind c.id (.start c.state) reaction) :
    C.Holds creating ((r.spawn c).turn c.kind c.id reaction) := by
  refine .turn c.state (h.toFrame.spawn.turn (by simp [spawn,initState]) ok) ?_
    (fun k id sm' hself hsm' => ?_)
  · rw [nodeView_spawn_self ((h.tended c.kind c.id).2 hdead).2]
    exact ok.node
  · rw [(spawn_other hself).sms] at hsm'
    rw [(spawn_other hself).nodeView]
    exact h.node k id sm' hsm'

section steps
variable [T.Lawful]

theorem Frame.processBatch_cases (h : C.Frame creating r) (b : T.Batch) (t : Nat) :
    (r.processBatch b t = r ∧
      (r.sms (T.batchNode b) t = none ∨ r.inp b t = some (r.aggregate b t))) ∨
    ∃ sm, r.sms (T.batchNode b) t = some sm ∧ r.inp b t ≠ some (r.aggregate b t) ∧
      r.processBatch b t = (r.given b t).turn (T.batchNode b) t
        (T.onInput b (r.aggregate b t) t r.alloc sm) := by
  unfold processBatch
  cases hsm : r.sms (T.batchNode b) t with
  | none => exact .inl ⟨rfl,.inl rfl⟩
  | some sm =>
    by_cases hv : r.inp b t = some (r.aggregate b t)
    · exact .inl ⟨by simp [hv],.inr hv⟩
    · refine .inr ⟨sm,rfl,hv,?_⟩
      simp only [if_neg hv]
      exact react_eq_turn (r := r.given b t)
        ((h.tended _ t).1.1 (by rw [hsm]; exact Option.some_ne_none _))

theorem Frame.processEvent_cases (h : C.Frame creating r) (hr : r.processEvent ev = some r') :
    (r' = r ∧ r.sms (T.receiver ev.event) ev.receiver = none) ∨
    ∃ sm, r.sms (T.receiver ev.event) ev.receiver = some sm ∧ r.connected ev = true ∧
      r' = r.turn (T.receiver ev.event) ev.receiver
        (T.onEvent ev.event ev.payload ev.receiver r.alloc sm) := by
  unfold processEvent at hr
  split at hr
  · rename_i hc
    cases hsm : r.sms (T.receiver ev.event) ev.receiver with
    | none =>
      simp only [hsm,Option.some.injEq] at hr
      exact .inl ⟨hr.symm,rfl⟩
    | some sm =>
      simp only [hsm,Option.some.injEq] at hr
      refine .inr ⟨sm,rfl,hc,hr.symm.trans ?_⟩
      exact react_eq_turn ((h.tended _ _).1.1 (by rw [hsm]; exact Option.some_ne_none _))
  · cases hr

theorem Frame.materializeOne_eq (h : C.Frame (c :: creating) r) (hr : r.materializeOne c = some r') :
    r.sms c.kind c.id = none ∧
      r' = (r.spawn c).turn c.kind c.id (T.onInit c.kind c.id r.alloc c.state) := by
  unfold materializeOne at hr
  cases hsm : r.sms c.kind c.id with
  | some sm => simp [hsm] at hr
  | none =>
    have hstate : T.signals.any (fun s => decide (T.node s = .inl c.kind ∧
        (r.out s c.id).isSome)) = false := by
      refine any_eq_false.mpr (fun s _ => ?_)
      simp only [decide_eq_true_eq,not_and]
      intro hs
      simp [((h.tended c.kind c.id).2 hsm).1 s hs]
    simp only [hsm,hstate,Option.some.injEq] at hr
    refine ⟨rfl,hr.symm.trans ?_⟩
    refine react_eq_turn (r := r.spawn c) ((h.spawn.tended _ _).1.1 ?_)
    simp [Router.spawn,Router.initState]

end steps

/-- Every handler keeps the contract, while the ports are as in `r₀`. -/
structure Kept [T.PortFed] (C : Contract T) (r₀ : Router T) : Prop where
  init : ∀ r c creating, C.Holds (c :: creating) r → r.SamePorts r₀ →
    r.sms c.kind c.id = none →
    C.Accepts r.alloc c.kind c.id (.start c.state) (T.onInit c.kind c.id r.alloc c.state)
  input : ∀ r b t sm, C.Holds [] r → r.SamePorts r₀ → r.sms (T.batchNode b) t = some sm →
    r.inp b t ≠ some (r.aggregate b t) →
    C.Accepts r.alloc (T.batchNode b) t
      ((r.nodeView (T.batchNode b) t sm).given b (r.aggregate b t))
      (T.onInput b (r.aggregate b t) t r.alloc sm)
  event : ∀ r ev sm, C.Holds [] r → r.SamePorts r₀ →
    r.sms (T.receiver ev.event) ev.receiver = some sm → r.connected ev = true →
    C.Accepts r.alloc (T.receiver ev.event) ev.receiver
      (r.nodeView (T.receiver ev.event) ev.receiver sm)
      (T.onEvent ev.event ev.payload ev.receiver r.alloc sm)
  report : ∀ r i t source, C.Holds [] r → r.SamePorts r₀ → r.ports (T.incPort i) t = true →
    source ∈ T.sources (.inr i) → ∀ d ∈ r.deltas i t source, C.queued (t,⟨i,d⟩)

def stages (C : Contract T) (r₀ : Router T) : Router.Stages T where
  rest r := C.Holds [] r ∧ r.SamePorts r₀
  create todo r := C.Holds todo r ∧ r.SamePorts r₀
  wave _ r := C.Holds [] r ∧ r.SamePorts r₀
  event _ r := C.Holds [] r ∧ r.SamePorts r₀

theorem Holds.unmarked (h : C.Holds creating r) : C.Holds creating { r with dirty := [] } :=
  { h with
    dirty_lt := fun _ _ hm => nomatch hm }

/-- The waiting events are not part of the contract. -/
theorem Holds.events (h : C.Holds creating r) (events : List T.PendingEvent) :
    C.Holds creating { r with pendingEvents := events } :=
  { h with }

theorem Holds.begin (h : C.Holds [] r) : C.Holds r.pendingCreates { r with pendingCreates := [] } :=
  { h with
    pending := fun c hc => h.pending c (by simpa using hc)
    distinct := by simpa using h.distinct }

theorem Holds.report [T.Lawful] [T.PortFed] (h : C.Holds creating r)
    (hq : r.ports (T.incPort i) t = true → ∀ source ∈ T.sources (.inr i),
      ∀ d ∈ r.deltas i t source, C.queued (t,⟨i,d⟩)) : C.Holds creating (r.processInc i t) := by
  by_cases hp : r.ports (T.incPort i) t = true
  · rw [processInc_eq hp]
    exact { h with
      queued := fun q hm => by
        rcases mem_append.mp hm with hm | hm
        · exact h.queued q hm
        · obtain ⟨source,hs,hm⟩ := mem_flatMap.mp hm
          obtain ⟨d,hd,rfl⟩ := mem_map.mp hm
          exact hq hp source hs d hd }
  · rw [processInc_none hp]
    exact h

theorem samePorts_processInc [T.Lawful] [T.PortFed] (h : r.SamePorts r₀) :
    (r.processInc i t).SamePorts r₀ := by
  by_cases hp : r.ports (T.incPort i) t = true
  · rw [processInc_eq hp]
    exact { h with }
  · rw [processInc_none hp]
    exact h

theorem spawn_samePorts (h : r.SamePorts r₀) : (r.spawn c).SamePorts r₀ :=
  { h with
    out := fun s p hp => by
      rw [← h.out s p hp]
      simp [spawn,initState,hp] }

theorem Kept.stages [T.Lawful] [T.PortFed] (h : C.Kept r₀) : (C.stages r₀).Kept where
  begin r hr := ⟨hr.1.begin,{ hr.2 with }⟩
  again r hr := ⟨hr.1.begin,{ hr.2 with }⟩
  materialize c todo r r' hc hr := by
    obtain ⟨hdead,rfl⟩ := hc.1.materializeOne_eq hr
    have ok := h.init r c todo hc.1 hc.2 hdead
    exact ⟨hc.1.create hdead ok,(spawn_samePorts hc.2).turn ok.ports⟩
  created r hc _ := ⟨hc.1.unmarked,{ hc.2 with }⟩
  deliver x todo r hw := by
    obtain ⟨i,t⟩ := x
    cases i with
    | inl b =>
      rcases hw.1.processBatch_cases b t with ⟨heq,_⟩ | ⟨sm,hsm,hv,heq⟩
      · rw [processDirtyInput,heq]
        exact hw
      · rw [processDirtyInput,heq]
        have ok := h.input r b t sm hw.1 hw.2 hsm hv
        exact ⟨hw.1.deliver hsm ok,Router.SamePorts.turn (r := r.given b t) { hw.2 with } ok.ports⟩
    | inr i =>
      exact ⟨hw.1.report (fun hp source hs => h.report r i t source hw.1 hw.2 hp hs),
        samePorts_processInc hw.2⟩
  delivered r hw := ⟨hw.1.events _,{ hw.2 with }⟩
  send ev todo r r' he hr := by
    rcases he.1.processEvent_cases hr with ⟨rfl,_⟩ | ⟨sm,hsm,hcon,rfl⟩
    · exact he
    · have ok := h.event r ev sm he.1 he.2 hsm hcon
      exact ⟨he.1.send hsm ok,he.2.turn ok.ports⟩
  sent r he := he

/-- A propagation keeps a contract that every handler keeps, and leaves the ports alone. -/
theorem Kept.propagate [T.Lawful] [T.PortFed] (h : C.Kept r) (hr : C.Holds [] r)
    (hp : r.propagate = some r') : C.Holds [] r' ∧ r'.SamePorts r ∧ r'.Quiescent := by
  obtain ⟨⟨hh,hs⟩,hq⟩ := h.stages.propagate ⟨hr,.refl⟩ hp
  exact ⟨hh,hs,hq⟩

end Contract

end Distvirt.SmRouter
