import Distvirt.SmRouter.Fresh

/-! What the calls of external code keep: they write to ports, to their signals and edges, and
ask for new machines. -/

namespace Distvirt.SmRouter

open Router Function List

namespace Router

variable {T : Topology} {F : T.Input → Prop} {r : Router T} {p : T.Port} {id t source : Nat}
  {e : T.Edge} {s : T.Signal} {b : T.Batch}

section destroyPort
variable [T.Lawful]

theorem destroyPort_eq : r.destroyPort p id =
    { ({ r with ports := put r.ports p id false }.dropState (.inr p) id) with
      edge := fun e => if T.tgt e = .inr p then (r.edgeAfter (.inr p) id noTargets e).removeTarget id
        else r.edgeAfter (.inr p) id noTargets e
      dirty := r.dirty ++ r.edgesDirty (.inr p) id noTargets
      queue := r.queue.filter (fun q => ¬ (q.1 = id ∧ T.incNode q.2.1 = .inr p)) } := by
  unfold destroyPort
  rw [clearEdges_eq]
  rfl

@[simp] theorem destroyPort_sms : (r.destroyPort p id).sms = r.sms := by
  rw [destroyPort_eq]
  rfl

@[simp] theorem destroyPort_alloc : (r.destroyPort p id).alloc = r.alloc := by
  rw [destroyPort_eq]
  rfl

@[simp] theorem destroyPort_pendingCreates :
    (r.destroyPort p id).pendingCreates = r.pendingCreates := by
  rw [destroyPort_eq]
  rfl

theorem destroyPort_ports : (r.destroyPort p id).ports = put r.ports p id false := by
  rw [destroyPort_eq]
  rfl

theorem destroyPort_dirty : (r.destroyPort p id).dirty =
    r.dirty ++ r.edgesDirty (.inr p) id noTargets := by
  rw [destroyPort_eq]

theorem destroyPort_queue : (r.destroyPort p id).queue =
    r.queue.filter (fun q => ¬ (q.1 = id ∧ T.incNode q.2.1 = .inr p)) := by
  rw [destroyPort_eq]

@[simp] theorem destroyPort_inp : (r.destroyPort p id).inp = r.inp := by
  rw [destroyPort_eq]
  funext b
  simp [dropState]

theorem destroyPort_out (h : ¬ (T.node s = .inr p ∧ id' = id)) :
    (r.destroyPort p id).out s id' = r.out s id' := by
  rw [destroyPort_eq]
  exact update_if_ne h

/-- What is signalled after a port is gone was signalled before. -/
theorem destroyPort_out_some (h : (r.destroyPort p id).out s id' = some value) :
    r.out s id' = some value := by
  rw [destroyPort_eq] at h
  simp only [dropState] at h
  split at h
  · by_cases hid : id' = id
    · subst hid
      simp at h
    · rwa [update_of_ne hid] at h
  · exact h

theorem destroyPort_prev {source : T.Edge × T.Signal} (h : ¬ (T.incNode i = .inr p ∧ id' = id)) :
    (r.destroyPort p id).prev i source id' = r.prev i source id' := by
  rw [destroyPort_eq]
  exact update_if_ne h

theorem destroyPort_link : (r.destroyPort p id).link e source t ↔
    r.link e source t ∧ ¬ (T.src e = .inr p ∧ source = id) ∧ ¬ (T.tgt e = .inr p ∧ t = id) := by
  have cleared : t ∈ (r.edgeAfter (.inr p) id noTargets e).targets source ↔
      r.link e source t ∧ ¬ (T.src e = .inr p ∧ source = id) := by
    rw [link_edgeAfter]
    split
    · rename_i hs
      simp [noTargets,hs]
    · rename_i hs
      simp [hs]
  rw [destroyPort_eq,link]
  simp only
  split
  · rename_i ht
    rw [EdgeMap.removeTarget_targets,mem_filter]
    simp only [ht,true_and,decide_eq_true_eq,ne_eq]
    rw [← and_assoc,← cleared]
  · rename_i ht
    simp only [ht,false_and,not_false_iff,and_true]
    exact cleared

theorem destroyPort_targets (hs : source ≠ id) (ht : T.tgt e ≠ .inr p) :
    ((r.destroyPort p id).edge e).targets source = (r.edge e).targets source := by
  rw [destroyPort_eq]
  simp only [if_neg ht,edgeAfter,noTargets]
  split
  · exact EdgeMap.setEdges_other hs
  · rfl

theorem destroyPort_targets_self (hs : T.src e = .inr p) (ht : T.tgt e ≠ .inr p) :
    ((r.destroyPort p id).edge e).targets id = [] := by
  rw [destroyPort_eq]
  simp only [if_neg ht,edgeAfter,if_pos hs,noTargets]
  exact EdgeMap.setEdges_nil

/-- An input that is not marked and does not belong to the port sees what it saw before. -/
theorem collect_destroyPort (hs : (e,s) ∈ T.sources i) (hi : ¬ (T.inputNode i = .inr p ∧ t = id))
    (h : (i,t) ∉ r.edgesDirty (.inr p) id noTargets) :
    (r.destroyPort p id).collect t e s = r.collect t e s := by
  rw [← Schema.Lawful.source_target i e s hs] at hi
  rw [destroyPort_eq]
  refine collect_gone hs rfl ?_ h
  simp only
  split
  · rename_i hp
    exact update_of_ne (fun hid => hi ⟨hp,hid⟩) _ _
  · rfl

end destroyPort

section setSignal

variable {id' : Nat}

theorem setSignal_sms : (r.setSignal s id value).sms = r.sms := by
  unfold setSignal
  split
  · rfl
  · simp only
    split <;> rfl

theorem setSignal_edge : (r.setSignal s id value).edge = r.edge := by
  unfold setSignal
  split
  · rfl
  · simp only
    split <;> rfl

theorem setSignal_alloc : (r.setSignal s id value).alloc = r.alloc := by
  unfold setSignal
  split
  · rfl
  · simp only
    split <;> rfl

theorem setSignal_ports : (r.setSignal s id value).ports = r.ports := by
  unfold setSignal
  split
  · rfl
  · simp only
    split <;> rfl

theorem setSignal_queue : (r.setSignal s id value).queue = r.queue := by
  unfold setSignal
  split
  · rfl
  · simp only
    split <;> rfl

theorem setSignal_pendingCreates : (r.setSignal s id value).pendingCreates = r.pendingCreates := by
  unfold setSignal
  split
  · rfl
  · simp only
    split <;> rfl

theorem setSignal_dirty : (r.setSignal s id value).dirty =
    r.dirty ++ if r.out s id = some value then [] else r.readers s id := by
  unfold setSignal
  split
  · simp
  · simp only
    split <;> rfl

theorem setSignal_inp (hn : T.node s = .inr p) : (r.setSignal s id value).inp = r.inp := by
  unfold setSignal
  split
  · rfl
  · simp only
    split
    · funext b
      simp [initState,hn]
    · rfl

theorem setSignal_out_self : (r.setSignal s id value).out s id = some value := by
  unfold setSignal
  split
  · assumption
  · simp

theorem setSignal_out
    (h : ¬ (T.node s' = T.node s ∧ id' = id)) :
    (r.setSignal s id value).out s' id' = r.out s' id' := by
  unfold setSignal
  split
  · rfl
  · simp only
    rw [put_ne (fun hc => h ⟨by rw [hc.1],hc.2⟩)]
    split
    · exact update_if_ne h
    · rfl

theorem setSignal_prev {source : T.Edge × T.Signal} (h : ¬ (T.incNode i = T.node s ∧ id' = id)) :
    (r.setSignal s id value).prev i source id' = r.prev i source id' := by
  unfold setSignal
  split
  · rfl
  · simp only
    split
    · exact update_if_ne h
    · rfl

/-- Another signal keeps its value, or its node had none and gets the initial one. -/
theorem setSignal_out_cases (h : s' ≠ s) :
    (r.setSignal s id value).out s' id' = r.out s' id' ∨
      (r.setSignal s id value).out s' id' = some (T.initial s') := by
  unfold setSignal
  split
  · exact .inl rfl
  · simp only [put_name h]
    split
    · simp only [initState]
      split
      · by_cases hid : id' = id
        · subst hid
          exact .inr (update_self ..)
        · exact .inl (update_of_ne hid _ _)
      · exact .inl rfl
    · exact .inl rfl

theorem setSignal_out_ne (h : r.out s' id' ≠ none) :
    (r.setSignal s id value).out s' id' ≠ none := by
  by_cases hs : s' = s
  · subst hs
    by_cases hid : id' = id
    · subst hid
      simp [setSignal_out_self]
    · rwa [setSignal_out (fun hc => hid hc.2)]
  · rcases setSignal_out_cases hs with heq | heq
    · rwa [heq]
    · simp [heq]

end setSignal

@[simp] theorem createPortAuto_id : (r.createPortAuto p).1 = r.alloc (.inr p) := rfl

theorem createPortAuto_alloc : (r.createPortAuto p).2.alloc =
    update r.alloc (.inr p) (r.alloc (.inr p) + 1) := rfl

theorem createPortAuto_out_self (hs : T.node s = .inr p) :
    (r.createPortAuto p).2.out s (r.alloc (.inr p)) = some (T.initial s) := by
  simp [createPortAuto,createPort,initState,hs]

theorem createPortAuto_out (h : id ≠ r.alloc (.inr p)) :
    (r.createPortAuto p).2.out s id = r.out s id := update_if_ne (fun hc => h hc.2)

theorem setEdges_link (h : ¬ (e' = e ∧ source = id)) :
    (r.setEdges e id newTargets).link e' source t ↔ r.link e' source t := by
  by_cases he : e' = e
  · subst he
    simp only [link,setEdges,update_self,EdgeMap.setEdges_other (fun hc => h ⟨rfl,hc⟩)]
  · simp only [link,setEdges,update_of_ne he]

/-- External calls leave the machines as they are and only take edges and queued inputs away. -/
structure Pushed (r r' : Router T) : Prop where
  sms : r'.sms = r.sms
  inp : r'.inp = r.inp
  out : ∀ s k, T.node s = .inl k → r'.out s = r.out s
  link : ∀ e k source t, T.src e = .inl k → r'.link e source t → r.link e source t
  queue : ∀ q ∈ r'.queue, q ∈ r.queue

namespace Pushed

variable {r' : Router T}

theorem refl : Pushed r r :=
  ⟨rfl,rfl,fun _ _ _ => rfl,fun _ _ _ _ _ h => h,fun _ h => h⟩

theorem trans (h : Pushed r r') (h' : Pushed r' r'') : Pushed r r'' where
  sms := h'.sms.trans h.sms
  inp := h'.inp.trans h.inp
  out s k hs := (h'.out s k hs).trans (h.out s k hs)
  link e k source t he hl := h.link e k source t he (h'.link e k source t he hl)
  queue q hq := h.queue q (h'.queue q hq)

theorem setSignal (hn : T.node s = .inr p) : Pushed r (r.setSignal s id value) where
  sms := setSignal_sms
  inp := setSignal_inp hn
  out s' k hs := by
    funext id'
    exact setSignal_out (by simp [hs,hn])
  link e k source t _ hl := by rwa [Router.link,setSignal_edge] at hl
  queue q hq := by rwa [setSignal_queue] at hq

theorem setEdges (hn : T.src e = .inr p) : Pushed r (r.setEdges e id newTargets) where
  sms := rfl
  inp := rfl
  out _ _ _ := rfl
  link e' k source t he hl := by
    refine (setEdges_link (fun hc => ?_)).mp hl
    rw [hc.1,hn] at he
    cases he
  queue _ hq := hq

theorem createPort : Pushed r (r.createPort p id) where
  sms := rfl
  inp := by
    funext b
    simp [Router.createPort,initState]
  out s k hs := by simp [Router.createPort,initState,hs]
  link _ _ _ _ _ hl := hl
  queue _ hq := hq

theorem createPortAuto : Pushed r (r.createPortAuto p).2 :=
  { (createPort : Pushed r (r.createPort p (r.alloc (.inr p)))) with }

theorem destroyPort [T.Lawful] : Pushed r (r.destroyPort p id) where
  sms := destroyPort_sms
  inp := destroyPort_inp
  out s k hs := by
    funext id'
    exact destroyPort_out (by simp [hs])
  link e k source t _ hl := (destroyPort_link.mp hl).1
  queue q hq := by
    rw [destroyPort_queue] at hq
    exact (mem_filter.mp hq).1

theorem drain : Pushed r (r.drain p).2 :=
  ⟨rfl,rfl,fun _ _ _ => rfl,fun _ _ _ _ _ h => h,fun _ h => (mem_filter.mp h).1⟩

theorem send : Pushed r (r.send ev) :=
  ⟨rfl,rfl,fun _ _ _ => rfl,fun _ _ _ _ _ h => h,fun _ h => h⟩

theorem createSm : Pushed r (r.createSm k id state) :=
  ⟨rfl,rfl,fun _ _ _ => rfl,fun _ _ _ _ _ h => h,fun _ h => h⟩

end Pushed

/-- What belongs to the ports of one kind is as in another router. -/
structure SamePort (p : T.Port) (r r' : Router T) : Prop where
  out : ∀ s, T.node s = .inr p → r'.out s = r.out s
  edge : ∀ e, T.src e = .inr p → r'.edge e = r.edge e
  ports : r'.ports p = r.ports p
  alloc : r'.alloc (.inr p) = r.alloc (.inr p)

namespace SamePort

variable {r' : Router T} {q : T.Port}

theorem link (h : SamePort p r r') (e : T.Edge) (source t : Nat) (he : T.src e = .inr p) :
    r'.link e source t ↔ r.link e source t := by
  rw [Router.link,Router.link,h.edge e he]

theorem refl : SamePort p r r := ⟨fun _ _ => rfl,fun _ _ => rfl,rfl,rfl⟩

theorem trans (h : SamePort p r r') (h' : SamePort p r' r'') : SamePort p r r'' where
  out s hs := (h'.out s hs).trans (h.out s hs)
  edge e he := (h'.edge e he).trans (h.edge e he)
  ports := h'.ports.trans h.ports
  alloc := h'.alloc.trans h.alloc

theorem of_samePorts (h : r'.SamePorts r) : SamePort p r r' where
  out s hs := h.out s p hs
  edge e he := h.edge e p he
  ports := by rw [h.ports]
  alloc := h.alloc p

theorem setSignal (hn : T.node s = .inr q) (hq : p ≠ q) :
    SamePort p r (r.setSignal s id value) where
  out s' hs := by
    funext id'
    refine setSignal_out (fun hc => hq ?_)
    rw [hs,hn] at hc
    exact Sum.inr.inj hc.1
  edge e _ := by rw [setSignal_edge]
  ports := by rw [setSignal_ports]
  alloc := by rw [setSignal_alloc]

theorem setEdges (hn : T.src e = .inr q) (hq : p ≠ q) :
    SamePort p r (r.setEdges e id newTargets) where
  out _ _ := rfl
  edge e' he := by
    have hne : e' ≠ e := by
      rintro rfl
      exact hq (Sum.inr.inj (he.symm.trans hn))
    exact update_of_ne hne _ _
  ports := rfl
  alloc := rfl

theorem createPort (hq : p ≠ q) : SamePort p r (r.createPort q id) where
  out s hs := by
    have hne : T.node s ≠ .inr q := fun hc => hq (Sum.inr.inj (hs.symm.trans hc))
    simp [Router.createPort,initState,hne]
  edge _ _ := rfl
  ports := by
    funext id'
    exact put_ne (fun hc => hq hc.1)
  alloc := rfl

theorem createPortAuto (hq : p ≠ q) : SamePort p r (r.createPortAuto q).2 :=
  { (createPort hq : SamePort p r (r.createPort q (r.alloc (.inr q)))) with
    alloc := update_of_ne (fun hc => hq (Sum.inr.inj hc)) _ _ }

theorem destroyPort [T.Lawful] (hq : p ≠ q) (ht : ∀ e, T.src e = .inr p → T.tgt e ≠ .inr q) :
    SamePort p r (r.destroyPort q id) where
  out s hs := by
    funext id'
    refine destroyPort_out (fun hc => hq ?_)
    exact Sum.inr.inj (hs.symm.trans hc.1)
  edge e he := by
    have hne : T.src e ≠ .inr q := fun hc => hq (Sum.inr.inj (he.symm.trans hc))
    rw [destroyPort_eq]
    simp only [edgeAfter,if_neg (ht e he),if_neg hne]
  ports := by
    rw [destroyPort_ports]
    funext id'
    exact put_ne (fun hc => hq hc.1)
  alloc := by rw [destroyPort_alloc]

theorem drain : SamePort p r (r.drain q).2 := ⟨fun _ _ => rfl,fun _ _ => rfl,rfl,rfl⟩

theorem send : SamePort p r (r.send ev) :=
  ⟨fun _ _ => rfl,fun _ _ => rfl,rfl,rfl⟩

theorem createSm : SamePort p r (r.createSm k id state) :=
  ⟨fun _ _ => rfl,fun _ _ => rfl,rfl,rfl⟩

end SamePort

end Router

namespace Contract

variable {T : Topology} {C C' : Contract T} {r r' : Router T}
  {p : T.Port} {id : Nat} {e : T.Edge} {s : T.Signal}

/-- A write that leaves the machines alone and links machines in use only. -/
structure Wrote (C : Contract T) (r r' : Router T) : Prop extends Router.Pushed r r' where
  linked : ∀ e k source t, T.src e = .inl k → r.link e source t → r'.link e source t
  creates : r'.pendingCreates = r.pendingCreates
  bound : C.bound r'.alloc = C.bound r.alloc
  link_lt : ∀ e k source t, T.tgt e = .inl k → r'.link e source t →
    r.link e source t ∨ t < C.bound r.alloc k
  dirty_lt : ∀ b t, (.inl b,t) ∈ r'.dirty →
    (.inl b,t) ∈ r.dirty ∨ t < C.bound r.alloc (T.batchNode b)

/-- Writes to ports keep the frame if they link and mark machines in use only. -/
theorem Frame.pushed (h : C.Frame creating r) (w : Router.Pushed r r')
    (hcreates : r'.pendingCreates = r.pendingCreates) (hbound : C.bound r'.alloc = C.bound r.alloc)
    (hlink : ∀ e k source t, T.tgt e = .inl k → r'.link e source t →
      r.link e source t ∨ t < C.bound r.alloc k)
    (hdirty : ∀ b t, (.inl b,t) ∈ r'.dirty →
      (.inl b,t) ∈ r.dirty ∨ t < C.bound r.alloc (T.batchNode b)) : C.Frame creating r' where
  tended k id := (h.tended k id).keep (by rw [w.sms]) (fun b _ => by rw [w.inp])
    (fun s hs => by rw [w.out s k hs]) (fun e t he => w.link e k id t he)
  live_lt k id hlive := by
    rw [w.sms] at hlive
    rw [hbound]
    exact h.live_lt k id hlive
  pending c hc := by
    obtain ⟨hnew,hlt,hdead⟩ := h.pending c (hcreates ▸ hc)
    exact ⟨hnew,by rwa [hbound],by rwa [w.sms]⟩
  distinct := hcreates ▸ h.distinct
  link_lt e k source t he hl := by
    rw [hbound]
    rcases hlink e k source t he hl with hl | hl
    · exact h.link_lt e k source t he hl
    · exact hl
  dirty_lt b t hm := by
    rw [hbound]
    rcases hdirty b t hm with hm | hm
    · exact h.dirty_lt b t hm
    · exact hm
  queued q hq := h.queued q (w.queue q hq)

theorem Holds.wrote (h : C.Holds creating r) (w : C.Wrote r r') : C.Holds creating r' where
  toFrame := h.toFrame.pushed w.toPushed w.creates w.bound w.link_lt w.dirty_lt
  node k id sm hsm := by
    rw [w.sms] at hsm
    have hview : r'.nodeView k id sm = r.nodeView k id sm := by
      unfold nodeView
      congr 1
      · rw [w.inp]
      · funext s
        split
        · rw [w.out s k ‹_›]
        · rfl
      · funext e t
        exact propext (and_congr_right (fun he => ⟨w.link e k id t he,w.linked e k id t he⟩))
    rw [hview]
    exact h.node k id sm hsm

theorem Wrote.setSignal [T.Lawful] (h : C.Holds creating r) (hn : T.node s = .inr p) :
    C.Wrote r (r.setSignal s id value) where
  toPushed := .setSignal hn
  linked e k source t _ hl := by rwa [link,setSignal_edge]
  creates := setSignal_pendingCreates
  bound := by rw [setSignal_alloc]
  link_lt e k source t _ hl := by
    rw [link,setSignal_edge] at hl
    exact .inl hl
  dirty_lt b t hm := by
    rw [setSignal_dirty,mem_append] at hm
    rcases hm with hm | hm
    · exact .inl hm
    · split at hm
      · cases hm
      · obtain ⟨e,hs,hl⟩ := mem_readers.mp hm
        exact .inr (h.link_lt e _ id t (Schema.Lawful.source_target _ e s hs) hl)

theorem Wrote.setEdges [T.Lawful] (h : C.Holds creating r) (hn : T.src e = .inr p)
    (hlt : ∀ k, T.tgt e = .inl k → ∀ t ∈ newTargets, t < C.bound r.alloc k) :
    C.Wrote r (r.setEdges e id newTargets) where
  toPushed := .setEdges hn
  linked e' k source t hs hl := by
    refine (setEdges_link (fun hc => ?_)).mpr hl
    rw [hc.1,hn] at hs
    cases hs
  creates := rfl
  bound := rfl
  link_lt e' k source t he hl := by
    by_cases hself : e' = e ∧ source = id
    · obtain ⟨rfl,rfl⟩ := hself
      simp only [link,setEdges,update_self,EdgeMap.mem_setEdges_self] at hl
      exact .inr (hlt k he t hl)
    · exact .inl ((setEdges_link hself).mp hl)
  dirty_lt b t hm := by
    rw [setEdges_eq] at hm
    rcases mem_append.mp hm with hm | hm
    · exact .inl hm
    · simp only [edgeDirty,mem_flatMap,mem_map] at hm
      obtain ⟨t',ht,i,hi,heq⟩ := hm
      cases heq
      obtain ⟨s,hs⟩ := mem_edgeInputs.mp hi
      have htgt : T.tgt e = .inl (T.batchNode b) := Schema.Lawful.source_target _ e s hs
      by_cases hl : r.link e id t
      · exact .inr (h.link_lt e _ id t htgt hl)
      · refine .inr (hlt _ htgt t ?_)
        have := EdgeMap.mem_changed.mp ht
        by_contra hn
        exact this ⟨fun hc => absurd hc hl,fun hc => absurd hc hn⟩

theorem Wrote.createPort : C.Wrote r (r.createPort p id) :=
  ⟨.createPort,fun _ _ _ _ _ h => h,rfl,rfl,fun _ _ _ _ _ h => .inl h,fun _ _ h => .inl h⟩

theorem Wrote.createPortAuto
    (hb : ∀ alloc p n, C.bound (update alloc (.inr p) n) = C.bound alloc) :
    C.Wrote r (r.createPortAuto p).2 :=
  { (Wrote.createPort : C.Wrote r (r.createPort p (r.alloc (.inr p)))) with bound := hb _ _ _ }

theorem Wrote.drain : C.Wrote r (r.drain p).2 :=
  ⟨.drain,fun _ _ _ _ _ h => h,rfl,rfl,fun _ _ _ _ _ h => .inl h,fun _ _ h => .inl h⟩

theorem Holds.sendEvent (h : C.Holds creating r) (ev : T.PendingEvent) :
    C.Holds creating (r.send ev) := h.events _

theorem Holds.createSm (h : C.Holds creating r) (hnew : C.new ⟨k,id,state⟩)
    (hlt : id < C.bound r.alloc k) (hdead : r.sms k id = none)
    (hc : ∀ c ∈ creating ++ r.pendingCreates, ¬ (c.kind = k ∧ c.id = id)) :
    C.Holds creating (r.createSm k id state) := by
  exact { h with
    pending := fun c hm => by
      rw [Router.createSm,← append_assoc,mem_append,mem_singleton] at hm
      rcases hm with hm | rfl
      · exact h.pending c hm
      · exact ⟨hnew,hlt,hdead⟩
    distinct := by
      rw [Router.createSm,← append_assoc]
      refine pairwise_append.mpr ⟨h.distinct,by simp,?_⟩
      intro c hm c' hm'
      rw [mem_singleton] at hm'
      subst hm'
      exact hc c hm }

theorem Holds.destroyPort [T.Lawful] (h : C.Holds creating r)
    (hu : ∀ k id v t, C.node k id v → C.node k id (v.unlink p t)) :
    C.Holds creating (r.destroyPort p id) where
  toFrame := by
    refine h.toFrame.pushed .destroyPort destroyPort_pendingCreates
      (by rw [destroyPort_alloc])
      (fun e k source t _ hl => .inl (destroyPort_link.mp hl).1) (fun b t hm => ?_)
    rw [destroyPort_dirty,mem_append,mem_edgesDirty] at hm
    rcases hm with hm | ⟨e,l,hk,he,hne,s,hs⟩
    · exact .inl hm
    · cases he
      exact .inr (h.link_lt e _ id t (Schema.Lawful.source_target _ e s hs) (by simpa using hne))
  node k id' sm hsm := by
    rw [destroyPort_sms] at hsm
    have hview : (r.destroyPort p id).nodeView k id' sm = (r.nodeView k id' sm).unlink p id := by
      unfold nodeView NodeView.unlink
      congr 1
      · rw [destroyPort_inp]
      · funext s
        by_cases hs : T.node s = .inl k
        · have : (r.destroyPort p id).out s id' = r.out s id' :=
            destroyPort_out (by simp [hs])
          simp [hs,this]
        · simp [hs]
      · funext e t
        refine propext ?_
        rw [destroyPort_link]
        constructor
        · rintro ⟨he,hl,_,ht⟩
          exact ⟨⟨he,hl⟩,ht⟩
        · rintro ⟨⟨he,hl⟩,ht⟩
          exact ⟨he,hl,by simp [he],ht⟩
    rw [hview]
    exact hu k id' _ id (h.node k id' sm hsm)

/-- A weaker contract holds where a stronger one does. -/
theorem Holds.mono (h : C.Holds creating r)
    (hnode : ∀ k id v, C.node k id v → C'.node k id v) (hnew : ∀ c, C.new c → C'.new c)
    (hqueued : ∀ q ∈ r.queue, C.queued q → C'.queued q)
    (hbound : ∀ k, C.bound r.alloc k ≤ C'.bound r.alloc k) : C'.Holds creating r where
  tended := h.tended
  live_lt k id hlive := Nat.lt_of_lt_of_le (h.live_lt k id hlive) (hbound k)
  pending c hc := by
    obtain ⟨hc,hlt,hdead⟩ := h.pending c hc
    exact ⟨hnew c hc,Nat.lt_of_lt_of_le hlt (hbound _),hdead⟩
  distinct := h.distinct
  link_lt e k source t he hl := Nat.lt_of_lt_of_le (h.link_lt e k source t he hl) (hbound k)
  dirty_lt b t hm := Nat.lt_of_lt_of_le (h.dirty_lt b t hm) (hbound _)
  queued q hq := hqueued q hq (h.queued q hq)
  node k id sm hsm := hnode k id _ (h.node k id sm hsm)

end Contract

namespace Router

variable {T : Topology} [T.Lawful] {F : T.Input → Prop}
  {r : Router T} {p : T.Port} {id : Nat} {e : T.Edge} {s : T.Signal}
  {C : Contract T}

/-- No input of `F` reads signals of the port's kind. -/
def Unread (F : T.Input → Prop) (p : T.Port) : Prop :=
  ∀ x e s, F x → (e,s) ∈ T.sources x → T.src e ≠ .inr p

variable [T.PortFed]

omit [T.Lawful] in
theorem incNode_inr : T.incNode i = .inr p ↔ T.incPort i = p := by
  rw [Schema.PortFed.incNode_eq,Sum.inr.injEq]

omit [T.PortFed] in
/-- An input that new edges do not mark sees what it saw before. -/
theorem collect_setEdges (hs : (e',s) ∈ T.sources x) (hx : (x,t) ∉ r.edgeDirty e id newTargets) :
    (r.setEdges e id newTargets).collect t e' s = r.collect t e' s := by
  refine collect_congr ?_ (fun _ _ => rfl)
  by_cases he : e' = e
  · subst he
    simp only [setEdges,update_self]
    refine EdgeMap.setEdges_sources (fun hc => hx ?_)
    simp only [edgeDirty,mem_flatMap,mem_map]
    exact ⟨t,hc,x,mem_edgeInputs.mpr ⟨s,hs⟩,rfl⟩
  · simp only [setEdges,update_of_ne he]

theorem Fresh.setSignal (h : Fresh F creating todo r) (hs : r.out s id ≠ none) :
    Fresh F creating todo (r.setSignal s id value) := by
  rw [setSignal_eq hs]
  refine h.transfer (fun x hx => by simp [hx]) ?_
  intro x t _ hp hx
  rw [mem_append,not_or] at hx
  refine .inl ⟨hp,.of_collect (fun e s' hes => collect_congr rfl (fun id' hl => ?_)) rfl rfl⟩
  by_cases hself : s' = s ∧ id' = id
  · obtain ⟨rfl,rfl⟩ := hself
    have hv : r.out s' id' = some value := by
      by_contra hv
      rw [if_neg hv] at hx
      exact hx.2 (mem_readers.mpr ⟨e,hes,hl⟩)
    simp only [put_self,hv]
  · exact put_ne hself

/-- A port that no input of `F` reads may be written without having a state. -/
theorem Fresh.setSignal_unread (h : Fresh F creating todo r) (hn : T.node s = .inr p)
    (hu : Unread F p) (hi : ∀ i, F (.inr i) → T.incPort i ≠ p) :
    Fresh F creating todo (r.setSignal s id value) := by
  refine h.transfer (fun x hx => by simp [setSignal_dirty,hx]) ?_
  intro x t hF hp hx
  refine .inl ⟨?_,fun e s' hes => collect_congr ?_ (fun id' _ => ?_),?_⟩
  · cases x with
    | inl b => simpa [Present,setSignal_sms,setSignal_pendingCreates] using hp
    | inr i => simpa [Present,setSignal_ports] using hp
  · rw [setSignal_edge]
  · refine setSignal_out (fun hc => hu x e s' hF hes ?_)
    rw [← Schema.Lawful.source_node x e s' hes,hc.1,hn]
  · cases x with
    | inl b => exact congrFun (congrFun (setSignal_inp hn) b) t
    | inr i =>
      intro source
      refine setSignal_prev (fun hc => hi i hF ?_)
      rw [hn] at hc
      exact incNode_inr.mp hc.1

theorem Fresh.setEdges (h : Fresh F creating todo r) :
    Fresh F creating todo (r.setEdges e id newTargets) := by
  refine h.transfer (fun x hx => by simp [setEdges_eq,hx]) ?_
  intro x t _ hp hx
  rw [setEdges_eq,mem_append,not_or] at hx
  exact .inl ⟨hp,.of_collect (fun e s hs => collect_setEdges hs hx.2) rfl rfl⟩

/-- A port may be created where no edge starts or ends yet, as far as `F` looks. -/
theorem Fresh.createPort (h : Fresh F creating todo r)
    (hout : Unread F p ∨ ∀ e t, T.src e = .inr p → ¬ r.link e id t)
    (hin : ∀ i, F (.inr i) → T.incPort i = p → ∀ e s source, (e,s) ∈ T.sources (.inr i) →
      ¬ r.link e source id) : Fresh F creating todo (r.createPort p id) := by
  have hcollect : ∀ x t e s, F x → (e,s) ∈ T.sources x →
      (r.createPort p id).collect t e s = r.collect t e s := by
    intro x t e s hF hes
    refine collect_congr rfl (fun id' hl => update_if_ne ?_)
    rintro ⟨hs,rfl⟩
    rw [Schema.Lawful.source_node x e s hes] at hs
    rcases hout with hout | hout
    · exact hout x e s hF hes hs
    · exact hout e t hs hl
  refine h.transfer (fun x hx => hx) ?_
  intro x t hF hp _
  cases x with
  | inl b =>
    refine .inl ⟨hp,fun e s hes => hcollect _ t e s hF hes,?_⟩
    simp [Router.createPort,initState]
  | inr i =>
    by_cases hi : T.incPort i = p ∧ t = id
    · obtain ⟨hi,rfl⟩ := hi
      refine .inr (fun source hs => ?_)
      rw [hcollect _ t _ _ hF hs,collect_eq_nil (fun source' => hin i hF hi _ _ source' hs)]
      simp [Router.createPort,initState,incNode_inr,hi]
    · simp only [Present,Router.createPort,initState,put_ne hi] at hp
      refine .inl ⟨hp,fun e s hes => hcollect _ t e s hF hes,fun source => ?_⟩
      exact update_if_ne (fun hc => hi ⟨incNode_inr.mp hc.1,hc.2⟩)

omit [T.Lawful] in
theorem Fresh.countPort (h : Fresh F creating todo r) (alloc : T.IdAlloc) :
    Fresh F creating todo { r with alloc := alloc } := by
  refine h.transfer (fun x hx => hx) ?_
  intro x t _ hp _
  exact .inl ⟨hp,.of_collect (fun _ _ _ => rfl) rfl rfl⟩

theorem Fresh.destroyPort (h : Fresh F creating todo r) :
    Fresh F creating todo (r.destroyPort p id) := by
  refine h.transfer (fun x hx => by simp [destroyPort_dirty,hx]) ?_
  intro x t _ hp hx
  rw [destroyPort_dirty,mem_append,not_or] at hx
  have hi : ¬ (T.inputNode x = .inr p ∧ t = id) := by
    intro ⟨hn,ht⟩
    subst ht
    cases x with
    | inl b => exact absurd hn Sum.inl_ne_inr
    | inr i =>
      have : T.incPort i = p := incNode_inr.mp hn
      subst this
      simp [Present,destroyPort_ports] at hp
  refine .inl ⟨?_,fun e s hes => collect_destroyPort hes hi hx.2,?_⟩
  · cases x with
    | inl b => simpa [Present] using hp
    | inr i =>
      have : ¬ (T.incPort i = p ∧ t = id) := fun hc => hi ⟨incNode_inr.mpr hc.1,hc.2⟩
      simpa [Present,destroyPort_ports,put_ne this] using hp
  · cases x with
    | inl b => simp
    | inr i => exact fun _ => destroyPort_prev hi

theorem Fresh.createSm (h : Fresh F creating todo r) (hf : C.Frame creating r)
    (hid : C.bound r.alloc k ≤ id) : Fresh F creating todo (r.createSm k id state) := by
  refine h.transfer (fun x hx => hx) ?_
  intro x t _ hp _
  cases x with
  | inr i => exact .inl ⟨hp,fun _ _ _ => rfl,fun _ => rfl⟩
  | inl b =>
    rcases hp with hp | ⟨c,hc,hk,ht⟩
    · exact .inl ⟨.inl hp,fun _ _ _ => rfl,rfl⟩
    · rw [Router.createSm,← append_assoc,mem_append,mem_singleton] at hc
      rcases hc with hc | rfl
      · exact .inl ⟨.inr ⟨c,hc,hk,ht⟩,fun _ _ _ => rfl,rfl⟩
      · simp only at hk ht
        subst hk ht
        exact .inr (.inr (unused (r := r) hf hid))

omit [T.Lawful] in
theorem Fresh.send (h : Fresh F creating todo r) (ev : T.PendingEvent) :
    Fresh F creating todo (r.send ev) := h

omit [T.Lawful] in
theorem Fresh.drain (h : Fresh F creating todo r) : Fresh F creating todo (r.drain p).2 := h

end Router

end Distvirt.SmRouter
