import Distvirt.SmRouter.Effects
import Distvirt.SmRouter.Propagate

/-! One machine's turn, seen from the other nodes and from the machine itself. -/

namespace Distvirt.SmRouter

open List

namespace Router

variable {T : Topology} {r : Router T} {k : T.Sm} {id : Nat} {reaction : T.Reaction k}

/-- The router after a machine's reaction. -/
def turn (r : Router T) (k : T.Sm) (id : Nat) (reaction : T.Reaction k) : Router T :=
  let r := { r with
    sms := put r.sms k id (some reaction.state)
    alloc := reaction.alloc }.stay k id reaction.effects
  if reaction.effects.selfDestruct then r.destroySm k id else r

theorem react_eq_turn [T.Lawful] (h : r.HasState (.inl k) id) :
    r.react k id reaction = r.turn k id reaction := applyEffects_eq h

theorem destroySm_eq [T.Lawful] : r.destroySm k id =
    { ({ r with sms := put r.sms k id none }.dropState (.inl k) id) with
      edge := r.edgeAfter (.inl k) id noTargets
      dirty := r.dirty ++ r.edgesDirty (.inl k) id noTargets } := clearEdges_eq

theorem collect_congr {r' : Router T} (hedge : (r'.edge e).sources t = (r.edge e).sources t)
    (hout : ∀ id, r.link e id t → r'.out s id = r.out s id) :
    r'.collect t e s = r.collect t e s := by
  unfold collect
  rw [hedge]
  refine filterMap_congr (fun id hid => ?_)
  rw [hout id (mem_sources_iff.mp hid)]

theorem mem_collect :
    (source,value) ∈ r.collect t e s ↔ r.link e source t ∧ r.out s source = some value := by
  simp only [collect,mem_filterMap,mem_sources_iff,Option.map_eq_some_iff,Prod.mk.injEq]
  constructor
  · intro ⟨id',hl,value',hv,hid,hval⟩
    subst hid hval
    exact ⟨hl,hv⟩
  · intro ⟨hl,hv⟩
    exact ⟨source,hl,value,hv,rfl,rfl⟩

section fields
variable [T.Lawful]

@[simp] theorem turn_ports : (r.turn k id reaction).ports = r.ports := by
  unfold turn
  split
  · rw [destroySm_eq]; rfl
  · rfl

@[simp] theorem turn_queue : (r.turn k id reaction).queue = r.queue := by
  unfold turn
  split
  · rw [destroySm_eq]; rfl
  · rfl

@[simp] theorem turn_alloc : (r.turn k id reaction).alloc = reaction.alloc := by
  unfold turn
  split
  · rw [destroySm_eq]; rfl
  · rfl

@[simp] theorem turn_prev [T.PortFed] : (r.turn k id reaction).prev = r.prev := by
  unfold turn
  split
  · rw [destroySm_eq]
    funext i source
    simp [dropState,stay,Schema.PortFed.incNode_eq]
  · rfl

@[simp] theorem turn_pendingCreates :
    (r.turn k id reaction).pendingCreates = r.pendingCreates ++ reaction.effects.creates := by
  unfold turn
  split
  · rw [destroySm_eq]; rfl
  · rfl

theorem turn_sms_other (h : ¬ (k' = k ∧ id' = id)) :
    (r.turn k id reaction).sms k' id' = r.sms k' id' := by
  unfold turn
  split
  · rw [destroySm_eq]
    simp only [dropState,stay,put_ne h]
  · simp only [stay,put_ne h]

theorem turn_sms_self : (r.turn k id reaction).sms k id =
    if reaction.effects.selfDestruct then none else some reaction.state := by
  unfold turn
  split
  · rw [destroySm_eq]
    simp [dropState]
  · simp [stay]

theorem turn_out_other (h : ¬ (T.node s = .inl k ∧ id' = id)) :
    (r.turn k id reaction).out s id' = r.out s id' := by
  have stays : ∀ r : Router T, (r.stay k id reaction.effects).out s id' = r.out s id' := by
    intro r
    simp only [stay,outAfter,if_neg h]
  unfold turn
  split
  · rw [destroySm_eq]
    exact (update_if_ne h).trans (stays _)
  · exact stays _

theorem turn_out_self (h : T.node s = .inl k) : (r.turn k id reaction).out s id =
    if reaction.effects.selfDestruct then none
    else (reaction.effects.signal s).or (r.out s id) := by
  unfold turn
  split
  · rw [destroySm_eq]
    simp [dropState,h]
  · simp [stay,outAfter,h]

theorem turn_inp_other (h : ¬ (T.batchNode b = k ∧ id' = id)) :
    (r.turn k id reaction).inp b id' = r.inp b id' := by
  unfold turn
  split
  · rw [destroySm_eq]
    exact update_if_ne (fun hc => h ⟨Sum.inl.inj hc.1,hc.2⟩)
  · rfl

theorem turn_inp_self (h : T.batchNode b = k) : (r.turn k id reaction).inp b id =
    if reaction.effects.selfDestruct then none else r.inp b id := by
  unfold turn
  split
  · rw [destroySm_eq]
    simp [dropState,h]
  · rfl

theorem turn_link_other (h : ¬ (T.src e = .inl k ∧ source = id)) :
    (r.turn k id reaction).link e source t ↔ r.link e source t := by
  have stays : ∀ r : Router T, (r.stay k id reaction.effects).link e source t ↔
      r.link e source t := by
    intro r
    rw [link,stay,link_edgeAfter,if_neg h]
  unfold turn
  split
  · rw [destroySm_eq,link,link_edgeAfter,if_neg h,stays]
    exact Iff.rfl
  · rw [stays]
    exact Iff.rfl

theorem turn_link_self (h : T.src e = .inl k) : (r.turn k id reaction).link e id t ↔
    reaction.effects.selfDestruct = false ∧
      (reaction.effects.edge e).elim (r.link e id t) (t ∈ ·) := by
  unfold turn
  split
  · rename_i hd
    rw [destroySm_eq,link,link_edgeAfter,if_pos ⟨h,rfl⟩]
    simp [noTargets,hd]
  · rename_i hd
    rw [link,stay,link_edgeAfter,if_pos ⟨h,rfl⟩]
    simp only [Bool.not_eq_true] at hd
    simp only [hd,true_and]
    exact Iff.rfl

/-- A list of a machine that the turn does not touch is kept as it is. -/
theorem turn_edge_other (h : T.src e ≠ .inl k) : (r.turn k id reaction).edge e = r.edge e := by
  unfold turn
  split
  · rw [destroySm_eq]
    simp [edgeAfter,h,stay]
  · simp [stay,edgeAfter,h]

/-- The inputs that a turn marks. -/
def turnDirty (r : Router T) (k : T.Sm) (id : Nat) (eff : T.Effects) : List (T.Input × Nat) :=
  r.signalDirty (.inl k) id eff ++ r.edgesDirty (.inl k) id eff ++
    if eff.selfDestruct then (r.stay k id eff).edgesDirty (.inl k) id noTargets else []

/-- A turn only marks inputs that the machine is or becomes linked to. -/
theorem linked_of_turnDirty (h : (i,t) ∈ r.turnDirty k id eff) :
    ∃ e s, (e,s) ∈ T.sources i ∧ T.src e = .inl k ∧
      (r.link e id t ∨ ∃ l, eff.edge e = some l ∧ t ∈ l) := by
  unfold turnDirty at h
  rw [mem_append,mem_append,mem_signalDirty,mem_edgesDirty] at h
  rcases h with (⟨s,_,hn,_,_,e,hs,hl⟩ | ⟨e,l,hk,he,hne,s,hs⟩) | h
  · exact ⟨e,s,hs,(Schema.Lawful.source_node i e s hs).symm.trans hn,.inl hl⟩
  · refine ⟨e,s,hs,hk,?_⟩
    by_cases hl : r.link e id t
    · exact .inl hl
    · exact .inr ⟨l,he,by tauto⟩
  · split at h
    · obtain ⟨e,l,hk,he,hne,s,hs⟩ := mem_edgesDirty.mp h
      refine ⟨e,s,hs,hk,?_⟩
      cases he
      have hl : (r.stay k id eff).link e id t := by simpa using hne
      rw [link,stay,link_edgeAfter,if_pos ⟨hk,rfl⟩] at hl
      cases hedge : eff.edge e with
      | none => exact .inl (by simpa [hedge] using hl)
      | some l => exact .inr ⟨l,rfl,by simpa [hedge] using hl⟩
    · cases h

theorem turn_dirty : (r.turn k id reaction).dirty =
    r.dirty ++ r.turnDirty k id reaction.effects := by
  unfold turn turnDirty
  split
  · rw [destroySm_eq]
    simp only [stay,append_assoc]
    rfl
  · simp only [stay,append_nil]
    rfl

/-- An input that the effects do not mark sees what it saw before. -/
theorem collect_stay (hs : (e,s) ∈ T.sources i)
    (h : (i,t) ∉ r.signalDirty (.inl k) id eff ++ r.edgesDirty (.inl k) id eff) :
    (r.stay k id eff).collect t e s = r.collect t e s := by
  rw [mem_append,not_or,mem_signalDirty,mem_edgesDirty] at h
  obtain ⟨hsig,hedge⟩ := h
  have hn := Schema.Lawful.source_node i e s hs
  by_cases hk : T.src e = .inl k
  · refine collect_congr ?_ (fun id' hl => ?_)
    · cases he : eff.edge e with
      | none => simp [stay,edgeAfter,hk,he]
      | some l =>
        simp only [stay,edgeAfter,hk,if_true,he]
        refine EdgeMap.setEdges_sources (fun hc => hedge ?_)
        exact ⟨e,l,hk,he,EdgeMap.mem_changed.mp hc,s,hs⟩
    · by_cases hid : id' = id
      · subst hid
        cases he : eff.signal s with
        | none => simp [stay,outAfter,hn,hk,he]
        | some value =>
          have hv : r.out s id' = some value := by
            by_contra hv
            exact hsig ⟨s,value,hn.trans hk,he,hv,e,hs,hl⟩
          simp [stay,outAfter,hn,hk,he,hv]
      · simp [stay,outAfter,hid]
  · refine collect_congr ?_ (fun id' _ => ?_)
    · simp [stay,edgeAfter,hk]
    · simp [stay,outAfter,hn,hk]

/-- A node gets its signal state while no edge starts at it. -/
theorem collect_initState {k : T.Kind} (h : ∀ e t, T.src e = k → ¬ r.link e id t)
    (hs : (e,s) ∈ T.sources i) : (r.initState k id).collect t e s = r.collect t e s := by
  refine collect_congr rfl (fun id' hl => update_if_ne ?_)
  rintro ⟨hn,rfl⟩
  exact h e t ((Schema.Lawful.source_node i e s hs).symm.trans hn) hl

/-- An input that is not marked does not see that a node is gone. -/
theorem collect_gone {k : T.Kind} {r' : Router T} (hs : (e,s) ∈ T.sources i)
    (hout : r'.out = (r.dropState k id).out)
    (hedge : (r'.edge e).sources t = (r.edgeAfter k id noTargets e).sources t)
    (h : (i,t) ∉ r.edgesDirty k id noTargets) : r'.collect t e s = r.collect t e s := by
  rw [mem_edgesDirty] at h
  have hnot : ¬ (T.src e = k ∧ r.link e id t) := fun ⟨hk,hl⟩ =>
    h ⟨e,[],hk,rfl,by simp [hl],s,hs⟩
  refine collect_congr (hedge.trans ?_) (fun id' hl => ?_)
  · unfold edgeAfter
    split
    · rename_i hk
      refine EdgeMap.setEdges_sources (fun hc => hnot ⟨hk,?_⟩)
      simpa [link] using EdgeMap.mem_changed.mp hc
    · rfl
  · rw [hout]
    refine update_if_ne (fun hc => hnot ⟨?_,hc.2 ▸ hl⟩)
    rw [← Schema.Lawful.source_node i e s hs]
    exact hc.1

theorem collect_destroySm (hs : (e,s) ∈ T.sources i)
    (h : (i,t) ∉ r.edgesDirty (.inl k) id noTargets) :
    (r.destroySm k id).collect t e s = r.collect t e s := by
  rw [destroySm_eq]
  exact collect_gone hs rfl rfl h

theorem collect_turn (hs : (e,s) ∈ T.sources i) (h : (i,t) ∉ r.turnDirty k id reaction.effects) :
    (r.turn k id reaction).collect t e s = r.collect t e s := by
  unfold turnDirty at h
  rw [mem_append,not_or] at h
  obtain ⟨h₁,h₂⟩ := h
  unfold turn
  split
  · rename_i hd
    rw [if_pos hd] at h₂
    refine (collect_destroySm hs ?_).trans (collect_stay hs ?_)
    · exact h₂
    · exact h₁
  · exact collect_stay hs h₁

end fields

theorem processSources_eq (sources : List (T.Edge × T.Signal)) (hn : sources.Nodup) :
    sources.foldl (fun r source => r.processSource i t source) r =
    { r with
      prev := fun i' source t' => if i' = i ∧ source ∈ sources ∧ t' = t
        then r.collect t source.1 source.2 else r.prev i' source t'
      queue := r.queue ++ sources.flatMap
        (fun source => (r.deltas i t source).map (fun d => (t,⟨i,d⟩))) } := by
  induction sources generalizing r with
  | nil => simp
  | cons source sources ih =>
    obtain ⟨hnot,hn⟩ := nodup_cons.mp hn
    rw [foldl_cons,ih hn]
    have hprev : ∀ source' ∈ sources,
        (r.processSource i t source).prev i source' t = r.prev i source' t := by
      intro source' hs
      simp only [processSource,Function.update_self]
      exact put_name (fun hc => hnot (hc ▸ hs))
    simp only [flatMap_cons,← append_assoc]
    congr 1
    · funext i' source' t'
      by_cases hi : i' = i
      · subst hi
        by_cases ht : t' = t
        · subst ht
          by_cases hs : source' = source
          · subst hs
            simp [processSource,hnot]
          · by_cases hm : source' ∈ sources
            · simp [hm]
              rfl
            · simp [hm,hs,processSource,put_name hs]
        · simp [ht,processSource]
          by_cases hs : source' = source
          · subst hs
            exact put_id ht
          · exact put_name hs
      · simp [hi,processSource]
    · congr 1
      refine flatMap_congr (fun source' hs => ?_)
      simp only [deltas,hprev source' hs]
      rfl

section ports
variable [T.PortFed]

theorem processInc_of_port : r.processInc i t =
    if r.ports (T.incPort i) t then
      (T.sources (.inr i)).foldl (fun r source => r.processSource i t source) r
    else r := by
  have hn := Schema.PortFed.incNode_eq (S := T.toSchema) i
  unfold processInc
  split
  · rename_i h
    rw [hn] at h
    cases h
  · rename_i p h
    rw [hn] at h
    cases h
    rw [dif_neg (by simp [Schema.PortFed.not_whole (S := T.toSchema) i])]

theorem processInc_none (hp : ¬ r.ports (T.incPort i) t = true) : r.processInc i t = r := by
  rw [processInc_of_port,if_neg hp]

theorem processInc_eq [T.Lawful] (hp : r.ports (T.incPort i) t = true) : r.processInc i t =
    { r with
      prev := fun i' source t' => if i' = i ∧ source ∈ T.sources (.inr i) ∧ t' = t
        then r.collect t source.1 source.2 else r.prev i' source t'
      queue := r.queue ++ (T.sources (.inr i)).flatMap
        (fun source => (r.deltas i t source).map (fun d => (t,⟨i,d⟩))) } := by
  rw [processInc_of_port,if_pos hp]
  exact processSources_eq _ (Schema.Lawful.sources_nodup _)

theorem processInc_same [T.Lawful] (i : T.Inc) (t : Nat) :
    (r.processInc i t).sms = r.sms ∧ (r.processInc i t).inp = r.inp ∧
      (r.processInc i t).out = r.out ∧ (r.processInc i t).edge = r.edge ∧
      (r.processInc i t).alloc = r.alloc ∧ (r.processInc i t).dirty = r.dirty ∧
      (r.processInc i t).pendingCreates = r.pendingCreates ∧
      (r.processInc i t).pendingEvents = r.pendingEvents := by
  by_cases hp : r.ports (T.incPort i) t = true
  · rw [processInc_eq hp]
    exact ⟨rfl,rfl,rfl,rfl,rfl,rfl,rfl,rfl⟩
  · rw [processInc_none hp]
    exact ⟨rfl,rfl,rfl,rfl,rfl,rfl,rfl,rfl⟩

end ports

end Router

end Distvirt.SmRouter
