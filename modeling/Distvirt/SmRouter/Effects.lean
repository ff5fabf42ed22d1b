import Distvirt.SmRouter.Router

/-! What one reaction does to the router, field by field. A node is assumed to have its signal
state, as every live node has. -/

namespace Distvirt.SmRouter

open List

/-- The node an input belongs to. -/
def Schema.inputNode (S : Schema) : S.Input → S.Kind
  | .inl b => .inl (S.batchNode b)
  | .inr i => S.incNode i

/-- The declaration lists name every signal, edge and input once, and the sources of an input
fit their edges. -/
class Schema.Lawful (S : Schema) : Prop where
  signals_mem : ∀ s, s ∈ S.signals
  signals_nodup : S.signals.Nodup
  edges_mem : ∀ e, e ∈ S.edges
  edges_nodup : S.edges.Nodup
  inputs_mem : ∀ i, i ∈ S.inputs
  source_node : ∀ i e s, (e,s) ∈ S.sources i → S.node s = S.src e
  source_target : ∀ i e s, (e,s) ∈ S.sources i → S.tgt e = S.inputNode i
  sources_nodup : ∀ i, (S.sources i).Nodup

/-- All inputs but the batch inputs of machines are incremental inputs of ports. -/
class Schema.PortFed (S : Schema) where
  port : S.Inc → S.Port
  incNode_eq : ∀ i, S.incNode i = .inr (port i)
  not_whole : ∀ i, S.whole i = false

abbrev Schema.incPort (S : Schema) [h : S.PortFed] : S.Inc → S.Port := h.port

namespace Router

variable {T : Topology} {r : Router T} {k : T.Sm} {id : Nat} {eff : T.Effects} {e : T.Edge}
  {s : T.Signal} {i : T.Input}

/-- The node has a value for each of its signals. -/
def HasState (r : Router T) (k : T.Kind) (id : Nat) : Prop :=
  ∀ s, T.node s = k → r.out s id ≠ none

def outAfter (r : Router T) (k : T.Kind) (id : Nat) (eff : T.Effects) :
    (s : T.Signal) → Nat → Option (T.Val s) :=
  fun s id' => if T.node s = k ∧ id' = id then (eff.signal s).or (r.out s id') else r.out s id'

def edgeAfter (r : Router T) (k : T.Kind) (id : Nat) (eff : T.Effects) : T.Edge → EdgeMap :=
  fun e => if T.src e = k then
      match eff.edge e with
      | some newTargets => (r.edge e).setEdges id newTargets
      | none => r.edge e
    else r.edge e

/-- The readers of the signals whose value the effects change. -/
def signalDirty (r : Router T) (k : T.Kind) (id : Nat) (eff : T.Effects) : List (T.Input × Nat) :=
  (T.signals.filter (fun s => T.node s = k)).flatMap (fun s =>
    match eff.signal s with
    | some value => if r.out s id = some value then [] else r.readers s id
    | none => [])

def edgeDirty (r : Router T) (e : T.Edge) (source : Nat) (newTargets : List Nat) :
    List (T.Input × Nat) :=
  ((r.edge e).changed source newTargets).flatMap
    (fun target => (edgeInputs e).map (fun i => (i,target)))

/-- The targets that the new edge lists add or remove. -/
def edgesDirty (r : Router T) (k : T.Kind) (id : Nat) (eff : T.Effects) : List (T.Input × Nat) :=
  (T.edges.filter (fun e => T.src e = k)).flatMap (fun e =>
    match eff.edge e with
    | some newTargets => r.edgeDirty e id newTargets
    | none => [])

theorem setSignal_eq (h : r.out s id ≠ none) : r.setSignal s id value =
    { r with
      out := put r.out s id (some value)
      dirty := r.dirty ++ if r.out s id = some value then [] else r.readers s id } := by
  unfold setSignal
  by_cases hv : r.out s id = some value
  · simp [hv,put_eq_self hv]
  · simp [hv,h]

theorem applySignals_list (signals : List T.Signal) (hn : signals.Nodup)
    (hs : ∀ s ∈ signals, r.out s id ≠ none) :
    signals.foldl (fun r s => match eff.signal s with
      | some value => r.setSignal s id value
      | none => r) r =
    { r with
      out := fun s id' => if s ∈ signals ∧ id' = id then (eff.signal s).or (r.out s id')
        else r.out s id'
      dirty := r.dirty ++ signals.flatMap (fun s =>
        match eff.signal s with
        | some value => if r.out s id = some value then [] else r.readers s id
        | none => []) } := by
  induction signals generalizing r with
  | nil => simp
  | cons s signals ih =>
    obtain ⟨hnot,hn⟩ := nodup_cons.mp hn
    rw [foldl_cons]
    cases he : eff.signal s with
    | none =>
      simp only
      rw [ih hn (fun s' h => hs s' (mem_cons_of_mem _ h)),flatMap_cons]
      simp only [he,nil_append]
      congr 1
      funext s' id'
      by_cases hss : s' = s
      · subst hss
        simp [hnot,he]
      · simp [hss]
    | some value =>
      simp only
      rw [setSignal_eq (hs s (by simp))]
      have hout : ∀ s' ∈ signals, put r.out s id (some value) s' = r.out s' := by
        intro s' h'
        funext id'
        refine put_name ?_
        rintro rfl
        exact hnot h'
      rw [ih hn (fun s' h => by
        simp only [hout s' h]
        exact hs s' (mem_cons_of_mem _ h))]
      congr 1
      · funext s' id'
        by_cases hss : s' = s
        · subst hss
          by_cases hid : id' = id
          · subst hid
            simp [hnot,he]
          · simp [hid,put_id hid]
        · simp [hss,put_name hss]
      · simp only [flatMap_cons,he,append_assoc]
        congr 2
        refine flatMap_congr (fun s' h' => ?_)
        simp only [hout s' h']
        rfl

theorem applySignals_eq [T.Lawful] (h : r.HasState (.inl k) id) : r.applySignals k id eff =
    { r with
      out := r.outAfter (.inl k) id eff
      dirty := r.dirty ++ r.signalDirty (.inl k) id eff } := by
  refine (applySignals_list _ (Schema.Lawful.signals_nodup.filter _)
    (fun s hs => h s (by simpa using (mem_filter.mp hs).2))).trans ?_
  congr 1
  funext s id'
  simp [outAfter,Schema.Lawful.signals_mem]

theorem setEdges_eq : r.setEdges e id newTargets =
    { r with
      edge := Function.update r.edge e ((r.edge e).setEdges id newTargets)
      dirty := r.dirty ++ r.edgeDirty e id newTargets } := rfl

theorem applyEdges_list (eff : T.Effects) (edges : List T.Edge) (hn : edges.Nodup) :
    edges.foldl (fun r e => match eff.edge e with
      | some newTargets => r.setEdges e id newTargets
      | none => r) r =
    { r with
      edge := fun e => if e ∈ edges then
          match eff.edge e with
          | some newTargets => (r.edge e).setEdges id newTargets
          | none => r.edge e
        else r.edge e
      dirty := r.dirty ++ edges.flatMap (fun e =>
        match eff.edge e with
        | some newTargets => r.edgeDirty e id newTargets
        | none => []) } := by
  induction edges generalizing r with
  | nil => simp
  | cons e edges ih =>
    obtain ⟨hnot,hn⟩ := nodup_cons.mp hn
    rw [foldl_cons]
    cases he : eff.edge e with
    | none =>
      simp only
      rw [ih hn,flatMap_cons]
      simp only [he,nil_append]
      congr 1
      funext e'
      by_cases hee : e' = e
      · subst hee
        simp [hnot,he]
      · simp [hee]
    | some newTargets =>
      simp only
      rw [ih hn,setEdges_eq]
      congr 1
      · funext e'
        by_cases hee : e' = e
        · subst hee
          simp [hnot,he]
        · simp [hee]
      · simp only [flatMap_cons,he,append_assoc]
        congr 2
        refine flatMap_congr (fun e' h' => ?_)
        have hne : e' ≠ e := by
          rintro rfl
          exact hnot h'
        simp only [edgeDirty,Function.update_of_ne hne]

theorem applyEdges_eq [T.Lawful] : r.applyEdges k id eff =
    { r with
      edge := r.edgeAfter (.inl k) id eff
      dirty := r.dirty ++ r.edgesDirty (.inl k) id eff } := by
  refine (applyEdges_list _ _ (Schema.Lawful.edges_nodup.filter _)).trans ?_
  congr 1
  funext e
  simp [edgeAfter,Schema.Lawful.edges_mem]

/-- The effects of a node that disappears. -/
def noTargets : T.Effects := ⟨fun _ => none,fun _ => some [],[],[],false⟩

theorem clearEdges_eq [T.Lawful] {k : T.Kind} : r.clearEdges k id =
    { r with
      edge := r.edgeAfter k id noTargets
      dirty := r.dirty ++ r.edgesDirty k id noTargets } := by
  refine (applyEdges_list noTargets _ (Schema.Lawful.edges_nodup.filter _)).trans ?_
  congr 1
  funext e
  simp [edgeAfter,Schema.Lawful.edges_mem,noTargets]

/-- The router after the effects of a node that stays. -/
def stay (r : Router T) (k : T.Sm) (id : Nat) (eff : T.Effects) : Router T :=
  { r with
    out := r.outAfter (.inl k) id eff
    edge := r.edgeAfter (.inl k) id eff
    dirty := r.dirty ++ (r.signalDirty (.inl k) id eff ++ r.edgesDirty (.inl k) id eff)
    pendingEvents := r.pendingEvents ++ eff.events
    pendingCreates := r.pendingCreates ++ eff.creates }

theorem applyEffects_eq [T.Lawful] (h : r.HasState (.inl k) id) : r.applyEffects k id eff =
    if eff.selfDestruct then (r.stay k id eff).destroySm k id else r.stay k id eff := by
  have base : ({ r with pendingCreates := r.pendingCreates ++ eff.creates }.applySignals k id
      eff).applyEdges k id eff = { r.stay k id eff with pendingEvents := r.pendingEvents } := by
    rw [applySignals_eq (r := { r with pendingCreates := r.pendingCreates ++ eff.creates }) h,
      applyEdges_eq]
    simp only [stay,← append_assoc]
    rfl
  unfold applyEffects
  simp only [base]
  rfl

/-- Node `source` has `target` in its list for edge `e`. -/
def link (r : Router T) (e : T.Edge) (source target : Nat) : Prop :=
  target ∈ (r.edge e).targets source

theorem mem_sources_iff : source ∈ (r.edge e).sources t ↔ r.link e source t :=
  EdgeMap.mem_sources

theorem link_edgeAfter {k : T.Kind} : t ∈ (r.edgeAfter k id eff e).targets source ↔
      if T.src e = k ∧ source = id then (eff.edge e).elim (r.link e source t) (t ∈ ·)
      else r.link e source t := by
  unfold edgeAfter link
  by_cases hk : T.src e = k
  · by_cases hs : source = id
    · subst hs
      cases eff.edge e with
      | none => simp
      | some l => simp [hk,EdgeMap.mem_setEdges_self]
    · cases eff.edge e with
      | none => simp [hs]
      | some l => simp [hk,hs,EdgeMap.setEdges_other hs]
  · simp [hk]

theorem mem_edgeInputs [T.Lawful] : i ∈ edgeInputs e ↔ ∃ s, (e,s) ∈ T.sources i := by
  simp [edgeInputs,Schema.Lawful.inputs_mem]

theorem mem_readers [T.Lawful] : (i,t) ∈ r.readers s id ↔
    ∃ e, (e,s) ∈ T.sources i ∧ r.link e id t := by
  simp only [readers,mem_flatMap,mem_filter,mem_map,link,decide_eq_true_eq]
  constructor
  · rintro ⟨i',_,⟨e,s'⟩,⟨hm,rfl⟩,t',ht,h⟩
    cases h
    exact ⟨e,hm,ht⟩
  · rintro ⟨e,hm,ht⟩
    exact ⟨i,Schema.Lawful.inputs_mem i,(e,s),⟨hm,rfl⟩,t,ht,rfl⟩

theorem mem_signalDirty [T.Lawful] {k : T.Kind} : (i,t) ∈ r.signalDirty k id eff ↔
    ∃ s value, T.node s = k ∧ eff.signal s = some value ∧ r.out s id ≠ some value ∧
      ∃ e, (e,s) ∈ T.sources i ∧ r.link e id t := by
  simp only [signalDirty,mem_flatMap,mem_filter,Schema.Lawful.signals_mem,true_and,
    decide_eq_true_eq]
  constructor
  · rintro ⟨s,hk,h⟩
    cases he : eff.signal s with
    | none => simp [he] at h
    | some value =>
      by_cases hv : r.out s id = some value
      · simp [he,hv] at h
      · simp only [he,if_neg hv] at h
        exact ⟨s,value,hk,he,hv,mem_readers.mp h⟩
  · rintro ⟨s,value,hk,he,hv,h⟩
    refine ⟨s,hk,?_⟩
    simp only [he,if_neg hv]
    exact mem_readers.mpr h

theorem mem_edgesDirty [T.Lawful] {k : T.Kind} : (i,t) ∈ r.edgesDirty k id eff ↔
    ∃ e l, T.src e = k ∧ eff.edge e = some l ∧ ¬ (r.link e id t ↔ t ∈ l) ∧
      ∃ s, (e,s) ∈ T.sources i := by
  simp only [edgesDirty,mem_flatMap,mem_filter,Schema.Lawful.edges_mem,true_and,decide_eq_true_eq]
  constructor
  · rintro ⟨e,hk,h⟩
    cases he : eff.edge e with
    | none => simp [he] at h
    | some l =>
      simp only [he,edgeDirty,mem_flatMap,mem_map] at h
      obtain ⟨t',ht,i',hi,heq⟩ := h
      cases heq
      exact ⟨e,l,hk,he,EdgeMap.mem_changed.mp ht,mem_edgeInputs.mp hi⟩
  · rintro ⟨e,l,hk,he,ht,hi⟩
    refine ⟨e,hk,?_⟩
    simp only [he,edgeDirty,mem_flatMap,mem_map]
    exact ⟨t,EdgeMap.mem_changed.mpr ht,i,mem_edgeInputs.mpr hi,rfl⟩

end Router

end Distvirt.SmRouter
