import Distvirt.SmRouter.Writes

/-! What the ports are told. A propagation changes the snapshots and the queue of a port only
when it serves an incremental input, and what it then appends is the difference between two
snapshots. -/

namespace Distvirt.SmRouter

open List Function

section lookup
variable {V : Type} [BEq K] [LawfulBEq K]

/-- The entries of a snapshot as a map. -/
abbrev entries (l : List (Nat × V)) (x : Nat) : Option V := l.lookup x

theorem lookup_of_mem {l : List (K × V)} (hn : (l.map Prod.fst).Nodup) {id : K} (h : (id,v) ∈ l) :
    l.lookup id = some v := by
  induction l with
  | nil => cases h
  | cons a l ih =>
    obtain ⟨hnot,hn⟩ := nodup_cons.mp hn
    rcases mem_cons.mp h with rfl | h
    · simp
    · have hne : id ≠ a.1 := by
        rintro rfl
        exact hnot (mem_map.mpr ⟨_,h,rfl⟩)
      rw [lookup_cons,beq_false_of_ne hne]
      exact ih hn h

theorem mem_of_lookup {l : List (K × V)} {id : K} (h : l.lookup id = some v) : (id,v) ∈ l := by
  induction l with
  | nil => cases h
  | cons a l ih =>
    rw [lookup_cons] at h
    split at h
    · rename_i heq
      cases h
      rw [beq_iff_eq.mp heq]
      exact mem_cons_self
    · exact mem_cons_of_mem _ (ih h)

end lookup

section diff
variable {V O σ : Type} [DecidableEq V] {added removed : Nat → V → Option O}
  {changed : Nat → V → V → Option O} {step : σ → O → σ}

/-- A step, or none. -/
def stepOpt (step : σ → O → σ) (s : σ) (d : Option O) : σ := d.elim s (step s)

theorem foldl_filterMap (f : α → Option O) (l : List α) (s : σ) :
    (l.filterMap f).foldl step s = l.foldl (fun s a => stepOpt step s (f a)) s := by
  induction l generalizing s with
  | nil => rfl
  | cons a l ih =>
    rw [foldl_cons,filterMap_cons]
    cases h : f a with
    | none => exact ih s
    | some d => exact ih (step s d)

/-- What is reported when one entry takes its new value. -/
def setDelta (added : Nat → V → Option O) (changed : Nat → V → V → Option O) (old : Option V)
    (id : Nat) (v : V) : Option O :=
  match old with
  | none => added id v
  | some old => if old ≠ v then changed id old v else none

section keeps
variable {I : (Nat → Option V) → σ → Prop} {current prev : List (Nat × V)}

/-- The entries of the new snapshot are reported one after the other. -/
theorem sets_keep (hc : (current.map Prod.fst).Nodup)
    (set : ∀ m s id v, (∀ x, m x = prev.lookup x ∨ m x = current.lookup x) →
      m id = prev.lookup id → current.lookup id = some v → I m s →
      I (update m id (some v)) (stepOpt step s (setDelta added changed (m id) id v)))
    (l done : List (Nat × V)) (s : σ) (heq : current = done ++ l)
    (h : I (fun x => (done.lookup x).or (prev.lookup x)) s) :
    I (fun x => (current.lookup x).or (prev.lookup x)) (l.foldl (fun s a => stepOpt step s
      (setDelta added changed (prev.lookup a.1) a.1 a.2)) s) := by
  induction l generalizing done s with
  | nil =>
    rw [append_nil] at heq
    subst heq
    exact h
  | cons a l ih =>
    obtain ⟨i,w⟩ := a
    have hdone : ∀ x v, done.lookup x = some v → current.lookup x = some v := by
      intro x v hx
      refine lookup_of_mem hc ?_
      rw [heq]
      exact mem_append_left _ (mem_of_lookup hx)
    have hnot : done.lookup i = none := by
      cases hl : done.lookup i with
      | none => rfl
      | some v =>
        rw [heq,map_append] at hc
        have := (nodup_append.mp hc).2.2 i (mem_map.mpr ⟨_,mem_of_lookup hl,rfl⟩) i (by simp)
        exact absurd rfl this
    refine ih (done ++ [(i,w)]) _ (by simp [heq]) ?_
    have hset := set _ s i w (fun x => ?_) (by simp [hnot]) (lookup_of_mem hc (by simp [heq])) h
    · convert hset using 1
      · funext x
        by_cases hx : x = i
        · subst hx
          simp [lookup_append,hnot]
        · rw [update_of_ne hx,lookup_append,lookup_cons,beq_false_of_ne hx]
          simp
      · simp [hnot]
    · cases hx : done.lookup x with
      | none => simp
      | some v => simp [hdone x v hx]

omit [DecidableEq V] in
/-- The entries of the old snapshot that are gone are reported one after the other. -/
theorem drops_keep (hp : (prev.map Prod.fst).Nodup)
    (drop : ∀ m s id v, (∀ x, m x = prev.lookup x ∨ m x = current.lookup x) →
      m id = some v → current.lookup id = none → I m s →
      I (update m id none) (stepOpt step s (removed id v)))
    (l done : List (Nat × V)) (s : σ) (heq : prev = done ++ l)
    (h : I (fun x => (current.lookup x).or (l.lookup x)) s) :
    I (entries current) (l.foldl (fun s a => stepOpt step s
      (if (current.lookup a.1).isNone then removed a.1 a.2 else none)) s) := by
  induction l generalizing done s with
  | nil => simpa using h
  | cons a l ih =>
    obtain ⟨i,w⟩ := a
    refine ih (done ++ [(i,w)]) _ (by simp [heq]) ?_
    have hnot : l.lookup i = none := by
      cases hl : l.lookup i with
      | none => rfl
      | some v =>
        rw [heq,map_append,map_cons] at hp
        have := (nodup_cons.mp (nodup_append.mp hp).2.1).1
        exact absurd (mem_map.mpr ⟨_,mem_of_lookup hl,rfl⟩) this
    have hm : (fun x => (current.lookup x).or (((i,w) :: l).lookup x)) =
        fun x => (current.lookup x).or (if x = i then some w else l.lookup x) := by
      funext x
      rw [lookup_cons]
      by_cases hx : x = i
      · simp [hx]
      · simp [hx,beq_false_of_ne hx]
    rw [hm] at h
    cases hcur : current.lookup i with
    | some v =>
      convert h using 1
      · funext x
        by_cases hx : x = i
        · subst hx
          simp [hcur]
        · simp [hx]
      · simp [hcur,stepOpt]
    | none =>
      have hdrop := drop _ s i w (fun x => ?_) (by simp [hcur]) hcur h
      · convert hdrop using 1
        · funext x
          by_cases hx : x = i
          · subst hx
            simp [hcur,hnot]
          · simp [hx]
        · simp [hcur]
      · by_cases hx : x = i
        · subst hx
          left
          simp only [hcur,if_true,Option.none_or]
          exact (lookup_of_mem hp (by simp [heq])).symm
        · simp only [hx,if_false]
          cases hx' : current.lookup x with
          | some v => simp
          | none =>
            cases hl : l.lookup x with
            | none => simp
            | some v =>
              left
              simp only [Option.none_or]
              refine (lookup_of_mem hp ?_).symm
              rw [heq]
              exact mem_append_right _ (mem_cons_of_mem _ (mem_of_lookup hl))

/-- A relation between a snapshot and what was made of the reports about it. It is kept by the
reports of a new snapshot if it is kept entry by entry; on the way each entry has its old or its
new value. -/
theorem diff_keeps (hc : (current.map Prod.fst).Nodup) (hp : (prev.map Prod.fst).Nodup)
    (set : ∀ m s id v, (∀ x, m x = prev.lookup x ∨ m x = current.lookup x) →
      m id = prev.lookup id → current.lookup id = some v → I m s →
      I (update m id (some v)) (stepOpt step s (setDelta added changed (m id) id v)))
    (drop : ∀ m s id v, (∀ x, m x = prev.lookup x ∨ m x = current.lookup x) →
      m id = some v → current.lookup id = none → I m s →
      I (update m id none) (stepOpt step s (removed id v))) (h : I (entries prev) s) :
    I (entries current) ((incrementalDiff added removed changed current prev).foldl step s) := by
  rw [incrementalDiff,foldl_append,foldl_filterMap,foldl_filterMap]
  exact drops_keep hp drop prev [] _ rfl (sets_keep hc set current [] s rfl (by simpa using h))

end keeps

end diff

namespace Router

variable {T : Topology} {r r' r₀ : Router T} {t : Nat}

theorem collect_nodup : ((r.collect t e s).map Prod.fst).Nodup := by
  have hsub : ((r.collect t e s).map Prod.fst).Sublist ((r.edge e).sources t) := by
    unfold collect
    generalize (r.edge e).sources t = l
    induction l with
    | nil => exact .slnil
    | cons id l ih =>
      rw [filterMap_cons]
      cases r.out s id with
      | none => exact ih.cons id
      | some value => exact ih.cons_cons id
  exact (((r.edge e).sorted t).imp Nat.ne_of_lt).sublist hsub

theorem lookup_collect {id : Nat} {value : T.Val s} :
    (r.collect t e s).lookup id = some value ↔ r.link e id t ∧ r.out s id = some value := by
  rw [← mem_collect]
  exact ⟨mem_of_lookup,lookup_of_mem collect_nodup⟩

/-- Every snapshot was taken of a set of sources. -/
def SnapshotsNodup (r : Router T) : Prop :=
  ∀ i source t, ((r.prev i source t).map Prod.fst).Nodup

theorem SnapshotsNodup.initState (h : r.SnapshotsNodup) (k : T.Kind) (id : Nat) :
    (r.initState k id).SnapshotsNodup := by
  intro i source t
  simp only [Router.initState]
  split
  · by_cases ht : t = id
    · subst ht
      simp
    · rw [update_of_ne ht]
      exact h i source t
  · exact h i source t

theorem SnapshotsNodup.setSignal (h : r.SnapshotsNodup) {id : Nat} :
    (r.setSignal s id value).SnapshotsNodup := by
  unfold Router.setSignal
  split
  · exact h
  · split
    · exact h.initState _ _
    · exact h

theorem SnapshotsNodup.destroyPort [T.Lawful] (h : r.SnapshotsNodup) (p : T.Port) (id : Nat) :
    (r.destroyPort p id).SnapshotsNodup := by
  intro i source t
  rw [destroyPort_eq]
  simp only [dropState]
  split
  · by_cases ht : t = id
    · subst ht
      simp
    · rw [update_of_ne ht]
      exact h i source t
  · exact h i source t

variable [T.PortFed]

/-- A property of what the ports were told. -/
structure Told (C : Contract T) (r₀ : Router T) (J : Router T → Prop) : Prop where
  same : ∀ r r', r'.queue = r.queue → r'.prev = r.prev → J r → J r'
  report : ∀ r i t, C.Holds [] r → r.SamePorts r₀ → r.ports (T.incPort i) t = true → J r →
    J { r with
      prev := fun i' source t' => if i' = i ∧ source ∈ T.sources (.inr i) ∧ t' = t
        then r.collect t source.1 source.2 else r.prev i' source t'
      queue := r.queue ++ (T.sources (.inr i)).flatMap
        (fun source => (r.deltas i t source).map (fun d => (t,⟨i,d⟩))) }

def toldStages (J : Router T → Prop) : Stages T where
  rest := J
  create _ := J
  wave _ := J
  event _ := J

variable [T.Lawful] {C : Contract T}

omit [T.Lawful] in
theorem spawn_prev : (r.spawn c).prev = r.prev := by
  funext i source
  simp [Router.spawn,initState,Schema.PortFed.incNode_eq]

theorem Told.turn {id : Nat} (h : Told C r₀ J) (hJ : J r) : J (r.turn k id reaction) := by
  refine h.same r _ turn_queue ?_ hJ
  funext i source t
  rw [turn_prev]

theorem Told.kept (h : Told C r₀ J) : (C.stages r₀).KeptUnder (toldStages J) where
  begin r _ hJ := h.same r _ rfl rfl hJ
  again r _ hJ := h.same r _ rfl rfl hJ
  materialize c todo r r' hc hJ hr := by
    obtain ⟨_,rfl⟩ := hc.1.materializeOne_eq hr
    exact h.turn (h.same r (r.spawn c) rfl spawn_prev hJ)
  created r _ hJ _ := h.same r _ rfl rfl hJ
  deliver x todo r hw hJ := by
    obtain ⟨i,t⟩ := x
    cases i with
    | inl b =>
      rcases hw.1.processBatch_cases b t with ⟨heq,_⟩ | ⟨sm,_,_,heq⟩
      · rw [processDirtyInput,heq]
        exact hJ
      · rw [processDirtyInput,heq]
        exact h.turn (h.same r (r.given b t) rfl rfl hJ)
    | inr i =>
      rw [processDirtyInput]
      by_cases hp : r.ports (T.incPort i) t = true
      · rw [processInc_eq hp]
        exact h.report r i t hw.1 hw.2 hp hJ
      · rw [processInc_none hp]
        exact hJ
  delivered r _ hJ := h.same r _ rfl rfl hJ
  send ev todo r r' he hJ hr := by
    rcases he.1.processEvent_cases hr with ⟨rfl,_⟩ | ⟨sm,_,_,rfl⟩
    · exact hJ
    · exact h.turn hJ
  sent r _ hJ := hJ

theorem Told.propagate (h : Told C r J) (hk : C.Kept r) (hr : C.Holds [] r) (hJ : J r)
    (hp : r.propagate = some r') : J r' :=
  ((hk.stages.and h.kept).propagate ⟨⟨hr,.refl⟩,hJ⟩ hp).1.2

omit [T.Lawful] in
theorem snapshotsNodup_told : Told C r₀ SnapshotsNodup where
  same r r' _ hp h i source t := by
    rw [hp]
    exact h i source t
  report r i t _ _ _ h i' source t' := by
    simp only
    split
    · exact collect_nodup
    · exact h i' source t'

end Router

end Distvirt.SmRouter
