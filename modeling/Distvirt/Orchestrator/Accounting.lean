import Distvirt.Orchestrator.Segments
import Mathlib.Tactic.Tauto

/-! The books of the scheduler: every outstanding request is pending or granted, and the pod count
of every worker is the number of leases on it. While decisions are routed, the counts are behind by
the decisions that are left. -/

namespace Distvirt

open SchedulerCore AList
open List hiding count keys mem_keys
open Option hiding toList

/-- In the range of an `i32` counting is exact. -/
theorem changePodCount_exact {count : Nat} {delta : Int} (h : count < 2 ^ 31)
    (hlo : 0 ≤ count + delta) (hhi : count + delta < 2 ^ 31) :
    changePodCount count delta = count + delta := by
  unfold changePodCount
  have hm : 2 ^ 32 = 4294967296 := by decide
  rw [hm]
  simp only [Int.bmod_def]
  omega

namespace SchedulerCore

variable {s : SchedulerCore} {w : WorkerId}

/-- The leases on a worker. -/
def held (s : SchedulerCore) (w : WorkerId) : Nat := s.granted.tally (fun w' => w' = w)

theorem held_le (s : SchedulerCore) (w : WorkerId) : s.held w ≤ s.granted.entries.length :=
  countP_le_length

/-- The requests that are granted come before the old leases. -/
theorem grantAll_entries : ∀ {s : SchedulerCore}, (requests.map Prod.fst).Nodup →
    (∀ e ∈ requests, e.1 ∉ s.granted) → (s.grantAll requests).entries =
      (requests.map (fun e => ⟨e.1,s.pick e.2⟩)).reverse ++ s.granted.entries := by
  induction requests with
  | nil => exact fun _ _ => rfl
  | cons e requests ih =>
    intro s hn hfresh
    obtain ⟨he,hn⟩ := nodup_cons.mp hn
    refine (ih (s := { s with granted := s.granted.insert e.1 (s.pick e.2) }) hn ?_).trans ?_
    · intro e' he' hm
      rcases (mem_insert _).mp hm with heq | hm
      · exact he (heq ▸ mem_map_of_mem he')
      · exact hfresh e' (mem_cons_of_mem _ he') hm
    · rw [entries_insert_of_notMem (hfresh e (mem_cons_self ..)),map_cons,reverse_cons,append_assoc]
      rfl

/-- The selected worker comes first, where the candidates have the ids of their workers. -/
theorem select_first (hid : ∀ w c, s.workers.lookup w = some c → c.workerId = w)
    (h : s.select resume = some w) : ∃ c, s.workers.lookup w = some c ∧ c.eligible = true ∧
      ∀ w' c', s.workers.lookup w' = some c' → c'.eligible = true →
        preference (affinityWorkers resume s.placements) w c.maxPressureBand c.podCount ≤
        preference (affinityWorkers resume s.placements) w' c'.maxPressureBand c'.podCount := by
  obtain ⟨c,hc,rfl,helig,hmin⟩ := select_minimal h
  obtain ⟨w,hw⟩ := mem_candidates.mp hc
  refine ⟨c,by rwa [hid w c hw],helig,fun w' c' hc' helig' => ?_⟩
  rw [← hid w' c' hc']
  exact hmin c' (mem_candidates.mpr ⟨w',hc'⟩) helig'

end SchedulerCore

namespace OrchestratorCore

/-- What the decisions that are left will add to the count of a worker. -/
def owed (ds : List Decision) (w : WorkerId) : Int :=
  (ds.map (fun d => if d.workerId = w then d.delta else 0)).sum

@[simp] theorem owed_nil (w : WorkerId) : owed [] w = 0 := rfl

@[simp] theorem owed_cons (d : Decision) (ds : List Decision) (w : WorkerId) :
    owed (d :: ds) w = (if d.workerId = w then d.delta else 0) + owed ds w := by
  simp [owed]

@[simp] theorem owed_append (ds ds' : List Decision) (w : WorkerId) :
    owed (ds ++ ds') w = owed ds w + owed ds' w := by
  simp [owed]

theorem owed_nonneg (h : ∀ d ∈ ds, d.delta = 1) (w : WorkerId) : 0 ≤ owed ds w := by
  induction ds with
  | nil => exact Int.le_refl 0
  | cons d ds ih =>
    have rest := ih (fun d' hd' => h d' (mem_cons_of_mem _ hd'))
    rw [owed_cons,h d (mem_cons_self ..)]
    split <;> omega

theorem owed_grants (s : SchedulerCore) (requests : List (PodKey × Option ArtifactId))
    (w : WorkerId) : owed (s.grants requests) w = requests.countP (fun e => s.pick e.2 = w) := by
  induction requests with
  | nil => rfl
  | cons e requests ih =>
    have first : owed (s.grants (e :: requests)) w =
        (if s.pick e.2 = w then 1 else 0) + owed (s.grants requests) w :=
      owed_cons (.grant e.1 (s.pick e.2)) (s.grants requests) w
    rw [first,ih,countP_cons]
    simp only [decide_eq_true_eq]
    split <;> omega

/-- The books, for the keys that are outstanding and the workers that ever connected. -/
structure Books (live : PodKey → Prop) (seen : WorkerId → Prop) (core : OrchestratorCore)
    (ds : List Decision) : Prop where
  keys : ∀ k, k ∈ core.scheduler.pending ∨ k ∈ core.scheduler.granted ↔ live k
  exclusive : ∀ k ∈ core.scheduler.pending, k ∉ core.scheduler.granted
  candidates : ∀ w, core.scheduler.workers.lookup w =
    (core.workerState.workers.lookup w).map (fun state => state.toCandidate w)
  counts : ∀ w state, core.workerState.workers.lookup w = some state →
    state.podCount + owed ds w = core.scheduler.held w
  small : core.scheduler.pending.entries.length + core.scheduler.granted.entries.length < 2 ^ 31
  leased : ∀ k w, core.scheduler.granted.lookup k = some w → seen w
  tracked : ∀ w ∈ core.workerState.workers, seen w
  present : ∀ w ∈ core.connectedWorkers, w ∈ core.workerState.workers

namespace Books

variable {live : PodKey → Prop} {seen : WorkerId → Prop} {core : OrchestratorCore}
  {ds : List Decision} {w : WorkerId} {state : TrackedWorkerStateCore}

theorem candidate_id (h : Books live seen core ds) (w : WorkerId) (c : WorkerCandidate)
    (hc : core.scheduler.workers.lookup w = some c) : c.workerId = w := by
  rw [h.candidates] at hc
  obtain ⟨state,_,rfl⟩ := map_eq_some_iff.mp hc
  rfl

/-- A selected worker is a tracked one. -/
theorem selected (h : Books live seen core ds) (hs : core.scheduler.select resume = some w) :
    w ∈ core.workerState.workers := by
  obtain ⟨c,hc,-⟩ := select_first h.candidate_id hs
  rw [h.candidates] at hc
  obtain ⟨state,hstate,-⟩ := map_eq_some_iff.mp hc
  exact mem_iff.mpr ⟨state,hstate⟩

theorem retry (h : Books live seen core ds) :
    Books live seen { core with scheduler := core.scheduler.retryPending.1 }
      (core.scheduler.retryPending.2 ++ ds) := by
  by_cases ho : core.scheduler.Open
  · have hentries := grantAll_entries (map_fst_toList core.scheduler.pending ▸ keys_nodup _)
      (fun e he => h.exclusive e.1 (mem_iff.mpr ⟨e.2,mem_toList.mp he⟩))
    rw [retryPending_open ho]
    refine { h with
      keys := fun k => ?_, exclusive := fun k hk => absurd hk (notMem_empty k)
      counts := fun w state hs => ?_, small := ?_, leased := fun k w hk => ?_ }
    · rw [mem_grantAll,map_fst_toList,← mem_keys,← h.keys k]
      simp [or_comm]
    · have := h.counts w state hs
      simp only [held,tally,hentries,countP_append,countP_reverse,countP_map,owed_append,
        owed_grants,Function.comp_def] at this ⊢
      omega
    · have hzero : (∅ : Table PodKey (Option ArtifactId)).entries.length = 0 := rfl
      have := h.small
      rw [hentries,hzero]
      simp only [length_append,length_reverse,length_map,toList]
      omega
    · have hk := mem_lookup_iff.mp hk
      rw [hentries,mem_append,mem_reverse] at hk
      rcases hk with hk | hk
      · obtain ⟨e,_,he⟩ := List.mem_map.mp hk
        cases he
        exact h.tracked _ (h.selected (select_pick ho _))
      · exact h.leased k w (mem_lookup_iff.mpr hk)
  · rw [retryPending_closed ho]
    exact h

/-- The count of one worker is written, and the scheduler told of it. -/
theorem told (h : Books live seen core ds) (hw : seen w)
    (hs : ws.workers = core.workerState.workers.insert w state)
    (hconnected : ∀ w' ∈ connected, w' = w ∨ w' ∈ core.connectedWorkers)
    (hothers : ∀ w', w' ≠ w → owed ds' w' = owed ds w')
    (hcount : state.podCount + owed ds' w = core.scheduler.held w) :
    Books live seen { core with
        connectedWorkers := connected
        workerState := ws
        scheduler := (core.scheduler.process (.workerUpdate w (state.toCandidate w))).1 }
      ((core.scheduler.process (.workerUpdate w (state.toCandidate w))).2.decisions ++ ds') := by
  suffices books : Books live seen { core with
      connectedWorkers := connected
      workerState := ws
      scheduler.workers := core.scheduler.workers.insert w (state.toCandidate w) } ds' from books.retry
  refine ⟨h.keys,h.exclusive,fun w' => ?_,fun w' state' hl => ?_,h.small,h.leased,
    fun w' hw' => ?_,fun w' hw' => ?_⟩
  · simp only [hs,lookup_insert_if,h.candidates]
    split
    · subst w'
      rfl
    · rfl
  · rw [hs] at hl
    rcases insert_cases hl with ⟨rfl,rfl⟩ | ⟨hne,hl⟩
    · exact hcount
    · rw [hothers w' hne]
      exact h.counts w' state' hl
  · rw [hs,mem_insert] at hw'
    rcases hw' with rfl | hw'
    · exact hw
    · exact h.tracked w' hw'
  · rw [hs,mem_insert]
    exact (hconnected w' hw').imp_right (h.present w')

theorem unseen (h : Books live seen core ds) (hw : ¬ seen w) : core.scheduler.held w = 0 := by
  rw [held,tally,countP_eq_zero]
  intro e he
  have := h.leased e.1 e.2 (mem_lookup_iff.mpr he)
  simp only [decide_eq_true_eq]
  rintro rfl
  exact hw this

end Books

/-- The artifact that the pod of a request resumes from. -/
def wanted (call : SchedulerCore × SchedulerCoreInput) (key : PodKey) : Option ArtifactId :=
  match call.2 with
  | .requestLease _ resumeArtifact => resumeArtifact
  | _ => (call.1.pending.lookup key).getD none

/-- How a worker is rated when a pod is granted after the decisions `earlier` of the same call,
with all the pods granted so far. -/
def rate (call : SchedulerCore × SchedulerCoreInput) (earlier : List Decision) (key : PodKey)
    (w : WorkerId) (c : WorkerCandidate) : Nat ×ₗ Nat ×ₗ Nat ×ₗ Nat :=
  preference (affinityWorkers (wanted call key) call.1.placements) w c.maxPressureBand
    (call.1.held w + earlier.countP (fun d => d.workerId = w))

/-- Every grant of a call of the scheduler goes to an eligible worker that comes first. -/
def Best (call : SchedulerCore × SchedulerCoreInput) : Prop :=
  ∀ earlier key w later,
    (call.1.process call.2).2.decisions = earlier ++ .grant key w :: later →
    ∃ c, (call.1.process call.2).1.workers.lookup w = some c ∧ c.eligible = true ∧
      ∀ w' c', (call.1.process call.2).1.workers.lookup w' = some c' → c'.eligible = true →
        rate call earlier key w c ≤ rate call earlier key w' c'

theorem best_of_no_grant {s : SchedulerCore} {input : SchedulerCoreInput}
    (h : ∀ key w, .grant key w ∉ (s.process input).2.decisions) : Best (s,input) := by
  intro earlier key w later hd
  refine absurd ?_ (h key w)
  rw [hd]
  simp

/-- The candidates have the counts of the books. -/
theorem request_best (h : Books live seen core []) (key : PodKey) (resume : Option ArtifactId) :
    Best (core.scheduler,.requestLease key resume) := by
  intro earlier key' w later hd
  simp only [SchedulerCore.process] at hd ⊢
  cases hsel : core.scheduler.select resume with
  | none => simp [hsel] at hd
  | some w₁ =>
    simp only [hsel] at hd ⊢
    obtain ⟨rfl,hw⟩ : earlier = [] ∧ w₁ = w := by
      cases earlier with
      | nil => simp_all
      | cons d earlier => simp at hd
    subst hw
    have counted : ∀ w c, core.scheduler.workers.lookup w = some c →
        c.podCount = core.scheduler.held w := by
      intro w c hc
      rw [h.candidates] at hc
      obtain ⟨state,hstate,rfl⟩ := map_eq_some_iff.mp hc
      have := h.counts w state hstate
      rw [owed_nil] at this
      simp only [TrackedWorkerStateCore.toCandidate]
      omega
    obtain ⟨c,hw,helig,hmin⟩ := select_first h.candidate_id hsel
    refine ⟨c,hw,helig,fun w' c' hc' helig' => ?_⟩
    have := hmin w' c' hc' helig'
    rwa [counted w₁ c hw,counted w' c' hc'] at this

/-- If requests wait, no other worker is eligible. -/
theorem update_best {s : SchedulerCore} (hs : s.Conserving) (hc : c.workerId = w)
    (hid : ∀ w' c', s.workers.lookup w' = some c' → c'.workerId = w') :
    Best (s,.workerUpdate w c) := by
  intro earlier key w₁ later hd
  simp only [SchedulerCore.process] at hd ⊢
  by_cases ho : ({ s with workers := s.workers.insert w c } : SchedulerCore).Open
  · rw [retryPending_open ho] at hd ⊢
    simp only at hd ⊢
    have hm : Decision.grant key w₁ ∈ grants
        { s with workers := s.workers.insert w c } s.pending.toList := by
      rw [hd]
      simp
    obtain ⟨e,he,heq⟩ := mem_map.mp hm
    cases heq
    have closed : ¬ s.Open := by
      refine hs (fun hnil => ?_)
      rw [toList,hnil] at he
      cases he
    have only : ∀ w' c', (s.workers.insert w c).lookup w' = some c' → c'.eligible = true →
        w' = w ∧ c' = c := by
      intro w' c' hl helig
      rcases insert_cases hl with heq | ⟨_,hl⟩
      · exact heq
      · exact absurd ⟨c',mem_candidates.mpr ⟨w',hl⟩,helig⟩ closed
    have ids : ∀ w' c', (s.workers.insert w c).lookup w' = some c' → c'.workerId = w' := by
      intro w' c' hl
      rcases insert_cases hl with ⟨rfl,rfl⟩ | ⟨_,hl⟩
      · exact hc
      · exact hid w' c' hl
    obtain ⟨c₁,hw₁,helig,_⟩ := select_first ids (select_pick ho e.2)
    refine ⟨c₁,hw₁,helig,fun w' c' hc' helig' => ?_⟩
    rw [(only w' c' hc' helig').1,(only w' c' hc' helig').2,(only _ c₁ hw₁ helig).1,
      (only _ c₁ hw₁ helig).2]
  · rw [retryPending_closed ho] at hd
    simp at hd

/-- The decisions that are left are grants, or one revocation of what there was room for. -/
def Uniform (s : SchedulerCore) (ds : List Decision) : Prop :=
  (∀ d ∈ ds, d.delta = 1) ∨ (∃ key w, ds = [.revoke key w]) ∧
    s.pending.entries.length + s.granted.entries.length + 1 < 2 ^ 31

/-- The books in the middle of a call, and how the scheduler was called so far. -/
structure Level (live : PodKey → Prop) (seen : WorkerId → Prop) (r : Routed)
    (ds : List Decision) : Prop extends Books live seen r.1 ds where
  uniform : Uniform r.1.scheduler ds
  conserving : r.1.scheduler.Conserving
  best : ∀ call ∈ r.2.schedulerCalls, Best call

namespace Level

variable {core : OrchestratorCore} {a : Routed}
  {d : Decision} {w : WorkerId} {state : TrackedWorkerStateCore}

theorem grants_retry (s : SchedulerCore) : ∀ d ∈ s.retryPending.2, d.delta = 1 := by
  by_cases ho : s.Open
  · rw [retryPending_open ho]
    intro d hd
    obtain ⟨e,_,rfl⟩ := mem_map.mp hd
    rfl
  · rw [retryPending_closed ho]
    simp

theorem recompute_podCount (state : TrackedWorkerStateCore) :
    state.recomputePressureFromPsi.podCount = state.podCount := by
  unfold TrackedWorkerStateCore.recomputePressureFromPsi
  cases state.psi with
  | none => rfl
  | some psi => rfl

theorem counted_podCount : (counted state d).podCount = changePodCount state.podCount d.delta := by
  unfold counted
  generalize changePodCount state.podCount d.delta = count
  exact recompute_podCount _

/-- One more call is made well. -/
theorem best_snoc (h : Level live seen a ds) {call : SchedulerCore × SchedulerCoreInput}
    (hb : Best call) : ∀ c ∈ a.2.schedulerCalls ++ [call], Best c :=
  forall_mem_append.mpr ⟨h.best,forall_mem_singleton.mpr hb⟩

/-- The count of a worker is written after the decisions up to `ds'`. -/
theorem told (h : Level live seen (c,output) ds) (hw : seen w)
    (hs : s.workers = c.workerState.workers.insert w x)
    (hconnected : ∀ w' ∈ connected, w' = w ∨ w' ∈ c.connectedWorkers)
    (hothers : ∀ w', w' ≠ w → owed ds' w' = owed ds w')
    (hcount : x.podCount + owed ds' w = c.scheduler.held w) (rest : ∀ d ∈ ds', d.delta = 1) :
    Level live seen (afterInput ({ c with
        connectedWorkers := connected, workerState := s },output)
        (.workerUpdate w (x.toCandidate w)))
      ((c.scheduler.process (.workerUpdate w (x.toCandidate w))).2.decisions ++ ds') :=
  ⟨h.toBooks.told hw hs hconnected hothers hcount,
    .inl (forall_mem_append.mpr ⟨grants_retry _,rest⟩),h.conserving.process _,
    h.best_snoc (update_best h.conserving rfl h.candidate_id)⟩

theorem settled (h : Level live seen a (d :: ds)) :
    Level live seen (settle a d).1 ((settle a d).2 ++ ds) := by
  have others : ∀ w, w ≠ d.workerId → owed ds w = owed (d :: ds) w := by
    intro w hw
    rw [owed_cons,if_neg (fun heq => hw heq.symm),Int.zero_add]
  have rest : ∀ d' ∈ ds, d'.delta = 1 := by
    rcases h.uniform with hg | ⟨⟨key,w,heq⟩,-⟩
    · exact fun d' hd' => hg d' (mem_cons_of_mem _ hd')
    · cases heq
      simp
  simp only [settle]
  cases hw : a.1.workerState.workers.lookup d.workerId with
  | none =>
    refine { h with counts := fun w state hs => ?_, uniform := .inl rest }
    rw [nil_append,others w (by rintro rfl; rw [hw] at hs; cases hs)]
    exact h.counts w state hs
  | some state =>
    have behind := h.counts d.workerId state hw
    rw [owed_cons,if_pos rfl] at behind
    have counted_eq : ((counted state d).podCount : Int) = state.podCount + d.delta := by
      have held := a.1.scheduler.held_le d.workerId
      have small := h.small
      have nonneg := owed_nonneg rest d.workerId
      rw [counted_podCount]
      rcases h.uniform with hg | ⟨⟨key,w,heq⟩,room⟩
      · rw [hg d (mem_cons_self ..)] at behind ⊢
        exact changePodCount_exact (by omega) (by omega) (by omega)
      · cases heq
        rw [owed_nil] at behind
        have hdelta : (Decision.revoke key w).delta = -1 := rfl
        rw [hdelta] at behind ⊢
        exact changePodCount_exact (by omega) (by omega) (by omega)
    refine h.told (c := a.1) (x := counted state d) (h.tracked _ (mem_iff.mpr ⟨state,hw⟩))
      (s := { a.1.workerState with workers := _ }) rfl (fun _ => .inr) others ?_ rest
    rw [counted_eq]
    omega

variable {input : SchedulerCoreInput}

/-- The decisions of one call of the scheduler are routed to the end. -/
theorem route (hr : toScheduler a input = some b)
    (h : Level live seen (afterInput a input) (a.1.scheduler.process input).2.decisions) :
    Level live seen b [] := by
  refine toScheduler_rule (P := fun r ds => Level live seen r ds) (D := fun _ => True)
    (fun _ _ _ _ => trivial) (fun r d ds hp => hp.settled) (fun r d ds _ hp => ?_)
    (fun r effects hp => ?_) h hr
  · exact { hp with }
  · exact { hp with }

/-- A call of the scheduler that was made well leaves the level to be routed. -/
theorem called (h : Level live seen a [])
    (hbooks : Books live' seen (afterInput a input).1 (a.1.scheduler.process input).2.decisions)
    (huniform : Uniform (a.1.scheduler.process input).1 (a.1.scheduler.process input).2.decisions)
    (hbest : Best (a.1.scheduler,input)) :
    Level live' seen (afterInput a input) (a.1.scheduler.process input).2.decisions :=
  ⟨hbooks,huniform,h.conserving.process input,h.best_snoc hbest⟩

/-- A request of a new key. -/
theorem request (h : Level live seen a []) (hnew : ¬ live key)
    (hroom : a.1.scheduler.pending.entries.length + a.1.scheduler.granted.entries.length + 1 <
      2 ^ 31) (hr : toScheduler a (.requestLease key resume) = some b) :
    Level (fun k => live k ∨ k = key) seen b [] := by
  have hpending : key ∉ a.1.scheduler.pending := fun hk => hnew ((h.keys key).mp (.inl hk))
  have hgranted : key ∉ a.1.scheduler.granted := fun hk => hnew ((h.keys key).mp (.inr hk))
  refine route hr (h.called ?_ ?_ (request_best h.toBooks key resume))
  · simp only [afterInput,SchedulerCore.process]
    cases hsel : a.1.scheduler.select resume with
    | some w =>
      refine { h with
        keys := fun k => ?_, exclusive := fun k hk hk' => ?_, counts := fun w' state hs => ?_
        small := ?_, leased := fun k w' hk => ?_ }
      · rw [mem_insert,← h.keys k]
        tauto
      · rcases (mem_insert _).mp hk' with rfl | hk'
        · exact hpending hk
        · exact h.exclusive k hk hk'
      · have := h.counts w' state hs
        simp only [SchedulerCore.held,tally_insert hgranted,decide_eq_true_eq,owed_nil,owed_cons,
          Decision.workerId,Decision.delta] at this ⊢
        grind
      · rw [entries_insert_of_notMem hgranted,length_cons]
        omega
      · rcases insert_cases hk with ⟨_,rfl⟩ | ⟨_,hk⟩
        · exact h.tracked _ (h.selected hsel)
        · exact h.leased k w' hk
    | none =>
      refine { h with keys := fun k => ?_, exclusive := fun k hk hk' => ?_, small := ?_ }
      · rw [mem_insert,← h.keys k]
        tauto
      · rcases (mem_insert _).mp hk with rfl | hk
        · exact hgranted hk'
        · exact h.exclusive k hk hk'
      · simp only [entries_insert_of_notMem hpending,length_cons]
        omega
  · simp only [SchedulerCore.process]
    cases a.1.scheduler.select resume with
    | some w => exact .inl (by simp [Decision.delta])
    | none => exact .inl (by simp)

theorem drop (h : Level live seen a []) (hr : toScheduler a (.dropRequest key) = some b) :
    Level (fun k => live k ∧ k ≠ key) seen b [] := by
  have small := h.small
  refine route hr ?_
  cases hg : a.1.scheduler.granted.lookup key with
  | some w =>
    have hgranted : key ∈ a.1.scheduler.granted := mem_iff.mpr ⟨w,hg⟩
    have hpending : key ∉ a.1.scheduler.pending := fun hk => h.exclusive key hk hgranted
    have hproc : a.1.scheduler.process (.dropRequest key) = ({ a.1.scheduler with
        granted := a.1.scheduler.granted.erase key },{ decisions := [.revoke key w] }) := by
      simp only [SchedulerCore.process,hg]
    have hlen : a.1.scheduler.granted.entries.length =
        (a.1.scheduler.granted.erase key).entries.length + 1 := by
      simpa [toList] using (toList_erase_perm hg).length_eq
    refine h.called ?_ ?_ (best_of_no_grant (by simp [hproc])) <;> simp only [afterInput,hproc]
    · refine { h with
        keys := fun k => ?_, exclusive := fun k hk hk' => ?_, counts := fun w' state hs => ?_
        small := ?_, leased := fun k w' hk => ?_ }
      · rw [mem_erase,← h.keys k]
        by_cases hk : k = key
        · simp [hk,hpending]
        · simp [hk]
      · exact h.exclusive k hk (mem_erase.mp hk').2
      · have := h.counts w' state hs
        have htally := tally_erase (p := fun w => decide (w = w')) hg
        simp only [SchedulerCore.held,decide_eq_true_eq,owed_nil,owed_cons,Decision.workerId,
          Decision.delta] at this htally ⊢
        grind
      · simp only
        omega
      · exact h.leased k w' (erase_cases hk).2
    · exact .inr ⟨⟨key,w,rfl⟩,by simp only; omega⟩
  | none =>
    have hproc : a.1.scheduler.process (.dropRequest key) = ({ a.1.scheduler with
        pending := a.1.scheduler.pending.erase key },{}) := by
      simp only [SchedulerCore.process,hg]
    refine h.called ?_ ?_ (best_of_no_grant (by simp [hproc])) <;> simp only [afterInput,hproc]
    · refine { h with keys := fun k => ?_, exclusive := fun k hk => ?_, small := ?_ }
      · have hgranted : key ∉ a.1.scheduler.granted := lookup_eq_none.mp hg
        rw [mem_erase,← h.keys k]
        by_cases hk : k = key
        · simp [hk,hgranted]
        · simp [hk]
      · exact h.exclusive k (mem_erase.mp hk).2
      · have hlen : (a.1.scheduler.pending.erase key).entries.length ≤
            a.1.scheduler.pending.entries.length := (kerase_sublist key _).length_le
        simp only
        omega
    · exact .inl (forall_mem_nil _)

/-- What concerns neither requests nor workers. -/
theorem aside (h : Level live seen a [])
    (hp : (a.1.scheduler.process input).1 = { a.1.scheduler with
      placements := (a.1.scheduler.process input).1.placements
      artifactRefs := (a.1.scheduler.process input).1.artifactRefs })
    (hd : (a.1.scheduler.process input).2.decisions = [])
    (hr : toScheduler a input = some b) : Level live seen b [] := by
  refine route hr (h.called ?_ ?_ (best_of_no_grant (by simp [hd])))
  · rw [afterInput,hp,hd]
    exact { h with }
  · rw [hd]
    exact .inl (forall_mem_nil _)

/-- The state of one worker is written, and the scheduler told. -/
theorem written (h : Level live seen (c,output) [])
    (hr : toWorkerState ({ c with connectedWorkers := connected },output) event = some b) (hw : seen w)
    (hconnected : ∀ w' ∈ connected, w' = w ∨ w' ∈ c.connectedWorkers)
    (hs : (c.workerState.process event).1.workers = c.workerState.workers.insert w state)
    (hu : (c.workerState.process event).2.schedulerUpdates =
      [.workerUpdate w (state.toCandidate w)])
    (hcount : state.podCount = c.scheduler.held w) : Level live seen b [] := by
  obtain ⟨mid,rfl,⟨hnone,_⟩ | ⟨update,_,hupdate,hr⟩⟩ := toWorkerState_some hr
  · cases hu.symm.trans hnone
  · cases hu.symm.trans hupdate
    have routed : Level live seen mid [] := by
      have := h.told hw hs hconnected (fun _ _ => rfl) (by simp [hcount]) (forall_mem_nil _)
      rw [append_nil] at this
      exact route hr this
    exact { routed with }

/-- The scheduler is not told, since nothing it knows changes. -/
theorem unnoticed (h : Level live seen a [])
    (hr : toWorkerState a event = some b)
    (hu : (a.1.workerState.process event).2.schedulerUpdates = [])
    (hs : ∀ w, ((a.1.workerState.process event).1.workers.lookup w).map
        (fun state => (state.toCandidate w)) =
      (a.1.workerState.workers.lookup w).map (fun state => state.toCandidate w)) :
    Level live seen b [] := by
  obtain ⟨mid,rfl,⟨_,rfl⟩ | ⟨update,_,hupdate,_⟩⟩ := toWorkerState_some hr
  · have hm : ∀ w, w ∈ (a.1.workerState.process event).1.workers ↔ w ∈ a.1.workerState.workers := by
      intro w
      rw [← lookup_isSome,← isSome_map,hs,isSome_map,lookup_isSome]
    refine { h with
      candidates := fun w => (h.candidates w).trans (hs w).symm, counts := fun w state hw => ?_
      tracked := fun w hw => h.tracked w ((hm w).mp hw)
      present := fun w hw => (hm w).mpr (h.present w hw) }
    have hw : (a.1.workerState.process event).1.workers.lookup w = some state := hw
    have := hs w
    rw [hw,map_some] at this
    obtain ⟨state',hw',heq⟩ := map_eq_some_iff.mp this.symm
    have hcount : state'.podCount = state.podCount := congrArg WorkerCandidate.podCount heq
    rw [← hcount]
    exact h.counts w state' hw'
  · cases hu.symm.trans hupdate

theorem congr (h : Level live seen a ds) (hl : ∀ k, live k ↔ live' k) (hs : ∀ w, seen w → seen' w) :
    Level live' seen' a ds :=
  { h with
    keys := fun k => (h.keys k).trans (hl k)
    leased := fun k w hk => hs w (h.leased k w hk)
    tracked := fun w hw => hs w (h.tracked w hw) }

/-- Other outputs do not matter. -/
theorem other (r r' : Routed) (hs : SameScheduling r r') (h : Level live seen r []) :
    Level live seen r' [] := by
  refine ⟨⟨?_,?_,?_,?_,?_,?_,?_,?_⟩,?_,?_,?_⟩ <;>
    simp only [hs.scheduler,hs.workerState,hs.connectedWorkers,hs.schedulerCalls]
  exacts [h.keys,h.exclusive,h.candidates,h.counts,h.small,h.leased,h.tracked,h.present,h.uniform,
    h.conserving,h.best]

theorem updated (h : Level live seen a [])
    (he : a.1.workerState.process event = a.1.workerState.update w change)
    (hc : ∀ state, (change state).podCount = state.podCount) (hr : toWorkerState a event = some b) :
    Level live seen b [] := by
  cases hw : a.1.workerState.workers.lookup w with
  | none =>
    have same : a.1.workerState.process event = (a.1.workerState,{}) := by
      rw [he,WorkerStateCore.update,hw]
    exact h.unnoticed hr (by rw [same]) (fun w' => by rw [same])
  | some state =>
    have wrote : a.1.workerState.process event =
        ({ a.1.workerState with workers := a.1.workerState.workers.insert w (change state) },
          { schedulerUpdates := [.workerUpdate w ((change state).toCandidate w)] }) := by
      rw [he,WorkerStateCore.update,hw]
    refine h.written (c := a.1) hr (h.tracked w (mem_iff.mpr ⟨state,hw⟩)) (fun _ => .inr)
      (by rw [wrote]) (by rw [wrote]) ?_
    have := h.counts w state hw
    rw [owed_nil] at this
    rw [hc]
    omega

theorem segment (a b : Routed) (event : WorkerStateCoreEvent) (he : SegmentEvent event)
    (h : Level live seen a []) (hr : toWorkerState a event = some b) : Level live seen b [] :=
  h.unnoticed hr (process_segment _ he).1 (process_segment _ he).2

/-- A new worker has no leases. -/
theorem connected (h : Level live seen (core,{}) []) (hw : ¬ seen w)
    (hr : toWorkerState ({ core with connectedWorkers := core.connectedWorkers.insert w info },{})
      (.connected w capabilities tunnelInfo proto) = some b) :
    Level live (fun w' => seen w' ∨ w' = w) b [] := by
  have held : core.scheduler.held w = 0 := h.unseen hw
  refine (h.congr (fun _ => Iff.rfl) (fun _ => Or.inl)).written hr (.inr rfl)
    (fun _ => (mem_insert _).mp) rfl rfl ?_
  rw [held]
  rfl

theorem disconnected (h : Level live seen (core,{}) [])
    (hr : toWorkerState ({ core with connectedWorkers := core.connectedWorkers.erase w },{})
      (.disconnected w) = some b) : Level live seen b [] := by
  obtain ⟨mid,rfl,⟨hnone,_⟩ | ⟨update,_,hupdate,hr⟩⟩ := toWorkerState_some hr
  · cases hnone
  · cases hupdate
    have routed : Level live seen mid [] := by
      refine route hr ⟨{ h with
        candidates := fun w' => ?_, counts := fun w' state hs => ?_
        tracked := fun w' hw' => h.tracked w' (mem_erase.mp hw').2
        present := fun w' hw' => ?_ },.inl (forall_mem_nil _),
        h.conserving.process (.workerRemoved w),h.best_snoc (best_of_no_grant nofun)⟩
      · simp only [afterInput,afterEvent,WorkerStateCore.process,SchedulerCore.process,
          SchedulerCore.workerRemoved,lookup_erase_if]
        split
        · rfl
        · exact h.candidates w'
      · exact h.counts w' state (erase_cases hs).2
      · exact mem_erase.mpr ((mem_erase.mp hw').imp_right (h.present w'))
    exact { routed with }

end Level

open Level

/-- What the scheduler and the worker state tell each other, and nobody else tells them. -/
def Internal : OrchestratorInput → Prop
  | .workerStateEvent (.connected _ _ _ _) | .workerStateEvent (.disconnected _)
  | .workerStateEvent (.podCountChange _ _) | .schedulerEvent (.workerUpdate _ _)
  | .schedulerEvent (.workerRemoved _) => True
  | _ => False

def Call.requests (c : Call) : List PodKey :=
  match c.schedulerInput with
  | some (.requestLease key _) => [key]
  | _ => []

def Call.drops (c : Call) : List PodKey :=
  match c.schedulerInput with
  | some (.dropRequest key) => [key]
  | _ => []

def Call.connects : Call → List WorkerId
  | .workerConnected info => [info.workerId]
  | _ => []

/-- The keys that were requested and not yet dropped. -/
def outstanding (calls : List Call) : List PodKey :=
  (calls.flatMap Call.requests).filter (fun key => key ∉ calls.flatMap Call.drops)

/-- Each key is requested once and later dropped at most once, and worker ids are never reused. -/
structure Orderly (calls : List Call) : Prop where
  external : ∀ c ∈ calls, ∀ input, c = .process input → ¬ Internal input
  requests : (calls.flatMap Call.requests).Nodup
  drops : (calls.flatMap Call.drops).Nodup
  later : ∀ taken, taken <+: calls → ∀ key ∈ taken.flatMap Call.drops,
    key ∈ taken.flatMap Call.requests
  workers : (calls.flatMap Call.connects).Nodup

section ledger
variable {history : List Call} {c : Call}

theorem nodup_split (h : ((history ++ more).flatMap f).Nodup) :
    (history.flatMap f).Nodup ∧ (history.flatMap f).Disjoint (more.flatMap f) := by
  rw [flatMap_append] at h
  obtain ⟨hleft,-,hdisjoint⟩ := nodup_append'.mp h
  exact ⟨hleft,hdisjoint⟩

theorem Orderly.left (h : Orderly (history ++ more)) : Orderly history where
  external c hc := h.external c (mem_append_left _ hc)
  requests := (nodup_split h.requests).1
  drops := (nodup_split h.drops).1
  later taken ht := h.later taken (ht.trans (prefix_append _ _))
  workers := (nodup_split h.workers).1

theorem mem_outstanding : key ∈ outstanding history ↔
    key ∈ history.flatMap Call.requests ∧ key ∉ history.flatMap Call.drops := by
  simp only [outstanding,mem_filter,decide_eq_true_eq]

theorem outstanding_snoc : key ∈ outstanding (history ++ [c]) ↔
    (key ∈ history.flatMap Call.requests ∨ key ∈ c.requests) ∧
      key ∉ history.flatMap Call.drops ∧ key ∉ c.drops := by
  rw [mem_outstanding]
  simp only [flatMap_append,mem_append,flatMap_cons,flatMap_nil,append_nil,not_or]

/-- A call that neither requests nor drops. -/
theorem outstanding_same (hreq : c.requests = []) (hdrop : c.drops = []) (key : PodKey) :
    key ∈ outstanding history ↔ key ∈ outstanding (history ++ [c]) := by
  rw [outstanding_snoc,mem_outstanding,hreq,hdrop]
  simp

theorem Orderly.nodup (h : Orderly history) : (outstanding history).Nodup := h.requests.filter _

/-- The tables have one entry for each outstanding key. -/
theorem Level.entries (h : Level (fun k => k ∈ outstanding history) seen r [])
    (ho : Orderly history) :
    r.1.scheduler.pending.entries.length + r.1.scheduler.granted.entries.length =
      (outstanding history).length := by
  have nodup : (r.1.scheduler.pending.keys ++ r.1.scheduler.granted.keys).Nodup :=
    List.nodup_append'.mpr ⟨r.1.scheduler.pending.keys_nodup,r.1.scheduler.granted.keys_nodup,
      fun k hk hk' => h.exclusive k hk hk'⟩
  have perm := (List.perm_ext_iff_of_nodup nodup ho.nodup).mpr (fun k => by
    rw [List.mem_append]
    exact h.keys k)
  have := perm.length_eq
  simp only [List.length_append,keys,List.keys,List.length_map] at this
  exact this

/-- The books after the calls so far. -/
def Accounted (history : List Call) (core : OrchestratorCore) : Prop :=
  Level (fun k => k ∈ outstanding history) (fun w => w ∈ history.flatMap Call.connects) (core,{}) []

namespace Accounted

variable {core : OrchestratorCore} {a : Routed}

theorem init : Accounted [] new :=
  ⟨⟨fun k => by simp [new,SchedulerCore.new,outstanding],
    fun k hk => absurd hk (notMem_empty k),fun _ => rfl,
    fun w state hs => by simp [new,WorkerStateCore.new] at hs,
    by decide,fun k w hk => by simp [new,SchedulerCore.new] at hk,
    fun w hw => absurd hw (notMem_empty w),fun w hw => absurd hw (notMem_empty w)⟩,
    .inl (forall_mem_nil _),fun hne => absurd rfl hne,nofun⟩

/-- The part of a call that goes to the scheduler directly. -/
theorem scheduler (h : Accounted history core) (ho : Orderly (history ++ [c]))
    (hroom : (outstanding (history ++ [c])).length < 2 ^ 31) (hc : c.schedulerInput = some input)
    (hext : ¬ WorkerNews input) (hr : toScheduler (core,{}) input = some a) :
    Level (fun k => k ∈ outstanding (history ++ [c]))
      (fun w => w ∈ history.flatMap Call.connects) a [] := by
  have hprior := ho.left
  cases input with
  | requestLease key resume =>
    have hreq : c.requests = [key] := by rw [Call.requests,hc]
    have hdrop : c.drops = [] := by rw [Call.drops,hc]
    have hnew : key ∉ history.flatMap Call.requests :=
      fun hk => (nodup_split ho.requests).2 hk (by simp [hreq])
    have hnext : ∀ k, (k ∈ outstanding history ∨ k = key) ↔ k ∈ outstanding (history ++ [c]) := by
      intro k
      rw [outstanding_snoc,mem_outstanding,hreq,hdrop,mem_singleton]
      have hkept : k = key → k ∉ history.flatMap Call.drops :=
        fun heq hk => hnew (heq ▸ hprior.later _ (prefix_refl _) k hk)
      have hnil : k ∉ ([] : List PodKey) := not_mem_nil
      tauto
    have hlive : key ∉ outstanding history := fun hk => hnew (mem_outstanding.mp hk).1
    refine (request h hlive ?_ hr).congr hnext (fun _ hw => hw)
    rw [entries h hprior]
    have perm : (key :: outstanding history).Perm (outstanding (history ++ [c])) := by
      refine (perm_ext_iff_of_nodup (nodup_cons.mpr ⟨hlive,hprior.nodup⟩) ho.nodup).mpr
        (fun k => ?_)
      rw [mem_cons,or_comm]
      exact hnext k
    rw [← perm.length_eq] at hroom
    exact hroom
  | dropRequest key =>
    have hreq : c.requests = [] := by rw [Call.requests,hc]
    have hdrop : c.drops = [key] := by rw [Call.drops,hc]
    refine (drop h hr).congr (fun k => ?_) (fun _ hw => hw)
    rw [outstanding_snoc,mem_outstanding,hreq,hdrop]
    simp [and_assoc]
  | workerUpdate w candidate | workerRemoved w => exact absurd trivial hext
  | artifactEvent w event | artifactReferenced artifactId ns | artifactReleased artifactId ns =>
    exact (aside h rfl rfl hr).congr
      (outstanding_same (by rw [Call.requests,hc]) (by rw [Call.drops,hc])) (fun _ hw => hw)

/-- What reaches the worker state from outside. -/
theorem external (h : Level live seen a [])
    (hext : ¬ Internal (.workerStateEvent event)) (hr : toWorkerState a event = some b) :
    Level live seen b [] := by
  cases event with
  | pressureUpdate w psi =>
    refine h.updated rfl ?_ hr
    exact fun state => recompute_podCount _
  | poolCapacityUpdate w pools =>
    have silent : (a.1.workerState.process (.poolCapacityUpdate w pools)).2.schedulerUpdates = [] := by
      simp only [WorkerStateCore.process]
      cases a.1.workerState.workers.lookup w <;> rfl
    refine h.unnoticed hr silent (fun w' => ?_)
    simp only [WorkerStateCore.process]
    cases hw : a.1.workerState.workers.lookup w with
    | none => rfl
    | some state =>
      simp only [lookup_insert_if]
      split
      · rename_i heq
        rw [heq,hw]
        rfl
      · rfl
  | conditionUpdate w key active =>
    refine h.updated rfl ?_ hr
    exact fun state => rfl
  | connected w capabilities tunnel proto | disconnected w | podCountChange w delta =>
    exact absurd trivial hext
  | namespaceAssigned w ns | namespaceUnassigned w ns | registerNamespaceSegment ns segment
  | unregisterNamespaceSegment ns => exact .segment _ _ _ (by trivial) h hr

/-- Every call keeps the books. -/
theorem call (h : Accounted history core) (ho : Orderly (history ++ [c]))
    (hroom : (outstanding (history ++ [c])).length < 2 ^ 31) (hr : core.call c = some a) :
    Level (fun k => k ∈ outstanding (history ++ [c]))
      (fun w => w ∈ (history ++ [c]).flatMap Call.connects) a [] := by
  have before : ∀ w, w ∈ history.flatMap Call.connects →
      w ∈ (history ++ [c]).flatMap Call.connects := by
    intro w hw
    rw [flatMap_append]
    exact mem_append_left _ hw
  have external := ho.external c (by simp)
  cases c with
  | process input =>
    cases input with
    | workerStateEvent event =>
      exact (Accounted.external h (external _ rfl) hr).congr (outstanding_same rfl rfl) before
    | schedulerEvent input =>
      have hext : ¬ WorkerNews input := by
        intro hn
        refine external _ rfl ?_
        cases input <;> first
          | exact hn.elim
          | exact trivial
      exact (h.scheduler ho hroom rfl hext hr).congr (fun _ => Iff.rfl) before
    | fromNamespace ns message =>
      have hext : ¬ WorkerNews (schedulerMessageToInput message) := by
        cases message <;> exact id
      exact (h.scheduler ho hroom rfl hext hr).congr (fun _ => Iff.rfl) before
  | workerConnected info =>
    have hnew : info.workerId ∉ history.flatMap Call.connects :=
      fun hw => (nodup_split ho.workers).2 hw (by simp [Call.connects])
    obtain ⟨mid,hmid,hend⟩ := workerConnected_keeps other segment hr
    refine (hend (connected h hnew hmid)).congr (outstanding_same rfl rfl) (fun w hw => ?_)
    rcases hw with hw | rfl
    · exact before w hw
    · rw [flatMap_append]
      exact mem_append_right _ (by simp [Call.connects])
  | workerDisconnected w =>
    obtain ⟨mid,hmid,hend⟩ := workerDisconnected_keeps other segment hr
    exact (hend (disconnected h hmid)).congr (outstanding_same rfl rfl) before
  | createNamespace name network =>
    obtain ⟨⟨result,b⟩,hres,rfl⟩ := map_eq_some_iff.mp hr
    exact (createNamespace_keeps other segment h hres).congr (outstanding_same rfl rfl) before
  | destroyNamespace ns =>
    obtain ⟨⟨result,b⟩,hres,rfl⟩ := map_eq_some_iff.mp hr
    exact (destroyNamespace_keeps other segment h hres).congr (outstanding_same rfl rfl) before

end Accounted

end ledger

/-- In every orderly run with fewer than 2^31 outstanding keys at any time, each outstanding key
is either pending or granted, the counts of each connected worker are the leases on it, and every
grant goes to a worker that comes first. -/
theorem accounting_exact (calls : List Call) (ho : Orderly calls)
    (hroom : ∀ taken, taken <+: calls → (outstanding taken).length < 2 ^ 31)
    (core : OrchestratorCore) (outputs : List OrchestratorOutput)
    (hr : new.run calls = some (core,outputs)) :
    (∀ key ∈ outstanding calls, key ∈ core.scheduler.pending ∧ key ∉ core.scheduler.granted ∨
      key ∉ core.scheduler.pending ∧ key ∈ core.scheduler.granted) ∧
    (∀ w ∈ core.connectedWorkers, ∃ state candidate,
      core.workerState.workers.lookup w = some state ∧
      core.scheduler.workers.lookup w = some candidate ∧
      state.podCount = core.scheduler.held w ∧ candidate.podCount = core.scheduler.held w) ∧
    ∀ output ∈ outputs, ∀ call ∈ output.schedulerCalls, Best call := by
  obtain ⟨h,hbest⟩ := run_rule (P := Accounted)
    (Q := fun output => ∀ call ∈ output.schedulerCalls, Best call)
    (fun history c core a (hall : history ++ [c] <+: calls) h hc => by
      have hl := h.call (by obtain ⟨rest,rfl⟩ := hall; exact ho.left) (hroom _ hall) hc
      exact ⟨{ hl with best := by simp },hl.best⟩) calls [] new core outputs rfl .init hr
  refine ⟨fun key hk => ?_,fun w hw => ?_,hbest⟩
  · rcases (h.keys key).mpr hk with hp | hg
    · exact .inl ⟨hp,h.exclusive key hp⟩
    · exact .inr ⟨fun hp => h.exclusive key hp hg,hg⟩
  · obtain ⟨state,hs⟩ := mem_iff.mp (h.present w hw)
    have count : state.podCount = core.scheduler.held w := by
      have := h.counts w state hs
      rw [owed_nil] at this
      exact_mod_cast (Int.add_zero _).symm.trans this
    refine ⟨state,state.toCandidate w,hs,?_,count,count⟩
    rw [h.candidates,hs]
    rfl

/-- One worker, and a request for each of the pods up to `n`. -/
def crowd (n : Nat) : List Call :=
  .workerConnected (sampleWorker 1) :: (List.range n).map sampleRequest

def crowded (count : Nat) : TrackedWorkerStateCore :=
  { TrackedWorkerStateCore.new ⟨10,"",["pool"]⟩ none 1 with podCount := count }

/-- The state after `n` requests that were all granted. -/
structure Crowded (n count : Nat) (core : OrchestratorCore) : Prop where
  pending : core.scheduler.pending = ∅
  fresh : ∀ key ∈ core.scheduler.granted, key.2 < n
  held : core.scheduler.held 1 = n
  candidates : core.scheduler.workers = AList.singleton 1 ((crowded count).toCandidate 1)
  tracked : core.workerState.workers.lookup 1 = some (crowded count)

theorem retryPending_empty {s : SchedulerCore} (h : s.pending = ∅) : s.retryPending = (s,[]) := by
  rw [retryPending,h]
  rfl

theorem counted_crowded (count : Nat) (key : PodKey) :
    counted (crowded count) (.grant key 1) = crowded (changePodCount count 1) := rfl

theorem Crowded.settled (h : Crowded n count a.1) (key : PodKey) :
    Crowded n (changePodCount count 1) (settle a (.grant key 1)).1.1 ∧
      (settle a (.grant key 1)).2 = [] := by
  have hupdate := retryPending_empty (s := { a.1.scheduler with
    workers := a.1.scheduler.workers.insert 1 ((crowded (changePodCount count 1)).toCandidate 1) })
    h.pending
  simp only [settle,Decision.workerId,h.tracked,counted_crowded,SchedulerCore.process,hupdate]
  refine ⟨⟨h.pending,h.fresh,h.held,?_,lookup_insert _⟩,trivial⟩
  simp only [h.candidates,insert_singleton_eq]

/-- The only worker takes the next pod. -/
theorem Crowded.next (h : Crowded n count core) :
    ∃ a, core.call (sampleRequest n) = some a ∧ Crowded (n + 1) (changePodCount count 1) a.1 := by
  have hsel : core.scheduler.select none = some 1 := by
    have : core.scheduler.candidates = [(crowded count).toCandidate 1] := by
      rw [SchedulerCore.candidates,h.candidates]
      rfl
    rw [SchedulerCore.select,selectWorker,this]
    rfl
  have hfresh : (sampleNamespace,n) ∉ core.scheduler.granted :=
    fun hk => Nat.lt_irrefl n (h.fresh _ hk)
  have hproc : core.scheduler.process (.requestLease (sampleNamespace,n) none) =
      ({ core.scheduler with
          granted := core.scheduler.granted.insert (sampleNamespace,n) 1 },
        { decisions := [.grant (sampleNamespace,n) 1] }) := by
    simp only [SchedulerCore.process,hsel]
  have granted : Crowded (n + 1) count { core with
      scheduler := { core.scheduler with
        granted := core.scheduler.granted.insert (sampleNamespace,n) 1 } } := by
    refine ⟨h.pending,fun key hk => ?_,?_,h.candidates,h.tracked⟩
    · rcases (mem_insert _).mp hk with rfl | hk
      · exact Nat.lt_succ_self n
      · exact Nat.lt_succ_of_lt (h.fresh key hk)
    · have held := h.held
      simp only [SchedulerCore.held,tally_insert hfresh] at held ⊢
      rw [held]
      rfl
  obtain ⟨mid,hworks,ha⟩ := toScheduler_works (core,{}) (.requestLease (sampleNamespace,n) none)
  refine ⟨_,ha,?_⟩
  simp only [afterInput,hproc] at hworks
  cases hworks with
  | next hinner hrest =>
    have settled := fun output => Crowded.settled (a := (_,output)) granted (sampleNamespace,n)
    rw [(settled _).2] at hinner
    cases hinner
    cases hrest
    exact (settled _).1

/-- After `n` requests the count has been raised `n` times. -/
theorem Crowded.run (n : Nat) : ∃ core outputs, new.run (crowd n) = some (core,outputs) ∧
    Crowded n ((fun count => changePodCount count 1)^[n] 0) core := by
  induction n with
  | zero =>
    obtain ⟨a,ha⟩ : ∃ a, new.call (.workerConnected (sampleWorker 1)) = some a :=
      (call_ends new (.workerConnected (sampleWorker 1))).resolve_right (by simp)
    have hstate : (new.call (.workerConnected (sampleWorker 1))).map (fun a =>
        (a.1.scheduler,a.1.workerState.workers.lookup 1)) =
        some (⟨∅,∅,AList.singleton 1 ((crowded 0).toCandidate 1),⟨∅⟩,∅⟩,some (crowded 0)) := rfl
    rw [ha] at hstate
    have hstate := some.inj hstate
    simp only [Prod.mk.injEq] at hstate
    refine ⟨a.1,[a.2],by rw [crowd,OrchestratorCore.run,ha]; rfl,?_⟩
    have scheduler := hstate.1
    refine ⟨by rw [scheduler],fun key hk => ?_,by rw [scheduler]; rfl,by rw [scheduler]; rfl,hstate.2⟩
    rw [scheduler] at hk
    exact absurd hk (notMem_empty key)
  | succ n ih =>
    obtain ⟨core,outputs,hr,h⟩ := ih
    obtain ⟨a,ha,hnext⟩ := h.next
    refine ⟨a.1,outputs ++ [a.2],?_,?_⟩
    · have : crowd (n + 1) = crowd n ++ [sampleRequest n] := by
        simp [crowd,range_succ]
      rw [this]
      exact run_snoc _ _ _ _ hr ha
    · rw [Function.iterate_succ_apply']
      exact hnext

theorem count_iterate : ∀ n, n < 2 ^ 31 → (fun count => changePodCount count 1)^[n] 0 = n := by
  intro n
  induction n with
  | zero => exact fun _ => rfl
  | succ n ih =>
    intro h
    rw [Function.iterate_succ_apply',ih (by omega)]
    have : (changePodCount n 1 : Int) = n + 1 :=
      changePodCount_exact (by omega) (by omega) (by omega)
    omega

theorem crowd_requests (l : List Nat) : (l.map sampleRequest).flatMap Call.requests =
    l.map (fun podId => (sampleNamespace,podId)) := by
  rw [flatMap_map]
  exact flatMap_pure_eq_map ..

theorem crowd_calm (l : List Nat) : (l.map sampleRequest).flatMap Call.drops = [] ∧
    (l.map sampleRequest).flatMap Call.connects = [] := by
  simp [sampleRequest,Call.drops,Call.connects,Call.schedulerInput,schedulerMessageToInput]

theorem crowd_orderly (n : Nat) : Orderly (crowd n) where
  external c hc input heq := by
    rcases mem_cons.mp hc with rfl | hc
    · cases heq
    · obtain ⟨podId,_,rfl⟩ := mem_map.mp hc
      cases heq
      exact id
  requests := by
    rw [crowd,flatMap_cons,crowd_requests]
    exact nodup_range.map (fun _ _ h => (Prod.mk.inj h).2)
  drops := by
    rw [crowd,flatMap_cons,(crowd_calm _).1]
    exact nodup_nil
  later taken ht key hk := by
    have none : (crowd n).flatMap Call.drops = [] := by
      rw [crowd,flatMap_cons,(crowd_calm _).1]
      rfl
    have := (ht.sublist.flatMap Call.drops).subset hk
    rw [none] at this
    cases this
  workers := by
    rw [crowd,flatMap_cons,(crowd_calm _).2]
    decide

/-- The lease that fills an `i32` makes the worker look empty. -/
theorem count_wraps : ∃ core outputs, Orderly (crowd 2147483648) ∧
    new.run (crowd 2147483648) = some (core,outputs) ∧ core.scheduler.held 1 = 2147483648 ∧
    (core.workerState.workers.lookup 1).map TrackedWorkerStateCore.podCount = some 0 := by
  have full : ∀ n, n = 2147483648 → (fun count => changePodCount count 1)^[n] 0 = 0 := by
    intro n hn
    obtain ⟨m,rfl⟩ : ∃ m, n = m + 1 := ⟨n - 1,by omega⟩
    rw [Function.iterate_succ_apply',count_iterate m (by omega)]
    have hm : m = 2147483647 := by omega
    rw [hm]
    decide
  generalize hn : 2147483648 = n at *
  obtain ⟨core,outputs,hr,h⟩ := Crowded.run n
  refine ⟨core,outputs,crowd_orderly n,hr,h.held,?_⟩
  rw [h.tracked,full n rfl]
  rfl

/-- Two workers, of which the second leaves, and pods that come and go. -/
def sampleShift : List Call :=
  [.workerConnected (sampleWorker 1),sampleRequest 0,.workerConnected (sampleWorker 2),
    sampleRequest 1,sampleRequest 2,
    .process (.fromNamespace sampleNamespace (.dropRequest sampleNamespace 0)),
    .workerDisconnected 2]

theorem accounting_exact_sample : ∃ core outputs, new.run sampleShift = some (core,outputs) ∧
    core.scheduler.granted.toList = [((sampleNamespace,2),1),((sampleNamespace,1),2)] ∧
    ∃ state candidate, core.workerState.workers.lookup 1 = some state ∧
      core.scheduler.workers.lookup 1 = some candidate ∧
      state.podCount = core.scheduler.held 1 ∧ candidate.podCount = core.scheduler.held 1 := by
  have hrun : (new.run sampleShift).map (fun r => (r.1.scheduler.granted.toList,
      decide (1 ∈ r.1.connectedWorkers))) =
      some ([((sampleNamespace,2),1),((sampleNamespace,1),2)],true) := by
    decide +kernel
  obtain ⟨⟨core,outputs⟩,hr,hgranted⟩ := map_eq_some_iff.mp hrun
  have orderly : Orderly sampleShift :=
    { external := by simp [sampleShift,sampleRequest,Internal]
      requests := by decide +kernel
      drops := by decide +kernel
      later := fun taken ht => by
        have all : ∀ taken ∈ sampleShift.inits, ∀ key ∈ taken.flatMap Call.drops,
            key ∈ taken.flatMap Call.requests := by
          decide +kernel
        exact all taken ((mem_inits _ _).mpr ht)
      workers := by decide +kernel }
  have room : ∀ taken ∈ sampleShift.inits, (outstanding taken).length < 2 ^ 31 := by
    decide +kernel
  have := accounting_exact sampleShift orderly
    (fun taken ht => room taken ((mem_inits _ _).mpr ht)) core outputs hr
  have hpair := Prod.mk.inj hgranted
  exact ⟨core,outputs,hr,hpair.1,this.2.1 1 (of_decide_eq_true hpair.2)⟩

end OrchestratorCore

end Distvirt
