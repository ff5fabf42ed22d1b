import Distvirt.Orchestrator.Scheduler

/-! What the scheduler does with the requests: some worker is selected exactly if one is
eligible, and a retry then grants every pending request. -/

namespace Distvirt

open List

namespace SchedulerCore

variable {s : SchedulerCore} {resume : Option ArtifactId}

/-- Some worker can take a pod. -/
def Open (s : SchedulerCore) : Prop := ∃ c ∈ s.candidates, c.eligible = true

instance : Decidable s.Open := inferInstanceAs (Decidable (∃ c ∈ s.candidates, c.eligible = true))

theorem mem_candidates : c ∈ s.candidates ↔ ∃ w, s.workers.lookup w = some c := by
  simp only [candidates,mem_map,Prod.exists,exists_eq_right,AList.mem_toList]

theorem select_isSome_iff : (s.select resume).isSome ↔ s.Open := by
  rw [select,selectWorker]
  simp only [Option.isSome_map]
  rw [← not_iff_not,Bool.not_eq_true,Option.isSome_eq_false_iff,Option.isNone_iff_eq_none,
    argmin_eq_none,filter_eq_nil_iff]
  simp [Open]

theorem select_eq_none (h : ¬ s.Open) : s.select resume = none := by
  rw [← Option.not_isSome_iff_eq_none,select_isSome_iff]
  exact h

theorem exists_select (h : s.Open) (resume : Option ArtifactId) : ∃ w, s.select resume = some w :=
  Option.isSome_iff_exists.mp (select_isSome_iff.mpr h)

/-- The selected worker comes first among the eligible ones. -/
theorem select_minimal (h : s.select resume = some w) : ∃ c ∈ s.candidates, c.workerId = w ∧
    c.eligible = true ∧ ∀ c' ∈ s.candidates, c'.eligible = true →
      preference (affinityWorkers resume s.placements) c.workerId c.maxPressureBand c.podCount ≤
      preference (affinityWorkers resume s.placements) c'.workerId c'.maxPressureBand c'.podCount := by
  obtain ⟨c,hc,hw⟩ := Option.map_eq_some_iff.mp h
  have hmem := mem_filter.mp (argmin_mem hc)
  refine ⟨c,hmem.1,hw,hmem.2,fun c' hc' he => ?_⟩
  exact le_of_mem_argmin (mem_filter.mpr ⟨hc',he⟩) hc

/-- The worker a request gets; only used when there is one. -/
def pick (s : SchedulerCore) (resume : Option ArtifactId) : WorkerId := (s.select resume).getD 0

theorem select_pick (h : s.Open) (resume : Option ArtifactId) :
    s.select resume = some (s.pick resume) := by
  obtain ⟨w,hw⟩ := exists_select h resume
  rw [pick,hw]
  rfl

/-- The requests of a list become granted. -/
def grantAll (s : SchedulerCore) (requests : List (PodKey × Option ArtifactId)) :
    Table PodKey WorkerId :=
  requests.foldl (fun granted e => granted.insert e.1 (s.pick e.2)) s.granted

def grants (s : SchedulerCore) (requests : List (PodKey × Option ArtifactId)) : List Decision :=
  requests.map (fun e => .grant e.1 (s.pick e.2))

theorem mem_grantAll : ∀ {s : SchedulerCore},
    key ∈ s.grantAll requests ↔ key ∈ s.granted ∨ key ∈ requests.map Prod.fst := by
  induction requests with
  | nil => simp [grantAll]
  | cons e requests ih =>
    intro s
    refine (ih (s := { s with granted := s.granted.insert e.1 (s.pick e.2) })).trans ?_
    simp only [AList.mem_insert,map_cons,mem_cons,or_assoc,or_left_comm]

theorem pick_congr {s' : SchedulerCore} (hw : s'.workers = s.workers)
    (hp : s'.placements = s.placements) : s'.pick resume = s.pick resume := by
  simp only [pick,select,candidates,hw,hp]

/-- Each turn of the loop takes the first of the requests that are left. -/
theorem retryOne_fold (h : s.Open) : ∀ (requests : List ((_ : PodKey) × Option ArtifactId))
    (s' : SchedulerCore) (ds : List Decision), s'.workers = s.workers →
    s'.placements = s.placements → s'.artifactRefs = s.artifactRefs → s'.pending.entries = requests →
    (requests.map Sigma.fst).foldl retryOne (s',ds) =
      ({ s with
          pending := ∅
          granted := s'.grantAll (requests.map (fun e => (e.1,e.2))) },
        ds ++ s.grants (requests.map (fun e => (e.1,e.2)))) := by
  intro requests
  induction requests with
  | nil =>
    intro s' ds hw hp hr hpend
    have : s'.pending = ∅ := AList.ext hpend
    obtain ⟨_,_,_,_,_⟩ := s'
    simp only at hw hp hr this
    subst hw hp hr this
    simp [grantAll,grants]
  | cons e rest ih =>
    intro s' ds hw hp hr hpend
    obtain ⟨key,resume⟩ := e
    have hlook : s'.pending.lookup key = some resume := by
      rw [AList.lookup,hpend]
      exact dlookup_cons_eq _ _ _
    have herase : (s'.pending.erase key).entries = rest := by
      change s'.pending.entries.kerase key = rest
      rw [hpend]
      exact kerase_cons_eq rfl
    have hopen : s'.Open := by
      simp only [Open,candidates,hw]
      exact h
    have hsel : (⟨s'.pending.erase key,s'.granted,s'.workers,s'.placements,s'.artifactRefs⟩ :
        SchedulerCore).select resume = some (s.pick resume) := by
      have : s'.select resume = some (s.pick resume) := by
        rw [select_pick hopen,pick_congr hw hp]
      exact this
    simp only [map_cons,foldl_cons]
    rw [retryOne]
    simp only [hlook,hsel]
    refine (ih { s' with
      pending := s'.pending.erase key
      granted := s'.granted.insert key (s.pick resume) } _ hw hp hr herase).trans ?_
    have hpick : ∀ r, s'.pick r = s.pick r := fun r => pick_congr hw hp
    have hpick' : ∀ r g, (⟨s'.pending.erase key,g,s'.workers,s'.placements,s'.artifactRefs⟩ :
        SchedulerCore).pick r = s.pick r := fun r g => pick_congr hw hp
    simp only [grantAll,grants,map_cons,foldl_cons,append_assoc,singleton_append,hpick,hpick']

/-- With an eligible worker a retry grants everything, otherwise it does nothing. -/
theorem retryPending_open (h : s.Open) : s.retryPending =
    ({ s with pending := ∅, granted := s.grantAll s.pending.toList },s.grants s.pending.toList) := by
  have hall : s.pending.toList.filterMap (fun (e : PodKey × Option ArtifactId) =>
      (s.select e.2).map (fun _ => e.1)) = s.pending.entries.map Sigma.fst := by
    simp only [AList.toList,filterMap_map]
    rw [← filterMap_eq_map]
    apply filterMap_congr
    intro e _
    simp [select_pick h]
  rw [retryPending]
  simp only [hall]
  rw [retryOne_fold h s.pending.entries s [] rfl rfl rfl rfl]
  rfl

theorem retryPending_closed (h : ¬ s.Open) : s.retryPending = (s,[]) := by
  have hnone : s.pending.toList.filterMap (fun (e : PodKey × Option ArtifactId) =>
      (s.select e.2).map (fun _ => e.1)) = [] := by
    simp [select_eq_none h]
  rw [retryPending]
  simp only [hnone,foldl_nil]

/-- A request waits only while no worker can take it. -/
def Conserving (s : SchedulerCore) : Prop := s.pending.entries ≠ [] → ¬ s.Open

theorem conserving_retry (s : SchedulerCore) : s.retryPending.1.Conserving := by
  by_cases h : s.Open
  · rw [retryPending_open h]
    intro hne
    exact absurd rfl hne
  · rw [retryPending_closed h]
    exact fun _ => h

theorem Open.of_erase {s' : SchedulerCore} (h : s'.Open) (hw : s'.workers = s.workers.erase w) :
    s.Open := by
  obtain ⟨c,hc,he⟩ := h
  obtain ⟨w',hl⟩ := mem_candidates.mp hc
  rw [hw] at hl
  exact ⟨c,mem_candidates.mpr ⟨w',(AList.erase_cases hl).2⟩,he⟩

/-- Every call of the scheduler leaves it so. -/
theorem Conserving.process (h : s.Conserving) (input : SchedulerCoreInput) :
    (s.process input).1.Conserving := by
  cases input with
  | requestLease key resume =>
    simp only [SchedulerCore.process]
    by_cases ho : s.Open
    · rw [select_pick ho]
      exact h
    · rw [select_eq_none ho]
      exact fun _ => ho
  | dropRequest key =>
    simp only [SchedulerCore.process]
    cases s.granted.lookup key with
    | some w => exact h
    | none =>
      intro hne
      refine h (fun hnil => hne ?_)
      change s.pending.entries.kerase key = []
      rw [hnil]
      rfl
  | workerUpdate w candidate => exact conserving_retry _
  | workerRemoved w =>
    intro hne hopen
    exact h hne (hopen.of_erase (w := w) rfl)
  | artifactEvent w event => exact h
  | artifactReferenced a ns => exact h
  | artifactReleased a ns => exact h

/-- What a call grants was pending before. -/
theorem retryPending_length (s : SchedulerCore) :
    s.retryPending.1.pending.entries.length + s.retryPending.2.length = s.pending.entries.length := by
  by_cases h : s.Open
  · rw [retryPending_open h]
    simp [grants,AList.toList]
  · rw [retryPending_closed h]
    rfl

end SchedulerCore

end Distvirt
