import Distvirt.Orchestrator.Requests
import Distvirt.Runs
import Mathlib.Data.List.Infix
import Mathlib.Tactic.Tauto

/-! What the scheduler knows of the copies of artifacts, and when it invalidates and deletes. -/

namespace Distvirt

open PlacementTable AList List

theorem toString_digits (n : Nat) : (toString n).toList = Nat.toDigits 10 n := by
  rw [Nat.toString_eq_ofList_toDigits,String.toList_ofList]

theorem toString_inj {n m : Nat} (h : toString n = toString m) : n = m := by
  have := congrArg (fun text => Nat.ofDigitChars 10 text.toList 0) h
  simpa only [toString_digits,Nat.ofDigitChars_ten_toDigits] using this

/-- The value only grows while the digits are read. -/
theorem le_ofDigitChars (l : List Char) (n : Nat) : n ≤ Nat.ofDigitChars 10 l n := by
  induction l generalizing n with
  | nil => exact Nat.le_refl n
  | cons c l ih =>
    rw [Nat.ofDigitChars_cons]
    exact Nat.le_trans (by omega) (ih _)

theorem parse_digits : ∀ (l : List Char) (n : Nat), (∀ c ∈ l, c.isDigit = true) →
    Nat.ofDigitChars 10 l n < 2 ^ 64 →
    l.foldlM (fun n c => do
      let n := n * 10 + (← digit c)
      if n < 2 ^ 64 then some n else none) n = some (Nat.ofDigitChars 10 l n) := by
  intro l
  induction l with
  | nil => exact fun _ _ _ => rfl
  | cons c l ih =>
    intro n hl hn
    rw [Nat.ofDigitChars_cons] at hn ⊢
    have hc : c.isDigit = true := hl c (mem_cons_self ..)
    have hlt := Nat.lt_of_le_of_lt (le_ofDigitChars l _) hn
    have step : n * 10 + (c.toNat - '0'.toNat) = 10 * n + (c.toNat - '0'.toNat) := by omega
    rw [foldlM_cons]
    simp only [digit,hc,if_true,Option.bind_eq_bind,Option.bind_some]
    rw [step,if_pos hlt,Option.bind_some]
    exact ih _ (fun c' hc' => hl c' (mem_cons_of_mem _ hc')) hn

/-- A port id is read back from its text. -/
theorem parseU64_toString (h : n < 2 ^ 64) : parseU64 (toString n) = some n := by
  have hdigit : ∀ c ∈ Nat.toDigits 10 n, c.isDigit = true :=
    fun c hc => Nat.isDigit_of_mem_toDigits (by decide) (by decide) hc
  have hvalue : Nat.ofDigitChars 10 (Nat.toDigits 10 n) 0 = n := Nat.ofDigitChars_ten_toDigits
  have hparse := parse_digits (Nat.toDigits 10 n) 0 hdigit (by rw [hvalue]; exact h)
  rw [hvalue] at hparse
  simp only [parseU64,toString_digits]
  cases hd : Nat.toDigits 10 n with
  | nil => exact absurd hd Nat.toDigits_ne_nil
  | cons c l =>
    rw [hd] at hdigit hparse
    have hplus : c ≠ '+' := by
      rintro rfl
      exact absurd (hdigit _ (mem_cons_self ..)) (by decide)
    split
    · rename_i heq
      cases heq
      exact absurd rfl hplus
    · exact hparse

namespace PlacementTable

variable {t : PlacementTable} {a a' : ArtifactId} {w w' : WorkerId} {status : ArtifactStatus}

/-- The copy of an artifact on a worker. -/
def copy (t : PlacementTable) (a : ArtifactId) (w : WorkerId) : Option ArtifactStatus :=
  (t.copies a).lookup w

theorem copy_put : (t.put a w status).copy a' w' =
    if a' = a ∧ w' = w then some status else t.copy a' w' := by
  simp only [copy,copies,put,lookup_insert_if]
  by_cases ha : a' = a
  · subst ha
    simp only [if_true,Option.getD_some,lookup_insert_if,true_and]
  · simp [ha]

theorem copy_removeArtifact : (t.removeArtifact a).copy a' w =
    if a' = a then none else t.copy a' w := by
  simp only [copy,copies,removeArtifact,lookup_erase_if]
  split
  · rfl
  · rfl

/-- An entry that is dropped because it is empty is not missed. -/
theorem getD_pruned (workers : Table WorkerId ArtifactStatus) :
    (if workers.entries.isEmpty then none else some workers).getD ∅ = workers := by
  split
  · rename_i hempty
    exact (ext (isEmpty_iff.mp hempty)).symm
  · rfl

theorem copy_transferFailed : (t.applyEvent w (.transferFailed a)).copy a' w' =
    if a' = a ∧ w' = w then none else t.copy a' w' := by
  simp only [applyEvent]
  cases h : t.entries.lookup a with
  | none =>
    dsimp only
    split
    · rename_i heq
      rw [heq.1,copy,copies,h]
      rfl
    · rfl
  | some workers =>
    have hlook : (if (workers.erase w).entries.isEmpty then ⟨t.entries.erase a⟩
        else ⟨t.entries.insert a (workers.erase w)⟩ : PlacementTable).entries.lookup a' = if a' = a then
          if (workers.erase w).entries.isEmpty then none else some (workers.erase w)
        else t.entries.lookup a' := by
      split
      · exact lookup_erase_if
      · exact lookup_insert_if
    simp only [copy,copies,hlook]
    by_cases ha : a' = a
    · subst ha
      simp only [if_true,getD_pruned,lookup_erase_if,h,Option.getD_some,true_and]
    · simp [ha]

theorem copy_removeWorker : (t.removeWorker w).copy a w' =
    if w' = w then none else t.copy a w' := by
  simp only [copy,copies,removeWorker,lookup_retain]
  cases t.entries.lookup a with
  | none => simp
  | some workers => simp only [Option.bind_some,getD_pruned,lookup_erase_if,Option.getD_some]

theorem mem_workersWithArtifact : w ∈ t.workersWithArtifact a ↔
    ∃ status, t.copy a w = some status ∧ status.isReady = true := by
  simp only [workersWithArtifact,copy,mem_filterMap,Prod.exists]
  constructor
  · rintro ⟨w',status,hm,hs⟩
    split at hs
    · rename_i hready
      cases hs
      exact ⟨status,mem_toList.mp hm,hready⟩
    · cases hs
  · rintro ⟨status,hl,hready⟩
    exact ⟨w,status,mem_toList.mpr hl,by simp [hready]⟩

theorem mem_workers_removeWorker : w' ∈ (t.removeWorker w).workersWithArtifact a ↔
    w' ≠ w ∧ w' ∈ t.workersWithArtifact a := by
  rw [mem_workersWithArtifact,mem_workersWithArtifact,copy_removeWorker]
  by_cases hw : w' = w
  · simp [hw]
  · simp [hw]

theorem anyWorker_ready (h : t.anyWorkerWithArtifact a = some (w,poolId)) :
    w ∈ t.workersWithArtifact a := by
  obtain ⟨⟨w',status⟩,hm,hs⟩ := exists_of_findSome?_eq_some h
  rw [mem_workersWithArtifact]
  cases status with
  | writing => cases hs
  | ready pool size =>
    cases hs
    exact ⟨_,mem_toList.mp hm,rfl⟩

theorem anyWorker_none (h : t.anyWorkerWithArtifact a = none) : w ∉ t.workersWithArtifact a := by
  rw [mem_workersWithArtifact]
  rintro ⟨status,hl,hready⟩
  have := findSome?_eq_none_iff.mp h (w,status) (mem_toList.mpr hl)
  cases status with
  | writing => cases hready
  | ready pool size => cases this

end PlacementTable

namespace SchedulerCore

variable {s : SchedulerCore} {a : ArtifactId} {w : WorkerId} {input : SchedulerCoreInput}

/-- The scheduler after a sequence of inputs, and what it caused on the way. -/
def run (s : SchedulerCore) : List SchedulerCoreInput → SchedulerCore × List SchedulerEffects
  | [] => (s,[])
  | input :: inputs =>
    let (s,effects) := s.process input
    let (s,rest) := s.run inputs
    (s,effects :: rest)

/-- A reader's leases after a decision. One is revoked from the worker that has it. -/
def replay (leases : Table PodKey WorkerId) : Decision → Table PodKey WorkerId
  | .grant key w => leases.insert key w
  | .revoke key w => if leases.lookup key = some w then leases.erase key else leases

theorem process_replayed : (s.process input).1.granted =
    (s.process input).2.decisions.foldl replay s.granted := by
  cases input with
  | requestLease | dropRequest =>
    rw [process]
    split <;> simp [*,replay]
  | workerUpdate w c =>
    rw [process]
    by_cases h : { s with workers := s.workers.insert w c }.Open
    · rw [retryPending_open h,grants,foldl_map]
      rfl
    · rw [retryPending_closed h]
      rfl
  | _ => rfl

/-- The leases are what the decisions of a run say when they are read in order. -/
theorem leases_replayed (inputs) : (s.run inputs).1.granted =
    ((s.run inputs).2.flatMap (·.decisions)).foldl replay s.granted := by
  induction inputs generalizing s with
  | nil => rfl
  | cons _ _ ih => rw [run,flatMap_cons,foldl_append,← process_replayed,ih]

/-- A copy on a connected worker. -/
def Kept (s : SchedulerCore) (a : ArtifactId) : Prop :=
  ∃ w ∈ s.workers, (s.placements.copy a w).isSome = true

/-- A step keeps a copy of everything that is referenced, and invalidates exactly what it leaves
without one. -/
structure Exact (s : SchedulerCore) (input : SchedulerCoreInput) : Prop where
  kept : ∀ a ∈ (s.process input).1.artifactRefs, (s.process input).1.Kept a
  sound : ∀ port ∈ (s.process input).2.artifactInvalidations,
    ¬ (s.process input).1.Kept (toString port)
  complete : ∀ port, (toString port ∈ s.artifactRefs ∨
      ∃ ns, input = .artifactReferenced (toString port) ns) →
    (∀ ns, input ≠ .artifactReleased (toString port) ns) →
    ¬ (s.process input).1.Kept (toString port) →
    port ∈ (s.process input).2.artifactInvalidations

/-- The steps that do not take the scheduler by surprise: events come from connected workers,
references are to artifacts that have a copy, a failed transfer does not concern the only copy,
and with a worker no artifact loses its last complete copy while another is being written. -/
def Guarded (s : SchedulerCore) : SchedulerCoreInput → Prop
  | .artifactEvent w (.transferFailed a) => w ∈ s.workers ∧
    (a ∈ s.artifactRefs → ∃ w', w' ≠ w ∧ (s.placements.copy a w').isSome = true)
  | .artifactEvent w _ => w ∈ s.workers
  | .artifactReferenced a _ => (∃ port, port < 2 ^ 64 ∧ a = toString port) ∧
    ∃ w, (s.placements.copy a w).isSome = true
  | .workerRemoved w => ∀ a ∈ s.artifactRefs,
    (∃ w', w' ≠ w ∧ (s.placements.copy a w').isSome = true) →
      ∃ w', w' ≠ w ∧ w' ∈ s.placements.workersWithArtifact a
  | _ => True

/-- Copies are on connected workers, and what is referenced has one. -/
structure Placed (s : SchedulerCore) : Prop where
  connected : ∀ a w, (s.placements.copy a w).isSome = true → w ∈ s.workers
  referenced : ∀ a ∈ s.artifactRefs, ∃ w, (s.placements.copy a w).isSome = true
  canonical : ∀ a ∈ s.artifactRefs, ∃ port, port < 2 ^ 64 ∧ a = toString port

theorem Placed.init : Placed new where
  connected a w h := by simp [new,copy,copies] at h
  referenced a h := absurd h (notMem_empty a)
  canonical a h := absurd h (notMem_empty a)

theorem Placed.kept (h : s.Placed) (ha : a ∈ s.artifactRefs) : s.Kept a := by
  obtain ⟨w,hw⟩ := h.referenced a ha
  exact ⟨w,h.connected a w hw,hw⟩

theorem retryPending_frame (s : SchedulerCore) : s.retryPending.1 = { s with
    pending := s.retryPending.1.pending
    granted := s.retryPending.1.granted } := by
  by_cases ho : s.Open
  · rw [retryPending_open ho]
  · rw [retryPending_closed ho]

/-- An input that touches neither copies nor references. -/
def Plain : SchedulerCoreInput → Prop
  | .requestLease _ _ | .dropRequest _ | .workerUpdate _ _ => True
  | _ => False

theorem process_plain (s : SchedulerCore) (hp : Plain input) :
    (s.process input).1.placements = s.placements ∧
    (s.process input).1.artifactRefs = s.artifactRefs ∧
    (∀ w, w ∈ (s.process input).1.workers ↔ w ∈ s.workers ∨ ∃ c, input = .workerUpdate w c) ∧
    (s.process input).2.artifactInvalidations = [] ∧
    (s.process input).2.deleteCommands = [] := by
  cases input with
  | requestLease key resume =>
    simp only [process]
    cases s.select resume <;> simp
  | dropRequest key =>
    simp only [process]
    cases s.granted.lookup key <;> simp
  | workerUpdate w candidate =>
    simp only [process]
    rw [retryPending_frame]
    refine ⟨rfl,rfl,fun w' => ?_,trivial,trivial⟩
    rw [mem_insert,or_comm]
    simp [eq_comm]
  | _ => exact hp.elim

/-- The copy of an artifact that an input brings to a worker. -/
def stored (a : ArtifactId) (w : WorkerId) : SchedulerCoreInput → Option ArtifactStatus
  | .artifactEvent w' (.writeStarted a' _) => if a = a' ∧ w = w' then some .writing else none
  | .artifactEvent w' (.writeCommitted a' poolId size)
  | .artifactEvent w' (.transferReceived a' poolId size) =>
    if a = a' ∧ w = w' then some (.ready poolId size) else none
  | _ => none

/-- The input takes the copy from the worker. -/
def Forgets (a : ArtifactId) (w : WorkerId) : SchedulerCoreInput → Prop
  | .artifactEvent w' (.transferFailed a') => a = a' ∧ w = w'
  | .artifactReleased a' _ => a = a'
  | .workerRemoved w' => w = w'
  | _ => False

/-- The input takes the reference. -/
def Drops (s : SchedulerCore) (a : ArtifactId) : SchedulerCoreInput → Prop
  | .artifactReleased a' _ => a = a'
  | .workerRemoved w => ¬ ∃ w', w' ≠ w ∧ w' ∈ s.placements.workersWithArtifact a
  | _ => False

theorem copy_process (s : SchedulerCore) (input : SchedulerCoreInput) :
    (s.process input).1.placements.copy a w = some status ↔ stored a w input = some status ∨
      stored a w input = none ∧ ¬ Forgets a w input ∧ s.placements.copy a w = some status := by
  have plain : Plain input → _ := process_plain s
  cases input with
  | requestLease key resume | dropRequest key | workerUpdate w' candidate =>
    rw [(plain trivial).1]
    simp [stored,Forgets]
  | workerRemoved w' =>
    simp only [process,workerRemoved,copy_removeWorker,stored,Forgets]
    split <;> simp [*]
  | artifactEvent w' event =>
    cases event with
    | writeStarted b pool | writeCommitted b pool size | transferReceived b pool size =>
      simp only [process,PlacementTable.applyEvent,copy_put,stored,Forgets]
      split <;> simp [*]
    | transferFailed b =>
      simp only [process,copy_transferFailed,stored,Forgets]
      split <;> simp [*]
  | artifactReferenced b ns => simp [process,stored,Forgets]
  | artifactReleased b ns =>
    simp only [process,artifactReleased,copy_removeArtifact,stored,Forgets]
    split <;> simp [*]

theorem workers_process (s : SchedulerCore) (input : SchedulerCoreInput) :
    w ∈ (s.process input).1.workers ↔
      (∃ c, input = .workerUpdate w c) ∨ input ≠ .workerRemoved w ∧ w ∈ s.workers := by
  have plain : Plain input → _ := process_plain s
  cases input with
  | requestLease key resume | dropRequest key | workerUpdate w' candidate =>
    simp [(plain trivial).2.2.1 w,or_comm]
  | workerRemoved w' => simp [process,workerRemoved,mem_erase,eq_comm]
  | artifactEvent w' event | artifactReferenced b ns | artifactReleased b ns =>
    simp [process,artifactReleased]

theorem mem_erase_all (l : List ArtifactId) (refs : Table ArtifactId NamespaceId) :
    a ∈ l.foldl (fun refs artifactId => refs.erase artifactId) refs ↔ a ∈ refs ∧ a ∉ l := by
  induction l generalizing refs with
  | nil => simp
  | cons b l ih =>
    rw [foldl_cons,ih,mem_erase,mem_cons,not_or]
    tauto

/-- What keeps a complete copy stays referenced. -/
theorem refs_process (s : SchedulerCore) (input : SchedulerCoreInput) :
    a ∈ (s.process input).1.artifactRefs ↔
      (∃ ns, input = .artifactReferenced a ns) ∨ ¬ Drops s a input ∧ a ∈ s.artifactRefs := by
  have plain : Plain input → _ := process_plain s
  cases input with
  | requestLease key resume | dropRequest key | workerUpdate w' candidate =>
    rw [(plain trivial).2.1]
    simp [Drops]
  | workerRemoved w =>
    simp only [process,workerRemoved,mem_erase_all,mem_filter,Drops,← mem_workers_removeWorker,
      List.isEmpty_iff,eq_nil_iff_forall_not_mem,← AList.mem_keys,not_exists]
    grind
  | artifactReferenced b ns => simp [process,Drops,eq_comm]
  | artifactReleased b ns => simp [process,artifactReleased,mem_erase,Drops]
  | artifactEvent w' event => simp [process,Drops]

theorem invalidations_process (s : SchedulerCore) (input : SchedulerCoreInput) :
    port ∈ (s.process input).2.artifactInvalidations ↔ ∃ w, input = .workerRemoved w ∧
      ∃ b ∈ s.artifactRefs, Drops s b input ∧ parseU64 b = some port := by
  have plain : Plain input → _ := process_plain s
  cases input with
  | requestLease key resume | dropRequest key | workerUpdate w' candidate =>
    simp [(plain trivial).2.2.2.1]
  | workerRemoved w =>
    simp only [process,workerRemoved,mem_filterMap,mem_filter,List.isEmpty_iff,Drops,
      ← mem_workers_removeWorker,eq_nil_iff_forall_not_mem,← AList.mem_keys,not_exists,and_assoc,
      SchedulerCoreInput.workerRemoved.injEq,exists_eq_left']
  | artifactReferenced b ns | artifactReleased b ns | artifactEvent w' event =>
    simp [process,artifactReleased]

/-- Copies come from connected workers. -/
theorem Guarded.stored (hg : s.Guarded input) (hs : stored a w input = some status) :
    w ∈ s.workers ∧ input ≠ .workerRemoved w := by
  cases input with
  | artifactEvent w' event =>
    cases event with
    | writeStarted b pool | writeCommitted b pool size | transferReceived b pool size =>
      obtain ⟨⟨_,rfl⟩,_⟩ := Option.ite_none_right_eq_some.mp hs
      exact ⟨hg,nofun⟩
    | transferFailed b => cases hs
  | _ => cases hs

theorem ready_copy {t : PlacementTable} (h : w ∈ t.workersWithArtifact a) :
    (t.copy a w).isSome = true := by
  obtain ⟨status,hs,_⟩ := mem_workersWithArtifact.mp h
  rw [hs]
  rfl

/-- What stays referenced has a copy that stays. -/
theorem Placed.stays (h : s.Placed) (hg : s.Guarded input) (ha : a ∈ s.artifactRefs)
    (hd : ¬ Drops s a input) : ∃ w, ¬ Forgets a w input ∧ (s.placements.copy a w).isSome = true := by
  obtain ⟨w,hw⟩ := h.referenced a ha
  by_cases hf : Forgets a w input
  · cases input with
    | artifactEvent w' event =>
      cases event with
      | transferFailed b =>
        obtain ⟨rfl,rfl⟩ := hf
        obtain ⟨w',hne,hw'⟩ := hg.2 ha
        exact ⟨w',fun hf => hne hf.2,hw'⟩
      | _ => exact hf.elim
    | workerRemoved w' =>
      obtain ⟨w',hne,hw'⟩ := not_not.mp hd
      exact ⟨w',hne,ready_copy hw'⟩
    | artifactReleased b ns => exact absurd hf hd
    | _ => exact hf.elim
  · exact ⟨w,hf,hw⟩

/-- Every guarded step is exact. -/
theorem Placed.step (h : s.Placed) (hg : s.Guarded input) :
    (s.process input).1.Placed ∧ s.Exact input := by
  have hkeep : ∀ b w, ¬ Forgets b w input → (s.placements.copy b w).isSome = true →
      ((s.process input).1.placements.copy b w).isSome = true := by
    intro b w hf hw
    obtain ⟨status,hc⟩ := Option.isSome_iff_exists.mp hw
    rw [Option.isSome_iff_exists]
    cases hs : stored b w input with
    | none => exact ⟨status,(copy_process s input).mpr (.inr ⟨hs,hf,hc⟩)⟩
    | some status' => exact ⟨status',(copy_process s input).mpr (.inl hs)⟩
  have placed : (s.process input).1.Placed := by
    refine ⟨fun b w hw => ?_,fun b hb => ?_,fun b hb => ?_⟩
    · obtain ⟨status,hc⟩ := Option.isSome_iff_exists.mp hw
      rw [workers_process]
      rcases (copy_process s input).mp hc with hs | ⟨_,hf,hc⟩
      · exact .inr (hg.stored hs).symm
      · refine .inr ⟨?_,h.connected b w (by simp [hc])⟩
        rintro rfl
        exact hf rfl
    · rcases (refs_process s input).mp hb with ⟨ns,rfl⟩ | ⟨hd,hb⟩
      · obtain ⟨w,hw⟩ := hg.2
        exact ⟨w,hkeep b w id hw⟩
      · obtain ⟨w,hf,hw⟩ := h.stays hg hb hd
        exact ⟨w,hkeep b w hf hw⟩
    · rcases (refs_process s input).mp hb with ⟨ns,rfl⟩ | ⟨-,hb⟩
      · exact hg.1
      · exact h.canonical b hb
  refine ⟨placed,fun b hb => placed.kept hb,fun port hp => ?_,fun port hp hl hk => ?_⟩
  · obtain ⟨w,rfl,b,hb,hd,hparse⟩ := (invalidations_process s input).mp hp
    obtain ⟨n,hn,rfl⟩ := h.canonical b hb
    rw [parseU64_toString hn] at hparse
    cases hparse
    rintro ⟨w',_,hw'⟩
    obtain ⟨status,hc⟩ := Option.isSome_iff_exists.mp hw'
    rcases (copy_process s _).mp hc with hs | ⟨_,hf,hc⟩
    · cases hs
    · exact hd (hg _ hb ⟨w',hf,by rw [hc]; rfl⟩)
  · have hout : toString port ∉ (s.process input).1.artifactRefs := fun hb => hk (placed.kept hb)
    rw [refs_process,not_or] at hout
    have hb := hp.resolve_right hout.1
    have hd : Drops s (toString port) input := by_contra (fun hd => hout.2 ⟨hd,hb⟩)
    cases input with
    | workerRemoved w =>
      obtain ⟨n,hn,heq⟩ := h.canonical _ hb
      cases toString_inj heq
      exact (invalidations_process s _).mpr ⟨w,rfl,_,hb,hd,parseU64_toString hn⟩
    | artifactReleased b ns => exact absurd (congrArg (SchedulerCoreInput.artifactReleased · ns) hd.symm) (hl ns)
    | _ => exact hd.elim

/-- Every step of a run meets a condition on the state before it. -/
abbrev Along (allowed : SchedulerCore → SchedulerCoreInput → Prop) (s : SchedulerCore) :
    List SchedulerCoreInput → Prop :=
  Runs.Along (fun s input => some (s.process input).1) allowed s

theorem Placed.run : ∀ (before : List SchedulerCoreInput) (s : SchedulerCore)
    (after : List SchedulerCoreInput), s.Placed → s.Along Guarded (before ++ after) →
    (s.run before).1.Placed ∧ (s.run before).1.Along Guarded after := by
  intro before
  induction before with
  | nil => exact fun _ _ h hg => ⟨h,hg⟩
  | cons input before ih => exact fun s after h hg => ih _ after (h.step hg.1).1 hg.2

/-- In every run whose steps are guarded, every step is exact. -/
theorem invalidation_exact (inputs : List SchedulerCoreInput) (hg : new.Along Guarded inputs) :
    ∀ before input after, inputs = before ++ input :: after → (new.run before).1.Exact input := by
  rintro before input after rfl
  obtain ⟨placed,hg⟩ := Placed.run before new (input :: after) .init hg
  exact (placed.step hg.1).2

def sampleCandidate (w : WorkerId) : WorkerCandidate := ⟨w,.normal,0,false,true⟩

def sampleOwner : NamespaceId := ⟨"demo",1⟩

/-- An artifact is written on worker 1, committed and referenced. -/
def samplePlacement : List SchedulerCoreInput :=
  [.workerUpdate 1 (sampleCandidate 1),.workerUpdate 2 (sampleCandidate 2),
    .artifactEvent 1 (.writeStarted "0" "pool"),.artifactEvent 1 (.writeCommitted "0" "pool" 64),
    .artifactReferenced "0" sampleOwner]

/-- The loss of the only holder is told. -/
theorem invalidation_exact_sample : (new.run samplePlacement).1.Exact (.workerRemoved 1) ∧
    ((new.run samplePlacement).1.process (.workerRemoved 1)).2.artifactInvalidations = [0] := by
  have only : (new.run samplePlacement).1.Guarded (.workerRemoved 1) := by
    intro a ha ⟨w',hne,hw'⟩
    have hrefs : (new.run samplePlacement).1.artifactRefs =
        (∅ : Table ArtifactId NamespaceId).insert "0" sampleOwner := rfl
    have hcopies : (new.run samplePlacement).1.placements.copies "0" =
        (∅ : Table WorkerId ArtifactStatus).insert 1 (.ready "pool" 64) := rfl
    rw [hrefs,mem_insert] at ha
    obtain rfl := ha.resolve_right (notMem_empty a)
    rw [copy,hcopies,lookup_insert_if,if_neg hne,lookup_empty] at hw'
    cases hw'
  have connected : 1 ∈ (new.run (samplePlacement.take 2)).1.workers ∧
      1 ∈ (new.run (samplePlacement.take 3)).1.workers := by
    decide +kernel
  have along : new.Along Guarded (samplePlacement ++ [.workerRemoved 1]) :=
    ⟨trivial,trivial,connected.1,connected.2,⟨⟨0,by decide,rfl⟩,1,by decide +kernel⟩,only,trivial⟩
  exact ⟨invalidation_exact _ along samplePlacement (.workerRemoved 1) [] rfl,by decide +kernel⟩

/-- An artifact that is still being written on worker 1 is invalidated with worker 2, which never
had it; a failed transfer takes the only copy of a referenced artifact without a word, and so does
a reference that comes after the holder has left. -/
theorem invalidation_inexact :
    let writing := (new.run [.workerUpdate 1 (sampleCandidate 1),.workerUpdate 2 (sampleCandidate 2),
      .artifactEvent 1 (.writeStarted "0" "pool"),.artifactReferenced "0" sampleOwner]).1
    let lost := writing.process (.workerRemoved 2)
    let failed := (new.run samplePlacement).1.process (.artifactEvent 1 (.transferFailed "0"))
    let late := (new.run (samplePlacement.take 4 ++ [.workerRemoved 1])).1.process
      (.artifactReferenced "0" sampleOwner)
    (lost.2.artifactInvalidations = [0] ∧ 1 ∈ lost.1.workers ∧
      lost.1.placements.copy "0" 1 = some .writing) ∧
    (failed.2.artifactInvalidations = [] ∧ "0" ∈ failed.1.artifactRefs ∧
      (failed.1.placements.copies "0").keys = []) ∧
    late.2.artifactInvalidations = [] ∧ "0" ∈ late.1.artifactRefs ∧
      (late.1.placements.copies "0").keys = [] := by
  decide +kernel

/-- The input completes a copy of the artifact on the worker. -/
def Commits (a : ArtifactId) (w : WorkerId) : SchedulerCoreInput → Prop
  | .artifactEvent w' (.writeCommitted a' _ _) | .artifactEvent w' (.transferReceived a' _ _) =>
    a' = a ∧ w' = w
  | _ => False

def Releases (a : ArtifactId) : SchedulerCoreInput → Prop
  | .artifactReleased a' _ => a' = a
  | _ => False

/-- The delete commands for the artifact that the worker was sent. -/
def deletes (effects : List SchedulerEffects) (w : WorkerId) (a : ArtifactId) : Nat :=
  (effects.flatMap SchedulerEffects.deleteCommands).countP (fun c =>
    c.workerId = w ∧ c.artifactId = a)

/-- The steps after which a release finds every complete copy: at most one worker has one at the
release, none is completed after it, none is forgotten before it, and a worker that left does not
come back. -/
def Tidy (history : List SchedulerCoreInput) (s : SchedulerCore) : SchedulerCoreInput → Prop
  | .artifactEvent w (.writeStarted a _) | .artifactEvent w (.transferFailed a) =>
    w ∉ s.placements.workersWithArtifact a
  | .artifactEvent _ (.writeCommitted a _ _) | .artifactEvent _ (.transferReceived a _ _) =>
    ∀ input ∈ history, ¬ Releases a input
  | .artifactReleased a _ => (s.placements.workersWithArtifact a).length ≤ 1
  | .workerUpdate w _ => .workerRemoved w ∉ history
  | _ => True

/-- Every step of a run is tidy, given what came before. -/
abbrev TidyRun (history : List SchedulerCoreInput) (s : SchedulerCore) :
    List SchedulerCoreInput → Prop :=
  Runs.Along (fun x input => some (x.1 ++ [input],(x.2.process input).1))
    (fun x => Tidy x.1 x.2) (history,s)

/-- After the input the worker has no complete copy of the artifact. -/
def Loses (a : ArtifactId) (w : WorkerId) : SchedulerCoreInput → Prop
  | .artifactEvent w' (.writeStarted a' _) | .artifactEvent w' (.transferFailed a') =>
    a' = a ∧ w' = w
  | .artifactReleased a' _ => a' = a
  | .workerRemoved w' => w' = w
  | _ => False

theorem ready_process (s : SchedulerCore) (input : SchedulerCoreInput) (a : ArtifactId)
    (w : WorkerId) : w ∈ (s.process input).1.placements.workersWithArtifact a ↔
      Commits a w input ∨ ¬ Loses a w input ∧ w ∈ s.placements.workersWithArtifact a := by
  simp only [mem_workersWithArtifact,copy_process]
  cases input with
  | artifactEvent w' event =>
    cases event <;> simp only [stored,Forgets,Commits,Loses] <;> grind [ArtifactStatus.isReady]
  | _ =>
    simp only [stored,Forgets,Commits,Loses]
    grind

theorem Tidy.commits (ht : Tidy history s input) (hc : Commits a w input) :
    (∀ i ∈ history, ¬ Releases a i) ∧ ¬ Releases a input := by
  cases input with
  | artifactEvent w' event =>
    cases event with
    | writeCommitted b pool size | transferReceived b pool size => exact ⟨hc.1 ▸ ht,id⟩
    | writeStarted b pool | transferFailed b => exact hc.elim
  | _ => exact hc.elim

theorem Tidy.loses (ht : Tidy history s input) (hl : Loses a w input)
    (hw : w ∈ s.placements.workersWithArtifact a) : Releases a input ∨ input = .workerRemoved w := by
  cases input with
  | artifactEvent w' event =>
    cases event with
    | writeStarted b pool | transferFailed b =>
      obtain ⟨rfl,rfl⟩ := hl
      exact absurd hw ht
    | writeCommitted b pool size | transferReceived b pool size => exact hl.elim
  | artifactReleased b ns => exact .inl hl
  | workerRemoved w' => exact .inr (congrArg _ hl)
  | _ => exact hl.elim

theorem Tidy.connected (ht : Tidy history s input) (hw : w ∈ (s.process input).1.workers) :
    (w ∈ s.workers ∨ SchedulerCoreInput.workerRemoved w ∉ history) ∧ input ≠ .workerRemoved w := by
  rcases (workers_process s input).mp hw with ⟨c,rfl⟩ | ⟨hne,hw⟩
  · exact ⟨.inr ht,nofun⟩
  · exact ⟨.inl hw,hne⟩

/-- Only a release is followed by a delete command, for a complete copy. -/
theorem deleteCommands_spec (h : c ∈ (s.process input).2.deleteCommands) :
    Releases c.artifactId input ∧ c.workerId ∈ s.placements.workersWithArtifact c.artifactId := by
  have plain : Plain input → _ := process_plain s
  cases input with
  | requestLease key resume | dropRequest key | workerUpdate w candidate =>
    rw [(plain trivial).2.2.2.2] at h
    cases h
  | artifactReleased b ns =>
    simp only [process,artifactReleased] at h
    cases hany : s.placements.anyWorkerWithArtifact b with
    | none => simp [hany] at h
    | some found =>
      simp only [hany,mem_singleton] at h
      subst h
      exact ⟨rfl,anyWorker_ready hany⟩
  | workerRemoved w | artifactEvent w event | artifactReferenced b ns => cases h

/-- The only complete copy is deleted. -/
theorem deleteCommands_released (hone : (s.placements.workersWithArtifact a).length ≤ 1)
    (hw : w ∈ s.placements.workersWithArtifact a) :
    (s.process (.artifactReleased a ns)).2.deleteCommands.countP (fun c =>
      c.workerId = w ∧ c.artifactId = a) = 1 := by
  simp only [process,artifactReleased]
  cases hany : s.placements.anyWorkerWithArtifact a with
  | none => exact absurd hw (anyWorker_none hany)
  | some found =>
    have hfound := anyWorker_ready hany
    obtain ⟨w₁,hl⟩ := length_eq_one_iff.mp (Nat.le_antisymm hone (length_pos_of_mem hw))
    rw [hl,mem_singleton] at hw hfound
    simp [hfound,hw]

/-- Where the complete copies are before a release, and that they are gone after it. -/
structure Swept (history : List SchedulerCoreInput) (s : SchedulerCore)
    (effects : List SchedulerEffects) : Prop where
  connected : ∀ w ∈ s.workers, SchedulerCoreInput.workerRemoved w ∉ history
  ready : ∀ a w, (∀ input ∈ history, ¬ Releases a input) → (∃ input ∈ history, Commits a w input) →
    SchedulerCoreInput.workerRemoved w ∉ history → w ∈ s.placements.workersWithArtifact a
  unsent : ∀ a w, (∀ input ∈ history, ¬ Releases a input) → deletes effects w a = 0
  gone : ∀ a w, (∃ input ∈ history, Releases a input) → w ∉ s.placements.workersWithArtifact a
  sent : ∀ a w, (∃ input ∈ history, Releases a input) → (∃ input ∈ history, Commits a w input) →
    SchedulerCoreInput.workerRemoved w ∉ history → deletes effects w a = 1

namespace Swept

theorem init : Swept [] new [] where
  connected w h := absurd h (notMem_empty w)
  ready a w _ hc := by simp at hc
  unsent a w _ := rfl
  gone a w h := by simp at h
  sent a w h := by simp at h

section snoc
variable {p : α → Prop}

theorem exists_snoc : (∃ i ∈ l ++ [x], p i) ↔ (∃ i ∈ l, p i) ∨ p x := by
  simp [or_and_right,exists_or]

theorem forall_snoc : (∀ i ∈ l ++ [x], p i) ↔ (∀ i ∈ l, p i) ∧ p x := by
  simp [or_imp,forall_and]

theorem notMem_snoc : y ∉ l ++ [x] ↔ y ∉ l ∧ x ≠ y := by
  simp [eq_comm]

end snoc

theorem deletes_snoc (effects : List SchedulerEffects) (last : SchedulerEffects) (w : WorkerId)
    (a : ArtifactId) : deletes (effects ++ [last]) w a =
      deletes effects w a + last.deleteCommands.countP (fun c => c.workerId = w ∧ c.artifactId = a) := by
  simp [deletes,flatMap_append,countP_append]

/-- Every tidy step keeps it. -/
theorem step (h : Swept history s effects) (ht : Tidy history s input) :
    Swept (history ++ [input]) (s.process input).1 (effects ++ [(s.process input).2]) := by
  have silent : ∀ {a} w, (Releases a input → ∀ w, w ∉ s.placements.workersWithArtifact a) →
      deletes (effects ++ [(s.process input).2]) w a = deletes effects w a := by
    intro a w hr
    rw [deletes_snoc,Nat.add_eq_left,countP_eq_zero]
    intro c hc
    obtain ⟨hrel,hw⟩ := deleteCommands_spec hc
    simp only [decide_eq_true_eq,not_and]
    rintro - rfl
    exact hr hrel _ hw
  refine ⟨fun w hw => ?_,fun a w ho hc hw => ?_,fun a w ho => ?_,fun a w hr hw => ?_,
    fun a w hr hc hw => ?_⟩
  · obtain ⟨hw,hne⟩ := ht.connected hw
    exact notMem_snoc.mpr ⟨hw.elim (h.connected w) id,hne⟩
  · obtain ⟨ho,hopen⟩ := forall_snoc.mp ho
    obtain ⟨hw,hne⟩ := notMem_snoc.mp hw
    refine (ready_process s input a w).mpr ((exists_snoc.mp hc).symm.imp_right (fun hc => ?_))
    have hready := h.ready a w ho hc hw
    exact ⟨fun hl => (ht.loses hl hready).elim hopen hne,hready⟩
  · obtain ⟨ho,hopen⟩ := forall_snoc.mp ho
    rw [silent w (fun hr => absurd hr hopen)]
    exact h.unsent a w ho
  · rcases (ready_process s input a w).mp hw with hc | ⟨hl,hw⟩
    · obtain ⟨ho,hopen⟩ := ht.commits hc
      exact (exists_snoc.mp hr).elim (fun ⟨i,hi,hr⟩ => ho i hi hr) hopen
    · rcases exists_snoc.mp hr with hr | hr
      · exact h.gone a w hr hw
      · cases input <;> first | exact hr.elim | exact hl hr
  · have stays := (notMem_snoc.mp hw).1
    have committed : ∃ i ∈ history, Commits a w i := by
      refine (exists_snoc.mp hc).resolve_right (fun hc => ?_)
      obtain ⟨ho,hopen⟩ := ht.commits hc
      exact (exists_snoc.mp hr).elim (fun ⟨i,hi,hr⟩ => ho i hi hr) hopen
    by_cases hprior : ∃ i ∈ history, Releases a i
    · -- Released before: no copy is left, and nothing more is sent.
      rw [silent w (fun _ w => h.gone a w hprior)]
      exact h.sent a w hprior committed stays
    · have ho : ∀ i ∈ history, ¬ Releases a i := fun i hi hr => hprior ⟨i,hi,hr⟩
      have hr := (exists_snoc.mp hr).resolve_left hprior
      rw [deletes_snoc,h.unsent a w ho,Nat.zero_add]
      cases input with
      | artifactReleased b ns =>
        cases hr
        exact deleteCommands_released ht (h.ready a w ho committed stays)
      | _ => exact hr.elim

theorem run : ∀ (inputs history : List SchedulerCoreInput) (s : SchedulerCore)
    (effects : List SchedulerEffects), Swept history s effects → TidyRun history s inputs →
    Swept (history ++ inputs) (s.run inputs).1 (effects ++ (s.run inputs).2) := by
  intro inputs
  induction inputs with
  | nil =>
    intro history s effects h _
    simpa [SchedulerCore.run] using h
  | cons input inputs ih =>
    intro history s effects h ht
    have := ih _ _ _ (h.step ht.1) ht.2
    simp only [append_assoc,singleton_append] at this
    exact this

end Swept

/-- In every tidy run, every connected worker on which a copy of a released artifact was completed
is sent one delete command for it. -/
theorem released_deleted (inputs : List SchedulerCoreInput) (ht : TidyRun [] new inputs)
    (a : ArtifactId) (hr : ∃ input ∈ inputs, Releases a input) :
    ∀ w ∈ (new.run inputs).1.workers, (∃ input ∈ inputs, Commits a w input) →
      deletes (new.run inputs).2 w a = 1 := by
  intro w hw hc
  have h := Swept.run inputs [] new [] .init ht
  exact h.sent a w hr hc (h.connected w hw)

theorem released_deleted_sample :
    deletes (new.run (samplePlacement ++ [.artifactReleased "0" sampleOwner])).2 1 "0" = 1 := by
  have tidy : TidyRun [] new (samplePlacement ++ [.artifactReleased "0" sampleOwner]) := by
    refine ⟨?_,?_,?_,?_,trivial,?_,trivial⟩
    · simp [Tidy]
    · simp [Tidy]
    · simp only [Tidy]
      decide +kernel
    · simp [Tidy,Releases]
    · simp only [Tidy]
      decide +kernel
  exact released_deleted _ tidy "0" ⟨.artifactReleased "0" sampleOwner,by simp,rfl⟩ 1
    (by decide +kernel) ⟨.artifactEvent 1 (.writeCommitted "0" "pool" 64),by simp [samplePlacement],
      rfl,rfl⟩

/-- Two workers have complete copies and only one is told to delete its copy; a copy that is
completed after the release is never deleted. -/
theorem released_copy_stays :
    let copied := samplePlacement ++ [.artifactEvent 2 (.transferReceived "0" "pool" 64),
      .artifactReleased "0" sampleOwner]
    let late : List SchedulerCoreInput := [.workerUpdate 1 (sampleCandidate 1),
      .artifactEvent 1 (.writeStarted "0" "pool"),.artifactReferenced "0" sampleOwner,
      .artifactReleased "0" sampleOwner,.artifactEvent 1 (.writeCommitted "0" "pool" 64)]
    ((new.run copied).1.workers.keys = [2,1] ∧
      deletes (new.run copied).2 1 "0" + deletes (new.run copied).2 2 "0" = 1) ∧
    (new.run late).1.workers.keys = [1] ∧ deletes (new.run late).2 1 "0" = 0 ∧
      (new.run late).1.placements.workersWithArtifact "0" = [1] := by
  decide +kernel

end SchedulerCore

end Distvirt
