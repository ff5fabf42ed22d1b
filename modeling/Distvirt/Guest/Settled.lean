import Distvirt.Guest.Memory

/-! A deflation of the balloon is over when the guest has seen it, as long as the balloon shrinks only
from where the host has brought it. -/

namespace Distvirt.Guest.Memory

variable {s : Memory} {op : MemoryOp}

/-- What the changes that wait take. -/
def claimed (changes : List (Nat × Nat)) : Nat := released (changes.map Prod.swap)

/-- The balloon as the guest has seen it, without the changes that wait. -/
def observed (s : Memory) : Nat := s.balloon + released s.changes - claimed s.changes

/-- When the balloon is where the host was last asked to bring it, nothing is pending. -/
def Settled (s : Memory) : Prop := s.observed = s.target → s.manager.pendingDeflationMib = 0

/-- The host is asked for less only when the guest has seen all that it asked for before. -/
def Reached (s : Memory) : MemoryOp → Prop
  | .pressure _ | .psi true _ =>
    s.manager.Deflates → s.manager.balloonAmountMib ≤ s.observed
  | _ => True

instance (s : Memory) : DecidablePred s.Reached
  | .pressure _ | .psi true _ => inferInstanceAs (Decidable (_ → _))
  | .psi false _ | .hostMoves _ | .pagesChanged _ _ _ _ | .tick _ _ _ _ | .deadline _ _ =>
    isTrue trivial

/-- The balloon is on its way down to `amount` and what is pending is the rest of the way, or it is on
its way up and nothing is pending. -/
def Course (amount pending balloon back more : Nat) : Prop :=
  more = 0 ∧ amount ≤ balloon ∧ pending + amount = balloon + back ∨
    back = 0 ∧ balloon ≤ amount ∧ more ≤ balloon ∧ pending = 0

structure OnCourse (s : Memory) : Prop where
  heard : s.target = s.manager.balloonAmountMib
  course : Course s.manager.balloonAmountMib s.manager.pendingDeflationMib s.balloon
    (released s.changes) (claimed s.changes)

theorem OnCourse.settled (h : s.OnCourse) : s.Settled := by
  intro hobserved
  rw [h.heard,observed] at hobserved
  have hcourse := h.course
  simp only [Course] at hcourse
  omega

theorem OnCourse.still (h : s.OnCourse)
    (hs : Still s.manager (s.manager.operate op).1 (s.manager.operate op).2)
    (hb : (s.step op).balloon = s.balloon) (hc : (s.step op).changes = s.changes) :
    (s.step op).OnCourse := by
  have hm : (s.step op).manager = (s.manager.operate op).1 := rfl
  refine ⟨?_,?_⟩
  · rw [target_step,hs.silent,hb,hm,hs.balloon]
    exact h.heard
  · rw [hm,hb,hc,hs.balloon,hs.pending]
    exact h.course

theorem OnCourse.pressure (h : s.OnCourse) (now : Nat)
    (hr : s.manager.Deflates → s.manager.balloonAmountMib ≤ s.observed)
    (ho : s.manager.operate op = s.manager.handlePressure now)
    (hb : (s.step op).balloon = s.balloon) (hc : (s.step op).changes = s.changes) :
    (s.step op).OnCourse := by
  rcases handlePressure_cases s.manager now with hs | ⟨hdeflates,k,hk,m',heq,hballoon,hpending,-⟩
  · exact h.still (ho ▸ hs) hb hc
  · rw [heq] at ho
    have hm : (s.step op).manager = m' := by simp only [step,ho]
    have hcourse := h.course
    have hobserved := hr hdeflates
    simp only [observed] at hobserved
    refine ⟨?_,?_⟩
    · rw [target_step,ho,hm]
      simp [Dispatch.take]
    · rw [hm,hb,hc,hballoon,hpending]
      simp only [Course] at hcourse ⊢
      omega

theorem claimed_hostMoves (s : Memory) (balloon : Nat) :
    claimed (s.step (.hostMoves balloon)).changes = claimed s.changes + (balloon - s.balloon) := by
  change claimed (if balloon = s.balloon then _ else _) = _
  split
  · omega
  · simp [claimed,released,virtioBalloonPagesPerMib]

theorem OnCourse.hostMoves (h : s.OnCourse) {balloon : Nat} (hf : s.Followed (.hostMoves balloon)) :
    (s.step (.hostMoves balloon)).OnCourse := by
  obtain ⟨hheard,hcourse⟩ := h
  obtain ⟨hmin,hmax⟩ := hf
  refine ⟨target_hostMoves hheard hmin hmax,?_⟩
  rw [released_hostMoves,claimed_hostMoves]
  change Course s.manager.balloonAmountMib s.manager.pendingDeflationMib balloon _ _
  simp only [Course] at hcourse ⊢
  omega

theorem OnCourse.pagesChanged (h : s.OnCourse)
    (hf : s.Followed (.pagesChanged oldPages newPages written p)) :
    (s.step (.pagesChanged oldPages newPages written p)).OnCourse := by
  obtain ⟨hheard,hcourse⟩ := h
  obtain ⟨m',events,heq,hballoon,hpending,-,-,-,hsilent⟩ :=
    onBalloonPagesChanged_effect s.manager oldPages newPages rfl written p
  have hop : s.manager.operate (.pagesChanged oldPages newPages written p) = (m',events) := heq
  have hm : (s.step (.pagesChanged oldPages newPages written p)).manager = m' := by
    simp only [step,hop]
  refine ⟨?_,?_⟩
  · rw [target_step,hop,hsilent,hm,hballoon]
    exact hheard
  · rw [hm,hballoon,hpending]
    change Course _ _ s.balloon (released s.changes.tail) (claimed s.changes.tail)
    rw [head_changes hf] at hcourse
    simp only [Course,claimed,released,List.map_cons,List.sum_cons,Prod.fst_swap,Prod.snd_swap] at hcourse ⊢
    omega

theorem OnCourse.tick (h : s.OnCourse) : (s.step (.tick now resolving p written)).OnCourse := by
  rcases tickInflation_cases s.manager now resolving p written with
    hs | ⟨hgrows,m',events,high,htick,-,-,-,hballoon,hpending,-⟩
  · exact h.still hs rfl rfl
  · change s.manager.operate (.tick now resolving p written) = _ at htick
    have hcourse := h.course
    refine ⟨?_,?_⟩
    · rw [target_step,htick,List.foldl_append]
      simp only [step,htick]
      rfl
    · simp only [Course,step,htick,hballoon,hpending,hgrows.1,and_true] at hcourse ⊢
      omega

theorem OnCourse.step (h : s.OnCourse) (hf : s.Followed op) (hr : s.Reached op) :
    (s.step op).OnCourse := by
  cases op with
  | pressure now => exact h.pressure now hr rfl rfl rfl
  | psi full now =>
    cases full with
    | true => exact h.pressure now hr rfl rfl rfl
    | false => exact h.still ⟨rfl,rfl,rfl,rfl,rfl,fun _ => rfl⟩ rfl rfl
  | hostMoves balloon => exact h.hostMoves hf
  | pagesChanged oldPages newPages written p => exact h.pagesChanged hf
  | tick now resolving p written => exact h.tick
  | deadline now p => exact h.still (checkDeflationDeadline_still _ _ _) rfl rfl

/-- In a run that asks for less only when the guest has seen all that it asked for before, a deflation
settles. -/
theorem deflation_settles (balloonMib vmMemMib : Nat) (written : Bool)
    (h : Runs.Along (fun s op => some (s.step op)) (fun s op => s.Followed op ∧ s.Reached op)
      (start balloonMib vmMemMib written) ops) :
    (ops.foldl Memory.step (start balloonMib vmMemMib written)).Settled := by
  have hstart : (start balloonMib vmMemMib written).OnCourse :=
    ⟨rfl,.inl ⟨rfl,Nat.le_refl _,Nat.zero_add _⟩⟩
  have hcourse := h.keeps (I := OnCourse) (fun s op s' hs ha heq => by
    cases heq
    exact hs.step ha.1 ha.2) hstart (Runs.run_some _ _ _)
  exact hcourse.settled

theorem deflation_settles_cycle : (cycle.foldl Memory.step (start 64 512 true)).Settled :=
  deflation_settles 64 512 true (by decide +kernel)

/-- The balloon is to grow by a step, and pressure comes before the host has moved it. -/
def overtaken : List MemoryOp :=
  cycle ++ [.pressure 200000,.hostMoves 16,.pagesChanged (32 * 256) (16 * 256) true ⟨none,none⟩]

/-- The guest then waits for memory that the host never had. -/
theorem overtaken_not_settled :
    Runs.Along (fun s op => some (s.step op)) Followed (start 64 512 true) overtaken ∧
    ¬ (overtaken.foldl Memory.step (start 64 512 true)).Settled := by
  have hrun : Runs.Along (fun s op => some (s.step op)) Followed (start 64 512 true) overtaken := by
    decide +kernel
  have hend : (overtaken.foldl Memory.step (start 64 512 true)).observed =
        (overtaken.foldl Memory.step (start 64 512 true)).target ∧
      (overtaken.foldl Memory.step (start 64 512 true)).manager.pendingDeflationMib = 16 := by
    decide +kernel
  refine ⟨hrun,fun h => ?_⟩
  cases hend.2.symm.trans (h hend.1)

end Distvirt.Guest.Memory
