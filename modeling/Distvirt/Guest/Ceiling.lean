import Distvirt.Guest.Memory

/-! The memory that the guest lets its containers use, with the balloon and what the kernel keeps,
fits into the VM, as long as the balloon grows only where the limits are apart. -/

namespace Distvirt.Guest.Memory

variable {s : Memory} {op : MemoryOp}

/-- The ceiling of the containers, the balloon with what it has still to give back, and the part of
the kernel are no more than the VM has. -/
def Fits (s : Memory) : Prop :=
  s.manager.currentCgroupMax +
    bytes (s.manager.balloonAmountMib + s.manager.pendingDeflationMib) + bytes kernelBufferMib ≤
    bytes s.manager.vmMemMib

/-- A tick reads back what was written, if it can read the file. -/
def ReadsBack (s : Memory) : MemoryOp → Prop
  | .tick _ _ p _ => p.high = none ∨ p.high = some s.high
  | _ => True

/-- The balloon grows only while `memory.high` is the gap below `memory.max`. -/
def Gapped (s : Memory) : MemoryOp → Prop
  | .tick now _ p written => s.manager.Grows now p written →
    s.manager.currentCgroupHigh + bytes highToMaxGapMib ≤ s.manager.currentCgroupMax
  | _ => True

instance (s : Memory) : DecidablePred s.ReadsBack
  | .tick _ _ _ _ => inferInstanceAs (Decidable (_ ∨ _))
  | .hostMoves _ | .pagesChanged _ _ _ _ | .pressure _ | .psi _ _ | .deadline _ _ => isTrue trivial

instance (s : Memory) : DecidablePred s.Gapped
  | .tick _ _ _ _ => inferInstanceAs (Decidable (_ → _))
  | .hostMoves _ | .pagesChanged _ _ _ _ | .pressure _ | .psi _ _ | .deadline _ _ => isTrue trivial

structure Sound (s : Memory) : Prop where
  fits : s.Fits
  file : s.high = s.manager.currentCgroupHigh ∨ s.high = u64Max
  heard : s.target = s.manager.balloonAmountMib
  due : released s.changes ≤ s.manager.pendingDeflationMib
  held : s.balloon + released s.changes ≤ s.manager.balloonAmountMib + s.manager.pendingDeflationMib

/-- The balloon does not change, and neither do the limits. -/
theorem Sound.still (h : s.Sound) (hs : Still s.manager (s.manager.operate op).1 (s.manager.operate op).2)
    (hb : (s.step op).balloon = s.balloon) (hc : (s.step op).changes = s.changes) :
    (s.step op).Sound := by
  have hm : (s.step op).manager = (s.manager.operate op).1 := rfl
  refine ⟨?_,?_,?_,?_,?_⟩
  · simp only [Fits,hm,hs.balloon,hs.pending,hs.max,hs.vm]
    exact h.fits
  · simp only [step]
    split
    · exact .inl rfl
    · rw [hs.high]
      exact h.file
  · rw [target_step,hs.silent,hb,hm,hs.balloon]
    exact h.heard
  · rw [hc,hm,hs.pending]
    exact h.due
  · rw [hb,hc,hm,hs.balloon,hs.pending]
    exact h.held

theorem Sound.pressure (h : s.Sound) (now : Nat) (ho : s.manager.operate op = s.manager.handlePressure now)
    (hw : s.writes op = false) (hb : (s.step op).balloon = s.balloon)
    (hc : (s.step op).changes = s.changes) : (s.step op).Sound := by
  rcases handlePressure_cases s.manager now with
    hs | ⟨-,k,hk,m',heq,hballoon,hpending,hmax,hhigh,hvm⟩
  · exact h.still (ho ▸ hs) hb hc
  · rw [heq] at ho
    obtain ⟨hfits,hfile,-,hdue,hheld⟩ := h
    have hm : (s.step op).manager = m' := by simp only [step,ho]
    refine ⟨?_,?_,?_,?_,?_⟩
    · simp only [Fits,hm,hballoon,hpending,hmax,hvm] at hfits ⊢
      rwa [show s.manager.balloonAmountMib - k + (s.manager.pendingDeflationMib + k) =
        s.manager.balloonAmountMib + s.manager.pendingDeflationMib by omega]
    · simp only [step,hw,ho]
      rw [hhigh]
      exact hfile
    · rw [target_step,ho,hm]
      simp [Dispatch.take]
    · rw [hc,hm,hpending]
      omega
    · rw [hb,hc,hm,hballoon,hpending]
      omega

theorem Sound.hostMoves (h : s.Sound) {balloon : Nat} (ha : s.Followed (.hostMoves balloon)) :
    (s.step (.hostMoves balloon)).Sound := by
  obtain ⟨hfits,hfile,hheard,hdue,hheld⟩ := h
  obtain ⟨hmin,hmax⟩ := ha
  have htarget := target_hostMoves hheard hmin hmax
  rw [hheard] at hmin hmax
  refine ⟨hfits,hfile,htarget,?_,?_⟩
  · rw [released_hostMoves]
    change _ ≤ s.manager.pendingDeflationMib
    omega
  · rw [released_hostMoves]
    change balloon + _ ≤ s.manager.balloonAmountMib + s.manager.pendingDeflationMib
    omega

theorem Sound.pagesChanged (h : s.Sound)
    (ha : s.Followed (.pagesChanged oldPages newPages written p)) :
    (s.step (.pagesChanged oldPages newPages written p)).Sound := by
  obtain ⟨hfits,hfile,hheard,hdue,hheld⟩ := h
  -- the change gives back `r`, no more than is due
  obtain ⟨r,hr⟩ : ∃ r, oldPages / virtioBalloonPagesPerMib - newPages / virtioBalloonPagesPerMib = r :=
    ⟨_,rfl⟩
  have hrest : released s.changes = r + released s.changes.tail := by
    rw [head_changes ha]
    simp [released,hr]
  rw [hrest] at hdue hheld
  obtain ⟨m',events,heq,hballoon,hpending,hvm,hmax,hhigh,hsilent⟩ :=
    onBalloonPagesChanged_effect s.manager _ _ hr written p
  have hop : s.manager.operate (.pagesChanged oldPages newPages written p) = (m',events) := heq
  have hm : (s.step (.pagesChanged oldPages newPages written p)).manager = m' := by
    simp only [step,hop]
  refine ⟨?_,?_,?_,?_,?_⟩
  · simp only [Fits,hm,hballoon,hpending,hvm,bytes,kernelBufferMib] at hfits hmax ⊢
    omega
  · simp only [step,hop]
    split
    · exact .inl rfl
    · rename_i hw
      rw [hhigh (Bool.eq_false_iff.mpr hw)]
      exact hfile
  · rw [target_step,hop,hsilent,hm,hballoon]
    exact hheard
  · rw [hm,hpending]
    change released s.changes.tail ≤ _
    omega
  · rw [hm,hballoon,hpending]
    change s.balloon + released s.changes.tail ≤ _
    omega

/-- The limit that is read is the one that the manager holds. -/
theorem Sound.reads (h : s.Sound) (ha : s.ReadsBack (.tick now resolving p written))
    {high : Nat} (hp : p.high = some high) (hmax : high ≠ u64Max) : high = s.manager.currentCgroupHigh := by
  have hread : high = s.high := by
    rcases ha with hnone | hsome
    · rw [hp] at hnone
      cases hnone
    · rw [hp] at hsome
      exact Option.some.inj hsome
  rcases h.file with hfile | hfile
  · exact hread.trans hfile
  · exact absurd (hread.trans hfile) hmax

theorem Sound.tick (h : s.Sound) (ha : s.ReadsBack (.tick now resolving p written))
    (hg : s.Gapped (.tick now resolving p written)) :
    (s.step (.tick now resolving p written)).Sound := by
  rcases tickInflation_cases s.manager now resolving p written with
    hs | ⟨hgrows,m',events,high,htick,hp,hmax,hhigh,hballoon,hpending,hlimit,hvm⟩
  · exact h.still hs rfl rfl
  · change s.manager.operate (.tick now resolving p written) = _ at htick
    have hown := h.reads ha hp hmax
    have hgap := hg hgrows
    have hzero := hgrows.1
    obtain ⟨hfits,hfile,hheard,hdue,hheld⟩ := h
    refine ⟨?_,?_,?_,?_,?_⟩
    · have hraised := saturatingAdd_le (high - bytes inflationStepMib) (bytes highToMaxGapMib)
      simp only [Fits,step,htick,hballoon,hpending,hlimit,hvm]
      simp only [Fits,hzero,← hown,bytes,inflationStepMib,highToMaxGapMib,kernelBufferMib]
        at hfits hgap hhigh hraised ⊢
      omega
    · have hwrites : s.writes (.tick now resolving p written) = true := decide_eq_true hgrows
      simp only [step,hwrites,if_true]
      exact .inl trivial
    · rw [target_step,htick,List.foldl_append]
      simp only [step,htick]
      rfl
    · simp only [step,htick,hpending]
      omega
    · simp only [step,htick,hballoon,hpending,inflationStepMib]
      omega

theorem Sound.step (h : s.Sound) (hf : s.Followed op) (ha : s.ReadsBack op) (hg : s.Gapped op) :
    (s.step op).Sound := by
  cases op with
  | pressure now => exact h.pressure now rfl rfl rfl rfl
  | psi full now =>
    cases full with
    | true => exact h.pressure now rfl rfl rfl rfl
    | false => exact h.still ⟨rfl,rfl,rfl,rfl,rfl,fun _ => rfl⟩ rfl rfl
  | hostMoves balloon => exact h.hostMoves hf
  | pagesChanged oldPages newPages written p => exact h.pagesChanged hf
  | tick now resolving p written => exact h.tick ha hg
  | deadline now p => exact h.still (checkDeflationDeadline_still _ _ _) rfl rfl

end Distvirt.Guest.Memory
