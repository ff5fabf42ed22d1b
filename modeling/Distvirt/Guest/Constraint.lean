import Distvirt.Guest.Memory

/-! The host's picture of the constraint and the guest's: they part when a pressure event starts
another deflation while the guest is constrained. -/

namespace Distvirt.Guest

open Dispatch

/-- The operation starts a deflation while the manager is constrained. -/
def MemoryManager.Relapses (m : MemoryManager) (op : MemoryOp) : Prop :=
  ((∃ now, op = .pressure now) ∨ ∃ now, op = .psi true now) ∧
    m.constraintState.isConstrained = true ∧ m.balloonAmountMib ≠ 0 ∧
    m.pendingDeflationMib < m.stepSizeMib

namespace Memory

/-- The host takes the guest for constrained exactly if it is. -/
def Agrees (s : Memory) : Prop :=
  (Dispatch.ofEvents s.events).memoryConstrained = s.manager.constraintState.isConstrained

/-- A constraint is cleared only where the host knows of one. -/
def Matched (events : List GuestEvent) : Prop :=
  ∀ before after, events = before ++ .memoryConstraintCleared :: after →
    (Dispatch.ofEvents before).memoryConstrained = true

end Memory

namespace MemoryManager

variable {m : MemoryManager} {op : MemoryOp}

/-- What an operation makes of the constraint. -/
inductive Turned (m : MemoryManager) (op : MemoryOp) : MemoryManager × List GuestEvent → Prop where
  | keeps {m' : MemoryManager} (set : Option Nat) : ¬ m.Relapses op →
      m'.constraintState.isConstrained = m.constraintState.isConstrained →
      Turned m op (m',set.toList.map .balloonSet)
  | constrains {m' : MemoryManager} (reason : ConstraintReason) : ¬ m.Relapses op →
      m'.constraintState.isConstrained = true → Turned m op (m',[.memoryConstrained reason])
  | clears {m' : MemoryManager} (set : Option Nat) : ¬ m.Relapses op →
      m.constraintState.isConstrained = true → m'.constraintState.isConstrained = false →
      Turned m op (m',.memoryConstraintCleared :: set.toList.map .balloonSet)
  | relapses {m' : MemoryManager} (set : Nat) : m.Relapses op →
      m'.constraintState.isConstrained = false → Turned m op (m',[.balloonSet set])

theorem turned_pressure (hop : op = .pressure now ∨ op = .psi true now) :
    Turned m op ((m.suppressInflation now).handlePressure now) := by
  have hpressure : (∃ now, op = .pressure now) ∨ ∃ now, op = .psi true now := by
    rcases hop with h | h
    · exact .inl ⟨now,h⟩
    · exact .inr ⟨now,h⟩
  unfold handlePressure
  dsimp only [suppressInflation]
  split
  · rename_i hzero
    have hno : ¬ m.Relapses op := fun hr => hr.2.2.1 hzero
    split
    · exact .keeps none hno rfl
    · exact .constrains _ hno rfl
  · rename_i hballoon
    split
    · rename_i hpending
      refine .keeps none (fun hr => ?_) rfl
      have := hr.2.2.2
      omega
    · rename_i hpending
      cases hc : m.constraintState.isConstrained with
      | true => exact .relapses _ ⟨hpressure,hc,hballoon,by omega⟩ rfl
      | false =>
        refine .keeps (some _) (fun hr => ?_) hc.symm
        cases hc.symm.trans hr.2.1

theorem inflate_constraint (m : MemoryManager) (now : Nat) (p : Probe) (written : Bool) :
    (m.inflate now p written).1.constraintState = m.constraintState ∧
    ∃ set : Option Nat, (m.inflate now p written).2 = set.toList.map .balloonSet := by
  rcases m.inflate_cases now p written with ⟨-,streak,heq⟩ | ⟨high,-,-,-,-,heq⟩
  · rw [heq]
    exact ⟨rfl,none,rfl⟩
  · rw [heq]
    exact ⟨rfl,some _,rfl⟩

/-- Everything an operation can do to the constraint. -/
theorem turned_operate (m : MemoryManager) (op : MemoryOp) : Turned m op (m.operate op) := by
  cases op with
  | pressure now => exact turned_pressure (.inl rfl)
  | psi full now =>
    cases full with
    | true => exact turned_pressure (.inr rfl)
    | false => exact .keeps none (by simp [Relapses]) rfl
  | hostMoves balloon => exact .keeps none (by simp [Relapses]) rfl
  | pagesChanged oldPages newPages written p =>
    have hno : ¬ m.Relapses (.pagesChanged oldPages newPages written p) := by simp [Relapses]
    simp only [operate,onBalloonPagesChanged,checkConstraintCleared]
    split
    · split
      · split
        · rename_i hc
          split
          · exact .clears none hno (by rw [hc]; rfl) rfl
          · exact .keeps none hno rfl
        · rename_i hc
          split
          · exact .keeps none hno (by rw [hc]; rfl)
          · exact .keeps none hno rfl
        · exact .keeps none hno rfl
      · exact .keeps none hno rfl
    · exact .keeps none hno rfl
  | tick now resolving p written =>
    have hno : ¬ m.Relapses (.tick now resolving p written) := by simp [Relapses]
    simp only [operate,tickInflation]
    split
    · rename_i hc
      obtain ⟨hstate,set,hset⟩ :=
        inflate_constraint { m with constraintState := .normal } now p written
      rw [Bool.and_eq_true] at hc
      rw [hset]
      exact .clears set hno hc.1 (by rw [hstate]; rfl)
    · obtain ⟨hstate,set,hset⟩ := inflate_constraint m now p written
      rw [hset]
      exact .keeps set hno (by rw [hstate])
  | deadline now p =>
    have hno : ¬ m.Relapses (.deadline now p) := by simp [Relapses]
    simp only [operate,checkDeflationDeadline]
    split
    · rename_i hc
      split
      · split
        · exact .keeps none hno (by rw [hc]; rfl)
        · exact .constrains _ hno rfl
      · exact .keeps none hno rfl
    · exact .keeps none hno rfl
    · exact .keeps none hno rfl

end MemoryManager

/-- Balloon sets say nothing about the constraint. -/
theorem Dispatch.foldl_sets (d : Dispatch) (set : Option Nat) :
    ((set.toList.map GuestEvent.balloonSet).foldl take d).memoryConstrained = d.memoryConstrained := by
  cases set <;> rfl

namespace Memory

variable {s : Memory} {op : MemoryOp}

/-- An operation keeps the agreement unless it relapses. -/
theorem Agrees.step_iff (h : s.Agrees) (op : MemoryOp) :
    (s.step op).Agrees ↔ ¬ s.manager.Relapses op := by
  have ht := s.manager.turned_operate op
  unfold Agrees at h ⊢
  simp only [step,ofEvents_append]
  generalize s.manager.operate op = r at ht ⊢
  cases ht with
  | keeps set hno hsame => simp [foldl_sets,h,hsame,hno]
  | constrains reason hno hc => simp [take,hc,hno]
  | clears set hno hc hc' => simp [take,foldl_sets,hc',hno]
  | relapses set hr hc' => simp [take,h,hr.2.1,hc',hr]

/-- A manager that is constrained has told the host, and clears no other constraint. -/
structure Heard (s : Memory) : Prop where
  told : s.manager.constraintState.isConstrained = true →
    (Dispatch.ofEvents s.events).memoryConstrained = true
  matched : Matched s.events

theorem Matched.append {events more : List GuestEvent} (h : Matched events)
    (hm : ∀ before after, more = before ++ .memoryConstraintCleared :: after →
      (ofEvents (events ++ before)).memoryConstrained = true) :
    Matched (events ++ more) := by
  intro before after heq
  rcases List.append_eq_append_iff.mp heq with ⟨mid,rfl,hmid⟩ | ⟨mid,rfl,hmid⟩
  · exact hm mid after hmid
  · cases mid with
    | nil =>
      have := hm [] after hmid.symm
      rwa [List.append_nil,List.append_nil] at this
    | cons event mid =>
      cases hmid
      exact h before mid rfl

theorem Heard.step (h : s.Heard) (op : MemoryOp) : (s.step op).Heard := by
  have ht := s.manager.turned_operate op
  have hsets : ∀ (set : Option Nat) before after,
      set.toList.map GuestEvent.balloonSet ≠ before ++ .memoryConstraintCleared :: after := by
    intro set before after heq
    have : GuestEvent.memoryConstraintCleared ∈ set.toList.map GuestEvent.balloonSet := by simp [heq]
    simp at this
  have told : (s.step op).manager.constraintState.isConstrained = true →
      (ofEvents (s.step op).events).memoryConstrained = true := by
    simp only [Memory.step,ofEvents_append]
    generalize s.manager.operate op = r at ht ⊢
    cases ht with
    | keeps set hno hsame =>
      intro hc
      rw [foldl_sets]
      exact h.told (hsame ▸ hc)
    | constrains reason hno hc => exact fun _ => rfl
    | clears set hno hc hc' => simp [hc']
    | relapses set hr hc' => simp [hc']
  refine ⟨told,?_⟩
  simp only [Memory.step]
  generalize s.manager.operate op = r at ht ⊢
  cases ht with
  | keeps set hno hsame => exact h.matched.append (fun before after heq => absurd heq (hsets set _ _))
  | constrains reason hno hc =>
    refine h.matched.append (fun before after heq => ?_)
    cases before with
    | nil => cases heq
    | cons event before => simp at heq
  | clears set hno hc hc' =>
    refine h.matched.append (fun before after heq => ?_)
    cases before with
    | nil => simpa using h.told hc
    | cons event before =>
      cases heq' : set.toList.map GuestEvent.balloonSet with
      | nil =>
        rw [heq'] at heq
        simp at heq
      | cons a rest =>
        simp only [List.cons_append,List.cons.injEq] at heq
        exact absurd heq.2 (hsets set _ _)
  | relapses set hr hc' =>
    exact h.matched.append (fun before after heq => absurd heq (hsets (some set) _ _))

theorem Heard.run (h : s.Heard) (ops : List MemoryOp) : (ops.foldl Memory.step s).Heard := by
  induction ops generalizing s with
  | nil => exact h
  | cons op ops ih => exact ih (h.step op)

/-- The host's picture is the guest's as long as no deflation starts during a constraint, and a
constraint is never cleared that the host does not know of. -/
theorem constraint_agrees_iff (balloonMib vmMemMib : Nat) (written : Bool) (ops : List MemoryOp) :
    ((∀ n, ((ops.take n).foldl step (start balloonMib vmMemMib written)).Agrees) ↔
      Runs.Along (fun s op => some (s.step op)) (fun s op => ¬ s.manager.Relapses op)
        (start balloonMib vmMemMib written) ops) ∧
    Matched (ops.foldl step (start balloonMib vmMemMib written)).events := by
  have hstart : (start balloonMib vmMemMib written).Agrees := rfl
  have hheard : (start balloonMib vmMemMib written).Heard := by
    refine ⟨nofun,fun before after heq => ?_⟩
    cases before <;> cases heq
  exact ⟨Runs.along_iff (fun _ op h => h.step_iff op) hstart ops,(hheard.run ops).matched⟩

/-- The deflation stalls, half of it arrives, and the pressure goes on. -/
theorem stalled_deflation_disagrees :
    ¬ ([.pressure 0,.deadline 1000 ⟨none,none⟩,.hostMoves 48,
        .pagesChanged (64 * 256) (48 * 256) true ⟨none,none⟩,.pressure 1001].foldl step
      (start 64 512 true)).Agrees := by
  unfold Agrees
  decide +kernel

end Memory

end Distvirt.Guest
