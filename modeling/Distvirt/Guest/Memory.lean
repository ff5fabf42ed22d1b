import Mathlib.Algebra.Ring.Nat
import Distvirt.Runs

/-! The guest's memory manager: it gives the balloon back to the host under pressure, takes it
again when little is used, and reports to the host when it is short of memory. -/

namespace Distvirt.Guest

def initialStepMib : Nat := 32
def maxStepMib : Nat := 256
def kernelBufferMib : Nat := 64
def highToMaxGapMib : Nat := 4
def inflationStepMib : Nat := 16
def inflationHeadroomBytes : Nat := 8 * 1024 * 1024
def inflationCooldown : Nat := 60000
def inflationStreakRequired : Nat := 4
def deflationStallDeadline : Nat := 1000
def virtioBalloonPagesPerMib : Nat := 256
def u64Max : Nat := 2 ^ 64 - 1

def bytes (mib : Nat) : Nat := mib * 1048576

def saturatingAdd (a b : Nat) : Nat := min (a + b) u64Max

theorem saturatingAdd_le (a b : Nat) : saturatingAdd a b ≤ a + b := Nat.min_le_left _ _

inductive ConstraintReason where
  | balloonExhausted
  | deflationStalled
deriving DecidableEq, Repr

/-- The events of the manager that the host takes. -/
inductive GuestEvent where
  | balloonSet (amountMib : Nat)
  | memoryConstrained (reason : ConstraintReason)
  | memoryConstraintCleared
deriving DecidableEq, Repr

inductive ConstraintState where
  | normal
  | waitingForDeflation (sentAt : Nat)
  | constrained (reason : ConstraintReason)
deriving DecidableEq, Repr

def ConstraintState.isConstrained : ConstraintState → Bool
  | .constrained _ => true
  | .normal | .waitingForDeflation _ => false

structure MemoryManager where
  balloonAmountMib : Nat
  stepSizeMib : Nat
  vmMemMib : Nat
  /-- What the host was asked to release and has not yet been seen to. -/
  pendingDeflationMib : Nat
  currentCgroupHigh : Nat
  currentCgroupMax : Nat
  lowUsageStreak : Nat
  inflationSuppressedUntil : Option Nat
  constraintState : ConstraintState
deriving DecidableEq, Repr

/-- What `memory.current` and `memory.high` read as, if they can be read. -/
structure Probe where
  current : Option Nat
  high : Option Nat
deriving DecidableEq, Repr

def Probe.isPressureResolved (p : Probe) : Bool := decide (p.current.getD u64Max < p.high.getD 0)

/-- The usage is below three quarters of the limit. -/
def lowUsage (current high : Nat) : Bool := decide (4 * current < 3 * high)

namespace MemoryManager

/-- The manager with its first limits. -/
def start (balloonMib vmMemMib : Nat) : MemoryManager where
  balloonAmountMib := balloonMib
  stepSizeMib := initialStepMib
  vmMemMib
  pendingDeflationMib := 0
  currentCgroupHigh := bytes (vmMemMib - balloonMib - kernelBufferMib) - bytes highToMaxGapMib
  currentCgroupMax := bytes (vmMemMib - balloonMib - kernelBufferMib)
  lowUsageStreak := 0
  inflationSuppressedUntil := none
  constraintState := .normal

def suppressInflation (m : MemoryManager) (now : Nat) : MemoryManager :=
  { m with lowUsageStreak := 0, inflationSuppressedUntil := some (now + inflationCooldown) }

/-- The balloon shrinks by a step. -/
def deflate (m : MemoryManager) (now : Nat) : MemoryManager :=
  let stepSizeMib := if 0 < m.pendingDeflationMib then min (m.stepSizeMib * 2) maxStepMib
    else initialStepMib
  let step := min stepSizeMib m.balloonAmountMib
  { m with
    stepSizeMib
    balloonAmountMib := m.balloonAmountMib - step
    pendingDeflationMib := m.pendingDeflationMib + step
    constraintState := .waitingForDeflation now }

def handlePressure (m : MemoryManager) (now : Nat) : MemoryManager × List GuestEvent :=
  let m := m.suppressInflation now
  if m.balloonAmountMib = 0 then
    if m.constraintState = .constrained .balloonExhausted then (m,[])
    else ({ m with constraintState := .constrained .balloonExhausted },
      [.memoryConstrained .balloonExhausted])
  else if m.stepSizeMib ≤ m.pendingDeflationMib then (m,[])
  else (m.deflate now,[.balloonSet (m.deflate now).balloonAmountMib])

def handlePsiEvent (m : MemoryManager) (full : Bool) (now : Nat) :
    MemoryManager × List GuestEvent :=
  if full then (m.suppressInflation now).handlePressure now else (m.suppressInflation now,[])

def checkConstraintCleared (m : MemoryManager) (p : Probe) : MemoryManager × List GuestEvent :=
  match m.constraintState with
  | .constrained _ =>
    if p.isPressureResolved then
      ({ m with constraintState := .normal },[.memoryConstraintCleared])
    else (m,[])
  | .waitingForDeflation _ =>
    if p.isPressureResolved then ({ m with constraintState := .normal },[]) else (m,[])
  | .normal => (m,[])

/-- The limits rise by what the host has released, if they can be written. -/
def onBalloonPagesChanged (m : MemoryManager) (oldPages newPages : Nat) (written : Bool)
    (p : Probe) : MemoryManager × List GuestEvent :=
  let oldMib := oldPages / virtioBalloonPagesPerMib
  let newMib := newPages / virtioBalloonPagesPerMib
  if newPages < oldPages then
    let m := { m with pendingDeflationMib := m.pendingDeflationMib - (oldMib - newMib) }
    let newMax := saturatingAdd m.currentCgroupMax (bytes (oldMib - newMib))
    -- an empty balloon leaves no gap between the limits
    let newHigh := if m.balloonAmountMib = 0 then newMax
      else saturatingAdd m.currentCgroupHigh (bytes (oldMib - newMib))
    if written then
      { m with currentCgroupHigh := newHigh, currentCgroupMax := newMax }.checkConstraintCleared p
    else (m,[])
  else (m,[])

/-- What a tick does after it has looked at the constraint. -/
def inflate (m : MemoryManager) (now : Nat) (p : Probe) (written : Bool) :
    MemoryManager × List GuestEvent :=
  if 0 < m.pendingDeflationMib then (m,[])
  else if m.inflationSuppressedUntil.any (now < ·) then (m,[])
  else
    match p.current,p.high with
    | some current,some high =>
      if high = u64Max then (m,[])
      else if !lowUsage current high then ({ m with lowUsageStreak := 0 },[])
      else
        let m := { m with lowUsageStreak := m.lowUsageStreak + 1 }
        let newHigh := high - bytes inflationStepMib
        if m.lowUsageStreak < inflationStreakRequired then (m,[])
        else if newHigh < saturatingAdd current inflationHeadroomBytes then
          ({ m with lowUsageStreak := 0 },[])
        else if written then
          ({ m with
            currentCgroupHigh := newHigh
            currentCgroupMax := saturatingAdd newHigh (bytes highToMaxGapMib)
            balloonAmountMib := m.balloonAmountMib + inflationStepMib
            lowUsageStreak := 0 },[.balloonSet (m.balloonAmountMib + inflationStepMib)])
        else (m,[])
    | _,_ => (m,[])

def tickInflation (m : MemoryManager) (now : Nat) (resolving p : Probe) (written : Bool) :
    MemoryManager × List GuestEvent :=
  let (m,events) :=
    if m.constraintState.isConstrained && resolving.isPressureResolved then
      ({ m with constraintState := .normal },[GuestEvent.memoryConstraintCleared])
    else (m,[])
  let (m,more) := m.inflate now p written
  (m,events ++ more)

def checkDeflationDeadline (m : MemoryManager) (now : Nat) (p : Probe) :
    MemoryManager × List GuestEvent :=
  match m.constraintState with
  | .waitingForDeflation sentAt =>
    if deflationStallDeadline ≤ now - sentAt then
      if p.isPressureResolved then ({ m with constraintState := .normal },[])
      else ({ m with constraintState := .constrained .deflationStalled },
        [.memoryConstrained .deflationStalled])
    else (m,[])
  | .normal | .constrained _ => (m,[])

/-- The balloon has something to give back, and no full step of it is on its way. -/
def Deflates (m : MemoryManager) : Prop :=
  0 < m.balloonAmountMib ∧ m.pendingDeflationMib < m.stepSizeMib

/-- A tick takes a step: nothing is pending, the cooldown is over, and the usage that it reads has
been low for long enough and leaves room below the new limit. -/
def Grows (m : MemoryManager) (now : Nat) (p : Probe) (written : Bool) : Prop :=
  m.pendingDeflationMib = 0 ∧ m.inflationSuppressedUntil.any (now < ·) = false ∧ written = true ∧
    inflationStreakRequired ≤ m.lowUsageStreak + 1 ∧ p.high ≠ some u64Max ∧
    ∃ current ∈ p.current, ∃ high ∈ p.high, lowUsage current high = true ∧
      saturatingAdd current inflationHeadroomBytes ≤ high - bytes inflationStepMib

instance (m : MemoryManager) : Decidable m.Deflates := inferInstanceAs (Decidable (_ ∧ _))

instance (m : MemoryManager) (now : Nat) (p : Probe) (written : Bool) :
    Decidable (m.Grows now p written) :=
  inferInstanceAs (Decidable (_ ∧ _))

/-- A tick leaves the limits and the balloon alone, or it takes a step from the limit it reads. -/
theorem inflate_cases (m : MemoryManager) (now : Nat) (p : Probe) (written : Bool) :
    (¬ m.Grows now p written ∧
      ∃ streak, m.inflate now p written = ({ m with lowUsageStreak := streak },[])) ∨
    ∃ high, m.Grows now p written ∧ p.high = some high ∧ high ≠ u64Max ∧
      bytes 24 ≤ high ∧ m.inflate now p written =
        ({ m with
          currentCgroupHigh := high - bytes inflationStepMib
          currentCgroupMax := saturatingAdd (high - bytes inflationStepMib) (bytes highToMaxGapMib)
          balloonAmountMib := m.balloonAmountMib + inflationStepMib
          lowUsageStreak := 0 },[.balloonSet (m.balloonAmountMib + inflationStepMib)]) := by
  unfold inflate
  split
  · exact .inl ⟨fun hg => by have := hg.1; omega,_,rfl⟩
  rename_i hpending
  split
  · rename_i hcooldown
    exact .inl ⟨fun hg => Bool.false_ne_true (hg.2.1.symm.trans hcooldown),_,rfl⟩
  rename_i hcooldown
  split
  · rename_i current high hcurrent hhigh
    -- with both files read, the conditions of a step are those of the branches
    have hgrows : m.Grows now p written ↔ written = true ∧
        inflationStreakRequired ≤ m.lowUsageStreak + 1 ∧ high ≠ u64Max ∧
        lowUsage current high = true ∧
        saturatingAdd current inflationHeadroomBytes ≤ high - bytes inflationStepMib := by
      simp [Grows,hcurrent,hhigh,Bool.eq_false_iff.mpr hcooldown,Nat.le_zero.mp (Nat.le_of_not_lt hpending)]
    rw [hgrows]
    dsimp only
    split
    · exact .inl ⟨fun hg => hg.2.2.1 ‹_›,_,rfl⟩
    split
    · rename_i hlow
      exact .inl ⟨fun hg => by simp [hg.2.2.2.1] at hlow,_,rfl⟩
    split
    · exact .inl ⟨fun hg => by have := hg.2.1; omega,_,rfl⟩
    split
    · exact .inl ⟨fun hg => by have := hg.2.2.2.2; omega,_,rfl⟩
    rename_i hmax hlow hstreak hroom
    cases written with
    | false => exact .inl ⟨fun hg => Bool.false_ne_true hg.1,_,rfl⟩
    | true =>
      refine .inr ⟨high,⟨rfl,by omega,hmax,by simpa using hlow,by omega⟩,hhigh,hmax,?_,rfl⟩
      simp only [saturatingAdd,inflationHeadroomBytes,bytes,inflationStepMib,u64Max] at hroom ⊢
      omega
  · rename_i hnone
    refine .inl ⟨?_,_,rfl⟩
    rintro ⟨-,-,-,-,-,current,hcurrent,high,hhigh,-⟩
    exact hnone current high hcurrent hhigh

end MemoryManager

/-- The host's picture of the guest's memory: the part of its `EventDispatchState` that the events
of the manager change. -/
structure Dispatch where
  balloonMib : Option Nat := none
  memoryConstrained : Bool := false
  memoryConstraintReason : Option ConstraintReason := none
deriving DecidableEq, Repr

def Dispatch.take (d : Dispatch) : GuestEvent → Dispatch
  | .balloonSet amountMib => { d with balloonMib := some amountMib }
  | .memoryConstrained reason =>
    { d with memoryConstrained := true, memoryConstraintReason := some reason }
  | .memoryConstraintCleared =>
    { d with memoryConstrained := false, memoryConstraintReason := none }

def Dispatch.ofEvents (events : List GuestEvent) : Dispatch := events.foldl take {}

theorem Dispatch.ofEvents_append (l l' : List GuestEvent) :
    ofEvents (l ++ l') = l'.foldl take (ofEvents l) := List.foldl_append

/-- A guest with its host: what `memory.high` was last written, what the guest has told the host,
the balloon in MiB, and its changes that the guest has not handled. -/
structure Memory where
  manager : MemoryManager
  high : Nat
  events : List GuestEvent
  balloon : Nat
  changes : List (Nat × Nat)
deriving DecidableEq, Repr

/-- The limits could be written, as which the operation says, and the files were read. -/
inductive MemoryOp where
  | pressure (now : Nat)
  | psi (full : Bool) (now : Nat)
  | hostMoves (balloon : Nat)
  | pagesChanged (oldPages newPages : Nat) (written : Bool) (p : Probe)
  | tick (now : Nat) (resolving p : Probe) (written : Bool)
  | deadline (now : Nat) (p : Probe)

def MemoryManager.operate (m : MemoryManager) : MemoryOp → MemoryManager × List GuestEvent
  | .pressure now => m.handlePressure now
  | .psi full now => m.handlePsiEvent full now
  | .hostMoves _ => (m,[])
  | .pagesChanged oldPages newPages written p => m.onBalloonPagesChanged oldPages newPages written p
  | .tick now resolving p written => m.tickInflation now resolving p written
  | .deadline now p => m.checkDeflationDeadline now p

namespace Memory

/-- The file reads `max` before it is written. -/
def start (balloonMib vmMemMib : Nat) (written : Bool) : Memory where
  manager := .start balloonMib vmMemMib
  high := if written then (MemoryManager.start balloonMib vmMemMib).currentCgroupHigh else u64Max
  events := []
  balloon := balloonMib
  changes := []

/-- What the host was last asked for. -/
def target (s : Memory) : Nat := (Dispatch.ofEvents s.events).balloonMib.getD s.balloon

/-- The operation writes the limits. -/
def writes (s : Memory) : MemoryOp → Bool
  | .pagesChanged oldPages newPages written _ => written && decide (newPages < oldPages)
  | .tick now _ p written => decide (s.manager.Grows now p written)
  | _ => false

def step (s : Memory) (op : MemoryOp) : Memory :=
  let (m,events) := s.manager.operate op
  { manager := m
    high := if s.writes op then m.currentCgroupHigh else s.high
    events := s.events ++ events
    balloon := match op with
      | .hostMoves balloon => balloon
      | _ => s.balloon
    changes := match op with
      | .hostMoves balloon =>
        if balloon = s.balloon then s.changes
        else s.changes ++ [(s.balloon * virtioBalloonPagesPerMib,balloon * virtioBalloonPagesPerMib)]
      | .pagesChanged _ _ _ _ => s.changes.tail
      | _ => s.changes }

variable {s : Memory} {op : MemoryOp}

/-- What the containers may use and what the host holds stay the same, and no new amount is set. -/
structure Still (m m' : MemoryManager) (events : List GuestEvent) : Prop where
  balloon : m'.balloonAmountMib = m.balloonAmountMib
  pending : m'.pendingDeflationMib = m.pendingDeflationMib
  high : m'.currentCgroupHigh = m.currentCgroupHigh
  max : m'.currentCgroupMax = m.currentCgroupMax
  vm : m'.vmMemMib = m.vmMemMib
  silent : ∀ d : Dispatch, (events.foldl Dispatch.take d).balloonMib = d.balloonMib

/-- Pressure leaves the balloon alone, or gives a part of it back. -/
theorem handlePressure_cases (m : MemoryManager) (now : Nat) :
    Still m (m.handlePressure now).1 (m.handlePressure now).2 ∨
      m.Deflates ∧ ∃ k ≤ m.balloonAmountMib, ∃ m', m.handlePressure now = (m',[.balloonSet m'.balloonAmountMib]) ∧
        m'.balloonAmountMib = m.balloonAmountMib - k ∧
        m'.pendingDeflationMib = m.pendingDeflationMib + k ∧
        m'.currentCgroupMax = m.currentCgroupMax ∧ m'.currentCgroupHigh = m.currentCgroupHigh ∧
        m'.vmMemMib = m.vmMemMib := by
  unfold MemoryManager.handlePressure
  dsimp only [MemoryManager.suppressInflation]
  split
  · left
    split
    · exact ⟨rfl,rfl,rfl,rfl,rfl,fun _ => rfl⟩
    · exact ⟨rfl,rfl,rfl,rfl,rfl,fun _ => rfl⟩
  · rename_i hsome
    split
    · exact .inl ⟨rfl,rfl,rfl,rfl,rfl,fun _ => rfl⟩
    · rename_i hroom
      exact .inr ⟨⟨Nat.pos_of_ne_zero hsome,Nat.lt_of_not_le hroom⟩,_,Nat.min_le_right _ _,_,rfl,rfl,rfl,rfl,rfl,rfl⟩

theorem checkConstraintCleared_still (m : MemoryManager) (p : Probe) :
    Still m (m.checkConstraintCleared p).1 (m.checkConstraintCleared p).2 := by
  unfold MemoryManager.checkConstraintCleared
  split
  · split <;> exact ⟨rfl,rfl,rfl,rfl,rfl,fun _ => rfl⟩
  · split <;> exact ⟨rfl,rfl,rfl,rfl,rfl,fun _ => rfl⟩
  · exact ⟨rfl,rfl,rfl,rfl,rfl,fun _ => rfl⟩

/-- The changes of the balloon lower what is pending by what they give back. -/
theorem onBalloonPagesChanged_effect (m : MemoryManager) (oldPages newPages : Nat)
    (hr : oldPages / virtioBalloonPagesPerMib - newPages / virtioBalloonPagesPerMib = r)
    (written : Bool) (p : Probe) :
    ∃ m' events, m.onBalloonPagesChanged oldPages newPages written p = (m',events) ∧
      m'.balloonAmountMib = m.balloonAmountMib ∧
      m'.pendingDeflationMib = m.pendingDeflationMib - r ∧ m'.vmMemMib = m.vmMemMib ∧
      m'.currentCgroupMax ≤ m.currentCgroupMax + bytes r ∧
      ((written && decide (newPages < oldPages)) = false →
        m'.currentCgroupHigh = m.currentCgroupHigh) ∧
      ∀ d : Dispatch, (events.foldl Dispatch.take d).balloonMib = d.balloonMib := by
  simp only [MemoryManager.onBalloonPagesChanged,hr]
  split
  · rename_i hlt
    split
    · rename_i hwritten
      have hs := checkConstraintCleared_still { m with
        pendingDeflationMib := m.pendingDeflationMib - r
        currentCgroupHigh := if m.balloonAmountMib = 0 then saturatingAdd m.currentCgroupMax (bytes r)
          else saturatingAdd m.currentCgroupHigh (bytes r)
        currentCgroupMax := saturatingAdd m.currentCgroupMax (bytes r) } p
      refine ⟨_,_,rfl,hs.balloon,hs.pending,hs.vm,?_,?_,hs.silent⟩
      · exact Nat.le_trans (Nat.le_of_eq hs.max) (saturatingAdd_le _ _)
      · intro hw
        simp [hwritten,hlt] at hw
    · exact ⟨_,_,rfl,rfl,rfl,rfl,Nat.le_add_right _ _,fun _ => rfl,fun _ => rfl⟩
  · have hzero : r = 0 := by
      simp only [virtioBalloonPagesPerMib] at hr
      omega
    exact ⟨_,_,rfl,rfl,by rw [hzero]; rfl,rfl,Nat.le_add_right _ _,fun _ => rfl,fun _ => rfl⟩

/-- A tick looks at the constraint and then at the usage. -/
theorem tickInflation_split (m : MemoryManager) (now : Nat) (resolving p : Probe) (written : Bool) :
    ∃ c events, m.tickInflation now resolving p written =
      ((({ m with constraintState := c } : MemoryManager).inflate now p written).1,
        events ++ (({ m with constraintState := c } : MemoryManager).inflate now p written).2) ∧
      ∀ d : Dispatch, (events.foldl Dispatch.take d).balloonMib = d.balloonMib := by
  simp only [MemoryManager.tickInflation]
  split
  · exact ⟨_,_,rfl,fun _ => rfl⟩
  · exact ⟨m.constraintState,_,rfl,fun _ => rfl⟩

/-- A tick leaves everything as it is, or it takes a step. -/
theorem tickInflation_cases (m : MemoryManager) (now : Nat) (resolving p : Probe) (written : Bool) :
    Still m (m.tickInflation now resolving p written).1
        (m.tickInflation now resolving p written).2 ∨
      m.Grows now p written ∧ ∃ m' events high,
        m.tickInflation now resolving p written = (m',events ++ [.balloonSet m'.balloonAmountMib]) ∧
        p.high = some high ∧ high ≠ u64Max ∧ bytes 24 ≤ high ∧
        m'.balloonAmountMib = m.balloonAmountMib + inflationStepMib ∧ m'.pendingDeflationMib = 0 ∧
        m'.currentCgroupMax =
          saturatingAdd (high - bytes inflationStepMib) (bytes highToMaxGapMib) ∧
        m'.vmMemMib = m.vmMemMib := by
  obtain ⟨c,events,htick,hsilent⟩ := tickInflation_split m now resolving p written
  rcases MemoryManager.inflate_cases { m with constraintState := c } now p written with
    ⟨-,streak,heq⟩ | ⟨high,hgrows,hhigh,hmax,hroom,heq⟩
  · rw [heq,List.append_nil] at htick
    rw [htick]
    exact .inl ⟨rfl,rfl,rfl,rfl,rfl,hsilent⟩
  · rw [heq] at htick
    exact .inr ⟨hgrows,_,events,high,htick,hhigh,hmax,hroom,rfl,hgrows.1,rfl,rfl⟩

theorem checkDeflationDeadline_still (m : MemoryManager) (now : Nat) (p : Probe) :
    Still m (m.checkDeflationDeadline now p).1 (m.checkDeflationDeadline now p).2 := by
  unfold MemoryManager.checkDeflationDeadline
  split
  · split
    · split <;> exact ⟨rfl,rfl,rfl,rfl,rfl,fun _ => rfl⟩
    · exact ⟨rfl,rfl,rfl,rfl,rfl,fun _ => rfl⟩
  · exact ⟨rfl,rfl,rfl,rfl,rfl,fun _ => rfl⟩
  · exact ⟨rfl,rfl,rfl,rfl,rfl,fun _ => rfl⟩

/-- The host moves the balloon towards what it was last asked for, at once or in parts, and the guest
sees its changes in order. -/
def Followed (s : Memory) : MemoryOp → Prop
  | .hostMoves balloon => min s.balloon s.target ≤ balloon ∧ balloon ≤ max s.balloon s.target
  | .pagesChanged oldPages newPages _ _ => s.changes.head? = some (oldPages,newPages)
  | .pressure _ | .psi _ _ | .tick _ _ _ _ | .deadline _ _ => True

instance (s : Memory) : DecidablePred s.Followed
  | .hostMoves _ => inferInstanceAs (Decidable (_ ∧ _))
  | .pagesChanged _ _ _ _ => inferInstanceAs (Decidable (_ = _))
  | .pressure _ | .psi _ _ | .tick _ _ _ _ | .deadline _ _ => isTrue trivial

/-- What the changes that wait give back. -/
def released (changes : List (Nat × Nat)) : Nat :=
  (changes.map (fun c => c.1 / virtioBalloonPagesPerMib - c.2 / virtioBalloonPagesPerMib)).sum

theorem target_step (s : Memory) (op : MemoryOp) : (s.step op).target =
    ((s.manager.operate op).2.foldl Dispatch.take (Dispatch.ofEvents s.events)).balloonMib.getD
      (s.step op).balloon := by
  simp only [target,step,Dispatch.ofEvents_append]

theorem released_append (changes : List (Nat × Nat)) (c : Nat × Nat) :
    released (changes ++ [c]) = released changes +
      (c.1 / virtioBalloonPagesPerMib - c.2 / virtioBalloonPagesPerMib) := by
  simp [released]

/-- The balloon comes no further than the host was asked to bring it. -/
theorem target_hostMoves {balloon : Nat} (hheard : s.target = s.manager.balloonAmountMib)
    (hmin : min s.balloon s.target ≤ balloon) (hmax : balloon ≤ max s.balloon s.target) :
    (s.step (.hostMoves balloon)).target = s.manager.balloonAmountMib := by
  rw [target_step]
  change (Dispatch.ofEvents s.events).balloonMib.getD balloon = _
  simp only [target] at hheard hmin hmax
  cases hd : (Dispatch.ofEvents s.events).balloonMib with
  | some amount =>
    rw [hd] at hheard
    exact hheard
  | none =>
    rw [hd] at hheard hmin hmax
    simp only [Option.getD_none] at hheard hmin hmax ⊢
    omega

theorem released_hostMoves (s : Memory) (balloon : Nat) :
    released (s.step (.hostMoves balloon)).changes = released s.changes + (s.balloon - balloon) := by
  change released (if balloon = s.balloon then _ else _) = _
  split
  · omega
  · rw [released_append]
    simp [virtioBalloonPagesPerMib]

theorem head_changes (h : s.changes.head? = some c) : s.changes = c :: s.changes.tail := by
  cases hc : s.changes with
  | nil => cases hc ▸ h
  | cons c' rest =>
    cases hc ▸ h
    rfl

/-- What a tick reads: 10 MiB in use, below the limit. -/
def idle (high : Nat) : MemoryOp := .tick 100000 ⟨none,none⟩ ⟨some (bytes 10),some high⟩ true

/-- Half of a balloon of 64 MiB is given back, and a step of it taken again. -/
def cycle : List MemoryOp :=
  [.pressure 0,.hostMoves 32,.pagesChanged (64 * 256) (32 * 256) true ⟨none,none⟩] ++
    List.replicate 4 (idle (bytes 412))

end Memory

end Distvirt.Guest
