import Distvirt.Worker.MainLoop

/-! What the monitor of a pod reports of its guest. The events of the guest are folded into one
watched state, and the monitor sees that state whenever it looks, not every change of it. -/

namespace Distvirt.Worker

/-- What the stream of the guest yields, the events of its memory manager among it; `closed` and
`failed` are its end. -/
inductive GuestEvent where
  | containerExited (id : String) (code : Int)
  | memory (ev : Guest.GuestEvent)
  | taskError (task message : String)
  | oomKill (count : Nat)
  | closed
  | failed (error : String)
deriving DecidableEq, Repr

/-- One round of the dispatch task, which ends with the stream. -/
def EventDispatchState.dispatch (s : EventDispatchState) (ev : GuestEvent) : EventDispatchState :=
  if s.streamClosed then s
  else
    match ev with
    | .containerExited id code => { s with exited := (id,code) :: s.exited.filter (·.1 ≠ id) }
    | .memory ev => { s with toDispatch := s.toDispatch.take ev }
    | .taskError task message => { s with taskError := s.taskError <|> some (task,message) }
    | .oomKill count => { s with oomKillCount := (s.oomKillCount + count) % 2 ^ 64 }
    | .closed => { s with streamClosed := true }
    | .failed error => { s with streamClosed := true, streamError := some error }

/-- The dispatch task takes an event, or the monitor looks at the state. -/
inductive WatchStep where
  | guest (ev : GuestEvent)
  | look
deriving DecidableEq, Repr

/-- The watched state, the monitor's tracker, what it has sent and whether it has ended. Besides,
the kills that the guest has reported until a container exited, how many of them since the monitor
last looked, and the flag it saw then. -/
structure Watch where
  guest : EventDispatchState := {}
  tracker : StateTracker := {}
  sent : List WorkerEvent := []
  outcome : Option LoopOutcome := none
  kills : Nat := 0
  unseen : Nat := 0
  flagSeen : Bool := false
deriving DecidableEq, Repr

namespace Watch

def reported (s : EventDispatchState) : GuestEvent → Nat
  | .oomKill count => if s.streamClosed ∨ s.exited ≠ [] then 0 else count
  | _ => 0

def step (key : PodKey) (w : Watch) : WatchStep → Watch
  | .guest ev =>
    if w.outcome.isSome then w
    else { w with
      guest := w.guest.dispatch ev
      kills := w.kills + reported w.guest ev
      unseen := w.unseen + reported w.guest ev }
  | .look =>
    if w.outcome.isSome then w
    else
      let (tracker,events,outcome) := w.tracker.process key w.guest
      match outcome with
      | some outcome => { w with tracker, sent := w.sent ++ events, outcome := some outcome }
      | none => { w with
          tracker
          sent := w.sent ++ events
          unseen := 0
          flagSeen := w.guest.memoryConstrained }

def run (key : PodKey) (steps : List WatchStep) : Watch := steps.foldl (step key) {}

/-- The kills that the sent events add up to. -/
def killsSent (events : List WorkerEvent) : Nat :=
  (events.map (fun | .podOomKill _ count => count | _ => 0)).sum

/-- The flag as the sent events leave it. -/
def flagSent (events : List WorkerEvent) : Bool :=
  events.foldl (fun flag ev => match ev with
    | .podMemoryConstrained _ _ => true
    | .podMemoryConstraintCleared _ => false
    | _ => flag) false

/-- Every kill is reported, and so is the flag as it is at the end. -/
def Reported (w : Watch) : Prop :=
  killsSent w.sent = w.kills ∧ flagSent w.sent = w.guest.memoryConstrained

/-- What holds as long as the monitor runs. -/
structure Inv (w : Watch) : Prop where
  kills : killsSent w.sent = w.tracker.lastOomKillCount
  flag : flagSent w.sent = w.tracker.lastMemoryConstrained
  flagSeen : w.tracker.lastMemoryConstrained = w.flagSeen
  unseen : w.unseen ≤ w.kills
  count : w.guest.exited = [] → w.guest.oomKillCount = w.kills % 2 ^ 64
  last : w.tracker.lastOomKillCount < 2 ^ 64
  exact : w.kills - w.unseen < 2 ^ 64 → w.tracker.lastOomKillCount = w.kills - w.unseen

variable {key : PodKey} {w : Watch}

theorem killsSent_append : killsSent (events ++ more) = killsSent events + killsSent more := by
  simp [killsSent]

theorem flagSent_append : flagSent (events ++ more) = more.foldl (fun flag ev => match ev with
    | .podMemoryConstrained _ _ => true
    | .podMemoryConstraintCleared _ => false
    | _ => flag) (flagSent events) := List.foldl_append

/-- The dispatch task counts the kills that the guest reports before an exit. -/
theorem dispatch_count {s : EventDispatchState} (ev : GuestEvent)
    (hs : s.exited = [] → s.oomKillCount = k % 2 ^ 64) (he : (s.dispatch ev).exited = []) :
    (s.dispatch ev).oomKillCount = (k + reported s ev) % 2 ^ 64 := by
  unfold EventDispatchState.dispatch at *
  by_cases hc : s.streamClosed = true
  · rw [if_pos hc] at he ⊢
    cases ev <;> simp [reported,hc,hs he]
  · rw [if_neg hc] at he ⊢
    cases ev <;> simp_all [reported]

/-- A look at a state without an exit reports all that is new in it. -/
theorem process_running {tracker tracker' : StateTracker} {s : EventDispatchState}
    (h : tracker.process key s = (tracker',events,none)) : s.exited = [] ∧
    tracker' = ⟨s.memoryConstrained,max tracker.lastOomKillCount s.oomKillCount⟩ ∧
    killsSent events = s.oomKillCount - tracker.lastOomKillCount ∧
    ∀ before, flagSent before = tracker.lastMemoryConstrained →
      flagSent (before ++ events) = s.memoryConstrained := by
  unfold StateTracker.process at h
  cases he : s.taskError with
  | some e => simp [he] at h
  | none =>
    cases hx : s.exited with
    | cons x xs => simp [he,hx] at h
    | nil =>
      simp only [he,hx,Prod.mk.injEq] at h
      obtain ⟨rfl,rfl,-⟩ := h
      refine ⟨rfl,rfl,?_,fun before hb => ?_⟩
      · rw [killsSent_append]
        cases s.memoryConstrained <;> cases tracker.lastMemoryConstrained <;>
          by_cases hlt : tracker.lastOomKillCount < s.oomKillCount <;> simp [killsSent,hlt] <;> omega
      · rw [← List.append_assoc,flagSent_append,flagSent_append,hb]
        cases s.memoryConstrained <;> cases tracker.lastMemoryConstrained <;> simp <;> split <;> rfl

/-- A container exit that the monitor sees ends it with nothing more sent. -/
theorem process_exited {tracker tracker' : StateTracker} {s : EventDispatchState}
    (h : tracker.process key s = (tracker',events,some (.containerExited code))) :
    tracker' = tracker ∧ events = [] := by
  unfold StateTracker.process at h
  cases he : s.taskError with
  | some e => simp [he] at h
  | none =>
    cases hx : s.exited with
    | cons x xs =>
      simp only [he,hx,Prod.mk.injEq] at h
      exact ⟨h.1.symm,h.2.1.symm⟩
    | nil =>
      simp only [he,hx,Prod.mk.injEq] at h
      obtain ⟨-,-,h⟩ := h
      split at h <;> simp at h

/-- The monitor looks and goes on. -/
theorem Inv.looked {tracker' : StateTracker} (h : w.Inv)
    (hp : w.tracker.process key w.guest = (tracker',events,none)) : Inv { w with
      tracker := tracker'
      sent := w.sent ++ events
      unseen := 0
      flagSeen := w.guest.memoryConstrained } := by
  obtain ⟨hx,rfl,hk,hf⟩ := process_running hp
  have hc := h.count hx
  have := h.last
  have hunseen := h.unseen
  refine ⟨?_,hf _ h.flag,rfl,Nat.zero_le _,h.count,?_,?_⟩
  · rw [killsSent_append,h.kills,hk]
    simp only
    omega
  · simp only
    omega
  · intro hlt
    have hexact := h.exact (by simp only at hlt; omega)
    simp only [Nat.sub_zero] at hlt ⊢
    rw [hc,Nat.mod_eq_of_lt hlt,hexact]
    omega

theorem Inv.step (h : w.Inv) (s : WatchStep)
    (hr : (w.step key s).outcome = none ∨ ∃ code, (w.step key s).outcome = some (.containerExited code)) :
    (w.step key s).Inv := by
  cases s with
  | guest ev =>
    simp only [Watch.step]
    split
    · exact h
    · have := h.unseen
      refine { h with unseen := by simp only; omega, count := dispatch_count ev h.count, exact := ?_ }
      intro hlt
      simp only at hlt ⊢
      rw [h.exact (by omega)]
      omega
  | look =>
    simp only [Watch.step] at hr ⊢
    split
    · exact h
    · rename_i hnone
      rw [if_neg hnone] at hr
      cases hp : w.tracker.process key w.guest with
      | mk tracker' r =>
        obtain ⟨events,outcome⟩ := r
        simp only [hp] at hr
        cases outcome with
        | some outcome =>
          obtain ⟨code,hcode⟩ := hr.resolve_left (by simp)
          cases hcode
          obtain ⟨rfl,rfl⟩ := process_exited hp
          simp only [List.append_nil]
          exact { h with }
        | none => exact h.looked hp

theorem run_inv (steps : List WatchStep) (hr : (run key steps).outcome = none ∨
    ∃ code, (run key steps).outcome = some (.containerExited code)) : (run key steps).Inv := by
  induction steps using List.reverseRecOn with
  | nil => exact ⟨rfl,rfl,rfl,Nat.le_refl _,fun _ => rfl,Nat.zero_lt_succ _,fun _ => rfl⟩
  | append_singleton steps s ih =>
    have hrun : run key (steps ++ [s]) = (run key steps).step key s := List.foldl_append
    rw [hrun] at hr ⊢
    refine Inv.step (ih ?_) s hr
    cases ho : (run key steps).outcome with
    | none => exact .inl rfl
    | some o =>
      have : (run key steps).step key s = run key steps := by
        cases s <;> simp [Watch.step,ho]
      rw [this,ho] at hr
      simpa using hr

/-- A monitor that ends with an exit has reported all there was exactly if no kill came after its
last look, the kills did not overflow their count and the flag is as it was then. -/
theorem reported_iff (key : PodKey) (steps : List WatchStep)
    (hend : (run key steps).outcome = some (.containerExited code)) :
    (run key steps).Reported ↔ (run key steps).kills < 2 ^ 64 ∧ (run key steps).unseen = 0 ∧
      (run key steps).flagSeen = (run key steps).guest.memoryConstrained := by
  have h := run_inv steps (.inr ⟨code,hend⟩)
  have := h.unseen
  have := h.last
  rw [Reported,h.kills,h.flag,h.flagSeen,← and_assoc]
  refine and_congr_left (fun _ => ⟨fun hk => ?_,fun hk => ?_⟩)
  · have := h.exact (by omega)
    omega
  · rw [h.exact (by omega),hk.2]
    rfl

/-- A guest whose kill is seen before its container exits. -/
def seenKill : List WatchStep :=
  [.guest (.oomKill 1),.look,.guest (.containerExited "main" 137),.look]

theorem seenKill_reported : (run (⟨"demo",1⟩,0) seenKill).Reported :=
  (reported_iff _ seenKill rfl).mpr (by decide)

/-- The same guest when the monitor looks only once. -/
theorem kill_lost :
    let w := run (⟨"demo",1⟩,0) [.guest (.oomKill 1),.guest (.containerExited "main" 137),.look]
    w.outcome = some (.containerExited 137) ∧ w.sent = [] ∧ w.kills = 1 ∧ ¬ w.Reported := by
  refine ⟨rfl,rfl,rfl,fun h => absurd h.1 ?_⟩
  decide

end Watch

end Distvirt.Worker
