import Distvirt.Guest.Memory

/-! What the guest has to tell: its events and the output of its containers wait in buffers, and the
tasks of a connection write them to the host. -/

namespace Distvirt.Guest

open List

/-- A buffer and the task that drains it, with what was put in and what was written so far. -/
structure Pipe (A : Type) where
  queue : List A := []
  /-- What the task has taken out and not yet written. -/
  hand : Option A := none
  /-- The current connection has a task for the buffer. -/
  draining : Bool := false
  /-- The buffer is kept for the next connection. -/
  registered : Bool := false
  accepted : List A := []
  written : List A := []

inductive DrainStep
  | take
  | wrote
  | failed
deriving DecidableEq

namespace Pipe

variable {A : Type}

/-- Without a receiver the buffer is gone. -/
def put (p : Pipe A) (a : A) : Pipe A :=
  if p.registered || p.draining then
    { p with queue := p.queue ++ [a], accepted := p.accepted ++ [a] }
  else p

/-- One step of `drain_events_to_yamux` or `drain_output_to_yamux`. -/
def drain (p : Pipe A) (step : DrainStep) : Pipe A :=
  if !p.draining then p
  else
    match step,p.hand,p.queue with
    | .take,none,a :: queue => { p with hand := some a, queue }
    | .wrote,some a,_ => { p with hand := none, written := p.written ++ [a] }
    | .failed,some _,_ =>
      { p with
        hand := none
        draining := false
        queue := if p.registered then p.queue else [] }
    | _,_,_ => p

def attach (p : Pipe A) (opened : Bool) : Pipe A := { p with draining := p.registered && opened }

/-- The tasks of a connection are dropped with it. -/
def detach (p : Pipe A) : Pipe A :=
  if p.draining then
    { p with
      hand := none
      draining := false
      queue := if p.registered then p.queue else [] }
  else p

/-- The container goes, or gets another buffer; a task that drains this one goes on. -/
def remove (p : Pipe A) : Pipe A :=
  { p with registered := false, queue := if p.draining then p.queue else [] }

/-- Nothing is lost: what was put in is written, in hand or still in the buffer, in this order. -/
def Whole (p : Pipe A) : Prop := p.accepted = p.written ++ p.hand.toList ++ p.queue

/-- The task has nothing in hand, and the buffer outlives it or is empty. -/
def Spare (p : Pipe A) : Prop := p.draining = true → p.hand = none ∧ (p.registered = true ∨ p.queue = [])

theorem whole_put {p : Pipe A} (h : p.Whole) (a : A) : (p.put a).Whole := by
  unfold put
  split
  · simp only [Whole] at h ⊢
    rw [h,append_assoc]
  · exact h

theorem whole_detach_iff {p : Pipe A} (h : p.Whole) : p.detach.Whole ↔ p.Spare := by
  obtain ⟨queue,hand,draining,registered,accepted,written⟩ := p
  simp only [Whole] at h
  subst h
  cases draining with
  | false => simp [detach,Whole,Spare]
  | true => cases registered <;> cases hand <;> simp [detach,Whole,Spare]

theorem whole_remove_iff {p : Pipe A} (h : p.Whole) :
    p.remove.Whole ↔ (p.draining = true ∨ p.queue = []) := by
  obtain ⟨queue,hand,draining,registered,accepted,written⟩ := p
  simp only [Whole] at h
  subst h
  cases draining <;> simp [remove,Whole]

theorem whole_drain_iff {p : Pipe A} (h : p.Whole) (step : DrainStep) :
    (p.drain step).Whole ↔ ¬ (step = .failed ∧ p.draining = true ∧ p.hand.isSome = true) := by
  obtain ⟨queue,hand,draining,registered,accepted,written⟩ := p
  simp only [Whole] at h
  subst h
  cases draining <;> cases step <;> cases hand <;> cases queue <;> cases registered <;>
    simp [drain,Whole]

end Pipe

open Pipe

inductive SupervisorEvent
  | containerExited (container : Nat) (code : Int) (outputBytesDropped : Nat)
  | memory (event : GuestEvent)
  | taskError (message : String)

/-- The event buffer, and the output buffer of each container that was ever started. -/
structure Supervisor where
  connected : Bool := false
  running : Nat → Bool := fun _ => false
  events : Pipe SupervisorEvent := { registered := true }
  outputs : Nat → Pipe (List UInt8) := fun _ => {}

inductive SupervisorOp
  /-- A connection comes up; the output streams of some containers cannot be opened. -/
  | connect (opened : Nat → Bool)
  | disconnect
  | start (container : Nat) (captureOutput opened : Bool)
  | output (container : Nat) (chunk : List UInt8)
  | event (event : SupervisorEvent)
  | exit (container : Nat) (code : Int) (outputBytesDropped : Nat)
  | drainEvents (step : DrainStep)
  | drainOutput (container : Nat) (step : DrainStep)

namespace Supervisor

def setOutput (s : Supervisor) (container : Nat) (p : Pipe (List UInt8)) : Supervisor :=
  { s with outputs := Function.update s.outputs container p }

def step (s : Supervisor) : SupervisorOp → Supervisor
  | .connect opened =>
    if s.connected then s
    else
      { s with
        connected := true
        events := s.events.attach true
        outputs := fun container => (s.outputs container).attach (opened container) }
  | .disconnect =>
    if s.connected then
      { s with
        connected := false
        events := s.events.detach
        outputs := fun container => (s.outputs container).detach }
    else s
  | .start container captureOutput opened =>
    let p := s.outputs container
    if s.running container then
      -- the buffer is replaced before the backend refuses
      if captureOutput then s.setOutput container p.remove else s
    -- a container that has gone is not started again
    else if p.registered || p.draining || !p.accepted.isEmpty then s
    else
      { s with running := Function.update s.running container true }.setOutput container
        { registered := captureOutput, draining := captureOutput && s.connected && opened }
  | .output container chunk => s.setOutput container ((s.outputs container).put chunk)
  | .event event => { s with events := s.events.put event }
  | .exit container code outputBytesDropped =>
    if s.running container then
      { s with
        running := Function.update s.running container false
        events := s.events.put (.containerExited container code outputBytesDropped) }.setOutput
          container (s.outputs container).remove
    else s
  | .drainEvents step => { s with events := s.events.drain step }
  | .drainOutput container step => s.setOutput container ((s.outputs container).drain step)

/-- No event and no output is lost. -/
def Whole (s : Supervisor) : Prop := s.events.Whole ∧ ∀ container, (s.outputs container).Whole

/-- A connection is dropped when none of its tasks has anything in hand and no container that is gone
has output left, no write fails, and a container goes, or is started again while it runs, when its
output is being drained or empty. -/
def Gentle (s : Supervisor) : SupervisorOp → Prop
  | .disconnect => s.connected = true → s.events.Spare ∧ ∀ container, (s.outputs container).Spare
  | .start container captureOutput _ => s.running container = true → captureOutput = true →
    (s.outputs container).draining = true ∨ (s.outputs container).queue = []
  | .exit container _ _ => s.running container = true →
    (s.outputs container).draining = true ∨ (s.outputs container).queue = []
  | .drainEvents step => ¬ (step = .failed ∧ s.events.draining = true ∧ s.events.hand.isSome = true)
  | .drainOutput container step => ¬ (step = .failed ∧ (s.outputs container).draining = true ∧
    (s.outputs container).hand.isSome = true)
  | _ => True

variable {s : Supervisor}

theorem Whole.setOutput_iff {running : Nat → Bool} {events : Pipe SupervisorEvent} (h : s.Whole)
    (he : events.Whole) : Whole ({ s with running, events }.setOutput container p) ↔ p.Whole := by
  constructor
  · intro hw
    have hp := hw.2 container
    simpa [setOutput] using hp
  · intro hp
    refine ⟨he,fun k => ?_⟩
    by_cases hk : k = container
    · subst hk
      simpa [setOutput] using hp
    · simpa [setOutput,hk] using h.2 k

theorem Whole.step_iff (h : s.Whole) (op : SupervisorOp) : (s.step op).Whole ↔ s.Gentle op := by
  cases op with
  | connect opened =>
    simp only [step]
    split
    · exact iff_of_true h trivial
    · exact iff_of_true ⟨h.1,fun container => h.2 container⟩ trivial
  | disconnect =>
    simp only [step]
    split
    · rename_i hc
      simp only [Whole,Gentle,hc,forall_const,whole_detach_iff h.1]
      exact and_congr_right (fun _ => forall_congr' (fun k => whole_detach_iff (h.2 k)))
    · rename_i hc
      exact iff_of_true h (fun hc' => absurd hc' hc)
  | start container captureOutput opened =>
    simp only [step,Gentle]
    split
    · rename_i hr
      split
      · rename_i hc
        rw [h.setOutput_iff h.1,whole_remove_iff (h.2 container)]
        simp only [hr,hc,forall_const]
      · rename_i hc
        exact iff_of_true h (fun _ hc' => absurd hc' hc)
    · rename_i hr
      refine iff_of_true ?_ (fun hr' => absurd hr' hr)
      split
      · exact h
      · exact (h.setOutput_iff h.1).mpr rfl
  | output container chunk =>
    exact iff_of_true ((h.setOutput_iff h.1).mpr (whole_put (h.2 container) chunk)) trivial
  | event event => exact iff_of_true ⟨Pipe.whole_put h.1 event,h.2⟩ trivial
  | exit container code dropped =>
    simp only [step]
    split
    · rename_i hr
      rw [h.setOutput_iff (whole_put h.1 _),whole_remove_iff (h.2 container)]
      simp only [Gentle,hr,forall_const]
    · rename_i hr
      exact iff_of_true h (fun hr' => absurd hr' hr)
  | drainEvents step =>
    simp only [Supervisor.step,Whole,Gentle]
    rw [whole_drain_iff h.1]
    exact and_iff_left h.2
  | drainOutput container step =>
    exact (h.setOutput_iff h.1).trans (whole_drain_iff (h.2 container) step)

/-- A container writes and exits, and all of it is on its way before the connection is closed. -/
def quiet : List SupervisorOp :=
  [.connect (fun _ => true),.start 1 true true,.output 1 [104],.start 1 true true,
    .drainOutput 1 .take,.drainOutput 1 .wrote,.exit 1 0 0,.drainEvents .take,.drainEvents .wrote,
    .disconnect,.event (.taskError "t"),.connect (fun _ => true)]

end Supervisor

end Distvirt.Guest
