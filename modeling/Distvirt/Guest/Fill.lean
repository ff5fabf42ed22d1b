import Mathlib.Algebra.BigOperators.Group.List.Basic
import Distvirt.Runs
import Distvirt.Guest.Output

/-! The task that reads a container's pipes into the output buffer. -/

namespace Distvirt.Guest

open List

structure OutputChunk where
  stream : UInt8
  seq : Nat
  payload : List UInt8
deriving DecidableEq, Repr

inductive ReadPipeResult where
  | data (bytes : List UInt8)
  | eof
  | wouldBlock
  | error
deriving DecidableEq, Repr

inductive FillPhase where
  | filling
  /-- The exit signal came; the pipe of this stream is drained. -/
  | draining (stream : UInt8)
  | done
deriving DecidableEq, Repr

/-- The fill task and the buffer, with the chunks that were read, those put into the buffer and those
dropped. -/
structure Fill where
  capacity : Nat
  stdout : Bool
  stderr : Bool
  seq : Nat := 0
  phase : FillPhase := .filling
  bytesDropped : Nat := 0
  queue : List OutputChunk := []
  /-- The chunk for which the buffer has no room yet. -/
  held : Option OutputChunk := none
  /-- The buffer has no receiver any more. -/
  closed : Bool := false
  chunks : List OutputChunk := []
  sent : List OutputChunk := []
  dropped : List OutputChunk := []
deriving DecidableEq, Repr

inductive FillEvent where
  | read (stream : UInt8) (result : ReadPipeResult)
  | exit
  /-- The consumer takes a chunk. -/
  | take
  | close
deriving DecidableEq, Repr

namespace Fill

def opened (f : Fill) (stream : UInt8) : Bool := if stream = streamStdout then f.stdout else f.stderr

def closePipe (f : Fill) (stream : UInt8) : Fill :=
  if stream = streamStdout then { f with stdout := false } else { f with stderr := false }

/-- A chunk gets the next number. -/
def number (f : Fill) (c : OutputChunk) : Fill :=
  { f with seq := f.seq + 1, chunks := f.chunks ++ [c] }

def put (f : Fill) (c : OutputChunk) : Fill :=
  { f with queue := f.queue ++ [c], sent := f.sent ++ [c] }

/-- Waits for room. To a buffer that is closed nothing is sent. -/
def send (f : Fill) (c : OutputChunk) : Fill :=
  if f.closed then f
  else if f.queue.length < f.capacity then f.put c
  else { f with held := some c }

def trySend (f : Fill) (c : OutputChunk) : Fill :=
  if !f.closed && decide (f.queue.length < f.capacity) then f.put c
  else { f with
    bytesDropped := f.bytesDropped + c.payload.length
    dropped := f.dropped ++ [c] }

def drainPipeToBuffer (f : Fill) (stream : UInt8) : ReadPipeResult → Fill
  | .data bytes => (f.number ⟨stream,f.seq,bytes⟩).send ⟨stream,f.seq,bytes⟩
  | .eof => f.closePipe stream
  | .wouldBlock | .error => f

/-- The pipes that are open are drained one after the other. -/
def drainNext (f : Fill) : Fill :=
  if f.stdout then { f with phase := .draining streamStdout, stdout := false }
  else if f.stderr then { f with phase := .draining streamStderr, stderr := false }
  else { f with phase := .done }

def finalDrainToBuffer (f : Fill) (stream : UInt8) : ReadPipeResult → Fill
  | .data bytes => (f.number ⟨stream,f.seq,bytes⟩).trySend ⟨stream,f.seq,bytes⟩
  | .wouldBlock => f
  | .eof | .error => f.drainNext

/-- What cannot come in a state leaves it. -/
def step (f : Fill) : FillEvent → Fill
  | .read stream result =>
    match f.phase with
    | .filling =>
      if f.held.isNone && f.opened stream then f.drainPipeToBuffer stream result else f
    | .draining s => if stream = s then f.finalDrainToBuffer stream result else f
    | .done => f
  | .exit => if f.phase = .filling ∧ f.held = none then f.drainNext else f
  | .take =>
    match f.held,f.queue with
    | some c,_ :: queue => put { f with queue, held := none } c
    | _,queue => { f with queue := queue.tail }
  | .close => { f with closed := true, queue := [], held := none }

def bytes (chunks : List OutputChunk) : Nat := (chunks.map (·.payload.length)).sum

/-- Every chunk that was read is in the buffer, dropped or waiting for room, and what is dropped is
counted. -/
structure Kept (f : Fill) : Prop where
  numbered : f.chunks.map (·.seq) = List.range f.seq
  whole : (f.sent ++ (f.dropped ++ f.held.toList)).Perm f.chunks
  increasing : f.sent.Pairwise (·.seq < ·.seq)
  counted : f.bytesDropped = bytes f.dropped
  late : f.dropped ≠ [] → f.phase ≠ .filling
  waiting : ∀ c, f.held = some c → f.phase = .filling ∧ ∀ d ∈ f.sent, d.seq < c.seq

/-- At the end the bytes in the buffer and those reported as dropped are the bytes that were read. -/
def Accounted (f : Fill) : Prop :=
  f.Kept ∧ (f.phase = .done → bytes f.sent + f.bytesDropped = bytes f.chunks)

/-- The buffer is not closed while the task waits for room, nor when it has read a chunk before the exit
signal. -/
def Received (f : Fill) : FillEvent → Prop
  | .read stream (.data _) =>
    f.phase = .filling → f.held = none → f.opened stream = true → f.closed = false
  | .close => f.held = none
  | _ => True

variable {f : Fill} {c : OutputChunk}

theorem Kept.total (h : f.Kept) (hdone : f.phase = .done) :
    bytes f.sent + f.bytesDropped = bytes f.chunks := by
  have hheld : f.held = none := by
    cases hh : f.held with
    | none => rfl
    | some c => cases hdone.symm.trans (h.waiting c hh).1
  have hsum := (h.whole.map (·.payload.length)).sum_eq
  rw [hheld,Option.toList_none,append_nil,map_append,sum_append] at hsum
  rw [h.counted]
  exact hsum

theorem Kept.below (h : f.Kept) : ∀ d ∈ f.sent, d.seq < f.seq := by
  intro d hd
  have hmem := mem_map_of_mem (f := (·.seq)) (h.whole.subset (mem_append_left _ hd))
  rw [h.numbered] at hmem
  exact mem_range.mp hmem

theorem Kept.numbered_next (h : f.Kept) (hc : c.seq = f.seq) :
    (f.chunks ++ [c]).map (·.seq) = range (f.seq + 1) := by
  rw [map_append,h.numbered,range_succ]
  simp [hc]

theorem Kept.put (h : f.Kept) (hheld : f.held = none) (hc : c.seq = f.seq) :
    ((f.number c).put c).Kept := by
  refine ⟨h.numbered_next hc,?_,?_,h.counted,h.late,fun d hd => ?_⟩
  · have hwhole := h.whole.append_right [c]
    rw [append_assoc] at hwhole
    rw [number,Fill.put,append_assoc]
    exact (perm_append_comm.append_left _).trans hwhole
  · refine pairwise_append.mpr ⟨h.increasing,pairwise_singleton _ _,fun d hd e he => ?_⟩
    cases mem_singleton.mp he
    exact hc ▸ h.below d hd
  · cases hheld.symm.trans hd

theorem Kept.send (h : f.Kept) (hheld : f.held = none) (hc : c.seq = f.seq) (hp : f.phase = .filling)
    (ho : f.closed = false) : ((f.number c).send c).Kept := by
  simp only [Fill.send,show (f.number c).closed = false from ho,Bool.false_eq_true,↓reduceIte]
  split
  · exact h.put hheld hc
  · refine ⟨h.numbered_next hc,?_,h.increasing,h.counted,h.late,fun d hd => ?_⟩
    · have hwhole := h.whole.append_right [c]
      rw [hheld,Option.toList_none,append_nil,append_assoc] at hwhole
      exact hwhole
    · cases hd
      exact ⟨hp,fun d hd => hc ▸ h.below d hd⟩

theorem Kept.trySend (h : f.Kept) (hheld : f.held = none) (hc : c.seq = f.seq)
    (hp : f.phase ≠ .filling) : ((f.number c).trySend c).Kept := by
  unfold Fill.trySend
  split
  · exact h.put hheld hc
  · refine ⟨h.numbered_next hc,?_,h.increasing,?_,fun _ => hp,fun d hd => ?_⟩
    · have hwhole := h.whole.append_right [c]
      rw [hheld,Option.toList_none,append_nil,append_assoc] at hwhole
      rw [number,hheld,Option.toList_none,append_nil]
      exact hwhole
    · simp [bytes,number,h.counted]
    · cases hheld.symm.trans hd

/-- What happens to no chunk. -/
theorem Kept.still (h : f.Kept) {phase : FillPhase} (stdout stderr closed : Bool)
    (queue : List OutputChunk) (hp : phase = f.phase ∨ phase ≠ .filling ∧ f.held = none) :
    Kept { f with phase, stdout, stderr, closed, queue } := by
  refine ⟨h.numbered,h.whole,h.increasing,h.counted,fun hd => ?_,fun c hc => ?_⟩
  · rcases hp with hp | ⟨hp,-⟩
    · exact hp ▸ h.late hd
    · exact hp
  · rcases hp with hp | ⟨-,hheld⟩
    · exact hp ▸ h.waiting c hc
    · cases hheld.symm.trans hc

theorem Kept.drainNext (h : f.Kept) (hheld : f.held = none) : f.drainNext.Kept := by
  unfold Fill.drainNext
  split
  · exact h.still _ _ _ _ (.inr ⟨by simp,hheld⟩)
  · split
    · exact h.still _ _ _ _ (.inr ⟨by simp,hheld⟩)
    · exact h.still _ _ _ _ (.inr ⟨by simp,hheld⟩)

/-- Each of the chunks has its place. -/
theorem Kept.length (h : f.Kept) :
    f.sent.length + (f.dropped.length + f.held.toList.length) = f.chunks.length := by
  simpa using h.whole.length_eq

theorem Kept.read_iff (h : f.Kept) (stream : UInt8) (result : ReadPipeResult)
    (hp : f.phase = .filling) (hheld : f.held = none) :
    (f.drainPipeToBuffer stream result).Kept ↔ ∀ bytes, result = .data bytes → f.closed = false := by
  cases result with
  | data bytes =>
    cases ho : f.closed with
    | false => exact iff_of_true (h.send hheld rfl hp ho) (fun _ _ => rfl)
    | true =>
      refine iff_of_false (fun h' => ?_) (fun hall => by cases hall bytes rfl)
      have hlen' := h'.length
      have hlen := h.length
      simp [drainPipeToBuffer,Fill.send,number,ho] at hlen' hlen
      omega
  | eof =>
    refine iff_of_true ?_ (fun _ heq => by cases heq)
    unfold drainPipeToBuffer closePipe
    dsimp only
    split
    · exact h.still _ _ _ _ (.inl rfl)
    · exact h.still _ _ _ _ (.inl rfl)
  | wouldBlock => exact iff_of_true h (fun _ heq => by cases heq)
  | error => exact iff_of_true h (fun _ heq => by cases heq)

theorem Kept.drain (h : f.Kept) (stream : UInt8) (result : ReadPipeResult)
    (hp : f.phase ≠ .filling) : (f.finalDrainToBuffer stream result).Kept := by
  have hheld : f.held = none := by
    cases hh : f.held with
    | none => rfl
    | some c => exact absurd (h.waiting c hh).1 hp
  cases result with
  | data bytes => exact h.trySend hheld rfl hp
  | wouldBlock => exact h
  | eof => exact h.drainNext hheld
  | error => exact h.drainNext hheld

theorem Kept.take (h : f.Kept) : (f.step .take).Kept := by
  unfold step
  dsimp only
  split
  · rename_i c _ queue hheld hqueue
    refine ⟨h.numbered,?_,?_,h.counted,h.late,fun d hd => by cases hd⟩
    · rw [Fill.put,append_assoc,Option.toList_none,append_nil]
      have hwhole := h.whole
      rw [hheld] at hwhole
      exact (perm_append_comm.append_left _).trans hwhole
    · refine pairwise_append.mpr ⟨h.increasing,pairwise_singleton _ _,fun d hd e he => ?_⟩
      cases mem_singleton.mp he
      exact (h.waiting c hheld).2 d hd
  · exact h.still _ _ _ _ (.inl rfl)

theorem kept_iff (h : f.Kept) (ev : FillEvent) : (f.step ev).Kept ↔ f.Received ev := by
  cases ev with
  | read stream result =>
    have hallowed : (f.phase = .filling → f.held = none → f.opened stream = false) →
        f.Received (.read stream result) := by
      intro hno
      cases result with
      | data bytes => exact fun hp hheld ho => by cases (hno hp hheld).symm.trans ho
      | _ => trivial
    unfold step
    dsimp only
    split
    · rename_i hp
      split
      · rename_i hopen
        simp only [Bool.and_eq_true,Option.isNone_iff_eq_none] at hopen
        rw [h.read_iff stream result hp hopen.1]
        cases result <;> simp [Received,hp,hopen]
      · rename_i hopen
        exact iff_of_true h (hallowed (fun _ => by simpa using hopen))
    · rename_i hp
      have hp : f.phase ≠ .filling := by simp [hp]
      refine iff_of_true ?_ (hallowed (fun hp' => absurd hp' hp))
      split
      · exact h.drain stream result hp
      · exact h
    · rename_i hp
      exact iff_of_true h (hallowed (fun hp' => by cases hp.symm.trans hp'))
  | exit =>
    refine iff_of_true ?_ trivial
    unfold step
    dsimp only
    split
    · rename_i hp
      exact h.drainNext hp.2
    · exact h
  | take => exact iff_of_true h.take trivial
  | close =>
    constructor
    · intro h'
      have hlen' := h'.length
      have hlen := h.length
      cases hh : f.held with
      | none => exact hh
      | some c =>
        simp [step,hh] at hlen' hlen
        omega
    · intro hheld
      have hstill := h.still f.stdout f.stderr true [] (.inl rfl)
      rwa [show f.held = none from hheld] at hstill

/-- All output is accounted for, exactly when the buffer is not closed while the task needs it. -/
theorem output_accounted_iff (capacity : Nat) (stdout stderr : Bool) (events : List FillEvent) :
    (∀ n, ((events.take n).foldl step { capacity, stdout, stderr }).Accounted) ↔
      Runs.Along (fun f ev => some (f.step ev)) Received { capacity, stdout, stderr } events := by
  have hinit : Kept { capacity, stdout, stderr } :=
    ⟨rfl,.nil,.nil,rfl,fun h => absurd rfl h,fun c hc => by cases hc⟩
  refine Runs.along_iff (I := Accounted) (fun f ev h => ?_) ⟨hinit,hinit.total⟩ events
  rw [← kept_iff h.1]
  exact ⟨fun h' => h'.1,fun h' => ⟨h',h'.total⟩⟩

/-- The last receiver is dropped before a chunk is read: the chunk is neither sent nor counted. -/
theorem chunk_lost_uncounted :
    let f := [.close,.read streamStdout (.data [104,105]),.exit,.read streamStdout .eof,
      .read streamStderr .eof].foldl step { capacity := 256, stdout := true, stderr := true }
    f.phase = .done ∧ f.sent = [] ∧ f.bytesDropped = 0 ∧ bytes f.chunks = 2 := by
  decide

end Fill

end Distvirt.Guest
