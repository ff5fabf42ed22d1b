import Mathlib.Algebra.Ring.Nat
import Distvirt.Runs

/-! A TCP stream of the userspace network. The poll loop moves bytes from the socket's ring to the
buffer of the reader, and the reader takes them from there. -/

namespace Distvirt.Client

open List

def tcpReadBufLimit : Nat := 65536

/-- A socket and the state that it shares with its stream. -/
structure TcpSocket where
  ring : List UInt8 := []
  /-- The state is `CloseWait`, `LastAck`, `Closed`, `Closing` or `TimeWait`. -/
  peerClosed : Bool := false
  readBuf : List UInt8 := []
  readClosed : Bool := false
deriving DecidableEq

inductive ReadResult
  | data (bytes : List UInt8)
  | eof
  | pending
deriving DecidableEq

namespace TcpSocket

/-- The stack puts what the peer sent into the ring, up to its FIN. -/
def receive (s : TcpSocket) (arrived : List UInt8) (fin : Bool) : TcpSocket :=
  if s.peerClosed then s else { s with ring := s.ring ++ arrived, peerClosed := fin }

/-- How much of the ring one iteration of the loop takes: the ring gives its first contiguous part,
which is not empty, and the reader's buffer has a limit. -/
def budget (s : TcpSocket) (contiguous : Nat) : Nat :=
  min (max 1 contiguous) (tcpReadBufLimit - s.readBuf.length)

/-- The loop's work on a socket after it has polled the stack. -/
def sync (s : TcpSocket) (contiguous : Nat) : TcpSocket :=
  let s := if !s.ring.isEmpty && decide (s.readBuf.length < tcpReadBufLimit) then
      { s with
        readBuf := s.readBuf ++ s.ring.take (s.budget contiguous)
        ring := s.ring.drop (s.budget contiguous) }
    else s
  if s.peerClosed then { s with readClosed := true } else s

/-- The error of the shared state is never set. -/
def pollRead (s : TcpSocket) (remaining : Nat) : TcpSocket × ReadResult :=
  if !s.readBuf.isEmpty then
    ({ s with readBuf := s.readBuf.drop remaining },.data (s.readBuf.take remaining))
  else if s.readClosed then (s,.eof)
  else (s,.pending)

/-- With room for all of it, the ring is empty after an iteration. -/
theorem sync_drains {s : TcpSocket} (h : s.ring.length ≤ s.budget contiguous) :
    (s.sync contiguous).ring = [] := by
  by_cases hr : s.ring = []
  · simp only [sync,hr,isEmpty_nil,Bool.not_true,Bool.false_and,Bool.false_eq_true,↓reduceIte]
    split
    · rfl
    · exact hr
  · have hpos := length_pos_iff.mpr hr
    have hroom : s.readBuf.length < tcpReadBufLimit := by
      unfold budget at h
      omega
    have hempty : s.ring.isEmpty = false := by simpa using hr
    simp only [sync,hempty,hroom,Bool.not_false,decide_true,Bool.and_self,↓reduceIte]
    split <;> exact drop_eq_nil_of_le h

theorem sync_frame {s : TcpSocket} :
    (s.sync contiguous).readBuf ++ (s.sync contiguous).ring = s.readBuf ++ s.ring ∧
    (s.sync contiguous).peerClosed = s.peerClosed ∧
    (s.sync contiguous).readClosed = (s.readClosed || s.peerClosed) := by
  unfold sync
  cases hc : s.peerClosed <;> dsimp only <;> split <;> simp [hc]

end TcpSocket

open TcpSocket

inductive StreamEvent
  | poll (arrived : List UInt8) (fin : Bool) (contiguous : Nat)
  | read (remaining : Nat)

/-- A socket with what its peer sent and what its reader got. -/
structure Exchange where
  socket : TcpSocket := {}
  sent : List UInt8 := []
  got : List UInt8 := []
  ended : Bool := false

namespace Exchange

def step (s : Exchange) : StreamEvent → Exchange
  | .poll arrived fin contiguous =>
    { s with
      socket := (s.socket.receive arrived fin).sync contiguous
      sent := if s.socket.peerClosed then s.sent else s.sent ++ arrived }
  | .read remaining =>
    let (socket,result) := s.socket.pollRead remaining
    match result with
    | .data bytes => { s with socket, got := s.got ++ bytes }
    | .eof => { s with socket, ended := true }
    | .pending => { s with socket }

/-- Once the peer has closed, an iteration of the loop can take all that is left. -/
def Drains (s : Exchange) : StreamEvent → Prop
  | .poll arrived fin contiguous =>
    let socket := s.socket.receive arrived fin
    socket.peerClosed = true → socket.ring.length ≤ socket.budget contiguous
  | .read _ => True

instance (s : Exchange) : DecidablePred s.Drains
  | .poll _ _ _ => inferInstanceAs (Decidable (_ → _))
  | .read _ => isTrue trivial

/-- The bytes are on their way in order. -/
def Ordered (s : Exchange) : Prop := s.got ++ s.socket.readBuf ++ s.socket.ring = s.sent

/-- The end is seen after the last byte. -/
def EndsLast (s : Exchange) : Prop := s.ended = true → s.socket.peerClosed = true ∧ s.got = s.sent

variable {s : Exchange} {ev : StreamEvent}

theorem step_read (s : Exchange) (remaining : Nat) : s.step (.read remaining) =
    if s.socket.readBuf = [] then if s.socket.readClosed then { s with ended := true } else s
    else { s with
      socket := { s.socket with readBuf := s.socket.readBuf.drop remaining }
      got := s.got ++ s.socket.readBuf.take remaining } := by
  simp only [step,pollRead]
  cases s.socket.readBuf with
  | nil =>
    simp only [isEmpty_nil,Bool.not_true,Bool.false_eq_true,↓reduceIte]
    cases s.socket.readClosed <;> rfl
  | cons b buf => rfl

theorem Ordered.step (h : s.Ordered) (ev : StreamEvent) : (s.step ev).Ordered := by
  unfold Ordered at h ⊢
  cases ev with
  | poll arrived fin contiguous =>
    simp only [Exchange.step]
    rw [append_assoc,sync_frame.1]
    unfold receive
    split
    · rw [← append_assoc]
      exact h
    · rw [← h]
      simp only [append_assoc]
  | read remaining =>
    rw [step_read]
    split
    · split <;> exact h
    · simp only [append_assoc,take_append_drop]
      rwa [append_assoc] at h

structure Sound (s : Exchange) : Prop where
  ordered : s.Ordered
  drained : s.socket.readClosed = true → s.socket.peerClosed = true ∧ s.socket.ring = []
  last : s.EndsLast
  closed : s.ended = true → s.socket.readClosed = true ∧ s.socket.readBuf = []

theorem Sound.step (h : s.Sound) (hd : s.Drains ev) : (s.step ev).Sound := by
  have hordered := h.ordered.step ev
  cases ev with
  | poll arrived fin contiguous =>
    have hpeer : (s.step (.poll arrived fin contiguous)).socket.peerClosed =
        (s.socket.receive arrived fin).peerClosed := sync_frame.2.1
    -- a stream that has ended stays as it is
    have hkept : s.ended = true → (s.step (.poll arrived fin contiguous)) = s := by
      intro he
      obtain ⟨hclosed,hbuf⟩ := h.closed he
      obtain ⟨hp,hring⟩ := h.drained hclosed
      obtain ⟨⟨ring,peer,buf,closed⟩,sent,got,ended⟩ := s
      simp_all [Exchange.step,receive,sync]
    refine ⟨hordered,fun hc => ?_,fun he => ?_,fun he => ?_⟩
    · have hp : (s.socket.receive arrived fin).peerClosed = true := by
        have hor : ((s.socket.receive arrived fin).readClosed ||
          (s.socket.receive arrived fin).peerClosed) = true := sync_frame.2.2.symm.trans hc
        rcases Bool.or_eq_true_iff.mp hor with hr | hp
        · unfold receive at hr ⊢
          split
          · assumption
          · rename_i hn
            rw [if_neg hn] at hr
            exact absurd (h.drained hr).1 hn
        · exact hp
      exact ⟨hpeer.trans hp,sync_drains (hd hp)⟩
    · rw [hkept he] at he ⊢
      exact h.last he
    · rw [hkept he] at he ⊢
      exact h.closed he
  | read remaining =>
    have hlast : s.socket.readBuf = [] → s.socket.readClosed = true → s.got = s.sent := by
      intro hb hc
      have heq := h.ordered
      rw [Ordered,hb,(h.drained hc).2] at heq
      simpa using heq
    rw [step_read] at hordered ⊢
    split
    · rename_i hb
      split
      · rename_i hc
        exact ⟨h.ordered,h.drained,fun _ => ⟨(h.drained hc).1,hlast hb hc⟩,fun _ => ⟨hc,hb⟩⟩
      · exact h
    · rename_i hb
      rw [if_neg hb] at hordered
      exact ⟨hordered,h.drained,fun he => absurd (h.closed he).2 hb,
        fun he => absurd (h.closed he).2 hb⟩

/-- The reader gets the bytes in order in every run, and the end after the last byte in a run in which
nothing is left in the ring once the peer has closed. -/
theorem stream_faithful (events : List StreamEvent) :
    (events.foldl step {}).Ordered ∧
    (Runs.Along (fun s ev => some (step s ev)) Drains {} events → (events.foldl step {}).EndsLast) := by
  have hnew : Ordered {} := rfl
  refine ⟨Runs.run_keeps (fun _ ev _ h heq => ?_) hnew (Runs.run_some step {} events),fun ha => ?_⟩
  · cases heq
    exact h.step ev
  · have hstart : Sound {} := ⟨rfl,nofun,nofun,nofun⟩
    refine (ha.keeps (fun _ _ _ h hd heq => ?_) hstart (Runs.run_some step {} events)).last
    cases heq
    exact h.step hd

theorem stream_faithful_close : EndsLast (foldl step {}
    [.poll [1,2,3] false 3,.read 2,.poll [4] true 1,.read 9,.read 9]) :=
  (stream_faithful _).2 (by decide)

/-- The reader's buffer is full when the last byte arrives with the FIN. The reader empties it before
the loop comes round again, and sees the end. -/
theorem full_buffer_cut_off : ¬ EndsLast (foldl step {}
    [.poll (replicate tcpReadBufLimit 0) false tcpReadBufLimit,.poll [7] true 1,
      .read tcpReadBufLimit,.read 1]) := by
  have hpos : 0 < tcpReadBufLimit := by decide
  have hne : replicate tcpReadBufLimit (0 : UInt8) ≠ [] := by
    simp [Nat.ne_of_gt hpos]
  generalize hfull : replicate tcpReadBufLimit (0 : UInt8) = bytes at hne ⊢
  have hlen : bytes.length = tcpReadBufLimit := by rw [← hfull,length_replicate]
  have hbudget : ({ ring := bytes } : TcpSocket).budget tcpReadBufLimit = bytes.length := by
    simp only [budget,length_nil]
    omega
  have hfirst : step {} (.poll bytes false tcpReadBufLimit) =
      { socket := { readBuf := bytes }, sent := bytes } := by
    simp [step,receive,sync,hpos,hbudget,hne]
  rw [foldl_cons,hfirst]
  simp [step,receive,sync,pollRead,EndsLast,← hlen,hne]

end Exchange

end Distvirt.Client
