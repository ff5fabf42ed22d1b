import Mathlib.Algebra.Ring.Nat
import Distvirt.Runs

/-! The connection of the HTTP/2 activator between a client and a backend, and the flow control
credit that goes through it. Frames are taken as parsed. Which streams are open is left out: it
only decides how many of them the activator counts. -/

namespace Distvirt.Http2

/-- What the handshake and flow control see of a frame. Stream 0 is the connection. -/
inductive Frame where
  | data (stream len : Nat)
  | windowUpdate (stream increment : Nat)
  | settings (ack : Bool)
  | ping (ack : Bool)
  | goaway
  /-- Headers, resets, priorities, continuations and unknown frames. -/
  | other
deriving DecidableEq

inductive Phase where
  | awaitingPreface
  | handshaking
  | active
  | closing
deriving DecidableEq

inductive UpstreamState where
  | none
  | connecting
  | handshaking
  | ready
  | failed
deriving DecidableEq

structure Connection where
  phase : Phase
  upstreamState : UpstreamState
  bufferedFrames : List Frame

namespace Connection

def new : Connection := ⟨.awaitingPreface,.none,[]⟩

/-- A connection with the frames it sends to the client and to the backend. -/
structure Turn where
  conn : Connection
  downstream : List Frame := []
  upstream : List Frame := []

def bufferOrForward (c : Connection) (frame : Frame) : Turn :=
  if c.upstreamState = .ready then { conn := c, upstream := [frame] }
  else { conn := { c with bufferedFrames := c.bufferedFrames ++ [frame] } }

def flushBuffered (c : Connection) : Turn :=
  { conn := { c with bufferedFrames := [] }, upstream := c.bufferedFrames }

/-- The updates that answer a DATA frame, for the connection and for the stream. -/
def updates (stream len : Nat) : List Frame :=
  if len = 0 then []
  else .windowUpdate 0 len :: if stream = 0 then [] else [.windowUpdate stream len]

def handleClientFrame (c : Connection) : Frame → Turn
  | .settings true =>
    { conn := { c with phase := if c.phase = .handshaking then .active else c.phase } }
  | .settings false => { conn := c, downstream := [.settings true] }
  | .ping true => { conn := c }
  | .ping false => { conn := c, downstream := [.ping true] }
  | .data stream len =>
    { c.bufferOrForward (.data stream len) with downstream := updates stream len }
  | .goaway => { c with phase := .closing }.bufferOrForward .goaway
  | frame => c.bufferOrForward frame

/-- The backend is ready once it sends or acknowledges settings. -/
def settled (c : Connection) : Turn :=
  if c.upstreamState = .handshaking then { c with upstreamState := .ready }.flushBuffered
  else { conn := c }

def handleUpstreamFrame (c : Connection) : Frame → Turn
  | .settings true => c.settled
  | .settings false => { c.settled with upstream := .settings true :: c.settled.upstream }
  | .ping true => { conn := c }
  | .ping false => { conn := c, upstream := [.ping true] }
  | .data stream len =>
    { conn := c, downstream := [.data stream len], upstream := updates stream len }
  | .goaway => { conn := { c with phase := .closing }, downstream := [.goaway] }
  | frame => { conn := c, downstream := [frame] }

end Connection

open Connection

inductive Event where
  | preface (valid : Bool)
  | client (frame : Frame)
  | connecting
  | connected
  | upstream (frame : Frame)
  | closed
  | failed

/-- A connection with all frames so far. -/
structure Exchange where
  conn : Connection
  fromClient : List Frame
  toClient : List Frame
  fromBackend : List Frame
  toBackend : List Frame

namespace Exchange

def start : Exchange := ⟨.new,[],[],[],[]⟩

def send (s : Exchange) (t : Connection.Turn) : Exchange :=
  { s with
    conn := t.conn
    toClient := s.toClient ++ t.downstream
    toBackend := s.toBackend ++ t.upstream }

/-- Frames of the client are read after its preface, and dropped once the connection closes. -/
def step (s : Exchange) : Event → Exchange
  | .preface valid =>
    if s.conn.phase ≠ .awaitingPreface then s
    else if valid then
      s.send {
        conn := { s.conn with phase := .handshaking }
        downstream := [.settings false] }
    else { s with conn.phase := .closing }
  | .client frame =>
    if s.conn.phase = .awaitingPreface then s
    else
      let s := { s with fromClient := s.fromClient ++ [frame] }
      if s.conn.phase = .closing then s else s.send (s.conn.handleClientFrame frame)
  | .connecting => { s with conn.upstreamState := .connecting }
  | .connected =>
    s.send {
      conn := { s.conn with upstreamState := .handshaking }
      upstream := [.settings false] }
  | .upstream frame =>
    { s with fromBackend := s.fromBackend ++ [frame] }.send (s.conn.handleUpstreamFrame frame)
  | .closed =>
    s.send {
      conn := { s.conn with phase := .closing, upstreamState := .failed }
      downstream := if s.conn.phase = .closing then [] else [.goaway] }
  | .failed =>
    s.send {
      conn := { s.conn with phase := .closing, upstreamState := .failed }
      downstream := [.goaway] }

end Exchange

open Exchange

/-- The bytes of a frame that count against a window: that of its stream and that of the
connection. -/
def Frame.bytes (window : Nat) : Frame → Nat
  | .data stream len => if window = 0 ∨ window = stream then len else 0
  | _ => 0

def Frame.credit (window : Nat) : Frame → Nat
  | .windowUpdate stream increment => if window = stream then increment else 0
  | _ => 0

def bytes (window : Nat) (frames : List Frame) : Nat := (frames.map (Frame.bytes window)).sum

def credit (window : Nat) (frames : List Frame) : Nat := (frames.map (Frame.credit window)).sum

/-- The initial windows of the client and the backend. That of the connection is always 65535, and
so are all windows of the activator. -/
structure Windows where
  client : Nat
  backend : Nat

def initial (streamWindow window : Nat) : Nat := if window = 0 then 65535 else streamWindow

/-- What was sent to each side is within the credit that it granted, and no side has been granted
more than what was passed on from it. -/
structure Respects (i : Windows) (s : Exchange) (w : Nat) : Prop where
  backend : bytes w s.toBackend ≤ initial i.backend w + credit w s.fromBackend
  client : bytes w s.toClient ≤ initial i.client w + credit w s.fromClient
  grantClient : 65535 + credit w s.toClient ≤ 65535 + bytes w s.toBackend
  grantBackend : 65535 + credit w s.toBackend ≤ 65535 + bytes w s.toClient

/-- Data comes when the other side is ready for it, and no credit comes: for what it passes on the
activator has granted credit already. -/
def Tame (i : Windows) (s : Exchange) : Event → Prop
  | .client (.data stream len) => len = 0 ∨ s.conn.upstreamState = .ready ∧
    ∀ w ∈ [0,stream], bytes w s.toBackend + len ≤ initial i.backend w + credit w s.fromBackend
  | .upstream (.data stream len) =>
    ∀ w ∈ [0,stream], bytes w s.toClient + len ≤ initial i.client w + credit w s.fromClient
  | .client (.windowUpdate _ increment) | .upstream (.windowUpdate _ increment) => increment = 0
  | _ => True

section invariant
variable {i : Windows} {s : Exchange} {w : Nat} {f : Frame}

@[simp] theorem bytes_append : bytes w (a ++ b) = bytes w a + bytes w b := by simp [bytes]

@[simp] theorem credit_append : credit w (a ++ b) = credit w a + credit w b := by simp [credit]

@[simp] theorem bytes_nil : bytes w [] = 0 := rfl

@[simp] theorem credit_nil : credit w [] = 0 := rfl

@[simp] theorem bytes_cons : bytes w (f :: a) = f.bytes w + bytes w a := by simp [bytes]

@[simp] theorem credit_cons : credit w (f :: a) = f.credit w + credit w a := by simp [credit]

/-- The activator answers every byte. -/
@[simp] theorem credit_updates :
    credit w (updates stream len) = (Frame.data stream len).bytes w := by
  unfold updates
  split
  · simp_all [Frame.bytes]
  · split <;> simp [Frame.bytes,Frame.credit] <;> grind

@[simp] theorem bytes_updates : bytes w (updates stream len) = 0 := by
  unfold updates
  split
  · rfl
  · split <;> rfl

/-- A frame fits if it fits in its two windows. -/
theorem bytes_le {g l : Nat → Nat} (h : g w ≤ l w) (hf : ∀ v ∈ [0,stream], g v + len ≤ l v) :
    g w + bytes w [.data stream len] ≤ l w := by
  simp only [bytes_cons,bytes_nil,Frame.bytes]
  split
  · exact hf w (by simpa using ‹_›)
  · exact h

/-- Exactly what was passed on has been granted, and nothing that counts is buffered. -/
structure Even (i : Windows) (s : Exchange) (w : Nat) : Prop where
  backend : bytes w s.toBackend ≤ initial i.backend w + credit w s.fromBackend
  client : bytes w s.toClient ≤ initial i.client w + credit w s.fromClient
  grantClient : credit w s.toClient = bytes w s.toBackend
  grantBackend : credit w s.toBackend = bytes w s.toClient
  noBytes : bytes w s.conn.bufferedFrames = 0
  noCredit : credit w s.conn.bufferedFrames = 0

/-- A turn whose frames answer one another. -/
theorem Even.send (h : Even i s w)
    (hb : bytes w s.toBackend + bytes w t.upstream ≤ initial i.backend w + credit w s.fromBackend)
    (hc : bytes w s.toClient + bytes w t.downstream ≤ initial i.client w + credit w s.fromClient)
    (hd : credit w t.downstream = bytes w t.upstream)
    (hu : credit w t.upstream = bytes w t.downstream)
    (hbuf : bytes w t.conn.bufferedFrames = 0 ∧ credit w t.conn.bufferedFrames = 0) :
    Even i (s.send t) w := by
  refine ⟨?_,?_,?_,?_,hbuf.1,hbuf.2⟩ <;>
    simp only [Exchange.send,bytes_append,credit_append,h.grantClient,h.grantBackend,hd,hu]
  · exact hb
  · exact hc

/-- A turn whose frames do not count. -/
theorem Even.quiet (h : Even i s w) (hd : bytes w t.downstream = 0 ∧ credit w t.downstream = 0)
    (hu : bytes w t.upstream = 0 ∧ credit w t.upstream = 0)
    (hbuf : bytes w t.conn.bufferedFrames = 0 ∧ credit w t.conn.bufferedFrames = 0) :
    Even i (s.send t) w := by
  refine h.send ?_ ?_ (hd.2.trans hu.1.symm) (hu.2.trans hd.1.symm) hbuf
  · rw [hu.1]
    exact h.backend
  · rw [hd.1]
    exact h.client

/-- What comes from a side only adds to its credit. -/
theorem Even.received (h : Even i s w) (frame : Frame) :
    Even i { s with fromClient := s.fromClient ++ [frame] } w ∧
    Even i { s with fromBackend := s.fromBackend ++ [frame] } w := by
  refine ⟨{ h with client := ?_ },{ h with backend := ?_ }⟩ <;> rw [credit_append]
  · exact Nat.le_trans h.client (by omega)
  · exact Nat.le_trans h.backend (by omega)

theorem Even.forwarded (h : Even i s w) {c : Connection}
    (hc : c.bufferedFrames = s.conn.bufferedFrames) (hf : frame.bytes w = 0 ∧ frame.credit w = 0) :
    Even i (s.send (c.bufferOrForward frame)) w := by
  unfold bufferOrForward
  split <;> refine h.quiet (by simp) ?_ ?_ <;> simp [hc,hf,h.noBytes,h.noCredit]

theorem Even.clientFrame (h : Even i s w) {frame : Frame} (ht : Tame i s (.client frame)) :
    Even i (s.send (s.conn.handleClientFrame frame)) w := by
  have hbuf := And.intro h.noBytes h.noCredit
  cases frame with
  | data stream len =>
    rcases ht with rfl | ⟨hr,ht⟩
    · simp only [handleClientFrame,bufferOrForward]
      split <;> refine h.quiet ⟨rfl,rfl⟩ ?_ ?_ <;> simp [Frame.bytes,Frame.credit,hbuf]
    · simp only [handleClientFrame,bufferOrForward,hr,↓reduceIte]
      refine h.send ?_ (by simpa using h.client) (by simp) (by simp [Frame.credit]) hbuf
      exact bytes_le (g := (bytes · s.toBackend)) h.backend ht
  | windowUpdate stream increment =>
    have hz : increment = 0 := ht
    exact h.forwarded rfl (by simp [hz,Frame.bytes,Frame.credit])
  | settings ack | ping ack =>
    cases ack
    · exact h.quiet ⟨rfl,rfl⟩ ⟨rfl,rfl⟩ hbuf
    · exact h.quiet ⟨rfl,rfl⟩ ⟨rfl,rfl⟩ hbuf
  | goaway | other => exact h.forwarded rfl ⟨rfl,rfl⟩

theorem Even.upstreamFrame (h : Even i s w) {frame : Frame} (ht : Tame i s (.upstream frame)) :
    Even i (s.send (s.conn.handleUpstreamFrame frame)) w := by
  have hbuf := And.intro h.noBytes h.noCredit
  cases frame with
  | data stream len =>
    simp only [handleUpstreamFrame]
    refine h.send ?_ (bytes_le (g := (bytes · s.toClient)) h.client ht) ?_ ?_ hbuf
    · simpa using h.backend
    · simp [Frame.credit]
    · simp
  | windowUpdate stream increment =>
    have hz : increment = 0 := ht
    exact h.quiet (by simp [hz,handleUpstreamFrame,Frame.bytes,Frame.credit]) ⟨rfl,rfl⟩ hbuf
  | settings ack =>
    cases ack <;> simp only [handleUpstreamFrame,settled] <;> split
    · exact h.quiet ⟨rfl,rfl⟩ (by simp [Frame.bytes,Frame.credit,flushBuffered,hbuf]) ⟨rfl,rfl⟩
    · exact h.quiet ⟨rfl,rfl⟩ ⟨rfl,rfl⟩ hbuf
    · exact h.quiet ⟨rfl,rfl⟩ hbuf ⟨rfl,rfl⟩
    · exact h.quiet ⟨rfl,rfl⟩ ⟨rfl,rfl⟩ hbuf
  | ping ack =>
    cases ack
    · exact h.quiet ⟨rfl,rfl⟩ ⟨rfl,rfl⟩ hbuf
    · exact h.quiet ⟨rfl,rfl⟩ ⟨rfl,rfl⟩ hbuf
  | goaway | other => exact h.quiet ⟨rfl,rfl⟩ ⟨rfl,rfl⟩ hbuf

theorem Even.step (h : Even i s w) (ht : Tame i s ev) : Even i (s.step ev) w := by
  have hbuf := And.intro h.noBytes h.noCredit
  cases ev with
  | client frame =>
    have hr := (h.received frame).1
    simp only [Exchange.step]
    split
    · exact h
    split
    · exact hr
    · exact hr.clientFrame (by cases frame <;> exact ht)
  | upstream frame => exact (h.received frame).2.upstreamFrame (by cases frame <;> exact ht)
  | preface valid =>
    simp only [Exchange.step]
    split
    · exact h
    split
    · exact h.quiet ⟨rfl,rfl⟩ ⟨rfl,rfl⟩ hbuf
    · exact { h with }
  | connecting => exact { h with }
  | closed =>
    refine h.quiet ?_ ⟨rfl,rfl⟩ hbuf
    split <;> exact ⟨rfl,rfl⟩
  | connected | failed => exact h.quiet ⟨rfl,rfl⟩ ⟨rfl,rfl⟩ hbuf

end invariant

/-- A run whose steps are tame respects the windows of both sides. -/
theorem windows_respected {i : Windows} {events : List Event}
    (h : Runs.Along (fun s ev => some (step s ev)) (Tame i) .start events) (w : Nat) :
    Respects i (events.foldl step .start) w := by
  have he : Even i (events.foldl step .start) w :=
    h.keeps (I := fun s => Even i s w) (fun s ev s' hs ht heq => by cases heq; exact hs.step ht)
      ⟨Nat.zero_le _,Nat.zero_le _,rfl,rfl,rfl,rfl⟩ (Runs.run_some _ _ _)
  exact ⟨he.backend,he.client,Nat.le_of_eq (congrArg _ he.grantClient),
    Nat.le_of_eq (congrArg _ he.grantBackend)⟩

/-- Both sides send no more data than the activator has granted them. -/
def Obeys (s : Exchange) : Event → Prop
  | .client (.data stream len) =>
    ∀ w ∈ [0,stream], bytes w s.fromClient + len ≤ 65535 + credit w s.toClient
  | .upstream (.data stream len) =>
    ∀ w ∈ [0,stream], bytes w s.fromBackend + len ≤ 65535 + credit w s.toBackend
  | _ => True

/-- A request with a body, on a backend that is ready. -/
def request : List Event :=
  [.preface true,.client .other,.connecting,.connected,.upstream (.settings false),
    .client (.data 1 100)]

theorem windows_respected_request : Respects ⟨65535,65535⟩ (request.foldl step .start) 1 := by
  refine windows_respected ?_ 1
  simp only [request,Runs.Along,Tame]
  decide +kernel

/-- The backend has read the body. -/
def granted : List Event := request ++ [.upstream (.windowUpdate 0 100)]

/-- The body is passed on although the backend has a window of ten bytes. And when the backend grants
credit for what it has read, the client is granted it a second time. -/
theorem windows_exceeded :
    Runs.Along (fun s ev => some (step s ev)) Obeys .start granted ∧
    ¬ Respects ⟨65535,10⟩ (request.foldl step .start) 1 ∧
    ¬ Respects ⟨65535,65535⟩ (granted.foldl step .start) 0 := by
  refine ⟨?_,fun h => absurd h.backend (by decide),fun h => absurd h.grantClient (by decide)⟩
  simp only [granted,request,List.cons_append,List.nil_append,Runs.Along,Obeys]
  decide +kernel

end Distvirt.Http2
