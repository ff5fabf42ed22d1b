import Distvirt.Runs
import Distvirt.Worker.Flow

/-! Which connections the flow tracker counts, against the packets and the collections that each
connection has seen. -/

namespace Distvirt.Worker.FlowTracker

open TcpFlowState

inductive Event
  | packet (key : FlowKey) (tcpFlags now : Nat)
  | gc (now : Nat)

def observe (t : FlowTracker) : Event → FlowTracker
  | .packet key tcpFlags now => t.trackPacket key tcpFlags now
  | .gc now => t.gc now

/-- The flow of a key counts for `has_active_flows`. -/
def counts (t : FlowTracker) (key : FlowKey) : Bool :=
  (t.flows.lookup key).any (·.tcpState.isActive)

/-- What a connection has seen since the SYN that opened it. -/
structure Connection where
  acked : Bool
  reset : Bool
  fins : Nat
  /-- A collection found it silent for longer than the timeout of its state. -/
  dropped : Bool
  lastSeen : Nat

namespace Connection

def ended (c : Connection) : Bool := c.reset || decide (2 ≤ c.fins) || c.dropped

def active (c : Connection) : Bool := c.acked && !c.reset && decide (c.fins ≤ 1) && !c.dropped

def state (c : Connection) : TcpFlowState :=
  if c.fins = 0 then if c.acked then .established else .opening else .halfClosed

def sees (c : Connection) (tcpFlags now : Nat) : Connection where
  acked := c.acked || tcpFlags.testBit 4
  reset := c.reset || tcpFlags.testBit 2
  fins := c.fins + (tcpFlags.testBit 0).toNat
  dropped := c.dropped
  lastSeen := now

def opened (tcpFlags now : Nat) : Connection := sees ⟨false,false,0,false,now⟩ tcpFlags now

def collect (c : Connection) (now : Nat) : Connection := { c with
  dropped := c.dropped || decide (c.ended = false ∧ c.state.timeout < now - c.lastSeen) }

end Connection

/-- The connection of a key after one more event. A SYN opens one if there is none, or if the one
before is over. -/
def follow (key : FlowKey) (c : Option Connection) : Event → Option Connection
  | .packet key' tcpFlags now =>
    if key = key' then
      if tcpFlags.testBit 1 && c.all Connection.ended then some (.opened tcpFlags now)
      else c.map (·.sees tcpFlags now)
    else c
  | .gc now => c.map (·.collect now)

def connection (key : FlowKey) (events : List Event) : Option Connection :=
  events.foldl (follow key) none

/-- A SYN that opens a flow carries neither FIN nor RST, a FIN for a flow that is still opening
carries an ACK, and the entry of a connection that is over gets neither a FIN nor a SYN. -/
def TakesPacket (tcpFlags : Nat) : Option FlowState → Prop
  | none => tcpFlags.testBit 1 = true → tcpFlags.testBit 0 = false ∧ tcpFlags.testBit 2 = false
  | some ⟨_,.opening⟩ => tcpFlags.testBit 2 = true ∨ tcpFlags.testBit 0 = false ∨
      tcpFlags.testBit 4 = true
  | some ⟨_,.closed⟩ => tcpFlags.testBit 2 = true ∨
      tcpFlags.testBit 0 = false ∧ tcpFlags.testBit 1 = false
  | some _ => True

/-- No collection comes exactly when a timeout has passed. -/
def Takes (t : FlowTracker) : Event → Prop
  | .packet key tcpFlags _ => TakesPacket tcpFlags (t.flows.lookup key)
  | .gc now => ∀ flow ∈ t.flows.toList, flow.2.tcpState ≠ .closed →
      now - flow.2.lastSeen ≠ flow.2.tcpState.timeout

instance decidableTakesPacket (tcpFlags : Nat) :
    (e : Option FlowState) → Decidable (TakesPacket tcpFlags e)
  | none => inferInstanceAs (Decidable (_ → _))
  | some ⟨_,.opening⟩ => inferInstanceAs (Decidable (_ ∨ _))
  | some ⟨_,.closed⟩ => inferInstanceAs (Decidable (_ ∨ _))
  | some ⟨_,.established⟩ | some ⟨_,.halfClosed⟩ => isTrue trivial

instance decidableTakes (t : FlowTracker) : (ev : Event) → Decidable (t.Takes ev)
  | .packet key tcpFlags _ => decidableTakesPacket tcpFlags (t.flows.lookup key)
  | .gc _ => inferInstanceAs (Decidable (∀ flow ∈ t.flows.toList,_))

/-- An entry against the connection of its key. -/
inductive Follows : Option FlowState → Option Connection → Prop
  | ended {e : Option FlowState} {c : Option Connection} (he : ∀ s, e = some s → s.tcpState = .closed)
      (hc : ∀ x, c = some x → x.ended = true) : Follows e c
  | live (x : Connection) (hx : x.ended = false) (ha : x.acked = x.state.isActive) :
      Follows (some ⟨x.lastSeen,x.state⟩) (some x)

variable {t : FlowTracker} {key : FlowKey} {tcpFlags now : Nat} {e : Option FlowState}
  {c : Option Connection} {x : Connection} {events : List Event}

open Connection hiding state

theorem Connection.ended_false :
    x.ended = false ↔ x.reset = false ∧ x.fins ≤ 1 ∧ x.dropped = false := by
  simp only [ended,Bool.or_eq_false_iff,decide_eq_false_iff_not,and_assoc]
  constructor
  · rintro ⟨hr,hf,hd⟩
    exact ⟨hr,by omega,hd⟩
  · rintro ⟨hr,hf,hd⟩
    exact ⟨hr,by omega,hd⟩

theorem Connection.active_eq : x.active = (x.acked && !x.ended) := by
  unfold active ended
  have hf : decide (x.fins ≤ 1) = !decide (2 ≤ x.fins) := by
    rw [← decide_not]
    exact decide_eq_decide.mpr (by omega)
  rw [hf,Bool.not_or,Bool.not_or]
  simp only [Bool.and_assoc]

theorem Connection.sees_ended (h : x.ended = true) : (x.sees tcpFlags now).ended = true := by
  simp only [ended,sees,Bool.or_eq_true,decide_eq_true_eq] at h ⊢
  rcases h with (hr | hf) | hd
  · exact .inl (.inl (.inl hr))
  · exact .inl (.inr (decide_eq_true (Nat.le_add_right_of_le hf)))
  · exact .inr hd

theorem Connection.collect_ended (h : x.ended = true) : (x.collect now).ended = true := by
  have hd : (x.collect now).dropped = x.dropped := by simp [collect,h]
  unfold ended
  rw [hd]
  exact h

theorem Follows.counts (h : Follows e c) : e.any (·.tcpState.isActive) = c.any active := by
  cases h with
  | ended he hc =>
    have hleft : e.any (·.tcpState.isActive) = false := by
      cases e with
      | none => rfl
      | some s => simp [he s rfl,isActive]
    have hright : c.any active = false := by
      cases c with
      | none => rfl
      | some x => simp [active_eq,hc x rfl]
    rw [hleft,hright]
  | live x hx ha => simp [active_eq,hx,ha]

def trackEntry (e : Option FlowState) (tcpFlags now : Nat) : Option FlowState :=
  match e with
  | some s => some ⟨now,s.tcpState.next (tcpFlags.testBit 0) (tcpFlags.testBit 2) (tcpFlags.testBit 4)⟩
  | none => if tcpFlags.testBit 1 then
      some ⟨now,if tcpFlags.testBit 4 then .established else .opening⟩ else none

theorem lookup_trackPacket : (t.trackPacket key tcpFlags now).flows.lookup k =
    if k = key then trackEntry (t.flows.lookup k) tcpFlags now else t.flows.lookup k := by
  unfold trackPacket trackEntry
  by_cases hk : k = key
  · subst k
    cases he : t.flows.lookup key with
    | some s => simp
    | none =>
      dsimp only
      split
      · simp
      · simp [he]
  · cases t.flows.lookup key with
    | some s => simp [hk]
    | none =>
      dsimp only
      split
      · simp [hk]
      · simp

theorem opened_follows (hf : tcpFlags.testBit 0 = false) (hr : tcpFlags.testBit 2 = false) :
    Follows (some ⟨now,if tcpFlags.testBit 4 then .established else .opening⟩)
      (some (.opened tcpFlags now)) := by
  have hx : (opened tcpFlags now).ended = false := by
    simp [opened,sees,ended,hf,hr]
  have hs : (opened tcpFlags now).state =
      if tcpFlags.testBit 4 then .established else .opening := by
    simp [opened,sees,Connection.state,hf]
  rw [← hs]
  refine .live (.opened tcpFlags now) hx ?_
  rw [hs]
  cases hack : tcpFlags.testBit 4 <;> simp [opened,sees,hack,isActive]

theorem ended_packet (he : ∀ s, e = some s → s.tcpState = .closed)
    (hc : ∀ x, c = some x → x.ended = true) (htakes : TakesPacket tcpFlags e) :
    Follows (trackEntry e tcpFlags now) (follow key c (.packet key tcpFlags now)) := by
  have hall : c.all ended = true := by
    cases c with
    | none => rfl
    | some x => exact hc x rfl
  have hseen : ∀ x, c.map (·.sees tcpFlags now) = some x → x.ended = true := by
    intro x hx
    obtain ⟨y,hy,rfl⟩ := Option.map_eq_some_iff.mp hx
    exact sees_ended (hc y hy)
  simp only [follow,if_true,hall,Bool.and_true]
  cases e with
  | none =>
    simp only [trackEntry]
    split
    · rename_i hsyn
      obtain ⟨hf,hr⟩ := htakes hsyn
      exact opened_follows hf hr
    · exact .ended (by simp) hseen
  | some s =>
    obtain ⟨seen,state⟩ := s
    cases he _ rfl
    cases hr : tcpFlags.testBit 2 with
    | true =>
      have hclosed : ∀ s, trackEntry (some ⟨seen,.closed⟩) tcpFlags now = some s →
          s.tcpState = .closed := by simp [trackEntry,next,hr]
      refine .ended hclosed ?_
      split
      · simp [opened,sees,ended,hr]
      · exact hseen
    | false =>
      obtain ⟨hf,hsyn⟩ := htakes.resolve_left (by simp [hr])
      have hclosed : ∀ s, trackEntry (some ⟨seen,.closed⟩) tcpFlags now = some s →
          s.tcpState = .closed := by simp [trackEntry,next,hr,hf]
      refine .ended hclosed ?_
      simpa only [hsyn,Bool.false_eq_true,if_false] using hseen

theorem follows_seen (hx : (x.sees tcpFlags now).ended = false)
    (hs : (x.sees tcpFlags now).state = state) (ha : (x.sees tcpFlags now).acked = state.isActive) :
    Follows (some ⟨now,state⟩) (some (x.sees tcpFlags now)) := by
  subst hs
  exact .live (x.sees tcpFlags now) hx ha

theorem live_packet (hx : x.ended = false) (ha : x.acked = x.state.isActive)
    (htakes : TakesPacket tcpFlags (some ⟨x.lastSeen,x.state⟩)) :
    Follows (trackEntry (some ⟨x.lastSeen,x.state⟩) tcpFlags now) (some (x.sees tcpFlags now)) := by
  obtain ⟨hreset,hfins,hdropped⟩ := ended_false.mp hx
  cases hr : tcpFlags.testBit 2 with
  | true =>
    refine .ended ?_ ?_
    · simp [trackEntry,next,hr]
    · simp [sees,ended,hr]
  | false =>
    by_cases hzero : x.fins = 0
    · -- the first FIN, if it is one, finds the connection opening or established
      cases hf : tcpFlags.testBit 0 with
      | false =>
        apply follows_seen
        · simp [ended_false,sees,hreset,hr,hf,hdropped,hzero]
        · cases hack : x.acked <;>
            simp [Connection.state,sees,next,hr,hf,hack,hzero]
        · cases hack : x.acked <;> cases hack' : tcpFlags.testBit 4 <;>
            simp [Connection.state,sees,next,isActive,hr,hf,hack,hack',hzero]
      | true =>
        have hack : (x.acked || tcpFlags.testBit 4) = true := by
          cases hack : x.acked with
          | true => rfl
          | false => simpa [Connection.state,hzero,hack,TakesPacket,hr,hf] using htakes
        apply follows_seen
        · simp [ended_false,sees,hreset,hr,hf,hdropped,hzero]
        · cases hack : x.acked <;>
            simp [Connection.state,sees,next,hr,hf,hack,hzero]
        · cases hacked : x.acked <;>
            simp [Connection.state,sees,next,isActive,hr,hf,hacked,hzero] at hack ⊢
          exact hack
    · have hone : x.fins = 1 := by omega
      have hstate : x.state = .halfClosed := by simp [Connection.state,hone]
      have hack : x.acked = true := by rw [ha,hstate]; rfl
      simp only [hstate,trackEntry]
      cases hf : tcpFlags.testBit 0 with
      | false =>
        apply follows_seen
        · simp [ended_false,sees,hreset,hr,hf,hdropped,hone]
        · simp [Connection.state,sees,next,hr,hf,hone]
        · simp [sees,next,isActive,hr,hack]
      | true =>
        refine .ended ?_ ?_
        · simp [next,hr]
        · simp [sees,ended,hone,hf]

theorem Follows.packet (h : Follows e c) (htakes : TakesPacket tcpFlags e) :
    Follows (trackEntry e tcpFlags now) (follow key c (.packet key tcpFlags now)) := by
  cases h with
  | ended he hc => exact ended_packet he hc htakes
  | live x hx ha =>
    have hopen : Option.all Connection.ended (some x) = false := hx
    simp only [follow,if_true,hopen,Bool.and_false,Bool.false_eq_true,if_false,Option.map_some]
    exact live_packet hx ha htakes

def retained (now : Nat) (s : FlowState) : Option FlowState :=
  if now - s.lastSeen < s.tcpState.timeout then some s else none

theorem Follows.gc (h : Follows e c)
    (hexact : ∀ s, e = some s → s.tcpState ≠ .closed → now - s.lastSeen ≠ s.tcpState.timeout) :
    Follows (e.bind (retained now)) (follow key c (.gc now)) := by
  cases h with
  | ended he hc =>
    refine .ended ?_ ?_
    · intro s hs
      obtain ⟨s',hs',hkept⟩ := Option.bind_eq_some_iff.mp hs
      unfold retained at hkept
      split at hkept
      · cases hkept
        exact he s hs'
      · cases hkept
    · intro y hy
      obtain ⟨x,hx,rfl⟩ := Option.map_eq_some_iff.mp hy
      exact collect_ended (hc x hx)
  | live x hx ha =>
    have hopen : x.state ≠ .closed := by
      unfold Connection.state
      split
      · split <;> simp
      · simp
    have hne := hexact _ rfl hopen
    simp only [Option.bind_some,retained,follow,Option.map_some]
    by_cases hlt : now - x.lastSeen < x.state.timeout
    · have hkept : x.collect now = x := by
        have hnot : ¬ x.state.timeout < now - x.lastSeen := by omega
        simp [collect,hnot]
      rw [if_pos hlt,hkept]
      exact .live x hx ha
    · rw [if_neg hlt]
      have hgt : x.state.timeout < now - x.lastSeen := by
        dsimp only at hne
        omega
      have hd : (x.collect now).dropped = true := by simp [collect,hx,hgt]
      exact .ended (by simp) (by simp [Connection.ended,hd])

theorem Takes.follows (h : Follows (t.flows.lookup k) c) (htakes : t.Takes ev) :
    Follows ((t.observe ev).flows.lookup k) (follow k c ev) := by
  cases ev with
  | packet key tcpFlags now =>
    rw [observe,lookup_trackPacket]
    by_cases hk : k = key
    · subst hk
      rw [if_pos rfl]
      exact h.packet htakes
    · rw [if_neg hk]
      simpa only [follow,if_neg hk] using h
  | gc now =>
    rw [observe,FlowTracker.gc,AList.lookup_retain]
    exact h.gc (fun s hs => htakes (k,s) (AList.mem_toList.mpr hs))

theorem along_follows (h : Runs.Along (fun t ev => some (t.observe ev)) Takes t events)
    (hk : Follows (t.flows.lookup k) c) :
    Follows ((events.foldl observe t).flows.lookup k) (events.foldl (follow k) c) := by
  induction events generalizing t c with
  | nil => exact hk
  | cons ev events ih => exact ih h.2 (h.1.follows hk)

theorem hasActiveFlows_iff : t.hasActiveFlows = true ↔ ∃ key, t.counts key = true := by
  simp only [hasActiveFlows,List.any_eq_true,Prod.exists,AList.mem_toList,counts,Option.any_eq_true]

/-- Along packets and collections that the tracker takes, the flow of a key counts exactly while its
connection has seen an ACK, no RST, at most one FIN and no collection after its timeout. -/
theorem counts_live_connections (events : List Event)
    (h : Runs.Along (fun t ev => some (t.observe ev)) Takes new events) :
    (∀ key, (events.foldl observe new).counts key = (connection key events).any active) ∧
    ((events.foldl observe new).hasActiveFlows = true ↔
      ∃ key, (connection key events).any active = true) := by
  have heach : ∀ key, (events.foldl observe new).counts key =
      (connection key events).any active := by
    intro key
    have hnew : Follows (new.flows.lookup key) none := .ended (by simp [new]) (by simp)
    exact (along_follows h hnew).counts
  exact ⟨heach,by simp only [hasActiveFlows_iff,heach]⟩

def sampleKey : FlowKey := ⟨1,2,6,40000,80⟩

/-- A connection that is opened, used, kept by a collection and half closed. -/
def usualEvents : List Event :=
  [.packet sampleKey 2 0,.packet sampleKey 16 10,.gc 5000,.packet sampleKey 17 6000]

theorem usualEvents_counted : (usualEvents.foldl observe new).counts sampleKey = true ∧
    (connection sampleKey usualEvents).any active = true := by
  have h := (counts_live_connections usualEvents (by decide)).1 sampleKey
  have hcounted : (usualEvents.foldl observe new).counts sampleKey = true := by decide
  exact ⟨hcounted,h ▸ hcounted⟩

/-- A third FIN makes a finished connection count again, the next connection of the same ports does
not count, and a collection drops a connection that has been silent for just its timeout. -/
theorem finished_connection_counts :
    let finished : List Event := [.packet sampleKey 2 0,.packet sampleKey 16 1,
      .packet sampleKey 17 2,.packet sampleKey 17 3,.packet sampleKey 17 4]
    let again : List Event := [.packet sampleKey 2 0,.packet sampleKey 4 1,.packet sampleKey 2 2,
      .packet sampleKey 16 3]
    let silent : List Event := [.packet sampleKey 2 0,.packet sampleKey 16 0,.gc 300000]
    ((finished.foldl observe new).counts sampleKey = true ∧
      (connection sampleKey finished).any active = false) ∧
    ((again.foldl observe new).counts sampleKey = false ∧
      (connection sampleKey again).any active = true) ∧
    ((silent.foldl observe new).counts sampleKey = false ∧
      (connection sampleKey silent).any active = true) := by
  decide

end Distvirt.Worker.FlowTracker
