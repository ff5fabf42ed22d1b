import Mathlib.Algebra.Ring.Nat
import Distvirt.Runs
import Distvirt.Table

/-! The TCP activator, which holds the first frame of each flow until there is a backend, and the
tracker that numbers the flows. -/

namespace Distvirt.Tcp

open List AList

structure FlowKey where
  srcIp : Nat
  dstIp : Nat
  protocol : Nat
  srcPort : Nat
  dstPort : Nat
deriving DecidableEq

/-- The transport header that the packet parser has found. -/
inductive Transport where
  | tcp (srcPort dstPort : Nat) (flags : UInt8)
  | udp (srcPort dstPort : Nat)
  | other

structure Packet where
  srcIp : Nat
  dstIp : Nat
  transport : Transport

def Packet.flowKey (p : Packet) : FlowKey :=
  match p.transport with
  | .tcp srcPort dstPort _ => ⟨p.srcIp,p.dstIp,6,srcPort,dstPort⟩
  | .udp srcPort dstPort => ⟨p.srcIp,p.dstIp,17,srcPort,dstPort⟩
  | .other => ⟨p.srcIp,p.dstIp,0,0,0⟩

/-- What the activator reads of a packet. -/
structure PacketInfo where
  flow : Nat
  tcpFlags : Option UInt8
  rawFrame : List UInt8

structure FlowTracker where
  flows : Table FlowKey Nat := ∅
  nextId : Nat := 1

namespace FlowTracker

def getOrAssign (t : FlowTracker) (key : FlowKey) : Nat × FlowTracker :=
  match t.flows.lookup key with
  | some id => (id,t)
  | none => (t.nextId,⟨t.flows.insert key t.nextId,(t.nextId + 1) % 2 ^ 64⟩)

def parseFrameToPacketInfo (t : FlowTracker) (p : Packet) (rawFrame : List UInt8) :
    PacketInfo × FlowTracker :=
  let (flow,t) := t.getOrAssign p.flowKey
  ({ flow
     tcpFlags := match p.transport with
      | .tcp _ _ flags => some flags
      | _ => none
     rawFrame },t)

end FlowTracker

inductive Decision where
  | buffered
  | drop
deriving DecidableEq

inductive Event where
  | packet (info : PacketInfo)
  | backendAvailable (available : Bool)
  | other

inductive Action where
  | packetDecision (flow : Nat) (decision : Decision)
  | needTraffic
  | replayPacket (rawFrame : List UInt8)
deriving DecidableEq

def maxFlows : Nat := 1024

/-- The frames that are held, by flow. -/
abbrev TcpActivator := Table Nat (List UInt8)

namespace TcpActivator

def isRst (tcpFlags : Option UInt8) : Bool := tcpFlags.getD 0 &&& 0x04 ≠ 0

/-- A SYN and any other packet are treated alike. -/
def processEvent (flows : TcpActivator) : Event → TcpActivator × List Action
  | .packet info =>
    if isRst info.tcpFlags then (flows,[.packetDecision info.flow .drop])
    else if info.flow ∈ flows then (flows,[.packetDecision info.flow .buffered])
    else (if flows.entries.length < maxFlows then flows.insert info.flow info.rawFrame else flows,
      [.packetDecision info.flow .buffered,.needTraffic])
  | .backendAvailable true => (∅,flows.toList.map (fun f => .replayPacket f.2))
  | .backendAvailable false | .other => (flows,[])

end TcpActivator

open TcpActivator

/-- The activator, and the first frame of each flow that was answered with `buffered` since the
last time a backend came. -/
structure Replay where
  flows : TcpActivator := ∅
  owed : List (Nat × List UInt8) := []

namespace Replay

def step (s : Replay) (ev : Event) : Replay where
  flows := (s.flows.processEvent ev).1
  owed :=
    match ev with
    | .packet info =>
      if .packetDecision info.flow .buffered ∈ (s.flows.processEvent ev).2 ∧
          info.flow ∉ s.owed.map Prod.fst then s.owed ++ [(info.flow,info.rawFrame)]
      else s.owed
    | .backendAvailable true => []
    | _ => s.owed

/-- A packet of a new flow finds room for its frame. -/
def Roomy (s : Replay) : Event → Prop
  | .packet info => TcpActivator.isRst info.tcpFlags = true ∨ info.flow ∈ s.flows ∨
      s.flows.entries.length < maxFlows
  | _ => True

instance (s : Replay) : (ev : Event) → Decidable (s.Roomy ev)
  | .packet _ => inferInstanceAs (Decidable (_ ∨ _ ∨ _))
  | .backendAvailable _ | .other => isTrue trivial

variable {s : Replay} {ev : Event}

/-- What is owed is held. -/
theorem owed_step (h : s.flows.toList.Perm s.owed) (hr : s.Roomy ev) :
    (s.step ev).flows.toList.Perm (s.step ev).owed := by
  cases ev with
  | packet info =>
    have hmem : info.flow ∈ s.owed.map Prod.fst ↔ info.flow ∈ s.flows :=
      (h.map Prod.fst).mem_iff.symm.trans (by rw [map_fst_toList,AList.mem_keys])
    simp only [step,processEvent]
    by_cases hrst : isRst info.tcpFlags = true
    · simpa [hrst] using h
    · by_cases hknown : info.flow ∈ s.flows
      · simpa [hrst,hknown,hmem] using h
      · have hroom := (hr.resolve_left hrst).resolve_left hknown
        simp only [hrst,hknown,hmem,hroom,↓reduceIte]
        have hnew : (s.flows.insert info.flow info.rawFrame).toList =
            (info.flow,info.rawFrame) :: s.flows.toList := by
          rw [AList.toList,entries_insert_of_notMem hknown]
          rfl
        simp only [Bool.false_eq_true,↓reduceIte,mem_cons,true_or,not_false_eq_true,and_self]
        rw [hnew]
        exact (h.cons _).trans (perm_append_singleton _ _).symm
  | backendAvailable available =>
    cases available with
    | true => exact .nil
    | false => exact h
  | other => exact h

end Replay

theorem replayed_only (flows : TcpActivator) (ev : Event) (hev : ev ≠ .backendAvailable true)
    (frame : List UInt8) : .replayPacket frame ∉ (flows.processEvent ev).2 := by
  cases ev with
  | packet info =>
    simp only [processEvent]
    split
    · simp
    · split <;> simp
  | backendAvailable available =>
    cases available with
    | true => exact absurd rfl hev
    | false => simp [processEvent]
  | other => simp [processEvent]

namespace FlowTracker

/-- The numbers that the packets get, one after the other. -/
def number (t : FlowTracker) : List (Packet × List UInt8) → List (FlowKey × Nat) × FlowTracker
  | [] => ([],t)
  | (p,rawFrame) :: ps =>
    let (info,t) := t.parseFrameToPacketInfo p rawFrame
    let (rest,t) := t.number ps
    ((p.flowKey,info.flow) :: rest,t)

/-- No number has been given to two flows, and the next is new unless the numbers run out. -/
structure Distinct (t : FlowTracker) : Prop where
  next : t.nextId = (t.flows.entries.length + 1) % 2 ^ 64
  below : ∀ k id, t.flows.lookup k = some id → id ≤ t.flows.entries.length
  inj : ∀ k k' id, t.flows.lookup k = some id → t.flows.lookup k' = some id → k = k'

variable {t : FlowTracker}

/-- A flow keeps its number, and a new flow gets a new one. -/
theorem Distinct.getOrAssign (h : t.Distinct) (key : FlowKey)
    (hroom : t.flows.entries.length + 1 < 2 ^ 64) :
    (t.getOrAssign key).2.Distinct ∧
      (t.getOrAssign key).2.flows.lookup key = some (t.getOrAssign key).1 ∧
      (∀ k id, t.flows.lookup k = some id → (t.getOrAssign key).2.flows.lookup k = some id) ∧
      (t.getOrAssign key).2.flows.entries.length ≤ t.flows.entries.length + 1 := by
  unfold FlowTracker.getOrAssign
  split
  · rename_i id hid
    exact ⟨h,hid,fun _ _ hk => hk,Nat.le_succ _⟩
  · rename_i hnone
    have hlen : (t.flows.insert key t.nextId).entries.length = t.flows.entries.length + 1 := by
      rw [entries_insert_of_notMem (lookup_eq_none.mp hnone)]
      rfl
    have hnext : t.nextId = t.flows.entries.length + 1 := h.next.trans (Nat.mod_eq_of_lt hroom)
    have hkeep : ∀ k id, t.flows.lookup k = some id → k ≠ key := by
      rintro k id hk rfl
      cases hnone.symm.trans hk
    have hold := h.below
    have hinj := h.inj
    refine ⟨⟨?_,?_,?_⟩,by simp,fun k id hk => ?_,Nat.le_of_eq hlen⟩
    · rw [hlen,hnext]
    · intro k id
      rw [lookup_insert_if,hlen]
      grind
    · intro k k' id
      simp only [lookup_insert_if]
      grind
    · rw [lookup_insert_if,if_neg (hkeep k id hk)]
      exact hk

theorem Distinct.number (ps : List (Packet × List UInt8)) :
    ∀ {t : FlowTracker}, t.Distinct → t.flows.entries.length + ps.length < 2 ^ 64 →
      (t.number ps).2.Distinct ∧
      (∀ k id, t.flows.lookup k = some id → (t.number ps).2.flows.lookup k = some id) ∧
      ∀ x ∈ (t.number ps).1, (t.number ps).2.flows.lookup x.1 = some x.2 := by
  induction ps with
  | nil => exact fun h _ => ⟨h,fun _ _ hk => hk,nofun⟩
  | cons p ps ih =>
    intro t h hroom
    rw [length_cons] at hroom
    obtain ⟨hd,hid,hkeep,hlen⟩ := h.getOrAssign p.1.flowKey (by omega)
    obtain ⟨hd',hkeep',hall⟩ := ih hd (by omega)
    refine ⟨hd',fun k id hk => hkeep' k id (hkeep k id hk),fun x hx => ?_⟩
    rcases mem_cons.mp hx with rfl | hx
    · exact hkeep' _ _ hid
    · exact hall x hx

end FlowTracker

/-- If every new flow finds room, the frames that were first answered with `buffered` are replayed
when a backend comes, each once, and nothing else is ever replayed. Different flows have different
numbers. -/
theorem first_frames_replayed (events : List Event) (s : Replay)
    (h : Runs.Along (fun s ev => some (s.step ev)) Replay.Roomy {} events)
    (hr : events.foldl Replay.step {} = s) (ps : List (Packet × List UInt8)) (hps : ps.length < 2 ^ 64) :
    (s.flows.processEvent (.backendAvailable true)).2.Perm (s.owed.map (fun f => .replayPacket f.2)) ∧
    (∀ ev, ev ≠ .backendAvailable true → ∀ frame, .replayPacket frame ∉ (s.flows.processEvent ev).2) ∧
    ∀ x ∈ (FlowTracker.number {} ps).1, ∀ y ∈ (FlowTracker.number {} ps).1, x.2 = y.2 → x.1 = y.1 := by
  have howed : s.flows.toList.Perm s.owed := h.keeps (I := fun s => s.flows.toList.Perm s.owed)
    (fun _ _ _ ho hroom hs => by cases hs; exact Replay.owed_step ho hroom) .nil
    ((Runs.run_some _ _ _).trans (congrArg some hr))
  refine ⟨howed.map _,fun ev hev => replayed_only s.flows ev hev,fun x hx y hy heq => ?_⟩
  have hnew : FlowTracker.Distinct {} := ⟨rfl,nofun,nofun⟩
  obtain ⟨hd,-,hall⟩ := hnew.number ps (by simpa using hps)
  exact hd.inj _ _ _ (hall x hx) (heq ▸ hall y hy)

/-- A SYN of the flow. -/
def syn (flow : Nat) : Event := .packet ⟨flow,some 2,[]⟩

/-- Two flows, the first of which sends its SYN twice. -/
def twoFlows : List (Packet × List UInt8) :=
  [(⟨10,20,.tcp 1000 80 2⟩,[1]),(⟨10,20,.tcp 1001 80 2⟩,[2]),(⟨10,20,.tcp 1000 80 2⟩,[3])]

def twoFlowEvents : List Event :=
  [.packet ⟨1,some 2,[1]⟩,.packet ⟨2,some 2,[2]⟩,.packet ⟨1,some 2,[3]⟩]

theorem two_flows_replayed :
    (processEvent (twoFlowEvents.foldl Replay.step {}).flows (.backendAvailable true)).2.Perm
      [.replayPacket [1],.replayPacket [2]] ∧
    (FlowTracker.number {} twoFlows).1.map Prod.snd = [1,2,1] ∧
    ∀ x ∈ (FlowTracker.number {} twoFlows).1, ∀ y ∈ (FlowTracker.number {} twoFlows).1,
      x.2 = y.2 → x.1 = y.1 := by
  have h := first_frames_replayed twoFlowEvents _ (by decide) rfl twoFlows (by decide)
  exact ⟨h.1,by decide,h.2.2⟩

namespace Replay

theorem held_le (events : List Event) : (events.foldl step {}).flows.entries.length ≤ maxFlows := by
  refine Runs.run_keeps (I := fun s => s.flows.entries.length ≤ maxFlows) (fun s ev s' h hs => ?_)
    (Nat.zero_le _) (Runs.run_some step {} events)
  cases hs
  cases ev with
  | packet info =>
    simp only [step,processEvent]
    split
    · exact h
    · split
      · exact h
      · rename_i hnew
        dsimp only
        split
        · rw [entries_insert_of_notMem hnew]
          assumption
        · exact h
  | backendAvailable available =>
    cases available with
    | true => exact Nat.zero_le _
    | false => exact h
  | other => exact h

theorem owed_syns (n : Nat) :
    (((range n).map syn).foldl step {}).owed = (range n).map (fun i => (i,[])) := by
  induction n with
  | zero => rfl
  | succ n ih =>
    rw [range_succ,map_append,foldl_append,map_append,← ih]
    simp only [map_cons,map_nil,foldl_cons,foldl_nil,syn,step]
    have hbuffered : ∀ flows : TcpActivator, .packetDecision n .buffered ∈
        (flows.processEvent (.packet ⟨n,some 2,[]⟩)).2 := by
      intro flows
      have hrst : isRst (some 2) = false := by decide
      rw [processEvent,hrst,if_neg Bool.false_ne_true]
      split <;> simp
    rw [if_pos ⟨hbuffered _,by simp [ih,Function.comp_def]⟩]

end Replay

/-- The activator holds 1024 frames, and answers one more packet with `buffered`. -/
theorem frame_of_full_activator_lost :
    ∃ n, ¬ ((((range n).map syn).foldl Replay.step {}).flows.processEvent
        (.backendAvailable true)).2.Perm
      ((((range n).map syn).foldl Replay.step {}).owed.map (fun f => .replayPacket f.2)) := by
  refine ⟨maxFlows + 1,fun hperm => ?_⟩
  have hle := Replay.held_le ((range (maxFlows + 1)).map syn)
  have hlen := hperm.length_eq
  rw [Replay.owed_syns,processEvent,toList] at hlen
  simp only [length_map,length_range] at hlen
  omega

end Distvirt.Tcp
