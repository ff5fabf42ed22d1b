import Mathlib.Logic.Relation
import Distvirt.Shell.Shell

/-! What the event loop of the shell waits for. It handles one event after the other, and a handler
waits for the peer of a new connection and for room in the channels to the writers of the workers. -/

namespace Distvirt.Shell

open List

/-- Which messages of the handshake the peer of a new connection sends or reads. -/
structure Peer where
  sendsHello : Bool := true
  readsAccepted : Bool := true
  sendsReady : Bool := true

/-- An event in the channel of the shell. -/
structure Incoming where
  now : Duration
  event : ShellEvent
  peer : Peer := {}

/-- The answers that the handler waits for, without a bound on the time. -/
def Incoming.handshake (e : Incoming) : List Bool :=
  match e.event with
  | .workerConnection _ _ => [e.peer.sendsHello,e.peer.readsAccepted,e.peer.sendsReady]
  | _ => []

inductive Wait where
  | peer (answers : Bool)
  /-- The next command for a worker needs a place in its channel. -/
  | room (workerId : WorkerId)

/-- A writer has a channel of 256 commands, and it takes one from there before it writes it. -/
def writerRoom : Nat := 257

/-- `waits` is what the present handler still waits for, `put` the receivers of the commands that the
writers were given. -/
structure Loop where
  shell : Shell
  queue : List Incoming
  waits : List Wait
  put : List WorkerId

def Loop.start (events : List Incoming) : Loop := ⟨new,events,[],[]⟩

def receivers (s : Shell) : List WorkerId :=
  s.trace.filterMap (fun | .sent w _ => some w | _ => none)

/-- The state after an event and the timers that are due, with what happened during the event only. -/
def handle (fuel : Nat) (s : Shell) (e : Incoming) : Option Shell :=
  { s with trace := [] }.step fuel (e.now,e.event)

/-- The receivers of all commands of a sequence of events. -/
def written (fuel : Nat) : Shell → List Incoming → Option (List WorkerId)
  | _,[] => some []
  | s,e :: events => do
    let s ← handle fuel s e
    return s.receivers ++ (← written fuel s events)

namespace Loop

/-- One step of the loop. The connection of a worker takes as many commands as `takes` says, or all. -/
def step (fuel : Nat) (takes : WorkerId → Option Nat) (l : Loop) : Option Loop :=
  match l.waits with
  | .peer answers :: waits => if answers then some { l with waits } else none
  | .room w :: waits =>
    if ∀ limit ∈ takes w, l.put.count w < limit + writerRoom then
      some { l with waits, put := l.put ++ [w] }
    else none
  | [] =>
    match l.queue with
    | [] => none
    | e :: queue => (handle fuel l.shell e).map (fun s => { l with
        shell := s
        queue
        waits := e.handshake.map .peer ++ s.receivers.map .room })

/-- After finitely many of its own steps the loop has handled all events. -/
def Finishes (fuel : Nat) (takes : WorkerId → Option Nat) (l : Loop) : Prop :=
  ∃ l', Relation.ReflTransGen (fun a b => step fuel takes a = some b) l l' ∧
    l'.waits = [] ∧ l'.queue = []

/-- No worker is given more commands than it takes and its writer has room for. -/
def Within (takes : WorkerId → Option Nat) (put : List WorkerId) : Prop :=
  ∀ w, ∀ limit ∈ takes w, put.count w ≤ limit + writerRoom

variable {fuel : Nat} {takes : WorkerId → Option Nat} {l : Loop} {s : Shell} {put : List WorkerId}
  {queue : List Incoming} {waits : List Wait}

def rooms (waits : List Wait) : List WorkerId :=
  waits.filterMap (fun | .room w => some w | .peer _ => none)

theorem Within.left (h : Within takes (put ++ more)) : Within takes put := by
  intro w limit hl
  have := h w limit hl
  rw [count_append] at this
  omega

/-- There is room for one more command exactly if it may be given. -/
theorem within_snoc (h : Within takes put) : Within takes (put ++ [w]) ↔
    ∀ limit ∈ takes w, put.count w < limit + writerRoom := by
  constructor
  · intro h' limit hl
    have := h' w limit hl
    rw [count_append,count_singleton_self] at this
    omega
  · intro hroom w' limit hl
    rw [count_append]
    by_cases hw : w = w'
    · subst hw
      have := hroom limit hl
      rw [count_singleton_self]
      omega
    · have := h w' limit hl
      simpa [hw] using this

theorem finishes_step (h : step fuel takes l = some m) :
    Finishes fuel takes l ↔ Finishes fuel takes m := by
  constructor
  · rintro ⟨z,hz,hw,hq⟩
    rcases hz.cases_head with rfl | ⟨b,hb,hz⟩
    · simp [step,hw,hq] at h
    · cases h.symm.trans hb
      exact ⟨z,hz,hw,hq⟩
  · rintro ⟨z,hz,hidle⟩
    exact ⟨z,.head h hz,hidle⟩

theorem not_finishes (h : step fuel takes l = none) (hw : l.waits ≠ []) : ¬ Finishes fuel takes l := by
  rintro ⟨m,hm,hw',-⟩
  rcases hm.cases_head with rfl | ⟨b,hb,-⟩
  · exact hw hw'
  · cases h.symm.trans hb

/-- The loop gets past the waits of a handler exactly if each of them is answered. -/
theorem waits_iff (h : Within takes put) : Finishes fuel takes ⟨s,queue,waits,put⟩ ↔
    .peer false ∉ waits ∧ Within takes (put ++ rooms waits) ∧
      Finishes fuel takes ⟨s,queue,[],put ++ rooms waits⟩ := by
  induction waits generalizing put with
  | nil => simp [rooms,h]
  | cons wait waits ih =>
    cases wait with
    | peer answers =>
      cases answers with
      | true =>
        rw [finishes_step (m := ⟨s,queue,waits,put⟩) rfl,ih h]
        simp [rooms]
      | false => exact iff_of_false (not_finishes rfl (by simp)) (by simp)
    | room w =>
      have hrooms : put ++ rooms (.room w :: waits) = put ++ [w] ++ rooms waits := by simp [rooms]
      by_cases hw : ∀ limit ∈ takes w, put.count w < limit + writerRoom
      · have hstep : step fuel takes ⟨s,queue,.room w :: waits,put⟩ =
            some ⟨s,queue,waits,put ++ [w]⟩ := if_pos hw
        rw [finishes_step hstep,ih ((within_snoc h).mpr hw),hrooms]
        simp
      · refine iff_of_false (not_finishes (if_neg hw) (by simp)) (fun h' => hw ?_)
        rw [hrooms] at h'
        exact (within_snoc h).mp h'.2.1.left

theorem finishes_iff (h : Within takes p) (hw : written fuel s queue = some ws) :
    Finishes fuel takes ⟨s,queue,[],p⟩ ↔
      (∀ e ∈ queue, ∀ answers ∈ e.handshake, answers = true) ∧ Within takes (p ++ ws) := by
  induction queue generalizing s p ws with
  | nil =>
    cases hw
    simpa [h] using ⟨_,.refl,rfl,rfl⟩
  | cons e queue ih =>
    obtain ⟨s',hs',hw⟩ := Option.bind_eq_some_iff.mp hw
    obtain ⟨ws',hws',hws⟩ := Option.bind_eq_some_iff.mp hw
    cases hws
    have hrooms : rooms (e.handshake.map .peer ++ s'.receivers.map .room) = s'.receivers := by
      simp [rooms,filterMap_map]
    have hpeers : .peer false ∉ e.handshake.map Wait.peer ++ s'.receivers.map .room ↔
        ∀ answers ∈ e.handshake, answers = true := by
      simp
    rw [finishes_step (m := ⟨s',queue,e.handshake.map .peer ++ s'.receivers.map .room,p⟩)
      (by simp [step,hs']),waits_iff h,hrooms,hpeers,forall_mem_cons,← append_assoc,and_assoc]
    refine and_congr_right (fun _ => ⟨fun h' => (ih h'.1 hws').mp h'.2,fun h' => ?_⟩)
    exact ⟨h'.2.left,(ih h'.2.left hws').mpr h'⟩

/-- The loop handles every event exactly if each new peer does its part of the handshake and no worker
is given more commands than it takes and its writer has room for. -/
theorem all_handled_iff (events : List Incoming) (hw : written fuel new events = some ws) :
    Finishes fuel takes (start events) ↔
      (∀ e ∈ events, ∀ answers ∈ e.handshake, answers = true) ∧ Within takes ws :=
  finishes_iff (p := []) (fun _ _ _ => by simp) hw

/-- A worker that reads no command, and a namespace for it. -/
def unreadEvents : List Incoming :=
  [⟨0,.workerConnection ⟨4,"",[]⟩ none,{}⟩,⟨0,.createNamespace "demo" ⟨0xac100000,0xac100001,24⟩,{}⟩]

theorem unreadEvents_handled : Finishes 1 (fun _ => some 0) (start unreadEvents) := by
  have ends : (written 1 new unreadEvents).any (fun ws => ws.length ≤ writerRoom) = true := by
    decide +kernel
  obtain ⟨ws,hws,hle⟩ := (Option.any_eq_true _ _).mp ends
  refine (all_handled_iff unreadEvents hws).mpr ⟨by decide,fun w limit _ => ?_⟩
  have hlen := of_decide_eq_true hle
  have hcount := ws.count_le_length (a := w)
  omega

/-- A peer that never says hello: what is next in the channel is never handled. -/
theorem silent_peer_blocks : ¬ Finishes 1 (fun _ => none) (start
    [⟨0,.workerConnection ⟨4,"",[]⟩ none,{ sendsHello := false }⟩,⟨0,.deadline,{}⟩]) := by
  intro h
  have ends : (written 1 new [⟨0,.workerConnection ⟨4,"",[]⟩ none,{ sendsHello := false }⟩,
      ⟨0,.deadline,{}⟩]).isSome = true := by decide +kernel
  obtain ⟨ws,hws⟩ := Option.isSome_iff_exists.mp ends
  have hanswers := ((finishes_iff (p := []) (fun _ _ _ => by simp) hws).mp h).1
  cases hanswers _ mem_cons_self false (by simp [Incoming.handshake])

end Loop

end Distvirt.Shell
