import Distvirt.Sm.NsTopology

/-! The calls that code outside a router may make, and its snapshots. -/

namespace Distvirt.SmRouter

/-- The public methods of a router. The setters and the destructor of a machine are public only
where the declaration exposes the internals. -/
inductive Call (T : Topology) where
  | setSignal (s : T.Signal) (id : Nat) (value : T.Val s)
  | setEdges (e : T.Edge) (source : Nat) (newTargets : List Nat)
  | createPort (p : T.Port) (id : Nat)
  | createPortAuto (p : T.Port)
  | destroyPort (p : T.Port) (id : Nat)
  | createSm (k : T.Sm) (id : Nat) (state : T.State k)
  | createSmAuto (k : T.Sm) (state : T.State k)
  | destroySm (k : T.Sm) (id : Nat)
  | send (ev : T.PendingEvent)
  | drain (p : T.Port)
  | propagate

/-- What a call returns: the id of a node created without one, the inputs taken from a queue. -/
inductive Reply (T : Topology) where
  | done
  | created (id : Nat)
  | inputs (queue : List (Nat × (i : T.Inc) × T.Delta i))

/-- All that is kept of a router: of the edges the target lists only. -/
structure Snapshot (T : Topology) where
  sms : (k : T.Sm) → Nat → Option (T.State k)
  ports : T.Port → Nat → Bool
  out : (s : T.Signal) → Nat → Option (T.Val s)
  inp : (b : T.Batch) → Nat → Option (T.Out b)
  last : (i : T.Inc) → Nat → Option (T.Delta i)
  prev : (i : T.Inc) → (source : T.Edge × T.Signal) → Nat → List (Nat × T.Val source.2)
  fwd : T.Edge → Forward
  alloc : T.IdAlloc

namespace Router

variable {T : Topology} {r : Router T}

def createSmAuto (r : Router T) (k : T.Sm) (state : T.State k) : Nat × Router T :=
  let id := r.alloc (.inl k)
  (id,{ r with alloc := Function.update r.alloc (.inl k) (id + 1) }.createSm k id state)

/-- Only a propagation can fail, with a panic. -/
def call (r : Router T) : Call T → Option (Reply T × Router T)
  | .setSignal s id value => some (.done,r.setSignal s id value)
  | .setEdges e source newTargets => some (.done,r.setEdges e source newTargets)
  | .createPort p id => some (.done,r.createPort p id)
  | .createPortAuto p => some (.created (r.createPortAuto p).1,(r.createPortAuto p).2)
  | .destroyPort p id => some (.done,r.destroyPort p id)
  | .createSm k id state => some (.done,r.createSm k id state)
  | .createSmAuto k state =>
    some (.created (r.createSmAuto k state).1,(r.createSmAuto k state).2)
  | .destroySm k id => some (.done,r.destroySm k id)
  | .send ev => some (.done,r.send ev)
  | .drain p => some (.inputs (r.drain p).1,(r.drain p).2)
  | .propagate => r.propagate.map (fun r => (.done,r))

def run (r : Router T) : List (Call T) → Option (List (Reply T) × Router T)
  | [] => some ([],r)
  | c :: calls => do
    let (reply,r) ← r.call c
    let (replies,r) ← r.run calls
    return (reply :: replies,r)

def snapshot (r : Router T) : Snapshot T :=
  { sms := r.sms, ports := r.ports, out := r.out, inp := r.inp, last := r.last, prev := r.prev,
    fwd := fun e => (r.edge e).fwd, alloc := r.alloc }

/-- The reverse indices are rebuilt, and nothing is waiting. -/
def fromSnapshot (s : Snapshot T) : Router T :=
  { sms := s.sms, ports := s.ports, out := s.out, inp := s.inp, last := s.last, prev := s.prev,
    edge := fun e => EdgeMap.fromFwd (s.fwd e), dirty := [], pendingEvents := [],
    pendingCreates := [], queue := [], alloc := s.alloc }

/-- A snapshot leaves out the waiting work and the unread inputs only. -/
theorem fromSnapshot_snapshot : fromSnapshot r.snapshot =
    { r with dirty := [], pendingEvents := [], pendingCreates := [], queue := [] } := by
  have hedge : (fun e => EdgeMap.fromFwd ((r.edge e).fwd)) = r.edge := by
    funext e
    exact EdgeMap.fromFwd_fwd (r.edge e)
  simp only [fromSnapshot,snapshot,hedge]

/-- A router at rest with empty queues is its restored snapshot, so whatever is done with the two
gives the same replies, deliveries, queues and later snapshots. -/
theorem restored_same (hq : r.Quiescent) (hd : r.queue = []) (later : List (Call T)) :
    fromSnapshot r.snapshot = r ∧ (fromSnapshot r.snapshot).run later = r.run later := by
  obtain ⟨hdirty,hevents,hcreates⟩ := hq
  have same : fromSnapshot r.snapshot = r := by
    rw [fromSnapshot_snapshot,← hdirty,← hevents,← hcreates,← hd]
  exact ⟨same,by rw [same]⟩

open Ns in
/-- A workload that has been given its spec. -/
def specifiedWorkload : List (Call Ns.topology) :=
  [.createPort PortKind.management 0,.createSm SmKind.workload 7 WorkloadSm.new,
    .setEdges Edge.workloadConfig 0 [7],.propagate]

open Ns in
theorem specifiedWorkload_restored : ∃ replies r, (new Ns.topology).run specifiedWorkload =
      some (replies,r) ∧ r.Quiescent ∧ r.queue = [] ∧ fromSnapshot r.snapshot = r ∧
      (fromSnapshot r.snapshot).run [.setEdges Edge.workloadConfig 0 [],.propagate] =
        r.run [.setEdges Edge.workloadConfig 0 [],.propagate] := by
  have h : ((new Ns.topology).run specifiedWorkload).any (fun out =>
      out.2.Quiescent ∧ out.2.queue.isEmpty) = true := by decide +kernel
  obtain ⟨⟨replies,r⟩,hr,h⟩ := Option.any_eq_true _ _ |>.mp h
  simp only [decide_eq_true_eq,List.isEmpty_iff] at h
  exact ⟨replies,r,hr,h.1,h.2,restored_same h.1 h.2 _⟩

end Router

end Distvirt.SmRouter
