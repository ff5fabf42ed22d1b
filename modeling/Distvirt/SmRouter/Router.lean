import Distvirt.SmRouter.Topology

/-! The generated router: its state, the setters and lifecycle calls that external code and
handlers use, and the propagation loop. -/

namespace Distvirt.SmRouter

/-- `out`, `inp`, `last` and `prev` together are the signal states of the nodes: the current value
of each signal, the value last delivered to each batch input of a machine and of a port, and for
each source of an incremental input the values its last delta was computed from.
`out s id = none` says that the node has no signal state. `queue` holds the inputs of all ports
in order of arrival. -/
structure Router (T : Topology) where
  sms : (k : T.Sm) → Nat → Option (T.State k)
  ports : T.Port → Nat → Bool
  out : (s : T.Signal) → Nat → Option (T.Val s)
  inp : (b : T.Batch) → Nat → Option (T.Out b)
  last : (i : T.Inc) → Nat → Option (T.Delta i)
  prev : (i : T.Inc) → (source : T.Edge × T.Signal) → Nat → List (Nat × T.Val source.2)
  edge : T.Edge → EdgeMap
  dirty : List (T.Input × Nat)
  pendingEvents : List T.PendingEvent
  pendingCreates : List T.PendingCreate
  queue : List (Nat × (i : T.Inc) × T.Delta i)
  alloc : T.IdAlloc

namespace Router

variable {T : Topology}

def new (T : Topology) : Router T :=
  { sms := fun _ _ => none, ports := fun _ _ => false, out := fun _ _ => none,
    inp := fun _ _ => none, last := fun _ _ => none, prev := fun _ _ _ => [],
    edge := fun _ => .empty, dirty := [], pendingEvents := [], pendingCreates := [], queue := [],
    alloc := fun _ => 0 }

/-- Sources whose node has no signal state are skipped. -/
def collect (r : Router T) (target : Nat) (e : T.Edge) (s : T.Signal) : List (Nat × T.Val s) :=
  ((r.edge e).sources target).filterMap (fun id => (r.out s id).map (Prod.mk id))

def view (r : Router T) (i : T.Input) (target : Nat) : T.View := fun e s =>
  if (e,s) ∈ T.sources i then r.collect target e s else []

/-- The aggregate a batch input would see now. -/
def aggregate (r : Router T) (b : T.Batch) (target : Nat) : T.Out b :=
  T.aggregate b (r.view (.inl b) target)

/-- Inserts a default signal state for a node, over whatever it had. -/
def initState (r : Router T) (k : T.Kind) (id : Nat) : Router T :=
  { r with
    out := fun s =>
      if T.node s = k then Function.update (r.out s) id (some (T.initial s)) else r.out s
    inp := fun b =>
      if .inl (T.batchNode b) = k then Function.update (r.inp b) id none else r.inp b
    last := fun i => if T.incNode i = k then Function.update (r.last i) id none else r.last i
    prev := fun i source =>
      if T.incNode i = k then Function.update (r.prev i source) id [] else r.prev i source }

def dropState (r : Router T) (k : T.Kind) (id : Nat) : Router T :=
  { r with
    out := fun s => if T.node s = k then Function.update (r.out s) id none else r.out s
    inp := fun b =>
      if .inl (T.batchNode b) = k then Function.update (r.inp b) id none else r.inp b
    last := fun i => if T.incNode i = k then Function.update (r.last i) id none else r.last i
    prev := fun i source =>
      if T.incNode i = k then Function.update (r.prev i source) id [] else r.prev i source }

/-- The inputs that read a signal of a node, one for each source and target. -/
def readers (r : Router T) (s : T.Signal) (id : Nat) : List (T.Input × Nat) :=
  T.inputs.flatMap (fun i => ((T.sources i).filter (fun source => source.2 = s)).flatMap
    (fun source => ((r.edge source.1).targets id).map (Prod.mk i)))

def setSignal (r : Router T) (s : T.Signal) (id : Nat) (value : T.Val s) : Router T :=
  if r.out s id = some value then r
  else
    let r := if r.out s id = none then r.initState (T.node s) id else r
    { r with
      out := put r.out s id (some value)
      dirty := r.dirty ++ r.readers s id }

def edgeInputs (e : T.Edge) : List T.Input :=
  T.inputs.filter (fun i => (T.sources i).any (fun source => source.1 = e))

def setEdges (r : Router T) (e : T.Edge) (source : Nat) (newTargets : List Nat) : Router T :=
  { r with
    edge := Function.update r.edge e ((r.edge e).setEdges source newTargets)
    dirty := r.dirty ++ ((r.edge e).changed source newTargets).flatMap
      (fun target => (edgeInputs e).map (fun i => (i,target))) }

def clearEdges (r : Router T) (k : T.Kind) (id : Nat) : Router T :=
  (T.edges.filter (fun e => T.src e = k)).foldl (fun r e => r.setEdges e id []) r

def createPort (r : Router T) (p : T.Port) (id : Nat) : Router T :=
  { r with ports := put r.ports p id true }.initState (.inr p) id

def createPortAuto (r : Router T) (p : T.Port) : Nat × Router T :=
  let id := r.alloc (.inr p)
  (id,{ r with alloc := Function.update r.alloc (.inr p) (id + 1) }.createPort p id)

/-- Incoming edges of a port are dropped without notice, and so are its unread inputs. -/
def destroyPort (r : Router T) (p : T.Port) (id : Nat) : Router T :=
  let r := ({ r with ports := put r.ports p id false }.dropState (.inr p) id).clearEdges (.inr p) id
  { r with
    edge := fun e => if T.tgt e = .inr p then (r.edge e).removeTarget id else r.edge e
    queue := r.queue.filter (fun q => ¬ (q.1 = id ∧ T.incNode q.2.1 = .inr p)) }

def createSm (r : Router T) (k : T.Sm) (id : Nat) (sm : T.State k) : Router T :=
  { r with pendingCreates := r.pendingCreates ++ [⟨k,id,sm⟩] }

def destroySm (r : Router T) (k : T.Sm) (id : Nat) : Router T :=
  ({ r with sms := put r.sms k id none }.dropState (.inl k) id).clearEdges (.inl k) id

def send (r : Router T) (ev : T.PendingEvent) : Router T :=
  { r with pendingEvents := r.pendingEvents ++ [ev] }

def applySignals (r : Router T) (k : T.Sm) (id : Nat) (eff : T.Effects) : Router T :=
  (T.signals.filter (fun s => T.node s = .inl k)).foldl
    (fun r s => match eff.signal s with
      | some value => r.setSignal s id value
      | none => r) r

def applyEdges (r : Router T) (k : T.Sm) (id : Nat) (eff : T.Effects) : Router T :=
  (T.edges.filter (fun e => T.src e = .inl k)).foldl
    (fun r e => match eff.edge e with
      | some newTargets => r.setEdges e id newTargets
      | none => r) r

def applyEffects (r : Router T) (k : T.Sm) (id : Nat) (eff : T.Effects) : Router T :=
  let r := { r with pendingCreates := r.pendingCreates ++ eff.creates }
  let r := (r.applySignals k id eff).applyEdges k id eff
  let r := { r with pendingEvents := r.pendingEvents ++ eff.events }
  if eff.selfDestruct then r.destroySm k id else r

def react (r : Router T) (k : T.Sm) (id : Nat) (reaction : T.Reaction k) : Router T :=
  { r with sms := put r.sms k id (some reaction.state), alloc := reaction.alloc }.applyEffects
    k id reaction.effects

/-- A batch input is delivered to a live machine if its aggregate differs from the last value
delivered. -/
def processBatch (r : Router T) (b : T.Batch) (target : Nat) : Router T :=
  match r.sms (T.batchNode b) target with
  | none => r
  | some sm =>
    let result := r.aggregate b target
    if r.inp b target = some result then r
    else
      { r with inp := put r.inp b target (some result) }.react (T.batchNode b) target
        (T.onInput b result target r.alloc sm)

/-- The deltas of one source of an incremental input, which becomes its new snapshot. -/
def processSource (r : Router T) (i : T.Inc) (target : Nat) (source : T.Edge × T.Signal) :
    Router T :=
  let current := r.collect target source.1 source.2
  let deltas := incrementalDiff (T.added i source.1 source.2) (T.removed i source.1 source.2)
    (T.changed i source.1 source.2) current (r.prev i source target)
  { r with
    prev := Function.update r.prev i (put (r.prev i) source target current)
    queue := r.queue ++ deltas.map (fun d => (target,⟨i,d⟩)) }

/-- The deltas that one source of an incremental input has to report. -/
def deltas (r : Router T) (i : T.Inc) (t : Nat) (source : T.Edge × T.Signal) : List (T.Delta i) :=
  incrementalDiff (T.added i source.1 source.2) (T.removed i source.1 source.2)
    (T.changed i source.1 source.2) (r.collect t source.1 source.2) (r.prev i source t)

/-- What the sources of an incremental input say now becomes its snapshot. -/
def record (r : Router T) (i : T.Inc) (target : Nat) : Router T :=
  { r with prev := fun i' source t => if i' = i ∧ source ∈ T.sources (.inr i) ∧ t = target
      then r.collect target source.1 source.2 else r.prev i' source t }

/-- A machine handles one delta after the other, until it is gone. -/
def feed {D : Type} (k : T.Sm) (target : Nat)
    (handle : D → Nat → T.IdAlloc → T.State k → T.Reaction k) (r : Router T) : List D → Router T
  | [] => r
  | d :: ds =>
    match r.sms k target with
    | none => r
    | some sm =>
      let reaction := handle d target r.alloc sm
      let r := r.react k target reaction
      if reaction.effects.selfDestruct then r else feed k target handle r ds

/-- A batch input of a port is queued if it differs from the last value queued. -/
def processWhole (r : Router T) (i : T.Inc) (h : T.whole i = true) (target : Nat) : Router T :=
  let result := T.summary i h (r.view (.inr i) target)
  if r.last i target = some result then r
  else
    { r with
      last := put r.last i target (some result)
      queue := r.queue ++ [(target,⟨i,result⟩)] }

def processInc (r : Router T) (i : T.Inc) (target : Nat) : Router T :=
  match h : T.incNode i with
  | .inl k =>
    if r.sms k target = none then r
    else (r.record i target).feed k target (T.onDelta i k h)
      ((T.sources (.inr i)).flatMap (r.deltas i target))
  | .inr p =>
    if r.ports p target then
      if hw : T.whole i = true then r.processWhole i hw target
      else (T.sources (.inr i)).foldl (fun r source => r.processSource i target source) r
    else r

def processDirtyInput (r : Router T) : T.Input × Nat → Router T
  | (.inl b,target) => r.processBatch b target
  | (.inr i,target) => r.processInc i target

def connected (r : Router T) (ev : T.PendingEvent) : Bool :=
  T.edges.any (fun e =>
    (T.src e = T.sender ev.event ∧ T.tgt e = .inl (T.receiver ev.event) ∧
      ev.sender ∈ (r.edge e).sources ev.receiver) ∨
    (T.src e = .inl (T.receiver ev.event) ∧ T.tgt e = T.sender ev.event ∧
      ev.receiver ∈ (r.edge e).sources ev.sender))

/-- An event between nodes that no edge connects is a panic, one to a dead machine is lost. -/
def processEvent (r : Router T) (ev : T.PendingEvent) : Option (Router T) :=
  if r.connected ev then
    match r.sms (T.receiver ev.event) ev.receiver with
    | some sm => some (r.react (T.receiver ev.event) ev.receiver
        (T.onEvent ev.event ev.payload ev.receiver r.alloc sm))
    | none => some r
  else none

/-- Creating a machine under an id in use is a panic. -/
def materializeOne (r : Router T) (c : T.PendingCreate) : Option (Router T) :=
  match r.sms c.kind c.id with
  | some _ => none
  | none =>
    let hasState := T.signals.any (fun s => T.node s = .inl c.kind ∧ (r.out s c.id).isSome)
    let r := { r with sms := put r.sms c.kind c.id (some c.state) }
    let r := if hasState then r else r.initState (.inl c.kind) c.id
    some (r.react c.kind c.id (T.onInit c.kind c.id r.alloc c.state))

def materialize : Nat → Router T → Option (Router T)
  | fuel,r =>
    if r.pendingCreates = [] then some r
    else
      match fuel with
      | 0 => none
      | fuel + 1 =>
        (r.pendingCreates.foldlM materializeOne { r with pendingCreates := [] }).bind
          (materialize fuel)

/-- Nothing is waiting to be processed. -/
def Quiescent (r : Router T) : Prop :=
  r.dirty = [] ∧ r.pendingEvents = [] ∧ r.pendingCreates = []

instance (r : Router T) : Decidable r.Quiescent :=
  inferInstanceAs (Decidable (r.dirty = [] ∧ r.pendingEvents = [] ∧ r.pendingCreates = []))

/-- Keeps the first occurrence of each entry. -/
def dedupWave {α : Type} [DecidableEq α] (seen : List α) : List α → List α
  | [] => []
  | a :: l => if a ∈ seen then dedupWave seen l else a :: dedupWave (a :: seen) l

def processWave (r : Router T) : Router T :=
  (dedupWave [] r.dirty).foldl processDirtyInput { r with dirty := [] }

def processEvents (r : Router T) : Option (Router T) :=
  r.pendingEvents.foldlM processEvent { r with pendingEvents := [] }

def round (r : Router T) : Option (Router T) :=
  (materialize T.createDepth r).bind (fun r => r.processWave.processEvents)

def rounds : Nat → Router T → Option (Router T)
  | fuel,r =>
    if r.Quiescent then some r
    else
      match fuel with
      | 0 => none
      | fuel + 1 => r.round.bind (rounds fuel)

/-- Runs rounds until nothing is waiting. The round that reaches the depth limit panics, so
`depthLimit - 1` rounds may run. -/
def propagate (r : Router T) : Option (Router T) := rounds (T.depthLimit - 1) r

/-- Takes the unread inputs of the ports of one kind. -/
def drain (r : Router T) (p : T.Port) : List (Nat × (i : T.Inc) × T.Delta i) × Router T :=
  (r.queue.filter (fun q => T.incNode q.2.1 = .inr p),
    { r with queue := r.queue.filter (fun q => T.incNode q.2.1 ≠ .inr p) })

end Router

end Distvirt.SmRouter
