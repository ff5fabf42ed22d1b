import Distvirt.SmRouter.EdgeMap
import Mathlib.Logic.Function.Basic

/-! What a `router!` declaration fixes: the kinds of nodes, their signals and edges, the inputs
that aggregate signals over edges, the events, and the handlers of the state machines. -/

namespace Distvirt.SmRouter

/-- The declared names and types. `Batch` are the batch inputs of state machines, `Inc` all other
inputs: the incremental ones, and the batch inputs of ports, which are the `whole` ones.
`signals`, `edges` and `inputs` list the declarations in source order, which is the order in
which effects are applied and inputs are queued. -/
structure Schema where
  Sm : Type
  Port : Type
  Signal : Type
  Edge : Type
  Batch : Type
  Inc : Type
  Event : Type
  [decSm : DecidableEq Sm]
  [decPort : DecidableEq Port]
  [decSignal : DecidableEq Signal]
  [decEdge : DecidableEq Edge]
  [decBatch : DecidableEq Batch]
  [decInc : DecidableEq Inc]
  State : Sm → Type
  Val : Signal → Type
  Out : Batch → Type
  Delta : Inc → Type
  Payload : Event → Type
  [decVal : ∀ s, DecidableEq (Val s)]
  [decOut : ∀ b, DecidableEq (Out b)]
  [decDelta : ∀ i, DecidableEq (Delta i)]
  initial : ∀ s, Val s
  signals : List Signal
  edges : List Edge
  inputs : List (Batch ⊕ Inc)
  node : Signal → Sm ⊕ Port
  src : Edge → Sm ⊕ Port
  tgt : Edge → Sm ⊕ Port
  batchNode : Batch → Sm
  incNode : Inc → Sm ⊕ Port
  whole : Inc → Bool
  sources : Batch ⊕ Inc → List (Edge × Signal)
  sender : Event → Sm ⊕ Port
  receiver : Event → Sm

attribute [instance] Schema.decSm Schema.decPort Schema.decSignal Schema.decEdge Schema.decBatch
  Schema.decInc Schema.decVal Schema.decOut Schema.decDelta

namespace Schema

variable (S : Schema)

abbrev Kind := S.Sm ⊕ S.Port
abbrev Input := S.Batch ⊕ S.Inc

/-- The next id of every kind whose ids the router allocates. -/
abbrev IdAlloc := S.Kind → Nat

structure PendingEvent where
  event : S.Event
  sender : Nat
  receiver : Nat
  payload : S.Payload event

structure PendingCreate where
  kind : S.Sm
  id : Nat
  state : S.State kind

/-- What a handler asked for through its context. A signal or an edge list that the handler
did not set is `none`. -/
structure Effects where
  signal : (s : S.Signal) → Option (S.Val s)
  edge : S.Edge → Option (List Nat)
  events : List S.PendingEvent
  creates : List S.PendingCreate
  selfDestruct : Bool

structure Reaction (k : S.Sm) where
  state : S.State k
  effects : S.Effects
  alloc : S.IdAlloc

/-- The values an input sees: for each of its sources the ids and signal values of the nodes
connected over that source's edge, in ascending order of the ids. -/
abbrev View := (e : S.Edge) → (s : S.Signal) → List (Nat × S.Val s)

end Schema

/-- A schema with its aggregators and handlers. The three functions of an incremental input
are given for each of its sources. -/
structure Topology extends Schema where
  aggregate : (b : Batch) → toSchema.View → Out b
  added : (i : Inc) → (e : Edge) → (s : Signal) → Nat → Val s → Option (Delta i)
  removed : (i : Inc) → (e : Edge) → (s : Signal) → Nat → Val s → Option (Delta i)
  changed : (i : Inc) → (e : Edge) → (s : Signal) → Nat → Val s → Val s → Option (Delta i)
  summary : (i : Inc) → whole i = true → toSchema.View → Delta i
  onInit : (k : Sm) → Nat → toSchema.IdAlloc → State k → toSchema.Reaction k
  onInput : (b : Batch) → Out b → Nat → toSchema.IdAlloc → State (batchNode b) →
    toSchema.Reaction (batchNode b)
  onDelta : (i : Inc) → (k : Sm) → incNode i = .inl k → Delta i → Nat → toSchema.IdAlloc →
    State k → toSchema.Reaction k
  onEvent : (ev : Event) → Payload ev → Nat → toSchema.IdAlloc → State (receiver ev) →
    toSchema.Reaction (receiver ev)
  /-- How often creating machines may again create machines in their `initialize`. -/
  createDepth : Nat
  depthLimit : Nat

/-- Sets one entry of a table indexed by a declared name and an id. -/
def put {α : Type} [DecidableEq α] {β : α → Type} (f : (a : α) → Nat → β a) (a : α) (n : Nat)
    (v : β a) : (a : α) → Nat → β a :=
  Function.update f a (Function.update (f a) n v)

section put
variable [DecidableEq α] {β : α → Type} {v : β a}

@[simp] theorem put_self : put f a n v a n = v := by simp [put]

theorem put_id (h : n' ≠ n) : put f a n v a n' = f a n' := by simp [put,h]

theorem put_name (h : a' ≠ a) : put f a n v a' n' = f a' n' := by simp [put,h]

theorem put_ne (h : ¬ (a' = a ∧ n' = n)) : put f a n v a' n' = f a' n' := by
  by_cases ha : a' = a
  · subst ha
    exact put_id (fun hn => h ⟨rfl,hn⟩)
  · exact put_name ha

theorem put_eq_self (h : f a n = v) : put f a n v = f := by
  simp [put,← h]

end put

theorem update_if_ne [DecidableEq α] {c : Prop} [Decidable c] {f : α → β}
    (h : ¬ (c ∧ a' = a)) : (if c then Function.update f a v else f) a' = f a' := by
  split
  · rename_i hc
    exact Function.update_of_ne (fun ha => h ⟨hc,ha⟩) _ _
  · rfl

/-- The deltas between two snapshots of a keyed map: additions and changes in the order of the
new snapshot, then removals in the order of the old one. -/
def incrementalDiff {V O : Type} [DecidableEq V] (added removed : Nat → V → Option O)
    (changed : Nat → V → V → Option O) (current prev : List (Nat × V)) : List O :=
  current.filterMap (fun (id,val) =>
    match prev.lookup id with
    | none => added id val
    | some old => if old ≠ val then changed id old val else none) ++
  prev.filterMap (fun (id,val) => if (current.lookup id).isNone then removed id val else none)

end Distvirt.SmRouter
