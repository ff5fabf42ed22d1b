import Distvirt.Namespace.Apply
import Distvirt.Table

/-! A namespace with its timer wheel, which is how the shell drives it. -/

namespace Distvirt

namespace TimerIdentity

/-- The derived order: kinds first, then ids, then keys. -/
def rank : TimerIdentity → Nat × Nat × Nat
  | .workload id .retryBackoff => (0,id,0)
  | .workload id .artifactConfirm => (0,id,1)
  | .endpoint id .idleTimeout => (1,id,0)
  | .pod id .launchTimeout => (2,id,0)
  | .pod id .suspendTimeout => (2,id,1)

def le (a b : TimerIdentity) : Bool :=
  let (k,id,key) := a.rank
  let (k',id',key') := b.rank
  k < k' || k = k' && (id < id' || id = id' && key ≤ key')

end TimerIdentity

structure FiredTimer where
  identity : TimerIdentity
  generation : Nat
deriving DecidableEq, Repr

/-- The generation and the deadline of each timer that waits. -/
abbrev NamespaceTimerWheel := Table TimerIdentity (Nat × Duration)

namespace NamespaceTimerWheel

/-- A timer that is started again loses its former deadline. -/
def absorbOne (now : Duration) (wheel : NamespaceTimerWheel) : TimerAction → NamespaceTimerWheel
  | .start identity generation duration => wheel.insert identity (generation,now + duration)
  | .cancel identity => wheel.erase identity

def absorb (wheel : NamespaceTimerWheel) (actions : List TimerAction) (now : Duration) :
    NamespaceTimerWheel :=
  actions.foldl (absorbOne now) wheel

/-- Earlier deadlines first, and timers with one deadline in the order of their identities. -/
def before (a b : TimerIdentity × Nat × Duration) : Prop :=
  a.2.2 < b.2.2 ∨ a.2.2 = b.2.2 ∧ a.1.le b.1

instance : DecidableRel before := fun a b =>
  inferInstanceAs (Decidable (a.2.2 < b.2.2 ∨ a.2.2 = b.2.2 ∧ a.1.le b.1))

/-- All timers that are due leave the wheel at once. -/
def fireExpired (wheel : NamespaceTimerWheel) (now : Duration) :
    List FiredTimer × NamespaceTimerWheel :=
  let expired := wheel.toList.filter (fun e => e.2.2 ≤ now)
  ((expired.insertionSort before).map (fun e => ⟨e.1,e.2.1⟩),
    expired.foldl (fun wheel e => wheel.erase e.1) wheel)

end NamespaceTimerWheel

structure NamespaceOutput where
  toOrchestrator : List SchedulerMessage := []
  workerCommands : List (WorkerId × WorkerCommand) := []
  broadcastCommands : List WorkerCommand := []
  observabilityEvents : List ObservabilityEvent := []
deriving DecidableEq, Repr

def NamespaceOutput.merge (a b : NamespaceOutput) : NamespaceOutput where
  toOrchestrator := a.toOrchestrator ++ b.toOrchestrator
  workerCommands := a.workerCommands ++ b.workerCommands
  broadcastCommands := a.broadcastCommands ++ b.broadcastCommands
  observabilityEvents := a.observabilityEvents ++ b.observabilityEvents

structure NamespaceUnit where
  ns : Namespace
  timerWheel : NamespaceTimerWheel

namespace NamespaceUnit

def new (namespaceId : NamespaceId) (network : NetworkConfig) : NamespaceUnit :=
  ⟨.new namespaceId network,∅⟩

/-- The timer actions stay with the unit. -/
def convertEffects (unit : NamespaceUnit) (now : Duration) :
    Namespace × NamespaceEffects → NamespaceUnit × NamespaceOutput
  | (ns,effects) => (⟨ns,unit.timerWheel.absorb effects.timerActions now⟩,
    ⟨effects.schedulerMessages,effects.workerCommands,effects.broadcastCommands,
      effects.observabilityEvents⟩)

/-- One step of the namespace. -/
def step (fuel : Nat) (now : Duration) (unit : NamespaceUnit) (op : Namespace.Op) :
    Except Fault (NamespaceUnit × NamespaceOutput) :=
  (unit.ns.step fuel op).map (unit.convertEffects now)

/-- The generation of a timer that fires is not looked at. -/
def fire (fuel : Nat) (now : Duration) : NamespaceUnit × NamespaceOutput → FiredTimer →
    Except Fault (NamespaceUnit × NamespaceOutput)
  | (unit,output),fired =>
    (unit.step fuel now (.timer fired.identity)).map (fun r => (r.1,output.merge r.2))

/-- Handling the timers that are due may start others that are due at once. -/
def advance (fuel : Nat) (now : Duration) : Nat → NamespaceUnit × NamespaceOutput →
    Except Fault (NamespaceUnit × NamespaceOutput)
  | 0,_ => .error .outOfFuel
  | rounds + 1,(unit,output) =>
    let (expired,timerWheel) := unit.timerWheel.fireExpired now
    if expired.isEmpty then .ok (unit,output)
    else do advance fuel now rounds (← expired.foldlM (fire fuel now) ({ unit with timerWheel },output))

def advanceTo (fuel : Nat) (now : Duration) (unit : NamespaceUnit) :
    Except Fault (NamespaceUnit × NamespaceOutput) :=
  advance fuel now fuel (unit,{})

end NamespaceUnit

end Distvirt
