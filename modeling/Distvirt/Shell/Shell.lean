import Distvirt.Namespace.Unit
import Distvirt.Worker.Commands

/-! The async shell. It owns the orchestrator and the namespaces, hands the messages of one to the
other, and writes commands to the connections of the workers. A step that panics or does not end
has no result. -/

namespace Distvirt

/-- What passes the boundaries between the shell, the orchestrator, the namespaces and the
workers. -/
inductive Occurrence where
  | sent (workerId : WorkerId) (command : ProtocolCommand)
  | emitted (namespaceId : NamespaceId) (message : SchedulerMessage)
  | processed (namespaceId : NamespaceId) (message : SchedulerMessage)
  | issued (namespaceId : NamespaceId) (message : OrchestratorToNamespace)
  | handled (namespaceId : NamespaceId) (message : OrchestratorToNamespace)
deriving DecidableEq

def Occurrence.sentTo (w : WorkerId) : Occurrence → Option ProtocolCommand
  | .sent w' command => if w' = w then some command else none
  | _ => none

/-- `trace` is not part of the code: it keeps what happened, for what is said about it. -/
structure Shell where
  orchestrator : OrchestratorCore
  namespaces : Table NamespaceId NamespaceUnit
  nextWorkerId : WorkerId
  workers : Table WorkerId Unit
  trace : List Occurrence

/-- What the reader of a connection makes of the events of its worker. -/
inductive WorkerReport where
  | namespaceEvent (namespaceId : NamespaceId) (event : WorkerNamespaceEventKind)
  | pressureUpdate (psi : WorkerPsi)
  | poolCapacityUpdate (pools : List String)
  | conditionUpdate (key : String) (active : Bool)
  | artifactEvent (event : ArtifactPlacementEvent)

/-- Which worker serves a new WireGuard peer is an input. -/
inductive ShellEvent where
  | workerConnection (capabilities : WorkerCapabilities) (tunnelInfo : Option WorkerTunnelInfo)
  | handshakeFailed
  | createNamespace (name : String) (network : NetworkConfig)
  | destroyNamespace (namespaceId : NamespaceId)
  | updateNamespace (namespaceId : NamespaceId) (spec : NamespaceSpecInput)
  | patchNamespace (namespaceId : NamespaceId) (patch : NamespacePatchInput)
  | connectNetwork (namespaceId : NamespaceId) (clientPublicKey : Nat)
      (wireguardWorker : Option WorkerId)
  | disconnectNetwork (namespaceId : NamespaceId) (clientPublicKey : Nat)
  | report (workerId : WorkerId) (report : WorkerReport)
  | workerDisconnected (workerId : WorkerId)
  | deadline

namespace Shell

def new : Shell := ⟨.new,∅,0,∅,[]⟩

def record (s : Shell) (occurrences : List Occurrence) : Shell :=
  { s with trace := s.trace ++ occurrences }

/-- A command for a worker that has left is dropped. -/
def send (s : Shell) (command : WorkerId × ProtocolCommand) : Shell :=
  if command.1 ∈ s.workers then s.record [.sent command.1 command.2] else s

/-- The order in which the shell writes the commands of the orchestrator. -/
def orchestratorCommands (s : Shell) (output : OrchestratorOutput) :
    List (WorkerId × ProtocolCommand) :=
  output.directWorkerCommands.map (fun c => (c.workerId,.createNamespace c.namespaceId c.network)) ++
  output.globalBroadcasts.flatMap (fun registry =>
    s.workers.keys.map (fun w => (w,.workerRegistrySync registry))) ++
  output.workerCommands.map (fun c => (c.workerId,.deleteArtifact c.artifactId c.poolId))

def namespaceCommands (s : Shell) (ns : Namespace) (output : NamespaceOutput) :
    List (WorkerId × ProtocolCommand) :=
  output.broadcastCommands.flatMap (fun c =>
    (s.workers.keys.filter (fun w => (ns.activeWorkers w).isSome)).map
      (fun w => (w,.ofNamespace c))) ++
  output.workerCommands.map (fun c => (c.1,.ofNamespace c.2))

/-- The commands of the orchestrator go out before its messages to the namespaces. -/
def writeOutput (s : Shell) (output : OrchestratorOutput) : Shell :=
  (s.orchestratorCommands output).foldl send
    (s.record (output.toNamespaces.map (fun e => .issued e.1 e.2)))

/-- The namespace takes a step and its commands go out; its messages are left to the caller. -/
def finishCall (s : Shell) (namespaceId : NamespaceId) (unit : NamespaceUnit)
    (output : NamespaceOutput) : Shell :=
  (s.namespaceCommands unit.ns output).foldl send
    ({ s with namespaces := s.namespaces.insert namespaceId unit }.record
      (output.toOrchestrator.map (.emitted namespaceId)))

def callUnit (s : Shell) (namespaceId : NamespaceId)
    (call : NamespaceUnit → Except Fault (NamespaceUnit × NamespaceOutput)) :
    Option (Shell × List SchedulerMessage) :=
  match s.namespaces.lookup namespaceId with
  | none => some (s,[])
  | some unit =>
    match call unit with
    | .error _ => none
    | .ok (unit,output) => some (s.finishCall namespaceId unit output,output.toOrchestrator)

section routing
variable (fuel : Nat) (now : Duration)

/-- A message for a namespace that is gone is dropped. -/
def handOver (s : Shell) (message : NamespaceId × OrchestratorToNamespace) :
    Option (Shell × List SchedulerMessage) :=
  let s := if message.1 ∈ s.namespaces then s.record [.handled message.1 message.2] else s
  s.callUnit message.1 (fun unit => unit.step fuel now (.event message.2))

/-- At the innermost level the messages that the namespace emits are not looked at. -/
def deliverInner (s : Shell) (message : NamespaceId × OrchestratorToNamespace) : Option Shell :=
  (s.handOver fuel now message).map Prod.fst

def routeOrchestratorOutputInnerNoRecurse (s : Shell) (output : OrchestratorOutput) :
    Option Shell :=
  output.toNamespaces.foldlM (deliverInner fuel now) (s.writeOutput output)

def processMessage (namespaceId : NamespaceId) (s : Shell) (message : SchedulerMessage) :
    Option Shell := do
  let (orchestrator,output) ← s.orchestrator.process (.fromNamespace namespaceId message)
  ({ s with orchestrator }.record [.processed namespaceId message]).routeOrchestratorOutputInnerNoRecurse
    fuel now output

def routeNamespaceOutput (namespaceId : NamespaceId) (s : Shell) (messages : List SchedulerMessage) :
    Option Shell :=
  messages.foldlM (processMessage fuel now namespaceId) s

def deliver (s : Shell) (message : NamespaceId × OrchestratorToNamespace) : Option Shell := do
  let (s,messages) ← s.handOver fuel now message
  s.routeNamespaceOutput fuel now message.1 messages

def routeOrchestratorOutput (s : Shell) (output : OrchestratorOutput) : Option Shell :=
  output.toNamespaces.foldlM (deliver fuel now) (s.writeOutput output)

/-- A call of the orchestrator with everything that follows from it. -/
def afterCall (s : Shell) (called : Option OrchestratorCore.Routed) : Option Shell := do
  let (orchestrator,output) ← called
  { s with orchestrator }.routeOrchestratorOutput fuel now output

/-- A step of a namespace that no message caused. -/
def afterUnit (s : Shell) (namespaceId : NamespaceId)
    (call : NamespaceUnit → Except Fault (NamespaceUnit × NamespaceOutput)) : Option Shell := do
  let (s,messages) ← s.callUnit namespaceId call
  s.routeNamespaceOutput fuel now namespaceId messages

/-- The slot of the connection exists before the orchestrator is told. -/
def workerConnection (s : Shell) (capabilities : WorkerCapabilities)
    (tunnelInfo : Option WorkerTunnelInfo) : Option Shell :=
  let w := s.nextWorkerId
  let s := { s with
    nextWorkerId := w + 1
    workers := s.workers.insert w () }
  s.afterCall fuel now (s.orchestrator.workerConnected ⟨w,capabilities,tunnelInfo,w⟩)

/-- The namespace starts after the commands of its creation went out, and then learns of the
workers one by one. -/
def createNamespace (s : Shell) (name : String) (network : NetworkConfig) : Option Shell := do
  let (result,called) ← s.orchestrator.createNamespace name network
  let s ← s.afterCall fuel now (some called)
  match result with
  | .error _ => return s
  | .ok info =>
    let s := { s with
      namespaces := s.namespaces.insert info.namespaceId
        (.new info.namespaceId info.network.network) }
    info.connectedWorkers.foldlM (fun s summary => s.deliver fuel now (info.namespaceId,
      .workerConnected summary.workerId ⟨summary.maxPods,summary.defaultPool⟩)) s

/-- The namespace is dropped before the orchestrator is told. -/
def destroyNamespace (s : Shell) (namespaceId : NamespaceId) : Option Shell :=
  { s with namespaces := s.namespaces.erase namespaceId }.afterCall fuel now
    ((s.orchestrator.destroyNamespace namespaceId).map Prod.snd)

def handleReport (s : Shell) (w : WorkerId) : WorkerReport → Option Shell
  | .namespaceEvent namespaceId event => s.deliver fuel now (namespaceId,.workerEvent w event)
  | .pressureUpdate psi =>
    s.afterCall fuel now (s.orchestrator.process (.workerStateEvent (.pressureUpdate w psi)))
  | .poolCapacityUpdate pools =>
    s.afterCall fuel now (s.orchestrator.process (.workerStateEvent (.poolCapacityUpdate w pools)))
  | .conditionUpdate key active =>
    s.afterCall fuel now
      (s.orchestrator.process (.workerStateEvent (.conditionUpdate w key active)))
  | .artifactEvent event =>
    s.afterCall fuel now (s.orchestrator.process (.schedulerEvent (.artifactEvent w event)))

/-- The slot goes last: what the namespaces still send to the worker is written. -/
def workerDisconnected (s : Shell) (w : WorkerId) : Option Shell :=
  (s.afterCall fuel now (s.orchestrator.workerDisconnected w)).map (fun s =>
    { s with workers := s.workers.erase w })

def handleEvent (s : Shell) : ShellEvent → Option Shell
  | .workerConnection capabilities tunnelInfo =>
    s.workerConnection fuel now capabilities tunnelInfo
  | .handshakeFailed => some { s with nextWorkerId := s.nextWorkerId + 1 }
  | .createNamespace name network => s.createNamespace fuel now name network
  | .destroyNamespace namespaceId => s.destroyNamespace fuel now namespaceId
  | .updateNamespace namespaceId spec =>
    s.afterUnit fuel now namespaceId (fun unit => unit.step fuel now (.fullSpec spec))
  | .patchNamespace namespaceId patch =>
    s.afterUnit fuel now namespaceId (fun unit => unit.step fuel now (.patch patch))
  | .connectNetwork namespaceId clientPublicKey wireguardWorker =>
    match wireguardWorker with
    | none => some s
    | some w =>
      s.deliver fuel now (namespaceId,.clientCommand (.connect clientPublicKey w))
  | .disconnectNetwork namespaceId clientPublicKey =>
    s.deliver fuel now (namespaceId,.clientCommand (.disconnect clientPublicKey))
  | .report w report => s.handleReport fuel now w report
  | .workerDisconnected w => s.workerDisconnected fuel now w
  | .deadline => some s

def advanceAll (s : Shell) : Option Shell :=
  s.namespaces.keys.foldlM (fun s namespaceId =>
    s.afterUnit fuel now namespaceId (NamespaceUnit.advanceTo fuel now)) s

end routing

/-- An event, then the timers that are due. -/
def step (fuel : Nat) (s : Shell) (event : Duration × ShellEvent) : Option Shell :=
  (s.handleEvent fuel event.1 event.2).bind (advanceAll fuel event.1)

def run (fuel : Nat) (s : Shell) (events : List (Duration × ShellEvent)) : Option Shell :=
  events.foldlM (step fuel) s

/-- All commands that were written to the connection of a worker. -/
def stream (s : Shell) (w : WorkerId) : List ProtocolCommand :=
  s.trace.filterMap (Occurrence.sentTo w)

end Shell

end Distvirt
