import Distvirt.Namespace.Spec
import Distvirt.Sm.NsTopology

/-! The adapters between a namespace and its router: they turn specs and worker signals into
router calls and drain the inputs of the ports. Hash maps and hash sets are lists here and are
iterated in the order of insertion. -/

namespace Distvirt
open Std (ExtTreeMap)
open Ns

/-- Each name maps to the id of its machine and to the management port that configures it, and
each id back to its name. -/
structure ManagementAdapter where
  nextWorkloadId : Nat
  nextServiceId : Nat
  workloads : ExtTreeMap String (WorkloadId × ManagementId)
  services : ExtTreeMap String (ServiceId × ManagementId)
  workloadNames : ExtTreeMap WorkloadId String
  serviceNames : ExtTreeMap ServiceId String

namespace ManagementAdapter

def new : ManagementAdapter := ⟨1,1,∅,∅,∅,∅⟩

def toSmWorkloadSpec (spec : WorkloadSpec) : Sm.WorkloadSpec where
  podSpec :=
    { image := (spec.containers.head?.map ContainerSpec.imageRef).getD ""
      network := some spec.network
      containers := spec.containers
      resources := spec.resources
      volumes := spec.volumes }
  config := ⟨spec.suspendOnIdle,spec.runPolicy,spec.respectsDemand,spec.activation⟩

/-- A service for a workload that does not exist points to workload 0, which never does. -/
def toSmServiceSpec (m : ManagementAdapter) (name : String) (spec : ServiceSpec) :
    Sm.ServiceSpec where
  workload := (m.workloads[spec.workloadId]?.map Prod.fst).getD 0
  hasActivation := spec.hasActivation
  idleTimeout := spec.idleTimeout
  dnsName := some name
  dnsIp := some spec.ip
  ip := spec.ip
  policy := ⟨spec.ports,spec.bufferFrames,spec.bufferTimeoutMs⟩

def setWorkload : ManagementAdapter × DRouter → String × WorkloadSpec → ManagementAdapter × DRouter
  | (m,r),(name,spec) =>
    match m.workloads[name]? with
    | some (_,mgmtId) =>
      (m,r.setSignal Signal.managementWlSpec mgmtId (toSmWorkloadSpec spec))
    | none =>
      let routerId := m.nextWorkloadId
      let (mgmtId,r) := r.createPortAuto PortKind.management
      let r := r.createSm SmKind.workload routerId WorkloadSm.new
      let r := r.setEdges Edge.workloadConfig mgmtId [routerId]
      ({ m with
          nextWorkloadId := routerId + 1
          workloads := m.workloads.insert name (routerId,mgmtId)
          workloadNames := m.workloadNames.insert routerId name },
        r.setSignal Signal.managementWlSpec mgmtId (toSmWorkloadSpec spec))

/-- The management port goes, the workload loses its spec and destroys itself. -/
def removeWorkload : ManagementAdapter × DRouter → String → ManagementAdapter × DRouter
  | (m,r),name =>
    match m.workloads[name]? with
    | some (routerId,mgmtId) =>
      ({ m with
          workloads := m.workloads.erase name
          workloadNames := m.workloadNames.erase routerId },
        r.destroyPort PortKind.management mgmtId)
    | none => (m,r)

def setService : ManagementAdapter × DRouter → String × ServiceSpec → ManagementAdapter × DRouter
  | (m,r),(name,spec) =>
    match m.services[name]? with
    | some (_,mgmtId) =>
      (m,r.setSignal Signal.managementSvcSpec mgmtId (m.toSmServiceSpec name spec))
    | none =>
      let routerId := m.nextServiceId
      let (mgmtId,r) := r.createPortAuto PortKind.management
      let r := r.createSm SmKind.service routerId ⟨none⟩
      let r := r.setEdges Edge.serviceConfig mgmtId [routerId]
      ({ m with
          nextServiceId := routerId + 1
          services := m.services.insert name (routerId,mgmtId)
          serviceNames := m.serviceNames.insert routerId name },
        r.setSignal Signal.managementSvcSpec mgmtId (m.toSmServiceSpec name spec))

def removeService : ManagementAdapter × DRouter → String → ManagementAdapter × DRouter
  | (m,r),name =>
    match m.services[name]? with
    | some (routerId,mgmtId) =>
      ({ m with
          services := m.services.erase name
          serviceNames := m.serviceNames.erase routerId },
        r.destroyPort PortKind.management mgmtId)
    | none => (m,r)

/-- Without an old spec nothing is removed. -/
def applyNamespaceSpec (s : ManagementAdapter × DRouter) (old : Option NamespaceSpec)
    (new : NamespaceSpec) : ManagementAdapter × DRouter :=
  let oldWorkloads := (old.map (fun o => o.workloads.keys)).getD []
  let oldServices := (old.map (fun o => o.services.keys)).getD []
  let s := new.workloads.toList.foldl setWorkload s
  let s := (oldWorkloads.filter (fun name => name ∉ new.workloads)).foldl removeWorkload s
  let s := new.services.toList.foldl setService s
  (oldServices.filter (fun name => name ∉ new.services)).foldl removeService s

def lookupWorkload (m : ManagementAdapter) (protoName : String) : Option WorkloadId :=
  m.workloads[protoName]?.map Prod.fst

def lookupService (m : ManagementAdapter) (protoName : String) : Option ServiceId :=
  m.services[protoName]?.map Prod.fst

def workloadProtoName (m : ManagementAdapter) (id : WorkloadId) : Option String :=
  m.workloadNames[id]?

def serviceProtoName (m : ManagementAdapter) (id : ServiceId) : Option String :=
  m.serviceNames[id]?

def sendAdminCommand (m : ManagementAdapter) (r : DRouter) (name : String) (cmd : AdminCmd) :
    DRouter :=
  match m.workloads[name]? with
  | some (routerId,mgmtId) => r.send ⟨Event.adminCommand,mgmtId,routerId,cmd⟩
  | none => r

def sendActivateService (m : ManagementAdapter) (r : DRouter) (name : String) (active : Bool) :
    DRouter :=
  match m.services[name]? with
  | some (routerId,mgmtId) => r.send ⟨Event.activateService,mgmtId,routerId,active⟩
  | none => r

end ManagementAdapter

/-- One demand port for each worker and endpoint. -/
structure EndpointDemandAdapter where
  ports : List ((WorkerId × EndpointId) × EndpointDemandId)

namespace EndpointDemandAdapter

def ensurePort (d : EndpointDemandAdapter) (r : DRouter) (key : WorkerId × EndpointId) :
    EndpointDemandId × EndpointDemandAdapter × DRouter :=
  match d.ports.lookup key with
  | some portId => (portId,d,r)
  | none =>
    let (portId,r) := r.createPortAuto PortKind.endpointDemand
    (portId,⟨d.ports ++ [(key,portId)]⟩,r.setEdges Edge.endpointPortDemand portId [key.2])

def pushDemand (d : EndpointDemandAdapter) (r : DRouter) (workerId : WorkerId)
    (endpointId : EndpointId) (signal : EndpointDemandSignal) :
    EndpointDemandAdapter × DRouter :=
  let (portId,d,r) := d.ensurePort r (workerId,endpointId)
  match signal with
  | .active active => (d,r.setSignal Signal.endpointDemandActive portId active)
  | .traffic => (d,r.send ⟨Event.endpointDemandTraffic,portId,endpointId,()⟩)

def removeWorker (d : EndpointDemandAdapter) (r : DRouter) (workerId : WorkerId) :
    EndpointDemandAdapter × DRouter :=
  (⟨d.ports.filter (fun e => e.1.1 ≠ workerId)⟩,
    (d.ports.filter (fun e => e.1.1 = workerId)).foldl
      (fun r e => r.destroyPort PortKind.endpointDemand e.2) r)

end EndpointDemandAdapter

inductive ArtifactAction where
  | referenced (portId : ArtifactPortId)
  | released (portId : ArtifactPortId)
deriving DecidableEq, Repr

/-- `settled` keeps the last action of each port in this cycle. -/
structure ArtifactAdapter where
  pendingPorts : List ArtifactPortId
  settled : List (ArtifactPortId × ArtifactAction)

namespace ArtifactAdapter

def registerPending (a : ArtifactAdapter) (portId : ArtifactPortId) : ArtifactAdapter :=
  { a with
    pendingPorts := if portId ∈ a.pendingPorts then a.pendingPorts else a.pendingPorts ++ [portId] }

def settle (a : ArtifactAdapter) (portId : ArtifactPortId) (action : ArtifactAction) :
    ArtifactAdapter :=
  { a with settled := a.settled.filter (fun e => e.1 ≠ portId) ++ [(portId,action)] }

def reconcileOne : ArtifactAdapter × DRouter → ArtifactPortId × ArtifactRefDelta →
    ArtifactAdapter × DRouter
  | (a,r),(portId,.referenced workloadId) =>
    (a.settle portId (.referenced portId),
      (r.setEdges Edge.artifactValidity portId [workloadId]).setSignal Signal.artifactValid
        portId true)
  | (a,r),(portId,.released _) =>
    (a.settle portId (.released portId),r.destroyPort PortKind.artifact portId)

def refDeltas (inputs : List (Nat × (i : Inc) × Delta i)) : List (ArtifactPortId × ArtifactRefDelta) :=
  inputs.filterMap (fun
    | (portId,⟨.refsInput,delta⟩) => some (portId,delta)
    | _ => none)

/-- Says whether the router was written to. -/
def reconcile (a : ArtifactAdapter) (r : DRouter) : Bool × ArtifactAdapter × DRouter :=
  let (inputs,r) := r.drain PortKind.artifact
  let deltas := refDeltas inputs
  (!deltas.isEmpty,deltas.foldl reconcileOne (a,r))

/-- Ports that no workload referenced in this cycle are destroyed. -/
def finalize (a : ArtifactAdapter) (r : DRouter) : List ArtifactAction × ArtifactAdapter × DRouter :=
  let settledPorts := a.settled.map Prod.fst
  let orphans := a.pendingPorts.filter (fun portId => portId ∉ settledPorts)
  (a.settled.map Prod.snd ++ orphans.map ArtifactAction.released,⟨[],[]⟩,
    orphans.foldl (fun r portId => r.destroyPort PortKind.artifact portId) r)

end ArtifactAdapter

def TimerIdentity.fire (r : DRouter) : TimerIdentity → DRouter
  | .workload id key => r.send ⟨Event.workloadTimerFired,singleton,id,key⟩
  | .endpoint id key => r.send ⟨Event.endpointTimerFired,singleton,id,key⟩
  | .pod id key => r.send ⟨Event.podTimerFired,singleton,id,key⟩

end Distvirt
