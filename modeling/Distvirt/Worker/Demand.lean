import Distvirt.Worker.Turns

/-! What a fabric reports about the demand for its endpoints, against the connections that its flow
trackers know of. -/

namespace Distvirt.Worker

variable {W : Wire}

namespace EndpointTable

variable {K : Parts}

/-- The endpoints whose trackers come to another result after old flows are removed. -/
def gcChanges (t : EndpointTable K) (now : Nat) : List FlowStatusChange :=
  t.byIp.toList.filterMap fun (ip,ep) =>
    ep.flowTracker.bind fun tracker =>
      if K.hasActiveFlows (K.gc tracker now) ≠ K.hasActiveFlows tracker then
        some ⟨ip,ep.backend.serviceId?,K.hasActiveFlows (K.gc tracker now)⟩
      else none

def gcFlowTrackers (t : EndpointTable K) (now : Nat) : List FlowStatusChange × EndpointTable K :=
  (t.gcChanges now,
    { t with byIp := t.byIp.retain (fun _ ep =>
        some { ep with flowTracker := ep.flowTracker.map (K.gc · now) }) })

end EndpointTable

def EndpointSyncEffect.change? {K : Parts} : EndpointSyncEffect K → Option (Nat × Bool)
  | .flowStatusChange ip _ active => some (ip,active)
  | _ => none

namespace Fabric

/-- The replies to frames that are flushed to the pod of a service are expected. -/
def flushServiceFrames (f : Fabric W) (frames : List W.Frame) (backendIp serviceIp now : Nat) :
    Fabric W :=
  if (f.table.getPortId backendIp).isSome then
    frames.foldl (fun f frame => f.insertConntrackEntry frame serviceIp backendIp now) f
  else f

/-- The actions of activators are left to a task of their own. -/
def handleEffect (now : Nat) (f : Fabric W) : EndpointSyncEffect W.toParts → Fabric W
  | .serviceReady serviceId =>
    match f.table.markServiceReady serviceId with
    | (some (.passthrough frames backendIp serviceIp _),table) =>
      { f with table }.flushServiceFrames frames backendIp serviceIp now
    | (_,table) => { f with table }
  | .flushPodBuffer ip => { f with table := (f.table.flushPodBuffer ip).2 }
  | .flushAdapterBuffer _ _ _ | .flowStatusChange _ _ _ => f

/-- The endpoints are brought up to date, and the changes of flows are reported. -/
def applied (f : Fabric W) (now : Nat)
    (r : EndpointTable W.toParts × List (EndpointSyncEffect W.toParts)) :
    Fabric W × List (Nat × Bool) :=
  (r.2.foldl (handleEffect now) { f with table := r.1 },r.2.filterMap EndpointSyncEffect.change?)

def addPort (f : Fabric W) (ip : Nat) (portId : PortId) (now : Nat) : Fabric W :=
  let table := match f.table.attachPort ip portId with
    | .ok (_,table) => table
    | .error _ => f.table
  let (flushes,table) := table.flushByBackendIp ip
  flushes.foldl (fun f d => f.flushServiceFrames d.frames d.backendIp d.serviceIp now)
    { f with table, ports := portId :: f.ports }

/-- A port that goes is also taken from its endpoint. -/
def dropPort (f : Fabric W) (portId : PortId) : Fabric W :=
  { f with table := f.table.detachPort portId, ports := f.ports.erase portId }

/-- The poll timer of a stream manager. -/
def handleTimeoutForIp (fuel : Nat) (f : Fabric W) (ip now : Nat) :
    Fabric W × List (Output W.Frame) :=
  match f.table.byIp.lookup ip with
  | none => (f,[])
  | some ep =>
    match ep.backend with
    | .service serviceId policy backendIp processor =>
      let (action,processor) := W.handleTimeout processor
      let f := { f with
        table := f.table.put ip
          { ep with backend := .service serviceId policy backendIp processor } }
      match action with
      | some action =>
        f.execute (fun f frame => f.dispatchFrame fuel frame .internal now) serviceId ip now action
      | none => (f,[])
    | _ => (f,[])

/-- The actions of activators for a service that has become ready. -/
def dispatchReady (fuel : Nat) (f : Fabric W) (serviceId : ServiceId) (action : W.Action)
    (now : Nat) : Fabric W × List (Output W.Frame) :=
  f.dispatchActions (fun f frame => f.dispatchFrame fuel frame .internal now) serviceId
    ((f.table.serviceIdToIp.lookup serviceId).getD 0) now (W.actions action)

end Fabric

/-- A fabric and the demand last reported for each address. -/
structure Reporting (W : Wire) where
  fabric : Fabric W
  reported : Nat → Bool

/-- `room` is whether the event channel takes what is sent without waiting. -/
inductive ReportingEvent (W : Wire) where
  | packet (frame : W.Frame) (source : FrameSource) (now : Nat) (room : Bool)
  | endpointSync (specs : List Proto.EndpointSpec) (now : Nat) (room : Bool)
  | endpointUpdate (upserted : List Proto.EndpointSpec) (removedIps : List Nat) (now : Nat)
    (room : Bool)
  | addPort (ip : Nat) (portId : PortId) (now : Nat)
  | dropPort (portId : PortId)
  | gc (now : Nat) (room : Bool)
  | pollTimer (ip now : Nat) (room : Bool)
  | ready (serviceId : ServiceId) (action : W.Action) (now : Nat) (room : Bool)

namespace Reporting

def report (reported : Nat → Bool) (x : Nat × Bool) : Nat → Bool := Function.update reported x.1 x.2

/-- The flag of an event that gets through. -/
def flag? (room : Bool) : Output W.Frame → Option (Nat × Bool)
  | .demand ip _ active lossy => if lossy && !room then none else some (ip,active)
  | _ => none

def emit (room : Bool) (reported : Nat → Bool) (out : List (Output W.Frame)) : Nat → Bool :=
  (out.filterMap (flag? room)).foldl report reported

variable (me : WorkerId) (adapterPort : Option PortId) (fuel : Nat)

def configure (s : Reporting W) (room : Bool) (r : Fabric W × List (Nat × Bool)) : Reporting W :=
  ⟨r.1,if room then r.2.foldl report s.reported else s.reported⟩

def sent (s : Reporting W) (room : Bool) (r : Fabric W × List (Output W.Frame)) : Reporting W :=
  ⟨r.1,emit room s.reported r.2⟩

def step (s : Reporting W) : ReportingEvent W → Reporting W
  | .packet frame source now room => s.sent room (s.fabric.dispatchFrame fuel frame source now)
  | .endpointSync specs now room =>
    s.configure room (s.fabric.applied now (s.fabric.table.applyEndpointSync specs me adapterPort))
  | .endpointUpdate upserted removedIps now room =>
    s.configure room (s.fabric.applied now
      (s.fabric.table.applyEndpointUpdate upserted removedIps me adapterPort))
  | .addPort ip portId now => { s with fabric := s.fabric.addPort ip portId now }
  | .dropPort portId => { s with fabric := s.fabric.dropPort portId }
  | .gc now room =>
    let (changes,table) := s.fabric.table.gcFlowTrackers now
    s.sent room ({ s.fabric with table },changes.flatMap (fun c => Fabric.changed (some c)))
  | .pollTimer ip now room => s.sent room (s.fabric.handleTimeoutForIp fuel ip now)
  | .ready serviceId action now room => s.sent room (s.fabric.dispatchReady fuel serviceId action now)

/-- The demand last reported for an address is whether its tracker knows of a connection. The
demand for a service with an activator is the activator's. -/
def Truthful (s : Reporting W) : Prop :=
  ∀ ip, s.fabric.table.hasActivator ip = false → s.reported ip = s.fabric.table.hasActiveFlows ip

/-- The spec leaves the endpoint at its address, with the flows it tracks, or ends them with a
report. -/
def InPlace (t : EndpointTable W.toParts) (spec : Proto.EndpointSpec) : Bool :=
  match spec.kind with
  | .pod none | .wireGuardPeer none => true
  | .pod (some _) => false
  | .wireGuardPeer (some workerId) => workerId = me ∧ adapterPort = none
  | .service serviceId policy _ =>
    match (t.byIp.lookup spec.ip).map Endpoint.backend with
    | some (.service oldId oldPolicy _ _) => oldId = serviceId ∧ oldPolicy.ports = policy.ports
    | _ => false

/-- No spec replaces an endpoint for which demand is reported. -/
def SpecsQuiet : (Nat → Bool) → EndpointTable W.toParts → List Proto.EndpointSpec → Prop
  | _,_,[] => True
  | reported,t,spec :: specs =>
    (reported spec.ip = true → InPlace me adapterPort t spec = true) ∧
      SpecsQuiet
        (((EndpointTable.applySingleSpec me adapterPort t spec).2.filterMap
          EndpointSyncEffect.change?).foldl report reported)
        (EndpointTable.applySingleSpec me adapterPort t spec).1 specs

/-- No endpoint is removed for which demand is reported. -/
def RemovalQuiet (reported : Nat → Bool) (ips : List Nat) : Prop := ∀ ip ∈ ips, reported ip = false

/-- Endpoints with demand are neither replaced nor removed, the event channel takes every event, and
activators set a need only while they are there. -/
def Quiet (s : Reporting W) : ReportingEvent W → Prop
  | .endpointSync specs _ room => room = true ∧
    RemovalQuiet s.reported (s.fabric.table.unlisted specs) ∧
      SpecsQuiet me adapterPort s.reported
        (s.fabric.table.removeIps (s.fabric.table.unlisted specs)) specs
  | .endpointUpdate upserted removedIps _ room => room = true ∧
    RemovalQuiet s.reported removedIps ∧
      SpecsQuiet me adapterPort s.reported (s.fabric.table.removeIps removedIps) upserted
  | .packet _ _ _ room | .gc _ room | .pollTimer _ _ room => room = true
  | .ready serviceId action _ room => room = true ∧
    (s.fabric.table.hasActivator ((s.fabric.table.serviceIdToIp.lookup serviceId).getD 0) = true ∨
      (W.actions action).all (fun step => !step.isNeed) = true)
  | .addPort _ _ _ | .dropPort _ => True

instance decidableSpecsQuiet : (reported : Nat → Bool) → (t : EndpointTable W.toParts) →
    (specs : List Proto.EndpointSpec) → Decidable (SpecsQuiet me adapterPort reported t specs)
  | _,_,[] => isTrue trivial
  | reported,t,spec :: specs =>
    have := decidableSpecsQuiet
      (((EndpointTable.applySingleSpec me adapterPort t spec).2.filterMap
        EndpointSyncEffect.change?).foldl report reported)
      (EndpointTable.applySingleSpec me adapterPort t spec).1 specs
    inferInstanceAs (Decidable (_ ∧ _))

instance (reported : Nat → Bool) (ips : List Nat) : Decidable (RemovalQuiet reported ips) :=
  inferInstanceAs (Decidable (∀ _ ∈ _,_))

instance (s : Reporting W) : (ev : ReportingEvent W) → Decidable (Quiet me adapterPort s ev)
  | .endpointSync _ _ _ | .endpointUpdate _ _ _ _ | .ready _ _ _ _ =>
    inferInstanceAs (Decidable (_ ∧ _))
  | .packet _ _ _ room | .gc _ room | .pollTimer _ _ room =>
    inferInstanceAs (Decidable (room = true))
  | .addPort _ _ _ | .dropPort _ => isTrue trivial

end Reporting

end Distvirt.Worker
