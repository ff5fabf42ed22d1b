import Distvirt.Worker.EndpointTable
import Distvirt.Runs

/-! The routing class of an address as a function of its latest spec and of the port attached
to it. -/

namespace Distvirt.Worker

open EndpointTable AList

/-- The routing class of an address that has an endpoint. -/
inductive Route where
  | service (serviceId : ServiceId) (backendIp : Option Nat)
  | unplacedPod
  | remoteSegment (workerId : WorkerId)
  | localAdapter (portId : PortId)
  | localPod (portId : Option PortId)
deriving DecidableEq, Repr

variable {K : Parts}

def EndpointBackend.route : EndpointBackend K → Route
  | .service serviceId _ backendIp _ => .service serviceId backendIp
  | .unplacedPod _ => .unplacedPod
  | .remoteSegment workerId => .remoteSegment workerId
  | .localAdapter portId => .localAdapter portId
  | .localPod portId => .localPod portId

def EndpointTable.route (t : EndpointTable K) (ip : Nat) : Option Route :=
  (t.byIp.lookup ip).map (fun ep => ep.backend.route)

namespace Route

def port? : Route → Option PortId
  | .localPod portId => portId
  | _ => none

/-- The class that a spec gives to an address of the class `old`. -/
def respec (me : WorkerId) (adapterPort : Option PortId) (old : Option Route) :
    Proto.EndpointKind → Option Route
  | .pod (some workerId) =>
    some (if workerId = me then .localPod (old.bind port?) else .remoteSegment workerId)
  | .wireGuardPeer (some workerId) =>
    if workerId = me then (adapterPort.map Route.localAdapter).or old
    else some (.remoteSegment workerId)
  | .pod none | .wireGuardPeer none => some (old.getD .unplacedPod)
  | .service serviceId _ backend =>
    some (.service serviceId (backend.map Proto.EndpointPodBackend.podIp))

/-- The port of a local pod is set. -/
def withPort (port : Option PortId) : Route → Route
  | .localPod _ => .localPod port
  | r => r

def unplug (portId : PortId) : Route → Route
  | .localPod p => .localPod (if p = some portId then none else p)
  | r => r

end Route

namespace EndpointTable

variable {t : EndpointTable K} {ip ip' : Nat} {p : PortId}

theorem route_put :
    (t.put ip ep).route ip' = if ip' = ip then some ep.backend.route else t.route ip' := by
  simp only [route,lookup_put]
  split <;> rfl

theorem route_of_lookup (h : t.byIp.lookup ip = some ep) : t.route ip = some ep.backend.route := by
  rw [route,h]
  rfl

/-- An endpoint is written that frames go through as before. -/
theorem route_put_same (hep : t.byIp.lookup ip = some ep) (h : ep'.backend.route = ep.backend.route)
    (i : Nat) : (t.put ip ep').route i = t.route i := by
  rw [route_put]
  split
  · subst i
    rw [route_of_lookup hep,h]
  · rfl

theorem route_forgetServiceAt : (t.forgetServiceAt ip).route ip' = t.route ip' := by
  rw [route,forgetServiceAt_byIp,route]

theorem route_removeIps : (t.removeIps ips).route ip = if ip ∈ ips then none else t.route ip := by
  simp only [route,lookup_removeIps]
  split <;> rfl

theorem podPort?_eq (t : EndpointTable K) (ip : Nat) :
    (t.byIp.lookup ip).bind (fun ep => ep.backend.podPort?) = (t.route ip).bind Route.port? := by
  simp only [route]
  cases t.byIp.lookup ip with
  | none => rfl
  | some ep => cases h : ep.backend <;> simp [h,EndpointBackend.podPort?,EndpointBackend.route,Route.port?]

theorem getPortId_eq (t : EndpointTable K) (ip : Nat) :
    t.getPortId ip = match t.route ip with
      | some (.localPod portId) => portId
      | some (.localAdapter portId) => some portId
      | _ => none := by
  unfold getPortId route
  cases t.byIp.lookup ip with
  | none => rfl
  | some ep => cases hb : ep.backend <;> simp [hb,EndpointBackend.route]

variable {me : WorkerId} {adapterPort : Option PortId}

/-- A spec changes the class of its own address only. -/
theorem route_applySingleSpec : (applySingleSpec me adapterPort t spec).1.route ip =
      if ip = spec.ip then Route.respec me adapterPort (t.route ip) spec.kind else t.route ip := by
  obtain ⟨ip',kind⟩ := spec
  have h := specced me adapterPort t ⟨ip',kind⟩
  generalize applySingleSpec me adapterPort t ⟨ip',kind⟩ = r at h ⊢
  dsimp only at h ⊢
  cases h with
  | known hk hl =>
    split
    · subst ip
      rw [route_of_lookup hl]
      rcases hk with rfl | rfl <;> rfl
    · rfl
  | unplaced hk hl =>
    rw [route_put]
    split
    · subst ip
      rw [route,hl]
      rcases hk with rfl | rfl <;> rfl
    · rfl
  | localPod =>
    simp only [applyLocalPod,route_put,route_forgetServiceAt,podPort?_eq,EndpointBackend.route,
      Route.respec,if_true]
    split
    · subst ip
      rfl
    · rfl
  | remotePod hw =>
    rw [route_put,Route.respec,if_neg hw]
    rfl
  | remotePeer hw =>
    rw [route_put,route_forgetServiceAt,Route.respec,if_neg hw]
    rfl
  | portless hp => simp [Route.respec,hp]
  | adapter hp =>
    rw [route_put,route_forgetServiceAt,Route.respec,if_pos rfl,hp]
    rfl
  | update _ _ _ =>
    simp only [updateService,route_put]
    rfl
  | create _ =>
    simp only [createService,route_put]
    split
    · rfl
    · rw [route,forgetOtherServiceAt_byIp,route]

theorem applySpecs_fst (specs : List Proto.EndpointSpec) : ∀ t : EndpointTable K,
    (applySpecs me adapterPort t specs).1 =
      specs.foldl (fun t spec => (applySingleSpec me adapterPort t spec).1) t := by
  induction specs with
  | nil => exact fun _ => rfl
  | cons spec specs ih => exact fun t => ih _

theorem route_attachPort (h : t.attachPort ip p = .ok (frames,t')) :
    t'.route ip' = if ip' = ip then (t.route ip').map (Route.withPort (some p)) else t.route ip' := by
  unfold attachPort at h
  split at h
  · cases h
  · rename_i ep hep
    split at h
    · rename_i old hb
      cases h
      rw [route_put]
      split
      · subst ip'
        simp [route,hep,hb,EndpointBackend.route,Route.withPort]
      · rfl
    · cases h

/-- A port is attached exactly where a local pod is. -/
theorem attachPort_error (h : t.attachPort ip p = .error e) :
    (t.route ip).map (Route.withPort (some p)) = t.route ip := by
  unfold attachPort at h
  split at h
  · rename_i hep
    simp [route,hep]
  · rename_i ep hep
    split at h
    · cases h
    · rename_i hb
      cases hb' : ep.backend with
      | localPod old => exact absurd hb' (hb old)
      | _ => simp [route,hep,hb',EndpointBackend.route,Route.withPort]

theorem route_detachPort
    (hone : ∀ ip ip', t.route ip = some (.localPod (some p)) →
      t.route ip' = some (.localPod (some p)) → ip = ip') (ip : Nat) :
    (t.detachPort p).route ip = (t.route ip).map (Route.unplug p) := by
  have hport : ∀ {ip : Nat} {ep : Endpoint K}, t.byIp.lookup ip = some ep →
      (ep.backend.podPort? = some p ↔ t.route ip = some (.localPod (some p))) := by
    intro ip ep hep
    cases hb : ep.backend <;>
      simp [route,hep,hb,EndpointBackend.podPort?,EndpointBackend.route]
  have hstay : t.route ip ≠ some (.localPod (some p)) →
      t.route ip = (t.route ip).map (Route.unplug p) := by
    intro hne
    cases hr : t.route ip with
    | none => rfl
    | some r =>
      cases r with
      | localPod q =>
        have : q ≠ some p := fun hq => hne (by rw [hr,hq])
        simp [Route.unplug,this]
      | _ => rfl
  unfold detachPort
  split
  · rename_i ip₀ ep hf
    have hep := mem_toList.mp (List.mem_of_find?_eq_some hf)
    have hp := (hport hep).mp (by simpa using List.find?_some hf)
    rw [route_put]
    split
    · subst ip
      rw [hp]
      simp [EndpointBackend.route,Route.unplug]
    · rename_i hne
      exact hstay (fun h => hne (hone _ _ h hp))
  · rename_i hf
    apply hstay
    intro hr
    obtain ⟨ep,hep,-⟩ := Option.map_eq_some_iff.mp hr
    have := List.find?_eq_none.mp hf _ (mem_toList.mpr hep)
    exact this (by simpa using (hport hep).mpr hr)

end EndpointTable

/-- The calls that change what an address is routed to. -/
inductive TableCall where
  | sync (specs : List Proto.EndpointSpec)
  | update (upserted : List Proto.EndpointSpec) (removedIps : List Nat)
  | attach (ip : Nat) (portId : PortId)
  | detach (portId : PortId)

/-- The spec that is valid for each address, and the ports that were attached and have not been
detached since. -/
structure Known where
  specs : Table Nat Proto.EndpointKind
  ports : Table Nat PortId

/-- A table with what is known about the calls that led to it. -/
structure Traced (K : Parts) where
  table : EndpointTable K
  known : Known

namespace EndpointTable

def attach (t : EndpointTable K) (ip : Nat) (portId : PortId) : EndpointTable K :=
  match t.attachPort ip portId with
  | .ok (_,t) => t
  | .error _ => t

theorem route_attach {t : EndpointTable K} : (t.attach ip p).route ip' =
      if ip' = ip then (t.route ip').map (Route.withPort (some p)) else t.route ip' := by
  unfold attach
  split
  · rename_i h
    exact route_attachPort h
  · rename_i h
    split
    · subst ip'
      exact (attachPort_error h).symm
    · rfl

end EndpointTable

namespace Known

def new : Known := ⟨∅,∅⟩

/-- Of several specs for one address the last is valid. -/
def latest (specs : Table Nat Proto.EndpointKind) (more : List Proto.EndpointSpec) :
    Table Nat Proto.EndpointKind :=
  more.foldl (fun specs spec => specs.insert spec.ip spec.kind) specs

/-- One sync of the valid specs to an empty table, with the ports attached. -/
def table (me : WorkerId) (adapterPort : Option PortId) (known : Known) : EndpointTable K :=
  let specs := known.specs.toList.map (fun (ip,kind) => Proto.EndpointSpec.mk ip kind)
  known.ports.toList.foldl (fun t (ip,portId) => t.attach ip portId)
    (EndpointTable.new.applyEndpointSync specs me adapterPort).1

end Known

namespace Traced

def new : Traced K := ⟨EndpointTable.new,Known.new⟩

def call (me : WorkerId) (adapterPort : Option PortId) (s : Traced K) : TableCall → Traced K
  | .sync specs =>
    ⟨(s.table.applyEndpointSync specs me adapterPort).1,⟨Known.latest ∅ specs,s.known.ports⟩⟩
  | .update upserted removedIps =>
    ⟨(s.table.applyEndpointUpdate upserted removedIps me adapterPort).1,
      ⟨Known.latest (removedIps.foldl (fun specs ip => specs.erase ip) s.known.specs) upserted,
        s.known.ports⟩⟩
  | .attach ip portId =>
    match s.table.attachPort ip portId with
    | .ok (_,table) => ⟨table,⟨s.known.specs,s.known.ports.insert ip portId⟩⟩
    | .error _ => s
  | .detach portId =>
    ⟨s.table.detachPort portId,⟨s.known.specs,
      s.known.ports.retain (fun _ p => if p = portId then none else some p)⟩⟩

def run (me : WorkerId) (adapterPort : Option PortId) (s : Traced K) (calls : List TableCall) :
    Traced K :=
  calls.foldl (call me adapterPort) s

end Traced

namespace EndpointTable

/-- A spec without a placement comes only for an address that has no endpoint or is unplaced, a
peer on this worker needs the adapter port, and a pod is placed on this worker only while its
address still has the local pod that the attached port belongs to, if there is one. -/
def Fits (me : WorkerId) (adapterPort : Option PortId) (ports : Table Nat PortId)
    (t : EndpointTable K) (spec : Proto.EndpointSpec) : Prop :=
  match spec.kind with
  | .pod (some workerId) =>
    workerId = me → spec.ip ∈ ports → ∃ portId, t.route spec.ip = some (.localPod portId)
  | .wireGuardPeer (some workerId) =>
    workerId = me → adapterPort = none → t.route spec.ip = none
  | .pod none | .wireGuardPeer none =>
    t.route spec.ip = none ∨ t.route spec.ip = some .unplacedPod
  | .service _ _ _ => True

abbrev AllFit (me : WorkerId) (adapterPort : Option PortId) (ports : Table Nat PortId) :
    EndpointTable K → List Proto.EndpointSpec → Prop :=
  Runs.Along (fun t spec => some (applySingleSpec me adapterPort t spec).1) (Fits me adapterPort ports)

end EndpointTable

namespace Traced

/-- What makes a call safe: every spec of it fits, and a port is attached at one address. -/
def Safe (me : WorkerId) (adapterPort : Option PortId) (s : Traced K) : TableCall → Prop
  | .sync specs =>
    (s.table.removeIps (s.table.unlisted specs)).AllFit me adapterPort s.known.ports specs
  | .update upserted removedIps =>
    (s.table.removeIps removedIps).AllFit me adapterPort s.known.ports upserted
  | .attach ip portId => ∀ ip', s.known.ports.lookup ip' = some portId → ip' = ip
  | .detach _ => True

abbrev SafeRun (me : WorkerId) (adapterPort : Option PortId) : Traced K → List TableCall → Prop :=
  Runs.Along (fun s c => some (s.call me adapterPort c)) (Safe me adapterPort)

end Traced

/-- The class of an address with this spec and this port. -/
def Route.given (me : WorkerId) (adapterPort : Option PortId) (kind : Option Proto.EndpointKind)
    (port : Option PortId) : Option Route :=
  (kind.bind (respec me adapterPort none)).map (withPort port)

variable {me : WorkerId} {adapterPort : Option PortId}

namespace Route

theorem respec_none (kind : Proto.EndpointKind) :
    (respec me adapterPort none kind).map (withPort none) = respec me adapterPort none kind := by
  unfold respec
  split
  · split <;> rfl
  · split
    · cases adapterPort <;> rfl
    · rfl
  · rfl
  · rfl
  · rfl

variable {port : Option PortId}

theorem given_localPod (h : given me adapterPort kind port = some (.localPod q)) : q = port := by
  obtain ⟨r,-,hr⟩ := Option.map_eq_some_iff.mp h
  cases r with
  | localPod _ =>
    cases hr
    rfl
  | _ => cases hr

theorem map_withPort_given :
    (given me adapterPort kind port).map (withPort port') = given me adapterPort kind port' := by
  simp only [given,Option.map_map]
  congr 1
  funext r
  cases r <;> rfl

theorem map_unplug_given : (given me adapterPort kind port).map (unplug p) =
      given me adapterPort kind (port.bind (fun q => if q = p then none else some q)) := by
  simp only [given,Option.map_map]
  congr 1
  funext r
  cases r with
  | localPod _ => cases port <;> simp [withPort,unplug]
  | _ => rfl

end Route

open Route

theorem Known.route_table (known : Known) (ip : Nat) :
    (known.table me adapterPort : EndpointTable K).route ip =
      given me adapterPort (known.specs.lookup ip) (known.ports.lookup ip) := by
  have hspecs : ((EndpointTable.new : EndpointTable K).applyEndpointSync
      (known.specs.toList.map (fun (ip,kind) => Proto.EndpointSpec.mk ip kind))
      me adapterPort).1.route ip =
      given me adapterPort (known.specs.lookup ip) none := by
    rw [EndpointTable.applyEndpointSync,applySpecs_fst,List.foldl_map,
      foldl_toList route
        (fun kind r => respec me adapterPort r kind)]
    · rw [route_removeIps]
      have hnew : (EndpointTable.new : EndpointTable K).route ip = none := rfl
      rw [hnew,ite_self]
      cases known.specs.lookup ip with
      | none => rfl
      | some kind => exact (respec_none kind).symm
    · exact fun _ _ _ _ => route_applySingleSpec
  rw [Known.table,foldl_toList route (fun p r => r.map (withPort (some p)))
    (fun _ _ _ _ => route_attach),hspecs]
  cases known.ports.lookup ip with
  | none => rfl
  | some p => exact map_withPort_given

namespace EndpointTable

/-- A spec that fits gives its address the class it would have in an empty table. -/
theorem Fits.respec {t : EndpointTable K} (h : t.Fits me adapterPort ports spec)
    (ht : t.route spec.ip = Route.given me adapterPort kind (ports.lookup spec.ip)) :
    Route.respec me adapterPort (t.route spec.ip) spec.kind =
      Route.given me adapterPort (some spec.kind) (ports.lookup spec.ip) := by
  unfold Fits at h
  cases hk : spec.kind with
  | service serviceId policy backend => rfl
  | pod placement =>
    rw [hk] at h
    cases placement with
    | none => rcases h with h | h <;> rw [h] <;> rfl
    | some w =>
      simp only [Route.respec,Route.given,Option.bind_some,Option.map_some]
      split
      · rename_i hw
        simp only [Route.withPort,Option.some.injEq,Route.localPod.injEq]
        cases hp : ports.lookup spec.ip with
        | none =>
          cases hr : t.route spec.ip with
          | none => rfl
          | some r =>
            cases r with
            | localPod q =>
              rw [hr] at ht
              rw [← hp]
              exact given_localPod ht.symm
            | _ => rfl
        | some p =>
          obtain ⟨q,hq⟩ := h hw (mem_iff.mpr ⟨p,hp⟩)
          rw [hq] at ht ⊢
          rw [← hp]
          exact given_localPod ht.symm
      · rfl
  | wireGuardPeer placement =>
    rw [hk] at h
    cases placement with
    | none => rcases h with h | h <;> rw [h] <;> rfl
    | some w =>
      simp only [Route.respec,Route.given,Option.bind_some]
      split
      · rename_i hw
        cases hp : adapterPort with
        | none =>
          rw [h hw hp]
          rfl
        | some p => rfl
      · rfl

/-- After specs that all fit every address has the class of its valid spec. It is enough that the
addresses without a new spec had it before. -/
theorem AllFit.route {ports : Table Nat PortId} :
    ∀ {t : EndpointTable K} {known : Table Nat Proto.EndpointKind},
    t.AllFit me adapterPort ports specs →
    (∀ ip, ∃ kind, t.route ip = given me adapterPort kind (ports.lookup ip)) →
    (∀ ip, ip ∉ specs.map Proto.EndpointSpec.ip →
      t.route ip = given me adapterPort (known.lookup ip) (ports.lookup ip)) →
    ∀ ip, (applySpecs me adapterPort t specs).1.route ip =
      given me adapterPort ((Known.latest known specs).lookup ip) (ports.lookup ip) := by
  induction specs with
  | nil => exact fun _ _ h ip => h ip (by simp)
  | cons spec specs ih =>
    intro t known hfit hall hknown
    obtain ⟨hspec,hfit⟩ := hfit
    obtain ⟨kind,hkind⟩ := hall spec.ip
    have hnew := hspec.respec hkind
    apply ih hfit
    · intro ip
      rw [route_applySingleSpec]
      split
      · subst ip
        exact ⟨_,hnew⟩
      · exact hall ip
    · intro ip hip
      rw [route_applySingleSpec,lookup_insert_if]
      split
      · subst ip
        exact hnew
      · rename_i hne
        exact hknown ip (by simp [hne,hip])

end EndpointTable

namespace Traced

/-- Every address has the class of its valid spec and its port. -/
structure Follows (me : WorkerId) (adapterPort : Option PortId) (s : Traced K) : Prop where
  route : ∀ ip, s.table.route ip =
    Route.given me adapterPort (s.known.specs.lookup ip) (s.known.ports.lookup ip)
  once : ∀ {ip ip' p}, s.known.ports.lookup ip = some p → s.known.ports.lookup ip' = some p →
    ip = ip'

theorem Follows.new : (Traced.new : Traced K).Follows me adapterPort where
  route := fun _ => rfl
  once := fun h => nomatch h

theorem lookup_eraseAll {ips : List Nat} : ∀ {specs : Table Nat Proto.EndpointKind},
    (ips.foldl (fun specs ip => specs.erase ip) specs).lookup ip =
      if ip ∈ ips then none else specs.lookup ip := by
  induction ips with
  | nil => exact rfl
  | cons i ips ih =>
    intro specs
    rw [List.foldl_cons,ih,lookup_erase_if]
    grind

section Follows

variable {s : Traced K} {specs : List Proto.EndpointSpec} {ips : List Nat}

theorem Follows.removeIps (hs : s.Follows me adapterPort) (ip : Nat) :
    ∃ kind, (s.table.removeIps ips).route ip =
      given me adapterPort kind (s.known.ports.lookup ip) := by
  rw [EndpointTable.route_removeIps]
  split
  · exact ⟨none,rfl⟩
  · exact ⟨_,hs.route ip⟩

/-- What a sync does not list is gone before its specs are applied. -/
theorem route_unlisted {t : EndpointTable K} (hip : ip ∉ specs.map (·.ip)) :
    (t.removeIps (t.unlisted specs)).route ip = none := by
  rw [EndpointTable.route_removeIps]
  split
  · rfl
  · rename_i hl
    cases hr : t.byIp.lookup ip with
    | none =>
      rw [EndpointTable.route,hr]
      rfl
    | some ep =>
      exact absurd (EndpointTable.mem_unlisted.mpr ⟨AList.mem_iff.mpr ⟨ep,hr⟩,hip⟩) hl

theorem Follows.attach (hs : s.Follows me adapterPort) (hc : s.Safe me adapterPort (.attach ip p)) :
    (s.call me adapterPort (.attach ip p)).Follows me adapterPort := by
  simp only [Traced.call]
  split
  · rename_i hok
    refine ⟨fun ip' => ?_,?_⟩
    · rw [EndpointTable.route_attachPort hok]
      simp only [lookup_insert_if,hs.route ip']
      split
      · exact map_withPort_given
      · rfl
    · intro i i' q hi hi'
      simp only [lookup_insert_if] at hi hi'
      split at hi <;> split at hi'
      · rw [‹i = ip›,‹i' = ip›]
      · cases hi
        exact absurd (hc i' hi') ‹_›
      · cases hi'
        exact absurd (hc i hi) ‹_›
      · exact hs.once hi hi'
  · exact hs

theorem Follows.detach (hs : s.Follows me adapterPort) :
    (s.call me adapterPort (.detach p)).Follows me adapterPort := by
  refine ⟨fun ip => ?_,?_⟩
  · simp only [Traced.call,lookup_retain]
    rw [EndpointTable.route_detachPort,hs.route,map_unplug_given]
    intro i i' hi hi'
    rw [hs.route] at hi hi'
    exact hs.once (given_localPod hi).symm (given_localPod hi').symm
  · intro i i' q hi hi'
    simp only [Traced.call,lookup_retain,Option.bind_eq_some_iff] at hi hi'
    obtain ⟨a,ha,hq⟩ := hi
    obtain ⟨b,hb,hq'⟩ := hi'
    split at hq <;> cases hq
    split at hq' <;> cases hq'
    exact hs.once ha hb

theorem Follows.call (hs : s.Follows me adapterPort) (hc : s.Safe me adapterPort c) :
    (s.call me adapterPort c).Follows me adapterPort := by
  cases c with
  | sync specs => exact ⟨hc.route hs.removeIps (fun ip hip => route_unlisted hip),hs.once⟩
  | update upserted removedIps =>
    refine ⟨hc.route hs.removeIps ?_,hs.once⟩
    intro ip hip
    rw [EndpointTable.route_removeIps,lookup_eraseAll]
    split
    · rfl
    · exact hs.route ip
  | attach ip p => exact hs.attach hc
  | detach p => exact hs.detach

end Follows

theorem Follows.run {calls : List TableCall} : ∀ {s : Traced K}, s.Follows me adapterPort →
    s.SafeRun me adapterPort calls → (s.run me adapterPort calls).Follows me adapterPort := by
  induction calls with
  | nil => exact fun hs _ => hs
  | cons c calls ih => exact fun hs hc => ih (hs.call hc.1) hc.2

/-- The table is a function of the valid specs and of the ports. -/
theorem route_eq_resynced (me : WorkerId) (adapterPort : Option PortId) (calls : List TableCall)
    (h : (Traced.new : Traced K).SafeRun me adapterPort calls) (ip : Nat) :
    ((Traced.new : Traced K).run me adapterPort calls).table.route ip =
      (((Traced.new : Traced K).run me adapterPort calls).known.table me adapterPort :
        EndpointTable K).route ip := by
  rw [Known.route_table,(Follows.new.run h).route]

/-- A pod is placed on this worker while its service waits for it, gets its port, and the
service goes. -/
def placedPod : List TableCall :=
  [.sync [⟨5,.pod none⟩,⟨9,.service 3 ⟨[],64,30000⟩ (some ⟨5,none,false⟩)⟩],
    .update [⟨5,.pod (some 1)⟩] [],
    .attach 5 7,
    .update [] [9]]

theorem placedPod_resynced :
    ((Traced.new : Traced (.passthrough Nat)).run 1 none placedPod).table.route 5 =
        some (.localPod (some 7)) ∧
      (((Traced.new : Traced (.passthrough Nat)).run 1 none placedPod).known.table 1 none :
        EndpointTable (.passthrough Nat)).route 5 = some (.localPod (some 7)) := by
  have hsafe : (Traced.new : Traced (.passthrough Nat)).SafeRun 1 none placedPod :=
    ⟨⟨.inl rfl,trivial,trivial⟩,⟨fun _ h => absurd h (notMem_empty _),trivial⟩,
      (fun _ h => nomatch h),trivial,trivial⟩
  have hroute : ((Traced.new : Traced (.passthrough Nat)).run 1 none placedPod).table.route 5 =
      some (.localPod (some 7)) := by decide
  exact ⟨hroute,(route_eq_resynced 1 none placedPod hsafe 5).symm.trans hroute⟩

/-- A pod on this worker loses its placement. -/
def displacedPod : List TableCall :=
  [.sync [⟨5,.pod (some 1)⟩],.attach 5 7,.update [⟨5,.pod none⟩] []]

/-- The frames for it still go to its former port. -/
theorem displacedPod_not_resynced :
    ((Traced.new : Traced (.passthrough Nat)).run 1 none displacedPod).table.route 5 =
        some (.localPod (some 7)) ∧
      (((Traced.new : Traced (.passthrough Nat)).run 1 none displacedPod).known.table 1 none :
        EndpointTable (.passthrough Nat)).route 5 = some .unplacedPod := by
  decide

end Traced

end Distvirt.Worker
