import Distvirt.Worker.Dispatch
import Distvirt.Runs

/-! The index of the services by their ids. It is exact as long as no remote pod takes the address
of a service and no service gets a second address. -/

namespace Distvirt.Worker.EndpointTable

variable {K : Parts} {t t' : EndpointTable K} {ip ip' : Nat} {id : ServiceId} {ep : Endpoint K}
  {me : WorkerId} {adapterPort : Option PortId} {spec : Proto.EndpointSpec}

/-- An id leads to an address just when the service is there. -/
def Exact (t : EndpointTable K) : Prop :=
  ∀ id ip, t.serviceIdToIp.lookup id = some ip ↔ t.serviceAt ip = some id

/-- The spec puts no remote pod in the place of a service, and no service at a second address. -/
def Settles (me : WorkerId) (t : EndpointTable K) (spec : Proto.EndpointSpec) : Prop :=
  match spec.kind with
  | .pod (some workerId) => workerId = me ∨ t.serviceAt spec.ip = none
  | .service id _ _ => t.serviceIdToIp.lookup id = none ∨ t.serviceIdToIp.lookup id = some spec.ip
  | .pod none | .wireGuardPeer _ => True

instance (me : WorkerId) (t : EndpointTable K) (spec : Proto.EndpointSpec) :
    Decidable (Settles me t spec) := by
  unfold Settles
  split <;> infer_instance

inductive Change where
  | sync (specs : List Proto.EndpointSpec)
  | update (upserted : List Proto.EndpointSpec) (removedIps : List Nat)

def change (me : WorkerId) (adapterPort : Option PortId) (t : EndpointTable K) :
    Change → EndpointTable K
  | .sync specs => (t.applyEndpointSync specs me adapterPort).1
  | .update upserted removedIps => (t.applyEndpointUpdate upserted removedIps me adapterPort).1

/-- Every spec of the call settles, in the table that the specs before it have left. -/
def SettlesAll (me : WorkerId) (adapterPort : Option PortId) (t : EndpointTable K)
    (specs : List Proto.EndpointSpec) : Prop :=
  Runs.Along (fun t spec => some (applySingleSpec me adapterPort t spec).1) (Settles me) t specs

def Settled (me : WorkerId) (adapterPort : Option PortId) (t : EndpointTable K) : Change → Prop
  | .sync specs => SettlesAll me adapterPort (t.removeIps (t.unlisted specs)) specs
  | .update upserted removedIps => SettlesAll me adapterPort (t.removeIps removedIps) upserted

instance (me : WorkerId) (adapterPort : Option PortId) (t : EndpointTable K) :
    (c : Change) → Decidable (Settled me adapterPort t c)
  | .sync _ | .update _ _ => Runs.decidableAlong _ _ _

theorem serviceAt_put :
    (t.put ip ep).serviceAt ip' = if ip' = ip then ep.backend.serviceId? else t.serviceAt ip' := by
  unfold serviceAt
  rw [lookup_put]
  split <;> rfl

theorem lookup_forgetServiceAt : (t.forgetServiceAt ip).serviceIdToIp.lookup id =
    if t.serviceAt ip = some id then none else t.serviceIdToIp.lookup id := by
  unfold forgetServiceAt
  split
  · rename_i id' hat
    rw [hat,AList.lookup_erase_if]
    grind
  · rename_i hat
    rw [hat,if_neg nofun]

theorem serviceAt_forgetServiceAt : (t.forgetServiceAt ip).serviceAt ip' = t.serviceAt ip' := by
  unfold serviceAt
  rw [forgetServiceAt_byIp]

/-- Another endpoint takes the place of whatever was there. -/
theorem Exact.replace (h : t.Exact) (hep : ep.backend.serviceId? = none) :
    ((t.forgetServiceAt ip).put ip ep).Exact := by
  intro id ip'
  change (t.forgetServiceAt ip).serviceIdToIp.lookup id = some ip' ↔ _
  rw [lookup_forgetServiceAt,serviceAt_put,serviceAt_forgetServiceAt,hep]
  have hhere := h id ip
  have hthere := h id ip'
  grind

theorem Exact.removeIp (h : t.Exact) : (t.removeIp ip).Exact := by
  intro id ip'
  have hat : (t.removeIp ip).serviceAt ip' = if ip' = ip then none else t.serviceAt ip' := by
    unfold serviceAt
    rw [lookup_removeIp]
    split <;> rfl
  have hid : (t.removeIp ip).serviceIdToIp.lookup id = _ := lookup_forgetServiceAt
  have hhere := h id ip
  have hthere := h id ip'
  rw [hat,hid]
  grind

theorem Exact.removeIps (h : t.Exact) (ips : List Nat) : (t.removeIps ips).Exact := by
  induction ips generalizing t with
  | nil => exact h
  | cons ip ips ih => exact ih h.removeIp

/-- The service at the address stays, or there was none. -/
theorem Exact.put (h : t.Exact) (hep : ep.backend.serviceId? = t.serviceAt ip) :
    (t.put ip ep).Exact := by
  intro id ip'
  rw [serviceAt_put,hep]
  have hthere := h id ip'
  change t.serviceIdToIp.lookup id = some ip' ↔ _
  grind

theorem Exact.createService (h : t.Exact)
    (hid : t.serviceIdToIp.lookup id = none ∨ t.serviceIdToIp.lookup id = some ip) :
    (t.createService ip id policy backend).1.Exact := by
  intro id' ip'
  unfold EndpointTable.createService
  rw [serviceAt_put]
  have hother : (t.forgetOtherServiceAt ip id).serviceIdToIp.lookup id' =
      if t.serviceAt ip = some id' ∧ id' ≠ id then none else t.serviceIdToIp.lookup id' := by
    unfold forgetOtherServiceAt
    split
    · grind
    · rw [lookup_forgetServiceAt]
      grind
  have hat : (mk (t.forgetOtherServiceAt ip id).byIp
      ((t.forgetOtherServiceAt ip id).serviceIdToIp.insert id ip)).serviceAt ip' = t.serviceAt ip' := by
    unfold serviceAt
    rw [forgetOtherServiceAt_byIp]
  change ((t.forgetOtherServiceAt ip id).serviceIdToIp.insert id ip).lookup id' = some ip' ↔ _
  rw [AList.lookup_insert_if,hother,hat]
  have hhere := h id' ip
  have hthere := h id' ip'
  have hid' := h id ip'
  simp only [Endpoint.start,EndpointBackend.serviceId?]
  grind

theorem Exact.applySingleSpec (h : t.Exact) (hs : Settles me t spec) :
    (applySingleSpec me adapterPort t spec).1.Exact := by
  obtain ⟨ip,kind⟩ := spec
  have hspec := specced me adapterPort t ⟨ip,kind⟩
  generalize applySingleSpec me adapterPort t ⟨ip,kind⟩ = r at hspec ⊢
  cases hspec with
  | known _ _ | portless _ => exact h
  | unplaced _ hl =>
    refine h.put ?_
    unfold serviceAt
    rw [hl]
    rfl
  | localPod | remotePeer _ | adapter _ => exact h.replace rfl
  | remotePod hne => exact h.put (hs.resolve_left hne).symm
  | update hl hb _ =>
    refine h.put ?_
    unfold serviceAt
    rw [hl,Option.bind_some,hb]
    rfl
  | create _ => exact h.createService hs

theorem Exact.applySpecs (h : t.Exact) (hs : SettlesAll me adapterPort t specs) :
    (applySpecs me adapterPort t specs).1.Exact := by
  induction specs generalizing t with
  | nil => exact h
  | cons spec specs ih => exact ih (h.applySingleSpec hs.1) hs.2

theorem Exact.change (h : t.Exact) (hs : Settled me adapterPort t c) :
    (t.change me adapterPort c).Exact := by
  cases c with
  | sync specs => exact (h.removeIps _).applySpecs hs
  | update upserted removedIps => exact (h.removeIps _).applySpecs hs

/-- Only the entry of the service itself is marked. -/
theorem Exact.markServiceReady (h : t.Exact) (hne : t.serviceAt ip ≠ some id) :
    (t.markServiceReady id).2.byIp.lookup ip = t.byIp.lookup ip := by
  have hother : ∀ ip' ep, t.serviceIdToIp.lookup id = some ip' →
      (t.put ip' ep).byIp.lookup ip = t.byIp.lookup ip := by
    intro ip' ep hid
    rw [lookup_put,if_neg]
    rintro rfl
    exact hne ((h id ip).mp hid)
  unfold EndpointTable.markServiceReady
  split
  · rfl
  · rename_i ip' hid
    split
    · rfl
    · split
      · dsimp only
        split
        · split <;> exact hother ip' _ hid
        · exact hother ip' _ hid
      · rfl

/-- After every call the index is exact, and readiness and the addresses of a service are those of
its own entry. -/
theorem serviceIndex_exact (me : WorkerId) (adapterPort : Option PortId) (changes : List Change)
    (h : Runs.Along (fun t c => some (t.change me adapterPort c)) (Settled me adapterPort)
      (new : EndpointTable K) changes)
    (hr : changes.foldl (change me adapterPort) new = t) : t.Exact ∧
      (∀ id ip backendIp, t.getServiceNatInfo id = some (ip,backendIp) → t.serviceAt ip = some id) ∧
      ∀ id ip, t.serviceAt ip ≠ some id →
        (t.markServiceReady id).2.byIp.lookup ip = t.byIp.lookup ip := by
  have hexact : t.Exact := h.keeps (fun _ c _ he hs hc => by cases hc; exact he.change hs)
    (fun _ _ => ⟨nofun,nofun⟩) ((Runs.run_some _ _ _).trans (congrArg some hr))
  refine ⟨hexact,fun id ip backendIp hnat => ?_,fun id ip hne => hexact.markServiceReady hne⟩
  refine (hexact id ip).mp ?_
  obtain ⟨ip',hid,hnat⟩ := Option.bind_eq_some_iff.mp hnat
  obtain ⟨ep,_,hnat⟩ := Option.bind_eq_some_iff.mp hnat
  split at hnat
  · obtain ⟨_,_,heq⟩ := Option.map_eq_some_iff.mp hnat
    cases heq
    exact hid
  · cases hnat

def webSpec (ip : Nat) : Proto.EndpointSpec := ⟨ip,.service 1 ⟨[],64,1000⟩ none⟩

theorem moved_service_exact :
    ((change 1 none (.change 1 none (new (K := .passthrough Unit))
      (.sync [webSpec 7])) (.update [webSpec 8] [7])).Exact) :=
  (serviceIndex_exact 1 none [.sync [webSpec 7],.update [webSpec 8] [7]] (by decide) rfl).1

/-- The service gets its new address before the old one goes. -/
theorem service_at_two_addresses :
    let t := change 1 none (new (K := .passthrough Unit)) (.sync [webSpec 7,webSpec 8])
    let t' := t.change 1 none (.update [] [7])
    t.serviceAt 7 = some 1 ∧ t.serviceIdToIp.lookup 1 = some 8 ∧
      t'.serviceAt 8 = some 1 ∧ t'.serviceIdToIp.lookup 1 = none := by
  decide

end Distvirt.Worker.EndpointTable
