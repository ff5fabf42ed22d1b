import Mathlib.Data.List.Basic
import Distvirt.Namespace.Apply
import Distvirt.Orchestrator.Segments

/-! Requests of the client API, from the texts and numbers of a spec to the addresses that a
namespace computes, and to the netmask of its pods. Addresses are 32 bits wide: `none` stands for a
sum, a difference or a shift that leaves the range of its type, and for a search of a segment id
that does not end. -/

namespace Distvirt.Grpc

open Std (ExtTreeMap)
open NamespaceIpAllocator

def checkedAdd (a b : Nat) : Option Nat := if a + b < 2 ^ 32 then some (a + b) else none

def checkedSub (a b : Nat) : Option Nat := if b ≤ a then some (a - b) else none

/-- `1u32 << n` -/
def checkedShl (n : Nat) : Option Nat := if n < 32 then some (2 ^ n) else none

def number (digits : List Char) : Nat := digits.foldl (fun n c => 10 * n + (c.toNat - 48)) 0

/-- `u8::from_str`: a sign is allowed, and so are leading zeros. -/
def parseU8 (text : List Char) : Option Nat :=
  let digits := if text.head? = some '+' then text.tail else text
  if digits ≠ [] ∧ digits.all Char.isDigit ∧ number digits < 256 then some (number digits) else none

def parseOctet (text : List Char) : Option Nat :=
  if text ≠ [] ∧ text.length ≤ 3 ∧ text.all Char.isDigit ∧ number text < 256 ∧
      (text.head? = some '0' → text.length = 1) then some (number text) else none

def parseIpv4 (text : List Char) : Option Nat :=
  match (text.splitOn '.').mapM parseOctet with
  | some [a,b,c,d] => some (((a * 256 + b) * 256 + c) * 256 + d)
  | _ => none

/-- A conversion fails with the text of a status, or the orchestrator with it. -/
abbrev Checked := ExceptT String Option

def parseCidr (subnetStr : String) : Except String (Nat × Nat) :=
  match subnetStr.toList.splitOn '/' with
  | [ip,len] =>
    let ipStr := String.ofList ip
    let lenStr := String.ofList len
    match parseIpv4 ip,parseU8 len with
    | none,_ => .error s!"invalid subnet IP: '{ipStr}'"
    | some _,none => .error s!"invalid prefix length: '{lenStr}'"
    | some subnet,some prefixLen => .ok (subnet,prefixLen)
  | _ => .error s!"invalid subnet format: '{subnetStr}', expected CIDR notation"

/-- The prefix length is not looked at. -/
def parseNetworkConfig (subnetStr : String) : Checked NetworkConfig := do
  let (subnet,prefixLen) ← ExceptT.mk (some (parseCidr subnetStr))
  let gateway ← ExceptT.lift (checkedAdd subnet 1)
  return ⟨subnet,gateway,prefixLen⟩

namespace Proto

structure PortSpec where
  port : Nat
  targetPort : Nat
  activator : Option ActivatorKind

/-- `ip` is absent without network settings. -/
structure ServiceSpec where
  workloadId : String
  ip : Option String
  ports : List PortSpec
  idleTimeoutMs : Nat
  bufferFrames : Nat
  bufferTimeoutMs : Nat

/-- All settings but the address are carried over one by one: they stand here as `input`. -/
structure WorkloadSpec where
  ip : Option String
  input : WorkloadSpecInput

/-- `subnet` is absent without network settings. -/
structure NamespaceSpec where
  subnet : Option String
  workloads : List (String × WorkloadSpec)
  services : List (String × ServiceSpec)

structure PatchNamespaceRequest where
  workloads : List (String × WorkloadSpec)
  services : List (String × ServiceSpec)
  removeWorkloads : List String
  removeServices : List String

end Proto

def explicitIp (resource : String) : Option String → Checked (Option Nat)
  | none | some "" => return none
  | some ip =>
    match parseIpv4 ip.toList with
    | some address => return some address
    | none => throw s!"invalid {resource} IP: '{ip}'"

/-- Port numbers of the request have 32 bits and are cut to sixteen. -/
def convertPort (p : Proto.PortSpec) : PortConfig where
  port := p.port % 2 ^ 16
  targetPort := if p.targetPort = 0 then p.port % 2 ^ 16 else p.targetPort % 2 ^ 16
  activator := p.activator.map (fun
    | .tcp maxFlows => .tcp (if maxFlows = 0 then 1024 else maxFlows)
    | .http2 => .http2)

def convertProtoServiceInput (svc : Proto.ServiceSpec) : Checked ServiceSpecInput := do
  let ip ← explicitIp "service" svc.ip
  let ports := svc.ports.map convertPort
  let hasActivation := ports.any (fun p => p.activator.isSome)
  if hasActivation && !ports.all (fun p => p.activator.isSome) then
    throw ("mixed activated/passthrough ports on the same service are not allowed; " ++
      "all ports must have activators or none")
  return {
    workloadId := svc.workloadId
    explicitIp := ip
    ports
    hasActivation
    idleTimeout := if 0 < svc.idleTimeoutMs then svc.idleTimeoutMs
      else if hasActivation then 30000 else 0
    bufferFrames := if svc.bufferFrames = 0 then 64 else svc.bufferFrames
    bufferTimeoutMs := if svc.bufferTimeoutMs = 0 then 5000 else svc.bufferTimeoutMs }

def convertProtoWorkloadInput (wl : Proto.WorkloadSpec) : Checked WorkloadSpecInput := do
  return { wl.input with explicitIp := ← explicitIp "workload" wl.ip }

def convertAll {α β : Type} (convert : α → Checked β) (entries : List (String × α)) :
    Checked (ExtTreeMap String β) :=
  entries.foldlM (fun m e => return m.insert e.1 (← convert e.2)) ∅

def convertProtoSpec : Option Proto.NamespaceSpec → Checked NamespaceSpecInput
  | none => throw "missing spec"
  | some ⟨none,_,_⟩ => throw "missing network config"
  | some ⟨some subnet,workloads,services⟩ => do
    return ⟨← parseNetworkConfig subnet,← convertAll convertProtoWorkloadInput workloads,
      ← convertAll convertProtoServiceInput services⟩

def convertProtoPatch (req : Proto.PatchNamespaceRequest) : Checked NamespacePatchInput := do
  return ⟨← convertAll convertProtoWorkloadInput req.workloads,
    ← convertAll convertProtoServiceInput req.services,req.removeWorkloads,req.removeServices⟩

/-- The addresses of a namespace and the spec they were computed for. -/
structure Tenant where
  namespaceId : NamespaceId
  pool : AddressPool
  currentSpec : Option NamespaceSpec

/-- The sums, differences and shifts of the two constructors. -/
def newPool (network : NetworkConfig) : Option AddressPool := do
  let bits ← checkedSub 32 network.prefixLen
  let _ ← checkedAdd network.subnet 2
  let addresses ← checkedShl bits
  let _ ← checkedSub addresses 2
  return .new network.subnet network.prefixLen

/-- Each address that is handed out is a sum. -/
def computes : NamespaceIpAllocator → List IpRequest → Bool
  | _,[] => true
  | a,(key,ip) :: rest =>
    match a.allocate key ip with
    | .error _ => true
    | .ok (r,a) => r.ip < 2 ^ 32 && computes a rest

def reports (a : NamespaceIpAllocator) : Bool :=
  a.allocations.toList.all (fun e => a.offsetToIp e.2.1 < 2 ^ 32)

def Tenant.apply (t : Tenant) (rel : List IpResourceKey)
    (workloads : ExtTreeMap String WorkloadSpecInput)
    (services : ExtTreeMap String ServiceSpecInput) (spec : Resolved → NamespaceSpec) :
    Option (Option ClientError × Tenant) :=
  let a := t.pool.ipAllocator.releaseAll rel
  if computes a (ipRequests workloads services) then
    match resolveInput a workloads services with
    | (.error e,a) => some (some (.ipAllocation e),{ t with pool.ipAllocator := a })
    | (.ok resolved,a) =>
      if reports a then
        some (none,{ t with pool.ipAllocator := a, currentSpec := some (spec resolved) })
      else none
  else none

def Tenant.connect (t : Tenant) (clientPublicKey : Nat) : Option Tenant :=
  let m := t.pool.wgPeers
  if m.peers[clientPublicKey]?.isNone ∧ 2 ≤ m.nextHostOffset ∧
    checkedAdd m.subnet m.nextHostOffset = none then none
  else some { t with pool.wgPeers := (m.connect clientPublicKey).2 }

inductive Refusal where
  | invalidArgument (message : String)
  | client (error : ClientError)
  | noTunnelWorker
  | ipExhausted

/-- A public key is `none` if it has not 32 bytes. Whether a worker has a tunnel is up to the
workers. -/
inductive Request where
  | createNamespace (name : String) (spec : Option Proto.NamespaceSpec)
  | updateNamespace (name : String) (spec : Option Proto.NamespaceSpec)
  | patchNamespace (name : String) (req : Proto.PatchNamespaceRequest)
  | deleteNamespace (name : String)
  | connectNetwork (name : String) (clientPublicKey : Option Nat) (tunnel : Bool)
  | disconnectNetwork (name : String) (clientPublicKey : Option Nat)

/-- What else happens: a pod of a namespace is launched or resumed, and workers come and go. -/
inductive Event where
  | request (request : Request)
  | launch (name : String) (network : PodNetworkConfig)
  | workerConnected (info : WorkerConnectedInfo)
  | workerDisconnected (workerId : WorkerId)

structure Namespaces where
  core : OrchestratorCore := .new
  tenants : String → Option Tenant := fun _ => none

/-- The answer, an error or none, and the namespaces after it. -/
abbrev Outcome := Option (Option Refusal × Namespaces)

namespace Namespaces

def refuse (s : Namespaces) (refusal : Refusal) : Outcome := some (some refusal,s)

def converted {α : Type} (s : Namespaces) (c : Checked α) (next : α → Outcome) : Outcome :=
  c.run.bind (fun
    | .error message => s.refuse (.invalidArgument message)
    | .ok x => next x)

def resolved (s : Namespaces) (name : String) (next : Tenant → Outcome) : Outcome :=
  match s.tenants name with
  | some t => next t
  | none => s.refuse (.client .namespaceNotFound)

def insert (s : Namespaces) (name : String) (t : Tenant) : Namespaces :=
  { s with tenants := Function.update s.tenants name (some t) }

def put (s : Namespaces) (name : String) (r : Option ClientError × Tenant) :
    Option Refusal × Namespaces :=
  (r.1.map .client,s.insert name r.2)

def applyFullSpec (s : Namespaces) (name : String) (input : NamespaceSpecInput) : Outcome :=
  s.resolved name (fun t =>
    (t.apply (Namespace.removedKeys t.currentSpec input) input.workloads input.services
      (fun r => ⟨input.network,.ofList r.1,.ofList r.2⟩)).map (s.put name))

def applyPatch (s : Namespaces) (name : String) (t : Tenant) (input : NamespacePatchInput) :
    Outcome :=
  match t.currentSpec with
  | none => s.refuse (.client .namespaceNotFound)
  | some current =>
    (t.apply (Namespace.patchRemovedKeys input) input.workloads input.services (fun r =>
      { network := current.network
        workloads := r.1.foldl (fun m e => m.insert e.1 e.2)
          (input.removeWorkloads.foldl ExtTreeMap.erase current.workloads)
        services := r.2.foldl (fun m e => m.insert e.1 e.2)
          (input.removeServices.foldl ExtTreeMap.erase current.services) })).map (s.put name)

/-- The segment id is searched before the addresses are laid out. -/
def create (s : Namespaces) (name : String) (input : NamespaceSpecInput) : Outcome :=
  (s.core.createNamespace name input.network).bind (fun
    | (.error e,_) => s.refuse (.client e)
    | (.ok info,core,_) => (newPool input.network).bind (fun pool =>
      applyFullSpec ({ s with core }.insert name ⟨info.namespaceId,pool,none⟩) name input))

def destroy (s : Namespaces) (name : String) (t : Tenant) : Outcome :=
  (s.core.destroyNamespace t.namespaceId).map (fun
    | (.error e,core,_) => (some (.client e),{ s with core })
    | (.ok (),core,_) => (none,⟨core,Function.update s.tenants name none⟩))

def handle (s : Namespaces) : Request → Outcome
  | .createNamespace name spec => s.converted (convertProtoSpec spec) (s.create name)
  | .updateNamespace name spec => s.converted (convertProtoSpec spec) (s.applyFullSpec name)
  | .patchNamespace name req => s.resolved name (fun t =>
    s.converted (convertProtoPatch req) (s.applyPatch name t))
  | .deleteNamespace name => s.resolved name (s.destroy name)
  | .connectNetwork _ none _ | .disconnectNetwork _ none =>
    s.refuse (.invalidArgument "client_public_key must be 32 bytes")
  | .connectNetwork name (some key) tunnel => s.resolved name (fun t =>
    if tunnel then (t.connect key).map (fun t =>
      (if t.pool.wgPeers.peers[key]?.isSome then none else some .ipExhausted,s.insert name t))
    else s.refuse .noTunnelWorker)
  | .disconnectNetwork name (some key) => s.resolved name (fun t =>
    some (none,s.insert name { t with pool.wgPeers := (t.pool.wgPeers.disconnect key).2 }))

/-- The netmask of a launched pod is computed from the spec the namespace has by then. -/
def launch (s : Namespaces) (name : String) (network : PodNetworkConfig) : Option Namespaces :=
  match s.tenants name with
  | some t =>
    match fillNetwork t.currentSpec network with
    | .ok _ => some s
    | .error _ => none
  | none => some s

def step (s : Namespaces) : Event → Option Namespaces
  | .request request => (s.handle request).map Prod.snd
  | .launch name network => s.launch name network
  | .workerConnected info => (s.core.workerConnected info).map (fun r => { s with core := r.1 })
  | .workerDisconnected workerId =>
    (s.core.workerDisconnected workerId).map (fun r => { s with core := r.1 })

end Namespaces

/-- The subnet lies in the range of the addresses with a host after the gateway, and is neither
all of it nor a single address. -/
def Placed (subnet prefixLen : Nat) : Prop :=
  1 ≤ prefixLen ∧ prefixLen ≤ 31 ∧ subnet + 2 < 2 ^ 32 ∧ subnet + 2 ^ (32 - prefixLen) ≤ 2 ^ 32

def Event.services : Event → List Proto.ServiceSpec
  | .request (.createNamespace _ (some spec)) | .request (.updateNamespace _ (some spec)) =>
    spec.services.map Prod.snd
  | .request (.patchNamespace _ req) => req.services.map Prod.snd
  | _ => []

def Proto.NamespaceSpec.Subnet (p : Nat → Nat → Prop) (spec : Option Proto.NamespaceSpec) : Prop :=
  ∀ sp ∈ spec, ∀ text ∈ sp.subnet, ∀ subnet prefixLen,
    parseCidr text = .ok (subnet,prefixLen) → p subnet prefixLen

/-- The names that the requests leave in use. -/
def Event.record (names : List String) : Event → List String
  | .request (.createNamespace name spec) =>
    if (convertProtoSpec spec).run matches some (.ok _) ∧ name ∉ names then name :: names else names
  | .request (.deleteNamespace name) => names.filter (· ≠ name)
  | _ => names

/-- A new namespace has a placed subnet, and there is a segment id left for it. The subnet of an
update is only parsed, but its prefix is that of the netmask. -/
def Event.Admissible (names : List String) : Event → Prop
  | .request (.createNamespace name spec) =>
    Proto.NamespaceSpec.Subnet Placed spec ∧ (name ∈ names ∨ names.length < 65535)
  | .request (.updateNamespace _ spec) => Proto.NamespaceSpec.Subnet
    (fun subnet prefixLen => subnet + 1 < 2 ^ 32 ∧ prefixLen ≤ 32) spec
  | _ => True

/-- The conversion does not overflow, and what it returns meets `P`. -/
def Yields {α : Type} (c : Checked α) (P : α → Prop) : Prop :=
  match c.run with
  | none => False
  | some (.error _) => True
  | some (.ok x) => P x

/-- What a namespace with a placed subnet keeps. -/
structure Tenant.Fit (t : Tenant) : Prop where
  valid : t.pool.ipAllocator.Valid
  zones : t.pool.ipAllocator.firstHost + t.pool.ipAllocator.manualZoneEnd ≤ 2 ^ 32
  peers : t.pool.wgPeers.subnet + t.pool.wgPeers.nextHostOffset < 2 ^ 32
  netmask : ∀ spec ∈ t.currentSpec, spec.network.prefixLen ≤ 32

/-- The orchestrator keeps the namespaces whose names are in use, each with its segment. -/
structure Namespaces.Fit (names : List String) (s : Namespaces) : Prop where
  tenants : ∀ name t, s.tenants name = some t → t.Fit ∧ t.namespaceId.name = name
  segments : ∃ l prior, OrchestratorCore.Segmented l s.core prior ∧
    l.live.map NamespaceId.name = names ∧
    ∀ id, id ∈ l.live ↔ ∃ t, s.tenants id.name = some t ∧ t.namespaceId = id

/-- The request is answered and the namespaces stay fit. -/
def Outcome.Done (names : List String) (o : Outcome) : Prop :=
  ∃ reply s, o = some (reply,s) ∧ s.Fit names

section run
variable {a : NamespaceIpAllocator} {r : IpAllocation} {t : Tenant} {s : Namespaces}
  {names : List String}

theorem computes_within (v : a.Valid) (h : a.firstHost + a.manualZoneEnd ≤ 2 ^ 32)
    (reqs : List IpRequest) : computes a reqs = true ∧
      (a.allocateAll reqs).2.firstHost = a.firstHost ∧
      (a.allocateAll reqs).2.manualZoneEnd = a.manualZoneEnd := by
  induction reqs generalizing a with
  | nil => exact ⟨rfl,rfl,rfl⟩
  | cons req reqs ih =>
    obtain ⟨key,ip⟩ := req
    simp only [computes,allocateAll]
    cases ha : a.allocate key ip with
    | error e => exact ⟨rfl,rfl,rfl⟩
    | ok res =>
      obtain ⟨r,b⟩ := res
      obtain ⟨hf,_,hm⟩ := (v.allocate_lookup ha).1
      obtain ⟨h1,h2,h3⟩ := ih (v.allocate ha) (by omega)
      have := v.allocate_within ha
      exact ⟨by simpa using ⟨by omega,h1⟩,h2.trans hf,h3.trans hm⟩

theorem reports_within (v : a.Valid) (h : a.firstHost + a.manualZoneEnd ≤ 2 ^ 32) :
    reports a = true := by
  simp only [reports,List.all_eq_true,decide_eq_true_eq]
  intro e he
  exact Nat.lt_of_lt_of_le (Nat.add_lt_add_left
    (v.owner_lt (ExtTreeMap.mem_toList_iff_getElem?_eq_some.mp he)) _) h

theorem Tenant.Fit.apply (h : t.Fit) (rel : List IpResourceKey)
    (workloads : ExtTreeMap String WorkloadSpecInput)
    (services : ExtTreeMap String ServiceSpecInput) (spec : Resolved → NamespaceSpec)
    (hspec : ∀ resolved, (spec resolved).network.prefixLen ≤ 32) :
    ∃ e t', t.apply rel workloads services spec = some (e,t') ∧ t'.Fit ∧
      t'.namespaceId = t.namespaceId := by
  have v := h.valid.releaseAll rel
  obtain ⟨hf,_,hm⟩ := zones_of_frame (t.pool.ipAllocator.releaseAll_frame rel)
  have hz := h.zones
  obtain ⟨hc,hf',hm'⟩ := computes_within v (by omega) (ipRequests workloads services)
  have v' : (resolveInput _ workloads services).2.Valid := resolveInput_valid v
  simp only [Tenant.apply,if_pos hc]
  rw [← resolveInput_allocateAll.1] at hf' hm'
  generalize resolveInput _ _ _ = res at hf' hm' v'
  obtain ⟨res,a⟩ := res
  cases res with
  | error e => exact ⟨_,_,rfl,⟨v',by simp only at hf' hm' ⊢; omega,h.peers,h.netmask⟩,rfl⟩
  | ok resolved =>
    have hr := reports_within v' (by simp only at hf' hm' ⊢; omega)
    refine ⟨_,_,if_pos hr,⟨v',by simp only at hf' hm' ⊢; omega,h.peers,?_⟩,rfl⟩
    rintro _ ⟨⟩
    exact hspec resolved

theorem Tenant.Fit.connect (h : t.Fit) (key : Nat) :
    ∃ t', t.connect key = some t' ∧ t'.Fit ∧ t'.namespaceId = t.namespaceId := by
  have hp := h.peers
  obtain ⟨hn,hs,_⟩ := t.pool.wgPeers.connect_rest key
  refine ⟨_,if_neg ?_,⟨h.valid,h.zones,?_,h.netmask⟩,rfl⟩
  · rw [checkedAdd,if_pos hp]
    simp
  · simp only [hs]
    omega

theorem newPool_fit (h : Placed network.subnet network.prefixLen) :
    ∃ pool, newPool network = some pool ∧ ∀ id, Tenant.Fit ⟨id,pool,none⟩ := by
  obtain ⟨h1,h2,h3,h4⟩ := h
  have two : 2 ≤ 2 ^ (32 - network.prefixLen) := Nat.le_self_pow (by omega) 2
  refine ⟨.new network.subnet network.prefixLen,?_,fun id => ⟨valid_new _ _ _,?_,?_,nofun⟩⟩
  · simp only [newPool,checkedSub,checkedAdd,checkedShl]
    rw [if_pos (by omega),if_pos (by omega)]
    simp only [Option.bind_eq_bind,Option.bind_some]
    rw [if_pos (by omega)]
    simp only [Option.bind_some,if_pos two]
    rfl
  · simp only [AddressPool.new,new,if_neg (show network.prefixLen ≠ 0 by omega)]
    omega
  · have := Nat.mod_le (2 ^ (32 - network.prefixLen) - 2) (2 ^ 16)
    simp only [AddressPool.new,WireGuardPeerManager.new]
    omega

namespace Namespaces

theorem Fit.insert (h : s.Fit names) (hs : s.tenants name = some t₀) (ht : t.Fit)
    (hid : t.namespaceId = t₀.namespaceId) : (s.insert name t).Fit names := by
  obtain ⟨l,prior,hl,hnames,hlive⟩ := h.segments
  refine ⟨fun name' t' h' => ?_,l,prior,hl,hnames,fun id => ?_⟩
  · simp only [Namespaces.insert,Function.update_apply] at h'
    split at h'
    · rename_i heq
      cases h'
      exact ⟨ht,by rw [hid,heq]; exact (h.tenants name t₀ hs).2⟩
    · exact h.tenants name' t' h'
  · simp only [hlive,Namespaces.insert,Function.update_apply]
    split
    · rename_i heq
      simp [heq,hs,hid]
    · rfl

theorem Fit.refuse (h : s.Fit names) (refusal : Refusal) : (s.refuse refusal).Done names :=
  ⟨_,s,rfl,h⟩

theorem Fit.resolved (h : s.Fit names) (hnone : s.tenants name = none → names' = names)
    (hn : ∀ t, s.tenants name = some t → t.Fit → (next t).Done names') :
    (s.resolved name next).Done names' := by
  unfold Namespaces.resolved
  split
  · exact hn _ ‹_› (h.tenants name _ ‹_›).1
  · rw [hnone ‹_›]
    exact h.refuse _

theorem Fit.applied (h : s.Fit names) {rel workloads services} (hs : s.tenants name = some t)
    (hspec : ∀ resolved, (spec resolved).network.prefixLen ≤ 32) :
    Outcome.Done names ((t.apply rel workloads services spec).map (s.put name)) := by
  obtain ⟨e,t',he,ht',hid⟩ := (h.tenants name t hs).1.apply rel workloads services spec hspec
  exact ⟨_,_,by rw [he]; rfl,h.insert hs ht' hid⟩

theorem Fit.applyFullSpec (h : s.Fit names) (hi : input.network.prefixLen ≤ 32) :
    (s.applyFullSpec name input).Done names :=
  h.resolved (fun _ => rfl) (fun _ hs _ => h.applied hs (fun _ => hi))

theorem Fit.converted (h : s.Fit names) (hc : Yields c P)
    (herror : (∀ x, c.run ≠ some (.ok x)) → names' = names)
    (hn : ∀ x, c.run = some (.ok x) → P x → (next x).Done names') :
    (s.converted c next).Done names' := by
  unfold Yields at hc
  unfold Namespaces.converted
  split at hc
  · exact hc.elim
  · rename_i hrun
    rw [hrun,herror (fun x hx => nomatch hrun.symm.trans hx)]
    exact h.refuse _
  · rename_i hrun
    rw [hrun]
    exact hn _ hrun hc

theorem Fit.named (h : s.Fit names) (name : String) :
    name ∈ names ↔ ∃ t, s.tenants name = some t := by
  obtain ⟨l,prior,hl,rfl,hlive⟩ := h.segments
  rw [List.mem_map]
  constructor
  · rintro ⟨id,hid,rfl⟩
    obtain ⟨t,ht,_⟩ := (hlive id).mp hid
    exact ⟨t,ht⟩
  · rintro ⟨t,ht⟩
    obtain ⟨_,rfl⟩ := h.tenants _ t ht
    exact ⟨t.namespaceId,(hlive _).mpr ⟨t,ht,rfl⟩,rfl⟩

end Namespaces

theorem Yields.bind (hc : Yields c P) (hf : ∀ x, P x → Yields (f x) Q) : Yields (c >>= f) Q := by
  unfold Yields at hc
  rw [Yields,ExceptT.run_bind]
  split at hc
  · exact hc.elim
  · rw [‹c.run = _›]
    exact trivial
  · rw [‹c.run = _›]
    exact hf _ hc

theorem Yields.mono (hc : Yields c P) (h : ∀ x, P x → Q x) : Yields c Q := by
  unfold Yields at *
  split at hc
  · exact hc
  · exact trivial
  · exact h _ hc

theorem explicitIp_yields (resource : String) (ip : Option String) :
    Yields (explicitIp resource ip) (fun _ => True) := by
  unfold explicitIp
  split
  · exact trivial
  · exact trivial
  · split <;> exact trivial

theorem workload_yields (wl : Proto.WorkloadSpec) :
    Yields (convertProtoWorkloadInput wl) (fun _ => True) :=
  (explicitIp_yields _ _).bind (fun _ _ => trivial)

theorem service_yields (svc : Proto.ServiceSpec) :
    Yields (convertProtoServiceInput svc) (fun input => input.ports = svc.ports.map convertPort) := by
  refine (explicitIp_yields _ _).bind (fun ip _ => ?_)
  simp only
  split
  · exact trivial
  · exact rfl

theorem convertAll_yields {α β : Type} {convert : α → Checked β}
    (h : ∀ x, Yields (convert x) (fun _ => True)) (entries : List (String × α)) :
    Yields (convertAll convert entries) (fun _ => True) := by
  unfold convertAll
  generalize (∅ : ExtTreeMap String β) = m
  induction entries generalizing m with
  | nil => exact trivial
  | cons e entries ih =>
    rw [List.foldlM_cons]
    refine Yields.bind (P := fun _ => True) ?_ (fun m _ => ih m)
    exact (h e.2).bind (fun _ _ => trivial)

theorem settings_yield {β : Type} (workloads : List (String × Proto.WorkloadSpec))
    (services : List (String × Proto.ServiceSpec)) {P : β → Prop}
    (build : ExtTreeMap String WorkloadSpecInput → ExtTreeMap String ServiceSpecInput → β)
    (h : ∀ ws ss, P (build ws ss)) : Yields (do
      return build (← convertAll convertProtoWorkloadInput workloads)
        (← convertAll convertProtoServiceInput services)) P :=
  (convertAll_yields workload_yields _).bind (fun _ _ =>
    (convertAll_yields (fun svc => (service_yields svc).mono (fun _ _ => trivial)) _).bind (fun _ _ => h _ _))

/-- A converted spec has the subnet that its text denotes. -/
theorem spec_yields {spec : Option Proto.NamespaceSpec} (h : Proto.NamespaceSpec.Subnet p spec)
    (hp : ∀ subnet len, p subnet len → subnet + 1 < 2 ^ 32) :
    Yields (convertProtoSpec spec) (fun input => p input.network.subnet input.network.prefixLen) := by
  unfold convertProtoSpec
  split
  · exact trivial
  · exact trivial
  · rename_i text workloads services
    refine Yields.bind (P := fun network => p network.subnet network.prefixLen) ?_
      (fun network hn => settings_yield workloads services _ (fun _ _ => hn))
    unfold parseNetworkConfig
    cases hc : parseCidr text with
    | error message => exact trivial
    | ok x =>
      have hx := h _ rfl text rfl x.1 x.2 hc
      refine Yields.bind (P := fun y => y = x) rfl (fun y hy => ?_)
      subst hy
      have hg : checkedAdd y.1 1 = some (y.1 + 1) := if_pos (hp _ _ hx)
      simp only [hg]
      exact hx

theorem created {core : OrchestratorCore} (hname : name ∉ core.namespaceNames)
    (h : core.createNamespace name network = some (result,routed)) :
    ∃ info, result = .ok info ∧ info.namespaceId = ⟨name,core.nextNamespaceId⟩ := by
  rw [OrchestratorCore.createNamespace,if_neg hname] at h
  obtain ⟨_,_,h⟩ := Option.bind_eq_some_iff.mp h
  obtain ⟨_,_,h⟩ := Option.bind_eq_some_iff.mp h
  obtain ⟨_,_,h⟩ := Option.bind_eq_some_iff.mp h
  cases h
  exact ⟨_,rfl,rfl⟩

theorem destroyed {core : OrchestratorCore} (hid : ns ∈ core.namespaceIds)
    (h : core.destroyNamespace ns = some (result,routed)) : result = .ok () := by
  rw [OrchestratorCore.destroyNamespace,if_neg (not_not.mpr hid)] at h
  obtain ⟨_,_,h⟩ := Option.bind_eq_some_iff.mp h
  obtain ⟨_,_,h⟩ := Option.bind_eq_some_iff.mp h
  cases h
  rfl

namespace Namespaces

theorem Fit.create (h : s.Fit names) (hroom : name ∈ names ∨ names.length < 65535)
    (hi : Placed input.network.subnet input.network.prefixLen) :
    (s.create name input).Done (if name ∉ names then name :: names else names) := by
  obtain ⟨l,prior,hl,hnames,hlive⟩ := h.segments
  have hnamed : name ∈ s.core.namespaceNames ↔ name ∈ names := by
    rw [hl.named,hnames]
  unfold Namespaces.create
  by_cases hname : name ∈ names
  · rw [OrchestratorCore.createNamespace,if_pos (hnamed.mpr hname),if_neg (not_not.mpr hname)]
    exact h.refuse _
  · have room : l.live.length < OrchestratorCore.segmentIdCount - 1 := by
      rw [← List.length_map NamespaceId.name,hnames]
      exact hroom.resolve_left hname
    obtain ⟨_,hcall⟩ := hl.ends room (.createNamespace name input.network)
    obtain ⟨⟨result,core,output⟩,hr,_⟩ := Option.map_eq_some_iff.mp hcall
    obtain ⟨info,rfl,hinfo⟩ := created (hnamed.not.mpr hname) hr
    obtain ⟨pool,hp,ht⟩ := newPool_fit hi
    have hnext := hl.create hr
    rw [OrchestratorCore.Ledger.record,hnames,if_neg hname] at hnext
    rw [hr,if_pos hname]
    simp only [Option.bind_some,hp]
    refine Fit.applyFullSpec ⟨fun name' t' h' => ?_,_,_,hnext,congrArg _ hnames,fun id => ?_⟩
      (Nat.le_succ_of_le hi.2.1)
    · simp only [Namespaces.insert,Function.update_apply] at h'
      split at h'
      · rename_i heq
        cases h'
        exact ⟨ht _,by rw [hinfo,heq]⟩
      · exact h.tenants name' t' h'
    · simp only [Namespaces.insert,Function.update_apply,List.mem_cons,hlive]
      split
      · rename_i heq
        have hnone : s.tenants id.name = none := by
          rw [heq]
          exact Option.eq_none_iff_forall_not_mem.mpr (fun t ht => hname ((h.named name).mpr ⟨t,ht⟩))
        simp [hnone,hinfo,hl.agrees.next,eq_comm]
      · rename_i hne
        refine or_iff_right (fun heq => hne ?_)
        rw [heq]

theorem Fit.destroy (h : s.Fit names) (hs : s.tenants name = some t) :
    (s.destroy name t).Done (names.filter (· ≠ name)) := by
  obtain ⟨l,prior,hl,rfl,hlive⟩ := h.segments
  obtain ⟨_,hid⟩ := h.tenants name t hs
  have hmem : t.namespaceId ∈ l.live := (hlive _).mpr ⟨t,by rw [hid]; exact hs,rfl⟩
  have same : ∀ id ∈ l.live, (decide (id ≠ t.namespaceId)) = decide (id.name ≠ name) := by
    intro id hlid
    refine decide_eq_decide.mpr (not_congr ⟨fun heq => heq ▸ hid,fun heq => ?_⟩)
    obtain ⟨t',ht',hid'⟩ := (hlive id).mp hlid
    rw [heq,hs] at ht'
    cases ht'
    exact hid'.symm
  obtain ⟨_,hcall⟩ := (OrchestratorCore.call_ends s.core (.destroyNamespace t.namespaceId)).resolve_right
    (fun ⟨_,_,hne,_⟩ => nomatch hne)
  obtain ⟨⟨result,core,output⟩,hr,_⟩ := Option.map_eq_some_iff.mp hcall
  obtain rfl := destroyed ((hl.agrees.live _).mpr hmem) hr
  unfold Namespaces.destroy
  rw [hr]
  refine ⟨_,_,rfl,fun name' t' h' => ?_,_,_,hl.destroy hr,?_,fun id => ?_⟩
  · simp only [Function.update_apply] at h'
    split at h'
    · cases h'
    · exact h.tenants name' t' h'
  · rw [OrchestratorCore.Ledger.record,List.filter_map,List.filter_congr same]
    rfl
  · simp only [OrchestratorCore.Ledger.record,List.mem_filter,Function.update_apply]
    constructor
    · rintro ⟨hlid,hne⟩
      rw [same id hlid,decide_eq_true_eq] at hne
      rw [if_neg hne]
      exact (hlive id).mp hlid
    · rintro ⟨t',ht',hid'⟩
      split at ht'
      · cases ht'
      · rename_i hne
        have hlid := (hlive id).mpr ⟨t',ht',hid'⟩
        exact ⟨hlid,by rw [same id hlid]; exact decide_eq_true hne⟩

theorem Fit.handle (h : s.Fit names) {request : Request}
    (ha : (Event.request request).Admissible names) :
    (s.handle request).Done ((Event.request request).record names) := by
  cases request with
  | createNamespace name spec =>
    refine h.converted (spec_yields ha.1 (fun _ _ hp => Nat.lt_of_succ_lt hp.2.2.1)) (fun hno => ?_)
      (fun input hrun hi => ?_)
    · refine if_neg (fun hrun => ?_)
      revert hrun
      split <;> simp_all
    · simp only [Event.record,hrun,true_and]
      exact h.create ha.2 hi
  | updateNamespace name spec =>
    exact h.converted (spec_yields ha (fun _ _ hp => hp.1)) (fun _ => rfl)
      (fun input _ hi => h.applyFullSpec hi.2)
  | patchNamespace name req =>
    refine h.resolved (fun _ => rfl) (fun t hs ht => h.converted (P := fun _ => True)
      (settings_yield req.workloads req.services _ (fun _ _ => trivial)) (fun _ => rfl)
      (fun input _ _ => ?_))
    unfold Namespaces.applyPatch
    split
    · exact h.refuse _
    · rename_i current hcurrent
      exact h.applied hs (fun _ => ht.netmask current hcurrent)
  | deleteNamespace name =>
    refine h.resolved (fun hs => ?_) (fun t hs _ => h.destroy hs)
    refine List.filter_eq_self.mpr (fun name' hname' => decide_eq_true ?_)
    rintro rfl
    obtain ⟨t,ht⟩ := (h.named _).mp hname'
    cases hs.symm.trans ht
  | connectNetwork name key tunnel =>
    cases key with
    | none => exact h.refuse _
    | some key =>
      refine h.resolved (fun _ => rfl) (fun t hs ht => ?_)
      split
      · obtain ⟨t',he,ht',hid⟩ := ht.connect key
        exact ⟨_,_,by rw [he]; rfl,h.insert hs ht' hid⟩
      · exact h.refuse _
  | disconnectNetwork name key =>
    cases key with
    | none => exact h.refuse _
    | some key =>
      refine h.resolved (fun _ => rfl) (fun t hs ht => ⟨_,_,rfl,h.insert hs ⟨ht.valid,ht.zones,?_,
        ht.netmask⟩ rfl⟩)
      obtain ⟨hn,hs,_⟩ := t.pool.wgPeers.disconnect_rest key
      simpa only [hn,hs] using ht.peers

theorem Fit.launch (h : s.Fit names) (name : String) (network : PodNetworkConfig) :
    s.launch name network = some s := by
  unfold Namespaces.launch
  cases hs : s.tenants name with
  | none => rfl
  | some t =>
    have filled : ∃ filled, fillNetwork t.currentSpec network = .ok filled := by
      cases hspec : t.currentSpec with
      | none => exact ⟨network,rfl⟩
      | some spec =>
        have hmask := (h.tenants name t hs).1.netmask spec hspec
        exact ⟨_,by rw [fillNetwork,prefixLenToNetmask,if_pos hmask]; rfl⟩
    obtain ⟨_,hfilled⟩ := filled
    simp only [hfilled]

/-- Workers come and go without any change of the namespaces. -/
theorem Fit.call (h : s.Fit names) (hc : ∀ name network, c ≠ .createNamespace name network)
    (hnext : ∀ l prior a, OrchestratorCore.Segmented l s.core prior → s.core.call c = some a →
      ∃ l' prior', OrchestratorCore.Segmented l' a.1 prior' ∧ l'.live = l.live) :
    ∃ a, s.core.call c = some a ∧ Fit names { s with core := a.1 } := by
  obtain ⟨a,ha⟩ := (OrchestratorCore.call_ends s.core c).resolve_right
    (fun ⟨name,network,hne,_⟩ => hc name network hne)
  obtain ⟨l,prior,hl,hnames,hlive⟩ := h.segments
  obtain ⟨l',prior',hl',heq⟩ := hnext l prior a hl ha
  exact ⟨a,ha,h.tenants,l',prior',hl',heq ▸ hnames,heq ▸ hlive⟩

theorem Fit.step (h : s.Fit names) {ev : Event} (ha : ev.Admissible names) :
    ∃ s', s.step ev = some s' ∧ s'.Fit (ev.record names) := by
  cases ev with
  | request request =>
    obtain ⟨reply,s',he,hs'⟩ := h.handle ha
    exact ⟨s',by rw [Namespaces.step,he]; rfl,hs'⟩
  | launch name network => exact ⟨s,h.launch name network,h⟩
  | workerConnected info =>
    obtain ⟨a,hcall,ha⟩ := h.call (c := .workerConnected info) (by simp)
      (fun l prior a hl hr => ⟨_,_,hl.connect hr,rfl⟩)
    exact ⟨_,congrArg (Option.map _) hcall,ha⟩
  | workerDisconnected workerId =>
    obtain ⟨a,hcall,ha⟩ := h.call (c := .workerDisconnected workerId) (by simp)
      (fun l prior a hl hr => ⟨_,_,hl.disconnect hr,rfl⟩)
    exact ⟨_,congrArg (Option.map _) hcall,ha⟩

theorem Fit.init : Fit [] {} where
  tenants _ _ h := nomatch h
  segments := ⟨{},none,.init,rfl,fun id => by simp⟩

end Namespaces

end run

/-- The ports and target ports that a service asks for. -/
def Proto.ServiceSpec.asked (svc : Proto.ServiceSpec) : List (Nat × Nat) :=
  svc.ports.map (fun p => (p.port,if p.targetPort = 0 then p.port else p.targetPort))

def sampleService (port : Nat) : Proto.ServiceSpec := ⟨"web",none,[⟨port,0,none⟩],0,0,0⟩

def sampleSpec (subnet : String) (port : Nat) : Proto.NamespaceSpec :=
  ⟨some subnet,[("web",⟨none,Namespace.sampleWorkload⟩)],[("http",sampleService port)]⟩

end Distvirt.Grpc
