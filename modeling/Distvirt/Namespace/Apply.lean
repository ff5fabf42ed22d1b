import Distvirt.Namespace.Process
import Distvirt.Namespace.Resolve

/-! Spec changes: release the addresses of removed resources, allocate those of the requested
ones, hand the resolved spec to the management adapter and run a cycle. -/

namespace Distvirt
open Std (ExtTreeMap)

structure IpAllocResult where
  workloadIps : ExtTreeMap String IpAllocation
  serviceIps : ExtTreeMap String IpAllocation

namespace NamespaceIpAllocator

def fullSnapshot (a : NamespaceIpAllocator) : IpAllocResult :=
  a.allocations.toList.foldl (fun result (key,offset,kind) =>
    let alloc : IpAllocation := ⟨a.offsetToIp offset,kind⟩
    match key with
    | .workload name => { result with workloadIps := result.workloadIps.insert name alloc }
    | .service name => { result with serviceIps := result.serviceIps.insert name alloc }) ⟨∅,∅⟩

end NamespaceIpAllocator

/-- The gateway and netmask of a pod's network are filled in when it is launched. -/
def WorkloadSpecInput.resolve (input : WorkloadSpecInput) (ip : Nat) : WorkloadSpec where
  containers := input.containers
  network := ⟨ip,ipToMac ip,0,""⟩
  suspendOnIdle := input.suspendOnIdle
  resources := input.resources
  activation := input.activation
  runPolicy := input.runPolicy
  respectsDemand := input.respectsDemand
  volumes := input.volumes

def ServiceSpecInput.resolve (input : ServiceSpecInput) (ip : Nat) : ServiceSpec where
  workloadId := input.workloadId
  ip := ip
  ports := input.ports
  hasActivation := input.hasActivation
  idleTimeout := input.idleTimeout
  bufferFrames := input.bufferFrames
  bufferTimeoutMs := input.bufferTimeoutMs

def workloadRequest (e : String × WorkloadSpecInput) : IpRequest := (.workload e.1,e.2.explicitIp)

def serviceRequest (e : String × ServiceSpecInput) : IpRequest := (.service e.1,e.2.explicitIp)

/-- The addresses a change asks for: workloads before services, each in the order of the names. -/
def ipRequests (workloads : ExtTreeMap String WorkloadSpecInput)
    (services : ExtTreeMap String ServiceSpecInput) : List IpRequest :=
  workloads.toList.map workloadRequest ++ services.toList.map serviceRequest

abbrev Resolved := List (String × WorkloadSpec) × List (String × ServiceSpec)

/-- `resolve_spec_input` and `resolve_patch_input` allocate alike. -/
def resolveInput (a : NamespaceIpAllocator) (workloads : ExtTreeMap String WorkloadSpecInput)
    (services : ExtTreeMap String ServiceSpecInput) :
    Except IpAllocError Resolved × NamespaceIpAllocator :=
  match a.resolveAll workloadRequest (fun e alloc => (e.1,e.2.resolve alloc.ip)) workloads.toList with
  | (.error e,a) => (.error e,a)
  | (.ok ws,a) =>
    match a.resolveAll serviceRequest (fun e alloc => (e.1,e.2.resolve alloc.ip)) services.toList with
    | (.error e,a) => (.error e,a)
    | (.ok ss,a) => (.ok (ws,ss),a)

variable {a : NamespaceIpAllocator} {workloads : ExtTreeMap String WorkloadSpecInput}
  {services : ExtTreeMap String ServiceSpecInput}

theorem resolveInput_allocateAll : (resolveInput a workloads services).2 =
      (a.allocateAll (ipRequests workloads services)).2 ∧
    ∀ e, (resolveInput a workloads services).1 = .error e ↔
      (a.allocateAll (ipRequests workloads services)).1 = some e := by
  obtain ⟨hs,he⟩ := NamespaceIpAllocator.resolveAll_allocateAll workloadRequest
    (fun e alloc => (e.1,e.2.resolve alloc.ip)) a workloads.toList
  rw [ipRequests,NamespaceIpAllocator.allocateAll_append,resolveInput]
  cases hw : a.resolveAll workloadRequest (fun e alloc => (e.1,e.2.resolve alloc.ip))
      workloads.toList with
  | mk res b =>
    rw [hw] at hs he
    cases ha : a.allocateAll (workloads.toList.map workloadRequest) with
    | mk err b' =>
      rw [ha] at hs he
      subst hs
      cases res with
      | error e =>
        have : err = some e := (he e).mp rfl
        subst this
        simp
      | ok ws =>
        have : err = none := by
          cases err with
          | none => rfl
          | some e => simpa using (he e).mpr rfl
        subst this
        obtain ⟨hs',he'⟩ := NamespaceIpAllocator.resolveAll_allocateAll serviceRequest
          (fun e alloc => (e.1,e.2.resolve alloc.ip)) b services.toList
        simp only
        cases hv : b.resolveAll serviceRequest (fun e alloc => (e.1,e.2.resolve alloc.ip))
            services.toList with
        | mk res b'' =>
          rw [hv] at hs' he'
          cases res with
          | error e | ok ss => exact ⟨hs',fun e' => by simpa using he' e'⟩

theorem resolveInput_valid (v : a.Valid) : (resolveInput a workloads services).2.Valid := by
  rw [resolveInput_allocateAll.1]
  exact v.allocateAll _

theorem ipRequests_nodup : ((ipRequests workloads services).map Prod.fst).Nodup := by
  have hw : (workloads.toList.map Prod.fst).Nodup := by
    have := workloads.nodup_keys
    simpa [ExtTreeMap.map_fst_toList_eq_keys] using this
  have hs : (services.toList.map Prod.fst).Nodup := by
    have := services.nodup_keys
    simpa [ExtTreeMap.map_fst_toList_eq_keys] using this
  simp only [ipRequests,List.map_append,List.map_map]
  refine List.nodup_append.mpr ⟨?_,?_,?_⟩
  · have : workloads.toList.map (Prod.fst ∘ workloadRequest) =
        (workloads.toList.map Prod.fst).map IpResourceKey.workload := by
      rw [List.map_map]
      rfl
    rw [this]
    exact hw.map (fun _ _ h => by cases h; rfl)
  · have : services.toList.map (Prod.fst ∘ serviceRequest) =
        (services.toList.map Prod.fst).map IpResourceKey.service := by
      rw [List.map_map]
      rfl
    rw [this]
    exact hs.map (fun _ _ h => by cases h; rfl)
  · intro k hk k' hk'
    obtain ⟨e,_,rfl⟩ := List.mem_map.mp hk
    obtain ⟨e',_,rfl⟩ := List.mem_map.mp hk'
    simp [workloadRequest,serviceRequest]

namespace Namespace

/-- The resources of the current spec that a full spec no longer names. -/
def removedKeys (current : Option NamespaceSpec) (input : NamespaceSpecInput) :
    List IpResourceKey :=
  match current with
  | none => []
  | some spec =>
    (spec.workloads.keys.filter (fun name => name ∉ input.workloads)).map IpResourceKey.workload ++
    (spec.services.keys.filter (fun name => name ∉ input.services)).map IpResourceKey.service

def patchRemovedKeys (input : NamespacePatchInput) : List IpResourceKey :=
  input.removeWorkloads.map IpResourceKey.workload ++
  input.removeServices.map IpResourceKey.service

abbrev Applied := Except ClientError (NamespaceEffects × IpAllocResult) × Namespace

/-- Hands a resolved spec to the management adapter and runs the cycle. -/
def installSpec (fuel : Nat) (ns : Namespace) (spec : NamespaceSpec) : Except Fault Applied := do
  let (management,router) :=
    ManagementAdapter.applyNamespaceSpec (ns.management,ns.router) ns.currentSpec spec
  let (ns,effects) ← { ns with management, router, currentSpec := some spec }.runCycle fuel {}
  return (.ok (effects,ns.ipAllocator.fullSnapshot),ns)

/-- The allocator is changed in place: on an error the caller keeps the namespace with the
allocator as it is at that point. -/
def withRequests (ns : Namespace) (rel : List IpResourceKey)
    (workloads : ExtTreeMap String WorkloadSpecInput)
    (services : ExtTreeMap String ServiceSpecInput) : Except IpAllocError Resolved × Namespace :=
  let result := resolveInput (ns.ipAllocator.releaseAll rel) workloads services
  (result.1,{ ns with
    ipAllocator := result.2
    ipValid := resolveInput_valid (ns.ipValid.releaseAll rel) })

def applyFullSpec (fuel : Nat) (ns : Namespace) (input : NamespaceSpecInput) :
    Except Fault Applied :=
  match ns.withRequests (removedKeys ns.currentSpec input) input.workloads input.services with
  | (.error e,ns) => .ok (.error (.ipAllocation e),ns)
  | (.ok (ws,ss),ns) =>
    ns.installSpec fuel ⟨input.network,.ofList ws,.ofList ss⟩

def applyPatch (fuel : Nat) (ns : Namespace) (input : NamespacePatchInput) :
    Except Fault Applied :=
  match ns.currentSpec with
  | none => .ok (.error .namespaceNotFound,ns)
  | some current =>
    match ns.withRequests (patchRemovedKeys input) input.workloads input.services with
    | (.error e,ns) => .ok (.error (.ipAllocation e),ns)
    | (.ok (ws,ss),ns) =>
      ns.installSpec fuel
        { network := current.network
          workloads := ws.foldl (fun m e => m.insert e.1 e.2)
            (input.removeWorkloads.foldl ExtTreeMap.erase current.workloads)
          services := ss.foldl (fun m e => m.insert e.1 e.2)
            (input.removeServices.foldl ExtTreeMap.erase current.services) }

/-- An application that returns an error leaves the namespace as it was. -/
def Atomic (ns : Namespace) (result : Except Fault Applied) : Prop :=
  ∀ e ns', result = .ok (.error e,ns') → ns' = ns

/-- The requests of a change can all be granted, or the first that cannot comes after
everything that was released has been put back. -/
def Safe (ns : Namespace) (rel : List IpResourceKey)
    (workloads : ExtTreeMap String WorkloadSpecInput)
    (services : ExtTreeMap String ServiceSpecInput) : Prop :=
  ns.ipAllocator.Fits rel (ipRequests workloads services) ∨
    ns.ipAllocator.Restores rel (ipRequests workloads services)

variable {ns : Namespace} {fuel : Nat}

theorem installSpec_not_error (spec : NamespaceSpec) :
    ns.installSpec fuel spec ≠ .ok (.error e,ns') := by
  intro h
  simp only [installSpec,bind,Except.bind,pure,Except.pure] at h
  split at h
  · cases h
  · simp at h

/-- A namespace that differs in the allocator only is the same if the allocator is. -/
theorem withRequests_eq_iff : (ns.withRequests rel workloads services).2 = ns ↔
    ((ns.ipAllocator.releaseAll rel).allocateAll (ipRequests workloads services)).2 =
      ns.ipAllocator := by
  rw [← resolveInput_allocateAll.1]
  constructor
  · intro h
    exact congrArg Namespace.ipAllocator h
  · intro h
    cases ns
    simp only [withRequests] at h ⊢
    simp only [h]

theorem safe_iff : ns.Safe rel workloads services ↔
    ∀ err, (ns.withRequests rel workloads services).1 = .error err →
      (ns.withRequests rel workloads services).2 = ns := by
  rw [Safe,← ns.ipValid.unchanged_iff ipRequests_nodup]
  simp only [withRequests_eq_iff]
  have herr : ∀ err, (ns.withRequests rel workloads services).1 = .error err ↔
      ((ns.ipAllocator.releaseAll rel).allocateAll (ipRequests workloads services)).1 = some err :=
    fun err => resolveInput_allocateAll.2 err
  simp only [herr]
  constructor
  · exact fun h err he => h err _ (Prod.ext he rfl)
  · intro h err b hb
    have := h err (by rw [hb])
    rw [hb] at this
    exact this

theorem apply_atomic_iff (fuel : Nat) (ns : Namespace) :
    (∀ input, ns.Atomic (ns.applyFullSpec fuel input) ↔
      ns.Safe (removedKeys ns.currentSpec input) input.workloads input.services) ∧
    (∀ input, ns.Atomic (ns.applyPatch fuel input) ↔ ns.currentSpec = none ∨
      ns.Safe (patchRemovedKeys input) input.workloads input.services) := by
  constructor
  · intro input
    rw [safe_iff,applyFullSpec]
    cases hw : ns.withRequests (removedKeys ns.currentSpec input) input.workloads input.services with
    | mk res ns₁ =>
      cases res with
      | error err => simp [Atomic]
      | ok specs => simp [Atomic,installSpec_not_error]
  · intro input
    rw [safe_iff,applyPatch]
    cases hc : ns.currentSpec with
    | none => simp [Atomic]
    | some current =>
      cases hw : ns.withRequests (patchRemovedKeys input) input.workloads input.services with
      | mk res ns₁ =>
        cases res with
        | error err => simp [Atomic]
        | ok specs => simp [Atomic,installSpec_not_error]

/-- What drives a namespace: messages, timers of its wheel, and spec changes. -/
inductive Op where
  | event (event : OrchestratorToNamespace)
  | timer (identity : TimerIdentity)
  | fullSpec (input : NamespaceSpecInput)
  | patch (input : NamespacePatchInput)

/-- A rejected spec change has no effects. -/
def ofApplied : Applied → Namespace × NamespaceEffects
  | (.ok (effects,_),ns) => (ns,effects)
  | (.error _,ns) => (ns,{})

def step (fuel : Nat) (ns : Namespace) : Op → Except Fault (Namespace × NamespaceEffects)
  | .event event => ns.processEvent fuel event
  | .timer identity => ns.fireTimer fuel identity
  | .fullSpec input => (ns.applyFullSpec fuel input).map ofApplied
  | .patch input => (ns.applyPatch fuel input).map ofApplied

/-- The effects of each step are kept apart. -/
def run (fuel : Nat) (ns : Namespace) : List Op → Except Fault (Namespace × List NamespaceEffects)
  | [] => .ok (ns,[])
  | op :: ops => do
    let (ns,effects) ← ns.step fuel op
    let (ns,rest) ← ns.run fuel ops
    return (ns,effects :: rest)

/-- A namespace on 172.16.0.0/24, and specs and workers for the runs below. -/
def sample : Namespace := new ⟨"demo",1⟩ ⟨0xac100000,0xac100001,24⟩

def sampleWorkload : WorkloadSpecInput := ⟨none,[],false,none,none,.service,false,[]⟩

def sampleSpec (workloads : List (String × WorkloadSpecInput))
    (services : List (String × ServiceSpecInput)) : NamespaceSpecInput :=
  ⟨⟨0xac100000,0xac100001,24⟩,.ofList workloads,.ofList services⟩

/-- The spec that replaces `a` by `b` is rejected, since the address asked for is the gateway;
`a` is still in the current spec but its address is released. -/
theorem failed_spec_releases :
    let before : List Op := [.fullSpec (sampleSpec [("a",sampleWorkload)] [])]
    let rejected : Op := .fullSpec
      (sampleSpec [("b",{ sampleWorkload with explicitIp := some 0xac100001 })] [])
    let view := fun (r : Namespace × List NamespaceEffects) =>
      (r.1.currentSpec.map (fun spec => spec.workloads.keys),r.1.ipAllocator.held (.workload "a"))
    (sample.run 1 before).map view = .ok (some ["a"],some 0xac100002) ∧
    (sample.run 1 (before ++ [rejected])).map view = .ok (some ["a"],none) := by
  decide +kernel

end Namespace

end Distvirt
