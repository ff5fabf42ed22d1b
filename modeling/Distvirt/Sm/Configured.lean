import Distvirt.Sm.NsWrites
import Distvirt.SmRouter.Sustained

/-! Workloads and services live as long as a management port configures them. -/

namespace Distvirt

namespace Ns
open SmRouter

/-- What a machine handles, whether it was delivered as an input or sent as an event. -/
abbrev InputOf : SmKind → Type
  | .service => ServiceInput
  | .workload => WorkloadInput
  | .pod => PodInput
  | .endpoint => EndpointInput

def delivered : (b : Batch) → Out b → InputOf (batchNode b)
  | .demandInput,v => WorkloadInput.demandInput v
  | .specInput,v => WorkloadInput.specInput v
  | .podStatusInput,v => WorkloadInput.podStatusInput v
  | .podWorkerInput,v => WorkloadInput.podWorkerInput v
  | .artifactInput,v => WorkloadInput.artifactInput v
  | .svcSpecInput,v => ServiceInput.svcSpecInput v
  | .configInput,v => EndpointInput.configInput v
  | .readinessInput,v => EndpointInput.readinessInput v
  | .placementInput,v => EndpointInput.placementInput v
  | .backendNeedInput,v => EndpointInput.backendNeedInput v
  | .workerInput,v => PodInput.workerInput v
  | .ownerInput,v => PodInput.ownerInput v
  | .launchSpecInput,v => PodInput.launchSpecInput v
  | .leaseInput,v => PodInput.leaseInput v

def sent : (ev : Event) → Payload ev → InputOf (receiver ev)
  | .adminCommand,v => WorkloadInput.adminCommand v
  | .workloadTimerFired,v => WorkloadInput.workloadTimerFired v
  | .activateService,v => ServiceInput.activateService v
  | .activateEndpoint,v => EndpointInput.activateEndpoint v
  | .endpointTimerFired,v => EndpointInput.endpointTimerFired v
  | .endpointDemandTraffic,_ => EndpointInput.endpointDemandTraffic
  | .notifyPodStatus,v => PodInput.notifyPodStatus v
  | .notifyPodSuspended,v => PodInput.notifyPodSuspended v
  | .podTimerFired,v => PodInput.podTimerFired v

def runMachine : (k : SmKind) → Nat → schema.IdAlloc → State k → InputOf k → schema.Reaction k
  | .service,id,alloc,s,i => runService id alloc s (·.handle i)
  | .workload,id,alloc,w,i => runWorkload id alloc w (·.handle i)
  | .pod,_,alloc,p,i => runPod alloc p (·.handle i)
  | .endpoint,_,alloc,e,i => runEndpoint alloc e (·.handle i)

theorem onInput_eq {id : Nat} :
    onInput b v id alloc s = runMachine (batchNode b) id alloc s (delivered b v) := by
  cases b <;> rfl

theorem onEvent_eq {id : Nat} :
    onEvent ev v id alloc s = runMachine (receiver ev) id alloc s (sent ev v) := by
  cases ev <;> rfl

/-- Workloads and services are on one side, pods and endpoints on the other. -/
def side : SmKind → Bool
  | .service | .workload => true
  | .pod | .endpoint => false

variable {id : Nat}

/-- Machines create pods and endpoints. -/
theorem creates_ne (hk : side k' = true) :
    ∀ c ∈ (runMachine k id alloc sm i).effects.creates, c.kind ≠ k' := by
  rintro c h rfl
  cases k with
  | service =>
    obtain ⟨c,_,rfl⟩ := List.mem_map.mp h
    cases hk
  | workload =>
    obtain ⟨c,hm,rfl⟩ := List.mem_map.mp h
    cases c <;> cases hk
  | pod => cases h
  | endpoint => cases h

theorem init_creates : (onInit k id alloc sm).effects.creates = [] := by
  cases k <;> rfl

theorem init_sustained {c : topology.PendingCreate} :
    (∀ c' ∈ (onInit c.kind c.id alloc c.state).effects.creates, c'.kind ≠ k') ∧
    (c.kind = k' → (onInit c.kind c.id alloc c.state).effects.selfDestruct = false) := by
  refine ⟨fun c' hc => ?_,fun _ => ?_⟩
  · rw [init_creates] at hc
    cases hc
  · obtain ⟨k,i,state⟩ := c
    cases k <;> rfl

/-- Only a spec input ends a workload. -/
theorem workload_stays {w : WorkloadSm} {i : WorkloadInput} (h : ∀ spec, i ≠ .specInput spec) :
    (runMachine .workload id alloc w i).effects.selfDestruct = false :=
  (WorkloadTurn.stays_handle h).2

theorem sustained_workload :
    Router.Sustained (T := topology) (base n) Batch.specInput (fun v => v ≠ none) where
  init _ _ _ := init_sustained
  input b' v id alloc sm := by
    rw [show topology.onInput b' v id alloc sm = _ from onInput_eq]
    refine ⟨creates_ne rfl,fun hk hb => ?_⟩
    cases b' with
    | specInput => exact absurd rfl hb
    | demandInput | podStatusInput | podWorkerInput | artifactInput =>
      exact workload_stays (by simp [delivered])
    | _ => cases hk
  event ev v id alloc sm := by
    rw [show topology.onEvent ev v id alloc sm = _ from onEvent_eq]
    refine ⟨creates_ne rfl,fun hk => ?_⟩
    cases ev with
    | adminCommand | workloadTimerFired => exact workload_stays (by simp [sent])
    | _ => cases hk
  fed v id alloc sm hv := by
    cases v with
    | none => exact absurd rfl hv
    | some spec =>
      obtain ⟨m,spec⟩ := spec
      show ((sm.begin id _ _).handle (.specInput (some (m,spec)))).selfDestruct = false
      exact WorkloadTurn.stays_handleSpec.2
  starved r v v' id sm hr hsm hv hgood hbad := by
    have hspec : sm.hasSpec = true := by
      refine (hr.node SmKind.workload id sm hsm).1.trans ?_
      have : told (r.nodeView SmKind.workload id sm) = some v := hv
      rw [this]
      exact Option.isSome_iff_ne_none.mpr hgood
    cases v' with
    | some _ => exact absurd (Option.some_ne_none _) hbad
    | none => exact WorkloadTurn.ends_handleSpec hspec

theorem sustained_service :
    Router.Sustained (T := topology) (base n) Batch.svcSpecInput (fun v => v ≠ none) where
  init _ _ _ := init_sustained
  input b' v id alloc sm := by
    rw [show topology.onInput b' v id alloc sm = _ from onInput_eq]
    refine ⟨creates_ne rfl,fun hk hb => ?_⟩
    cases b' with
    | svcSpecInput => exact absurd rfl hb
    | _ => cases hk
  event ev v id alloc sm := by
    rw [show topology.onEvent ev v id alloc sm = _ from onEvent_eq]
    refine ⟨creates_ne rfl,fun hk => ?_⟩
    cases ev with
    | activateService =>
      obtain ⟨endpointId⟩ := sm
      cases endpointId <;> rfl
    | _ => cases hk
  fed v id alloc sm hv := by
    obtain ⟨endpointId⟩ := sm
    cases v with
    | none => exact absurd rfl hv
    | some spec => cases endpointId <;> rfl
  starved r v v' id sm _ _ _ _ hbad := by
    cases v' with
    | some _ => exact absurd (Option.some_ne_none _) hbad
    | none => rfl

end Ns

end Distvirt
