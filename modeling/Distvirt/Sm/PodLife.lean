import Distvirt.Runs
import Distvirt.Sm.Pod

/-! The life of a pod, from its creation to its destruction, under any inputs. -/

namespace Distvirt

open PodTurn

def PodStatus.rank : PodStatus → Nat
  | .pending => 0
  | .running => 1
  | .suspending => 2
  | _ => 3

/-- A pod with what it has published, the workers whose leases it was offered while pending, and
whether it has asked for its destruction. -/
structure PodLife where
  pod : PodSm
  status : PodStatus := .pending
  wantedTimers : List (TimerRequest PodTimerKey) := []
  placementEdges : List WorkerId := []
  granted : List WorkerId := []
  destroyed : Bool := false
deriving DecidableEq

namespace PodLife

def publish (l : PodLife) (t : PodTurn) : PodLife :=
  { l with
    pod := t.toPodSm
    status := t.setStatus.getD l.status
    wantedTimers := t.setWantedTimers.getD l.wantedTimers
    placementEdges := t.setPodPlacementEdges.getD l.placementEdges
    destroyed := l.destroyed || t.selfDestruct }

def create (artifact : Option ArtifactPortId) : PodLife :=
  let pod := artifact.elim .new .newFromArtifact
  publish { pod } pod.begin.onInit

def grants (p : PodSm) : PodInput → List WorkerId
  | .leaseInput (some info) => if p.status = .pending then [info.workerId] else []
  | _ => []

/-- No input reaches a pod that is destroyed. -/
def step (l : PodLife) (input : PodInput) : Option PodLife :=
  if l.destroyed then none
  else some (publish { l with granted := l.granted ++ grants l.pod input } (l.pod.begin.handle input))

/-- What is published is that of the stored status. -/
structure Current (l : PodLife) : Prop where
  status : l.status = l.pod.status
  timers : l.wantedTimers = l.pod.wantedTimers
  placement : ∀ w ∈ l.placementEdges, w ∈ l.granted
  destroyed : l.destroyed = (l.pod.status.isTerminal && l.pod.workloadId.isNone)

end PodLife

namespace PodSm

/-- The status stays or moves forward. -/
structure Forward (p p' : PodSm) : Prop where
  order : p'.status = p.status ∨ p.status.rank < p'.status.rank
  suspended : ∀ artifact, p'.status = .suspended artifact →
    p.status = .suspended artifact ∨ p.status = .suspending
  suspending : p'.status = .suspending →
    p.status = .suspending ∨ p.status = .running ∧ p'.intent = .suspend

/-- A turn of a pod that is not to be destroyed yet. It publishes a status and timers when they
change, asks for destruction when that is due and is placed on the worker of a lease. -/
structure Turned (p : PodSm) (leased : List WorkerId) (t : PodTurn) : Prop
    extends Forward p t.toPodSm where
  status : t.setStatus.getD p.status = t.status
  timers : t.setWantedTimers.getD p.wantedTimers = t.toPodSm.wantedTimers
  placement : ∀ w ∈ t.setPodPlacementEdges.getD [], w ∈ leased
  reaped : t.selfDestruct = (t.status.isTerminal && t.workloadId.isNone)

variable {p : PodSm} {t : PodTurn}

theorem nowhere {leased : List WorkerId} : ∀ w ∈ (none : Option (List WorkerId)).getD [], w ∈ leased :=
  fun _ hw => absurd hw List.not_mem_nil

theorem maybeReap_eq (hd : t.selfDestruct = false) :
    t.maybeReap = { t with selfDestruct := t.status.isTerminal && t.workloadId.isNone } := by
  unfold maybeReap
  cases hdue : t.status.isTerminal && t.workloadId.isNone with
  | true => rfl
  | false =>
    change t = _
    rw [← hd]

/-- A turn that leaves the status alone. -/
theorem Turned.still (hs : t.status = p.status) (hg : t.timerGeneration = p.timerGeneration)
    (hstatus : t.setStatus = none) (htimers : t.setWantedTimers = none)
    (hp : ∀ w ∈ t.setPodPlacementEdges.getD [], w ∈ leased)
    (hd : t.selfDestruct = (t.status.isTerminal && t.workloadId.isNone)) : Turned p leased t where
  order := .inl hs
  suspended artifact h := .inl (hs ▸ h)
  suspending h := .inl (hs ▸ h)
  status := by simp [hstatus,hs]
  timers := by simp [htimers,wantedTimers,hs,hg]
  placement := hp
  reaped := hd

/-- A live pod ends. -/
theorem Turned.ended (hlive : p.status.isTerminal = false) (hd : t.selfDestruct = false)
    (hp : t.setPodPlacementEdges.getD [] = []) (hterminal : s.isTerminal = true)
    (hsuspended : ∀ artifact, s = .suspended artifact → p.status = .suspending) :
    Turned p leased (t.moveTo s).maybeReap := by
  have hrank : p.status.rank < s.rank := by
    revert hlive hterminal
    cases p.status <;> cases s <;> simp [PodStatus.rank,PodStatus.isTerminal]
  rw [maybeReap_eq (t := t.moveTo s) hd]
  refine ⟨⟨.inr hrank,fun a h => .inr (hsuspended a h),fun h => ?_⟩,rfl,rfl,fun w hw => ?_,rfl⟩
  · cases (congrArg PodStatus.isTerminal h).symm.trans hterminal
  · cases hp ▸ hw

theorem handleOwner_turned : Turned p leased (p.begin.handleOwner owner) := by
  cases owner with
  | none =>
    simp only [handleOwner,reduceCtorEq,and_false,↓reduceIte]
    split
    · rename_i hlive
      simp only [Bool.and_eq_true,Bool.not_eq_true'] at hlive
      exact .ended hlive.2 rfl rfl rfl (fun _ h => by cases h)
    · rw [maybeReap_eq rfl]
      exact .still rfl rfl rfl rfl nowhere rfl
  | some owner =>
    obtain ⟨wl,intent⟩ := owner
    simp only [handleOwner]
    split
    · rename_i h
      have hs : p.status = .running := h.1
      rw [if_neg (by simp [updateTimerSignal]),maybeReap_eq rfl]
      refine ⟨⟨.inr ?_,fun _ h => ?_,fun _ => .inr h⟩,rfl,rfl,nowhere,rfl⟩
      · rw [hs]
        exact Nat.lt_add_one 1
      · cases h
    · rw [if_neg (by simp),maybeReap_eq rfl]
      exact .still rfl rfl rfl rfl nowhere rfl

section due

variable (hstill : Turned p leased p.begin)
include hstill

theorem handleWorker_turned : Turned p leased (p.begin.handleWorker worker) := by
  have hdue := hstill.reaped
  simp only [handleWorker]
  split <;> split <;> rename_i hlive
  · simp only [Bool.and_eq_true,Bool.not_eq_true'] at hlive
    exact .ended hlive.2 rfl rfl rfl (fun _ h => by cases h)
  · exact .still rfl rfl rfl rfl nowhere hdue
  · simp only [Bool.and_eq_true,Bool.not_eq_true'] at hlive
    exact .ended hlive.2 rfl rfl rfl (fun _ h => by cases h)
  · exact hstill

theorem handleStatus_turned (status : PodStatus) :
    Turned p leased (p.begin.handle (.notifyPodStatus status)) := by
  simp only [handle]
  split
  · rename_i haccept
    simp only [acceptsStatus,Bool.and_eq_true,Bool.not_eq_true'] at haccept
    obtain ⟨hlive,haccept⟩ := haccept
    cases status with
    | running =>
      have hs : p.status = .pending := of_decide_eq_true haccept
      rw [maybeReap_eq rfl]
      refine ⟨⟨.inr ?_,fun _ h => ?_,fun h => ?_⟩,rfl,rfl,nowhere,rfl⟩
      · rw [hs]
        exact Nat.lt_add_one 0
      · cases h
      · cases h
    | failed => exact .ended hlive rfl rfl rfl (fun _ h => by cases h)
    | finished => exact .ended hlive rfl rfl rfl (fun _ h => by cases h)
    | _ => cases haccept
  · exact hstill

theorem handleTimer_turned : Turned p leased (p.begin.handleTimer key) := by
  cases key <;> simp only [handleTimer] <;> split
  · rename_i hs
    exact .ended (congrArg _ hs) rfl rfl rfl (fun _ h => by cases h)
  · exact hstill
  · rename_i hs
    exact .ended (congrArg _ hs) rfl rfl rfl (fun _ h => by cases h)
  · exact hstill

end due

theorem handle_turned (input : PodInput)
    (hdue : (p.status.isTerminal && p.workloadId.isNone) = false) :
    Turned p (PodLife.grants p input) (p.begin.handle input) := by
  have hstill : Turned p (PodLife.grants p input) p.begin := .still rfl rfl rfl rfl nowhere hdue.symm
  cases input with
  | launchSpecInput spec =>
    simp only [handle]
    split
    · exact .still rfl rfl rfl rfl nowhere hdue.symm
    · exact hstill
  | ownerInput owner => exact handleOwner_turned
  | workerInput worker => exact handleWorker_turned hstill
  | notifyPodStatus status => exact handleStatus_turned hstill status
  | notifyPodSuspended artifact =>
    simp only [handle]
    split
    · rename_i hs
      exact .ended (congrArg _ hs) rfl rfl rfl (fun _ _ => hs)
    · exact hstill
  | leaseInput lease =>
    cases lease <;> simp only [handle,handleLease] <;> split
    · rename_i h
      simp only [Bool.and_eq_true,Bool.not_eq_true'] at h
      exact .ended h.2 rfl rfl rfl (fun _ h => by cases h)
    · exact hstill
    · rename_i h
      have hs : p.status = .pending := h.2
      exact .still rfl rfl rfl rfl (by simp [PodLife.grants,hs]) hdue.symm
    · exact hstill
  | podTimerFired key => exact handleTimer_turned hstill

/-- A timer, or a worker's report about the pod. -/
def late : PodInput → Bool
  | .podTimerFired _ | .notifyPodStatus _ | .notifyPodSuspended _ => true
  | _ => false

theorem handle_late (hend : p.status.isTerminal = true) (hlate : late input = true) :
    p.begin.handle input = p.begin := by
  have hne : ∀ s : PodStatus, s.isTerminal = false → p.status ≠ s := by
    intro s hs heq
    cases hs.symm.trans (heq ▸ hend)
  cases input with
  | podTimerFired key => cases key <;> exact if_neg (hne _ rfl)
  | notifyPodStatus status => exact if_neg (by simp [acceptsStatus,begin,hend])
  | notifyPodSuspended artifact => exact if_neg (hne _ rfl)
  | _ => cases hlate

end PodSm

namespace PodLife

open PodSm

variable {l l' : PodLife}

theorem Current.create : (create artifact).Current := by
  cases artifact <;> exact ⟨rfl,rfl,nowhere,rfl⟩

theorem step_current (h : l.Current) (hs : l.step input = some l') :
    l'.Current ∧ Forward l.pod l'.pod ∧
      (l.pod.status.isTerminal = true → late input = true → l' = l) := by
  unfold step at hs
  split at hs
  · cases hs
  · rename_i hd
    cases hs
    have hd := Bool.eq_false_iff.mpr hd
    have ht := handle_turned input (h.destroyed.symm.trans hd)
    refine ⟨⟨?_,?_,fun w hw => ?_,?_⟩,ht.toForward,fun hend hlate => ?_⟩
    · exact h.status ▸ ht.status
    · exact h.timers ▸ ht.timers
    · change w ∈ Option.getD _ l.placementEdges at hw
      cases he : (l.pod.begin.handle input).setPodPlacementEdges with
      | none => exact List.mem_append_left _ (h.placement w (by simpa [he] using hw))
      | some ws => exact List.mem_append_right _ (ht.placement w (by simpa [he] using hw))
    · exact (congrArg (· || _) hd).trans ht.reaped
    · rw [handle_late hend hlate]
      have hgrants : grants l.pod input = [] := by cases input <;> first | rfl | cases hlate
      simp [hgrants,publish,begin]

/-- A pod's status only moves forward, what it has published is that of its status, and it asks for
its destruction exactly when it has ended and nobody owns it. What comes late changes nothing. -/
theorem life_forward (artifact : Option ArtifactPortId) (inputs : List PodInput)
    (hr : Runs.run step (create artifact) inputs = some l) :
    l.Current ∧ ∀ input l', l.step input = some l' → Forward l.pod l'.pod ∧
      (l.pod.status.isTerminal = true → late input = true → l' = l) := by
  have hcurrent := Runs.run_keeps (I := Current) (fun _ _ _ h hs => (step_current h hs).1) .create hr
  exact ⟨hcurrent,fun input l' hs => (step_current hcurrent hs).2⟩

/-- A pod that is launched, suspended and given up. -/
def suspension : List PodInput :=
  [.ownerInput (some (1,.want)),.leaseInput (some ⟨7⟩),.workerInput (some (7,⟨1,none⟩)),
    .notifyPodStatus .running,.ownerInput (some (1,.suspend)),.notifyPodSuspended 3,.ownerInput none]

theorem suspension_forward : ∃ l, Runs.run step (create none) suspension = some l ∧ l.Current := by
  have hsome : (Runs.run step (create none) suspension).isSome = true := by decide +kernel
  obtain ⟨l,hl⟩ := Option.isSome_iff_exists.mp hsome
  exact ⟨l,hl,(life_forward none suspension hl).1⟩

end PodLife

end Distvirt
