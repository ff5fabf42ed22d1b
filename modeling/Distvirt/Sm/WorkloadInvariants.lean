import Distvirt.Runs
import Distvirt.Sm.Workload

/-! What a workload keeps under any sequence of inputs: its edges and its reports say what its fields
say, and it launches at most one pod for an input, after it has given up the one it held. -/

namespace Distvirt

open WorkloadTurn

/-- A workload with what the rest of the namespace sees of it. -/
structure PublishedWorkload where
  workload : WorkloadSm
  owned : List PodId
  status : WlStatus
  failures : Nat
  stale : Bool
  timers : List (TimerRequest WorkloadTimerKey)
deriving DecidableEq

/-- The inputs with which a workload gives up the pod it holds, or can do so. -/
def WorkloadSm.Releases (w : WorkloadSm) : WorkloadInput → Prop
  | .specInput (some spec) =>
    w.currentPodSpec ≠ some spec.2.podSpec ∧ (w.podRunning = true ∨ w.holdsRetainedPod = true) ∨
      w.awaitingSuspend = true ∧ spec.2.config.suspendOnIdle = false
  | .specInput none => w.hasSpec = true
  -- the pod is gone, or it runs a spec that is no longer the current one
  | .podStatusInput statuses =>
    statuses = [] ∨ (suspendedArtifact statuses).isSome = true ∨ (failure statuses).isSome = true ∨
      .displaced ∈ statuses ∨ (finish statuses).isSome = true ∨
      .running ∈ statuses ∧ w.launchedWithSpecVersion ≠ w.specVersion
  | .adminCommand _ => True
  | .workloadTimerFired .retryBackoff => w.inBackoff = true
  | _ => False

namespace WorkloadTurn

/-- What a turn leaves behind, its reports apart. -/
def outcome (t : WorkloadTurn) : WorkloadSm × Option (List PodId) × List WorkloadCreate :=
  (t.toWorkloadSm,t.setPodOwnershipEdges,t.creates)

/-- The pods that a turn creates. -/
def pods (t : WorkloadTurn) : List (PodId × PodSm) :=
  t.creates.filterMap (fun
    | .pod id pod => some (id,pod)
    | .endpoint _ _ => none)

/-- A turn of the workload `v` that has created `made` and holds no pod only if it `may`. -/
structure Held (v : PublishedWorkload) (may : Prop) (made : List (PodId × PodSm))
    (t : WorkloadTurn) : Prop where
  edges : t.setPodOwnershipEdges.getD v.owned = t.podId.toList
  done : t.completed = true → t.runPolicy = .job ∧ t.podId = none
  made : t.pods = made
  bare : t.podId = none → may

structure Fair (v : PublishedWorkload) (may : Prop) (made : List (PodId × PodSm))
    (t : WorkloadTurn) : Prop extends Held v may made t where
  fresh : t.artifactPort.isSome = true → t.specVersion = t.launchedWithSpecVersion
  /-- An artifact is not confirmed with the input that brings it. -/
  kept : t.artifactPort.isSome = true → t.artifactConfirmed = true →
    t.artifactPort = v.workload.artifactPort ∧ t.specVersion = v.workload.specVersion

variable {v : PublishedWorkload} {may : Prop} {made : List (PodId × PodSm)} {t : WorkloadTurn}

theorem fair_ite [Decidable c] (h : Fair v may made t) (h' : Fair v may made t') :
    Fair v may made (if c then t else t') := by
  split
  · exact h
  · exact h'

theorem Held.disownPod (h : Held v may made t) (hm : may) : Held v may made t.disownPod where
  edges := rfl
  done hc := ⟨(h.done hc).1,rfl⟩
  made := h.made
  bare _ := hm

theorem Fair.disownPod (h : Fair v may made t) (hm : may) : Fair v may made t.disownPod :=
  { h.toHeld.disownPod hm with fresh := h.fresh, kept := h.kept }

theorem Held.clearArtifactRef (h : Held v may made t) : Fair v may made t.clearArtifactRef := by
  unfold WorkloadTurn.clearArtifactRef
  split
  · exact { h with fresh := nofun, kept := nofun }
  · exact { h with fresh := fun hp => absurd hp ‹_›, kept := fun hp => absurd hp ‹_› }

theorem Held.destroyCurrentPod (h : Held v may made t) (hm : may) :
    Fair v may made t.destroyCurrentPod := by
  have disowned : Held v may made (if t.podId.isSome then t.disownPod else t) := by
    split
    · exact h.disownPod hm
    · exact h
  have cleared := Held.clearArtifactRef
    (t := { (if t.podId.isSome then t.disownPod else t) with awaitingSuspend := false })
    { disowned with }
  exact { cleared with }

theorem Fair.reapRetainedPod (h : Fair v may made t) (hm : may) :
    Fair v may made t.reapRetainedPod :=
  fair_ite (h.disownPod hm) h

theorem Fair.resetRetries (h : Fair v may made t) : Fair v may made t.resetRetries :=
  { h with done := nofun }

theorem Fair.configureEndpoint (h : Fair v may made t) (spec : Sm.WorkloadSpec) :
    Fair v may made (t.configureEndpoint spec) := by
  unfold WorkloadTurn.configureEndpoint
  split
  · exact h
  · split
    · exact { h with }
    · exact { h with made := by simpa [pods] using h.made }

theorem podRunning_clearArtifactRef (t : WorkloadTurn) :
    t.clearArtifactRef.podRunning = t.podRunning := by
  unfold WorkloadTurn.clearArtifactRef
  split <;> rfl

theorem Held.changePodSpec (h : Held v may made t)
    (hm : t.podRunning = true ∨ t.holdsRetainedPod = true → may) :
    Fair v may made t.changePodSpec := by
  have reaped : Held v may made ({ t with specVersion := t.specVersion + 1 } :
      WorkloadTurn).reapRetainedPod := by
    unfold reapRetainedPod
    split
    · rename_i hr
      exact { h.disownPod (hm (.inr hr)) with }
    · exact { h with }
  have running : ({ t with specVersion := t.specVersion + 1 } :
      WorkloadTurn).reapRetainedPod.podRunning = t.podRunning := by
    unfold reapRetainedPod
    split <;> rfl
  have cleared := Held.clearArtifactRef (t := { ({ t with specVersion := t.specVersion + 1 } :
      WorkloadTurn).reapRetainedPod with
    consecutiveFailures := 0
    restartCount := 0
    inBackoff := false
    completed := false }) { reaped with done := nofun }
  unfold WorkloadTurn.changePodSpec
  dsimp only
  split
  · rename_i hr
    rw [podRunning_clearArtifactRef] at hr
    exact cleared.destroyCurrentPod (hm (.inl (running.symm.trans hr)))
  · exact cleared

theorem suspension_changePodSpec (t : WorkloadTurn) :
    t.changePodSpec.suspendOnIdle = t.suspendOnIdle ∧
      (t.changePodSpec.awaitingSuspend = true → t.awaitingSuspend = true) := by
  unfold WorkloadTurn.changePodSpec WorkloadTurn.destroyCurrentPod WorkloadTurn.clearArtifactRef
    WorkloadTurn.reapRetainedPod
  dsimp only
  repeat' split
  all_goals simp [WorkloadTurn.disownPod,WorkloadTurn.clearReadiness]

theorem Fair.stopSuspending (h : Fair v may made t) (hm : t.awaitingSuspend = true → may) :
    Fair v may made t.stopSuspending := by
  have stopped : Fair v may made (if t.awaitingSuspend then t.destroyCurrentPod else t) := by
    split
    · rename_i hs
      exact h.destroyCurrentPod (hm hs)
    · exact h
  exact stopped.clearArtifactRef

/-- What decides whether a new spec gives up the pod. -/
def grounds (t : WorkloadTurn) : Option PodSpec × Bool × Bool × Bool :=
  (t.currentPodSpec,t.podRunning,t.holdsRetainedPod,t.awaitingSuspend)

theorem grounds_configureEndpoint (t : WorkloadTurn) (spec : Sm.WorkloadSpec) :
    (t.configureEndpoint spec).grounds = t.grounds := by
  unfold WorkloadTurn.configureEndpoint
  repeat' split
  all_goals rfl

theorem Fair.applySpec (h : Fair v may made t) (spec : ManagementId × Sm.WorkloadSpec)
    (hm : t.toWorkloadSm.Releases (.specInput (some spec)) → may) :
    Fair v may made (t.applySpec spec.2) := by
  have addressed : Fair v may made ({ t with
      podIp := (spec.2.podSpec.network.map PodNetworkConfig.ip).getD 0 } : WorkloadTurn) :=
    { h with }
  have base := addressed.configureEndpoint spec.2
  have hg := grounds_configureEndpoint ({ t with
      podIp := (spec.2.podSpec.network.map PodNetworkConfig.ip).getD 0 } : WorkloadTurn) spec.2
  unfold WorkloadTurn.applySpec
  dsimp only
  generalize ({ t with podIp := (spec.2.podSpec.network.map PodNetworkConfig.ip).getD 0 } :
    WorkloadTurn).configureEndpoint spec.2 = u at base hg ⊢
  have configured : ∃ w : WorkloadTurn, w = (if u.runPolicy = .job ∧
      spec.2.config.runPolicy = .service ∧ u.completed then
        { u with
          respectsDemand := spec.2.config.respectsDemand
          suspendOnIdle := spec.2.config.suspendOnIdle
          runPolicy := spec.2.config.runPolicy
          completed := false }
      else
        { u with
          respectsDemand := spec.2.config.respectsDemand
          suspendOnIdle := spec.2.config.suspendOnIdle
          runPolicy := spec.2.config.runPolicy }) ∧
      Fair v may made w ∧ w.suspendOnIdle = spec.2.config.suspendOnIdle ∧ w.grounds = t.grounds := by
    refine ⟨_,rfl,?_⟩
    split
    · exact ⟨{ base with done := nofun },rfl,hg⟩
    · rename_i hc
      -- a completed job whose policy changes is no longer completed
      refine ⟨{ base with done := fun hd => ⟨?_,(base.done hd).2⟩ },rfl,hg⟩
      cases hp : spec.2.config.runPolicy with
      | job => rfl
      | service => exact absurd ⟨(base.done hd).1,hp,hd⟩ hc
  obtain ⟨w,hw,fair,hsuspend,hgrounds⟩ := configured
  rw [← hw]
  simp only [grounds,Prod.mk.injEq] at hgrounds
  obtain ⟨hspec,hrunning,hretained,hawaiting⟩ := hgrounds
  have finish : ∀ x : WorkloadTurn, Fair v may made x → x.suspendOnIdle = w.suspendOnIdle →
      (x.awaitingSuspend = true → w.awaitingSuspend = true) →
      Fair v may made (if u.suspendOnIdle && !x.suspendOnIdle then x.stopSuspending else x) := by
    intro x hx hidle hawait
    split
    · rename_i hc
      rw [Bool.and_eq_true,Bool.not_eq_true',hidle,hsuspend] at hc
      refine hx.stopSuspending (fun hs => hm (.inr ⟨?_,hc.2⟩))
      rw [← hawaiting]
      exact hawait hs
    · exact hx
  split
  · rename_i hc
    have changed := Held.changePodSpec
      (t := ({ w with currentPodSpec := some spec.2.podSpec } : WorkloadTurn)) { fair with }
      (fun hr => hm (.inl ⟨hspec ▸ hc.2,hrunning ▸ hretained ▸ hr⟩))
    obtain ⟨hidle,hawait⟩ := suspension_changePodSpec
      ({ w with currentPodSpec := some spec.2.podSpec } : WorkloadTurn)
    exact finish _ changed hidle hawait
  · exact finish _ { fair with } rfl id

/-- A turn that comes from a fair one, which has created no pod yet and reconciles at most once. -/
def Ends (v : PublishedWorkload) (may : Prop) (t : WorkloadTurn) : Prop :=
  ∃ m, Fair v may [] m ∧ (t.outcome = m.outcome ∨ t.outcome = m.reconcile.outcome)

theorem Fair.stops (h : Fair v may [] t) : Ends v may t := ⟨t,h,.inl rfl⟩

theorem Fair.reconciles (h : Fair v may [] t) : Ends v may t.reconcile := ⟨t,h,.inr rfl⟩

theorem ends_ite [Decidable c] (h : Ends v may t) (h' : Ends v may t') :
    Ends v may (if c then t else t') := by
  split
  · exact h
  · exact h'

theorem Fair.onPodSuspended (h : Fair v may [] t) (hm : may) (artifactId : ArtifactPortId) :
    Ends v may (t.onPodSuspended artifactId) := by
  unfold WorkloadTurn.onPodSuspended
  dsimp only
  apply reconciles
  split
  · rename_i hv
    exact { h.disownPod hm with fresh := fun _ => hv, kept := nofun }
  · exact { h.disownPod hm with }

theorem Fair.onPodRunning (h : Fair v may [] t)
    (hm : t.launchedWithSpecVersion ≠ t.specVersion → may) : Ends v may t.onPodRunning := by
  have base : Fair v may [] ({ t with committedToBoot := false, consecutiveFailures := 0 } :
      WorkloadTurn).clearArtifactRef := Held.clearArtifactRef { h with }
  have versions : ∀ u : WorkloadTurn, u.clearArtifactRef.launchedWithSpecVersion =
      u.launchedWithSpecVersion ∧ u.clearArtifactRef.specVersion = u.specVersion := by
    intro u
    unfold WorkloadTurn.clearArtifactRef
    split <;> exact ⟨rfl,rfl⟩
  unfold WorkloadTurn.onPodRunning
  dsimp only
  split
  · rename_i hne
    rw [(versions _).1,(versions _).2] at hne
    exact (base.destroyCurrentPod (hm hne)).reconciles
  · exact ends_ite base.reconciles (stops { base with })

theorem Fair.onPodFailed (h : Fair v may [] t) (hm : may) (exitCode : Option Int) (reason : String) :
    Ends v may (t.onPodFailed exitCode reason) := by
  have base : Fair v may [] ({ t with awaitingSuspend := false } :
      WorkloadTurn).clearArtifactRef := Held.clearArtifactRef { h with }
  apply reconciles
  refine fair_ite ?_ (fair_ite (reapRetainedPod ?_ hm) ?_) <;> split_ifs <;>
    exact { base with }

theorem Fair.onPodDisplaced (h : Fair v may [] t) (hm : may) : Ends v may t.onPodDisplaced := by
  have base : Fair v may [] ({ t with awaitingSuspend := false } :
      WorkloadTurn).clearReadiness.disownPod := { h.disownPod hm with }
  exact reconciles (fair_ite { base with } base)

theorem Fair.onPodFinished (h : Fair v may [] t) (hm : may) (exitCode : Int) :
    Ends v may (t.onPodFinished exitCode) := by
  have cleared : Fair v may [] ({ t with awaitingSuspend := false } :
      WorkloadTurn).clearArtifactRef := Held.clearArtifactRef { h with }
  have base := cleared.disownPod hm
  unfold WorkloadTurn.onPodFinished
  dsimp only
  apply reconciles
  split
  · rename_i hj
    exact { base with done := fun _ => ⟨hj,rfl⟩ }
  · exact fair_ite { base with } { base with }

theorem Fair.handlePodStatus (h : Fair v may [] t) (statuses : List PodStatus)
    (hm : t.toWorkloadSm.Releases (.podStatusInput statuses) → may) :
    Ends v may (t.handlePodStatus statuses) := by
  have base : ∃ u : WorkloadTurn, u = (if statuses.isEmpty && t.podId.isSome then
      ({ t with podRunning := decide (PodStatus.running ∈ statuses) } : WorkloadTurn).forgetPod
      else { t with podRunning := decide (PodStatus.running ∈ statuses) }) ∧ Fair v may [] u ∧
      u.podRunning = decide (PodStatus.running ∈ statuses) ∧
      u.launchedWithSpecVersion = t.launchedWithSpecVersion ∧ u.specVersion = t.specVersion := by
    refine ⟨_,rfl,?_⟩
    split
    · rename_i hc
      rw [Bool.and_eq_true,List.isEmpty_iff] at hc
      exact ⟨{ h.disownPod (hm (.inl hc.1)) with },rfl,rfl,rfl⟩
    · exact ⟨{ h with },rfl,rfl,rfl⟩
  obtain ⟨u,hu,fair,hrunning,hlaunched,hversion⟩ := base
  unfold WorkloadTurn.handlePodStatus
  change Ends v may _
  dsimp only
  rw [← hu]
  split
  · rename_i hs
    exact fair.onPodSuspended (hm (.inr (.inl (Option.isSome_of_eq_some hs)))) _
  split
  · rename_i hr
    refine fair.onPodRunning (fun hne => hm (.inr (.inr (.inr (.inr (.inr ⟨?_,?_⟩))))))
    · rw [hrunning,Bool.and_eq_true,decide_eq_true_eq] at hr
      exact hr.1
    · rw [← hlaunched,← hversion]
      exact hne
  split
  · rename_i hf _
    exact fair.onPodFailed (hm (.inr (.inr (.inl (Option.isSome_of_eq_some hf))))) _ _
  split
  · rename_i hd
    exact fair.onPodDisplaced (hm (.inr (.inr (.inr (.inl hd.1)))))
  split
  · rename_i hf _
    exact fair.onPodFinished (hm (.inr (.inr (.inr (.inr (.inl (Option.isSome_of_eq_some hf))))))) _
  · exact ends_ite (reconciles { fair with }) fair.reconciles

theorem Fair.handleDemand (h : Fair v may [] t) (demand : DemandInfo) :
    Ends v may (t.handleDemand demand) := by
  have reset : ∀ {c : Prop} [Decidable c] {t : WorkloadTurn}, Fair v may [] t →
      Fair v may [] (if c then t.resetRetries else t) := fun h => fair_ite h.resetRetries h
  have base : Fair v may [] (if decide (0 < demand.demandCount) && !t.hasDemand then
      { t with hasDemand := decide (0 < demand.demandCount), committedToBoot := true }
      else { t with hasDemand := decide (0 < demand.demandCount) }) :=
    fair_ite { h with } { h with }
  exact reconciles { reset (reset base) with }

/-- Every input reconciles at most once, and creates no pod before. -/
theorem Fair.handle (h : Fair v may [] t) (hw : t.toWorkloadSm = v.workload) (input : WorkloadInput)
    (hm : t.toWorkloadSm.Releases input → may) : Ends v may (t.handle input) := by
  cases input with
  | demandInput demand => exact h.handleDemand demand
  | specInput spec =>
    have base : Fair v may [] ({ t with setPodLaunchSpec := some (spec.map Prod.snd) } :
      WorkloadTurn) := { h with }
    cases spec with
    | some spec => exact reconciles { base.applySpec spec hm with }
    | none =>
      unfold WorkloadTurn.handle WorkloadTurn.handleSpec
      dsimp only
      split
      · rename_i hs
        exact stops { base.destroyCurrentPod (hm hs) with }
      · exact reconciles { base with }
  | podStatusInput statuses => exact h.handlePodStatus statuses hm
  | podWorkerInput workers =>
    exact ends_ite (ends_ite (stops { h with }) (stops { h with })) h.stops
  | adminCommand cmd =>
    cases cmd with
    | scavenge =>
      exact ends_ite h.stops (h.resetRetries.clearArtifactRef.destroyCurrentPod (hm trivial)).reconciles
    | restart =>
      have base : Fair v may [] ({ t with
          consecutiveFailures := 0
          restartCount := 0
          inBackoff := false
          completed := false } : WorkloadTurn).destroyCurrentPod :=
        Held.destroyCurrentPod { h with done := nofun } (hm trivial)
      exact reconciles { base with fresh := fun _ => rfl }
  | artifactInput valid =>
    have confirmed : Fair v may [] ({ t with artifactConfirmed := true } : WorkloadTurn) :=
      { h with kept := fun _ _ => by rw [hw]; exact ⟨rfl,rfl⟩ }
    exact ends_ite confirmed.reconciles (ends_ite h.clearArtifactRef.reconciles h.stops)
  | workloadTimerFired key =>
    cases key with
    | retryBackoff =>
      unfold WorkloadTurn.handle WorkloadTurn.handleTimer
      dsimp only
      split
      · rename_i hb
        exact reconciles { h.reapRetainedPod (hm hb) with }
      · exact h.stops
    | artifactConfirm => exact ends_ite (reconciles { h with fresh := nofun, kept := nofun }) h.stops

theorem Fair.weaken (h : Fair v may made t) : Fair v True made t :=
  { h with bare := fun _ => trivial }

/-- The reconciliation itself may give a pod up too. -/
theorem Fair.reconcile (h : Fair v may made t) : Fair v True t.reconcile.pods t.reconcile := by
  unfold WorkloadTurn.reconcile
  split
  · exact { h.weaken with made := rfl }
  dsimp only
  split
  · rename_i hw
    split
    · exact { h.weaken with made := rfl }
    · -- a pod is created, so the workload is not completed
      have hc : t.completed = false := by simp_all [WorkloadSm.wantPod]
      refine ⟨⟨rfl,fun hd => ?_,rfl,fun _ => trivial⟩,fun _ => rfl,h.kept⟩
      exact absurd (hc.symm.trans hd) Bool.false_ne_true
  · split
    · exact { h.weaken with made := rfl }
    · split
      · split
        · exact { h.weaken with made := rfl }
        · split
          · exact { h.weaken with made := rfl }
          · exact { h.weaken.disownPod trivial with made := rfl }
      · exact { h.weaken with made := rfl }

theorem pods_of_outcome {t' : WorkloadTurn} (h : t.outcome = t'.outcome) : t.pods = t'.pods := by
  have hc : t.creates = t'.creates := congrArg (fun o => o.2.2) h
  rw [pods,hc,pods]

theorem Fair.of_outcome (h : Fair v may made t') (he : t.outcome = t'.outcome) :
    Fair v may made t := by
  have hsm : t.toWorkloadSm = t'.toWorkloadSm := congrArg Prod.fst he
  have hedges : t.setPodOwnershipEdges = t'.setPodOwnershipEdges := congrArg (fun o => o.2.1) he
  refine ⟨⟨?_,?_,(pods_of_outcome he).trans h.made,?_⟩,?_,?_⟩ <;> rw [hsm]
  · rw [hedges]
    exact h.edges
  · exact h.done
  · exact h.bare
  · exact h.fresh
  · exact h.kept

/-- The launch of a pod by a workload `w` with an input that leaves it as `after`: the creation of a
pod leaves all these fields as they are, but the pod it holds. -/
structure Launches (w : WorkloadSm) (input : WorkloadInput) (after : WorkloadSm)
    (pods : List (PodId × PodSm)) : Prop where
  hasSpec : after.hasSpec = true
  notCompleted : after.completed = false
  notInBackoff : after.inBackoff = false
  notFailed : after.isFailed = false
  bare : w.podId = none ∨ w.Releases input
  /-- An artifact that the pod resumes is one of the current spec. -/
  fresh : after.artifactPort.isSome = true → after.artifactPort = w.artifactPort ∧
    after.specVersion = w.specVersion
  one : ∃ id, after.podId = some id ∧
    pods = [(id,{ PodSm.new with resumeArtifact := after.artifactPort })]

theorem Fair.launches (h : Fair v (v.workload.podId = none ∨ v.workload.Releases input) [] t) :
    t.reconcile.pods = [] ∨
      Launches v.workload input t.reconcile.toWorkloadSm t.reconcile.pods := by
  unfold WorkloadTurn.reconcile
  split
  · exact .inl h.made
  dsimp only
  split
  · rename_i hw
    simp only [Bool.and_eq_true,Option.isNone_iff_eq_none] at hw
    obtain ⟨hwant,hbare⟩ := hw
    simp only [WorkloadSm.wantPod,Bool.and_eq_true,Bool.not_eq_true'] at hwant
    obtain ⟨⟨⟨⟨hspec,-⟩,hbackoff⟩,hfailed⟩,hdone⟩ := hwant
    split
    · exact .inl h.made
    · rename_i hconfirmed
      have fresh : t.artifactPort.isSome = true → t.artifactPort = v.workload.artifactPort ∧
          t.specVersion = v.workload.specVersion := by
        intro hp
        apply h.kept hp
        simpa [hp] using hconfirmed
      right
      refine ⟨hspec,hdone,hbackoff,hfailed,h.bare hbare,fresh,t.nextPod,rfl,?_⟩
      have hmade : t.creates.filterMap _ = [] := h.made
      unfold createPod
      cases hport : t.artifactPort with
      | none => simp [pods,hmade,PodSm.new]
      | some port => simp [pods,hmade,PodSm.newFromArtifact]
  · left
    repeat' split
    all_goals exact h.made

end WorkloadTurn

/-- An input, and the ids that the machine gets for what it creates. -/
structure WorkloadDelivery where
  id : WorkloadId
  nextPod : PodId
  nextEndpoint : EndpointId
  input : WorkloadInput

namespace PublishedWorkload

def turn (v : PublishedWorkload) (d : WorkloadDelivery) : WorkloadTurn :=
  v.workload.begin d.id d.nextPod d.nextEndpoint

def after (v : PublishedWorkload) (t : WorkloadTurn) : PublishedWorkload where
  workload := t.toWorkloadSm
  owned := t.setPodOwnershipEdges.getD v.owned
  status := t.setStatus.getD v.status
  failures := t.setConsecutiveFailures.getD v.failures
  stale := t.setSpecStale.getD v.stale
  timers := t.setWantedTimers.getD v.timers

/-- A machine that destroys itself handles nothing any more. -/
def step (v : PublishedWorkload) (d : WorkloadDelivery) : Option PublishedWorkload :=
  let t := (v.turn d).handle d.input
  if t.selfDestruct then none else some (v.after t)

/-- The signals of a new machine have their defaults until it sets them. -/
def start (maxRetries : Nat) : PublishedWorkload :=
  let w := WorkloadSm.withMaxRetries maxRetries
  after ⟨w,[],.dormant,0,false,[]⟩ (w.begin 0 0 0).onInit

structure Consistent (v : PublishedWorkload) : Prop where
  edges : v.owned = v.workload.podId.toList
  done : v.workload.completed = true → v.workload.runPolicy = .job ∧ v.workload.podId = none
  fresh : v.workload.artifactPort.isSome = true →
    v.workload.specVersion = v.workload.launchedWithSpecVersion
  status : v.status = v.workload.status
  failures : v.failures = v.workload.consecutiveFailures
  stale : v.stale = v.workload.specStale
  timers : v.timers = v.workload.wantedTimers

variable {v v' : PublishedWorkload} {d : WorkloadDelivery}

theorem Consistent.handle (h : v.Consistent) (d : WorkloadDelivery) :
    WorkloadTurn.Ends v (v.workload.podId = none ∨ v.workload.Releases d.input)
      ((v.turn d).handle d.input) := by
  have fair : WorkloadTurn.Fair v (v.workload.podId = none ∨ v.workload.Releases d.input) []
      (v.turn d) :=
    ⟨⟨h.edges,h.done,rfl,.inl⟩,h.fresh,fun _ _ => ⟨rfl,rfl⟩⟩
  exact fair.handle rfl d.input .inr

/-- An input does nothing at all, or it ends with the reports; it asks for its timers again, or
leaves what they depend on as it is. -/
theorem reports_handle {t : WorkloadTurn} (hd : (t.handle input).selfDestruct = false) :
    t.handle input = t ∨ (t.handle input).updateStatusSignals = t.handle input ∧
      ((t.handle input).setWantedTimers = some (t.handle input).wantedTimers ∨
      (t.handle input).setWantedTimers = t.setWantedTimers ∧
        (t.handle input).wantedTimers = t.wantedTimers) := by
  cases input with
  | specInput spec =>
    cases spec with
    | some spec => exact .inr ⟨rfl,.inl rfl⟩
    | none =>
      simp only [handle,handleSpec] at hd ⊢
      split at hd
      · exact nomatch hd
      · rename_i hs
        rw [if_neg hs]
        exact .inr ⟨rfl,.inl rfl⟩
  | adminCommand cmd =>
    cases cmd with
    | scavenge =>
      simp only [handle,handleAdmin]
      split
      · exact .inl rfl
      · exact .inr ⟨rfl,.inl rfl⟩
    | restart => exact .inr ⟨rfl,.inl rfl⟩
  | podWorkerInput workers =>
    refine .inr ⟨rfl,.inr ?_⟩
    simp only [handle,handlePodWorker]
    split_ifs <;> exact ⟨rfl,rfl⟩
  | workloadTimerFired key =>
    refine .inr ⟨rfl,?_⟩
    cases key <;> simp only [handle,handleTimer] <;> split
    · exact .inl rfl
    · exact .inr ⟨rfl,rfl⟩
    · exact .inl rfl
    · exact .inr ⟨rfl,rfl⟩
  | demandInput _ | podStatusInput _ | artifactInput _ => exact .inr ⟨rfl,.inl rfl⟩

theorem Consistent.fair_handle (h : v.Consistent) :
    ∃ made, WorkloadTurn.Fair v True made ((v.turn d).handle d.input) := by
  obtain ⟨m,hm,he | he⟩ := h.handle d
  · exact ⟨_,hm.weaken.of_outcome he⟩
  · exact ⟨_,hm.reconcile.of_outcome he⟩

theorem Consistent.step (h : v.Consistent) (hs : v.step d = some v') : v'.Consistent := by
  simp only [PublishedWorkload.step] at hs
  split at hs
  · exact nomatch hs
  rename_i hd
  cases hs
  rw [Bool.not_eq_true] at hd
  obtain ⟨made,hfair⟩ := h.fair_handle (d := d)
  rcases reports_handle hd with hr | ⟨hr,ht⟩
  · refine ⟨hfair.edges,hfair.done,hfair.fresh,?_,?_,?_,?_⟩ <;> simp only [after,hr]
    · exact h.status
    · exact h.failures
    · exact h.stale
    · exact h.timers
  · refine ⟨hfair.edges,hfair.done,hfair.fresh,?_,?_,?_,?_⟩
    · rw [← hr]
      rfl
    · rw [← hr]
      rfl
    · rw [← hr]
      rfl
    · rcases ht with ht | ⟨ht,hw⟩ <;> simp only [after,ht]
      · rfl
      · rw [hw]
        exact h.timers

theorem start_consistent (maxRetries : Nat) : (start maxRetries).Consistent :=
  ⟨rfl,nofun,nofun,rfl,rfl,rfl,rfl⟩

/-- Whatever inputs a workload has got, in whatever order, what it shows is what its fields say, and
the next input launches at most one pod. -/
theorem workload_consistent {maxRetries : Nat} {deliveries : List WorkloadDelivery}
    (h : Runs.run PublishedWorkload.step (start maxRetries) deliveries = some v) :
    v.Consistent ∧ ∀ d : WorkloadDelivery, ((v.turn d).handle d.input).pods = [] ∨
      WorkloadTurn.Launches v.workload d.input ((v.turn d).handle d.input).toWorkloadSm
        ((v.turn d).handle d.input).pods := by
  have hv : v.Consistent :=
    Runs.run_keeps (fun _ _ _ hs heq => Consistent.step hs heq) (start_consistent maxRetries) h
  refine ⟨hv,fun d => ?_⟩
  obtain ⟨m,hm,he | he⟩ := hv.handle d
  · exact .inl ((pods_of_outcome he).trans hm.made)
  · have hsm : ((v.turn d).handle d.input).toWorkloadSm = m.reconcile.toWorkloadSm :=
      congrArg Prod.fst he
    rw [pods_of_outcome he,hsm]
    exact hm.launches

/-- A workload on demand launches, goes idle and suspends. -/
def idleCycle : List WorkloadDelivery :=
  [⟨1,7,9,.specInput (some (0,⟨Sm.WorkloadSpec.default.podSpec,⟨true,.service,true,none⟩⟩))⟩,
    ⟨1,7,9,.demandInput ⟨1,[]⟩⟩,⟨1,8,9,.podStatusInput [.running]⟩,⟨1,8,9,.demandInput ⟨0,[]⟩⟩,
    ⟨1,8,9,.podStatusInput [.suspended 3]⟩,⟨1,8,9,.artifactInput (some true)⟩]

/-- It resumes when the demand comes back. -/
theorem workload_consistent_idle :
    let v := (Runs.run PublishedWorkload.step (start 5) idleCycle).get (by decide +kernel)
    let t := (v.turn ⟨1,8,9,.demandInput ⟨1,[]⟩⟩).handle (.demandInput ⟨1,[]⟩)
    v.Consistent ∧ WorkloadTurn.Launches v.workload (.demandInput ⟨1,[]⟩) t.toWorkloadSm t.pods ∧
      t.artifactPort = some 3 := by
  intro v t
  have h := workload_consistent (v := v) (Option.some_get _).symm
  exact ⟨h.1,(h.2 ⟨1,8,9,.demandInput ⟨1,[]⟩⟩).resolve_left (by decide +kernel),by decide +kernel⟩

end PublishedWorkload

end Distvirt
