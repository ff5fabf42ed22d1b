import Distvirt.Worker.MainLoop

/-! When the main loop can finish a command on its own: it can, exactly as long as the channel
that only it reads has room for what must still be sent before the command is done. -/

namespace Distvirt.Worker

open Supervisor List Option

namespace Supervisor

variable {t t' : Supervisor}

/-- How many events the task sends, at the least, before the request to it is answered. While the
pod is set up, a send can be broken off. -/
def sendsLeft (t : Supervisor) : Nat :=
  if t.replyPending then
    match t.stage with
    | .setup _ => 1
    | .monitor _ | .closing _ => t.outbox.length + 1
    | .snapshot _ | .returning => t.outbox.length
    | .aborted _ => 0
  else 0

/-- A task that is over or serves a request has no other one, and one that sets up its pod sends
only with a VM. -/
structure Tidy (t : Supervisor) : Prop where
  ended : t.ended → t.suspendRx = none
  snapshot : ∀ request, t.stage = .snapshot request → t.suspendRx = none
  setup : ∀ phase, t.stage = .setup phase → t.outbox ≠ [] → t.vm ≠ .absent

theorem Moved.sendsLeft_le (h : t.Moved t') : t.sendsLeft ≤ t'.sendsLeft := by
  cases h with
  | launched hs hv | vmDied hv => exact Nat.le_refl _
  | dropped hs => simp [sendsLeft,hs]
  | logged hs ho hv he | failed hs hend => simp [sendsLeft,replyPending,hs]
  | ready hs ho =>
    simp only [sendsLeft,replyPending,hs]
    split <;> simp [*]
  | watched hs ho he | broken hs ho he =>
    simp only [sendsLeft,replyPending,hs,ho]
    split <;> simp [*]
  | requested hs ho hr => simp [sendsLeft,replyPending,hs,ho,hr]
  | closed hs ho hend | suspended events hs ho he hend => simp [sendsLeft,replyPending,hs,ho]

theorem Moved.tidy (h : t.Moved t') (ht : t.Tidy) : t'.Tidy := by
  have alive : t'.stage ≠ .returning ∨ t'.outbox ≠ [] → t'.stage.isAborted = false →
      t'.ended → t'.suspendRx = none := by
    intro hfin hab hover
    rcases hover with hover | ⟨hs,ho⟩
    · rw [hab] at hover
      cases hover
    · rcases hfin with hfin | hfin
      · exact absurd hs hfin
      · exact absurd ho hfin
  cases h with
  | launched hs hv | vmDied hv => exact ⟨ht.ended,ht.snapshot,by simp⟩
  | dropped hs => exact ⟨fun _ => ht.ended (.inl (by rw [hs]; rfl)),by simp,by simp⟩
  | logged hs ho hv he =>
    exact ⟨alive (.inl (by simp [hs])) (by simp [hs,Stage.isAborted]),ht.snapshot,fun _ _ _ => hv⟩
  | ready hs ho | watched hs ho he | broken hs ho he =>
    exact ⟨alive (.inl (by simp)) rfl,by simp,by simp⟩
  | requested hs ho hr => exact ⟨fun _ => rfl,fun _ _ => rfl,by simp⟩
  | failed hs hend | closed hs ho hend | suspended events hs ho he hend =>
    exact ⟨alive (.inr (by simp)) rfl,by simp,by simp⟩

/-- No step but a request of the loop makes anyone wait. -/
theorem Moved.replyPending (h : t.Moved t') (hr : t'.replyPending = true) :
    t.replyPending = true := by
  cases h with
  | launched hs hv => exact hr
  | vmDied hv => exact hr
  | dropped hs | ready hs ho | watched hs ho he | broken hs ho he | failed hs hend
  | closed hs ho hend => simpa [replyPending,hs] using hr
  | logged hs ho hv he => exact hr
  | requested hs ho hsome => simp [replyPending,hs,hsome]
  | suspended events hs ho he hend => simp [replyPending,hs]

theorem Tidy.abort (ht : t.Tidy) : t.abort.Tidy := by
  unfold Supervisor.abort
  split
  · exact ht
  · exact ⟨fun _ => rfl,by simp,by simp⟩

theorem abort_replyPending (hr : t.abort.replyPending = true) : t.replyPending = true := by
  unfold abort at hr
  split at hr
  · exact hr
  · simp [replyPending] at hr

theorem Tidy.sent (ht : t.Tidy) (ho : t.outbox = event :: rest) : (t.sent rest).Tidy := by
  refine ⟨?_,fun request hs => ?_,fun phase hs hrest => ht.setup phase hs (by simp [ho])⟩
  · rintro (hab | ⟨hs,hrest⟩)
    · have := ht.ended (.inl hab)
      simp [Supervisor.sent,this]
    · exact if_pos ⟨hs,hrest⟩
  · have := ht.snapshot request hs
    simp [Supervisor.sent,this]

theorem sent_replyPending (hr : (t.sent rest).replyPending = true) : t.replyPending = true := by
  unfold replyPending sent at *
  cases hs : t.stage with
  | snapshot request => rfl
  | returning =>
    simp only [hs] at hr
    split at hr
    · cases hr
    · exact hr
  | _ => simpa [hs] using hr

/-- One event less, or one that need not have been sent. -/
theorem sent_sendsLeft (ho : t.outbox = event :: rest) :
    t.sendsLeft ≤ (t.sent rest).sendsLeft + 1 := by
  unfold sendsLeft replyPending sent
  cases hs : t.stage with
  | setup phase => simp
  | monitor tracker | closing outcome => simp [ho]; split <;> omega
  | snapshot request => simp [ho]
  | returning =>
    cases rest with
    | nil | cons event' rest => simp [ho]; split <;> omega
  | aborted dropped => simp

end Supervisor

def Main.inCommand : Main → Bool
  | .sending _ | .stopping _ | .destroying _ _ | .suspending _ => true
  | .select | .shuttingDown _ | .exited => false

/-- The task whose answer the loop waits for. -/
def Main.request : Main → Option Nat
  | .suspending id => some id
  | _ => none

namespace MainLoop

variable {s s' : MainLoop}

/-- The loop is inside `handle_command`. -/
def InCommand (s : MainLoop) : Prop := s.main.inCommand = true

instance (s : MainLoop) : Decidable s.InCommand := inferInstanceAs (Decidable (_ = _))

/-- How many events must be sent before the command is done. -/
def sendsLeft (s : MainLoop) : Nat :=
  match s.main with
  | .sending _ | .destroying _ _ => 1
  | .suspending id => (s.tasks[id]?).elim 0 Supervisor.sendsLeft
  | .select | .stopping _ | .shuttingDown _ | .exited => 0

/-- The loop gets back to its `select!` without an event from the channel. -/
def CanFinish (s : MainLoop) : Prop :=
  ∃ inputs s', .receive ∉ inputs ∧ Runs.run step s inputs = some s' ∧ s'.main = .select

/-- The channel holds between `n` events and what it has room for, the tasks are tidy, and only
the given one, if any, has a request to answer. -/
structure Bounded (n : Nat) (asked : Option Nat) (s : MainLoop) : Prop where
  least : n ≤ s.channel.length
  most : s.channel.length ≤ backgroundCapacity
  tidy : ∀ t ∈ s.tasks, t.Tidy
  request : ∀ id t, s.tasks[id]? = some t → t.replyPending = true → asked = some id

namespace Bounded

theorem of_same (h : Bounded n a s) (hc : s'.channel = s.channel) (ht : s'.tasks = s.tasks) :
    Bounded n a s' := ⟨hc ▸ h.least,hc ▸ h.most,ht ▸ h.tidy,ht ▸ h.request⟩

theorem unasked (h : Bounded n none s) : Bounded n a s :=
  ⟨h.least,h.most,h.tidy,fun id t hget hr => nomatch h.request id t hget hr⟩

theorem push (h : Bounded n a s) (hroom : s.hasRoom) (event : WorkerEvent) :
    Bounded n a { s with channel := s.channel ++ [event] } := by
  refine ⟨?_,?_,h.tidy,h.request⟩
  · simpa using Nat.le_succ_of_le h.least
  · rw [length_append]
    exact hroom

/-- Each task is changed to one that keeps order, without a new request. -/
theorem mapIdx (h : Bounded n a s) (hf : ∀ i t, t.Tidy → (f i t).Tidy)
    (hr : ∀ i t, (f i t).replyPending = true → t.replyPending = true) :
    Bounded n a { s with tasks := s.tasks.mapIdx f } := by
  refine ⟨h.least,h.most,fun t ht => ?_,fun id t hget hpending => ?_⟩
  · obtain ⟨i,hi,rfl⟩ := mem_mapIdx.mp ht
    exact hf i _ (h.tidy _ (getElem_mem hi))
  · obtain ⟨t',hget',rfl⟩ := map_eq_some_iff.mp (getElem?_mapIdx ▸ hget)
    exact h.request id t' hget' (hr id t' hpending)

theorem abort (h : Bounded n a s) (tasks : List Nat) : Bounded n a (s.abort tasks) := by
  refine h.mapIdx (fun i t ht => ?_) (fun i t hr => ?_)
  · split
    · exact ht.abort
    · exact ht
  · split at hr
    · exact abort_replyPending hr
    · exact hr

theorem cancel (h : Bounded n a s) (p : Nat → Supervisor → Bool) : Bounded n a (s.cancel p) := by
  refine h.mapIdx (fun i t ht => ?_) (fun i t hr => ?_)
  · split
    · exact ⟨ht.ended,ht.snapshot,ht.setup⟩
    · exact ht
  · split at hr <;> exact hr

theorem shutdownAll (h : Bounded n a s) : Bounded n a s.shutdownAll :=
  (h.cancel _).of_same rfl rfl

theorem trySend (h : Bounded n a s) (event : WorkerEvent) : Bounded n a (s.trySend event) := by
  unfold MainLoop.trySend
  split
  · exact h.push ‹_› event
  · exact h

theorem spawn (h : Bounded n a s) (key : PodKey) (phase : Phase) (ns : NamespaceState) :
    Bounded n a (s.spawn key phase ns) := by
  have hab := h.abort (ns.pods.lookup key.2).toList
  refine ⟨h.least,h.most,fun t ht => ?_,fun id t hget hr => ?_⟩
  · rcases mem_append.mp ht with ht | ht
    · exact hab.tidy t ht
    · rw [mem_singleton.mp ht]
      exact ⟨fun _ => rfl,fun _ _ => rfl,by simp⟩
  · simp only [MainLoop.spawn,getElem?_append] at hget
    split at hget
    · exact hab.request id t hget hr
    · rw [mem_singleton.mp (mem_of_getElem? hget)] at hr
      cases hr

theorem set (h : Bounded n a s) {t t' : Supervisor} {id : Nat} (hget : s.tasks[id]? = some t)
    (ht : t'.Tidy) (hr : t'.replyPending = true → t.replyPending = true ∨ a = some id) :
    Bounded n a { s with tasks := s.tasks.set id t' } := by
  refine ⟨h.least,h.most,fun u hu => ?_,fun j u hj hpending => ?_⟩
  · rcases mem_or_eq_of_mem_set hu with hu | rfl
    · exact h.tidy u hu
    · exact ht
  · rw [getElem?_set] at hj
    split at hj
    · rename_i hid
      split at hj <;> cases hj
      rcases hr hpending with hr | hr
      · exact hid ▸ h.request id t hget hr
      · exact hid ▸ hr
    · exact h.request j u hj hpending

theorem removePod (h : Bounded n a s) (key : PodKey) : Bounded n a (s.removePod key) := by
  unfold MainLoop.removePod
  split
  · exact h.of_same rfl rfl
  · exact h

theorem reportDemand (h : Bounded n a s) (found : Found) (namespaceId : NamespaceId) :
    Bounded n a (s.reportDemand found namespaceId) := by
  unfold MainLoop.reportDemand
  induction found.demand generalizing s with
  | nil => exact h
  | cons demand demands ih => exact ih (h.trySend _)

theorem withNamespace (h : Bounded n a s) (hnext : Bounded n a s') (namespaceId : NamespaceId) :
    Bounded n a (s.withNamespace namespaceId s') := by
  unfold MainLoop.withNamespace
  split
  · exact hnext
  · exact h.shutdownAll

theorem handleStopPod (h : Bounded n a s) (key : PodKey) (graceful : Bool) :
    Bounded n a (s.handleStopPod key graceful) := by
  unfold MainLoop.handleStopPod
  split
  · split
    · rename_i id hid
      have hr : Bounded n a { (s.removePod key).markStopped [id] with main := .stopping id } :=
        (h.removePod key).of_same rfl rfl
      dsimp only
      split
      · exact hr.cancel _
      · exact hr.abort _
    · exact h
  · exact h.shutdownAll

theorem handleSuspendPod (h : Bounded n none s) (key : PodKey) (artifactId : ArtifactPortId)
    (poolId : String) :
    let s' := s.handleSuspendPod key artifactId poolId
    Bounded n s'.main.request s' := by
  unfold MainLoop.handleSuspendPod
  split
  · split
    · split
      · rename_i id t hfound
        obtain ⟨_,_,hget⟩ := bind_eq_some_iff.mp hfound
        obtain ⟨_,hget,heq⟩ := map_eq_some_iff.mp hget
        cases heq
        have ht := h.tidy t (mem_of_getElem? hget)
        split
        · exact h.of_same rfl rfl
        · rename_i hover
          have ht' : Supervisor.Tidy { t with suspendRx := some ⟨toString artifactId,poolId⟩ } := by
            refine ⟨fun ho => absurd ho hover,fun request hs => ?_,ht.setup⟩
            have hpending : t.replyPending = true := by
              simp [replyPending,show t.stage = .snapshot request from hs]
            cases h.request id t hget hpending
          exact (h.unasked.set (a := some id) hget ht' (fun _ => .inr rfl)).of_same rfl rfl
      · exact h.of_same rfl rfl
    · exact h.shutdownAll
  · exact h.of_same rfl rfl

theorem handleResumePod (h : Bounded n a s) (found : Found) (key : PodKey) (poolId : String) :
    Bounded n a (s.handleResumePod found key poolId) := by
  unfold MainLoop.handleResumePod
  split
  · split
    · split
      · exact h.of_same rfl rfl
      · exact h.spawn _ _ _
    · exact h.shutdownAll
  · exact h.of_same rfl rfl

theorem handleNamespaceCommand (h : Bounded n none s) (found : Found) (command : WorkerCommand) :
    let s' := s.handleNamespaceCommand found command
    Bounded n s'.main.request s' := by
  cases command with
  | registrySync namespaceId entries | registryUpdate namespaceId added removed =>
    exact (h.withNamespace h namespaceId).unasked
  | launchPod namespaceId podId network containers resources volumes =>
    simp only [MainLoop.handleNamespaceCommand,handleLaunchPod]
    split
    · exact (h.spawn _ _ _).unasked
    · exact h.shutdownAll
  | stopPod namespaceId podId graceful => exact (h.handleStopPod _ _).unasked
  | addWireGuardPeer namespaceId peerPublicKey peerIp presharedKey
  | removeWireGuardPeer peerPublicKey => exact h.unasked
  | suspendPod namespaceId podId artifactId poolId => exact h.handleSuspendPod _ _ _
  | resumePod namespaceId podId artifactId network poolId =>
    exact (h.handleResumePod _ _ _).unasked
  | endpointSync namespaceId endpoints | endpointUpdate namespaceId upserted removedIps =>
    exact (h.withNamespace (h.reportDemand found namespaceId) namespaceId).unasked

theorem handleCommand (h : Bounded n none s) (found : Found) (command : LoopCommand) :
    let s' := s.handleCommand found command
    Bounded n s'.main.request s' := by
  unfold MainLoop.handleCommand
  split
  · unfold handleCreateNamespace
    split
    · exact (h.abort _).of_same rfl rfl
    · exact h.shutdownAll
  · unfold handleDestroyNamespace
    split
    · rename_i ns _
      have hm : Bounded n none (s.markStopped (podTasks ns)) := h.of_same rfl rfl
      exact (hm.cancel _).of_same rfl rfl
    · exact h.unasked
  · exact h.unasked
  · exact h.unasked
  · exact h.handleNamespaceCommand found _
  · unfold handleTransferArtifact
    split
    · split
      · exact h.unasked
      · exact h.of_same rfl rfl
    · exact h.of_same rfl rfl
  · exact Bounded.shutdownAll (h.of_same rfl rfl)

theorem proceed (h : Bounded n s.main.request s) (hs : s.proceed = some s') :
    Bounded n s'.main.request s' := by
  unfold MainLoop.proceed at hs
  split at hs <;> rename_i hmain <;> rw [hmain] at h
  · obtain ⟨hroom,rfl⟩ := sendEvent_some hs
    exact (h.push hroom _).of_same rfl rfl
  · split at hs <;> cases hs
    exact h.of_same rfl rfl
  · obtain ⟨hroom,rfl⟩ := sendEvent_some hs
    exact (h.push hroom _).of_same rfl rfl
  · split at hs <;> cases hs
    exact h.of_same rfl rfl
  · rename_i id
    split at hs <;> cases hs
    rename_i hreply
    refine ⟨h.least,h.most,h.tidy,fun j t hget hr => ?_⟩
    cases h.request j t hget hr
    simp [show s.tasks[id]? = some t from hget,hr] at hreply
  · cases hs
    exact h.of_same rfl rfl
  · split at hs <;> cases hs
    exact h.of_same rfl rfl
  · cases hs
  · cases hs

theorem timeOut (h : Bounded n s.main.request s) (hs : s.timeOut = some s') :
    Bounded n s'.main.request s' := by
  unfold MainLoop.timeOut at hs
  split at hs <;> cases hs <;> rename_i hmain <;> rw [hmain] at h <;>
    exact (h.abort _).of_same rfl rfl

theorem step (h : Bounded n s.main.request s) (hne : input ≠ .receive) (hs : s.step input = some s') :
    Bounded n s'.main.request s' := by
  cases input with
  | command command found =>
    simp only [MainLoop.step] at hs
    split at hs <;> cases hs
    rename_i hmain
    rw [hmain] at h
    exact h.handleCommand found command
  | receive => exact absurd rfl hne
  | proceed => exact h.proceed hs
  | timeout => exact h.timeOut hs
  | send id =>
    obtain ⟨t,event,rest,hget,ho,hroom,rfl⟩ := sendOf_some hs
    have ht := (h.tidy t (mem_of_getElem? hget)).sent ho
    exact (h.set hget ht (fun hr => .inl (sent_replyPending hr))).push hroom event
  | supervisor id input =>
    obtain ⟨t,hget,hs⟩ := bind_eq_some_iff.mp hs
    obtain ⟨t',ht',rfl⟩ := map_eq_some_iff.mp hs
    have hmoved := moved_step ht'
    exact h.set hget (hmoved.tidy (h.tidy t (mem_of_getElem? hget)))
      (fun hr => .inl (hmoved.replyPending hr))
  | gatewayExited namespaceId =>
    obtain ⟨ns,-,hroom,rfl⟩ := gatewayExited_some hs
    exact ((h.cancel _).push hroom _).of_same rfl rfl
  | bridge namespaceId ip serviceId signal =>
    simp only [MainLoop.step,MainLoop.trySend] at hs
    split at hs <;> cases hs
    split
    · exact h.push ‹_› _
    · exact h
  | transferDone transfer result =>
    obtain ⟨hroom,rfl⟩ := sendEvent_some hs
    exact h.push hroom _

theorem forward (h : Bounded n a s) (hc : s.channel = event :: rest) :
    Bounded 0 a (s.forward event rest) := by
  have hs : Bounded 0 a { s with channel := rest, trace := .emitted event :: s.trace } := by
    refine ⟨Nat.zero_le _,?_,h.tidy,h.request⟩
    have := h.most
    rw [hc] at this
    exact Nat.le_of_succ_le this
  unfold MainLoop.forward
  dsimp only
  split
  · exact (hs.removePod _).abort _
  · exact hs

theorem any_step (h : Bounded 0 s.main.request s) (hs : s.step input = some s') :
    Bounded 0 s'.main.request s' := by
  by_cases hne : input = .receive
  · subst hne
    simp only [MainLoop.step] at hs
    split at hs <;> cases hs
    rename_i hmain hc
    rw [hmain] at h
    exact (h.forward hc).unasked
  · exact h.step hne hs

end Bounded

theorem bounded_of_run {pools : List String} (h : Runs.run step (init pools) inputs = some s) :
    Bounded 0 s.main.request s := by
  refine Runs.run_keeps (I := fun s => Bounded 0 s.main.request s)
    (fun _ _ _ h hs => h.any_step hs) ⟨Nat.zero_le _,Nat.zero_le _,?_,?_⟩ h
  · simp [init]
  · simp [init]

theorem sendsLeft_le (hm : s'.main = s.main)
    (ht : ∀ id : Nat, (s.tasks[id]?).elim 0 Supervisor.sendsLeft ≤
      (s'.tasks[id]?).elim 0 Supervisor.sendsLeft + d) : s.sendsLeft ≤ s'.sendsLeft + d := by
  unfold sendsLeft
  rw [hm]
  cases s.main with
  | suspending id => exact ht id
  | _ => exact Nat.le_add_right _ _

theorem sendsLeft_set {t t' : Supervisor} {id d : Nat} (hm : s'.main = s.main)
    (hget : s.tasks[id]? = some t) (htasks : s'.tasks = s.tasks.set id t')
    (ht : t.sendsLeft ≤ t'.sendsLeft + d) : s.sendsLeft ≤ s'.sendsLeft + d := by
  refine sendsLeft_le hm (fun j => ?_)
  rw [htasks,getElem?_set]
  split
  · rename_i hid
    obtain ⟨hlt,-⟩ := List.getElem?_eq_some_iff.mp hget
    subst hid
    rw [if_pos hlt,hget]
    exact ht
  · exact Nat.le_add_right _ _

theorem sendsLeft_cancel (p : Nat → Supervisor → Bool) (hm : s'.main = s.main)
    (htasks : s'.tasks = (s.cancel p).tasks) : s.sendsLeft ≤ s'.sendsLeft := by
  refine sendsLeft_le (d := 0) hm (fun id => ?_)
  rw [htasks]
  simp only [cancel,getElem?_mapIdx]
  cases s.tasks[id]? with
  | none => exact Nat.le_refl _
  | some t =>
    simp only [map_some,elim_some]
    split <;> exact Nat.le_refl _

/-- What is done by itself was not waited for. -/
theorem proceed_sendsLeft (hgrow : s.channel.length ≤ s'.channel.length)
    (hs : s.proceed = some s') :
    s.channel.length + s.sendsLeft ≤ s'.channel.length + s'.sendsLeft := by
  unfold proceed at hs
  split at hs
  · rename_i hmain
    obtain ⟨-,rfl⟩ := sendEvent_some hs
    simp [sendsLeft,hmain]
  · rename_i hmain
    simp only [sendsLeft,hmain]
    omega
  · rename_i hmain
    obtain ⟨-,rfl⟩ := sendEvent_some hs
    simp [sendsLeft,hmain]
  · rename_i hmain
    split at hs <;> cases hs
    simp [sendsLeft,hmain]
  · rename_i id hmain
    split at hs <;> cases hs
    rename_i hreply
    simp only [sendsLeft,hmain]
    cases hget : s.tasks[id]? with
    | none => exact Nat.le_refl _
    | some t =>
      rw [hget] at hreply
      simp only [elim_some,Supervisor.sendsLeft,if_neg (show ¬ t.replyPending = true from hreply)]
      exact Nat.le_refl _
  · rename_i hmain
    simp only [sendsLeft,hmain]
    omega
  · rename_i hmain
    simp only [sendsLeft,hmain]
    omega
  · cases hs
  · cases hs

theorem timeOut_sendsLeft (hgrow : s.channel.length ≤ s'.channel.length)
    (hs : s.timeOut = some s') :
    s.channel.length + s.sendsLeft ≤ s'.channel.length + s'.sendsLeft := by
  unfold timeOut at hs
  split at hs <;> rename_i hmain
  · simp only [sendsLeft,hmain]
    omega
  · cases hs
    simp [sendsLeft,hmain,abort]
  · simp only [sendsLeft,hmain]
    omega
  · cases hs

/-- Without a receive, the events sent and those that must still be sent only get more. -/
theorem step_sendsLeft (hne : input ≠ .receive) (hb : Bounded 0 s.main.request s)
    (hs : s.step input = some s') :
    s.channel.length + s.sendsLeft ≤ s'.channel.length + s'.sendsLeft := by
  have hgrow : s.channel.length ≤ s'.channel.length :=
    (Bounded.step ⟨Nat.le_refl _,hb.most,hb.tidy,hb.request⟩ hne hs).least
  cases input with
  | command command found =>
    simp only [step] at hs
    split at hs
    · rename_i hmain
      have hzero : s.sendsLeft = 0 := by simp only [sendsLeft,hmain]
      omega
    · cases hs
  | receive => exact absurd rfl hne
  | proceed => exact proceed_sendsLeft hgrow hs
  | timeout => exact timeOut_sendsLeft hgrow hs
  | send id =>
    obtain ⟨t,event,rest,hget,ho,-,rfl⟩ := sendOf_some hs
    have hle : s.sendsLeft ≤ MainLoop.sendsLeft { s with
        tasks := s.tasks.set id (t.sent rest), channel := s.channel ++ [event] } + 1 :=
      sendsLeft_set rfl hget rfl (sent_sendsLeft ho)
    simp only [length_append,length_singleton]
    omega
  | supervisor id input =>
    obtain ⟨t,hget,hs⟩ := bind_eq_some_iff.mp hs
    obtain ⟨t',ht',rfl⟩ := map_eq_some_iff.mp hs
    refine Nat.add_le_add_left ?_ _
    exact sendsLeft_set (d := 0) rfl hget rfl (moved_step ht').sendsLeft_le
  | gatewayExited namespaceId =>
    obtain ⟨ns,-,-,rfl⟩ := gatewayExited_some hs
    exact Nat.add_le_add hgrow (sendsLeft_cancel _ rfl rfl)
  | bridge namespaceId ip serviceId signal =>
    simp only [step] at hs
    split at hs <;> cases hs
    refine Nat.add_le_add hgrow ?_
    unfold trySend
    split <;> exact Nat.le_refl _
  | transferDone transfer result =>
    obtain ⟨-,rfl⟩ := sendEvent_some hs
    exact Nat.add_le_add_right hgrow _

theorem CanFinish.fits (h : s.CanFinish) (hb : Bounded 0 s.main.request s) :
    s.channel.length + s.sendsLeft ≤ backgroundCapacity := by
  obtain ⟨inputs,s',hnot,hr,hmain⟩ := h
  induction inputs generalizing s with
  | nil =>
    cases hr
    simpa only [sendsLeft,hmain,Nat.add_zero] using hb.most
  | cons input inputs ih =>
    obtain ⟨mid,hmid,hr⟩ := bind_eq_some_iff.mp hr
    obtain ⟨hne,hnot⟩ := ne_and_not_mem_of_not_mem_cons hnot
    exact Nat.le_trans (step_sendsLeft hne.symm hb hmid) (ih (hb.step hne.symm hmid) hnot hr)

/-- One step on the way. -/
theorem CanFinish.after (hs : s.step input = some s') (hne : input ≠ .receive) (h : s'.CanFinish) :
    s.CanFinish := by
  obtain ⟨inputs,s'',hnot,hr,hmain⟩ := h
  refine ⟨input :: inputs,s'',?_,?_,hmain⟩
  · exact not_mem_cons_of_ne_of_not_mem hne.symm hnot
  · rw [Runs.run_cons,hs]
    exact hr

theorem CanFinish.done (h : s.main = .select) : s.CanFinish := ⟨[],s,by simp,rfl,h⟩

theorem sendEvent_room (h : s.channel.length + 1 ≤ backgroundCapacity) :
    s.sendEvent event = some { s with channel := s.channel ++ [event] } := if_pos h

/-- Each supervisor is waited for, at most until its time is up. -/
theorem canFinish_destroying {tasks : List Nat} (hmain : s.main = .destroying namespaceId tasks)
    (hfit : s.channel.length + 1 ≤ backgroundCapacity) : s.CanFinish := by
  induction tasks generalizing s with
  | nil =>
    have hs : s.step .proceed =
        { s with main := .select }.sendEvent (.namespaceDestroyed namespaceId) := by
      simp only [step,proceed,hmain]
    exact .after (hs.trans (sendEvent_room hfit)) (by simp) (.done rfl)
  | cons id rest ih =>
    have hs : s.step .timeout =
        some { s.abort [id] with main := .destroying namespaceId rest } := by
      simp only [step,timeOut,hmain]
    exact .after hs (by simp) (ih rfl hfit)

section Request

variable {id : Nat} {t : Supervisor} (hmain : s.main = .suspending id)
  (hget : s.tasks[id]? = some t)
include hmain hget

theorem canFinish_answered (hr : t.replyPending = false) : s.CanFinish := by
  have hs : s.step .proceed = some { s with main := .select } := by
    simp [step,proceed,hmain,hget,hr]
  exact .after hs (by simp) (.done rfl)

/-- The supervisor takes a step. -/
theorem canFinish_move (ht : t.step input = some t')
    (h : ∀ s' : MainLoop, s'.main = .suspending id → s'.channel = s.channel →
      s'.tasks[id]? = some t' → s'.CanFinish) : s.CanFinish := by
  obtain ⟨hlt,-⟩ := List.getElem?_eq_some_iff.mp hget
  have hs : s.step (.supervisor id input) = some { s with tasks := s.tasks.set id t' } := by
    simp only [step,hget,bind_some,ht,map_some]
  exact .after hs (by simp) (h _ hmain rfl (by simp [hlt]))

/-- The supervisor sends what it has to send. -/
theorem canFinish_sent (hfit : s.channel.length + t.outbox.length ≤ backgroundCapacity)
    (h : ∀ (s' : MainLoop) (t' : Supervisor), s'.main = .suspending id →
      s'.channel.length = s.channel.length + t.outbox.length → s'.tasks[id]? = some t' →
      t'.stage = t.stage → t'.outbox = [] →
      t'.suspendRx = (if t.stage = .returning ∧ t.outbox ≠ [] then none else t.suspendRx) →
      s'.CanFinish) : s.CanFinish := by
  obtain ⟨hlt,-⟩ := List.getElem?_eq_some_iff.mp hget
  induction ho : t.outbox generalizing s t with
  | nil => exact h s t hmain (by simp [ho]) hget rfl ho (by simp [ho])
  | cons event rest ih =>
    rw [ho,length_cons] at hfit
    have hs : s.step (.send id) =
        ({ s with tasks := s.tasks.set id (t.sent rest) } : MainLoop).sendEvent event := by
      simp only [step,sendOf,hget,ho]
    rw [sendEvent_room (by simp only; omega)] at hs
    refine .after hs (by simp) (ih hmain (t := t.sent rest) (by simp [hlt]) ?_ ?_ (by simpa) rfl)
    · simp only [length_append,length_singleton,sent]
      omega
    · intro s' t' hmain' hlen hget' hstage hempty hrx
      refine h s' t' hmain' ?_ hget' hstage hempty ?_
      · simp only [length_append,length_singleton,sent] at hlen
        rw [hlen,ho,length_cons]
        omega
      · rw [hrx,ho]
        simp only [sent]
        by_cases hret : t.stage = .returning <;> simp [hret]
        intro hrest
        simp [hrest]

theorem canFinish_returning (hs : t.stage = .returning) (ho : t.outbox ≠ [])
    (hfit : s.channel.length + t.outbox.length ≤ backgroundCapacity) : s.CanFinish := by
  refine canFinish_sent hmain hget hfit (fun s' t' hmain' _ hget' hs' _ hrx => ?_)
  refine canFinish_answered hmain' hget' ?_
  simp [replyPending,hs',hs,hrx,ho]

theorem canFinish_snapshot (hs : t.stage = .snapshot request) (hr : t.suspendRx = none)
    (hfit : s.channel.length + t.outbox.length ≤ backgroundCapacity) : s.CanFinish := by
  refine canFinish_sent hmain hget hfit (fun s' t' hmain' _ hget' hs' ho' hrx => ?_)
  have hstep : t'.step (.suspended (.error "")) = some { t' with
      stage := .returning, outbox := [.podSuspendFailed t'.key ""], vm := .gone } := by
    simp [Supervisor.step,Supervisor.advance,ho',hs',hs]
  refine canFinish_move hmain' hget' hstep (fun s₂ hmain₂ _ hget₂ => ?_)
  refine canFinish_answered hmain₂ hget₂ ?_
  simp [Supervisor.replyPending,hrx,hs,hr]

/-- A pod that is being set up can fail at any time, if need be with its VM. -/
theorem canFinish_setup (hs : t.stage = .setup phase) (hv : t.outbox ≠ [] → t.vm ≠ .absent)
    (hfit : s.channel.length + 1 ≤ backgroundCapacity) : s.CanFinish := by
  have fail : ∀ {s' : MainLoop} {t' : Supervisor}, s'.main = .suspending id →
      s'.tasks[id]? = some t' → s'.channel = s.channel → t'.stage = .setup phase →
      t'.outbox = [] ∨ t'.cancelled ∨ t'.vm = .gone → s'.CanFinish := by
    intro s' t' hmain' hget' hc' hs' hbreak
    have hstep : t'.step (.setupFailed "") = some { t' with
        stage := .returning
        outbox := [if t'.cancelled then .podExited t'.key (-1) else .podFailed t'.key ""]
        vm := .gone } := by
      simp only [Supervisor.step,hs',if_pos hbreak]
    refine canFinish_move hmain' hget' hstep (fun s₂ hmain₂ hc₂ hget₂ => ?_)
    refine canFinish_returning hmain₂ hget₂ rfl (by simp) ?_
    rw [hc₂,hc']
    exact hfit
  by_cases ho : t.outbox = []
  · exact fail hmain hget rfl hs (.inl ho)
  cases hvm : t.vm with
  | absent => exact absurd hvm (hv ho)
  | running =>
    have hstep : t.step .vmDied = some { t with vm := .gone } := by
      simp only [Supervisor.step,hvm,if_true]
    exact canFinish_move hmain hget hstep
      (fun s₂ hmain₂ hc₂ hget₂ => fail hmain₂ hget₂ hc₂ hs (.inr (.inr rfl)))
  | gone => exact fail hmain hget rfl hs (.inr (.inr hvm))

/-- With room for what it still has to send, the supervisor gets to its answer. -/
theorem canFinish_request (ht : t.Tidy)
    (hfit : s.channel.length + t.sendsLeft ≤ backgroundCapacity) : s.CanFinish := by
  cases hr : t.replyPending with
  | false => exact canFinish_answered hmain hget hr
  | true =>
    simp only [Supervisor.sendsLeft,hr,if_true] at hfit
    cases hs : t.stage with
    | setup phase =>
      simp only [hs] at hfit
      exact canFinish_setup hmain hget hs (ht.setup phase hs) hfit
    | monitor tracker =>
      simp only [hs] at hfit
      refine canFinish_sent hmain hget (by omega) (fun s₁ t₁ hmain₁ hlen hget₁ hs₁ ho₁ hrx => ?_)
      have hsome : t.suspendRx.isSome := by simpa only [Supervisor.replyPending,hs] using hr
      obtain ⟨request,hrequest⟩ := isSome_iff_exists.mp hsome
      have hstep : t₁.step .suspendRequested = some { t₁ with
          stage := .snapshot request
          outbox := [.artifactWriteStarted t₁.key.1 request.artifactId request.poolId]
          suspendRx := none } := by
        simp [Supervisor.step,Supervisor.advance,ho₁,hs₁,hs,hrx,hrequest]
      refine canFinish_move hmain₁ hget₁ hstep (fun s₂ hmain₂ hc₂ hget₂ => ?_)
      refine canFinish_snapshot hmain₂ hget₂ rfl rfl ?_
      simp only [hc₂,hlen,length_singleton]
      omega
    | closing outcome =>
      simp only [hs] at hfit
      refine canFinish_sent hmain hget (by omega) (fun s₁ t₁ hmain₁ hlen hget₁ hs₁ ho₁ _ => ?_)
      have hstep : t₁.step .closed = some { t₁ with
          stage := .returning, outbox := [outcome.event t₁.key], vm := .gone } := by
        simp [Supervisor.step,Supervisor.advance,ho₁,hs₁,hs]
      refine canFinish_move hmain₁ hget₁ hstep (fun s₂ hmain₂ hc₂ hget₂ => ?_)
      refine canFinish_returning hmain₂ hget₂ rfl (by simp) ?_
      simp only [hc₂,hlen,length_singleton]
      omega
    | snapshot request =>
      simp only [hs] at hfit
      exact canFinish_snapshot hmain hget hs (ht.snapshot request hs) hfit
    | returning =>
      simp only [hs] at hfit
      refine canFinish_returning hmain hget hs (fun ho => ?_) hfit
      have := ht.ended (.inr ⟨hs,ho⟩)
      simp [Supervisor.replyPending,hs,this] at hr
    | aborted dropped =>
      have := ht.ended (.inl (by rw [hs]; rfl))
      simp [Supervisor.replyPending,hs,this] at hr

end Request

theorem canFinish_of_fits (hb : Bounded 0 s.main.request s) (hin : s.InCommand)
    (hfit : s.channel.length + s.sendsLeft ≤ backgroundCapacity) : s.CanFinish := by
  unfold InCommand at hin
  unfold sendsLeft at hfit
  cases hmain : s.main with
  | sending event =>
    rw [hmain] at hfit
    have hs : s.step .proceed = { s with main := .select }.sendEvent event := by
      simp only [step,proceed,hmain]
    exact .after (hs.trans (sendEvent_room hfit)) (by simp) (.done rfl)
  | stopping id =>
    have hs : s.step .timeout = some { s.abort [id] with main := .select } := by
      simp only [step,timeOut,hmain]
    exact .after hs (by simp) (.done rfl)
  | destroying namespaceId tasks =>
    rw [hmain] at hfit
    exact canFinish_destroying hmain hfit
  | suspending id =>
    cases hget : s.tasks[id]? with
    | some t =>
      simp only [hmain,hget,elim_some] at hfit
      exact canFinish_request hmain hget (hb.tidy t (mem_of_getElem? hget)) hfit
    | none =>
      have hs : s.step .proceed = some { s with main := .select } := by
        simp [step,proceed,hmain,hget]
      exact .after hs (by simp) (.done rfl)
  | select | shuttingDown tasks | exited => simp [hmain,Main.inCommand] at hin

/-- A command can be finished without a receive exactly if the channel has room for the events
that come before its end. -/
theorem canFinish_iff_room {pools : List String} {inputs : List LoopInput}
    (hr : Runs.run step (init pools) inputs = some s) (hin : s.InCommand) :
    s.CanFinish ↔ s.channel.length + s.sendsLeft ≤ backgroundCapacity :=
  ⟨fun h => h.fits (bounded_of_run hr),canFinish_of_fits (bounded_of_run hr) hin⟩

def traffic : LoopInput := .bridge demo 3 none .traffic

theorem podRunning_canFinish :
    ∃ s, Runs.run step (init ["local-default"]) (podRunning ++ [suspendPod]) = some s ∧
      s.InCommand ∧ s.CanFinish := by
  have hroom : (Runs.run step (init ["local-default"]) (podRunning ++ [suspendPod])).any
      (fun s => s.InCommand ∧ s.channel.length + s.sendsLeft ≤ backgroundCapacity) = true := by
    decide +kernel
  obtain ⟨s,hs,h⟩ := (any_eq_true _ _).mp hroom
  obtain ⟨hin,hfit⟩ := of_decide_eq_true h
  exact ⟨s,hs,hin,(canFinish_iff_room hs hin).mpr hfit⟩

/-- A full channel: the loop waits for the supervisor, which waits until the loop takes an event. -/
theorem fullChannel_deadlocks :
    ∃ s, Runs.run step (init ["local-default"])
        (podRunning ++ replicate 254 traffic ++ [suspendPod]) = some s ∧
      s.InCommand ∧ ¬ s.CanFinish := by
  have hfull : (Runs.run step (init ["local-default"])
      (podRunning ++ replicate 254 traffic ++ [suspendPod])).any
      (fun s => s.InCommand ∧ ¬ s.channel.length + s.sendsLeft ≤ backgroundCapacity) = true := by
    decide +kernel
  obtain ⟨s,hs,h⟩ := (any_eq_true _ _).mp hfull
  obtain ⟨hin,hfit⟩ := of_decide_eq_true h
  exact ⟨s,hs,hin,fun h => hfit (h.fits (bounded_of_run hs))⟩

end MainLoop

end Distvirt.Worker
