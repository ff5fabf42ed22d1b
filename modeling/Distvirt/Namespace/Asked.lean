import Distvirt.Namespace.Rest

/-! What a namespace asks the scheduler for. The scheduler hears of a pod when the pod appears
among the sources of the schedule port and when it is gone from there. -/

namespace Distvirt

open ReconcileActions ScheduleRequestDelta List Option Function Ns SmRouter Inc Signal

/-- A message that asks for a lease for the pod, or says that it is no longer wanted. -/
def SchedulerMessage.asks (p : PodId) : SchedulerMessage → Option Bool
  | .requestLease _ podId _ => if podId = p then some true else none
  | .dropRequest _ podId => if podId = p then some false else none
  | _ => none

def asked (p : PodId) (messages : List SchedulerMessage) : List Bool :=
  messages.filterMap (SchedulerMessage.asks p)

/-- Requests and drops take turns, and a request comes first. -/
def Alternates (l : List Bool) : Prop := ∀ i b, l[i]? = some b → (b = true ↔ i % 2 = 0)

theorem Alternates.append (h : Alternates l) (hb : b = true ↔ l.length % 2 = 0) :
    Alternates (l ++ [b]) := by
  intro i c hc
  rcases Nat.lt_trichotomy i l.length with hi | rfl | hi
  · rw [getElem?_append_left hi] at hc
    exact h i c hc
  · rw [getElem?_append_right (Nat.le_refl _),Nat.sub_self] at hc
    cases hc
    exact hb
  · rw [getElem?_eq_none (by simpa using Nat.succ_le_of_lt hi)] at hc
    cases hc

theorem Alternates.last (h : Alternates l) (he : l.length % 2 = 0) : l.getLast? ≠ some true := by
  intro hl
  rw [getLast?_eq_getElem?] at hl
  have hodd := (h _ _ hl).mp rfl
  have hpos : 0 < l.length := by
    refine length_pos_iff.mpr (fun hc => ?_)
    rw [hc] at hl
    cases hl
  omega

/-- The pod is asked for exactly if the snapshot has it. -/
def Agrees (p : PodId) (m : Nat → Option PodScheduleRequest) (l : List Bool) : Prop :=
  Alternates l ∧ (l.length % 2 = 1 ↔ m p ≠ none)

def ScheduleRequestDelta.asks (p : PodId) : ScheduleRequestDelta → Option Bool
  | .request podId _ => if podId = p then some true else none
  | .drop podId => if podId = p then some false else none

theorem asks_message (p : PodId) (namespaceId : NamespaceId) (d : ScheduleRequestDelta) :
    (d.message namespaceId).asks p = d.asks p := by
  cases d <;> rfl

theorem asked_deltas (p : PodId) (namespaceId : NamespaceId) (deltas : List ScheduleRequestDelta) :
    asked p (deltas.map (message namespaceId)) = deltas.filterMap (asks p) := by
  rw [asked,filterMap_map]
  congr 1
  funext d
  exact asks_message p namespaceId d

theorem asked_actions (p : PodId) (namespaceId : NamespaceId) (actions : List ArtifactAction) :
    asked p (actions.map (ArtifactAction.message namespaceId)) = [] := by
  rw [asked,filterMap_map,filterMap_eq_nil_iff]
  intro a _
  cases a <;> rfl

theorem asked_append (p : PodId) (l l' : List SchedulerMessage) :
    asked p (l ++ l') = asked p l ++ asked p l' := filterMap_append

section diff
variable {p : PodId} {current prev : List (Nat × PodScheduleRequest)}

abbrev requestDiff (current prev : List (Nat × PodScheduleRequest)) : List ScheduleRequestDelta :=
  incrementalDiff (fun id v => some (.request id v)) (fun id _ => some (.drop id))
    (fun _ _ _ => none) current prev

/-- One report after the other. -/
theorem agrees_diff (hc : (current.map Prod.fst).Nodup) (hp : (prev.map Prod.fst).Nodup)
    (h : Agrees p (entries prev) l) :
    Agrees p (entries current) (l ++ (requestDiff current prev).filterMap (asks p)) := by
  have fold : ∀ (ds : List ScheduleRequestDelta) (l : List Bool),
      ds.foldl (fun l d => l ++ (d.asks p).toList) l = l ++ ds.filterMap (asks p) := by
    intro ds
    induction ds with
    | nil => simp
    | cons d ds ih =>
      intro l
      rw [foldl_cons,ih,filterMap_cons]
      cases d.asks p <;> simp
  rw [← fold]
  refine diff_keeps (I := Agrees p) hc hp (fun m l id v _ _ _ h => ?_)
    (fun m l id v _ hm _ h => ?_) h
  · by_cases hid : id = p
    · subst hid
      cases hm : m id with
      | none =>
        have heven : l.length % 2 = 0 := by
          have := h.2.not.mpr (not_not.mpr hm)
          omega
        refine ⟨?_,?_⟩
        · simpa [stepOpt,setDelta,asks] using h.1.append (b := true) (by simp [heven])
        · simp only [stepOpt,setDelta,asks,elim_some,if_true,
            toList_some,length_append,length_singleton,update_self]
          simp only [ne_eq,reduceCtorEq,not_false_eq_true,iff_true]
          omega
      | some old =>
        have hodd := h.2.mpr (by rw [hm]; exact some_ne_none _)
        simp only [stepOpt,setDelta,ite_self,elim_none]
        refine ⟨h.1,?_⟩
        simp [hodd]
    · have hne : update m id (some v) p = m p := update_of_ne (Ne.symm hid) _ _
      cases m id with
      | none => simpa [stepOpt,setDelta,asks,hid,Agrees,hne] using h
      | some old => simpa [stepOpt,setDelta,Agrees,hne] using h
  · by_cases hid : id = p
    · subst hid
      have hodd := h.2.mpr (by rw [hm]; exact some_ne_none _)
      refine ⟨?_,?_⟩
      · simpa [stepOpt,asks] using h.1.append (b := false) (by simp [hodd])
      · simp only [stepOpt,asks,elim_some,if_true,
          toList_some,length_append,length_singleton,update_self]
        simp only [ne_eq,not_true_eq_false,iff_false]
        omega
    · have hne : update m id none p = m p := update_of_ne (Ne.symm hid) _ _
      simpa [stepOpt,asks,hid,Agrees,hne] using h

end diff

/-- What was asked for, with what is still queued, agrees with the snapshot of the port. -/
def AskedFor (messages : List SchedulerMessage) (r : DRouter) : Prop :=
  ∀ p, Agrees p
    (entries (r.prev Inc.podRequestsInput (Edge.podScheduleIntent,Signal.podScheduleRequest)
      singleton))
    (asked p messages ++
      (ReconcileActions.schedules r.queue).filterMap (ScheduleRequestDelta.asks p))

theorem schedules_append (l l' : List ReconcileActions.Queued) :
    schedules (l ++ l') = schedules l ++ schedules l' := filterMap_append

theorem schedules_other (h : ¬ (i = .podRequestsInput ∧ t = singleton)) (ds : List (Delta i)) :
    schedules (ds.map (fun d => (t,⟨i,d⟩))) = [] := by
  rw [schedules,filterMap_eq_nil_iff]
  intro q hq
  obtain ⟨d,_,rfl⟩ := mem_map.mp hq
  split
  · rename_i heq
    cases heq
    exact absurd ⟨rfl,rfl⟩ h
  · rfl

theorem schedules_own (ds : List ScheduleRequestDelta) :
    schedules (ds.map (fun d => (singleton,⟨Inc.podRequestsInput,d⟩))) = ds := by
  rw [schedules,filterMap_map]
  exact filterMap_some

/-- The port is told by reports alone. -/
theorem askedFor_told : Router.Told (T := topology) (base n) r₀
    (fun r => r.SnapshotsNodup ∧ AskedFor messages r) where
  same r r' hq hp h := by
    have nodup : Router.Told (T := topology) (base n) r₀ Router.SnapshotsNodup :=
      Router.snapshotsNodup_told
    refine ⟨nodup.same r r' hq hp h.1,fun p => ?_⟩
    rw [hq,hp]
    exact h.2 p
  report r i t hh hs hport h := by
    refine ⟨(Router.snapshotsNodup_told (T := topology)).report r i t hh hs hport h.1,fun p => ?_⟩
    simp only [schedules_append,filterMap_append]
    by_cases hi : i = .podRequestsInput ∧ t = singleton
    · obtain ⟨rfl,rfl⟩ := hi
      have new := agrees_diff (p := p) (Router.collect_nodup (r := r) (t := singleton)
        (e := Edge.podScheduleIntent) (s := podScheduleRequest))
        (h.1 podRequestsInput (Edge.podScheduleIntent,podScheduleRequest) singleton) (h.2 p)
      rw [append_assoc] at new
      have hd : schedules ((topology.sources (.inr podRequestsInput)).flatMap
          (fun source => (r.deltas podRequestsInput singleton source).map
            (fun d => (singleton,⟨Inc.podRequestsInput,d⟩)))) =
          requestDiff (r.collect singleton Edge.podScheduleIntent podScheduleRequest)
            (r.prev podRequestsInput (Edge.podScheduleIntent,podScheduleRequest) singleton) := by
        refine Eq.trans ?_ (schedules_own _)
        have hs : topology.sources (.inr podRequestsInput) =
            [(Edge.podScheduleIntent,podScheduleRequest)] := rfl
        rw [hs,flatMap_singleton]
        rfl
      rw [hd]
      simpa [topology,sources] using new
    · have hd : schedules ((topology.sources (.inr i)).flatMap
          (fun source => (r.deltas i t source).map (fun d => (t,⟨i,d⟩)))) = [] := by
        rw [← map_flatMap]
        exact schedules_other hi _
      have hp : ∀ source, (if podRequestsInput = i ∧ source ∈ topology.sources (.inr i) ∧
          singleton = t then r.collect t source.1 source.2
          else r.prev podRequestsInput source singleton) =
            r.prev podRequestsInput source singleton := by
        intro source
        rw [if_neg]
        rintro ⟨rfl,_,rfl⟩
        exact hi ⟨rfl,rfl⟩
      rw [hd,hp]
      simpa using h.2 p

namespace Namespace

variable {ns : Namespace} {effects : NamespaceEffects}

/-- Only one port takes requests. -/
theorem schedules_filter (queue : List ReconcileActions.Queued)
    (hf : ∀ d, f (singleton,⟨Inc.podRequestsInput,d⟩) = true) :
    schedules (queue.filter f) = schedules queue := by
  induction queue with
  | nil => rfl
  | cons q queue ih =>
    rw [filter_cons]
    split
    · simp only [schedules,filterMap_cons] at ih ⊢
      rw [ih]
    · rename_i hq
      rw [ih,schedules,schedules,filterMap_cons]
      split
      · rfl
      · rename_i hs
        split at hs
        · exact absurd (hf _) hq
        · cases hs

theorem reconcile_schedules : ns.reconcile.1.scheduleDeltas = schedules ns.router.queue := by
  have h : ns.reconcile.1.scheduleDeltas = schedules
      ((ns.router.queue.filter (fun q => topology.incNode q.2.1 ≠ .inr PortKind.timer)).filter
        (fun q => topology.incNode q.2.1 = .inr PortKind.scheduleRequest)) := rfl
  rw [h,schedules_filter _ (fun _ => rfl),schedules_filter _ (fun _ => rfl)]

theorem reconcile_unscheduled (h : ns.Sound) : schedules ns.reconcile.2.2.router.queue = [] := by
  have drained : Calls [.artifact] ns.bounds ns.router
      (earlyPorts.foldl (fun r p => (r.drain p).2) ns.router) :=
    .drains earlyPorts h.ready
  have settled := ArtifactAdapter.reconcile_calls (a := ns.artifact) drained.ready
  rw [schedules,filterMap_eq_nil_iff]
  intro q hq
  rw [reconcile_router] at hq
  have hq := settled.pushed.queue q (mem_of_mem_filter hq)
  rw [foldl_drain] at hq
  have hnot : incNode q.2.1 ∉ earlyPorts := by simpa using (mem_filter.mp hq).2
  split
  · exact absurd (show PortKind.scheduleRequest ∈ earlyPorts by decide) hnot
  · rfl

theorem AskedFor.reconcile (h : ns.Sound) (ha : AskedFor messages ns.router) :
    AskedFor (messages ++ ns.reconcile.1.scheduleDeltas.map
      (message ns.namespaceId)) ns.reconcile.2.2.router := by
  intro p
  rw [(reconcile_pushed h).calls.prev podRequestsInput (by decide),reconcile_unscheduled h,
    asked_append,asked_deltas,reconcile_schedules]
  simpa using ha p

theorem cycleKeeps_asked : CycleKeeps ns₀
    (fun ns effects => AskedFor (messages ++ effects.schedulerMessages) ns.router)
    (fun ns effects => AskedFor (messages ++ effects.schedulerMessages) ns.router)
    (fun ns effects => AskedFor (messages ++ effects.schedulerMessages) ns.router) where
  propagate ns effects r' sound _ ha hp :=
    (askedFor_told.propagate (base_kept sound.ready.specs) sound.ready.holds
      ⟨sound.ready.snapshots,ha⟩ hp).2
  settle ns effects ns' effects' sound _ _ ha collected hm := by
    rw [ite_self,hm,← append_assoc,collected.router]
    exact AskedFor.reconcile sound ha

/-- A step asks and drops in turn, and nothing is queued after it. -/
theorem Rested.askedFor (h : ns.Rested) (ha : AskedFor messages ns.router) (op : Op) :
    Outcome (fun r => AskedFor (messages ++ r.2.schedulerMessages) r.1.router) (fun _ => True)
      (ns.step fuel op) := by
  rw [step_eq]
  refine (pushOp_sound h.sound op).bind (fun r hr => ?_)
  cases r with
  | error ns' =>
    have same : AskedFor (messages ++ []) ns.router := by rwa [append_nil]
    rcases hr with rfl | ⟨rel,workloads,services,rfl⟩
    · exact same
    · exact same
  | ok r =>
    obtain ⟨⟨sound,hprev⟩,hqueue,hm⟩ := hr
    have hnil : r.1.router.queue = [] := by
      refine eq_nil_iff_forall_not_mem.mpr (fun q hq => ?_)
      have := hqueue q hq
      rw [h.queue] at this
      cases this
    have pushed : AskedFor (messages ++ r.2.schedulerMessages) r.1.router := by
      intro p
      rw [hm,hprev podRequestsInput (by simp [incNode,Shared]),hnil,append_nil,← h.queue]
      exact ha p
    refine (cycleKeeps_asked.runCycle sound pushed).imp (fun r' hr' => ?_)
    obtain ⟨ns',effects',ended,asks,rfl⟩ := hr'
    intro p
    have rested : (ns'.finalize effects').1.Rested := ended.rested
    have finalized : Pushed [.artifact] ns' (ns'.finalize effects').1 :=
      finalize_pushed ended.sound
    rw [finalized.calls.prev podRequestsInput (by decide),rested.queue,
      finalize_messages,asked_append,asked_append,asked_actions,append_nil,← asked_append,
      ← ended.queue]
    exact asks p

/-- A pod that no longer exists is not among the sources of the port. -/
theorem Rested.dropped (h : ns.Rested) (hp : ns.getPod p = none) :
    entries (ns.router.prev podRequestsInput (Edge.podScheduleIntent,podScheduleRequest)
      singleton) p = none := by
  rcases h.sound.ready.fresh (.inr podRequestsInput) singleton trivial
    (h.sound.ready.shared PortKind.scheduleRequest (by simp [Shared])) with hc | hc | current
  · cases hc
  · cases h.marks _ hc
  · rw [current _ (mem_singleton_self _)]
    cases hl : entries (ns.router.collect singleton Edge.podScheduleIntent
      podScheduleRequest) p with
    | none => rfl
    | some request =>
      have hout := (Router.lookup_collect.mp hl).2
      refine absurd hp (live_of_out h.sound.ready.holds.toFrame (s := .podScheduleRequest) rfl ?_)
      rw [hout]
      exact some_ne_none _

theorem Rested.alternates (h : ns.Rested) (ha : AskedFor messages ns.router) (p : PodId) :
    Alternates (asked p messages) ∧
      (ns.getPod p = none → (asked p messages).getLast? ≠ some true) := by
  have agrees := ha p
  rw [h.queue] at agrees
  simp only [schedules,filterMap_nil,append_nil] at agrees
  refine ⟨agrees.1,fun hp => agrees.1.last ?_⟩
  have := agrees.2.not.mpr (not_not.mpr (h.dropped hp))
  omega

theorem new_askedFor (id : NamespaceId) (network : NetworkConfig) :
    AskedFor [] (new id network).router := by
  intro p
  have hp : (new id network).router.prev podRequestsInput
      (Edge.podScheduleIntent,podScheduleRequest) singleton = [] := newRouter_prev _ _ _
  rw [hp,(new_rested id network).queue]
  exact ⟨fun i b hb => (nomatch hb),by simp [asked,schedules]⟩

end Namespace

end Distvirt
