import Distvirt.Shell.Shell
import Distvirt.Namespace.Told
import Distvirt.Orchestrator.Outputs
import Distvirt.Orchestrator.Segments

/-! A worker is told of a namespace once, before any command that needs the namespace: what the
shell writes to each connection, over every run. -/

namespace Distvirt

open AList Option Occurrence ConnectedWorkerSummary
open List hiding beq_eq_decide

/-- Commands that need the namespace go to workers of the set, and all are about `id`. -/
structure NamespaceOutput.Within (S : WorkerId → Prop) (id : NamespaceId)
    (output : NamespaceOutput) : Prop where
  commands : ∀ e ∈ output.workerCommands, e.2.About id ∧ (e.2.lookedUp ≠ none → S e.1)
  broadcasts : ∀ c ∈ output.broadcastCommands, c.About id

namespace NamespaceUnit

variable {S : WorkerId → Prop} {unit : NamespaceUnit} {output : NamespaceOutput} {fuel : Nat}
  {id : NamespaceId}

/-- What a step of the unit keeps. -/
def Kept (S : WorkerId → Prop) (id : NamespaceId) (r : NamespaceUnit × NamespaceOutput) : Prop :=
  r.1.ns.Told S id ∧ r.2.Within S id

theorem step_kept (h : unit.ns.Told S id) (op : Namespace.Op)
    (hop : Namespace.Told.Allowed S op) :
    Outcome (Kept S id) (fun _ => True) (unit.step fuel now op) :=
  (h.step hop).map (fun _ hr => ⟨hr.1,hr.2.commands,hr.2.broadcasts⟩)

theorem fire_kept (h : Kept S id (unit,output)) (fired : FiredTimer) :
    Outcome (Kept S id) (fun _ => True) (fire fuel now (unit,output) fired) := by
  obtain ⟨ht,hout⟩ := h
  refine (step_kept ht (.timer fired.identity) trivial).map (fun r hr => ⟨hr.1,?_,?_⟩)
  · intro e he
    exact (mem_append.mp he).elim (hout.commands e) (hr.2.commands e)
  · intro c hc
    exact (mem_append.mp hc).elim (hout.broadcasts c) (hr.2.broadcasts c)

theorem advance_kept (h : Kept S id (unit,output)) :
    Outcome (Kept S id) (fun _ => True) (advance fuel now rounds (unit,output)) := by
  induction rounds generalizing unit output with
  | zero => trivial
  | succ rounds ih =>
    simp only [advance]
    split
    · exact h
    · refine Outcome.bind (P := Kept S id) ?_ (fun r hr => ih hr)
      exact Outcome.foldlM (I := fun _ r => Kept S id r) (fun fired _ r hr => fire_kept hr fired)
        _ _ h

theorem advanceTo_kept (h : unit.ns.Told S id) :
    Outcome (Kept S id) (fun _ => True) (unit.advanceTo fuel now) :=
  advance_kept ⟨h,by simp,by simp⟩

end NamespaceUnit

namespace ProtocolCommand

/-- Neither creates nor destroys a namespace. -/
def Plain : ProtocolCommand → Prop
  | .createNamespace _ _ | .destroyNamespace _ => False
  | _ => True

theorem Plain.not_creates {c : ProtocolCommand} (h : c.Plain) (id : NamespaceId) : ¬ c.Creates id := by
  cases c <;> simp_all [Plain,Creates]

/-- Every command that needs a namespace comes after the one that creates it. -/
def Announced (l : List ProtocolCommand) : Prop :=
  ∀ id l₁ c l₂, l = l₁ ++ c :: l₂ → c.Names id → ∃ c' ∈ l₁, c'.Creates id

theorem Announced.nil : Announced [] := by
  intro id l₁ c l₂ h
  simp at h

theorem Announced.snoc (h : Announced l) (hc : ∀ id, c.Names id → ∃ c' ∈ l, c'.Creates id) :
    Announced (l ++ [c]) := by
  intro id l₁ c' l₂ heq hn
  rcases eq_nil_or_concat l₂ with rfl | ⟨l₂,d,rfl⟩
  · obtain ⟨rfl,hlast⟩ := append_inj' heq rfl
    cases hlast
    exact hc id hn
  · rw [concat_eq_append,← cons_append,← append_assoc] at heq
    obtain ⟨rfl,_⟩ := append_inj' heq rfl
    exact h id l₁ c' l₂ rfl hn

end ProtocolCommand

namespace Shell

open ProtocolCommand OrchestratorCore

variable {s s' : Shell} {w : WorkerId} {id : NamespaceId} {fuel : Nat}

/-- The worker has been told of the namespace. -/
def HasTold (s : Shell) (id : NamespaceId) (w : WorkerId) : Prop := ∃ c ∈ s.stream w, c.Creates id

variable {o : List Occurrence} {c : ProtocolCommand} {e : NamespaceId × OrchestratorToNamespace}

theorem stream_record : (s.record o).stream w = s.stream w ++ o.filterMap (sentTo w) := by
  simp [stream,record]

theorem stream_send : (s.send (w,c)).stream w' =
    s.stream w' ++ if w ∈ s.workers ∧ w = w' then [c] else [] := by
  unfold send
  by_cases hw : w ∈ s.workers
  · by_cases hc : w = w'
    · subst hc
      simp [hw,stream_record,sentTo]
    · simp [hw,stream_record,hc,sentTo]
  · simp [hw]

/-- What is said about the streams and the namespaces, also in the middle of an event. -/
structure Good (s : Shell) : Prop where
  announced : ∀ w, Announced (s.stream w)
  units : ∀ id unit, s.namespaces.lookup id = some unit → unit.ns.Told (s.HasTold id) id

/-- The same streams and namespaces. -/
theorem Good.same (h : s.Good) (hs : ∀ w, s'.stream w = s.stream w)
    (hn : s'.namespaces = s.namespaces) : s'.Good where
  announced w := hs w ▸ h.announced w
  units id unit hu := by
    refine (h.units id unit (hn ▸ hu)).mono (fun w hw => ?_)
    obtain ⟨c,hc,hcr⟩ := hw
    exact ⟨c,by rwa [hs],hcr⟩

theorem hasTold_send (h : s.HasTold id w') : (s.send (w,c)).HasTold id w' := by
  obtain ⟨c',hc',hcr⟩ := h
  exact ⟨c',by rw [stream_send]; exact mem_append_left _ hc',hcr⟩

theorem Good.send (h : s.Good) (hc : ∀ id, c.Names id → s.HasTold id w) : (s.send (w,c)).Good where
  announced w' := by
    rw [stream_send]
    split
    · rename_i hw
      refine (h.announced w').snoc (fun id hn => ?_)
      rw [← hw.2]
      exact hc id hn
    · simpa using h.announced w'
  units id unit hu := by
    have hn : (s.send (w,c)).namespaces = s.namespaces := by
      unfold Shell.send
      split <;> rfl
    exact (h.units id unit (hn ▸ hu)).mono (fun w' hw => hasTold_send hw)

/-- How often the worker was told of the namespace. -/
def created (s : Shell) (w : WorkerId) (id : NamespaceId) : Nat := (s.stream w).countP (Creates id)

theorem hasTold_iff : s.HasTold id w ↔ 0 < s.created w id := by
  simp [HasTold,created,countP_pos_iff]

/-- The announcements of a namespace to a worker in a list. -/
def announcements (w : WorkerId) (id : NamespaceId) (direct : List CreateNamespaceCommand) : Nat :=
  direct.countP (fun c => c.workerId = w ∧ c.namespaceId = id)

/-- A later state in which the given announcements were written. -/
structure Wrote (s s' : Shell) (direct : List CreateNamespaceCommand) : Prop where
  good : s'.Good
  workers : s'.workers = s.workers
  nextWorkerId : s'.nextWorkerId = s.nextWorkerId
  members : SameMembers s.orchestrator s'.orchestrator
  created : ∀ w id, s'.created w id =
    s.created w id + if w ∈ s.workers then announcements w id direct else 0
  undestroyed : ∀ w id, .destroyNamespace id ∈ s'.stream w → .destroyNamespace id ∈ s.stream w

/-- A later state, with nothing new to announce in between. -/
abbrev Passed (s s' : Shell) : Prop := Wrote s s' []

theorem Wrote.trans (h : Wrote s s' direct) (h' : Wrote s' s'' direct') :
    Wrote s s'' (direct ++ direct') where
  good := h'.good
  workers := h'.workers.trans h.workers
  nextWorkerId := h'.nextWorkerId.trans h.nextWorkerId
  members := h.members.trans h'.members
  created w id := by
    rw [h'.created,h.created,h.workers,announcements,announcements,announcements,countP_append]
    split <;> omega
  undestroyed w id hc := h.undestroyed w id (h'.undestroyed w id hc)

theorem Wrote.hasTold (h : Wrote s s' direct) (ht : s.HasTold id w) : s'.HasTold id w := by
  rw [hasTold_iff,h.created]
  exact Nat.add_pos_left (hasTold_iff.mp ht) _

/-- Nothing is written. -/
theorem passed_same (h : s'.Good) (hw : s'.workers = s.workers)
    (hn : s'.nextWorkerId = s.nextWorkerId) (hm : SameMembers s.orchestrator s'.orchestrator)
    (hs : ∀ w, s'.stream w = s.stream w) : Passed s s' :=
  ⟨h,hw,hn,hm,fun w id => by simp [Shell.created,hs,announcements],fun w id hc => hs w ▸ hc⟩

theorem passed_refl (h : s.Good) : Passed s s := passed_same h rfl rfl .refl (fun _ => rfl)

/-- A command that its worker can handle. -/
theorem wrote_send (h : s.Good) (hn : ∀ id, c.Names id → s.HasTold id w)
    (hd : ∀ id, c ≠ .destroyNamespace id)
    (hc : ∀ w' id, announcements w' id direct = if w = w' ∧ c.Creates id then 1 else 0) :
    Wrote s (s.send (w,c)) direct := by
  have same : (s.send (w,c)).workers = s.workers ∧ (s.send (w,c)).nextWorkerId = s.nextWorkerId ∧
      (s.send (w,c)).orchestrator = s.orchestrator := by
    unfold send
    split <;> exact ⟨rfl,rfl,rfl⟩
  refine ⟨h.send hn,same.1,same.2.1,same.2.2 ▸ .refl,fun w' id => ?_,fun w' id hm => ?_⟩
  · rw [created,stream_send,countP_append,created,hc]
    congr 1
    by_cases hw : w = w'
    · subst hw
      by_cases hin : w ∈ s.workers
      · simp [hin,countP_singleton]
      · simp [hin]
    · simp [hw]
  · rw [stream_send] at hm
    refine (mem_append.mp hm).resolve_right (fun hm => ?_)
    split at hm
    · exact hd id (mem_singleton.mp hm).symm
    · cases hm

/-- A list of commands, each of which its worker can handle. -/
theorem sendAll {l : List (WorkerId × ProtocolCommand)} (h : s.Good)
    (hl : ∀ e ∈ l, e.2.Plain ∧ ∀ id, e.2.Names id → s.HasTold id e.1) :
    Passed s (l.foldl send s) := by
  induction l generalizing s with
  | nil => exact passed_refl h
  | cons e l ih =>
    obtain ⟨hp,hn⟩ := hl e (mem_cons_self ..)
    have step : Passed s (s.send e) := by
      refine wrote_send h hn (fun id heq => ?_) (fun w' id => ?_)
      · rw [heq] at hp
        exact hp
      · simp [announcements,hp.not_creates id]
    refine step.trans (ih step.good (fun e' he' => ?_))
    obtain ⟨hp',hn'⟩ := hl e' (mem_cons_of_mem _ he')
    exact ⟨hp',fun id hc => step.hasTold (hn' id hc)⟩

theorem passed_foldlM {P : Shell → α → Prop} (hP : ∀ s s' a, Passed s s' → P s a → P s' a)
    (hf : ∀ s s' a, s.Good → P s a → f s a = some s' → Passed s s') : ∀ (l : List α) (s s' : Shell),
      s.Good → (∀ a ∈ l, P s a) → l.foldlM f s = some s' → Passed s s' := by
  intro l
  induction l with
  | nil =>
    intro s s' h _ hr
    cases hr
    exact passed_refl h
  | cons a l ih =>
    intro s s' h hl hr
    rw [foldlM_cons] at hr
    obtain ⟨mid,hmid,hr⟩ := bind_eq_some_iff.mp hr
    have first := hf s mid a h (hl a (mem_cons_self ..)) hmid
    refine first.trans (ih mid s' first.good (fun b hb => ?_) hr)
    exact hP s mid b first (hl b (mem_cons_of_mem _ hb))

theorem stream_record_unsent (ho : ∀ x ∈ o, x.sentTo w = none) :
    (s.record o).stream w = s.stream w := by
  rw [stream_record,filterMap_eq_nil_iff.mpr ho,append_nil]

/-- Nothing but the log grows. -/
theorem passed_record (h : s.Good) (ho : ∀ w, ∀ x ∈ o, x.sentTo w = none) :
    Passed s (s.record o) := by
  have hs : ∀ w, (s.record o).stream w = s.stream w := fun w => stream_record_unsent (ho w)
  exact passed_same (h.same hs rfl) rfl rfl .refl hs

theorem finishCall_passed (h : s.Good) (hk : NamespaceUnit.Kept (s.HasTold id) id (unit,output)) :
    Passed s (s.finishCall id unit output) := by
  obtain ⟨ht,hout⟩ := hk
  have stored : Passed s { s with namespaces := s.namespaces.insert id unit } := by
    refine passed_same ⟨h.announced,fun id' unit' hu => ?_⟩ rfl rfl .refl (fun _ => rfl)
    rcases insert_cases hu with ⟨rfl,rfl⟩ | ⟨_,hu⟩
    · exact ht
    · exact h.units id' unit' hu
  have emitted := stored.trans (passed_record (o := output.toOrchestrator.map (.emitted id))
    stored.good (by simp [sentTo]))
  refine emitted.trans (sendAll emitted.good (fun e he => ?_))
  have told : ∀ c : WorkerCommand, c.About id → (c.lookedUp ≠ none → s.HasTold id e.1) →
      e.2 = .ofNamespace c → e.2.Plain ∧ ∀ id', e.2.Names id' →
        (record { s with namespaces := s.namespaces.insert id unit }
          (output.toOrchestrator.map (.emitted id))).HasTold id' e.1 := by
    intro c ha hw hc
    rw [hc]
    refine ⟨trivial,fun id' hn => ?_⟩
    have heq : id' = id := ha id' hn
    subst heq
    exact emitted.hasTold (hw (by rw [hn]; simp))
  rcases mem_append.mp he with he | he
  · obtain ⟨c,hc,he⟩ := mem_flatMap.mp he
    obtain ⟨w,hw,rfl⟩ := mem_map.mp he
    exact told c (hout.broadcasts c hc) (fun _ => ht.active w (mem_filter.mp hw).2) rfl
  · obtain ⟨c,hc,rfl⟩ := mem_map.mp he
    obtain ⟨ha,hw⟩ := hout.commands c hc
    exact told c.2 ha hw rfl

theorem callUnit_passed (h : s.Good)
    {call : NamespaceUnit → Except Fault (NamespaceUnit × NamespaceOutput)}
    (hcall : ∀ unit, unit.ns.Told (s.HasTold id) id →
      Outcome (NamespaceUnit.Kept (s.HasTold id) id) (fun _ => True) (call unit))
    (hr : s.callUnit id call = some (s',messages)) :
    Passed s s' := by
  unfold callUnit at hr
  split at hr
  · cases hr
    exact passed_refl h
  · rename_i unit hu
    split at hr
    · cases hr
    · rename_i unit' output heq
      cases hr
      exact finishCall_passed h ((hcall unit (h.units id unit hu)).of_ok heq)

/-- A worker is announced to a namespace only after the namespace to the worker. -/
def Introduced (s : Shell) (e : NamespaceId × OrchestratorToNamespace) : Prop :=
  ∀ w, e.2.announced = some w → s.HasTold e.1 w

theorem Introduced.mono (h : s.Introduced e)
    (hg : Passed s s') : s'.Introduced e := fun w hw => hg.hasTold (h w hw)

theorem introduced_of_none (h : e.2.announced = none) :
    s.Introduced e := fun w hw => by
  rw [h] at hw
  cases hw

theorem handOver_passed (h : s.Good)
    (he : s.Introduced e)
    (hr : s.handOver fuel now e = some (s',messages)) : Passed s s' := by
  unfold handOver at hr
  have logged : Passed s (if e.1 ∈ s.namespaces then s.record [.handled e.1 e.2] else s) := by
    split
    · exact passed_record h (by simp [sentTo])
    · exact passed_refl h
  refine logged.trans (callUnit_passed logged.good (fun unit ht => ?_) hr)
  refine NamespaceUnit.step_kept ht _ ?_
  obtain ⟨id,message⟩ := e
  cases message with
  | workerConnected w info => exact logged.hasTold (he w rfl)
  | _ => trivial

theorem wrote_directs : ∀ (direct : List CreateNamespaceCommand) (s : Shell), s.Good →
    Wrote s ((direct.map (fun c => (c.workerId,ProtocolCommand.createNamespace c.namespaceId
      c.network))).foldl send s) direct := by
  intro direct
  induction direct with
  | nil => exact fun s h => passed_refl h
  | cons c direct ih =>
    intro s h
    have first : Wrote s (s.send (c.workerId,.createNamespace c.namespaceId c.network)) [c] :=
      wrote_send h (fun _ hn => hn.elim) nofun
        (fun w' id => by simp [announcements,countP_singleton,Creates]; rfl)
    exact first.trans (ih _ first.good)

/-- The announcements go out first. -/
theorem writeOutput_wrote (h : s.Good) (output : OrchestratorOutput) :
    Wrote s (s.writeOutput output) output.directWorkerCommands := by
  have logged := passed_record h
    (o := output.toNamespaces.map (fun e => issued e.1 e.2)) (fun w o ho => by
      obtain ⟨e,_,rfl⟩ := mem_map.mp ho
      rfl)
  have direct := wrote_directs output.directWorkerCommands _ logged.good
  have rest := sendAll (l := output.globalBroadcasts.flatMap (fun registry =>
      s.workers.keys.map (fun w => (w,.workerRegistrySync registry))) ++
      output.workerCommands.map (fun c => (c.workerId,.deleteArtifact c.artifactId c.poolId)))
    direct.good (fun e he => by
      rcases mem_append.mp he with he | he
      · obtain ⟨registry,_,he⟩ := mem_flatMap.mp he
        obtain ⟨w,_,rfl⟩ := mem_map.mp he
        exact ⟨trivial,fun _ hn => hn.elim⟩
      · obtain ⟨c,_,rfl⟩ := mem_map.mp he
        exact ⟨trivial,fun _ hn => hn.elim⟩)
  have all := (logged.trans direct).trans rest
  simp only [nil_append,append_nil] at all
  simpa only [writeOutput,orchestratorCommands,foldl_append,append_assoc] using all

/-- A call of the orchestrator that announces nothing. -/
theorem called_passed (h : s.Good) {a : Routed} (hm : SameMembers s.orchestrator a.1)
    (hd : a.2.directWorkerCommands = []) (ho : ∀ w, ∀ x ∈ o, x.sentTo w = none) :
    Passed s ((record { s with orchestrator := a.1 } o).writeOutput a.2) := by
  have called : Passed s { s with orchestrator := a.1 } :=
    passed_same (h.same (fun _ => rfl) rfl) rfl rfl hm (fun _ => rfl)
  have logged := called.trans (passed_record called.good ho)
  have written := writeOutput_wrote logged.good a.2
  rw [hd] at written
  exact logged.trans written

theorem deliverInner_passed (h : s.Good)
    (he : s.Introduced e) (hr : s.deliverInner fuel now e = some s') : Passed s s' := by
  obtain ⟨⟨mid,messages⟩,hmid,rfl⟩ := map_eq_some_iff.mp hr
  exact handOver_passed h he hmid

theorem processMessage_passed (h : s.Good) (hr : processMessage fuel now id s message = some s') :
    Passed s s' := by
  unfold processMessage at hr
  obtain ⟨⟨orchestrator,output⟩,hcall,hr⟩ := bind_eq_some_iff.mp hr
  have quiet := process_unannounced hcall
  have written := called_passed (o := [.processed id message]) h quiet.members quiet.silent.direct
    (by simp [sentTo])
  refine written.trans (passed_foldlM (P := Introduced) (fun _ _ _ hg hi => hi.mono hg)
    (fun _ _ _ hg hi hd => deliverInner_passed hg hi hd) _ _ _ written.good (fun e he => ?_) hr)
  exact introduced_of_none (quiet.silent.messages e he)

theorem routeNamespaceOutput_passed (h : s.Good)
    (hr : routeNamespaceOutput fuel now id s messages = some s') : Passed s s' :=
  passed_foldlM (P := fun _ _ => True) (fun _ _ _ _ _ => trivial)
    (fun _ _ _ hg _ hp => processMessage_passed hg hp) _ _ _ h (fun _ _ => trivial) hr

theorem deliver_passed (h : s.Good)
    (he : s.Introduced e) (hr : s.deliver fuel now e = some s') : Passed s s' := by
  unfold deliver at hr
  obtain ⟨⟨mid,messages⟩,hmid,hr⟩ := bind_eq_some_iff.mp hr
  have first := handOver_passed h he hmid
  exact first.trans (routeNamespaceOutput_passed first.good hr)

theorem deliverAll_passed (h : s.Good) {l : List (NamespaceId × OrchestratorToNamespace)}
    (hl : ∀ e ∈ l, s.Introduced e) (hr : l.foldlM (deliver fuel now) s = some s') : Passed s s' :=
  passed_foldlM (P := Introduced) (fun _ _ _ hg hi => hi.mono hg)
    (fun _ _ _ hg hi hd => deliver_passed hg hi hd) _ _ _ h hl hr

theorem afterUnit_passed (h : s.Good)
    {call : NamespaceUnit → Except Fault (NamespaceUnit × NamespaceOutput)}
    (hcall : ∀ unit, unit.ns.Told (s.HasTold id) id →
      Outcome (NamespaceUnit.Kept (s.HasTold id) id) (fun _ => True) (call unit))
    (hr : s.afterUnit fuel now id call = some s') : Passed s s' := by
  unfold afterUnit at hr
  obtain ⟨⟨mid,messages⟩,hmid,hr⟩ := bind_eq_some_iff.mp hr
  have first := callUnit_passed h hcall hmid
  exact first.trans (routeNamespaceOutput_passed first.good hr)

theorem advanceAll_passed (h : s.Good) (hr : s.advanceAll fuel now = some s') : Passed s s' := by
  refine passed_foldlM (P := fun _ _ => True) (fun _ _ _ _ _ => trivial) (fun s s' id hg _ hs => ?_)
    _ _ _ h (fun _ _ => trivial) hr
  exact afterUnit_passed hg (fun unit ht => NamespaceUnit.advanceTo_kept ht) hs

/-- A call of the orchestrator that announces nothing. -/
theorem afterCall_passed (h : s.Good)
    (hs : ∀ a, called = some a → SameMembers s.orchestrator a.1 ∧ Silent a)
    (hr : s.afterCall fuel now called = some s') : Passed s s' := by
  unfold afterCall at hr
  obtain ⟨a,ha,hr⟩ := bind_eq_some_iff.mp hr
  obtain ⟨hm,hsilent⟩ := hs a ha
  have written := called_passed (o := []) h hm hsilent.direct nofun
  simp only [record,append_nil] at written
  exact written.trans (deliverAll_passed written.good
    (fun e he => introduced_of_none (hsilent.messages e he)) hr)

theorem good_setOrchestrator (h : s.Good) (orchestrator : OrchestratorCore) :
    ({ s with orchestrator } : Shell).Good := h.same (fun _ => rfl) rfl

/-- A call of the orchestrator, with its announcements. -/
theorem afterCall_wrote (h : s.Good)
    (hintro : ∀ s', Wrote { s with orchestrator := a.1 } s' a.2.directWorkerCommands →
      ∀ e ∈ a.2.toNamespaces, s'.Introduced e) (hr : s.afterCall fuel now (some a) = some s') :
    Wrote { s with orchestrator := a.1 } s' a.2.directWorkerCommands := by
  have written := writeOutput_wrote (good_setOrchestrator h a.1) a.2
  have delivered := deliverAll_passed written.good (hintro _ written) hr
  have all := written.trans delivered
  rwa [append_nil] at all

/-- The connections, the ids and the namespaces agree. -/
structure Roster (s : Shell) : Prop where
  slots : ∀ w, w ∈ s.workers ↔ w ∈ s.orchestrator.connectedWorkers
  networks : ∀ id ∈ s.orchestrator.namespaceIds, id ∈ s.orchestrator.namespaceNetworks
  numbered : ∀ id ∈ s.orchestrator.namespaceIds, id.id < s.orchestrator.nextNamespaceId
  old : ∀ w ∈ s.workers, w < s.nextWorkerId

theorem Wrote.roster (hw : Wrote s s' direct) (h : s.Roster) : s'.Roster := by
  refine ⟨?_,?_,?_,?_⟩
  · rw [hw.workers,hw.members.1]
    exact h.slots
  · rw [hw.members.2,hw.members.3]
    exact h.networks
  · rw [hw.members.2,hw.members.4]
    exact h.numbered
  · rw [hw.workers,hw.nextWorkerId]
    exact h.old

/-- The state between two events. -/
structure Inv (s : Shell) : Prop extends Roster s where
  good : s.Good
  fresh : ∀ w id, s.nextWorkerId ≤ w → s.created w id = 0
  unknown : ∀ w id, s.orchestrator.nextNamespaceId ≤ id.id → s.created w id = 0
  once : ∀ w id, s.created w id ≤ 1
  met : ∀ w ∈ s.workers, ∀ id ∈ s.orchestrator.namespaceIds, s.created w id = 1
  undestroyed : ∀ w id, .destroyNamespace id ∉ s.stream w

namespace Inv

theorem init : Inv new where
  good := ⟨fun _ => .nil,fun _ _ h => by simp [new] at h⟩
  slots w := by simp [new,OrchestratorCore.new]
  networks id h := absurd h (notMem_empty id)
  numbered id h := absurd h (notMem_empty id)
  old w h := absurd h (notMem_empty w)
  fresh _ _ _ := rfl
  unknown _ _ _ := rfl
  once _ _ := Nat.zero_le _
  met w h := absurd h (notMem_empty w)
  undestroyed w id h := by simp [stream,new] at h

/-- Each pair of `new` is announced for the first time, and there is no other pair that has to be
announced. -/
theorem announced {s₁ : Shell} (h : s.Inv) (wrote : Wrote s₁ s' direct)
    (new : WorkerId → NamespaceId → Prop) [DecidableRel new] (hs : ∀ w, s₁.stream w = s.stream w)
    (hd : ∀ w id, announcements w id direct = if new w id then 1 else 0)
    (hnew : ∀ w id, new w id → w ∈ s₁.workers ∧ id.id < s₁.orchestrator.nextNamespaceId ∧
      s.created w id = 0) (hr : s₁.Roster) (hw : s.nextWorkerId ≤ s₁.nextWorkerId)
    (hn : s.orchestrator.nextNamespaceId ≤ s₁.orchestrator.nextNamespaceId)
    (hmet : ∀ w ∈ s₁.workers, ∀ id ∈ s₁.orchestrator.namespaceIds, new w id ∨
      w ∈ s.workers ∧ id ∈ s.orchestrator.namespaceIds) : s'.Inv := by
  have told : ∀ w id, s'.created w id = if new w id then 1 else s.created w id := by
    intro w id
    rw [wrote.created,hd,Shell.created,hs,← Shell.created]
    by_cases hc : new w id
    · obtain ⟨hm,_,h0⟩ := hnew w id hc
      simp [hc,hm,h0]
    · simp [hc]
  refine ⟨wrote.roster hr,wrote.good,fun w id hle => ?_,fun w id hle => ?_,fun w id => ?_,
    fun w hm id hid => ?_,fun w id hc => h.undestroyed w id (hs w ▸ wrote.undestroyed w id hc)⟩
  · rw [wrote.nextWorkerId] at hle
    rw [told,if_neg (fun hc => absurd (hr.old w (hnew w id hc).1) (Nat.not_lt.mpr hle))]
    exact h.fresh w id (Nat.le_trans hw hle)
  · rw [wrote.members.4] at hle
    rw [told,if_neg (fun hc => absurd (hnew w id hc).2.1 (Nat.not_lt.mpr hle))]
    exact h.unknown w id (Nat.le_trans hn hle)
  · rw [told]
    split
    · exact Nat.le_refl 1
    · exact h.once w id
  · rw [wrote.workers] at hm
    rw [wrote.members.2] at hid
    rw [told]
    split
    · rfl
    · rename_i hc
      obtain ⟨hm,hid⟩ := (hmet w hm id hid).resolve_left hc
      exact h.met w hm id hid

/-- Nothing had to be announced, and nothing was. -/
theorem unannounced {s₁ : Shell} (h : s.Inv) (wrote : Passed s₁ s')
    (hs : ∀ w, s₁.stream w = s.stream w) (hr : s₁.Roster)
    (hw : s₁.nextWorkerId = s.nextWorkerId)
    (hn : s₁.orchestrator.nextNamespaceId = s.orchestrator.nextNamespaceId)
    (hmet : ∀ w ∈ s₁.workers, ∀ id ∈ s₁.orchestrator.namespaceIds,
      w ∈ s.workers ∧ id ∈ s.orchestrator.namespaceIds) : s'.Inv :=
  h.announced wrote (fun _ _ => False) hs (fun _ _ => rfl) (fun _ _ hc => hc.elim) hr
    (Nat.le_of_eq hw.symm) (Nat.le_of_eq hn.symm) (fun w hm id hid => .inr (hmet w hm id hid))

theorem passed (h : s.Inv) (hp : Passed s s') : s'.Inv :=
  h.unannounced hp (fun _ => rfl) h.toRoster rfl rfl (fun _ hw _ hid => ⟨hw,hid⟩)

/-- A new worker is told of each live namespace once. -/
theorem announcements_connected {l : List NamespaceId} (hn : l.Nodup)
    (hl : ∀ id ∈ l, id ∈ core.namespaceNetworks) :
    announcements w' id (l.flatMap (announcement w core)) = if w = w' ∧ id ∈ l then 1 else 0 := by
  have counted : announcements w' id (l.flatMap (announcement w core)) =
      if w = w' then l.count id else 0 := by
    clear hn
    induction l with
    | nil => simp [announcements]
    | cons ns l ih =>
      obtain ⟨network,hnet⟩ := mem_iff.mp (hl ns (mem_cons_self ..))
      have rest := ih (fun id' h => hl id' (mem_cons_of_mem _ h))
      simp only [announcements] at rest
      simp only [announcements,flatMap_cons,countP_append,rest,announcement,hnet,
        map_some,toList_some,countP_singleton,count_cons]
      by_cases hw : w = w'
      · simp [hw,Nat.add_comm]
      · simp [hw]
  rw [counted,hn.count,ite_and]

theorem announcements_created {l : List ConnectedWorkerSummary}
    (hn : (l.map workerId).Nodup) :
    announcements w id (l.map (fun summary => ⟨summary.workerId,ns,network⟩)) =
      if id = ns ∧ w ∈ l.map workerId then 1 else 0 := by
  rw [ite_and,← hn.count]
  by_cases hid : id = ns
  · simp [announcements,hid,List.count,List.countP_map,Function.comp_def,beq_eq_decide]
  · simp [announcements,hid,Ne.symm hid,List.countP_map,Function.comp_def]

theorem workerConnection (h : s.Inv)
    (hr : s.workerConnection fuel now capabilities tunnelInfo = some s') : s'.Inv := by
  simp only [Shell.workerConnection] at hr
  cases hcall : s.orchestrator.workerConnected
      ⟨s.nextWorkerId,capabilities,tunnelInfo,s.nextWorkerId⟩ with
  | none => simp [hcall,afterCall] at hr
  | some a =>
    rw [hcall] at hr
    obtain ⟨⟨connected,hm⟩,hd,hmsg⟩ := workerConnected_out hcall
    have count : ∀ w id, announcements w id a.2.directWorkerCommands =
        if s.nextWorkerId = w ∧ id ∈ s.orchestrator.namespaceIds then 1 else 0 := by
      intro w id
      rw [hd]
      exact (announcements_connected s.orchestrator.namespaceIds.nodupKeys h.networks).trans
        (if_congr .rfl rfl rfl)
    have new : s.nextWorkerId ∈ s.workers.insert s.nextWorkerId () :=
      (mem_insert _).mpr (.inl rfl)
    have good : ({ s with
        nextWorkerId := s.nextWorkerId + 1
        workers := s.workers.insert s.nextWorkerId () } : Shell).Good :=
      h.good.same (fun _ => rfl) rfl
    have wrote := afterCall_wrote good (fun s₂ wrote e he w hw => by
      obtain ⟨rfl,hlive⟩ := hmsg e he w hw
      rw [hasTold_iff,wrote.created,if_pos new,count,if_pos ⟨rfl,hlive⟩]
      exact Nat.succ_pos _) hr
    refine h.announced wrote (fun w id => s.nextWorkerId = w ∧ id ∈ s.orchestrator.namespaceIds)
      (fun _ => rfl) count (fun w id hc => ?_) ⟨fun w => ?_,?_,?_,fun w hw => ?_⟩
      (Nat.le_succ _) (Nat.le_of_eq hm.4.symm) (fun w hw id hid => ?_)
    · obtain ⟨rfl,hid⟩ := hc
      exact ⟨new,hm.4 ▸ h.numbered id hid,h.fresh _ id (Nat.le_refl _)⟩
    · rw [hm.1,mem_insert,mem_insert,h.slots]
    · rw [hm.2,hm.3]
      exact h.networks
    · rw [hm.2,hm.4]
      exact h.numbered
    · rcases (mem_insert _).mp hw with rfl | hw
      · exact Nat.lt_succ_self _
      · exact Nat.lt_succ_of_lt (h.old w hw)
    · rw [hm.2] at hid
      rcases (mem_insert _).mp hw with rfl | hw
      · exact .inl ⟨rfl,hid⟩
      · exact .inr ⟨hw,hid⟩

/-- The announcements of a new namespace were written. -/
theorem announcedNew (h : s.Inv) (hns : ns.id = s.orchestrator.nextNamespaceId)
    (hw : core.connectedWorkers = s.orchestrator.connectedWorkers)
    (hnext : core.nextNamespaceId = s.orchestrator.nextNamespaceId + 1)
    (hids : core.namespaceIds = s.orchestrator.namespaceIds.insert ns ())
    (hnets : core.namespaceNetworks = s.orchestrator.namespaceNetworks.insert ns network)
    (hd : direct = s.orchestrator.summaries.map (fun summary => ⟨summary.workerId,ns,network⟩))
    (wrote : Wrote { s with orchestrator := core } s' direct) : s'.Inv := by
  refine h.announced wrote (fun w id => id = ns ∧ w ∈ s.workers) (fun _ => rfl) (fun w id => ?_)
    (fun w id hc => ?_) ⟨fun w => ?_,fun id hid => ?_,fun id hid => ?_,h.old⟩ (Nat.le_refl _)
    (by simp only; omega) (fun w hm id hid => ?_)
  · rw [hd,announcements_created (by
      rw [summaries_workers]
      exact s.orchestrator.connectedWorkers.nodupKeys),summaries_workers]
    exact if_congr (and_congr_right (fun _ => (h.slots w).symm)) rfl rfl
  · obtain ⟨rfl,hm⟩ := hc
    refine ⟨hm,?_,h.unknown w id (Nat.le_of_eq hns.symm)⟩
    simp only
    omega
  · rw [hw]
    exact h.slots w
  · rw [hids] at hid
    rw [hnets]
    exact (mem_insert _).mpr (((mem_insert _).mp hid).imp_right (h.networks id))
  · rw [hids] at hid
    rw [hnext]
    rcases (mem_insert _).mp hid with rfl | hid
    · omega
    · exact Nat.lt_succ_of_lt (h.numbered id hid)
  · rw [hids] at hid
    exact ((mem_insert _).mp hid).imp (fun heq => ⟨heq,hm⟩) (fun hold => ⟨hm,hold⟩)

/-- A new namespace knows no worker yet. -/
theorem start (h : s.Inv) (id : NamespaceId) (network : NetworkConfig) :
    ({ s with namespaces := s.namespaces.insert id (.new id network) } : Shell).Inv := by
  refine { h with good := ⟨h.good.announced,fun id' unit hu => ?_⟩ }
  rcases insert_cases hu with ⟨rfl,rfl⟩ | ⟨_,hu⟩
  · exact .init _ network
  · exact h.good.units id' unit hu

theorem createNamespace (h : s.Inv) (hr : s.createNamespace fuel now name network = some s') :
    s'.Inv := by
  unfold Shell.createNamespace at hr
  obtain ⟨⟨result,called⟩,hcall,hrest⟩ := bind_eq_some_iff.mp hr
  obtain ⟨mid,hmid,hlast⟩ := bind_eq_some_iff.mp hrest
  rcases createNamespace_out hcall with ⟨⟨e,rfl⟩,rfl⟩ |
    ⟨info,rfl,hid,hworkers,hw,hnext,hids,hnets,hd,hmsg⟩
  · obtain rfl : mid = s' := some.inj hlast
    refine h.passed (afterCall_passed h.good (fun a ha => ?_) hmid)
    cases ha
    exact ⟨.refl,rfl,by simp⟩
  · have wrote := afterCall_wrote h.good (fun _ _ e he => introduced_of_none (hmsg e he)) hmid
    have started := (h.announcedNew (by rw [hid]) hw hnext hids hnets hd wrote).start
      info.namespaceId info.network.network
    refine started.passed (passed_foldlM
      (P := fun s (summary : ConnectedWorkerSummary) => s.HasTold info.namespaceId summary.workerId)
      (fun _ _ _ hg ht => hg.hasTold ht) (fun s s' summary hg ht hd => deliver_passed hg (fun w hw => ?_) hd)
      _ _ _ started.good (fun summary hs => ?_) hlast)
    · cases hw
      exact ht
    · have hslot : summary.workerId ∈ mid.workers := by
        rw [wrote.workers,h.slots]
        rw [hworkers] at hs
        have := mem_map_of_mem (f := workerId) hs
        rwa [summaries_workers] at this
      rw [hasTold_iff,started.met _ hslot]
      · exact Nat.one_pos
      · rw [wrote.members.2,hids]
        exact (mem_insert _).mpr (.inl rfl)

/-- Destroying a namespace announces nothing, and writes nothing about the namespace. -/
theorem destroyNamespace_wrote (h : s.Good) (hr : s.destroyNamespace fuel now id = some s') :
    ∃ result a, s.orchestrator.destroyNamespace id = some (result,a) ∧
      Wrote { s with
        namespaces := s.namespaces.erase id
        orchestrator := a.1 } s' [] := by
  unfold Shell.destroyNamespace at hr
  cases hcall : s.orchestrator.destroyNamespace id with
  | none => simp [hcall,afterCall] at hr
  | some r =>
    rw [hcall,map_some] at hr
    obtain ⟨_,_,_,_,hsilent⟩ := destroyNamespace_out hcall
    have good : ({ s with namespaces := s.namespaces.erase id } : Shell).Good := by
      refine ⟨h.announced,fun id' unit hu => ?_⟩
      exact h.units id' unit (erase_cases hu).2
    have wrote := afterCall_wrote good
      (fun _ _ e he => introduced_of_none (hsilent.messages e he)) hr
    rw [hsilent.direct] at wrote
    exact ⟨r.1,r.2,rfl,wrote⟩

theorem destroyNamespace (h : s.Inv) (hr : s.destroyNamespace fuel now id = some s') : s'.Inv := by
  obtain ⟨result,a,hcall,wrote⟩ := destroyNamespace_wrote h.good hr
  obtain ⟨hw,hnext,hids,hnets,_⟩ := destroyNamespace_out hcall
  have live : ∀ id' ∈ a.1.namespaceIds, id' ≠ id ∧ id' ∈ s.orchestrator.namespaceIds := by
    intro id' hid'
    rw [hids] at hid'
    exact mem_erase.mp hid'
  refine h.unannounced wrote (fun _ => rfl) ⟨fun w => ?_,fun id' hid' => ?_,fun id' hid' => ?_,
    h.old⟩ rfl hnext (fun w hm id' hid' => ⟨hm,(live id' hid').2⟩)
  · rw [hw]
    exact h.slots w
  · obtain ⟨hne,hlive⟩ := live id' hid'
    rw [mem_iff,hnets id' hne]
    exact mem_iff.mp (h.networks id' hlive)
  · rw [hnext]
    exact h.numbered id' (live id' hid').2

theorem workerDisconnected (h : s.Inv) (hr : s.workerDisconnected fuel now w = some s') :
    s'.Inv := by
  unfold Shell.workerDisconnected at hr
  obtain ⟨mid,hmid,rfl⟩ := map_eq_some_iff.mp hr
  cases hcall : s.orchestrator.workerDisconnected w with
  | none => simp [hcall,afterCall] at hmid
  | some a =>
    rw [hcall] at hmid
    obtain ⟨hm,hsilent⟩ := workerDisconnected_out hcall
    have wrote := afterCall_wrote h.good
      (fun _ _ e he => introduced_of_none (hsilent.messages e he)) hmid
    have gone : Passed { s with orchestrator := a.1, workers := s.workers.erase w }
        { mid with workers := mid.workers.erase w } := by
      refine ⟨wrote.good.same (fun _ => rfl) rfl,by rw [wrote.workers],wrote.nextWorkerId,
        wrote.members,fun w id => ?_,wrote.undestroyed⟩
      have same := wrote.created w id
      simp only [hsilent.direct,announcements,countP_nil,ite_self] at same ⊢
      exact same
    refine h.unannounced gone (fun _ => rfl) ⟨fun w' => ?_,?_,?_,
      fun w' hw' => h.old w' (mem_erase.mp hw').2⟩ rfl hm.4 (fun w' hw' id hid => ?_)
    · rw [hm.1,mem_erase,mem_erase]
      exact and_congr_right (fun _ => h.slots w')
    · rw [hm.2,hm.3]
      exact h.networks
    · rw [hm.2,hm.4]
      exact h.numbered
    · exact ⟨(mem_erase.mp hw').2,hm.2 ▸ hid⟩

theorem handleReport (h : s.Inv) (hr : s.handleReport fuel now w report = some s') : s'.Inv := by
  have called : ∀ input, s.afterCall fuel now (s.orchestrator.process input) = some s' → s'.Inv :=
    fun input hr => h.passed (afterCall_passed h.good (fun a ha =>
      ⟨(process_unannounced ha).members,(process_unannounced ha).silent⟩) hr)
  cases report with
  | namespaceEvent id event => exact h.passed (deliver_passed h.good (introduced_of_none rfl) hr)
  | pressureUpdate psi | poolCapacityUpdate pools | conditionUpdate key active
  | artifactEvent event => exact called _ hr

theorem handleEvent (h : s.Inv) (hr : s.handleEvent fuel now event = some s') : s'.Inv := by
  have stepped : ∀ id op, Namespace.Told.Allowed (s.HasTold id) op →
      s.afterUnit fuel now id (fun unit => unit.step fuel now op) = some s' → s'.Inv :=
    fun id op hop hr => h.passed (afterUnit_passed h.good
      (fun unit ht => NamespaceUnit.step_kept ht op hop) hr)
  cases event with
  | workerConnection capabilities tunnelInfo => exact h.workerConnection hr
  | handshakeFailed =>
    cases hr
    exact { h with
      good := h.good.same (fun _ => rfl) rfl
      old := fun w hw => Nat.lt_succ_of_lt (h.old w hw)
      fresh := fun w id hw => h.fresh w id (Nat.le_of_succ_le hw) }
  | createNamespace name network => exact h.createNamespace hr
  | destroyNamespace id => exact h.destroyNamespace hr
  | updateNamespace id spec => exact stepped id (.fullSpec spec) trivial hr
  | patchNamespace id patch => exact stepped id (.patch patch) trivial hr
  | connectNetwork id key wireguardWorker =>
    cases wireguardWorker with
    | none =>
      cases hr
      exact h
    | some w => exact h.passed (deliver_passed h.good (introduced_of_none rfl) hr)
  | disconnectNetwork id key => exact h.passed (deliver_passed h.good (introduced_of_none rfl) hr)
  | report w report => exact h.handleReport hr
  | workerDisconnected w => exact h.workerDisconnected hr
  | deadline =>
    cases hr
    exact h

theorem step (h : s.Inv) (hr : s.step fuel event = some s') : s'.Inv := by
  obtain ⟨mid,hmid,hr⟩ := bind_eq_some_iff.mp hr
  have handled := h.handleEvent hmid
  exact handled.passed (advanceAll_passed handled.good hr)

theorem run (h : s.Inv) (hr : s.run fuel events = some s') : s'.Inv :=
  Runs.run_keeps (I := Inv) (fun _ _ _ hi hs => hi.step hs) h hr

end Inv

end Shell

namespace Worker.Node

open ProtocolCommand

/-- A worker that handles a stream from its start finds every namespace it looks up. -/
theorem run_found (ha : Announced l) (hd : ∀ id, .destroyNamespace id ∉ l) :
    ∀ (inputs : List Input) (node : Node)
      (l₁ l₂ : List ProtocolCommand), l = l₁ ++ inputs.filterMap Input.received ++ l₂ →
      (∀ id, (∃ c ∈ l₁, c.Creates id) → id ∈ node.namespaces) →
      ∀ id, node.run inputs ≠ .error (.namespaceNotFound id) := by
  intro inputs
  induction inputs with
  | nil =>
    intro node l₁ l₂ _ _ id h
    cases h
  | cons input inputs ih =>
    intro node l₁ l₂ hl hn id h
    rw [run,foldlM_cons] at h
    cases input with
    | podFinished ns p =>
      simp only [step] at h
      cases hp : node.namespaces.lookup ns with
      | none =>
        rw [hp] at h
        exact ih node l₁ l₂ hl hn id h
      | some pods =>
        rw [hp] at h
        exact ih _ l₁ l₂ hl (fun id' hc => mem_withPods (hn id' hc)) id h
    | receive sound c =>
      have hl' : l = l₁ ++ c :: (inputs.filterMap Input.received ++ l₂) := by
        rw [hl]
        simp [Input.received]
      simp only [step] at h
      cases hc : node.handleCommand sound c with
      | error e =>
        rw [hc] at h
        cases h
        obtain ⟨hnames,hnot⟩ := handleCommand_error hc
        exact hnot (hn id (ha id l₁ c _ hl' hnames))
      | ok node' =>
        rw [hc] at h
        obtain ⟨hkeep,hnew⟩ := handleCommand_ok hc (fun id' heq => hd id' (by
          rw [hl',heq]
          simp))
        refine ih node' (l₁ ++ [c]) l₂ (by simp [hl',append_assoc]) (fun id' hcr => ?_) id h
        obtain ⟨c',hc',hcr⟩ := hcr
        rcases mem_append.mp hc' with hc' | hc'
        · exact hkeep id' (hn id' ⟨c',hc',hcr⟩)
        · rw [mem_singleton] at hc'
          exact hnew id' (hc' ▸ hcr)

end Worker.Node

namespace Shell

open ProtocolCommand

/-- On each connection a command that names a namespace comes after the one command that creates
it, a connected worker has been told of every live namespace, and so a worker that handles the
stream as far as it has come never misses a namespace. -/
theorem namespace_announced (fuel : Nat) (events : List (Duration × ShellEvent)) (s : Shell)
    (hr : new.run fuel events = some s) (w : WorkerId) (id : NamespaceId) :
    (∀ l₁ c l₂, s.stream w = l₁ ++ c :: l₂ → c.Names id →
      (∃ c' ∈ l₁, c'.Creates id) ∧ (s.stream w).countP (Creates id) = 1) ∧
    (w ∈ s.workers → id ∈ s.orchestrator.namespaceIds → (s.stream w).countP (Creates id) = 1) ∧
    ∀ (node : Worker.Node) (inputs : List Worker.Node.Input), node.namespaces = ∅ →
      inputs.filterMap Worker.Node.Input.received <+: s.stream w →
      node.run inputs ≠ .error (.namespaceNotFound id) := by
  have inv := Inv.init.run hr
  refine ⟨fun l₁ c l₂ hl hn => ?_,fun hw hid => inv.met w hw id hid,fun node inputs hnode hin => ?_⟩
  · obtain ⟨c',hc',hcr⟩ := inv.good.announced w id l₁ c l₂ hl hn
    have told : s.HasTold id w := ⟨c',by rw [hl]; exact mem_append_left _ hc',hcr⟩
    exact ⟨⟨c',hc',hcr⟩,Nat.le_antisymm (inv.once w id) (hasTold_iff.mp told)⟩
  · obtain ⟨rest,hrest⟩ := hin
    exact Worker.Node.run_found (inv.good.announced w) (inv.undestroyed w) inputs node [] rest
      (by rw [nil_append]; exact hrest.symm) (fun _ hc => by simp at hc) id

/-- A worker that serves a WireGuard peer of the namespace. -/
def peerEvents : List (Duration × ShellEvent) :=
  [(0,.workerConnection ⟨4,"",["pool"]⟩ none),
    (0,.createNamespace "demo" ⟨0xac100000,0xac100001,24⟩),
    (1,.report 0 (.namespaceEvent ⟨"demo",1⟩ .namespaceCreated)),
    (2,.connectNetwork ⟨"demo",1⟩ 7 (some 0))]

/-- The endpoint of the peer names the namespace. -/
theorem peerEvents_announced : ∃ s, new.run 1 peerEvents = some s ∧
    ∃ l₁ c l₂, s.stream 0 = l₁ ++ c :: l₂ ∧ c.Names ⟨"demo",1⟩ ∧
      (∃ c' ∈ l₁, c'.Creates ⟨"demo",1⟩) ∧ (s.stream 0).countP (Creates ⟨"demo",1⟩) = 1 := by
  have named : (new.run 1 peerEvents).any (fun s =>
      (s.stream 0).any (fun c => c.Names ⟨"demo",1⟩)) = true := by decide +kernel
  cases hr : new.run 1 peerEvents with
  | none =>
    rw [hr] at named
    cases named
  | some s =>
    rw [hr] at named
    obtain ⟨c,hc,hn⟩ := any_eq_true.mp named
    obtain ⟨l₁,l₂,hl⟩ := append_of_mem hc
    have hn : c.Names ⟨"demo",1⟩ := of_decide_eq_true hn
    exact ⟨s,rfl,l₁,c,l₂,hl,hn,(namespace_announced 1 peerEvents s hr 0 ⟨"demo",1⟩).1 l₁ c l₂ hl hn⟩

end Shell

end Distvirt
