import Distvirt.Worker.Demand
import Distvirt.Runs

/-! Reported demand is the demand there is, as long as no endpoint with connections is replaced. -/

namespace Distvirt.Worker

open EndpointSyncEffect Fabric Option List
open Endpoint hiding backend

namespace Endpoint

variable {K : Parts}

/-- The flag reported for an address is whether the tracker there knows of a connection, unless the
demand is an activator's. Where a remote endpoint is, nothing is tracked. -/
def Told : Option (Endpoint K) → Bool → Prop
  | none,flag => flag = false
  | some ep,flag => (∀ w, ep.backend = .remoteSegment w → ep.flowTracker = none) ∧
    (ep.backend.hasActivator = false → flag = ep.isActive)

theorem Told.same {ep ep' : Endpoint K} (h : Told (some ep) flag)
    (hact : ep'.backend.hasActivator = ep.backend.hasActivator) (hactive : ep'.isActive = ep.isActive)
    (hremote : ∀ w, ep'.backend = .remoteSegment w → ep'.flowTracker = none) :
    Told (some ep') flag := by
  refine ⟨hremote,fun ha => ?_⟩
  rw [hactive]
  exact h.2 (hact.symm.trans ha)

theorem Told.of_eq {ep ep' : Endpoint K} (h : Told (some ep) flag) (hb : ep'.backend = ep.backend)
    (ht : ep'.flowTracker = ep.flowTracker) : Told (some ep') flag := by
  refine h.same (by rw [hb]) (by rw [isActive,ht,isActive]) (fun w hw => ?_)
  rw [ht]
  exact h.1 w (hb.symm.trans hw)

end Endpoint

namespace EndpointTable

variable {K : Parts}
open Endpoint (Told)

/-- What is told of the one table is told of the other. -/
def SameDemand (t t' : EndpointTable K) : Prop :=
  ∀ ip flag, Told (t.byIp.lookup ip) flag → Told (t'.byIp.lookup ip) flag

theorem SameDemand.refl (t : EndpointTable K) : t.SameDemand t := fun _ _ h => h

theorem SameDemand.trans {t₁ t₂ t₃ : EndpointTable K} (h₁ : t₁.SameDemand t₂)
    (h₂ : t₂.SameDemand t₃) : t₁.SameDemand t₃ := fun ip flag h => h₂ ip flag (h₁ ip flag h)

variable {t : EndpointTable K} {ip : Nat} {ep : Endpoint K}

theorem hasActivator_of
    (h : t.byIp.lookup ip = some ep) : t.hasActivator ip = ep.backend.hasActivator := by
  rw [hasActivator,h]
  rfl

theorem SameDemand.put (hl : t.byIp.lookup ip = some ep)
    (h : ∀ flag, Told (some ep) flag → Told (some ep') flag) : t.SameDemand (t.put ip ep') := by
  intro i flag hi
  rw [lookup_put]
  split
  · subst i
    exact h flag (hl ▸ hi)
  · exact hi

theorem sameDemand_flushPodBuffer (t : EndpointTable K) (ip : Nat) :
    t.SameDemand (t.flushPodBuffer ip).2 := by
  unfold flushPodBuffer
  split
  · rename_i ep hl
    split
    · exact .put hl (fun _ h => h.of_eq rfl rfl)
    · exact .put hl (fun _ h => h.of_eq rfl rfl)
    · exact .refl t
  · exact .refl t

theorem sameDemand_flushByBackendIp (t : EndpointTable K) (ip : Nat) :
    t.SameDemand (t.flushByBackendIp ip).2 := by
  intro i flag h
  simp only [flushByBackendIp,AList.lookup_retain]
  cases hl : t.byIp.lookup i with
  | none =>
    rw [hl] at h
    exact h
  | some ep =>
    rw [hl] at h
    simp only [bind_some]
    split
    · exact h.of_eq rfl rfl
    · exact h

theorem sameDemand_detachPort (t : EndpointTable K) (p : PortId) :
    t.SameDemand (t.detachPort p) := by
  unfold detachPort
  split
  · rename_i ip ep hf
    have hl := AList.mem_toList.mp (mem_of_find?_eq_some hf)
    have hp : ep.backend.podPort? = some p := by simpa using find?_some hf
    refine .put hl (fun _ h => h.same ?_ rfl (fun _ h => by cases h))
    cases hb : ep.backend <;> simp [hb,EndpointBackend.podPort?] at hp
    rfl
  · exact .refl t

end EndpointTable

variable {W : Wire}

/-- A tracker that has just been set up knows of no connection. -/
theorem isActive_tracked (ep : Endpoint W.toParts) (state : EndpointState)
    (buffer : List W.Frame) (start : Option Nat) (backend : EndpointBackend W.toParts)
    (last : Option Nat) :
    isActive ⟨state,buffer,start,backend,some (ep.flowTracker.getD W.newTracker),last⟩ =
      ep.isActive := by
  cases ht : ep.flowTracker with
  | none => simp [isActive,ht,W.hasActiveFlows_new]
  | some tracker => simp [isActive,ht]

namespace EndpointTable

theorem sameDemand_attachPort {t t' : EndpointTable W.toParts}
    (h : t.attachPort ip p = .ok (frames,t')) : t.SameDemand t' := by
  unfold attachPort at h
  split at h
  · cases h
  · rename_i ep hl
    split at h
    · rename_i port hb
      cases h
      exact .put hl (fun _ h => h.same (by rw [hb]; rfl) (isActive_tracked ep _ _ _ _ _)
        (fun _ h => by cases h))
    · cases h

theorem sameDemand_markServiceReady (t : EndpointTable W.toParts) (sid : ServiceId) :
    t.SameDemand (t.markServiceReady sid).2 := by
  unfold markServiceReady
  split
  · exact .refl t
  · rename_i ip _
    split
    · exact .refl t
    · rename_i ep hl
      split
      · rename_i id policy b processor hb
        have hact : ∀ state buffer start tracker last, (EndpointBackend.hasActivator
            (Endpoint.mk state buffer start (.service id policy (some b)
              (W.onMarkReady processor).2) tracker last : Endpoint W.toParts).backend) =
              ep.backend.hasActivator := by
          intro _ _ _ _ _
          rw [hb]
          simp only [EndpointBackend.hasActivator,W.isPassthrough_onMarkReady]
        obtain ⟨action,processor',hm⟩ : ∃ a q, W.onMarkReady processor = (a,q) := ⟨_,_,rfl⟩
        rw [hm] at hact
        simp only [hm]
        cases action with
        | none =>
          exact .put hl (fun _ h => h.same (hact _ _ _ _ _) (isActive_tracked ep _ _ _ _ _)
            (fun _ h => by cases h))
        | some action =>
          dsimp only
          split <;>
            exact .put hl (fun _ h => h.same (hact _ _ _ _ _) rfl (fun _ h => by cases h))
      · exact .refl t

end EndpointTable

namespace Fabric

theorem table_insertConntrackEntry (f : Fabric W) (rewritten : W.Frame) (serviceIp podIp now : Nat) :
    (f.insertConntrackEntry rewritten serviceIp podIp now).table = f.table := by
  obtain ⟨ct,hct⟩ := f.insertConntrackEntry_eq rewritten serviceIp podIp now
  rw [hct]

theorem table_flushServiceFrames (f : Fabric W) (frames : List W.Frame)
    (backendIp serviceIp now : Nat) :
    (f.flushServiceFrames frames backendIp serviceIp now).table = f.table := by
  have hfold : ∀ f : Fabric W, (frames.foldl (fun f frame =>
      f.insertConntrackEntry frame serviceIp backendIp now) f).table = f.table := by
    induction frames with
    | nil => exact fun _ => rfl
    | cons frame frames ih => exact fun f => (ih _).trans (f.table_insertConntrackEntry _ _ _ _)
  unfold flushServiceFrames
  split
  · exact hfold f
  · rfl

theorem sameDemand_handleEffect (f : Fabric W) (now : Nat) (e : EndpointSyncEffect W.toParts) :
    f.table.SameDemand (f.handleEffect now e).table := by
  cases e with
  | serviceReady sid =>
    have h := f.table.sameDemand_markServiceReady sid
    simp only [handleEffect]
    split
    · rename_i hm
      rw [table_flushServiceFrames]
      rw [hm] at h
      exact h
    · rename_i hm
      rw [hm] at h
      exact h
  | flushPodBuffer ip => exact f.table.sameDemand_flushPodBuffer ip
  | flushAdapterBuffer _ _ _ => exact .refl _
  | flowStatusChange _ _ _ => exact .refl _

theorem sameDemand_handleEffects (now : Nat) (effects : List (EndpointSyncEffect W.toParts)) :
    ∀ f : Fabric W, f.table.SameDemand (effects.foldl (handleEffect now) f).table := by
  induction effects with
  | nil => exact fun f => .refl _
  | cons e effects ih => exact fun f => (f.sameDemand_handleEffect now e).trans (ih _)

theorem sameDemand_addPort (f : Fabric W) (ip : Nat) (portId : PortId) (now : Nat) :
    f.table.SameDemand (f.addPort ip portId now).table := by
  have hfold : ∀ (ds : List (ServiceFlushData W.toParts)) (f : Fabric W), (ds.foldl (fun f d =>
      f.flushServiceFrames d.frames d.backendIp d.serviceIp now) f).table = f.table := by
    intro ds
    induction ds with
    | nil => exact fun _ => rfl
    | cons d ds ih => exact fun f => (ih _).trans (f.table_flushServiceFrames _ _ _ _)
  simp only [addPort]
  rw [hfold]
  cases ha : f.table.attachPort ip portId with
  | error e => exact f.table.sameDemand_flushByBackendIp ip
  | ok attached =>
    obtain ⟨frames,table⟩ := attached
    exact (EndpointTable.sameDemand_attachPort ha).trans (table.sameDemand_flushByBackendIp ip)

end Fabric

namespace Reporting

open Endpoint (Told)
open EndpointTable

variable {me : WorkerId} {adapterPort : Option PortId}

/-- What a spec does to the demand for its address: unless it may replace an endpoint with demand,
the flag stays right or a report puts it right. -/
structure Respecced (me : WorkerId) (adapterPort : Option PortId) (t : EndpointTable W.toParts)
    (spec : Proto.EndpointSpec) (t' : EndpointTable W.toParts) (changes : List (Nat × Bool)) :
    Prop where
  others : ∀ i, i ≠ spec.ip → t'.byIp.lookup i = t.byIp.lookup i
  own : ∀ flag, Told (t.byIp.lookup spec.ip) flag →
    (flag = true → InPlace me adapterPort t spec = true) →
    ∃ flag', Told (t'.byIp.lookup spec.ip) flag' ∧
      (changes = [] ∧ flag' = flag ∨ changes = [(spec.ip,flag')])

variable {t t₁ : EndpointTable W.toParts} {spec : Proto.EndpointSpec}

variable {ip : Nat} {ep : Endpoint W.toParts}

/-- The endpoint is set up anew. -/
theorem Respecced.anew (t₁ : EndpointTable W.toParts)
    (h₁ : t₁.byIp = t.byIp)
    (hactive : ep.isActive = false)
    (hep : ∀ w, ep.backend = .remoteSegment w → ep.flowTracker = none)
    (hin : InPlace me adapterPort t spec = true → t.byIp.lookup spec.ip = none) :
    Respecced me adapterPort t spec (t₁.put spec.ip ep) [] where
  others i hi := by
    rw [lookup_put,if_neg hi,h₁]
  own flag h hq := by
    refine ⟨flag,?_,.inl ⟨rfl,rfl⟩⟩
    rw [lookup_put,if_pos rfl]
    refine ⟨hep,fun _ => ?_⟩
    cases flag with
    | false => exact hactive.symm
    | true =>
      rw [hin (hq rfl)] at h
      cases h

theorem Respecced.refl (me : WorkerId) (adapterPort : Option PortId) (t : EndpointTable W.toParts)
    (spec : Proto.EndpointSpec) : Respecced me adapterPort t spec t [] where
  others _ _ := rfl
  own flag h _ := ⟨flag,h,.inl ⟨rfl,rfl⟩⟩

theorem changes_flushRemote (ip : Nat) : (t.flushRemote ip).filterMap change? = [] := by
  unfold flushRemote
  split
  · split <;> rfl
  · rfl

theorem respecced_createService
    (hin : InPlace me adapterPort t spec = true → t.byIp.lookup spec.ip = none) :
    Respecced me adapterPort t spec (t.createService spec.ip sid policy backend).1
      ((t.createService spec.ip sid policy backend).2.filterMap change?) := by
  have hchanges : (t.createService spec.ip sid policy backend).2.filterMap
      change? = [] := by
    simp only [createService]
    split <;> rfl
  rw [hchanges]
  refine .anew { t.forgetOtherServiceAt spec.ip sid with
    serviceIdToIp := (t.forgetOtherServiceAt spec.ip sid).serviceIdToIp.insert sid spec.ip }
    forgetOtherServiceAt_byIp ?_ (fun _ h => by cases h) hin
  simp only [Endpoint.isActive]
  split
  · simp [W.hasActiveFlows_new]
  · rfl

/-- A service that stays keeps its flows, or has ended them when it lost its pod. -/
theorem respecced_updateService (backend : Option Proto.EndpointPodBackend)
    (hl : t.byIp.lookup spec.ip = some ep) (hb : ep.backend = .service sid oldPolicy old processor) :
    Respecced me adapterPort t spec
      (t.updateService spec.ip ep sid policy old processor backend).1
      ((t.updateService spec.ip ep sid policy old processor backend).2.filterMap
        change?) := by
  have hlast : ∀ p : Prop, [Decidable p] → ((if p then [.serviceReady sid] else []) :
      List (EndpointSyncEffect W.toParts)).filterMap change? = [] := by
    intro p _
    split <;> rfl
  have hactivator : ∀ new, EndpointBackend.hasActivator
      (.service sid policy new (W.onBackendUpdate processor new) : EndpointBackend W.toParts) =
        ep.backend.hasActivator := by
    intro new
    rw [hb]
    simp only [EndpointBackend.hasActivator,W.isPassthrough_onBackendUpdate]
  refine ⟨fun i hi => ?_,fun flag h _ => ?_⟩
  · simp only [updateService,lookup_put,if_neg hi]
  · simp only [updateService,filterMap_append,hlast,append_nil,lookup_put,↓reduceIte]
    rw [hl] at h
    cases backend with
    | some b =>
      exact ⟨flag,h.same (hactivator _) rfl (fun _ h => by cases h),.inl ⟨rfl,rfl⟩⟩
    | none =>
      cases hactive : ep.isActive with
      | true =>
        refine ⟨false,⟨fun _ h => (by cases h),fun _ => rfl⟩,.inr ?_⟩
        rw [if_pos ⟨rfl,hactive⟩]
        rfl
      | false =>
        refine ⟨flag,h.same (hactivator _) hactive.symm (fun _ h => by cases h),.inl ⟨?_,rfl⟩⟩
        rw [if_neg (fun h => by rw [isActive] at hactive; rw [hactive] at h; cases h.2)]
        rfl

theorem respecced (me : WorkerId) (adapterPort : Option PortId) (t : EndpointTable W.toParts)
    (spec : Proto.EndpointSpec) :
    Respecced me adapterPort t spec (applySingleSpec me adapterPort t spec).1
      ((applySingleSpec me adapterPort t spec).2.filterMap change?) := by
  obtain ⟨ip,kind⟩ := spec
  have h := specced me adapterPort t ⟨ip,kind⟩
  generalize applySingleSpec me adapterPort t ⟨ip,kind⟩ = r at h ⊢
  cases h with
  | known _ _ | portless _ => exact .refl ..
  | unplaced _ hl => exact .anew t rfl rfl (fun _ h => by cases h) (fun _ => hl)
  | localPod =>
    refine .anew _ forgetServiceAt_byIp ?_ (fun _ h => by cases h) (by simp [InPlace])
    simp only [isActive]
    split
    · simp [W.hasActiveFlows_new]
    · rfl
  | remotePod hne =>
    rw [changes_flushRemote]
    exact .anew t rfl rfl (fun _ _ => rfl) (by simp [InPlace])
  | remotePeer hne =>
    rw [changes_flushRemote]
    exact .anew _ forgetServiceAt_byIp rfl (fun _ _ => rfl) (by simp [InPlace,hne])
  | @adapter p hp =>
    subst hp
    have hchanges : (if (t.waiting ip).isEmpty then ([] : List (EndpointSyncEffect W.toParts))
        else [.flushAdapterBuffer ip p (t.waiting ip)]).filterMap change? = [] := by
      split <;> rfl
    rw [hchanges]
    exact .anew _ forgetServiceAt_byIp rfl (fun _ h => by cases h) (by simp [InPlace])
  | update hl hb _ => exact respecced_updateService _ hl hb
  | create hne =>
    refine respecced_createService (fun hin => ?_)
    cases hl : t.byIp.lookup ip with
    | none => rfl
    | some ep =>
      simp only [InPlace,hl,map_some] at hin
      split at hin
      · rename_i heq
        simp only [decide_eq_true_eq] at hin
        obtain ⟨rfl,hports⟩ := hin
        exact absurd hports (hne ep _ _ _ hl (some.inj heq))
      · cases hin

/-- What is reported is what the trackers of the table know. -/
def Truth (t : EndpointTable W.toParts) (reported : Nat → Bool) : Prop :=
  ∀ ip, Told (t.byIp.lookup ip) (reported ip)

variable {reported : Nat → Bool}

theorem Truth.at (h : Truth t reported) (hl : t.byIp.lookup ip = e) : Told e (reported ip) :=
  hl ▸ h ip

theorem Truth.sameDemand (h : Truth t reported) (hs : t.SameDemand t') : Truth t' reported :=
  fun ip => hs ip _ (h ip)

theorem Truth.removeIps (h : Truth t reported) (hq : RemovalQuiet reported ips) :
    Truth (t.removeIps ips) reported := by
  intro ip
  rw [lookup_removeIps]
  split
  · exact hq ip ‹_›
  · exact h ip

theorem report_of_ne (h : ip ≠ x.1) : report reported x ip = reported ip :=
  Function.update_of_ne h _ _

theorem Truth.respecced (h : Truth t reported)
    (hq : reported spec.ip = true → InPlace me adapterPort t spec = true) :
    Truth (applySingleSpec me adapterPort t spec).1
      (((applySingleSpec me adapterPort t spec).2.filterMap change?).foldl report reported) := by
  have hr := Reporting.respecced me adapterPort t spec
  generalize (applySingleSpec me adapterPort t spec).1 = t' at hr ⊢
  generalize (applySingleSpec me adapterPort t spec).2.filterMap change? = changes at hr ⊢
  obtain ⟨flag,hflag,hchanges⟩ := hr.own _ (h spec.ip) hq
  intro ip
  by_cases hip : ip = spec.ip
  · subst hip
    rcases hchanges with ⟨rfl,rfl⟩ | rfl
    · exact hflag
    · refine Eq.mp (congrArg _ ?_) hflag
      exact (Function.update_self spec.ip _ reported).symm
  · rw [hr.others ip hip]
    rcases hchanges with ⟨rfl,-⟩ | rfl
    · exact h ip
    · refine Eq.mp (congrArg _ ?_) (h ip)
      exact (report_of_ne hip).symm

theorem Truth.specs {specs : List Proto.EndpointSpec} : ∀ {t : EndpointTable W.toParts}
    {reported : Nat → Bool}, Truth t reported → SpecsQuiet me adapterPort reported t specs →
    Truth (applySpecs me adapterPort t specs).1
      (((applySpecs me adapterPort t specs).2.filterMap change?).foldl report reported) := by
  induction specs with
  | nil => exact fun h _ => h
  | cons spec specs ih =>
    intro t reported h hq
    have := ih (h.respecced hq.1) hq.2
    simpa only [applySpecs,filterMap_append,foldl_append] using this

theorem Truth.applied {f : Fabric W} (now : Nat)
    (h : Truth r.1 ((r.2.filterMap change?).foldl report reported)) :
    Truth (f.applied now r).1.table ((f.applied now r).2.foldl report reported) :=
  h.sameDemand (sameDemand_handleEffects now r.2 { f with table := r.1 })

theorem emit_append :
    emit room reported (out ++ more) = emit room (emit room reported out) more := by
  simp only [emit,filterMap_append,foldl_append]

theorem emit_of_none (h : ∀ o ∈ out, flag? room o = none) : emit room reported out = reported := by
  rw [emit,filterMap_eq_nil_iff.mpr h]
  rfl

/-- A frame that is looked up changes what its endpoint's tracker knows, with a report. -/
theorem Truth.looked {f : Fabric W} (h : Truth f.table reported) (ip : Nat) (frame : W.Frame)
    (skip : Bool) (now : Nat) :
    Truth (f.looked ip frame skip now).table (emit true reported (f.told ip frame skip now)) := by
  have hshape := f.table.sameShape_lookupAndBuffer ip frame skip now
  cases hl : f.table.byIp.lookup ip with
  | none =>
    rw [Fabric.looked,Fabric.told,lookup_none hl]
    exact h
  | some ep =>
    obtain ⟨action,activate,change,ep',hr,ha⟩ := answered frame skip now hl
    have hemit : emit true reported (changed change : List (Output W.Frame)) =
        change.elim reported (fun c => report reported (c.ip,c.active)) := by
      cases change <;> rfl
    have hremote : ∀ w, ep.backend = .remoteSegment w → ep'.flowTracker = none := by
      intro w hw
      rw [ha.tracker,(h.at hl).1 w hw]
      split <;> rfl
    rw [hr] at hshape
    rw [Fabric.looked,Fabric.told,hr]
    intro i
    rw [hemit,lookup_put]
    split
    · subst i
      have htold := h.at hl
      refine ⟨fun w hw => ?_,fun hi => ?_⟩
      · have hroute := ha.answer.route.1
        rw [hw] at hroute
        cases hb : ep.backend with
        | remoteSegment w' => exact hremote w' hb
        | _ =>
          rw [hb] at hroute
          cases hroute
      · cases hc : change with
        | some c =>
          obtain ⟨hcip,hcact⟩ := ha.change c hc
          rw [elim_some,hcip,hcact]
          exact Function.update_self _ _ _
        | none =>
          have hact := hshape.hasActivator ip
          rw [hasActivator_of (lookup_put.trans (if_pos rfl)),hasActivator_of hl,hi] at hact
          rw [elim_none,htold.2 hact.symm]
          cases hb : ep.backend with
          | remoteSegment w =>
            rw [isActive,htold.1 w hb,isActive,hremote w hb]
          | _ => exact (ha.same hc hact.symm (by rw [hb]; exact fun _ h => by cases h)).symm
    · rename_i hip
      cases hc : change with
      | some c =>
        rw [elim_some,report_of_ne (by rw [(ha.change c hc).1]; exact hip)]
        exact h i
      | none => exact h i

theorem flag?_place {f : Fabric W} : ∀ o ∈ f.place ip source frame r, flag? true o = none := by
  intro o ho
  rcases mem_place ho with rfl | ⟨_,rfl⟩ | ⟨_,_,rfl⟩ <;> rfl

theorem flag?_activated {sid : Option ServiceId} :
    ∀ o ∈ (activated ip sid activate : List (Output W.Frame)), flag? true o = none := by
  unfold activated
  split <;> simp [flag?]

theorem flag?_sendL4Frames {f : Fabric W} : ∀ o ∈ f.sendL4Frames frames, flag? true o = none := by
  intro o ho
  obtain ⟨_,_,_,rfl⟩ := mem_sendL4Frames ho
  rfl

/-- Activators set needs for addresses where they are, or not at all. -/
def Needs (t : EndpointTable W.toParts) (action : W.Action) (_ : ServiceId) (ip : Nat) : Prop :=
  t.hasActivator ip = true ∨ ∀ need, .setBackendNeed need ∉ W.actions action

theorem keeps_truth (f₀ : Fabric W) (now : Nat) (reported : Nat → Bool) :
    Fabric.Keeps f₀ now (fun f log => Truth f.table (emit true reported log)) (fun _ _ => True)
      (Needs f₀.table) where
  reverseDnat f log frame _ hj _ := by
    refine ⟨?_,trivial⟩
    have htable : (f.reverseDnat frame now).2.table = f.table := by
      unfold reverseDnat
      split
      · rfl
      · split <;> rfl
    rw [htable]
    exact hj
  looked f log frame h skip _ hj _ _ := by
    rw [emit_append]
    exact ⟨hj.looked h.dstIp frame skip now,trivial⟩
  stop f log frame h source sid activate _ hj _ _ := by
    rw [emit_append,emit_append,emit_of_none flag?_place,emit_of_none flag?_activated]
    exact hj
  forward f log frame h sid podIp activate _ hj _ _ _ := by
    rw [emit_append,emit_of_none flag?_activated,table_insertConntrackEntry]
    exact ⟨hj,trivial⟩
  act f log frame h ep sid policy backendIp processor action hs _ _ _ hep hb hpass _ := by
    refine .inl ?_
    rw [← hs.shape.hasActivator,hasActivator_of hep,hb,EndpointBackend.hasActivator,hpass]
    rfl
  l4Frames f log action _ _ _ hj _ := by
    rw [emit_append,emit_of_none flag?_sendL4Frames]
    exact hj
  pollTimer f log action _ _ _ _ hj _ := by
    rw [emit_append,emit_of_none (by simp [flag?])]
    exact hj
  need f log action sid ip need hs hj ha hm := by
    rcases ha with ha | ha
    · rw [emit_append]
      intro i
      by_cases hip : i = ip
      · subst hip
        have hact := (hs.shape.hasActivator i).trans ha
        cases hl : f.table.byIp.lookup i with
        | none =>
          rw [hasActivator,hl] at hact
          cases hact
        | some ep =>
          rw [hasActivator_of hl] at hact
          exact ⟨(hj.at hl).1,fun hi => by cases hact.symm.trans hi⟩
      · cases need with
        | traffic => exact hj i
        | active | none =>
          refine Eq.mp (congrArg _ ?_) (hj i)
          exact (report_of_ne hip).symm
    · exact absurd hm (ha need)
  replay f log action sid ip rawFrame serviceIp backendIp _ hj _ _ _ := by
    refine ⟨?_,trivial⟩
    rw [table_insertConntrackEntry]
    exact hj

variable {f : Fabric W}

theorem Truth.dispatchFrame (h : Truth f.table reported) (fuel : Nat) (frame : W.Frame)
    (source : FrameSource) (now : Nat) :
    Truth (f.dispatchFrame fuel frame source now).1.table
      (emit true reported (f.dispatchFrame fuel frame source now).2) :=
  ((keeps_truth f now reported).dispatchFrame fuel source f [] frame (.refl f) h trivial).2

theorem Truth.handleTimeoutForIp (h : Truth f.table reported) (fuel ip now : Nat) :
    Truth (f.handleTimeoutForIp fuel ip now).1.table
      (emit true reported (f.handleTimeoutForIp fuel ip now).2) := by
  unfold Fabric.handleTimeoutForIp
  split
  · exact h
  · rename_i ep hl
    split
    · rename_i sid policy b processor hb
      have hput : Truth (f.table.put ip { ep with
          backend := .service sid policy b (W.handleTimeout processor).2 }) reported := by
        refine h.sameDemand (.put hl (fun _ h => h.same ?_ rfl (fun _ h => by cases h)))
        rw [hb]
        simp only [EndpointBackend.hasActivator,W.isPassthrough_handleTimeout]
      obtain ⟨action,processor',hm⟩ : ∃ a q, W.handleTimeout processor = (a,q) := ⟨_,_,rfl⟩
      rw [hm] at hput
      simp only [hm]
      cases action with
      | none => exact hput
      | some action =>
        have hneeds : Needs (f.table.put ip { ep with
            backend := .service sid policy b processor' }) action sid ip := by
          cases hp : W.isPassthrough processor with
          | true => exact .inr (fun need => W.passthrough_needs processor action need hp (by rw [hm]))
          | false =>
            refine .inl ?_
            rw [hasActivator_of (lookup_put.trans (if_pos rfl)),EndpointBackend.hasActivator]
            have := W.isPassthrough_handleTimeout processor
            rw [hm,hp] at this
            rw [this]
            rfl
        have hkeeps := keeps_truth { f with table := f.table.put ip { ep with
          backend := .service sid policy b processor' } } now reported
        exact (hkeeps.execute (hkeeps.dispatchFrame fuel .internal) (.refl _)
          (show Truth _ (emit true reported []) from hput) hneeds).2
    · exact h

theorem Truth.dispatchReady (h : Truth f.table reported) (fuel : Nat) (sid : ServiceId)
    (action : W.Action) (now : Nat)
    (hn : Needs f.table action sid ((f.table.serviceIdToIp.lookup sid).getD 0)) :
    Truth (f.dispatchReady fuel sid action now).1.table
      (emit true reported (f.dispatchReady fuel sid action now).2) := by
  have hkeeps := keeps_truth f now reported
  exact (hkeeps.dispatchActions (hkeeps.dispatchFrame fuel .internal) hn (W.actions action)
    (fun _ hm => hm) (.refl f) (show Truth _ (emit true reported []) from h)).2

theorem emit_changes (changes : List FlowStatusChange) : ∀ reported : Nat → Bool,
    emit true reported (changes.flatMap (fun c => (changed (some c) : List (Output W.Frame)))) =
      changes.foldl (fun r c => report r (c.ip,c.active)) reported := by
  induction changes with
  | nil => exact fun _ => rfl
  | cons c changes ih =>
    intro reported
    rw [flatMap_cons,emit_append,ih]
    rfl

/-- What is reported after old flows are removed. -/
theorem foldl_gcChanges (t : EndpointTable W.toParts) (now : Nat) (reported : Nat → Bool) (ip : Nat) :
    ((t.gcChanges now).foldl (fun r c => report r (c.ip,c.active)) reported) ip =
      match t.byIp.lookup ip with
      | some ep =>
        (ep.flowTracker.bind fun tracker =>
          if W.hasActiveFlows (W.gc tracker now) ≠ W.hasActiveFlows tracker then
            some (W.hasActiveFlows (W.gc tracker now)) else none).getD (reported ip)
      | none => reported ip := by
  unfold gcChanges
  rw [foldl_filterMap]
  refine (AList.foldl_toList (t := t.byIp) (k := ip) (fun r ip => r ip) (fun ep x =>
    (ep.flowTracker.bind fun tracker =>
      if W.hasActiveFlows (W.gc tracker now) ≠ W.hasActiveFlows tracker then
        some (W.hasActiveFlows (W.gc tracker now)) else none).getD x)
    (fun r k ep k' => ?_) reported).trans ?_
  rotate_left
  · cases t.byIp.lookup ip <;> rfl
  · obtain ⟨state,buffer,start,backend,tracker,last⟩ := ep
    cases tracker with
    | none => exact (ite_self _).symm
    | some tracker =>
      by_cases hc : W.hasActiveFlows (W.gc tracker now) ≠ W.hasActiveFlows tracker
      · simp only [bind_some,if_pos hc,report,Function.update_apply,getD_some]
      · simp only [bind_some,if_neg hc,getD_none,ite_self]

theorem Truth.gc (h : Truth t reported) (now : Nat) :
    Truth (t.gcFlowTrackers now).2
      ((t.gcChanges now).foldl (fun r c => report r (c.ip,c.active)) reported) := by
  have hl : ∀ ip, (t.gcFlowTrackers now).2.byIp.lookup ip = (t.byIp.lookup ip).map (fun ep =>
      { ep with flowTracker := ep.flowTracker.map (W.gc · now) }) := by
    intro ip
    simp only [gcFlowTrackers,AList.lookup_retain]
    cases t.byIp.lookup ip <;> rfl
  intro ip
  rw [foldl_gcChanges,hl]
  cases hep : t.byIp.lookup ip with
  | none => exact h.at hep
  | some ep =>
    have htold := h.at hep
    refine ⟨fun w hw => ?_,fun ha => ?_⟩
    · simp only [htold.1 w hw,map_none]
    · have := htold.2 ha
      simp only [isActive] at this ⊢
      rw [this]
      cases ep.flowTracker with
      | none => rfl
      | some tracker =>
        simp only [bind_some,map_some,getD_some]
        split
        · rfl
        · rename_i heq
          exact (not_not.mp heq).symm

variable {s : Reporting W}

theorem Truth.step (h : Truth s.fabric.table s.reported) (fuel : Nat)
    (hq : Quiet me adapterPort s ev) :
    Truth (step me adapterPort fuel s ev).fabric.table (step me adapterPort fuel s ev).reported := by
  cases ev with
  | packet frame source now room =>
    cases (show room = true from hq)
    exact h.dispatchFrame fuel frame source now
  | endpointSync specs now room | endpointUpdate upserted removedIps now room =>
    obtain ⟨rfl,hremoved,hspecs⟩ := hq
    exact ((h.removeIps hremoved).specs hspecs).applied now
  | addPort ip portId now => exact h.sameDemand (s.fabric.sameDemand_addPort ip portId now)
  | dropPort portId => exact h.sameDemand (s.fabric.table.sameDemand_detachPort portId)
  | gc now room =>
    cases (show room = true from hq)
    have := h.gc now
    rw [← emit_changes] at this
    exact this
  | pollTimer ip now room =>
    cases (show room = true from hq)
    exact h.handleTimeoutForIp fuel ip now
  | ready sid action now room =>
    obtain ⟨rfl,hn⟩ := hq
    refine h.dispatchReady fuel sid action now (hn.imp id (fun hall need hm => ?_))
    have := all_eq_true.mp hall _ hm
    cases this

/-- A fabric without endpoints. -/
def start (f : Fabric W) : Reporting W := ⟨{ f with table := .new },fun _ => false⟩

theorem demand_truthful (me : WorkerId) (adapterPort : Option PortId) (fuel : Nat) (f : Fabric W)
    (events : List (ReportingEvent W)) (s : Reporting W)
    (hquiet : Runs.Along (fun s ev => some (step me adapterPort fuel s ev)) (Quiet me adapterPort)
      (start f) events)
    (hrun : Runs.run (fun s ev => some (step me adapterPort fuel s ev)) (start f) events = some s) :
    s.Truthful := by
  have hstart : Truth (start f).fabric.table (start f).reported :=
    fun _ => rfl
  have hs : Truth s.fabric.table s.reported :=
    hquiet.keeps (I := fun s => Truth s.fabric.table s.reported) (fun s ev s' hs hev hstep => by
      cases hstep
      exact hs.step fuel hev) hstart hrun
  intro ip ha
  rw [hasActivator] at ha
  rw [hasActiveFlows]
  cases hl : s.fabric.table.byIp.lookup ip with
  | none => exact hs.at hl
  | some ep =>
    rw [hl] at ha
    exact (hs.at hl).2 ha

/-- A pod on this worker with its port, and a connection to it. -/
def connectedPod : List (ReportingEvent .passthrough) :=
  [.endpointSync [⟨10,.pod (some 1)⟩] 0 true,.addPort 10 0 0,
    .packet (⟨5,10,6,some (1000,80),some 0x12⟩ : Header) (.port 1) 0 true]

def emptyFabric : Fabric .passthrough := ⟨.new,∅,[],∅,false,1,24⟩

theorem connectedPod_truthful :
    ∃ s, Runs.run (fun s ev => some (step 1 none 1 s ev)) (start emptyFabric)
        (connectedPod ++ [.gc 400000 true,.endpointUpdate [] [10] 400000 true]) = some s ∧
      s.Truthful := by
  refine ⟨_,rfl,?_⟩
  exact demand_truthful 1 none 1 emptyFabric (connectedPod ++ [.gc 400000 true,
    .endpointUpdate [] [10] 400000 true]) _ (by decide +kernel) rfl

/-- The specs are sent again, as they were. -/
theorem resynced_not_truthful :
    ∃ s, Runs.run (fun s ev => some (step 1 none 1 s ev)) (start emptyFabric)
        (connectedPod ++ [.endpointSync [⟨10,.pod (some 1)⟩] 0 true]) = some s ∧ ¬ s.Truthful := by
  refine ⟨_,rfl,fun h => ?_⟩
  have := h 10 (by decide +kernel)
  revert this
  decide +kernel

end Reporting

end Distvirt.Worker
