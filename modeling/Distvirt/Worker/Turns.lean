import Distvirt.Worker.Dispatch
import Distvirt.Worker.Lookup

/-! What one look at the endpoint table can do, and what a whole dispatch keeps when each of its
steps keeps it. -/

namespace Distvirt.Worker

open List
open EndpointTable hiding new

variable {K : Parts}

/-- The endpoint is a service with an activator. -/
def EndpointBackend.hasActivator : EndpointBackend K → Bool
  | .service _ _ _ processor => !K.isPassthrough processor
  | _ => false

namespace EndpointTable

def hasActivator (t : EndpointTable K) (ip : Nat) : Bool :=
  ((t.byIp.lookup ip).map (fun ep => ep.backend.hasActivator)).getD false

/-- Whether the tracker that the table has for the address knows of a connection. -/
def hasActiveFlows (t : EndpointTable K) (ip : Nat) : Bool :=
  ((t.byIp.lookup ip).map Endpoint.isActive).getD false

/-- What the table answers to a frame, and the endpoint's backend after it. -/
inductive Answer (t : EndpointTable K) (ip : Nat) (frame : K.Frame) :
    EndpointBackend K → EndpointAction K → EndpointBackend K → Prop where
  | remote (w : WorkerId) : Answer t ip frame (.remoteSegment w) (.remoteWorker w) (.remoteSegment w)
  | adapter (p : PortId) : Answer t ip frame (.localAdapter p) (.localAdapter p) (.localAdapter p)
  | pod (p : PortId) : Answer t ip frame (.localPod (some p)) (.localPod p) (.localPod (some p))
  | forward {sid : ServiceId} {policy : ServicePolicy} {podIp : Nat} {processor : K.Processor} :
      podIp ≠ ip → ((t.route podIp).map Route.isReachable).getD false = true →
      Answer t ip frame (.service sid policy (some podIp) processor) (.serviceForward podIp ip)
        (.service sid policy (some podIp) processor)
  | processed {sid : ServiceId} {policy : ServicePolicy} {backendIp : Option Nat}
      {processor : K.Processor} {action : K.Action} :
      K.isPassthrough processor = false → (K.processFrame processor frame).1 = some action →
      Answer t ip frame (.service sid policy backendIp processor) (.processed action sid)
        (.service sid policy backendIp (K.processFrame processor frame).2)
  | held {b b' : EndpointBackend K} {action : EndpointAction K} (serviceId : Option ServiceId) :
      b.route.holds = true → action = .buffered serviceId ∨ action = .drop serviceId →
      b' = b ∨ (∃ sid policy backendIp processor, K.isPassthrough processor = false ∧
        b = .service sid policy backendIp processor ∧
        b' = .service sid policy backendIp (K.processFrame processor frame).2) →
      Answer t ip frame b action b'

/-- What a frame does to the endpoint it is sent to. -/
structure Answered (t : EndpointTable K) (ip : Nat) (ep : Endpoint K) (frame : K.Frame)
    (skip : Bool) (now : Nat) (action : EndpointAction K) (change : Option FlowStatusChange)
    (ep' : Endpoint K) : Prop where
  tracker : ep'.flowTracker =
    if skip then ep.flowTracker else ep.flowTracker.map (K.track · frame now)
  answer : Answer t ip frame ep.backend action ep'.backend
  same : change = none → ep.backend.hasActivator = false →
    (∀ w, ep.backend ≠ .remoteSegment w) → ep'.isActive = ep.isActive
  change : ∀ c, change = some c → c.ip = ip ∧ c.active = ep'.isActive

variable {t t' : EndpointTable K} {ip podIp : Nat} {ep : Endpoint K}

theorem answered (frame : K.Frame) (skip : Bool)
    (now : Nat) (hep : t.byIp.lookup ip = some ep) : ∃ action activate change ep',
      t.lookupAndBuffer ip frame skip now = ((action,activate,change),t.put ip ep') ∧
      Answered t ip ep frame skip now action change ep' := by
  obtain ⟨tracker,change,htracker,hsame,hchange,h⟩ := lookup_cases frame skip now hep
  -- the change of the flows is told or does not count
  have told : ∀ {action c'} (ep' : Endpoint K), ep'.flowTracker = tracker →
      Answer t ip frame ep.backend action ep'.backend →
      c' = change ∨ c' = none ∧ (ep.backend.hasActivator = true ∨ ∃ w, ep.backend = .remoteSegment w) →
      Answered t ip ep frame skip now action c' ep' := by
    intro action c' ep' htr ha hc
    have hactive : ep'.isActive = ({ ep with flowTracker := tracker } : Endpoint K).isActive := by
      rw [Endpoint.isActive,htr]
      rfl
    refine ⟨htr.trans htracker,ha,fun hnone hact hremote => ?_,fun c hsome => ?_⟩ <;> rw [hactive]
    · rcases hc with rfl | ⟨-,h | ⟨w,hw⟩⟩
      · exact hsame hnone
      · cases hact.symm.trans h
      · exact absurd hw (hremote w)
    · rcases hc with rfl | ⟨rfl,-⟩
      · exact hchange c hsome
      · cases hsome
  obtain ⟨r,hr⟩ : ∃ r, t.lookupAndBuffer ip frame skip now = r := ⟨_,rfl⟩
  rw [hr] at h ⊢
  cases h with
  | @remote w hb =>
    refine ⟨_,_,_,_,rfl,told _ rfl ?_ (.inr ⟨rfl,.inr ⟨w,hb⟩⟩)⟩
    simp only [hb]
    exact .remote w
  | @adapter p hb =>
    refine ⟨_,_,_,_,rfl,told _ rfl ?_ (.inl rfl)⟩
    simp only [hb]
    exact .adapter p
  | @pod p hb =>
    refine ⟨_,_,_,_,rfl,told _ rfl ?_ (.inl rfl)⟩
    simp only [hb]
    exact .pod p
  | forward hb hne hreach =>
    refine ⟨_,_,_,_,rfl,told _ rfl ?_ (.inl rfl)⟩
    simp only [hb]
    exact .forward hne hreach
  | processed hb hp haction =>
    refine ⟨_,_,_,_,rfl,told _ rfl ?_ (.inr ⟨rfl,.inl ?_⟩)⟩
    · rw [hb]
      exact .processed hp haction
    · rw [hb,EndpointBackend.hasActivator,hp]
      rfl
  | @held b limits taken activate last start buffer hholds hb _ _ _ =>
    refine ⟨_,_,_,_,rfl,told _ rfl (.held b.serviceId? hholds ?_ hb) (.inl rfl)⟩
    cases taken with
    | true => exact .inl rfl
    | false => exact .inr rfl

/-- The tables send frames the same way. -/
structure SameShape (t t' : EndpointTable K) : Prop where
  route : ∀ ip, t'.route ip = t.route ip
  hasActivator : ∀ ip, t'.hasActivator ip = t.hasActivator ip
  serviceIdToIp : t'.serviceIdToIp = t.serviceIdToIp

theorem SameShape.refl (t : EndpointTable K) : SameShape t t := ⟨fun _ => rfl,fun _ => rfl,rfl⟩

theorem SameShape.trans (h₁ : SameShape t₁ t₂) (h₂ : SameShape t₂ t₃) : SameShape t₁ t₃ :=
  ⟨fun ip => (h₂.route ip).trans (h₁.route ip),
    fun ip => (h₂.hasActivator ip).trans (h₁.hasActivator ip),
    h₂.serviceIdToIp.trans h₁.serviceIdToIp⟩

/-- The address and the pod of a service, by its id. -/
theorem getServiceNatInfo_eq (t : EndpointTable K) (sid : ServiceId) :
    t.getServiceNatInfo sid = (t.serviceIdToIp.lookup sid).bind (fun ip =>
      match t.route ip with
      | some (.service _ backendIp) => backendIp.map (fun backendIp => (ip,backendIp))
      | _ => none) := by
  unfold getServiceNatInfo
  cases t.serviceIdToIp.lookup sid with
  | none => rfl
  | some ip =>
    simp only [Option.bind_eq_bind,Option.bind_some,route]
    cases t.byIp.lookup ip with
    | none => rfl
    | some ep => cases hb : ep.backend <;> simp [hb,EndpointBackend.route]

theorem SameShape.getServiceNatInfo (h : SameShape t t') (sid : ServiceId) :
    t'.getServiceNatInfo sid = t.getServiceNatInfo sid := by
  simp only [getServiceNatInfo_eq,h.serviceIdToIp,h.route]

def isService (t : EndpointTable K) (ip : Nat) : Bool :=
  match t.route ip with
  | some (.service _ _) => true
  | _ => false

/-- The addresses that frames for the address of a service are sent on to: its pod, and the pod
found by its id when frames are replayed. -/
def targets (t : EndpointTable K) (ip : Nat) : List Nat :=
  match t.route ip with
  | some (.service sid backendIp) =>
    backendIp.toList ++ ((t.getServiceNatInfo sid).map Prod.snd).toList
  | _ => []

/-- No service has a service as its pod. -/
def Flat (t : EndpointTable K) : Prop := ∀ ip, ∀ b ∈ t.targets ip, t.isService b = false

theorem mem_keys_of_route (h : t.route ip = some r) : ip ∈ t.byIp.keys := by
  obtain ⟨ep,hep,-⟩ := Option.map_eq_some_iff.mp h
  exact AList.mem_iff.mpr ⟨ep,hep⟩

theorem Flat.of_keys
    (h : ∀ ip ∈ t.byIp.keys, ∀ b ∈ t.targets ip, t.isService b = false) : t.Flat := by
  intro ip b hb
  cases hr : t.route ip with
  | none =>
    rw [targets,hr] at hb
    cases hb
  | some r => exact h ip (mem_keys_of_route hr) b hb

theorem SameShape.isService (h : SameShape t t') (ip : Nat) : t'.isService ip = t.isService ip := by
  rw [EndpointTable.isService,h.route,EndpointTable.isService]

theorem SameShape.targets (h : SameShape t t') (ip : Nat) : t'.targets ip = t.targets ip := by
  simp only [EndpointTable.targets,h.route,h.getServiceNatInfo]

theorem SameShape.flat (h : SameShape t t') (hf : t.Flat) : t'.Flat := by
  intro ip b hb
  rw [h.targets] at hb
  rw [h.isService]
  exact hf ip b hb

theorem mem_targets_pod (h : t.route ip = some (.service sid (some podIp))) :
    podIp ∈ t.targets ip := by
  simp [targets,h]

theorem mem_targets_natInfo (h : t.route ip = some (.service sid backendIp))
    (hn : t.getServiceNatInfo sid = some (serviceIp,podIp)) : podIp ∈ t.targets ip := by
  simp [targets,h,hn]

end EndpointTable

variable {W : Wire}

theorem EndpointTable.Answer.route {t : EndpointTable W.toParts} (h : t.Answer ip frame b action b') :
    b'.route = b.route ∧ b'.hasActivator = b.hasActivator := by
  cases h with
  | remote w | adapter p | pod p | forward _ _ => exact ⟨rfl,rfl⟩
  | processed _ _ =>
    refine ⟨rfl,?_⟩
    simp only [EndpointBackend.hasActivator,W.isPassthrough_processFrame]
  | held _ _ _ hb =>
    rcases hb with rfl | ⟨sid,policy,backendIp,processor,_,rfl,rfl⟩
    · exact ⟨rfl,rfl⟩
    · refine ⟨rfl,?_⟩
      simp only [EndpointBackend.hasActivator,W.isPassthrough_processFrame]

theorem EndpointTable.sameShape_lookupAndBuffer (t : EndpointTable W.toParts) (ip : Nat)
    (frame : W.Frame) (skip : Bool) (now : Nat) :
    SameShape t (t.lookupAndBuffer ip frame skip now).2 := by
  cases hep : t.byIp.lookup ip with
  | none =>
    rw [lookup_none hep]
    exact .refl t
  | some ep =>
    obtain ⟨_,_,_,ep',hr,h⟩ := answered frame skip now hep
    obtain ⟨hroute,hact⟩ := h.answer.route
    rw [hr]
    refine ⟨route_put_same hep hroute,fun i => ?_,rfl⟩
    rw [hasActivator,lookup_put,hasActivator]
    split
    · subst i
      rw [hep,Option.map_some,hact]
      rfl
    · rfl

namespace Fabric

/-- The fabrics pass frames on the same way, except for the sources of replies. -/
structure Similar (f f' : Fabric W) : Prop where
  shape : f.table.SameShape f'.table
  ports : f'.ports = f.ports
  tunnelPorts : f'.tunnelPorts = f.tunnelPorts
  hasGateway : f'.hasGateway = f.hasGateway
  gatewayIp : f'.gatewayIp = f.gatewayIp
  prefixLen : f'.prefixLen = f.prefixLen

theorem Similar.refl (f : Fabric W) : Similar f f := ⟨.refl _,rfl,rfl,rfl,rfl,rfl⟩

theorem Similar.trans (h₁ : Similar f₁ f₂) (h₂ : Similar f₂ f₃) : Similar f₁ f₃ :=
  ⟨h₁.shape.trans h₂.shape,h₂.ports.trans h₁.ports,h₂.tunnelPorts.trans h₁.tunnelPorts,
    h₂.hasGateway.trans h₁.hasGateway,h₂.gatewayIp.trans h₁.gatewayIp,
    h₂.prefixLen.trans h₁.prefixLen⟩

variable {f : Fabric W} {h : Header} {frame : W.Frame} {now : Nat}

theorem Similar.conntrack (h : Similar f f') (ct : ConntrackTable) :
    Similar f { f' with conntrack := ct } :=
  ⟨h.shape,h.ports,h.tunnelPorts,h.hasGateway,h.gatewayIp,h.prefixLen⟩

theorem insertConntrackEntry_eq (f : Fabric W) (rewritten : W.Frame) (serviceIp podIp now : Nat) :
    ∃ ct, f.insertConntrackEntry rewritten serviceIp podIp now = { f with conntrack := ct } := by
  unfold insertConntrackEntry
  split
  · exact ⟨_,rfl⟩
  · exact ⟨f.conntrack,rfl⟩

theorem similar_insertConntrackEntry (f : Fabric W) (rewritten : W.Frame)
    (serviceIp podIp now : Nat) : Similar f (f.insertConntrackEntry rewritten serviceIp podIp now) := by
  obtain ⟨ct,hct⟩ := f.insertConntrackEntry_eq rewritten serviceIp podIp now
  rw [hct]
  exact (Similar.refl f).conntrack ct

theorem similar_reverseDnat (f : Fabric W) (frame : W.Frame) (now : Nat) :
    Similar f (f.reverseDnat frame now).2 := by
  unfold reverseDnat
  split
  · exact .refl f
  · split
    · exact (Similar.refl f).conntrack _
    · exact .refl f

theorem header_reverseDnat (f : Fabric W) (frame : W.Frame) (now : Nat)
    (hh : W.header (f.reverseDnat frame now).1 = some h) :
    ∃ h', W.header frame = some h' ∧ h.dstIp = h'.dstIp := by
  unfold reverseDnat at hh
  split at hh
  · exact ⟨h,hh,rfl⟩
  · rename_i h' hh'
    split at hh
    · dsimp only at hh
      rw [W.header_rewriteSrc,hh'] at hh
      cases hh
      exact ⟨h',hh',rfl⟩
    · exact ⟨h,hh,rfl⟩

theorem header_rewriteDst (hh : W.header (W.rewriteDst frame old new) = some h) :
    h.dstIp = new := by
  rw [W.header_rewriteDst] at hh
  obtain ⟨h',_,rfl⟩ := Option.map_eq_some_iff.mp hh
  rfl

/-- Where a frame goes that is neither held back nor forwarded. -/
def place (f : Fabric W) (dstIp : Nat) (source : FrameSource) (frame : W.Frame) :
    Option Route → List (Output W.Frame)
  | none => f.sendGateway dstIp source frame
  | some (.remoteSegment workerId) => f.sendTunnel workerId frame
  | some (.localAdapter portId) | some (.localPod (some portId)) => f.sendPort portId frame
  | some _ => []

/-- A frame that is placed leaves as it is, through a tunnel only for an address on that worker. -/
theorem mem_place {f : Fabric W} (h : o ∈ f.place ip source frame r) : o = .gateway frame ∨
    (∃ p, o = .port p frame) ∨ ∃ w, r = some (.remoteSegment w) ∧ o = .tunnel w frame := by
  have port : ∀ p, o ∈ f.sendPort p frame → ∃ p, o = .port p frame := by
    intro p h
    unfold sendPort at h
    split at h
    · exact ⟨p,mem_singleton.mp h⟩
    · cases h
  unfold place at h
  split at h
  · unfold sendGateway at h
    split at h
    · split at h
      · cases h
      · cases h
      · split at h
        · exact .inl (mem_singleton.mp h)
        · cases h
    · cases h
  · unfold sendTunnel at h
    split at h
    · split at h
      · exact .inr (.inr ⟨_,rfl,mem_singleton.mp h⟩)
      · cases h
    · cases h
  · exact .inr (.inl (port _ h))
  · exact .inr (.inl (port _ h))
  · cases h

theorem mem_sendL4Frames {f : Fabric W} (h : o ∈ f.sendL4Frames frames) :
    ∃ frame ∈ frames, ∃ p, o = .port p frame := by
  obtain ⟨frame,hframe,h⟩ := mem_flatMap.mp h
  refine ⟨frame,hframe,?_⟩
  split at h
  · cases h
  · split at h
    · unfold sendPort at h
      split at h
      · exact ⟨_,mem_singleton.mp h⟩
      · cases h
    · cases h

/-- The fabric after a frame was looked up. -/
def looked (f : Fabric W) (dstIp : Nat) (frame : W.Frame) (skip : Bool) (now : Nat) : Fabric W :=
  { f with table := (f.table.lookupAndBuffer dstIp frame skip now).2 }

/-- The events of the flows of the endpoint that a frame is looked up for. -/
def told (f : Fabric W) (dstIp : Nat) (frame : W.Frame) (skip : Bool) (now : Nat) :
    List (Output W.Frame) :=
  changed (f.table.lookupAndBuffer dstIp frame skip now).1.2.2

theorem similar_looked (f : Fabric W) (dstIp : Nat) (frame : W.Frame) (skip : Bool) (now : Nat) :
    Similar f (f.looked dstIp frame skip now) :=
  ⟨EndpointTable.sameShape_lookupAndBuffer f.table dstIp frame skip now,rfl,rfl,rfl,rfl,rfl⟩

/-- What a turn of the dispatch loop can do with a frame that is no runt. -/
inductive Turn (f : Fabric W) (frame : W.Frame) (h : Header) (skip : Bool) (source : FrameSource)
    (now : Nat) : Pass W × Fabric W → Prop where
  | stop (serviceId : Option ServiceId) (activate : Bool) :
      Turn f frame h skip source now (.stop (f.told h.dstIp frame skip now ++
        (f.place h.dstIp source frame (f.table.route h.dstIp) ++
          activated h.dstIp serviceId activate)),f.looked h.dstIp frame skip now)
  | forward (sid : ServiceId) (podIp : Nat) (activate : Bool) :
      f.table.route h.dstIp = some (.service sid (some podIp)) →
      ((f.table.route podIp).map Route.isReachable).getD false = true →
      Turn f frame h skip source now (.forward (W.rewriteDst frame h.dstIp podIp)
        (f.told h.dstIp frame skip now ++ activated h.dstIp none activate),
        (f.looked h.dstIp frame skip now).insertConntrackEntry
          (W.rewriteDst frame h.dstIp podIp) h.dstIp podIp now)
  | act (ep : Endpoint W.toParts) (sid : ServiceId) (policy : ServicePolicy)
      (backendIp : Option Nat) (processor : W.Processor) (action : W.Action) :
      f.table.byIp.lookup h.dstIp = some ep →
      ep.backend = .service sid policy backendIp processor →
      W.isPassthrough processor = false → (W.processFrame processor frame).1 = some action →
      Turn f frame h skip source now (.act action sid h.dstIp (f.told h.dstIp frame skip now),
        f.looked h.dstIp frame skip now)

theorem turn (f : Fabric W) (frame : W.Frame) (skip : Bool) (source : FrameSource)
    (now : Nat) (hh : W.header frame = some h) :
    Turn f frame h skip source now (f.pass frame skip source now) := by
  have htable : ∀ {action activate change table},
      f.table.lookupAndBuffer h.dstIp frame skip now = ((action,activate,change),table) →
      changed change = f.told h.dstIp frame skip now ∧
        { f with table } = f.looked h.dstIp frame skip now := by
    intro action activate change table hr
    rw [told,looked,hr]
    exact ⟨rfl,rfl⟩
  obtain ⟨⟨action,activate,change⟩,table,hr⟩ : ∃ a t,
      f.table.lookupAndBuffer h.dstIp frame skip now = (a,t) := ⟨_,_,rfl⟩
  obtain ⟨hchange,hlooked⟩ := htable hr
  have hstop : ∀ (placed : List (Output W.Frame)) sid activate,
      f.place h.dstIp source frame (f.table.route h.dstIp) = placed →
      Turn f frame h skip source now (.stop (f.told h.dstIp frame skip now ++
        (placed ++ activated h.dstIp sid activate)),f.looked h.dstIp frame skip now) := by
    rintro _ sid activate rfl
    exact .stop sid activate
  have hplaced : ∀ placed, f.place h.dstIp source frame (f.table.route h.dstIp) = placed →
      Turn f frame h skip source now (.stop (f.told h.dstIp frame skip now ++ placed),
        f.looked h.dstIp frame skip now) := by
    intro placed hp
    have := hstop placed none false hp
    rwa [activated,if_neg Bool.false_ne_true,append_nil] at this
  simp only [pass,hh,hr,hchange,hlooked]
  cases hep : f.table.byIp.lookup h.dstIp with
  | none =>
    cases hr.symm.trans (lookup_none hep)
    exact hplaced _ (by rw [route,hep]; rfl)
  | some ep =>
    obtain ⟨_,_,_,ep',hr',ha⟩ := answered frame skip now hep
    cases hr.symm.trans hr'
    have hroute := route_of_lookup hep
    have hanswer := ha.answer
    generalize hb : ep.backend = b at hanswer
    generalize ep'.backend = b' at hanswer
    rw [hb] at hroute
    cases hanswer with
    | remote w | adapter p | pod p => exact hplaced _ (by rw [hroute]; rfl)
    | forward hne hreach => exact .forward _ _ activate hroute hreach
    | processed hp hact => exact .act ep _ _ _ _ _ hep hb hp hact
    | held sid hholds haction _ =>
      have hplace : f.place h.dstIp source frame (f.table.route h.dstIp) = [] := by
        rw [hroute]
        revert hholds
        cases b with
        | localPod port => cases port <;> simp [EndpointBackend.route,Route.holds,place]
        | service _ _ _ _ | unplacedPod _ => exact fun _ => rfl
        | remoteSegment _ | localAdapter _ => exact fun h => by cases h
      rcases haction with rfl | rfl
      · exact hstop [] sid activate hplace
      · exact hstop [] sid activate hplace

theorem Turn.similar (ht : Turn f frame h skip source now r) : Similar f r.2 := by
  cases ht with
  | stop _ _ | act _ _ _ _ _ _ _ _ _ _ => exact similar_looked _ _ _ _ _
  | forward _ _ _ _ _ =>
    exact (similar_looked _ _ _ _ _).trans (similar_insertConntrackEntry _ _ _ _ _)

theorem pass_runt (f : Fabric W) (skip : Bool) (source : FrameSource) (now : Nat)
    (hh : W.header frame = none) : f.pass frame skip source now = (.stop [],f) := by
  rw [pass,hh]

theorem similar_pass (f : Fabric W) (frame : W.Frame) (skip : Bool) (source : FrameSource)
    (now : Nat) : Similar f (f.pass frame skip source now).2 := by
  cases hh : W.header frame with
  | none =>
    rw [pass_runt f skip source now hh]
    exact .refl f
  | some h => exact (f.turn frame skip source now hh).similar

/-- A frame that is not for a service is sent at once. -/
theorem Turn.direct (ht : Turn f frame h skip source now r) (hd : f.table.isService h.dstIp = false) :
    ∃ sid activate, r = (.stop (f.told h.dstIp frame skip now ++
      (f.place h.dstIp source frame (f.table.route h.dstIp) ++ activated h.dstIp sid activate)),
        f.looked h.dstIp frame skip now) := by
  cases ht with
  | stop sid activate => exact ⟨sid,activate,rfl⟩
  | forward _ _ _ hroute _ => simp [isService,hroute] at hd
  | act ep _ _ _ _ _ hep hb _ _ =>
    simp [isService,route_of_lookup hep,hb,EndpointBackend.route] at hd

/-- So is a frame that is dispatched. -/
theorem dispatchFrame_direct (fuel : Nat) (source : FrameSource)
    (hr : f.reverseDnat frame now = (frame₁,f₁)) (hh : W.header frame₁ = some h)
    (hd : f.table.isService h.dstIp = false) :
    ∃ sid activate, f.dispatchFrame (fuel + 1) frame source now =
      (f₁.looked h.dstIp frame₁ false now,f₁.told h.dstIp frame₁ false now ++
        (f₁.place h.dstIp source frame₁ (f₁.table.route h.dstIp) ++
          activated h.dstIp sid activate)) := by
  have hs := f.similar_reverseDnat frame now
  rw [hr] at hs
  obtain ⟨sid,activate,hp⟩ := (f₁.turn frame₁ false source now hh).direct
    ((hs.shape.isService _).trans hd)
  exact ⟨sid,activate,by simp only [dispatchFrame,hr,hp,finish]⟩

/-- What has to be shown of the steps of a dispatch on a fabric that starts as `f₀`, to show `J` of
the fabric and of what has come out of it so far. `Ok` holds of the frames that go round, `Act` of
the actions of activators. -/
structure Keeps (f₀ : Fabric W) (now : Nat) (J : Fabric W → List (Output W.Frame) → Prop)
    (Ok : Fabric W → W.Frame → Prop) (Act : W.Action → ServiceId → Nat → Prop) : Prop where
  reverseDnat : ∀ f log frame, Similar f₀ f → J f log → Ok f frame →
    J (f.reverseDnat frame now).2 log ∧ Ok (f.reverseDnat frame now).2 (f.reverseDnat frame now).1
  looked : ∀ f log frame h skip, Similar f₀ f → J f log → Ok f frame → W.header frame = some h →
    J (f.looked h.dstIp frame skip now) (log ++ f.told h.dstIp frame skip now) ∧
      Ok (f.looked h.dstIp frame skip now) frame
  stop : ∀ f log frame h source sid activate, Similar f₀ f → J f log → Ok f frame →
    W.header frame = some h → J f (log ++ (f.place h.dstIp source frame (f.table.route h.dstIp) ++
      activated h.dstIp sid activate))
  forward : ∀ f log frame h sid podIp activate, Similar f₀ f → J f log → Ok f frame →
    W.header frame = some h → f.table.route h.dstIp = some (.service sid (some podIp)) →
    J (f.insertConntrackEntry (W.rewriteDst frame h.dstIp podIp) h.dstIp podIp now)
      (log ++ activated h.dstIp none activate) ∧
    Ok (f.insertConntrackEntry (W.rewriteDst frame h.dstIp podIp) h.dstIp podIp now)
      (W.rewriteDst frame h.dstIp podIp)
  act : ∀ f log frame h ep sid policy backendIp processor action, Similar f₀ f → J f log →
    Ok f frame → W.header frame = some h → f.table.byIp.lookup h.dstIp = some ep →
    ep.backend = .service sid policy backendIp processor → W.isPassthrough processor = false →
    (W.processFrame processor frame).1 = some action → Act action sid h.dstIp
  l4Frames : ∀ f log action sid ip, Similar f₀ f → J f log → Act action sid ip →
    J f (log ++ f.sendL4Frames (W.l4Frames action))
  pollTimer : ∀ f log action sid ip delay, Similar f₀ f → J f log → Act action sid ip →
    J f (log ++ [.pollTimer ip delay])
  need : ∀ f log action sid ip need, Similar f₀ f → J f log → Act action sid ip →
    .setBackendNeed need ∈ W.actions action → J f (log ++ [demanded ip sid need])
  replay : ∀ f log action sid ip rawFrame serviceIp backendIp, Similar f₀ f → J f log →
    Act action sid ip → .replayPacket rawFrame ∈ W.actions action →
    f.table.getServiceNatInfo sid = some (serviceIp,backendIp) →
    J (f.insertConntrackEntry (W.rewriteDst rawFrame serviceIp backendIp) serviceIp backendIp now)
      log ∧ Ok (f.insertConntrackEntry (W.rewriteDst rawFrame serviceIp backendIp) serviceIp
        backendIp now) (W.rewriteDst rawFrame serviceIp backendIp)

namespace Keeps

variable {f₀ : Fabric W} {J : Fabric W → List (Output W.Frame) → Prop}
  {Ok : Fabric W → W.Frame → Prop}

/-- The dispatch of a replayed frame keeps `J`. -/
def Replays (f₀ : Fabric W) (J : Fabric W → List (Output W.Frame) → Prop)
    (Ok : Fabric W → W.Frame → Prop)
    (replay : Fabric W → W.Frame → Fabric W × List (Output W.Frame)) : Prop :=
  ∀ f log frame, Similar f₀ f → J f log → Ok f frame →
    Similar f₀ (replay f frame).1 ∧ J (replay f frame).1 (log ++ (replay f frame).2)

variable {replay : Fabric W → W.Frame → Fabric W × List (Output W.Frame)}

variable {f : Fabric W}

theorem dispatchAction (h : Keeps f₀ now J Ok Act) (hreplay : Replays f₀ J Ok replay)
    (hs : Similar f₀ f) (hj : J f log) (ha : Act action sid ip) (hm : step ∈ W.actions action) :
    Similar f₀ (f.dispatchAction replay sid ip now step).1 ∧
      J (f.dispatchAction replay sid ip now step).1
        (log ++ (f.dispatchAction replay sid ip now step).2) := by
  cases step with
  | replayPacket rawFrame =>
    simp only [Fabric.dispatchAction]
    split
    · rename_i serviceIp backendIp hnat
      obtain ⟨hj',hok⟩ := h.replay f log action sid ip rawFrame serviceIp backendIp hs hj ha hm hnat
      exact hreplay _ log _ (hs.trans (similar_insertConntrackEntry _ _ _ _ _)) hj' hok
    · exact ⟨hs,by simpa using hj⟩
  | setBackendNeed need => exact ⟨hs,h.need f log action sid ip need hs hj ha hm⟩
  | other => exact ⟨hs,by simpa [Fabric.dispatchAction] using hj⟩

theorem dispatchActions (h : Keeps f₀ now J Ok Act) (hreplay : Replays f₀ J Ok replay) (ha : Act action sid ip)
    (steps : List (ActivatorAction W.Frame)) (hm : ∀ step ∈ steps, step ∈ W.actions action) :
    ∀ {f : Fabric W} {log : List (Output W.Frame)}, Similar f₀ f → J f log →
      Similar f₀ (f.dispatchActions replay sid ip now steps).1 ∧
        J (f.dispatchActions replay sid ip now steps).1
          (log ++ (f.dispatchActions replay sid ip now steps).2) := by
  induction steps with
  | nil => exact fun hs hj => ⟨hs,by simpa [Fabric.dispatchActions] using hj⟩
  | cons step steps ih =>
    intro f log hs hj
    obtain ⟨hs',hj'⟩ := h.dispatchAction hreplay hs hj ha (hm step mem_cons_self)
    have := ih (fun s hs => hm s (mem_cons_of_mem _ hs)) hs' hj'
    simpa only [Fabric.dispatchActions,append_assoc] using this

theorem execute (h : Keeps f₀ now J Ok Act) (hreplay : Replays f₀ J Ok replay)
    (hs : Similar f₀ f) (hj : J f log) (ha : Act action sid ip) :
    Similar f₀ (f.execute replay sid ip now action).1 ∧
      J (f.execute replay sid ip now action).1 (log ++ (f.execute replay sid ip now action).2) := by
  obtain ⟨hs',hj'⟩ := h.dispatchActions hreplay ha (W.actions action) (fun _ hm => hm) hs
    (h.l4Frames f log action sid ip hs hj ha)
  refine ⟨hs',?_⟩
  simp only [Fabric.execute]
  cases W.pollDelay action with
  | none => simpa using hj'
  | some delay => simpa using h.pollTimer _ _ action sid ip delay hs' hj' ha

/-- What is kept when a turn ends this way. -/
def Ends (J : Fabric W → List (Output W.Frame) → Prop) (Ok : Fabric W → W.Frame → Prop)
    (Act : W.Action → ServiceId → Nat → Prop) (log : List (Output W.Frame)) :
    Pass W × Fabric W → Prop
  | (.stop out,f) => J f (log ++ out)
  | (.forward frame out,f) => J f (log ++ out) ∧ Ok f frame
  | (.act action sid ip out,f) => J f (log ++ out) ∧ Act action sid ip

theorem pass (h : Keeps f₀ now J Ok Act) (skip : Bool) (source : FrameSource) (hs : Similar f₀ f)
    (hj : J f log) (hok : Ok f frame) :
    Similar f₀ (f.pass frame skip source now).2 ∧
      Ends J Ok Act log (f.pass frame skip source now) := by
  refine ⟨hs.trans (f.similar_pass frame skip source now),?_⟩
  cases hh : W.header frame with
  | none =>
    rw [pass_runt f skip source now hh]
    simpa [Ends] using hj
  | some hd =>
    obtain ⟨hj',hok'⟩ := h.looked f log frame hd skip hs hj hok hh
    have same := f.similar_looked hd.dstIp frame skip now
    have ht := f.turn frame skip source now hh
    generalize f.pass frame skip source now = r at ht
    cases ht with
    | stop sid activate =>
      have := h.stop _ _ frame hd source sid activate (hs.trans same) hj' hok' hh
      rwa [same.shape.route,append_assoc] at this
    | forward sid podIp activate hr _ =>
      have := h.forward _ _ frame hd sid podIp activate (hs.trans same) hj' hok' hh
        ((same.shape.route _).trans hr)
      rwa [append_assoc] at this
    | act ep sid policy backendIp processor action hep hb hp ha =>
      exact ⟨hj',h.act f log frame hd ep sid policy backendIp processor action hs hj hok hh hep hb hp
        ha⟩

theorem finish (h : Keeps f₀ now J Ok Act) (hreplay : Replays f₀ J Ok replay) (skip : Bool)
    (source : FrameSource) (hs : Similar f₀ f) (hj : J f log) (hok : Ok f frame) :
    Similar f₀ (Fabric.finish replay now (f.pass frame skip source now)).1 ∧
      J (Fabric.finish replay now (f.pass frame skip source now)).1
        (log ++ (Fabric.finish replay now (f.pass frame skip source now)).2) := by
  obtain ⟨hs',hend⟩ := h.pass skip source hs hj hok
  obtain ⟨p,f',hp⟩ : ∃ p f', f.pass frame skip source now = (p,f') := ⟨_,_,rfl⟩
  rw [hp] at hs' hend ⊢
  cases p with
  | stop out => exact ⟨hs',hend⟩
  | forward frame' out => exact ⟨hs',hend.1⟩
  | act action sid ip out =>
    have := h.execute hreplay hs' hend.1 hend.2
    simpa only [Fabric.finish,append_assoc] using this

/-- What every step of a dispatch keeps, the dispatch keeps. -/
theorem dispatchFrame (h : Keeps f₀ now J Ok Act) (fuel : Nat) : ∀ source : FrameSource,
    Replays f₀ J Ok (fun f frame => f.dispatchFrame fuel frame source now) := by
  induction fuel with
  | zero => exact fun _ f log frame hs hj _ => ⟨hs,by simpa [Fabric.dispatchFrame] using hj⟩
  | succ fuel ih =>
    intro source f₁ log frame₁ hs₁ hj₁ hok₁
    obtain ⟨hj,hok⟩ := h.reverseDnat f₁ log frame₁ hs₁ hj₁ hok₁
    have hs := hs₁.trans (f₁.similar_reverseDnat frame₁ now)
    simp only [Fabric.dispatchFrame]
    obtain ⟨frame,f,hd⟩ : ∃ frame f, f₁.reverseDnat frame₁ now = (frame,f) := ⟨_,_,rfl⟩
    rw [hd] at hj hok hs ⊢
    dsimp only at hj hok hs ⊢
    obtain ⟨hs',hend⟩ := h.pass false source hs hj hok
    have hfinish := h.finish (ih .internal) false source hs hj hok
    obtain ⟨p,f',hp⟩ : ∃ p f', f.pass frame false source now = (p,f') := ⟨_,_,rfl⟩
    rw [hp] at hs' hend hfinish ⊢
    cases p with
    | stop out => exact hfinish
    | act action sid ip out => exact hfinish
    | forward frame' out =>
      have := h.finish (ih .internal) true source hs' hend.1 hend.2
      simpa only [append_assoc] using this

end Keeps

theorem similar_dispatchFrame (f : Fabric W) (fuel : Nat) (frame : W.Frame) (source : FrameSource)
    (now : Nat) : Similar f (f.dispatchFrame fuel frame source now).1 := by
  have h : Keeps f now (fun _ _ => True) (fun _ _ => True) (fun _ _ _ => True) := by
    constructor <;> intros <;> simp
  exact (h.dispatchFrame fuel source f [] frame (.refl f) trivial trivial).1

end Fabric

end Distvirt.Worker
