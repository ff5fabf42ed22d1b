import Distvirt.Worker.Fabric

/-! What one look at the endpoint table does with a frame. -/

namespace Distvirt.Worker

variable {K : Parts}

def Endpoint.isActive (ep : Endpoint K) : Bool :=
  (ep.flowTracker.map K.hasActiveFlows).getD false

/-- Whether frames for an address of the class can only be held back or forwarded. -/
def Route.holds : Route → Bool
  | .service _ _ | .unplacedPod | .localPod none => true
  | _ => false

namespace EndpointTable

/-- A buffer that was begun at `start` is too old. -/
abbrev Late (start : Option Nat) (limits : BufferPolicy) (now : Nat) : Prop :=
  ∃ s, start = some s ∧ limits.timeoutMs ≤ now - s

/-- What becomes of a frame that is offered to a buffer: whether it is taken, and the buffer after
it. -/
inductive Offered (start : Option Nat) (buffer : List K.Frame) (frame : K.Frame)
    (limits : BufferPolicy) (now : Nat) : Bool → Option Nat → List K.Frame → Prop where
  | refused : limits.bufferFrames = 0 ∨
      ¬ Late start limits now ∧ limits.bufferFrames ≤ buffer.length →
      Offered start buffer frame limits now false start buffer
  | expired : limits.bufferFrames ≠ 0 → Late start limits now →
      Offered start buffer frame limits now false none []
  | taken : limits.bufferFrames ≠ 0 → ¬ Late start limits now →
      ¬ limits.bufferFrames ≤ buffer.length →
      Offered start buffer frame limits now true (some (start.getD now)) (buffer ++ [frame])

theorem tryBufferFrame_spec (ep : Endpoint K) (frame : K.Frame) (limits : BufferPolicy)
    (now : Nat) : ∃ taken start buffer, tryBufferFrame ep frame limits now =
      ({ ep with bufferStart := start, buffer := buffer },taken) ∧
    Offered ep.bufferStart ep.buffer frame limits now taken start buffer := by
  have hlate : (ep.bufferStart.map (fun start => decide (limits.timeoutMs ≤ now - start))).getD
      false = true ↔ Late ep.bufferStart limits now := by
    unfold Late
    cases ep.bufferStart <;> simp
  unfold tryBufferFrame
  split
  · rename_i hzero
    exact ⟨_,_,_,rfl,.refused (.inl hzero)⟩
  · rename_i hsome
    split
    · rename_i htimeout
      exact ⟨_,_,_,rfl,.expired hsome (hlate.mp htimeout)⟩
    · rename_i hyoung
      have hyoung := fun h => hyoung (hlate.mpr h)
      split
      · rename_i hfull
        exact ⟨_,_,_,rfl,.refused (.inr ⟨hyoung,hfull⟩)⟩
      · rename_i hroom
        exact ⟨_,_,_,rfl,.taken hsome hyoung hroom⟩

theorem checkActivationDebounce_spec (ep : Endpoint K) (now : Nat) :
    ((checkActivationDebounce ep now).2 = false ↔
      ∃ last, ep.lastActivation = some last ∧ now - last < activationDebounce) ∧
    ∃ last, (checkActivationDebounce ep now).1 = { ep with lastActivation := last } := by
  unfold checkActivationDebounce
  cases hlast : ep.lastActivation with
  | none => exact ⟨by simp,_,rfl⟩
  | some last =>
    dsimp only
    split
    · rename_i hrecent
      exact ⟨by simp [hrecent],ep.lastActivation,rfl⟩
    · rename_i hold
      exact ⟨by simp [hold],_,rfl⟩

theorem dispatchBuffer_spec (t : EndpointTable K) (ip : Nat) (ep : Endpoint K) (frame : K.Frame)
    (limits : BufferPolicy) (now : Nat) : ∃ taken activate last start buffer,
    t.dispatchBuffer ip ep frame limits now =
      ((if taken then .buffered ep.backend.serviceId? else .drop ep.backend.serviceId?,activate),
        t.put ip { ep with lastActivation := last, bufferStart := start, buffer := buffer }) ∧
    (activate = false ↔ ∃ last, ep.lastActivation = some last ∧ now - last < activationDebounce) ∧
    Offered ep.bufferStart ep.buffer frame limits now taken start buffer := by
  obtain ⟨hactivate,last,hlast⟩ := checkActivationDebounce_spec ep now
  obtain ⟨taken,start,buffer,hbuffer,hoffered⟩ :=
    tryBufferFrame_spec { ep with lastActivation := last } frame limits now
  refine ⟨taken,_,last,start,buffer,?_,hactivate,hoffered⟩
  unfold dispatchBuffer
  simp only [hlast,hbuffer]

/-- The tracker sees the frame first. -/
theorem trackFlow_spec (ip : Nat) (ep : Endpoint K) (frame : K.Frame) (skip : Bool) (now : Nat) :
    ∃ tracker change, (if skip = true then (ep,none) else trackFlow ip ep frame now) =
        ({ ep with flowTracker := tracker },change) ∧
      tracker = (if skip then ep.flowTracker else ep.flowTracker.map (K.track · frame now)) ∧
      (change = none → ({ ep with flowTracker := tracker } : Endpoint K).isActive = ep.isActive) ∧
      ∀ c, change = some c →
        c.ip = ip ∧ c.active = ({ ep with flowTracker := tracker } : Endpoint K).isActive := by
  obtain ⟨state,buffer,start,backend,tracker,last⟩ := ep
  cases skip with
  | true => exact ⟨_,_,rfl,rfl,fun _ => rfl,by simp⟩
  | false =>
    cases tracker with
    | none => exact ⟨_,_,rfl,rfl,fun _ => rfl,by simp⟩
    | some tracker =>
      refine ⟨_,_,rfl,rfl,fun hno => ?_,fun c hc => ?_⟩
      · split at hno
        · cases hno
        · rename_i heq
          exact not_not.mp heq
      · split at hc
        · cases hc
          exact ⟨rfl,rfl⟩
        · cases hc

variable {t : EndpointTable K} {ip podIp : Nat} {ep : Endpoint K}

theorem forwardIp_put :
    (t.put ip ep).forwardIp ip state backendIp = t.forwardIp ip state backendIp := by
  unfold forwardIp
  cases backendIp with
  | none => rfl
  | some podIp =>
    by_cases hne : podIp = ip
    · simp [hne]
    · simp [lookup_put,hne]

theorem forwardIp_some (h : t.forwardIp ip state backendIp = some podIp) :
    backendIp = some podIp ∧ podIp ≠ ip ∧
      ((t.route podIp).map Route.isReachable).getD false = true := by
  unfold forwardIp at h
  split at h
  · split at h
    · rename_i hc
      cases h
      refine ⟨rfl,hc.2.1,?_⟩
      simp only [isReachable_route] at hc
      rw [route,Option.map_map]
      exact hc.2.2
    · cases h
  · cases h

/-- A service that does not forward cannot be reached. -/
theorem isReachable_of_forwardIp (hep : t.byIp.lookup ip = some ep)
    (hb : ep.backend = .service sid policy backendIp processor)
    (h : t.forwardIp ip ep.state backendIp = none) : t.isReachable ip = false := by
  have hroute : t.route ip = some (.service sid backendIp) := by
    rw [route_of_lookup hep,hb]
    rfl
  rw [isReachable,hroute]
  cases backendIp with
  | none => rfl
  | some b =>
    rw [forwardIp] at h
    split at h
    · cases h
    · rename_i hn
      rw [Bool.eq_false_iff]
      intro hr
      simp only [Bool.and_eq_true,decide_eq_true_eq] at hr
      refine hn ⟨?_,hr.1.2,?_⟩
      · have hready := hr.1.1
        rw [isReady,hep] at hready
        simpa using hready
      · simp only [isReachable_route]
        have hbr := hr.2
        rw [route,Option.map_map] at hbr
        exact hbr

/-- What the table answers to a frame for the endpoint `ep`, which is `ep₁` when its tracker has
seen the frame, and the table after it. -/
inductive Lookup (t : EndpointTable K) (ip : Nat) (ep ep₁ : Endpoint K) (frame : K.Frame)
    (now : Nat) (change : Option FlowStatusChange) :
    (EndpointAction K × Bool × Option FlowStatusChange) × EndpointTable K → Prop where
  | remote {w : WorkerId} : ep.backend = .remoteSegment w →
      Lookup t ip ep ep₁ frame now change ((.remoteWorker w,false,none),t.put ip ep₁)
  | adapter {p : PortId} : ep.backend = .localAdapter p →
      Lookup t ip ep ep₁ frame now change ((.localAdapter p,false,change),t.put ip ep₁)
  | pod {p : PortId} : ep.backend = .localPod (some p) →
      Lookup t ip ep ep₁ frame now change ((.localPod p,false,change),t.put ip ep₁)
  | forward {sid : ServiceId} {policy : ServicePolicy} {podIp : Nat} {processor : K.Processor} :
      ep.backend = .service sid policy (some podIp) processor → podIp ≠ ip →
      ((t.route podIp).map Route.isReachable).getD false = true →
      Lookup t ip ep ep₁ frame now change ((.serviceForward podIp ip,false,change),t.put ip ep₁)
  | processed {sid : ServiceId} {policy : ServicePolicy} {backendIp : Option Nat}
      {processor : K.Processor} {action : K.Action} :
      ep.backend = .service sid policy backendIp processor → K.isPassthrough processor = false →
      (K.processFrame processor frame).1 = some action →
      Lookup t ip ep ep₁ frame now change ((.processed action sid,false,none),t.put ip { ep₁ with
        backend := .service sid policy backendIp (K.processFrame processor frame).2 })
  | held {b : EndpointBackend K} {limits : BufferPolicy} {taken activate : Bool}
      {last start : Option Nat} {buffer : List K.Frame} : ep.backend.route.holds = true →
      b = ep.backend ∨ (∃ sid policy backendIp processor, K.isPassthrough processor = false ∧
        ep.backend = .service sid policy backendIp processor ∧
        b = .service sid policy backendIp (K.processFrame processor frame).2) →
      t.bufferPolicy ip = some limits → t.isReachable ip = false →
      Offered ep₁.bufferStart ep₁.buffer frame limits now taken start buffer →
      Lookup t ip ep ep₁ frame now change
        ((if taken then .buffered b.serviceId? else .drop b.serviceId?,activate,change),
          t.put ip { ep₁ with
            backend := b, lastActivation := last, bufferStart := start, buffer := buffer })

/-- A frame that is not passed on is offered to the buffer. -/
theorem lookup_of_held {ep₁ : Endpoint K} (b : EndpointBackend K) (limits : BufferPolicy)
    (hholds : ep.backend.route.holds = true)
    (hb : b = ep.backend ∨ (∃ sid policy backendIp processor, K.isPassthrough processor = false ∧
      ep.backend = .service sid policy backendIp processor ∧
      b = .service sid policy backendIp (K.processFrame processor frame).2))
    (hpolicy : t.bufferPolicy ip = some limits) (hno : t.isReachable ip = false) :
    Lookup t ip ep ep₁ frame now change
      (let r := (t.put ip ep₁).dispatchBuffer ip { ep₁ with backend := b } frame limits now
      ((r.1.1,r.1.2,change),r.2)) := by
  obtain ⟨taken,activate,last,start,buffer,hd,-,hoff⟩ :=
    (t.put ip ep₁).dispatchBuffer_spec ip { ep₁ with backend := b } frame limits now
  simp only [hd,put_put]
  exact .held hholds hb hpolicy hno hoff

theorem lookup_of_track {ep₁ : Endpoint K} (hep : t.byIp.lookup ip = some ep)
    (hback : ep₁.backend = ep.backend) (hstate : ep₁.state = ep.state)
    (htrack : (if skip = true then (ep,none) else trackFlow ip ep frame now) = (ep₁,change)) :
    Lookup t ip ep ep₁ frame now change (t.lookupAndBuffer ip frame skip now) := by
  have hroute := route_of_lookup hep
  cases hb : ep.backend with
  | remoteSegment w =>
    simp only [lookupAndBuffer,hep,htrack,hback,hb]
    exact .remote hb
  | localAdapter p =>
    simp only [lookupAndBuffer,hep,htrack,hback,hb]
    exact .adapter hb
  | localPod port =>
    cases port with
    | some p =>
      simp only [lookupAndBuffer,hep,htrack,hback,hb]
      exact .pod hb
    | none =>
      simp only [lookupAndBuffer,hep,htrack,hback,hb]
      exact lookup_of_held ep₁.backend podPolicy (by rw [hb]; rfl) (.inl hback)
        (by simp [bufferPolicy,hep,hb]) (by rw [isReachable,hroute,hb]; rfl)
  | unplacedPod policy =>
    simp only [lookupAndBuffer,hep,htrack,hback,hb]
    exact lookup_of_held ep₁.backend policy (by rw [hb]; rfl) (.inl hback)
      (by simp [bufferPolicy,hep,hb]) (by rw [isReachable,hroute,hb]; rfl)
  | service sid policy backendIp processor =>
    simp only [lookupAndBuffer,hep,htrack,hback,hb]
    rw [dispatchService,forwardIp_put]
    cases hfwd : t.forwardIp ip ep₁.state backendIp with
    | some podIp =>
      obtain ⟨rfl,hne,hreach⟩ := forwardIp_some hfwd
      exact .forward hb hne hreach
    | none =>
      have hno := isReachable_of_forwardIp hep hb (hstate ▸ hfwd)
      have hpolicy : t.bufferPolicy ip = some ⟨policy.bufferFrames,policy.timeoutMs⟩ := by
        simp [bufferPolicy,hep,hb]
      cases hp : K.isPassthrough processor with
      | true => exact lookup_of_held _ _ (by rw [hb]; rfl) (.inl hb.symm) hpolicy hno
      | false =>
        simp only [Bool.false_eq_true,if_false]
        cases haction : (K.processFrame processor frame).1 with
        | some action =>
          simp only [put_put]
          exact .processed hb hp haction
        | none =>
          exact lookup_of_held _ _ (by rw [hb]; rfl) (.inr ⟨_,_,_,_,hp,hb,rfl⟩) hpolicy hno

theorem lookup_none (h : t.byIp.lookup ip = none) :
    t.lookupAndBuffer ip frame skip now = ((.notFound,false,none),t) := by
  simp only [lookupAndBuffer,h]

/-- A frame for an endpoint is looked up after its tracker has seen it. -/
theorem lookup_cases (frame : K.Frame) (skip : Bool) (now : Nat)
    (hep : t.byIp.lookup ip = some ep) : ∃ tracker change,
      tracker = (if skip then ep.flowTracker else ep.flowTracker.map (K.track · frame now)) ∧
      (change = none → ({ ep with flowTracker := tracker } : Endpoint K).isActive = ep.isActive) ∧
      (∀ c, change = some c →
        c.ip = ip ∧ c.active = ({ ep with flowTracker := tracker } : Endpoint K).isActive) ∧
      Lookup t ip ep { ep with flowTracker := tracker } frame now change
        (t.lookupAndBuffer ip frame skip now) := by
  obtain ⟨tracker,change,htrack,htracker,hsame,hchange⟩ := trackFlow_spec ip ep frame skip now
  exact ⟨tracker,change,htracker,hsame,hchange,lookup_of_track hep rfl rfl htrack⟩

end EndpointTable

end Distvirt.Worker
