import Distvirt.Worker.Turns
import Distvirt.Runs

/-! The fabrics of one namespace on several workers, joined by tunnels: which frames are sent from
worker to worker. -/

namespace Distvirt.Worker

open EndpointTable List

/-- A frame on its way through a tunnel. -/
structure Transit (W : Wire) where
  sender : WorkerId
  receiver : WorkerId
  frame : W.Frame

/-- `transmitted` counts the frames that were sent through tunnels, `relayed` those of them that had
come through a tunnel. -/
structure Network (W : Wire) where
  fabrics : Table WorkerId (Fabric W)
  inFlight : List (Transit W)
  transmitted : Nat
  relayed : Nat

/-- A frame that arrives is handed over by its segment: to the port that reads the segment's channel,
if there is one and it has room. -/
inductive NetworkEvent (W : Wire) where
  | inject (worker : WorkerId) (source : FrameSource) (frame : W.Frame) (now : Nat)
  | arrive (index : Nat) (port : Option PortId) (now : Nat)

variable {W : Wire}

def transmissions (sender : WorkerId) (out : List (Output W.Frame)) : List (Transit W) :=
  out.filterMap fun
    | .tunnel receiver frame => some ⟨sender,receiver,frame⟩
    | _ => none

theorem mem_transmissions (h : tr ∈ transmissions sender out) :
    tr.sender = sender ∧ .tunnel tr.receiver tr.frame ∈ out := by
  obtain ⟨o,ho,htr⟩ := mem_filterMap.mp h
  cases o with
  | tunnel receiver frame =>
    cases htr
    exact ⟨rfl,ho⟩
  | _ => cases htr

namespace Network

/-- The frames that the dispatch sends through tunnels, and the network after it. -/
def dispatch (fuel : Nat) (n : Network W) (worker : WorkerId) (source : FrameSource)
    (frame : W.Frame) (now : Nat) : List (Transit W) × Network W :=
  match n.fabrics.lookup worker with
  | none => ([],n)
  | some f =>
    let (f,out) := f.dispatchFrame fuel frame source now
    let sent := transmissions worker out
    (sent,{ n with
      fabrics := n.fabrics.insert worker f
      inFlight := n.inFlight ++ sent
      transmitted := n.transmitted + sent.length })

/-- Frames arrive in any order, on any port of the receiver. -/
def step (fuel : Nat) (n : Network W) : NetworkEvent W → Network W
  | .inject worker source frame now => (n.dispatch fuel worker source frame now).2
  | .arrive index port now =>
    match n.inFlight[index]? with
    | none => n
    | some tr =>
      let n := { n with inFlight := n.inFlight.eraseIdx index }
      match port with
      | none => n
      | some portId =>
        let (sent,n) := n.dispatch fuel tr.receiver (.port portId) tr.frame now
        { n with relayed := n.relayed + sent.length }

def run (fuel : Nat) (n : Network W) (events : List (NetworkEvent W)) : Network W :=
  events.foldl (step fuel) n

end Network

namespace EndpointTable

variable {K : Parts}

def isRemote (t : EndpointTable K) (ip : Nat) : Bool :=
  match t.route ip with
  | some (.remoteSegment _) => true
  | _ => false

/-- Frames for the address go to another worker. -/
def leadsOut (t : EndpointTable K) (ip : Nat) : Bool :=
  t.isRemote ip || (t.targets ip).any t.isRemote

variable {t t' : EndpointTable K}

theorem SameShape.isRemote (h : SameShape t t') (ip : Nat) : t'.isRemote ip = t.isRemote ip := by
  rw [EndpointTable.isRemote,h.route,EndpointTable.isRemote]

theorem SameShape.leadsOut (h : SameShape t t') (ip : Nat) : t'.leadsOut ip = t.leadsOut ip := by
  simp only [EndpointTable.leadsOut,h.isRemote,h.targets]
  rw [funext h.isRemote]

theorem isRemote_of_targets (h : t.leadsOut ip = false) (hb : b ∈ t.targets ip) :
    t.isRemote b = false := by
  simp only [leadsOut,Bool.or_eq_false_iff,any_eq_false,Bool.not_eq_true] at h
  exact h.2 b hb

theorem leadsOut_of_direct (hr : t.isRemote ip = false) (hs : t.isService ip = false) :
    t.leadsOut ip = false := by
  have htargets : t.targets ip = [] := by
    unfold isService at hs
    unfold targets
    split at hs
    · cases hs
    · rfl
  rw [leadsOut,hr,htargets]
  rfl

end EndpointTable

namespace Fabric

variable {f₀ : Fabric W} {now : Nat}

variable {f : Fabric W} {ip : Nat} {frame : W.Frame} {w : WorkerId} {P : Nat → Prop}

theorem not_mem_told : .tunnel w frame' ∉ f.told ip frame skip now := by
  unfold told changed
  split <;> simp

theorem not_mem_activated : Output.tunnel w frame ∉ activated ip sid activate := by
  unfold activated
  split <;> simp

theorem not_mem_sendL4Frames : .tunnel w frame ∉ f.sendL4Frames frames := by
  intro h
  obtain ⟨_,_,_,ho⟩ := mem_sendL4Frames h
  cases ho

theorem not_mem_demanded : Output.tunnel w frame ∉ [demanded ip sid need] := by
  cases need <;> simp [demanded]

/-- The frames that are sent through a tunnel are for addresses on that worker with `P`. -/
def SentOut (f₀ : Fabric W) (P : Nat → Prop) (log : List (Output W.Frame)) : Prop :=
  ∀ w frame, .tunnel w frame ∈ log →
    ∃ h, W.header frame = some h ∧ f₀.table.route h.dstIp = some (.remoteSegment w) ∧ P h.dstIp

theorem SentOut.append (h : f₀.SentOut P log) (ho : ∀ w frame, .tunnel w frame ∉ out) :
    f₀.SentOut P (log ++ out) := by
  intro w frame hm
  rcases mem_append.mp hm with hm | hm
  · exact h w frame hm
  · exact absurd hm (ho w frame)

/-- `P` goes over from the address of a service to those of its pods. -/
theorem keeps_sentOut (now : Nat) (hP : ∀ ip, P ip → ∀ b ∈ f₀.table.targets ip, P b) :
    Keeps f₀ now (fun _ log => f₀.SentOut P log)
      (fun _ frame => ∀ h, W.header frame = some h → P h.dstIp)
      (fun _ sid ip => P ip ∧ ∃ b, f₀.table.route ip = some (.service sid b)) where
  reverseDnat f _ frame _ hj hok := by
    refine ⟨hj,fun h hh => ?_⟩
    obtain ⟨h',hh',heq⟩ := f.header_reverseDnat frame now hh
    rw [heq]
    exact hok h' hh'
  looked f log frame h skip _ hj hok _ := ⟨hj.append (fun _ _ => not_mem_told),hok⟩
  stop f log frame h source sid activate hs hj hok hh := by
    rw [← append_assoc]
    refine SentOut.append (fun w frame' hm => ?_) (fun _ _ => not_mem_activated)
    rcases mem_append.mp hm with hm | hm
    · exact hj w frame' hm
    · rcases mem_place hm with ho | ⟨_,ho⟩ | ⟨_,hr,ho⟩ <;> cases ho
      exact ⟨h,hh,(hs.shape.route _).symm.trans hr,hok h hh⟩
  forward f log frame h sid podIp activate hs hj hok hh hr := by
    refine ⟨hj.append (fun _ _ => not_mem_activated),fun h' hh' => ?_⟩
    rw [header_rewriteDst hh']
    rw [hs.shape.route] at hr
    exact hP _ (hok h hh) podIp (mem_targets_pod hr)
  act f log frame h ep sid policy backendIp processor action hs hj hok hh hep hb _ _ := by
    refine ⟨hok h hh,backendIp,?_⟩
    rw [← hs.shape.route,route_of_lookup hep,hb]
    rfl
  l4Frames _ _ _ _ _ _ hj _ := hj.append (fun _ _ => not_mem_sendL4Frames)
  pollTimer _ _ _ _ _ _ _ hj _ := hj.append (fun _ _ hm => by simp at hm)
  need _ _ _ _ _ _ _ hj _ _ := hj.append (fun _ _ => not_mem_demanded)
  replay f _ _ sid ip _ serviceIp backendIp hs hj ha _ hn := by
    obtain ⟨hp,b,hr⟩ := ha
    refine ⟨hj,fun h hh => ?_⟩
    rw [header_rewriteDst hh]
    rw [hs.shape.getServiceNatInfo] at hn
    exact hP ip hp backendIp (mem_targets_natInfo hr hn)

theorem sentOut_nil : f₀.SentOut P [] := fun _ _ h => nomatch h

/-- The frames sent through tunnels are for addresses on the workers they are sent to. -/
theorem sentOut_dispatchFrame (f : Fabric W) (fuel : Nat) (frame : W.Frame) (source : FrameSource)
    (now : Nat) : f.SentOut (fun _ => True) (f.dispatchFrame fuel frame source now).2 := by
  have h := ((keeps_sentOut now (fun _ _ _ _ => trivial)).dispatchFrame fuel source f [] frame (.refl f)
    sentOut_nil (fun _ _ => trivial)).2
  rwa [nil_append] at h

/-- A frame for an address that does not lead to another worker is not sent through a tunnel. -/
theorem no_tunnel (f : Fabric W) (fuel : Nat) (source : FrameSource) (now : Nat)
    (hflat : f.table.Flat) (hh : W.header frame = some h) (hlead : f.table.leadsOut h.dstIp = false)
    (w : WorkerId) (frame' : W.Frame) :
    .tunnel w frame' ∉ (f.dispatchFrame fuel frame source now).2 := by
  intro hm
  have hP : ∀ ip, f.table.leadsOut ip = false → ∀ b ∈ f.table.targets ip,
      f.table.leadsOut b = false := fun ip hip b hb =>
    leadsOut_of_direct (isRemote_of_targets hip hb) (hflat ip b hb)
  have hs := ((keeps_sentOut now hP).dispatchFrame fuel source f [] frame (.refl f)
    sentOut_nil (fun h' hh' => by rw [hh] at hh'; cases hh'; exact hlead)).2
  rw [nil_append] at hs
  obtain ⟨h',_,hr,hno⟩ := hs w frame' hm
  simp [leadsOut,isRemote,hr] at hno

/-- A frame that is not for a service is not replayed. -/
theorem dispatchFrame_one (f : Fabric W) (fuel : Nat) (source : FrameSource)
    (now : Nat) (hd : ∀ h, W.header frame = some h → f.table.isService h.dstIp = false) :
    f.dispatchFrame (fuel + 1) frame source now = f.dispatchFrame 1 frame source now := by
  obtain ⟨frame₁,f₁,hr⟩ : ∃ frame₁ f₁, f.reverseDnat frame now = (frame₁,f₁) := ⟨_,_,rfl⟩
  cases hh : W.header frame₁ with
  | none => simp only [dispatchFrame,hr,pass_runt f₁ false source now hh,finish]
  | some h =>
    obtain ⟨h',hh',heq⟩ := f.header_reverseDnat frame now (by rw [hr]; exact hh)
    have hs := f.similar_reverseDnat frame now
    rw [hr] at hs
    obtain ⟨_,_,hp⟩ := (f₁.turn frame₁ false source now hh).direct
      ((hs.shape.isService _).trans (heq ▸ hd h' hh'))
    simp only [dispatchFrame,hr,hp,finish]

theorem dispatchActions_congr (f₀ : Fabric W) (hr : ∀ f rawFrame serviceIp backendIp, Similar f₀ f →
      f.table.getServiceNatInfo sid = some (serviceIp,backendIp) →
      r₁ f (W.rewriteDst rawFrame serviceIp backendIp) =
        r₂ f (W.rewriteDst rawFrame serviceIp backendIp))
    (hsim : ∀ f frame, Similar f (r₂ f frame).1) (actions : List (ActivatorAction W.Frame)) :
    ∀ {f : Fabric W}, Similar f₀ f →
      f.dispatchActions r₁ sid ip now actions = f.dispatchActions r₂ sid ip now actions := by
  induction actions with
  | nil => exact fun _ => rfl
  | cons action actions ih =>
    intro f hs
    have hone : f.dispatchAction r₁ sid ip now action = f.dispatchAction r₂ sid ip now action ∧
        Similar f (f.dispatchAction r₂ sid ip now action).1 := by
      cases action with
      | replayPacket rawFrame =>
        simp only [dispatchAction]
        split
        · rename_i serviceIp backendIp hn
          have hi := f.similar_insertConntrackEntry
            (W.rewriteDst rawFrame serviceIp backendIp) serviceIp backendIp now
          exact ⟨hr _ rawFrame serviceIp backendIp (hs.trans hi)
            ((hi.shape.getServiceNatInfo sid).trans hn),hi.trans (hsim _ _)⟩
        · exact ⟨rfl,.refl f⟩
      | setBackendNeed need | other => exact ⟨rfl,.refl f⟩
    simp only [dispatchActions,hone.1,ih (hs.trans hone.2)]

/-- Frames are replayed once at most when no service has a service as its pod. -/
theorem finish_flat (hflat : f₀.table.Flat) (hs : Similar f₀ f) (fuel : Nat)
    (frame : W.Frame) (skip : Bool) (source : FrameSource) (now : Nat) :
    finish (fun f frame => f.dispatchFrame (fuel + 1) frame .internal now) now
        (f.pass frame skip source now) =
      finish (fun f frame => f.dispatchFrame 1 frame .internal now) now
        (f.pass frame skip source now) := by
  cases hh : W.header frame with
  | none =>
    rw [pass_runt f skip source now hh]
    rfl
  | some h =>
    have ht := f.turn frame skip source now hh
    obtain ⟨p,f',hp⟩ : ∃ p f', f.pass frame skip source now = (p,f') := ⟨_,_,rfl⟩
    rw [hp] at ht ⊢
    cases ht with
    | stop _ _ => rfl
    | forward _ _ _ _ _ => rfl
    | act ep sid _ backendIp _ action hep hb _ _ =>
      have hroute : f₀.table.route h.dstIp = some (.service sid backendIp) := by
        rw [← hs.shape.route,route_of_lookup hep,hb]
        rfl
      simp only [finish,execute]
      rw [dispatchActions_congr f₀ ?_ (fun f frame => similar_dispatchFrame f _ _ _ _) _
        (hs.trans (similar_looked _ _ _ _ _))]
      intro f₁ rawFrame serviceIp podIp hs₁ hn
      refine f₁.dispatchFrame_one fuel .internal now (fun h' hh' => ?_)
      rw [header_rewriteDst hh',hs₁.shape.isService]
      rw [hs₁.shape.getServiceNatInfo] at hn
      exact hflat h.dstIp podIp (mem_targets_natInfo hroute hn)

theorem dispatchFrame_flat (f : Fabric W) (hflat : f.table.Flat) (fuel : Nat) (frame : W.Frame)
    (source : FrameSource) (now : Nat) :
    f.dispatchFrame (fuel + 2) frame source now = f.dispatchFrame 2 frame source now := by
  have hs := f.similar_reverseDnat frame now
  obtain ⟨frame₁,f₁,hr⟩ : ∃ frame₁ f₁, f.reverseDnat frame now = (frame₁,f₁) := ⟨_,_,rfl⟩
  rw [hr] at hs
  have hfirst := finish_flat hflat hs fuel frame₁ false source now
  have hs' := hs.trans (f₁.similar_pass frame₁ false source now)
  rw [dispatchFrame,dispatchFrame]
  simp only [hr]
  obtain ⟨p,f',hp⟩ : ∃ p f', f₁.pass frame₁ false source now = (p,f') := ⟨_,_,rfl⟩
  rw [hp] at hfirst hs'
  rw [hp]
  cases p with
  | stop out => exact hfirst
  | act action sid ip out => exact hfirst
  | forward frame' out => simp only [finish_flat hflat hs' fuel frame' true source now]

end Fabric

namespace Network

/-- The tables of the workers fit together: no service has a service as its pod, and no table places
on a worker an address that this worker's own table sends on to another worker. -/
structure Agreed (n : Network W) : Prop where
  flat : ∀ w f, n.fabrics.lookup w = some f → f.table.Flat
  placed : ∀ v w f g ip, n.fabrics.lookup v = some f → n.fabrics.lookup w = some g →
    f.table.route ip = some (.remoteSegment w) → g.table.leadsOut ip = false

/-- The frames in flight are for addresses on their receivers. -/
def Directed (n : Network W) : Prop :=
  ∀ tr ∈ n.inFlight, ∃ f h, n.fabrics.lookup tr.sender = some f ∧ W.header tr.frame = some h ∧
    f.table.route h.dstIp = some (.remoteSegment tr.receiver)

variable {n : Network W}

theorem Agreed.insert (h : n.Agreed) (hf : n.fabrics.lookup w = some f) (hs : f.Similar f') :
    { n with fabrics := n.fabrics.insert w f' }.Agreed := by
  have hold : ∀ v g, (n.fabrics.insert w f').lookup v = some g →
      ∃ g₀, n.fabrics.lookup v = some g₀ ∧ g₀.Similar g := by
    intro v g hg
    rcases AList.insert_cases hg with ⟨rfl,rfl⟩ | ⟨_,hg⟩
    · exact ⟨f,hf,hs⟩
    · exact ⟨g,hg,.refl g⟩
  refine ⟨fun v g hg => ?_,fun v u g g' ip hg hg' hr => ?_⟩
  · obtain ⟨g₀,hg₀,hsim⟩ := hold v g hg
    exact hsim.shape.flat (h.flat v g₀ hg₀)
  · obtain ⟨g₀,hg₀,hsim⟩ := hold v g hg
    obtain ⟨g₁,hg₁,hsim'⟩ := hold u g' hg'
    rw [hsim.shape.route] at hr
    rw [hsim'.shape.leadsOut]
    exact h.placed v u g₀ g₁ ip hg₀ hg₁ hr

theorem dispatch_some (fuel : Nat) (source : FrameSource) (frame : W.Frame) (now : Nat)
    (hf : n.fabrics.lookup worker = some f) : ∃ f' sent, f.Similar f' ∧
      (∀ tr ∈ sent, tr.sender = worker ∧ ∃ h, W.header tr.frame = some h ∧
        f.table.route h.dstIp = some (.remoteSegment tr.receiver)) ∧
      n.dispatch fuel worker source frame now = (sent,{ n with
        fabrics := n.fabrics.insert worker f'
        inFlight := n.inFlight ++ sent
        transmitted := n.transmitted + sent.length }) ∧
      sent = transmissions worker (f.dispatchFrame fuel frame source now).2 := by
  refine ⟨_,_,f.similar_dispatchFrame fuel frame source now,fun tr htr => ?_,
    by rw [dispatch,hf],rfl⟩
  obtain ⟨hsender,hout⟩ := mem_transmissions htr
  obtain ⟨h,hh,hr,-⟩ := f.sentOut_dispatchFrame fuel frame source now _ _ hout
  exact ⟨hsender,h,hh,hr⟩

theorem transmitted_dispatch (n : Network W) (fuel : Nat) (worker : WorkerId) (source : FrameSource)
    (frame : W.Frame) (now : Nat) :
    (n.dispatch fuel worker source frame now).2.transmitted =
      n.transmitted + (n.dispatch fuel worker source frame now).1.length := by
  unfold Network.dispatch
  split <;> rfl

/-- What a dispatch sends through tunnels is directed. -/
theorem Agreed.dispatch (h : n.Agreed) (hd : n.Directed) (fuel : Nat) (worker : WorkerId)
    (source : FrameSource) (frame : W.Frame) (now : Nat) :
    (n.dispatch fuel worker source frame now).2.Agreed ∧
      (n.dispatch fuel worker source frame now).2.Directed ∧
      (n.dispatch fuel worker source frame now).2.relayed = n.relayed := by
  cases hf : n.fabrics.lookup worker with
  | none =>
    rw [Network.dispatch,hf]
    exact ⟨h,hd,rfl⟩
  | some f =>
    obtain ⟨f',sent,hs,hsent,hr,-⟩ := dispatch_some fuel source frame now hf
    rw [hr]
    have hagreed := h.insert hf hs
    refine ⟨⟨hagreed.flat,hagreed.placed⟩,fun tr htr => ?_,rfl⟩
    have hkeep : ∀ v g, n.fabrics.lookup v = some g →
        ∃ g', (n.fabrics.insert worker f').lookup v = some g' ∧ g.Similar g' := by
      intro v g hg
      rw [AList.lookup_insert_if]
      split
      · subst v
        rw [hf] at hg
        cases hg
        exact ⟨f',rfl,hs⟩
      · exact ⟨g,hg,.refl g⟩
    rcases mem_append.mp htr with htr | htr
    · obtain ⟨g,h',hg,hh',hroute⟩ := hd tr htr
      obtain ⟨g',hg',hsim⟩ := hkeep _ g hg
      exact ⟨g',h',hg',hh',(hsim.shape.route _).trans hroute⟩
    · obtain ⟨hsender,h',hh',hroute⟩ := hsent tr htr
      obtain ⟨g',hg',hsim⟩ := hkeep worker f hf
      exact ⟨g',h',hsender ▸ hg',hh',(hsim.shape.route _).trans hroute⟩

/-- A frame that arrives is not sent on. -/
theorem Agreed.arrived (h : n.Agreed) (fuel : Nat) {tr : Transit W}
    (hv : n.fabrics.lookup tr.sender = some v) (hh : W.header tr.frame = some hd)
    (hroute : v.table.route hd.dstIp = some (.remoteSegment tr.receiver)) (source : FrameSource)
    (now : Nat) : (n.dispatch fuel tr.receiver source tr.frame now).1 = [] := by
  cases hf : n.fabrics.lookup tr.receiver with
  | none => rw [Network.dispatch,hf]
  | some f =>
    obtain ⟨f',sent,-,-,hr,hsent⟩ := dispatch_some fuel source tr.frame now hf
    rw [hr]
    change sent = []
    rw [hsent]
    refine eq_nil_iff_forall_not_mem.mpr (fun tr' htr' => ?_)
    obtain ⟨-,hout⟩ := mem_transmissions htr'
    exact f.no_tunnel fuel source now (h.flat _ f hf) hh (h.placed _ _ v f _ hv hf hroute) _ _ hout

theorem Directed.eraseIdx (h : n.Directed) (i : Nat) :
    { n with inFlight := n.inFlight.eraseIdx i }.Directed :=
  fun tr htr => h tr (mem_of_mem_eraseIdx htr)

/-- An arrival changes no counter. -/
theorem Agreed.arrive (h : n.Agreed) (hd : n.Directed) (fuel i : Nat) (port : Option PortId)
    (now : Nat) :
    (n.step fuel (.arrive i port now)).Agreed ∧ (n.step fuel (.arrive i port now)).Directed ∧
      (n.step fuel (.arrive i port now)).relayed = n.relayed ∧
      (n.step fuel (.arrive i port now)).transmitted = n.transmitted := by
  simp only [Network.step]
  cases htr : n.inFlight[i]? with
  | none => exact ⟨h,hd,rfl,rfl⟩
  | some tr =>
    have h' : { n with inFlight := n.inFlight.eraseIdx i }.Agreed := ⟨h.flat,h.placed⟩
    obtain ⟨v,hdr,hv,hh,hroute⟩ := hd tr (mem_of_getElem? htr)
    cases port with
    | none => exact ⟨h',hd.eraseIdx i,rfl,rfl⟩
    | some portId =>
      have hsent := h'.arrived fuel hv hh hroute (.port portId) now
      obtain ⟨ha,hdir,hrel⟩ :=
        h'.dispatch (hd.eraseIdx i) fuel tr.receiver (.port portId) tr.frame now
      have hcount := transmitted_dispatch { n with inFlight := n.inFlight.eraseIdx i } fuel
        tr.receiver (.port portId) tr.frame now
      rw [hsent] at hcount
      dsimp only
      rw [hsent]
      exact ⟨⟨ha.flat,ha.placed⟩,hdir,hrel,hcount⟩

/-- Frames that came through a tunnel are never sent through a tunnel again. -/
theorem Agreed.run (h : n.Agreed) (hd : n.Directed) (fuel : Nat) (events : List (NetworkEvent W)) :
    (n.run fuel events).Agreed ∧ (n.run fuel events).Directed ∧
      (n.run fuel events).relayed = n.relayed := by
  induction events generalizing n with
  | nil => exact ⟨h,hd,rfl⟩
  | cons ev events ih =>
    have hstep : (n.step fuel ev).Agreed ∧ (n.step fuel ev).Directed ∧
        (n.step fuel ev).relayed = n.relayed := by
      cases ev with
      | inject worker source frame now => exact h.dispatch hd fuel worker source frame now
      | arrive i port now =>
        obtain ⟨ha,hdir,hrel,-⟩ := h.arrive hd fuel i port now
        exact ⟨ha,hdir,hrel⟩
    obtain ⟨ha,hdir,hrel⟩ := hstep
    obtain ⟨ha',hdir',hrel'⟩ := ih ha hdir
    exact ⟨ha',hdir',hrel'.trans hrel⟩

/-- Arrivals only. -/
def arrivals (order : List (Nat × Option PortId × Nat)) : List (NetworkEvent W) :=
  order.map (fun (i,port,now) => .arrive i port now)

theorem Agreed.transmitted_arrivals (h : n.Agreed) (hd : n.Directed) (fuel : Nat)
    (order : List (Nat × Option PortId × Nat)) : (n.run fuel (arrivals order)).transmitted = n.transmitted := by
  induction order generalizing n with
  | nil => rfl
  | cons a order ih =>
    obtain ⟨ha,hdir,-,hcount⟩ := h.arrive hd fuel a.1 a.2.1 a.2.2
    exact (ih ha hdir).trans hcount

/-- How many frames an injected frame sends through tunnels does not depend on the depth of
replays. -/
theorem Agreed.injected (h : n.Agreed) (worker : WorkerId) (source : FrameSource)
    (frame : W.Frame) (now : Nat) : ∃ bound, ∀ fuel,
      (n.dispatch fuel worker source frame now).1.length ≤ bound := by
  refine ⟨(n.dispatch 0 worker source frame now).1.length +
    (n.dispatch 1 worker source frame now).1.length +
    (n.dispatch 2 worker source frame now).1.length,fun fuel => ?_⟩
  match fuel with
  | 0 => omega
  | 1 => omega
  | fuel + 2 =>
    have heq : n.dispatch (fuel + 2) worker source frame now =
        n.dispatch 2 worker source frame now := by
      unfold Network.dispatch
      split
      · rfl
      · rename_i f hf
        rw [f.dispatchFrame_flat (h.flat worker f hf)]
    rw [heq]
    omega

theorem no_circulation (n : Network W) (hquiet : n.inFlight = []) (h : n.Agreed) :
    (∀ fuel events, (n.run fuel events).relayed = n.relayed) ∧
      ∀ worker source frame now, ∃ bound, ∀ fuel order,
        (n.run fuel (.inject worker source frame now :: arrivals order)).transmitted ≤
          n.transmitted + bound := by
  have hd : n.Directed := by
    intro tr htr
    rw [hquiet] at htr
    cases htr
  refine ⟨fun fuel events => (h.run hd fuel events).2.2,fun worker source frame now => ?_⟩
  obtain ⟨bound,hbound⟩ := h.injected worker source frame now
  refine ⟨bound,fun fuel order => ?_⟩
  obtain ⟨ha,hdir,-⟩ := h.dispatch hd fuel worker source frame now
  have hrest := ha.transmitted_arrivals hdir fuel order
  have hfirst := n.transmitted_dispatch fuel worker source frame now
  have := hbound fuel
  change ((n.dispatch fuel worker source frame now).2.run fuel (arrivals order)).transmitted ≤ _
  omega

/-- A worker with one address and a tunnel to another worker. -/
def sampleFabric (other : WorkerId) (ep : Endpoint Wire.passthrough.toParts) :
    Fabric .passthrough where
  table := EndpointTable.new.put 10 ep
  conntrack := ∅
  ports := [0]
  tunnelPorts := (∅ : Table WorkerId PortId).insert other 0
  hasGateway := false
  gatewayIp := 1
  prefixLen := 24

def sampleFrame : Header := ⟨5,10,17,none,none⟩

/-- The pod is on the second worker. -/
def placedNetwork : Network .passthrough where
  fabrics := ((∅ : Table WorkerId (Fabric .passthrough)).insert 2
    (sampleFabric 1 (.start .ready (.localPod (some 0))))).insert 1 (sampleFabric 2 (.remote 2))
  inFlight := []
  transmitted := 0
  relayed := 0

theorem route_sampleFabric (other : WorkerId) (ep : Endpoint Wire.passthrough.toParts) (ip : Nat) :
    (sampleFabric other ep).table.route ip = if ip = 10 then some ep.backend.route else none :=
  route_put

theorem placedNetwork_agreed : placedNetwork.Agreed := by
  have hfabrics : ∀ w f, placedNetwork.fabrics.lookup w = some f →
      w = 1 ∧ f = sampleFabric 2 (.remote 2) ∨
        w = 2 ∧ f = sampleFabric 1 (.start .ready (.localPod (some 0))) := by
    intro w f hf
    simp only [placedNetwork,AList.lookup_insert_if,AList.lookup_empty] at hf
    split at hf
    · rename_i hw
      cases hf
      exact .inl ⟨hw,rfl⟩
    · split at hf
      · rename_i hw
        cases hf
        exact .inr ⟨hw,rfl⟩
      · cases hf
  have htargets : ∀ w f, placedNetwork.fabrics.lookup w = some f → ∀ ip,
      f.table.targets ip = [] := by
    intro w f hf ip
    by_cases hip : ip = 10
    · subst hip
      rcases hfabrics w f hf with ⟨-,rfl⟩ | ⟨-,rfl⟩ <;> rfl
    · rcases hfabrics w f hf with ⟨-,rfl⟩ | ⟨-,rfl⟩ <;>
        rw [targets,route_sampleFabric,if_neg hip]
  refine ⟨fun w f hf ip b hb => ?_,fun v w f g ip hf hg hr => ?_⟩
  · rw [htargets w f hf ip] at hb
    cases hb
  · have hremote : w = 2 := by
      rcases hfabrics v f hf with ⟨-,rfl⟩ | ⟨-,rfl⟩ <;> rw [route_sampleFabric] at hr <;>
        split at hr <;> cases hr
      rfl
    subst hremote
    rcases hfabrics _ g hg with ⟨h,-⟩ | ⟨-,rfl⟩
    · cases h
    · rw [leadsOut,htargets _ _ hg,isRemote,route_sampleFabric]
      by_cases hip : ip = 10
      · rw [if_pos hip]
        rfl
      · rw [if_neg hip]
        rfl

theorem placedNetwork_no_circulation :
    (∀ fuel events, (placedNetwork.run fuel events).relayed = placedNetwork.relayed) ∧
      ∀ worker source frame now, ∃ bound, ∀ fuel order,
        (placedNetwork.run fuel (.inject worker source frame now :: arrivals order)).transmitted ≤
          placedNetwork.transmitted + bound :=
  no_circulation placedNetwork rfl placedNetwork_agreed

/-- Each of two workers has the pod on the other one, and a frame for it is on its way. -/
def crossed (v w : WorkerId) (frames : List (Transit .passthrough)) (sent : Nat) :
    Network .passthrough where
  fabrics := ((∅ : Table WorkerId (Fabric .passthrough)).insert w
    (sampleFabric v (.remote v))).insert v (sampleFabric w (.remote w))
  inFlight := frames
  transmitted := sent + frames.length
  relayed := sent

theorem step_crossed (sent : Nat) :
    (crossed 1 2 [⟨1,2,sampleFrame⟩] sent).step 1 (.arrive 0 (some 0) 0) =
        crossed 2 1 [⟨2,1,sampleFrame⟩] (sent + 1) ∧
      (crossed 2 1 [⟨2,1,sampleFrame⟩] sent).step 1 (.arrive 0 (some 0) 0) =
        crossed 1 2 [⟨1,2,sampleFrame⟩] (sent + 1) :=
  ⟨rfl,rfl⟩

theorem run_crossed (k : Nat) : ∀ sent,
    ((crossed 1 2 [⟨1,2,sampleFrame⟩] sent).run 1 (arrivals (replicate k (0,some 0,0)))).transmitted =
        sent + k + 1 ∧
      ((crossed 2 1 [⟨2,1,sampleFrame⟩] sent).run 1 (arrivals (replicate k (0,some 0,0)))).transmitted =
        sent + k + 1 := by
  induction k with
  | zero => exact fun _ => ⟨rfl,rfl⟩
  | succ k ih =>
    intro sent
    obtain ⟨h₁,h₂⟩ := step_crossed sent
    obtain ⟨ih₁,ih₂⟩ := ih (sent + 1)
    constructor
    · change (((crossed 1 2 [⟨1,2,sampleFrame⟩] sent).step 1 (.arrive 0 (some 0) 0)).run 1 _).transmitted = _
      rw [h₁]
      exact ih₂.trans (by omega)
    · change (((crossed 2 1 [⟨2,1,sampleFrame⟩] sent).step 1 (.arrive 0 (some 0) 0)).run 1 _).transmitted = _
      rw [h₂]
      exact ih₁.trans (by omega)

/-- The frame goes back and forth for as long as the tables stay as they are. -/
theorem crossed_circulates : ¬ ∃ bound, ∀ fuel order, ((crossed 1 2 [] 0).run fuel
    (.inject 1 (.port 1) sampleFrame 0 :: arrivals order)).transmitted ≤ bound := by
  rintro ⟨bound,hbound⟩
  have hfirst : (crossed 1 2 [] 0).step 1 (.inject 1 (.port 1) sampleFrame 0) =
      crossed 1 2 [⟨1,2,sampleFrame⟩] 0 := rfl
  have h := hbound 1 (replicate bound (0,some 0,0))
  change (((crossed 1 2 [] 0).step 1 (.inject 1 (.port 1) sampleFrame 0)).run 1 _).transmitted ≤ _
    at h
  rw [hfirst,(run_crossed bound 0).1] at h
  omega

end Network

end Distvirt.Worker
