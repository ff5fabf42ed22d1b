import Distvirt.Worker.Turns
import Distvirt.Runs

/-! Connections to services and pods through one fabric: from which address the replies come. -/

namespace Distvirt.Worker

open EndpointTable List Option AList Header Output

/-- A connection as its client sees it. -/
structure Connection where
  client : Nat
  clientPort : Nat
  protocol : Nat
  dest : Nat
  destPort : Nat
deriving DecidableEq, Repr

namespace Connection

/-- The packets of the client as they arrive at the pod. -/
def arriving (c : Connection) (podIp : Nat) : ConntrackKey :=
  ⟨c.client,podIp,c.protocol,c.clientPort,c.destPort⟩

def request (c : Connection) : ConntrackKey := c.arriving c.dest

/-- The packets of the pod as it sends them. -/
def reply (c : Connection) (podIp : Nat) : ConntrackKey :=
  ⟨podIp,c.client,c.protocol,c.destPort,c.clientPort⟩

end Connection

variable {h : Header} {c : Connection} {ip : Nat}

theorem Header.reverseKey_of (hk : h.key = c.arriving ip)
    (podIp : Nat) : h.reverseKey podIp = c.reply podIp := by
  simp only [key,Connection.arriving,ConntrackKey.mk.injEq] at hk
  obtain ⟨h₁,-,h₂,h₃,h₄⟩ := hk
  simp only [reverseKey,Connection.reply,h₁,h₂,h₃,h₄]

theorem Header.key_withDst (hk : h.key = c.arriving ip)
    (podIp : Nat) : { h with dstIp := podIp }.key = c.arriving podIp := by
  simp only [key,Connection.arriving,ConntrackKey.mk.injEq] at hk
  obtain ⟨h₁,-,h₂,h₃,h₄⟩ := hk
  simp only [portPair] at h₃ h₄
  simp only [key,Connection.arriving,portPair,h₁,h₂,h₃,h₄]

theorem Header.dstIp_of (hk : h.key = c.arriving ip) :
    h.dstIp = ip := congrArg ConntrackKey.dstIp hk

namespace EndpointTable

variable {K : Parts}

/-- The pod that answers for an address. -/
def pod (t : EndpointTable K) (ip : Nat) : Nat :=
  match t.route ip with
  | some (.service _ (some podIp)) => podIp
  | _ => ip

/-- A service is found by its id. -/
def Indexed (t : EndpointTable K) : Prop :=
  ∀ ip sid backendIp, t.route ip = some (.service sid backendIp) →
    t.serviceIdToIp.lookup sid = some ip

theorem Indexed.of_keys {t : EndpointTable K}
    (h : ∀ ip ∈ t.byIp.keys, ∀ sid ∈ t.serviceAt ip, t.serviceIdToIp.lookup sid = some ip) :
    t.Indexed := by
  intro ip sid b hr
  refine h ip (mem_keys_of_route hr) sid ?_
  obtain ⟨ep,hep,hb⟩ := map_eq_some_iff.mp hr
  rw [serviceAt,hep,bind_some]
  cases hbk : ep.backend with
  | service _ _ _ _ =>
    rw [hbk] at hb
    cases hb
    rfl
  | _ =>
    rw [hbk] at hb
    cases hb

theorem SameShape.pod (h : SameShape t t') (ip : Nat) : t'.pod ip = t.pod ip := by
  simp only [EndpointTable.pod,h.route]

variable {t : EndpointTable K}

variable {ip : Nat} {sid : ServiceId}

theorem pod_of_route (h : t.route ip = some (.service sid (some podIp))) : t.pod ip = podIp := by
  rw [pod,h]

theorem pod_of_direct (h : t.isService ip = false) : t.pod ip = ip := by
  unfold pod
  split
  · rename_i hr
    simp [isService,hr] at h
  · rfl

theorem isService_of_route (h : t.route ip = some (.service sid b)) : t.isService ip = true := by
  rw [isService,h]

/-- With services found by their ids, frames are replayed to the pod of the service. -/
theorem Indexed.natInfo (h : t.Indexed) (hr : t.route ip = some (.service sid b))
    (hn : t.getServiceNatInfo sid = some (serviceIp,podIp)) :
    serviceIp = ip ∧ t.route ip = some (.service sid (some podIp)) := by
  rw [getServiceNatInfo_eq,h ip sid b hr] at hn
  simp only [bind_some,hr,map_eq_some_iff,Prod.mk.injEq] at hn
  obtain ⟨_,rfl,rfl,rfl⟩ := hn
  exact ⟨rfl,hr⟩

/-- The connections are told apart by the packets of their pods, no connection runs the other way
between the ends of another one, and clients are not services. -/
structure Separated (t : EndpointTable K) (conns : List Connection) : Prop where
  distinct : ∀ c ∈ conns, ∀ c' ∈ conns, c.reply (t.pod c.dest) = c'.reply (t.pod c'.dest) →
    c.dest = c'.dest
  opposed : ∀ c ∈ conns, ∀ c' ∈ conns, c.request ≠ c'.reply (t.pod c'.dest) ∧
    c.arriving (t.pod c.dest) ≠ c'.reply (t.pod c'.dest)
  clients : ∀ c ∈ conns, t.isService c.client = false

end EndpointTable

/-- What activators keep of the frames they see, and that they replay nothing else. -/
structure Honest (W : Wire) where
  kept : W.Processor → W.Frame → Prop
  replayed : ∀ p frame action rawFrame, (W.processFrame p frame).1 = some action →
    .replayPacket rawFrame ∈ W.actions action → rawFrame = frame ∨ kept p rawFrame
  kept_processFrame : ∀ p frame rawFrame, kept (W.processFrame p frame).2 rawFrame →
    rawFrame = frame ∨ kept p rawFrame

variable {W : Wire}

/-- The 5-tuple of a frame that comes out. -/
def Output.key? (o : Output W.Frame) : Option ConntrackKey :=
  (o.frame?.bind W.header).map Header.key

def carries (out : List (Output W.Frame)) (k : ConntrackKey) : Bool :=
  out.any (fun o => o.key? = some k)

/-- A fabric and the connections opened through it, with those of which a packet has come out for
the pod. -/
structure Dialogue (W : Wire) where
  fabric : Fabric W
  opened : List Connection
  reached : List Connection

inductive DialogueEvent (W : Wire) where
  | request (c : Connection) (frame : W.Frame) (source : FrameSource) (now : Nat)
  | reply (c : Connection) (frame : W.Frame) (source : FrameSource) (now : Nat)
  | gc (now : Nat)

def conntrackMaxAge : Nat := 300000

namespace Dialogue

def pod (s : Dialogue W) (c : Connection) : Nat := s.fabric.table.pod c.dest

def step (fuel : Nat) (s : Dialogue W) : DialogueEvent W → Dialogue W
  | .request c frame source now =>
    let (f,out) := s.fabric.dispatchFrame fuel frame source now
    let opened := c :: s.opened
    { fabric := f
      opened
      reached := s.reached ++ opened.filter (fun c => carries out (c.arriving (s.pod c))) }
  | .reply _ frame source now =>
    { s with fabric := (s.fabric.dispatchFrame fuel frame source now).1 }
  | .gc now =>
    { s with fabric :=
      { s.fabric with conntrack := ConntrackTable.gc s.fabric.conntrack conntrackMaxAge now } }

/-- Frames belong to the connections, and no entry has been idle for too long. -/
def Allowed (conns : List Connection) (s : Dialogue W) : DialogueEvent W → Prop
  | .request c frame _ _ => c ∈ conns ∧ (W.header frame).map Header.key = some c.request
  | .reply c frame _ _ => c ∈ conns ∧ (W.header frame).map Header.key = some (c.reply (s.pod c))
  | .gc now => ∀ x ∈ s.fabric.conntrack.toList, now - x.2.lastSeen ≤ conntrackMaxAge

instance (conns : List Connection) (s : Dialogue W) :
    (ev : DialogueEvent W) → Decidable (Allowed conns s ev)
  | .request _ _ _ _ => inferInstanceAs (Decidable (_ ∧ _))
  | .reply _ _ _ _ => inferInstanceAs (Decidable (_ ∧ _))
  | .gc _ => inferInstanceAs (Decidable (∀ _ ∈ _,_))

/-- A packet of the pod for a connection whose packets it has got goes to where the client is, with
the address that the client contacted as its source. -/
def Answered (s : Dialogue W) : Prop :=
  ∀ c ∈ s.reached, ∀ frame h source now fuel, W.header frame = some h →
    h.key = c.reply (s.pod c) → ∃ frame', W.header frame' = some { h with srcIp := c.dest } ∧
      (s.fabric.dispatchFrame (fuel + 1) frame source now).2.filter (fun o => o.frame?.isSome) =
        s.fabric.place c.client source frame' (s.fabric.table.route c.client)

end Dialogue

namespace Fabric

variable {hon : Honest W} {conns : List Connection} {f₀ f : Fabric W}
  {log out : List (Output W.Frame)}

/-- A packet of a connection to the address, as the client sent it. -/
def Requests (conns : List Connection) (ip : Nat) (frame : W.Frame) : Prop :=
  ∃ c ∈ conns, c.dest = ip ∧ ∃ h, W.header frame = some h ∧ h.key = c.request

/-- What activators have kept for an address are packets of connections to it. -/
def KeepsRequests (hon : Honest W) (conns : List Connection) (t : EndpointTable W.toParts) : Prop :=
  ∀ ip ep sid policy b p rawFrame, t.byIp.lookup ip = some ep →
    ep.backend = .service sid policy b p → hon.kept p rawFrame → Requests conns ip rawFrame

/-- Each entry is for the packets of the pod of a connection to a service. -/
def SoundEntries (conns : List Connection) (t : EndpointTable W.toParts) (ct : ConntrackTable) :
    Prop :=
  ∀ k e, ct.lookup k = some e →
    ∃ c ∈ conns, t.isService c.dest = true ∧ k = c.reply (t.pod c.dest) ∧ e.serviceIp = c.dest

/-- What holds while a packet of a client is dispatched on a fabric that started as `f₀`. -/
structure Tracked (hon : Honest W) (conns : List Connection) (f₀ f : Fabric W)
    (log : List (Output W.Frame)) : Prop where
  sound : SoundEntries conns f₀.table f.conntrack
  keys : ∀ k ∈ f₀.conntrack, k ∈ f.conntrack
  sent : ∀ c ∈ conns, f₀.table.isService c.dest = true →
    carries log (c.arriving (f₀.table.pod c.dest)) = true →
    c.reply (f₀.table.pod c.dest) ∈ f.conntrack
  kept : KeepsRequests hon conns f.table

theorem carries_append : carries (log ++ out) k = (carries log k || carries out k) :=
  any_append

theorem carries_of_frameless (h : ∀ o ∈ out, o.frame? = none) : carries out k = false := by
  refine any_eq_false.mpr (fun o ho => ?_)
  simp [key?,h o ho]

variable {ip : Nat} {frame : W.Frame} {c : Connection} {h : Header}

theorem frame?_told : ∀ o ∈ f.told ip frame skip now, o.frame? = none := by
  unfold told changed
  split <;> simp [frame?]

theorem frame?_activated :
    ∀ o ∈ (activated ip sid activate : List (Output W.Frame)), o.frame? = none := by
  unfold activated
  split <;> simp [frame?]

theorem frame?_place : ∀ o ∈ f.place ip source frame r, o.frame? = some frame := by
  intro o ho
  rcases mem_place ho with rfl | ⟨_,rfl⟩ | ⟨_,_,rfl⟩ <;> rfl

theorem place_service
    (h : f.table.isService ip = true) : f.place ip source frame (f.table.route ip) = [] := by
  unfold isService at h
  split at h
  · rename_i hr
    rw [hr]
    rfl
  · cases h

theorem Tracked.frameless (h : Tracked hon conns f₀ f log) (ho : ∀ o ∈ out, o.frame? = none) :
    Tracked hon conns f₀ f (log ++ out) where
  sound := h.sound
  keys := h.keys
  sent c hc hsvc hcarry := by
    rw [carries_append,carries_of_frameless ho,Bool.or_false] at hcarry
    exact h.sent c hc hsvc hcarry
  kept := h.kept

/-- What activators keep after they have seen a frame. -/
theorem KeepsRequests.looked (h : KeepsRequests hon conns t) (skip : Bool) (now : Nat)
    (hframe : t.isService ip = true → Requests conns ip frame) :
    KeepsRequests hon conns (t.lookupAndBuffer ip frame skip now).2 := by
  cases hep : t.byIp.lookup ip with
  | none =>
    rw [lookup_none hep]
    exact h
  | some ep =>
    obtain ⟨action,_,_,ep',hr,ha⟩ := answered frame skip now hep
    intro i e sid policy b p rawFrame hl hb hk
    rw [hr,lookup_put] at hl
    split at hl
    · rename_i hi
      subst hi
      cases hl
      have hanswer := ha.answer
      rw [hb] at hanswer
      -- the activator of the service may have seen the frame
      have hnew : ∀ p₀, ep.backend = .service sid policy b p₀ →
          hon.kept (W.processFrame p₀ frame).2 rawFrame → Requests conns i rawFrame := by
        intro p₀ hep₀ hk₀
        rcases hon.kept_processFrame p₀ frame rawFrame hk₀ with rfl | hk₀
        · refine hframe ?_
          rw [isService,route_of_lookup hep,hep₀]
          rfl
        · exact h i ep sid policy b p₀ rawFrame hep hep₀ hk₀
      generalize hbk : ep.backend = b₀ at hanswer
      cases hanswer with
      | forward _ _ => exact h i ep sid policy _ p rawFrame hep hbk hk
      | processed _ _ => exact hnew _ hbk hk
      | held _ _ _ hb' =>
        rcases hb' with heq | ⟨_,_,_,p₀,_,rfl,heq⟩
        · exact h i ep sid policy b p rawFrame hep (hbk.trans heq.symm) hk
        · cases heq
          exact hnew p₀ hbk hk
    · exact h i e sid policy b p rawFrame hl hb hk

theorem Tracked.looked (h : Tracked hon conns f₀ f log) (skip : Bool)
    (now : Nat) (hframe : f.table.isService ip = true → Requests conns ip frame) :
    Tracked hon conns f₀ (f.looked ip frame skip now) log where
  sound := h.sound
  keys := h.keys
  sent := h.sent
  kept := h.kept.looked skip now hframe

/-- The entry for the pod of a connection to a service. -/
theorem Tracked.insert (h : Tracked hon conns f₀ f log) (hc : c ∈ conns)
    (hsvc : f₀.table.isService c.dest = true) (podIp now : Nat) :
    Tracked hon conns f₀ { f with
      conntrack := f.conntrack.insert (c.reply (f₀.table.pod c.dest)) ⟨c.dest,podIp,now⟩ }
      log where
  sound k e hl := by
    rcases insert_cases hl with ⟨hk,rfl⟩ | ⟨_,hl⟩
    · exact ⟨c,hc,hsvc,hk,rfl⟩
    · exact h.sound k e hl
  keys k hk := (mem_insert _).mpr (.inr (h.keys k hk))
  sent c' hc' hsvc' hcarry := (mem_insert _).mpr (.inr (h.sent c' hc' hsvc' hcarry))
  kept := h.kept

theorem insertConntrackEntry_of (hh : W.header rewritten = some h) (hk : h.key = c.arriving ip)
    (serviceIp podIp now : Nat) : f.insertConntrackEntry rewritten serviceIp podIp now = { f with
      conntrack := f.conntrack.insert (c.reply podIp) ⟨serviceIp,podIp,now⟩ } := by
  simp only [insertConntrackEntry,hh,h.reverseKey_of hk podIp]

theorem reverseDnat_of_none (now : Nat)
    (hh : W.header frame = some h) (hl : f.conntrack.lookup h.key = none) :
    f.reverseDnat frame now = (frame,f) := by
  simp only [reverseDnat,hh,ConntrackTable.find,hl]

/-- A packet of a client on its way: as the client sent it, or as it arrives at the pod. -/
def OnTheWay (conns : List Connection) (f₀ f : Fabric W) (frame : W.Frame) : Prop :=
  ∃ h, W.header frame = some h ∧ ∃ c ∈ conns, h.key = c.request ∨
    f₀.table.isService c.dest = true ∧ f₀.table.isService (f₀.table.pod c.dest) = false ∧
      h.key = c.arriving (f₀.table.pod c.dest) ∧ c.reply (f₀.table.pod c.dest) ∈ f.conntrack

/-- The packets of clients are not taken for replies. -/
theorem OnTheWay.unrelated (hok : OnTheWay conns f₀ f frame)
    (hsep : f₀.table.Separated conns) (hsound : SoundEntries conns f₀.table f.conntrack) (now : Nat) :
    f.reverseDnat frame now = (frame,f) := by
  obtain ⟨h,hh,c,hc,hkey⟩ := hok
  refine reverseDnat_of_none now hh ?_
  cases hl : f.conntrack.lookup h.key with
  | none => rfl
  | some e =>
    obtain ⟨c',hc',-,hk,-⟩ := hsound h.key e hl
    obtain ⟨h₁,h₂⟩ := hsep.opposed c hc c' hc'
    rcases hkey with hkey | ⟨-,-,hkey,-⟩
    · exact absurd (hkey.symm.trans hk) h₁
    · exact absurd (hkey.symm.trans hk) h₂

/-- A service that an activator or the loop may send on a packet for. -/
theorem OnTheWay.request (hok : OnTheWay conns f₀ f frame)
    (hh : W.header frame = some h) (hsvc : f₀.table.isService h.dstIp = true) :
    ∃ c ∈ conns, c.dest = h.dstIp ∧ h.key = c.request := by
  obtain ⟨h',hh',c,hc,hkey⟩ := hok
  rw [hh] at hh'
  cases hh'
  rcases hkey with hkey | ⟨-,hpod,hkey,-⟩
  · exact ⟨c,hc,(h.dstIp_of hkey).symm,hkey⟩
  · rw [h.dstIp_of hkey,hpod] at hsvc
    cases hsvc

/-- A packet that comes out for a pod has its entry. -/
theorem OnTheWay.entry (hok : OnTheWay conns f₀ f frame)
    (hsep : f₀.table.Separated conns) (hh : W.header frame = some h)
    (hdirect : f₀.table.isService h.dstIp = false) (hc : c ∈ conns)
    (hsvc : f₀.table.isService c.dest = true) (hk : h.key = c.arriving (f₀.table.pod c.dest)) :
    c.reply (f₀.table.pod c.dest) ∈ f.conntrack := by
  obtain ⟨h',hh',c',hc',hkey⟩ := hok
  rw [hh] at hh'
  cases hh'
  have hsame : ∀ ip, h.key = c'.arriving ip → ip = f₀.table.pod c'.dest →
      c.reply (f₀.table.pod c.dest) = c'.reply (f₀.table.pod c'.dest) := by
    intro ip hip heq
    rw [← h.reverseKey_of hk,← h.reverseKey_of hip,← heq,← h.dstIp_of hip,← h.dstIp_of hk]
  rcases hkey with hkey | ⟨-,-,hkey,he⟩
  · -- a direct connection to the pod would have the same replies
    have hdest : c'.dest = h.dstIp := (h.dstIp_of hkey).symm
    have hpod : f₀.table.pod c'.dest = c'.dest :=
      pod_of_direct (by rw [hdest]; exact hdirect)
    have := hsep.distinct c hc c' hc' (hsame c'.dest hkey hpod.symm)
    rw [this,hdest,hdirect] at hsvc
    cases hsvc
  · rw [hsame _ hkey rfl]
    exact he

/-- Stream managers do not send in the name of clients. -/
def OwnFrames (W : Wire) (conns : List Connection) : Prop :=
  ∀ action rawFrame h, rawFrame ∈ W.l4Frames action → W.header rawFrame = some h →
    ∀ c ∈ conns, h.srcIp ≠ c.client

theorem carries_sendL4Frames (hown : OwnFrames W conns) (hc : c ∈ conns)
    (action : W.Action) (podIp : Nat) :
    carries (f.sendL4Frames (W.l4Frames action)) (c.arriving podIp) = false := by
  refine any_eq_false.mpr (fun o ho => ?_)
  obtain ⟨rawFrame,hraw,p,rfl⟩ := mem_sendL4Frames ho
  rw [decide_eq_true_eq]
  intro hk
  obtain ⟨h,hh,hk⟩ := map_eq_some_iff.mp hk
  exact hown action rawFrame h hraw hh c hc (congrArg ConntrackKey.srcIp hk)

/-- A packet for a service is sent on to the pod, and the replies are expected. -/
theorem Tracked.rewritten (hj : Tracked hon conns f₀ f log) (hflat : f₀.table.Flat)
    (hh : W.header frame = some h) (hc : c ∈ conns) (hk : h.key = c.request)
    (hroute : f₀.table.route c.dest = some (.service sid (some podIp))) (now : Nat) :
    Tracked hon conns f₀
        (f.insertConntrackEntry (W.rewriteDst frame c.dest podIp) c.dest podIp now) log ∧
      OnTheWay conns f₀
        (f.insertConntrackEntry (W.rewriteDst frame c.dest podIp) c.dest podIp now)
        (W.rewriteDst frame c.dest podIp) := by
  have hsvc := isService_of_route hroute
  have hpod := pod_of_route hroute
  have hh' : W.header (W.rewriteDst frame c.dest podIp) = some { h with dstIp := podIp } := by
    rw [W.header_rewriteDst,hh]
    rfl
  have hk' := h.key_withDst hk podIp
  rw [insertConntrackEntry_of hh' hk']
  refine ⟨hpod ▸ hj.insert hc hsvc podIp now,_,hh',c,hc,.inr ⟨hsvc,?_,?_,?_⟩⟩
  · rw [hpod]
    exact hflat c.dest podIp (mem_targets_pod hroute)
  · rw [hpod,hk']
  · rw [hpod]
    exact (mem_insert _).mpr (.inl rfl)

theorem keeps_tracked (now : Nat) (hsep : f₀.table.Separated conns) (hflat : f₀.table.Flat)
    (hidx : f₀.table.Indexed) (hown : OwnFrames W conns) :
    Keeps f₀ now (Tracked hon conns f₀) (OnTheWay conns f₀)
      (fun action sid ip => (∃ b, f₀.table.route ip = some (.service sid b)) ∧
        ∀ rawFrame, .replayPacket rawFrame ∈ W.actions action → Requests conns ip rawFrame) where
  reverseDnat f log frame _ hj hok := by
    rw [hok.unrelated hsep hj.sound now]
    exact ⟨hj,hok⟩
  looked f log frame h skip hs hj hok hh := by
    refine ⟨(hj.looked skip now (fun hsvc => ?_)).frameless frame?_told,hok⟩
    obtain ⟨c,hc,hdest,hk⟩ := hok.request hh ((hs.shape.isService _).symm.trans hsvc)
    exact ⟨c,hc,hdest,h,hh,hk⟩
  stop f log frame h source sid activate hs hj hok hh := by
    refine ⟨hj.sound,hj.keys,fun c hc hsvc hcarry => ?_,hj.kept⟩
    rw [carries_append,carries_append,carries_of_frameless frame?_activated,Bool.or_false,
      Bool.or_eq_true] at hcarry
    rcases hcarry with hcarry | hcarry
    · exact hj.sent c hc hsvc hcarry
    · obtain ⟨o,ho,hkey⟩ := any_eq_true.mp hcarry
      simp only [key?,frame?_place o ho,bind_some,hh,map_some,some.injEq,decide_eq_true_eq] at hkey
      refine hok.entry hsep hh ?_ hc hsvc hkey
      cases hsv : f₀.table.isService h.dstIp with
      | false => rfl
      | true =>
        rw [place_service ((hs.shape.isService _).trans hsv)] at ho
        cases ho
  forward f log frame h sid podIp activate hs hj hok hh hroute := by
    rw [hs.shape.route] at hroute
    obtain ⟨c,hc,hdest,hk⟩ := hok.request hh (isService_of_route hroute)
    rw [← hdest] at hroute ⊢
    obtain ⟨hj',hok'⟩ := hj.rewritten hflat hh hc hk hroute now
    exact ⟨hj'.frameless frame?_activated,hok'⟩
  act f log frame h ep sid policy b processor action hs hj hok hh hep hb hpass haction := by
    have hroute : f₀.table.route h.dstIp = some (.service sid b) := by
      rw [← hs.shape.route,route_of_lookup hep,hb]
      rfl
    refine ⟨⟨b,hroute⟩,fun rawFrame hraw => ?_⟩
    obtain ⟨c,hc,hdest,hk⟩ := hok.request hh (isService_of_route hroute)
    rcases hon.replayed processor frame action rawFrame haction hraw with rfl | hkept
    · exact ⟨c,hc,hdest,h,hh,hk⟩
    · exact hj.kept h.dstIp ep sid policy b processor rawFrame hep hb hkept
  l4Frames f log action sid ip hs hj ha := by
    refine ⟨hj.sound,hj.keys,fun c hc hsvc hcarry => ?_,hj.kept⟩
    rw [carries_append,carries_sendL4Frames hown hc,Bool.or_false] at hcarry
    exact hj.sent c hc hsvc hcarry
  pollTimer f log action sid ip delay hs hj ha := hj.frameless (by simp [frame?])
  need f log action sid ip need hs hj ha hm := by
    refine hj.frameless ?_
    cases need <;> simp [demanded,frame?]
  replay f log action sid ip rawFrame serviceIp backendIp hs hj ha hraw hn := by
    obtain ⟨⟨b,hroute⟩,hraws⟩ := ha
    obtain ⟨c,hc,hdest,h,hh,hk⟩ := hraws rawFrame hraw
    rw [hs.shape.getServiceNatInfo] at hn
    obtain ⟨rfl,hroute⟩ := hidx.natInfo hroute hn
    subst hdest
    exact hj.rewritten hflat hh hc hk hroute now

/-- Finding an entry changes when it was last seen. -/
theorem reverseDnat_some (now : Nat) (hh : W.header frame = some h)
    (hl : f.conntrack.lookup h.key = some e) :
    f.reverseDnat frame now = (W.rewriteSrc frame h.srcIp e.serviceIp,{ f with
      conntrack := f.conntrack.insert h.key { e with lastSeen := now } }) := by
  simp only [reverseDnat,hh,ConntrackTable.find,hl]

/-- The frames among what comes out when a frame is sent at once. -/
theorem filter_frames :
    (f.told ip frame skip now ++ (f.place ip source frame r ++ activated ip sid activate)).filter
      (fun o => o.frame?.isSome) = f.place ip source frame r := by
  have hnone : ∀ (out : List (Output W.Frame)), (∀ o ∈ out, o.frame? = none) →
      out.filter (fun o => o.frame?.isSome) = [] := by
    intro out ho
    refine filter_eq_nil_iff.mpr (fun o hm => ?_)
    simp [ho o hm]
  rw [filter_append,filter_append,hnone _ frame?_told,hnone _ frame?_activated,
    nil_append,append_nil]
  refine filter_eq_self.mpr (fun o ho => ?_)
  rw [frame?_place o ho]
  rfl

end Fabric

namespace EndpointTable

variable {t t' : EndpointTable K} {conns : List Connection}

theorem SameShape.separated (h : SameShape t t') (hs : t.Separated conns) : t'.Separated conns where
  distinct c hc c' hc' heq := by
    rw [h.pod,h.pod] at heq
    exact hs.distinct c hc c' hc' heq
  opposed c hc c' hc' := by
    rw [h.pod,h.pod]
    exact hs.opposed c hc c' hc'
  clients c hc := by
    rw [h.isService]
    exact hs.clients c hc

theorem SameShape.indexed (h : SameShape t t') (hi : t.Indexed) : t'.Indexed := by
  intro ip sid b hr
  rw [h.route] at hr
  rw [h.serviceIdToIp]
  exact hi ip sid b hr

end EndpointTable

namespace Dialogue

open Fabric

variable {hon : Honest W} {conns : List Connection} {s : Dialogue W}

/-- The expected replies are those of the connections opened so far. -/
structure Inv (hon : Honest W) (conns : List Connection) (s : Dialogue W) : Prop where
  separated : s.fabric.table.Separated conns
  flat : s.fabric.table.Flat
  indexed : s.fabric.table.Indexed
  sound : SoundEntries conns s.fabric.table s.fabric.conntrack
  kept : KeepsRequests hon conns s.fabric.table
  opened : ∀ c ∈ s.opened, c ∈ conns
  reached : ∀ c ∈ s.reached, c ∈ conns ∧
    (s.fabric.table.isService c.dest = true → c.reply (s.pod c) ∈ s.fabric.conntrack)

theorem SoundEntries.shape (h : SoundEntries conns t ct) (hs : t.SameShape t') :
    SoundEntries conns t' ct := by
  intro k e hl
  obtain ⟨c,hc,hsvc,hk,he⟩ := h k e hl
  exact ⟨c,hc,(hs.isService _).trans hsvc,by rw [hs.pod]; exact hk,he⟩

/-- The fabric after a step that sends frames the same way and forgets no entry. -/
theorem Inv.next (h : s.Inv hon conns) (hs : s.fabric.Similar f)
    (hsound : SoundEntries conns s.fabric.table f.conntrack)
    (hkept : KeepsRequests hon conns f.table)
    (hkeys : ∀ k ∈ s.fabric.conntrack, k ∈ f.conntrack) :
    { s with fabric := f }.Inv hon conns where
  separated := hs.shape.separated h.separated
  flat := hs.shape.flat h.flat
  indexed := hs.shape.indexed h.indexed
  sound := SoundEntries.shape hsound hs.shape
  kept := hkept
  opened := h.opened
  reached c hc := by
    obtain ⟨hm,he⟩ := h.reached c hc
    refine ⟨hm,fun hsvc => ?_⟩
    rw [pod,hs.shape.pod]
    exact hkeys _ (he ((hs.shape.isService _).symm.trans hsvc))

variable {c : Connection}

theorem Inv.request (h : s.Inv hon conns) (hown : OwnFrames W conns) (fuel : Nat) (source : FrameSource)
    (now : Nat) (hc : c ∈ conns)
    (hk : (W.header frame).map key = some c.request) :
    (s.step fuel (.request c frame source now)).Inv hon conns := by
  obtain ⟨hd,hh,hk⟩ := map_eq_some_iff.mp hk
  have htracked : Tracked hon conns s.fabric s.fabric [] :=
    ⟨h.sound,fun _ hk => hk,fun _ _ _ hcarry => (nomatch hcarry),h.kept⟩
  obtain ⟨hs,hj⟩ := (keeps_tracked now h.separated h.flat h.indexed hown).dispatchFrame fuel source
    s.fabric [] frame (.refl _) htracked ⟨hd,hh,c,hc,.inl hk⟩
  rw [nil_append] at hj
  have hnext := h.next hs hj.sound hj.kept hj.keys
  have hopened : ∀ c' ∈ c :: s.opened, c' ∈ conns := forall_mem_cons.mpr ⟨hc,h.opened⟩
  refine ⟨hnext.separated,hnext.flat,hnext.indexed,hnext.sound,hnext.kept,hopened,fun c' hc' => ?_⟩
  rcases mem_append.mp hc' with hc' | hc'
  · exact hnext.reached c' hc'
  · obtain ⟨hm,hcarry⟩ := mem_filter.mp hc'
    refine ⟨hopened c' hm,fun hsvc => ?_⟩
    have hl := hj.sent c' (hopened c' hm) ((hs.shape.isService _).symm.trans hsvc) hcarry
    rw [← hs.shape.pod] at hl
    exact hl

/-- How a packet of a pod is rewritten. -/
theorem Inv.reverseDnat (h : s.Inv hon conns) (now : Nat) (hc : c ∈ conns)
    (hh : W.header frame = some hd) (hk : hd.key = c.reply (s.pod c)) :
    ∃ src frame', W.header frame' = some { hd with srcIp := src } ∧ ∃ ct,
      s.fabric.reverseDnat frame now = (frame',{ s.fabric with conntrack := ct }) ∧
      SoundEntries conns s.fabric.table ct ∧
      (∀ k ∈ s.fabric.conntrack, k ∈ ct) ∧
      (c ∈ s.reached → src = c.dest) := by
  cases hl : s.fabric.conntrack.lookup hd.key with
  | none =>
    refine ⟨hd.srcIp,frame,hh,s.fabric.conntrack,reverseDnat_of_none now hh hl,h.sound,
      fun _ hk => hk,fun hr => ?_⟩
    cases hsvc : s.fabric.table.isService c.dest with
    | true =>
      exact absurd (hk ▸ (h.reached c hr).2 hsvc) (lookup_eq_none.mp hl)
    | false =>
      exact (congrArg ConntrackKey.srcIp hk).trans (pod_of_direct hsvc)
  | some e =>
    obtain ⟨c',hc',hsvc',hk',he'⟩ := h.sound _ e hl
    have hdest : e.serviceIp = c.dest :=
      he'.trans (h.separated.distinct c hc c' hc' (hk.symm.trans hk')).symm
    refine ⟨c.dest,_,?_,_,reverseDnat_some now hh hl,?_,
      fun k hk => (mem_insert _).mpr (.inr hk),fun _ => rfl⟩
    · rw [W.header_rewriteSrc,hh,hdest]
      rfl
    · intro k e₁ hl₁
      rcases insert_cases hl₁ with ⟨hkk,rfl⟩ | ⟨_,hl₁⟩
      · exact ⟨c',hc',hsvc',hkk.trans hk',he'⟩
      · exact h.sound k e₁ hl₁

theorem dstIp_of_reply {hd : Header} (hk : hd.key = c.reply podIp) :
    hd.dstIp = c.client := congrArg ConntrackKey.dstIp hk

theorem Inv.reply (h : s.Inv hon conns) (fuel : Nat)
    (source : FrameSource) (now : Nat) (hc : c ∈ conns)
    (hk : (W.header frame).map key = some (c.reply (s.pod c))) :
    (s.step fuel (.reply c frame source now)).Inv hon conns := by
  obtain ⟨hd,hh,hk⟩ := map_eq_some_iff.mp hk
  cases fuel with
  | zero => exact h
  | succ fuel =>
    obtain ⟨src,frame',hh',ct,hr,hsound,hkeys,-⟩ := h.reverseDnat now hc hh hk
    have hdirect : s.fabric.table.isService hd.dstIp = false := by
      rw [dstIp_of_reply hk]
      exact h.separated.clients c hc
    obtain ⟨sid,activate,hd'⟩ := dispatchFrame_direct fuel source hr hh' hdirect
    rw [step,hd']
    refine h.next (((Fabric.Similar.refl _).conntrack ct).trans (similar_looked _ _ _ _ _)) hsound
      (h.kept.looked false now (fun hsvc => ?_)) hkeys
    rw [show s.fabric.table.isService _ = false from hdirect] at hsvc
    cases hsvc

theorem Inv.gc (h : s.Inv hon conns) (fuel now : Nat)
    (hfresh : ∀ x ∈ s.fabric.conntrack.toList, now - x.2.lastSeen ≤ conntrackMaxAge) :
    (s.step fuel (.gc now)).Inv hon conns := by
  have hsame : ∀ k, (ConntrackTable.gc s.fabric.conntrack conntrackMaxAge now).lookup k =
      s.fabric.conntrack.lookup k := by
    intro k
    rw [ConntrackTable.gc,lookup_retain]
    cases hl : s.fabric.conntrack.lookup k with
    | none => rfl
    | some e => exact if_pos (hfresh (k,e) (mem_toList.mpr hl))
  refine h.next ((Fabric.Similar.refl _).conntrack _) (fun k e hl => ?_) h.kept (fun k hk => ?_)
  · exact h.sound k e ((hsame k).symm.trans hl)
  · rw [← lookup_isSome,hsame,lookup_isSome]
    exact hk

theorem Inv.step (h : s.Inv hon conns) (hown : OwnFrames W conns) (fuel : Nat)
    (hev : s.Allowed conns ev) : (s.step fuel ev).Inv hon conns := by
  cases ev with
  | request c frame source now => exact h.request hown fuel source now hev.1 hev.2
  | reply c frame source now => exact h.reply fuel source now hev.1 hev.2
  | gc now => exact h.gc fuel now hev

theorem Inv.answered (h : s.Inv hon conns) : s.Answered := by
  intro c hc frame hd source now fuel hh hk
  have hm := (h.reached c hc).1
  obtain ⟨src,frame',hh',ct,hr,-,-,hsrc⟩ := h.reverseDnat now hm hh hk
  have hdst := dstIp_of_reply hk
  have hdirect : s.fabric.table.isService hd.dstIp = false := by
    rw [hdst]
    exact h.separated.clients c hm
  obtain ⟨sid,activate,hd'⟩ := dispatchFrame_direct fuel source hr hh' hdirect
  refine ⟨frame',by rw [hh',hsrc hc],?_⟩
  rw [hd',filter_frames]
  change s.fabric.place hd.dstIp source frame' (s.fabric.table.route hd.dstIp) = _
  rw [hdst]

/-- A fabric through which no connection has been opened. -/
def start (f : Fabric W) : Dialogue W := ⟨f,[],[]⟩

/-- No activator has kept a frame. -/
def Fresh (hon : Honest W) (f : Fabric W) : Prop :=
  f.conntrack = ∅ ∧ ∀ ip ep sid policy b p rawFrame, f.table.byIp.lookup ip = some ep →
    ep.backend = .service sid policy b p → ¬ hon.kept p rawFrame

theorem replies_answered (hon : Honest W) (conns : List Connection) (f : Fabric W)
    (hfresh : Fresh hon f) (hsep : f.table.Separated conns) (hflat : f.table.Flat)
    (hidx : f.table.Indexed) (hown : OwnFrames W conns) (fuel : Nat)
    (events : List (DialogueEvent W)) (s : Dialogue W)
    (hallowed : Runs.Along (fun s ev => some (step fuel s ev)) (Allowed conns) (start f) events)
    (hrun : Runs.run (fun s ev => some (step fuel s ev)) (start f) events = some s) :
    s.Answered := by
  have hstart : (start f).Inv hon conns := by
    refine ⟨hsep,hflat,hidx,fun k e hl => ?_,fun ip ep sid policy b p rawFrame hep hb hk => ?_,
      fun _ h => (nomatch h),fun _ h => (nomatch h)⟩
    · change f.conntrack.lookup k = some e at hl
      rw [hfresh.1] at hl
      cases hl
    · exact absurd hk (hfresh.2 ip ep sid policy b p rawFrame hep hb)
  refine (hallowed.keeps (fun s ev s' hs hev hstep => ?_) hstart hrun : s.Inv hon conns).answered
  cases hstep
  exact Inv.step hs hown fuel hev

/-- Two services with one pod. -/
def sampleServices : Fabric .passthrough where
  table := ((((EndpointTable.mk (∅ : Table Nat (Endpoint Wire.passthrough.toParts))
      (((∅ : Table ServiceId Nat).insert 2 21).insert 1 20)).put 5
        (.start .ready (.localPod (some 2)))).put 10 (.start .ready (.localPod (some 1)))).put 20
        (.start .ready (.service 1 ⟨[],8,1000⟩ (some 10) ()))).put 21
        (.start .ready (.service 2 ⟨[],8,1000⟩ (some 10) ()))
  conntrack := ∅
  ports := [1,2]
  tunnelPorts := ∅
  hasGateway := false
  gatewayIp := 1
  prefixLen := 24

/-- A packet of the client, and the packet with which the pod answers it. -/
def Connection.exchange (c : Connection) : List (DialogueEvent .passthrough) :=
  [.request c ⟨c.client,c.dest,c.protocol,some (c.clientPort,c.destPort),none⟩ (.port 2) 0,
    .reply c ⟨10,c.client,c.protocol,some (c.destPort,c.clientPort),none⟩ (.port 1) 0]

/-- A client contacts both services, from two ports. -/
def sampleConnections : List Connection := [⟨5,1000,6,20,80⟩,⟨5,1001,6,21,80⟩]

def passthroughHonest : Honest .passthrough where
  kept := fun _ _ => False
  replayed := fun _ _ _ _ h => nomatch h
  kept_processFrame := fun _ _ _ h => h.elim

theorem sampleConnections_answered :
    ∃ s, Runs.run (fun s ev => some (step 2 s ev)) (start sampleServices)
        (sampleConnections.flatMap Connection.exchange) = some s ∧
      s.reached = sampleConnections ∧ s.Answered := by
  refine ⟨_,rfl,by decide +kernel,?_⟩
  exact replies_answered passthroughHonest sampleConnections sampleServices
    ⟨rfl,fun _ _ _ _ _ _ _ _ _ h => h⟩
    ⟨by decide +kernel,by decide +kernel,by decide +kernel⟩ (.of_keys (by decide +kernel))
    (.of_keys (by decide +kernel)) (fun _ _ _ h => nomatch h) 2
    (sampleConnections.flatMap Connection.exchange) _ (by decide +kernel) rfl

/-- A client contacts both services from one port. -/
def sharedPort : List Connection := [⟨5,1000,6,20,80⟩,⟨5,1000,6,21,80⟩]

theorem sharedPort_not_answered :
    ∃ s, Runs.run (fun s ev => some (step 2 s ev)) (start sampleServices)
        (sharedPort.flatMap Connection.exchange) = some s ∧
      (sharedPort.map (fun c => (c.dest,c.clientPort))).Nodup ∧ ¬ s.Answered := by
  refine ⟨_,rfl,by decide,fun h => ?_⟩
  obtain ⟨frame',hh,hout⟩ := h ⟨5,1000,6,20,80⟩ (by decide +kernel)
    (⟨10,5,6,some (80,1000),none⟩ : Header) _ (.port 1) 0 0 rfl rfl
  cases hh
  change [port 2 _] = [port 2 _] at hout
  have hsrc := congrArg (map (fun o => (o.frame?.map srcIp))) hout
  cases hsrc

end Dialogue

end Distvirt.Worker
