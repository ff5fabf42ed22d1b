import Distvirt.Worker.Tunnel

/-! Which fabric gets a datagram. A segment has one channel however many peers share it, so it must
be the channel of a port that is still there. -/

namespace Distvirt.Worker.Tunnel

open List Option
open AList hiding entries

/-- The peers with their ports, and where the transport sends what comes in. -/
@[ext] structure View where
  endpoint : WorkerId → Option SocketAddr
  lists : WorkerId → Nat → Prop
  port : WorkerId → Nat → Option Channel
  fabric : Nat → Option Nat
  channel : Nat → Option Channel
  known : WorkerId → Option SocketAddr
  addr : SocketAddr → Option WorkerId

/-- The ports of the peers are those of the local namespaces they list, and the channel of each
segment is one of its ports. A sync leaves out the segments that it still creates ports for, and
a creation the peers that it has not come to. -/
structure View.PortedBut (v : View) (keep : Nat → Prop) (pending : WorkerId → Nat → Prop) : Prop where
  owned : ∀ w seg ch, v.port w seg = some ch →
    ch.worker = w ∧ ch.segment = seg ∧ v.lists w seg ∧ v.fabric seg = some ch.fabric
  ported : ∀ w seg, v.lists w seg → v.fabric seg ≠ none → ¬ pending w seg → v.port w seg ≠ none
  channel : ∀ w seg, v.port w seg ≠ none → ¬ keep seg →
    ∃ ch, v.channel seg = some ch ∧ v.port ch.worker seg = some ch
  known : ∀ w e, v.endpoint w = some e → v.known w = some e ∧ v.addr e = some w

namespace View

variable {v : View} {worker : WorkerId} {segment : Nat} {ch : Channel} {e : SocketAddr}
  {keep : Nat → Prop} {pending : WorkerId → Nat → Prop}

theorem PortedBut.settle {pending' : WorkerId → Nat → Prop} (h : v.PortedBut keep pending)
    (hp : ∀ w seg, pending w seg → pending' w seg ∨ (v.lists w seg → v.port w seg ≠ none)) :
    v.PortedBut keep pending' :=
  { h with
    ported := fun w seg hl hf hn => by
      by_cases hpend : pending w seg
      · exact ((hp w seg hpend).resolve_left hn) hl
      · exact h.ported w seg hl hf hpend }

/-- Without a peer. Its handles take the channels of their segments with them. -/
def remove (v : View) (worker : WorkerId) (e : SocketAddr) : View where
  endpoint w := if w = worker then none else v.endpoint w
  lists w seg := w ≠ worker ∧ v.lists w seg
  port w seg := if w = worker then none else v.port w seg
  fabric := v.fabric
  channel seg := if v.port worker seg = none then v.channel seg else none
  known w := if w = worker then none else v.known w
  addr a := if a = e then none else v.addr a

theorem PortedBut.remove (h : v.PortedBut (fun _ => False) (fun _ _ => False))
    (he : v.endpoint worker = some e)
    (hu : ∀ seg, v.port worker seg ≠ none → ¬ keep seg → ∀ w, w ≠ worker → v.port w seg = none) :
    (v.remove worker e).PortedBut keep (fun _ _ => False) := by
  obtain ⟨howned,hported,hchannel,hknown⟩ := h
  constructor <;> simp only [View.remove] <;> grind

/-- With a new peer and the ports of it. -/
def add (v : View) (worker : WorkerId) (e : SocketAddr) (segments : List Nat)
    (ports : Nat → Option Channel) : View where
  endpoint w := if w = worker then some e else v.endpoint w
  lists w seg := if w = worker then seg ∈ segments else v.lists w seg
  port w seg := if w = worker then ports seg else v.port w seg
  fabric := v.fabric
  channel seg := (ports seg).or (v.channel seg)
  known w := if w = worker then some e else v.known w
  addr a := if a = e then some worker else v.addr a

theorem PortedBut.add (h : v.PortedBut (· ∈ segments) (fun _ _ => False))
    (hgone : ∀ seg, v.port worker seg = none) (hfree : ∀ w, v.endpoint w = some e → w = worker)
    (hports : ∀ seg ch, ports seg = some ch →
      ch.worker = worker ∧ ch.segment = seg ∧ seg ∈ segments ∧ v.fabric seg = some ch.fabric)
    (hall : ∀ seg ∈ segments, v.fabric seg ≠ none → ports seg ≠ none) :
    (v.add worker e segments ports).PortedBut (fun _ => False) (fun _ _ => False) := by
  obtain ⟨howned,hported,hchannel,hknown⟩ := h
  constructor <;> simp only [View.add]
  · grind
  · grind
  · intro w seg hsome _
    obtain ⟨ch₀,h₀⟩ := ne_none_iff_exists'.mp hsome
    cases hp : ports seg with
    | none => grind
    | some ch => exact ⟨ch,rfl,if_pos (hports seg ch hp).1⟩
  · grind

/-- With a new port, whose channel becomes the one of its segment. -/
def create (v : View) (ch : Channel) : View :=
  { v with
    port w seg := if w = ch.worker ∧ seg = ch.segment then some ch else v.port w seg
    channel seg := if seg = ch.segment then some ch else v.channel seg }

theorem PortedBut.create (h : v.PortedBut keep pending) (hl : v.lists ch.worker ch.segment)
    (hf : v.fabric ch.segment = some ch.fabric) : (v.create ch).PortedBut keep
      (fun w seg => pending w seg ∧ ¬ (w = ch.worker ∧ seg = ch.segment)) := by
  obtain ⟨howned,hported,hchannel,hknown⟩ := h
  constructor <;> simp only [View.create] <;> grind

/-- Without a namespace and its ports. -/
def withdraw (v : View) (segment : Nat) (channel : Nat → Option Channel) : View :=
  { v with
    port w seg := if seg = segment then none else v.port w seg
    fabric seg := if seg = segment then none else v.fabric seg
    channel }

theorem PortedBut.withdraw {channel : Nat → Option Channel}
    (h : v.PortedBut (fun _ => False) (fun _ _ => False))
    (hc : ∀ seg, seg ≠ segment → channel seg = v.channel seg) :
    (v.withdraw segment channel).PortedBut (fun _ => False) (fun _ _ => False) := by
  obtain ⟨howned,hported,hchannel,hknown⟩ := h
  constructor <;> simp only [View.withdraw] <;> grind

end View

namespace Manager

variable {m m' : Manager} {t : Transport} {w worker : WorkerId} {p peer : PeerState}
  {seg segment fabric : Nat} {ch channel : Channel} {keep : Nat → Prop}

def view (m : Manager) : View where
  endpoint w := (m.peers.lookup w).map PeerState.endpoint
  lists w seg := ∃ p, m.peers.lookup w = some p ∧ seg ∈ p.segments
  port w seg := (m.peers.lookup w).bind (fun p => p.namespacePorts.lookup seg)
  fabric seg := m.namespaces.lookup seg
  channel seg := m.transport.segmentChannels.lookup seg
  known w := (m.transport.peers.lookup w).map TransportPeer.endpoint
  addr a := m.transport.addrToWorker.lookup a

def Ported (m : Manager) : Prop := m.view.PortedBut (fun _ => False) (fun _ _ => False)

/-- A datagram of a segment from a connected peer that lists it is handed to the fabric of the
local namespace. -/
def Reached (m : Manager) : Prop :=
  ∀ w p seg fabric frame, m.peers.lookup w = some p → seg ∈ p.segments →
    m.namespaces.lookup seg = some fabric →
    (m.transport.encrypted = true →
      (m.transport.peers.lookup w).bind TransportPeer.noise = some .transport) →
    Transport.fabricHdrSz + 20 ≤ frame.length → Transport.segmentId frame = seg →
    m.receive w p.endpoint frame = some fabric

theorem Ported.reached (h : m.Ported) : m.Reached := by
  intro w p seg fabric frame hp hseg hns hsession hlen hid
  have hport := h.ported w seg ⟨p,hp,hseg⟩ (by simp [view,hns]) id
  obtain ⟨ch,hch,hown⟩ := h.channel w seg hport id
  obtain ⟨-,rfl,-,hfabric⟩ := h.owned _ _ _ hown
  cases hns.symm.trans hfabric
  obtain ⟨q,hq,hport⟩ := bind_eq_some_iff.mp hown
  obtain ⟨hknown,haddr⟩ := h.known w p.endpoint (by simp [view,hp])
  have hdispatch : m.transport.dispatchFrame frame = some ch := by
    unfold Transport.dispatchFrame
    rw [if_neg (Nat.not_lt.mpr hlen),hid]
    exact hch
  have hrecv : m.transport.recv w p.endpoint frame = some ch := by
    unfold Transport.recv
    split
    · rename_i henc
      obtain ⟨⟨endpoint,noise⟩,htp,_⟩ := map_eq_some_iff.mp hknown
      have hnoise := hsession henc
      rw [htp] at hnoise
      change noise = _ at hnoise
      subst hnoise
      simp only [show m.transport.addrToWorker.lookup p.endpoint = some w from haddr,htp,if_true]
      exact hdispatch
    · exact hdispatch
  unfold receive reader
  rw [hrecv]
  simp only [bind_some,hq,hport,if_true]

theorem dropHandle_channels (t : Transport) (ch : Channel) (seg : Nat) :
    (t.dropHandle ch).segmentChannels.lookup seg =
      if seg = ch.segment then none else t.segmentChannels.lookup seg :=
  lookup_erase_if

theorem dropHandles_channels (hseg : ∀ seg ch, ports.lookup seg = some ch → ch.segment = seg)
    (t : Transport) (seg : Nat) : (dropHandles t ports).segmentChannels.lookup seg =
      if ports.lookup seg = none then t.segmentChannels.lookup seg else none := by
  have hlist : ∀ (l : List (Nat × Channel)) (t : Transport),
      (l.foldl (fun t port => t.dropHandle port.2) t).segmentChannels.lookup seg =
        if ∀ port ∈ l, seg ≠ port.2.segment then t.segmentChannels.lookup seg else none := by
    intro l
    induction l with
    | nil => simp
    | cons port l ih =>
      intro t
      rw [foldl_cons,ih,dropHandle_channels]
      by_cases heq : seg = port.2.segment
      · rw [if_pos heq,ite_self,if_neg (fun h => h port mem_cons_self heq)]
      · rw [if_neg heq]
        refine if_congr ?_ rfl rfl
        rw [forall_mem_cons]
        exact ⟨fun h => ⟨heq,h⟩,And.right⟩
  unfold dropHandles
  rw [hlist]
  refine if_congr ?_ rfl rfl
  constructor
  · intro h
    cases hp : ports.lookup seg with
    | none => rfl
    | some ch => exact absurd (hseg seg ch hp).symm (h (seg,ch) (mem_toList.mpr hp))
  · rintro hnone ⟨seg',ch⟩ hmem heq
    have hp := mem_toList.mp hmem
    rw [← hseg seg' ch hp,← heq,hnone] at hp
    cases hp

theorem dropHandles_eq (t : Transport) (ports : Table Nat Channel) : dropHandles t ports =
    { t with segmentChannels := (dropHandles t ports).segmentChannels } := by
  unfold dropHandles
  induction ports.toList generalizing t with
  | nil => rfl
  | cons port ports ih =>
    rw [foldl_cons,ih]
    rfl

/-- No other peer has a port on a segment whose channel is lost with this one. -/
def Unshared (m : Manager) (worker : WorkerId) (keep : Nat → Prop) : Prop :=
  ∀ e ∈ m.peers.toList, e.1 = worker → ∀ port ∈ e.2.namespacePorts.toList, ¬ keep port.1 →
    ∀ e' ∈ m.peers.toList, e'.1 ≠ worker → e'.2.namespacePorts.lookup port.1 = none

theorem view_removePeer (h : m.Ported) (hw : m.peers.lookup worker = some peer) :
    (m.removePeer worker).view = m.view.remove worker peer.endpoint := by
  obtain ⟨tp,htp,hend⟩ := map_eq_some_iff.mp (h.known worker peer.endpoint (by simp [view,hw])).1
  have hsegs : ∀ seg ch, peer.namespacePorts.lookup seg = some ch → ch.segment = seg :=
    fun seg ch hch => (h.owned worker seg ch (by simp [view,hw,hch])).2.1
  unfold Manager.removePeer
  rw [hw]
  dsimp only
  rw [dropHandles_eq]
  ext <;> simp only [view,View.remove,Transport.removePeer,htp,hend,lookup_erase_if,
    dropHandles_channels hsegs,hw,bind_some] <;> grind

theorem Ported.removePeer (h : m.Ported) (hu : m.Unshared worker keep) :
    (m.removePeer worker).view.PortedBut keep (fun _ _ => False) := by
  cases hw : m.peers.lookup worker with
  | none =>
    unfold Manager.removePeer
    rw [hw]
    exact { h with channel := fun w seg hp _ => h.channel w seg hp id }
  | some peer =>
    rw [view_removePeer h hw]
    refine View.PortedBut.remove h (by simp [view,hw]) (fun seg hsome hkeep w hne => ?_)
    obtain ⟨ch,hch⟩ := ne_none_iff_exists'.mp hsome
    simp only [view,hw,bind_some] at hch ⊢
    refine bind_eq_none_iff.mpr (fun p hp => ?_)
    exact hu (worker,peer) (mem_toList.mpr hw) rfl (seg,ch) (mem_toList.mpr hch) hkeep (w,p)
      (mem_toList.mpr hp) hne

/-- A peer that the transport knows gets its port. -/
theorem createNamespacePort_some (hknown : t.peers.lookup worker ≠ none) (segment fabric : Nat) :
    ∃ ch : Channel, ch.worker = worker ∧ ch.segment = segment ∧ ch.fabric = fabric ∧
      t.createNamespacePort worker segment fabric = some ({ t with
        nextChannel := t.nextChannel + 1
        segmentChannels := t.segmentChannels.insert segment ch },ch) := by
  obtain ⟨tp,htp⟩ := ne_none_iff_exists'.mp hknown
  refine ⟨⟨t.nextChannel,worker,segment,fabric⟩,rfl,rfl,rfl,?_⟩
  unfold Transport.createNamespacePort
  rw [htp]

/-- After their creation, a segment has a new port with its channel or is as it was. -/
structure Created (namespaces : Table Nat Nat) (worker : WorkerId) (segments : List Nat)
    (a r : Transport × Table Nat Channel) : Prop where
  frame : r.1 = { a.1 with
    segmentChannels := r.1.segmentChannels
    nextChannel := r.1.nextChannel }
  port : ∀ seg, (∃ ch : Channel, ch.worker = worker ∧ ch.segment = seg ∧ seg ∈ segments ∧
      namespaces.lookup seg = some ch.fabric ∧ r.2.lookup seg = some ch ∧
      r.1.segmentChannels.lookup seg = some ch) ∨
    (seg ∈ segments → namespaces.lookup seg = none) ∧ r.2.lookup seg = a.2.lookup seg ∧
      r.1.segmentChannels.lookup seg = a.1.segmentChannels.lookup seg

theorem createPorts_created {namespaces : Table Nat Nat}
    (hr : createPorts namespaces worker segments a = r)
    (hknown : a.1.peers.lookup worker ≠ none) (hnodup : segments.Nodup)
    (hnew : ∀ seg ∈ segments, a.2.lookup seg = none) : Created namespaces worker segments a r := by
  subst hr
  induction segments generalizing a with
  | nil => exact ⟨rfl,fun _ => .inr ⟨nofun,rfl,rfl⟩⟩
  | cons segment segments ih =>
    obtain ⟨t,ports⟩ := a
    obtain ⟨hmem,hnodup⟩ := nodup_cons.mp hnodup
    obtain ⟨hnone,hnew⟩ := forall_mem_cons.mp hnew
    unfold createPorts
    cases hns : namespaces.lookup segment with
    | none =>
      obtain ⟨frame,port⟩ := ih hknown hnodup hnew
      refine ⟨frame,fun seg => ?_⟩
      rcases port seg with ⟨ch,hw,hs,hseg,rest⟩ | ⟨hnot,rest⟩
      · exact .inl ⟨ch,hw,hs,mem_cons_of_mem _ hseg,rest⟩
      · exact .inr ⟨fun hseg => (mem_cons.mp hseg).elim (fun heq => by rwa [heq]) hnot,rest⟩
    | some fabric =>
      obtain ⟨ch,hw,hs,hf,hcreate⟩ := createNamespacePort_some hknown segment fabric
      simp only [hcreate,insertPort,show ports.lookup segment = none from hnone]
      obtain ⟨frame,port⟩ := ih (a := ({ t with
          nextChannel := t.nextChannel + 1
          segmentChannels := t.segmentChannels.insert segment ch },ports.insert segment ch)) hknown hnodup
        (fun seg hseg => (lookup_insert_ne (ne_of_mem_of_not_mem hseg hmem)).trans (hnew seg hseg))
      refine ⟨frame,fun seg => ?_⟩
      rcases port seg with ⟨ch',hw',hs',hseg,rest⟩ | ⟨hnot,hp,hc⟩
      · exact .inl ⟨ch',hw',hs',mem_cons_of_mem _ hseg,rest⟩
      · by_cases heq : seg = segment
        · subst heq
          exact .inl ⟨ch,hw,hs,mem_cons_self,hf ▸ hns,hp.trans (lookup_insert _),hc.trans (lookup_insert _)⟩
        · exact .inr ⟨fun hseg => hnot ((mem_cons.mp hseg).resolve_left heq),
            hp.trans (lookup_insert_ne heq),hc.trans (lookup_insert_ne heq)⟩

/-- A peer that was not there, at an address that is no other peer's. -/
theorem addPeer_ported (h : m.view.PortedBut (· ∈ info.segments) (fun _ _ => False))
    (hgone : m.peers.lookup info.workerId = none) (hnodup : info.segments.Nodup)
    (hfree : ∀ w p, m.peers.lookup w = some p → p.endpoint ≠ endpoint)
    (hok : (m.transport.encrypted && !m.transport.accepts info.publicKey) = false) :
    (m.addPeer info endpoint).Ported := by
  unfold Manager.addPeer Transport.addPeer
  rw [hok]
  simp only [Bool.false_eq_true,if_false]
  generalize hr : createPorts m.namespaces info.workerId info.segments _ = r
  obtain ⟨t,ports⟩ := r
  obtain ⟨frame,hseg⟩ := createPorts_created hr (by rw [lookup_insert]; nofun) hnodup (fun _ _ => rfl)
  dsimp only at frame hseg ⊢
  rw [frame]
  suffices hview : view _ = m.view.add info.workerId endpoint info.segments (fun seg => ports.lookup seg) by
    rw [Ported,hview]
    refine h.add (fun seg => by simp [view,hgone]) (fun w hw => ?_) (fun seg ch hch => ?_)
      (fun seg hmem hns => ?_)
    · obtain ⟨p,hp,he⟩ := map_eq_some_iff.mp hw
      exact absurd he (hfree w p hp)
    · rcases hseg seg with ⟨ch',hw,hs,hmem,hf,hp,-⟩ | ⟨-,hp,-⟩ <;> cases hp.symm.trans hch
      exact ⟨hw,hs,hmem,hf⟩
    · rcases hseg seg with ⟨ch',_,_,_,_,hp,-⟩ | ⟨hnone,-⟩
      · simp [hp]
      · exact absurd (hnone hmem) hns
  ext w <;> simp only [view,View.add,lookup_insert_if]
  case channel => rcases hseg w with ⟨ch,_,_,_,_,hp,hch⟩ | ⟨-,hp,hch⟩ <;> simp [hp,hch]
  all_goals by_cases hw : w = info.workerId <;> simp [hw]

/-- A step of a sync drops no shared channel for good, lists no segment twice, and gives no peer
the address of another. -/
def SyncStep.Clean (m : Manager) : SyncStep → Prop
  | .remove worker => m.Unshared worker (fun _ => False)
  | .update info => ∀ endpoint ∈ info.endpoint, m.changed info endpoint = true →
      m.Unshared info.workerId (fun seg =>
        (m.transport.encrypted && !m.transport.accepts info.publicKey) = false ∧
          seg ∈ info.segments) ∧
      info.segments.Nodup ∧
      ∀ e ∈ m.peers.toList, e.1 ≠ info.workerId → e.2.endpoint ≠ endpoint

theorem removePeer_lookup (m : Manager) (worker w : WorkerId) :
    (m.removePeer worker).peers.lookup w = if w = worker then none else m.peers.lookup w := by
  unfold Manager.removePeer
  cases hw : m.peers.lookup worker with
  | none =>
    dsimp only
    split
    · subst w
      exact hw
    · rfl
  | some peer => exact lookup_erase_if

theorem removePeer_config (m : Manager) (worker : WorkerId) :
    (m.removePeer worker).transport.encrypted = m.transport.encrypted ∧
      (m.removePeer worker).transport.accepts = m.transport.accepts := by
  unfold Manager.removePeer
  split
  · dsimp only
    rw [dropHandles_eq]
    unfold Transport.removePeer
    split <;> exact ⟨rfl,rfl⟩
  · exact ⟨rfl,rfl⟩

theorem Ported.syncStep (h : m.Ported) (hc : st.Clean m) : (m.syncStep st).Ported := by
  cases st with
  | remove worker => exact h.removePeer hc
  | update info =>
    show (m.updatePeer info).Ported
    unfold updatePeer
    cases he : info.endpoint with
    | none => exact h
    | some endpoint =>
      dsimp only
      split
      · rename_i hchanged
        obtain ⟨hu,hnodup,hfree⟩ := hc endpoint he hchanged
        have hrem := h.removePeer hu
        obtain ⟨henc,hacc⟩ := removePeer_config m info.workerId
        cases hok : m.transport.encrypted && !m.transport.accepts info.publicKey with
        | true =>
          unfold Manager.addPeer Transport.addPeer
          rw [henc,hacc,hok]
          simp only [hok,Bool.true_eq_false,false_and] at hrem
          exact hrem
        | false =>
          simp only [hok,true_and] at hrem
          refine addPeer_ported hrem ?_ hnodup (fun w p hp => ?_) (by rw [henc,hacc]; exact hok)
          · rw [removePeer_lookup,if_pos rfl]
          · rw [removePeer_lookup] at hp
            split at hp
            · cases hp
            · exact hfree (w,p) (mem_toList.mpr hp) (by assumption)
      · exact h

theorem lookup_setPorts {peers : Table WorkerId PeerState} :
    (setPorts peers worker ports).lookup w = (peers.lookup w).map (fun p =>
      if w = worker then { p with namespacePorts := ports } else p) := by
  unfold setPorts
  rw [lookup_retain]
  cases peers.lookup w <;> rfl

/-- One more peer has got a port for the new namespace. -/
theorem view_setPorts (hw : m.peers.lookup ch.worker = some p) (n : Nat) :
    view { m with
      transport := { m.transport with
        nextChannel := n
        segmentChannels := m.transport.segmentChannels.insert ch.segment ch }
      peers := setPorts m.peers ch.worker (p.namespacePorts.insert ch.segment ch) } =
      m.view.create ch := by
  ext w : 2 <;> simp only [view,View.create,lookup_setPorts,lookup_insert_if]
  all_goals rcases eq_or_ne w ch.worker with rfl | hne
  all_goals simp [*,lookup_insert_if]

/-- The loop over the peers that are left. -/
theorem createPortsOnPeers_ported
    (h : m.view.PortedBut keep (fun w seg => seg = segment ∧ w ∈ entries.map Prod.fst))
    (hns : m.namespaces.lookup segment = some fabric) (hnodup : (entries.map Prod.fst).Nodup)
    (hentries : ∀ e ∈ entries, m.peers.lookup e.1 = some e.2) :
    (createPortsOnPeers segment fabric entries m).view.PortedBut keep (fun _ _ => False) := by
  induction entries generalizing m with
  | nil => exact h.settle (fun _ _ hp => nomatch hp.2)
  | cons entry entries ih =>
    obtain ⟨worker,p⟩ := entry
    obtain ⟨hw,hothers⟩ := forall_mem_cons.mp hentries
    obtain ⟨hfresh,hdistinct⟩ := nodup_cons.mp hnodup
    unfold Manager.createPortsOnPeers
    split
    · rename_i hcond
      obtain ⟨tp,htp,_⟩ := map_eq_some_iff.mp (h.known worker p.endpoint (by simp [view,hw])).1
      obtain ⟨ch,rfl,rfl,rfl,hcreate⟩ := createNamespacePort_some
        (by rw [htp]; nofun) segment fabric
      simp only [hcreate,insertPort,hcond.2]
      refine ih ?_ hns hdistinct (fun e he => ?_)
      · rw [view_setPorts hw]
        refine (h.create ⟨p,hw,hcond.1⟩ hns).settle (fun w seg hp => ?_)
        grind
      · have hne : e.1 ≠ ch.worker := fun heq => hfresh (mem_map.mpr ⟨e,he,heq⟩)
        rw [lookup_setPorts,hothers e he]
        simp [hne]
    · rename_i hcond
      refine ih (h.settle (fun w seg hp => ?_)) hns hdistinct hothers
      grind [view]

theorem Ported.onNamespaceCreated (h : m.Ported) (hnew : m.namespaces.lookup segment = none) :
    (m.onNamespaceCreated segment fabric).Ported := by
  obtain ⟨howned,hported,hchannel,hknown⟩ := h
  refine createPortsOnPeers_ported ⟨fun w seg ch hch => ?_,fun w seg hl hf hpend => ?_,hchannel,hknown⟩
    (lookup_insert _) (map_fst_toList _ ▸ keys_nodup _) (fun e he => mem_toList.mp he)
  · obtain ⟨hw,hs,hl,hf⟩ := howned w seg ch hch
    refine ⟨hw,hs,hl,(lookup_insert_ne (fun heq => ?_)).trans hf⟩
    cases hnew.symm.trans (heq ▸ hf)
  · obtain ⟨p,hp,hseg⟩ := hl
    have hne : seg ≠ segment :=
      fun heq => hpend ⟨heq,mem_map.mpr ⟨(w,p),AList.mem_toList.mpr hp,rfl⟩⟩
    exact hported w seg ⟨p,hp,hseg⟩ (fun hnone => hf ((lookup_insert_ne hne).trans hnone)) id

/-- The handles that go with a namespace are those of its segment. -/
theorem dropSegment_spec (segment : Nat) {entries : List (WorkerId × PeerState)}
    (hseg : ∀ e ∈ entries, ∀ ch, e.2.namespacePorts.lookup segment = some ch → ch.segment = segment)
    (t : Transport) :
    let t' := entries.foldl (fun t entry =>
      match entry.2.namespacePorts.lookup segment with
      | some channel => t.dropHandle channel
      | none => t) t
    t' = { t with segmentChannels := t'.segmentChannels } ∧
      ∀ seg, seg ≠ segment → t'.segmentChannels.lookup seg = t.segmentChannels.lookup seg := by
  induction entries generalizing t with
  | nil => exact ⟨rfl,fun _ _ => rfl⟩
  | cons e entries ih =>
    obtain ⟨he,hrest⟩ := forall_mem_cons.mp hseg
    simp only [foldl_cons]
    cases hch : e.2.namespacePorts.lookup segment with
    | none => exact ih hrest t
    | some ch =>
      obtain ⟨hframe,hkept⟩ := ih hrest (t.dropHandle ch)
      refine ⟨hframe,fun seg hne => (hkept seg hne).trans ?_⟩
      rw [dropHandle_channels,he ch hch,if_neg hne]

theorem Ported.onNamespaceDestroyed (h : m.Ported) (segment : Nat) :
    (m.onNamespaceDestroyed segment).Ported := by
  obtain ⟨hframe,hkept⟩ := dropSegment_spec segment (fun e he ch hch => by
    have hp : m.peers.lookup e.1 = some e.2 := AList.mem_toList.mp he
    exact (h.owned e.1 segment ch (by simp [view,hp,hch])).2.1) m.transport
  unfold Manager.onNamespaceDestroyed
  generalize m.peers.toList.foldl _ m.transport = t at hframe hkept ⊢
  suffices hview : view _ = m.view.withdraw segment (fun seg => t.segmentChannels.lookup seg) by
    rw [Ported,hview]
    exact View.PortedBut.withdraw h hkept
  rw [hframe]
  ext w : 2 <;> simp only [view,View.withdraw,lookup_retain,lookup_erase_if]
  all_goals cases m.peers.lookup w <;> simp [lookup_erase_if]

theorem Ported.handshakeFinished (h : m.Ported) (src : SocketAddr) :
    Ported { m with transport := m.transport.handshakeFinished src } := by
  suffices hview : view { m with transport := m.transport.handshakeFinished src } = m.view by
    rwa [Ported,hview]
  unfold Transport.handshakeFinished
  split
  · split
    · rename_i worker _ _ endpoint hw
      ext w : 2 <;> simp only [view,lookup_insert_if]
      rcases eq_or_ne w worker with rfl | hne <;> simp [*]
    · rfl
  · rfl

instance (m : Manager) (worker : WorkerId) (keep : Nat → Prop) [DecidablePred keep] :
    Decidable (m.Unshared worker keep) :=
  inferInstanceAs (Decidable (∀ e ∈ m.peers.toList, e.1 = worker → _))

instance (m : Manager) : (st : SyncStep) → Decidable (st.Clean m)
  | .remove worker => inferInstanceAs (Decidable (m.Unshared worker (fun _ => False)))
  | .update info => inferInstanceAs (Decidable (∀ endpoint ∈ info.endpoint, _ → _ ∧ _ ∧ _))

end Manager

/-- Syncs are clean at each of their steps, and a namespace comes to a segment that is free. -/
def Event.Clean (m : Manager) : Event → Prop
  | .registrySync workers =>
    Runs.Along (fun m st => some (Manager.syncStep m st)) (fun m st => Manager.SyncStep.Clean m st) m
      (m.syncSteps workers)
  | .namespaceCreated segment _ => m.namespaces.lookup segment = none
  | .namespaceDestroyed _ | .handshakeFinished _ => True

instance (m : Manager) : (ev : Event) → Decidable (ev.Clean m)
  | .registrySync workers => inferInstanceAs (Decidable (Runs.Along _ _ m (m.syncSteps workers)))
  | .namespaceCreated _ _ => inferInstanceAs (Decidable (_ = _))
  | .namespaceDestroyed _ | .handshakeFinished _ => isTrue trivial

namespace Manager

variable {m : Manager}

theorem Ported.step (h : m.Ported) (hc : ev.Clean m) : (m.step ev).Ported := by
  cases ev with
  | registrySync workers =>
    refine Runs.Along.keeps (I := Ported) hc (fun m st m' h hc hstep => ?_) h ?_
    · cases hstep
      exact h.syncStep hc
    · exact Runs.run_some ..
  | namespaceCreated segment fabric => exact h.onNamespaceCreated hc
  | namespaceDestroyed segment => exact h.onNamespaceDestroyed segment
  | handshakeFinished src => exact h.handshakeFinished src

theorem new_ported (encrypted : Bool) (accepts : Nat → Bool) : (new encrypted accepts).Ported := by
  constructor <;> simp [view,new]

/-- In a run of clean events, what a connected peer sends for a local namespace reaches its
fabric. -/
theorem run_reached {encrypted : Bool} {accepts : Nat → Bool} {events : List Event}
    (hc : Runs.Along (fun m ev => some (m.step ev)) (fun m ev => ev.Clean m) (new encrypted accepts)
      events) (hr : (new encrypted accepts).run events = some m) : m.Reached :=
  Ported.reached (hc.keeps (fun m ev m' h hc hstep => by cases hstep; exact h.step hc)
    (new_ported encrypted accepts) hr)

/-- Two peers that share a segment, with the namespace of it here. -/
def sharedEvents : List Event :=
  [.registrySync [⟨1,some ⟨0x0a000001,7000⟩,1,[5]⟩,⟨2,some ⟨0x0a000002,7000⟩,2,[5]⟩],
    .namespaceCreated 5 100]

def sampleFrame : List UInt8 := [0,0,5] ++ List.replicate 20 0

theorem sharedEvents_reached : ∃ m, (new false (fun _ => true)).run sharedEvents = some m ∧
    m.receive 1 ⟨0x0a000001,7000⟩ sampleFrame = some 100 := by
  have hr : (new false (fun _ => true)).run sharedEvents = some _ := rfl
  refine ⟨_,hr,run_reached (by decide +kernel) hr 1 ⟨⟨0x0a000001,7000⟩,[5],1,_⟩ 5 100 sampleFrame rfl
    (by decide) rfl nofun (by decide) rfl⟩

/-- The second peer leaves, and what the first one sends is dropped. -/
theorem peer_leaves_unreached :
    ∃ m, (new false (fun _ => true)).run (sharedEvents ++
        [.registrySync [⟨1,some ⟨0x0a000001,7000⟩,1,[5]⟩]]) = some m ∧
      m.namespaces.lookup 5 = some 100 ∧ (m.peers.lookup 1).map PeerState.segments = some [5] ∧
      m.receive 1 ⟨0x0a000001,7000⟩ sampleFrame = none ∧ ¬ m.Reached := by
  have hr : (new false (fun _ => true)).run (sharedEvents ++
    [.registrySync [⟨1,some ⟨0x0a000001,7000⟩,1,[5]⟩]]) = some _ := rfl
  refine ⟨_,hr,rfl,rfl,rfl,fun h => ?_⟩
  have := h 1 ⟨⟨0x0a000001,7000⟩,[5],1,_⟩ 5 100 sampleFrame rfl (by decide) rfl nofun (by decide) rfl
  cases this

end Manager

end Distvirt.Worker.Tunnel
