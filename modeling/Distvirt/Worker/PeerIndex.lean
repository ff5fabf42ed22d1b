import Distvirt.Worker.WireGuard

/-! The two indexes of the WireGuard adapter, and who may move a peer's endpoint. -/

namespace Distvirt.Worker.WireGuard

open Function List AList

structure View where
  byKey : Nat → Option Peer
  byAddr : SocketAddr → Option Peer
  channel : String → Option NamespaceChannel
  endpoint : Nat → Option SocketAddr
  next : Nat

/-- The address index without the address that a peer is heard from. -/
def View.without (v : View) (peer : Peer) (a : SocketAddr) : Option Peer :=
  if v.endpoint peer.arc = some a then none else v.byAddr a

def View.move (v : View) (peer : Peer) (addr : SocketAddr) : View :=
  if v.endpoint peer.arc = some addr then v
  else
    { v with
      endpoint := Function.update v.endpoint peer.arc (some addr)
      byAddr := Function.update (v.without peer) addr (some peer) }

namespace State

/-- A peer takes a datagram that is no error to it. -/
def Takes (N : Noise) (peer : Peer) (src : SocketAddr) (datagram : List UInt8) : Prop :=
  ∃ session, (N.decapsulate peer.publicKey session (some src.ip) datagram).2 ≠ .err

/-- What an event does to the indexes. -/
inductive Step (N : Noise) (v : View) : Event → View → Prop
  | same : Step N v ev v
  | added : Step N v (.addPeer namespaceId key peerIp presharedKey) { v with
      next := v.next + 1
      endpoint := Function.update v.endpoint v.next none
      byKey := Function.update v.byKey key (some ⟨v.next,key,namespaceId,peerIp⟩) }
  | removed (hk : v.byKey key = some peer) : Step N v (.removePeer key) { v with
      byKey := Function.update v.byKey key none
      byAddr := v.without peer }
  | created : Step N v (.createPort namespaceId) { v with
      channel := Function.update v.channel namespaceId.name (some ⟨namespaceId.id⟩) }
  | cleaned : Step N v (.cleanup name incarnation) { v with
      channel := Function.update v.channel name none }
  | moved (hk : v.byKey key = some peer) (hfree : v.byAddr addr = none)
      (ht : Takes N peer addr data) : Step N v (.datagram addr data) { v with
      endpoint := Function.update v.endpoint peer.arc (some addr)
      byAddr := Function.update (v.without peer) addr (some peer) }

variable {N : Noise} {s s' : State N} {p q peer : Peer} {src addr : SocketAddr} {fuel : Nat}
  {data : List UInt8}

/-- The indexes as functions, without the sessions. -/
def view (s : State N) : View where
  byKey k := s.peersByKey.lookup k
  byAddr a := s.peersByAddr.lookup a
  channel name := s.namespaceChannels.lookup name
  endpoint := s.endpoint
  next := s.next

theorem view_withoutEndpoint :
    (fun a => (s.withoutEndpoint peer).lookup a) = s.view.without peer := by
  funext a
  unfold withoutEndpoint View.without
  cases he : s.endpoint peer.arc with
  | none => simp [view,he]
  | some a' => simp [view,he,lookup_erase_if,eq_comm]

theorem view_updatePeerEndpoint : (s.updatePeerEndpoint peer addr).view = s.view.move peer addr := by
  unfold updatePeerEndpoint View.move
  rw [← view_withoutEndpoint,← lookup_insert_fun]
  split <;> rename_i h <;> simp only [view,h,↓reduceIte]

theorem continuation_view (peer : Peer) (src : SocketAddr) (fuel : Nat) (s : State N) :
    (continuation peer src fuel s).1.view = s.view := by
  induction fuel generalizing s with
  | zero => rfl
  | succ fuel ih =>
    unfold continuation
    dsimp only
    split
    · exact ih _
    · rfl

theorem processTunnResult_view (fuel : Nat) (s : State N) (peer : Peer) (src : SocketAddr)
    (result : TunnResult) : (s.processTunnResult fuel peer src result).1.view = s.view := by
  cases result with
  | done => rfl
  | err => rfl
  | writeToTunnelV6 packet => rfl
  | writeToNetwork data => exact continuation_view peer src fuel s
  | writeToTunnelV4 packet =>
    unfold processTunnResult
    dsimp only
    split <;> rfl

/-- The slow path leaves the indexes alone, or moves one of the peers that takes the datagram. -/
theorem handleUnknownSource_view (fuel : Nat) (src : SocketAddr) (data : List UInt8)
    (peers : List Peer) (s : State N) :
    (handleUnknownSource fuel src data peers s).1.view = s.view ∨
    ∃ peer ∈ peers, Takes N peer src data ∧
      (handleUnknownSource fuel src data peers s).1.view = s.view.move peer src := by
  induction peers generalizing s with
  | nil => exact .inl rfl
  | cons peer peers ih =>
    unfold handleUnknownSource
    dsimp only
    split
    · rcases ih (s.decapsulate peer (some src.ip) data).1 with h | ⟨p,hp,h⟩
      · exact .inl h
      · exact .inr ⟨p,mem_cons_of_mem _ hp,h⟩
    · rename_i hok
      exact .inr ⟨peer,mem_cons_self,⟨_,hok⟩,
        (processTunnResult_view ..).trans view_updatePeerEndpoint⟩

theorem mem_peers : p ∈ s.peers ↔ ∃ k, s.peersByKey.lookup k = some p := by
  unfold peers
  rw [mem_map]
  constructor
  · rintro ⟨⟨k,q⟩,hm,rfl⟩
    exact ⟨k,mem_toList.mp hm⟩
  · rintro ⟨k,hk⟩
    exact ⟨(k,p),mem_toList.mpr hk,rfl⟩

theorem step_view (fuel : Nat) (s : State N) (ev : Event) :
    Step N s.view ev (s.step fuel ev).1.view := by
  cases ev with
  | addPeer namespaceId key peerIp presharedKey =>
    simp only [step,addPeer,view,lookup_insert_fun]
    exact .added
  | removePeer key =>
    simp only [step,removePeer]
    cases hk : s.peersByKey.lookup key with
    | none => exact .same
    | some peer =>
      simp only [view,lookup_erase_fun,view_withoutEndpoint]
      exact .removed hk
  | createPort namespaceId =>
    simp only [step,createPort,view,lookup_insert_fun]
    exact .created
  | cleanup name id =>
    simp only [step,cleanup]
    split
    · split
      · simp only [view,lookup_erase_fun]
        exact .cleaned
      · exact .same
    · exact .same
  | datagram src data =>
    simp only [step,udpRecv]
    cases ha : s.peersByAddr.lookup src with
    | some peer =>
      have hsame : (s.handlePeerPacket fuel peer src data).1.view = s.view :=
        processTunnResult_view ..
      simp only [hsame]
      exact .same
    | none =>
      rcases handleUnknownSource_view fuel src data s.peers s with hv | ⟨peer,hp,ht,hv⟩ <;> simp only [hv]
      · exact .same
      · obtain ⟨key,hk⟩ := mem_peers.mp hp
        unfold View.move
        split
        · exact .same
        · exact .moved hk ha ht
  | rehash peers =>
    simp only [step]
    split
    · rename_i hperm
      have hk : (fun k => peers.lookup k) = fun k => s.peersByKey.lookup k :=
        funext (fun _ => perm_lookup hperm)
      simp only [view,hk]
      exact .same
    · exact .same

/-- A peer that one of the indexes holds. -/
def Holds (s : State N) (p : Peer) : Prop :=
  (∃ k, s.peersByKey.lookup k = some p) ∨ ∃ a, s.peersByAddr.lookup a = some p

/-- Endpoints and addresses name each other, as long as a peer is registered. A peer that is held is
the one that was born with its number. -/
structure Consistent (v : View) : Prop where
  keyed : ∀ k p, v.byKey k = some p → p.publicKey = k
  born : ∃ f : Nat → Peer, ∀ p, (∃ k, v.byKey k = some p) ∨ (∃ a, v.byAddr a = some p) →
    p.arc < v.next ∧ f p.arc = p
  addressed : ∀ a p, v.byAddr a = some p → v.endpoint p.arc = some a
  back : ∀ k p a, v.byKey k = some p → v.endpoint p.arc = some a → v.byAddr a = some p

theorem new_consistent (N : Noise) : Consistent (new N).view where
  keyed k p h := by cases h
  born := ⟨fun _ => ⟨0,0,⟨"",0⟩,0⟩,fun p h => by rcases h with ⟨k,h⟩ | ⟨a,h⟩ <;> cases h⟩
  addressed a p h := by cases h
  back k p a h := by cases h

theorem without_cases {v : View} (h : v.without peer a = some p) :
    v.endpoint peer.arc ≠ some a ∧ v.byAddr a = some p := by
  unfold View.without at h
  split at h
  · cases h
  · exact ⟨‹_›,h⟩

/-- Another registered peer's address is not the peer's. -/
theorem Consistent.without_eq {v : View} (h : Consistent v) (hk : v.byKey key = some peer)
    (ha : v.byAddr a = some p) (hne : p ≠ peer) : v.without peer a = some p := by
  refine (if_neg (fun he => ?_)).trans ha
  exact hne (Option.some.inj (ha.symm.trans (h.back key peer a hk he)))

theorem Consistent.unique {v : View} (h : Consistent v) (hp : v.byKey k = some p)
    (hq : (∃ k, v.byKey k = some q) ∨ ∃ a, v.byAddr a = some q) (heq : q.arc = p.arc) : q = p := by
  obtain ⟨f,hf⟩ := h.born
  rw [← (hf q hq).2,← (hf p (.inl ⟨k,hp⟩)).2,heq]

/-- A new peer has a number that no peer had before. -/
theorem Consistent.added {v : View} (h : Consistent v) (namespaceId : NamespaceId)
    (key peerIp : Nat) : Consistent { v with
      next := v.next + 1
      endpoint := Function.update v.endpoint v.next none
      byKey := Function.update v.byKey key (some ⟨v.next,key,namespaceId,peerIp⟩) } := by
  obtain ⟨f,hf⟩ := h.born
  refine ⟨fun k p hp => ?_,⟨Function.update f v.next ⟨v.next,key,namespaceId,peerIp⟩,fun p hp => ?_⟩,
    fun a p hp => ?_,fun k p a hp hpa => ?_⟩
  · rcases update_cases hp with ⟨rfl,hp⟩ | ⟨_,hp⟩
    · cases hp
      rfl
    · exact h.keyed k p hp
  · have hp : ⟨v.next,key,namespaceId,peerIp⟩ = p ∨ p.arc < v.next ∧ f p.arc = p := by
      rcases hp with ⟨k,hp⟩ | ha
      · rcases update_cases hp with ⟨_,hp⟩ | ⟨_,hp⟩
        · exact .inl (Option.some.inj hp)
        · exact .inr (hf p (.inl ⟨k,hp⟩))
      · exact .inr (hf p (.inr ha))
    rcases hp with rfl | ⟨hlt,heq⟩
    · exact ⟨Nat.lt_succ_self _,update_self ..⟩
    · exact ⟨Nat.lt_succ_of_lt hlt,(update_of_ne (Nat.ne_of_lt hlt) _ _).trans heq⟩
  · have hlt := (hf p (.inr ⟨a,hp⟩)).1
    exact (update_of_ne (Nat.ne_of_lt hlt) _ _).trans (h.addressed a p hp)
  · rcases update_cases hp with ⟨_,hp⟩ | ⟨_,hp⟩
    · cases hp
      simp at hpa
    · have hlt := (hf p (.inl ⟨k,hp⟩)).1
      exact h.back k p a hp ((update_of_ne (Nat.ne_of_lt hlt) _ _).symm.trans hpa)

theorem Consistent.moved {v : View} (h : Consistent v) (hk : v.byKey key = some peer)
    (hfree : v.byAddr addr = none) : Consistent { v with
      endpoint := Function.update v.endpoint peer.arc (some addr)
      byAddr := Function.update (v.without peer) addr (some peer) } := by
  obtain ⟨f,hf⟩ := h.born
  refine ⟨h.keyed,⟨f,fun p hp => hf p (hp.elim .inl (fun ha => ?_))⟩,fun a p hp => ?_,
    fun k p a hp hpa => ?_⟩
  · obtain ⟨a,hp⟩ := ha
    rcases update_cases hp with ⟨_,hp⟩ | ⟨_,hp⟩
    · exact .inl ⟨key,hk.trans hp⟩
    · exact .inr ⟨a,(without_cases hp).2⟩
  · rcases update_cases hp with ⟨rfl,hp'⟩ | ⟨_,hp⟩
    · cases hp'
      exact update_self ..
    · obtain ⟨hne,hp⟩ := without_cases hp
      have hpa := h.addressed a p hp
      exact (update_of_ne (fun heq => hne (by rw [← heq,hpa])) _ _).trans hpa
  · by_cases harc : p.arc = peer.arc
    · cases h.unique hk (.inl ⟨k,hp⟩) harc
      cases (update_self ..).symm.trans hpa
      exact update_self ..
    · have hpa := h.back k p a hp ((update_of_ne harc _ _).symm.trans hpa)
      have hne : a ≠ addr := fun heq => by cases (heq ▸ hpa).symm.trans hfree
      exact (update_of_ne hne _ _).trans
        (h.without_eq hk hpa (fun heq => harc (congrArg Peer.arc heq)))

theorem Consistent.step {v w : View} (h : Consistent v) (hs : Step N v ev w) : Consistent w := by
  cases hs with
  | same => exact h
  | created => exact ⟨h.keyed,h.born,h.addressed,h.back⟩
  | cleaned => exact ⟨h.keyed,h.born,h.addressed,h.back⟩
  | added => exact h.added _ _ _
  | @removed key peer hk =>
    obtain ⟨f,hf⟩ := h.born
    have hkey : ∀ k p, update v.byKey key none k = some p → k ≠ key ∧ v.byKey k = some p :=
      fun k p hp => (update_cases hp).resolve_left (fun hc => by cases hc.2)
    refine ⟨fun k p hp => h.keyed k p (hkey k p hp).2,⟨f,fun p hp => hf p (hp.imp ?_ ?_)⟩,
      fun a p hp => h.addressed a p (without_cases hp).2,fun k p a hp hpa => ?_⟩
    · exact Exists.imp (fun k hp => (hkey k p hp).2)
    · exact Exists.imp (fun a hp => (without_cases hp).2)
    · obtain ⟨hne,hp⟩ := hkey k p hp
      refine h.without_eq hk (h.back k p a hp hpa) (fun heq => hne ?_)
      rw [← h.keyed k p hp,heq,h.keyed key peer hk]
  | moved hk hfree ht => exact h.moved hk hfree

theorem run_consistent (hr : run fuel (new N) events = some s) : Consistent s.view :=
  Runs.run_keeps (I := fun s => Consistent s.view)
    (fun s ev _ h hstep => by cases hstep; exact h.step (step_view fuel s ev)) (new_consistent N) hr

/-- The endpoint of a peer or its address entries differ. -/
def Moves (s s' : State N) (p : Peer) : Prop :=
  s'.endpoint p.arc ≠ s.endpoint p.arc ∨
    ∃ a, ¬ (s'.peersByAddr.lookup a = some p ↔ s.peersByAddr.lookup a = some p)

/-- A datagram moves no peer but one that takes it, and that when its address is no peer's. -/
theorem Consistent.moves (h : Consistent s.view) (hq : s.Holds q)
    (hm : Moves s (s.udpRecv fuel src data).1 q) :
    s.peersByAddr.lookup src = none ∧ q ∈ s.peers ∧ Takes N q src data := by
  have hs := step_view fuel s (.datagram src data)
  change Step N s.view _ (s.udpRecv fuel src data).1.view at hs
  have hm : (s.udpRecv fuel src data).1.view.endpoint q.arc ≠ s.view.endpoint q.arc ∨
    ∃ a, ¬ ((s.udpRecv fuel src data).1.view.byAddr a = some q ↔ s.view.byAddr a = some q) := hm
  generalize (s.udpRecv fuel src data).1.view = w at hs hm
  cases hs with
  | same => simp at hm
  | @moved key peer _ _ hk hfree ht =>
    refine ⟨hfree,?_⟩
    suffices heq : q = peer from heq ▸ ⟨mem_peers.mpr ⟨key,hk⟩,ht⟩
    by_contra hne
    have harc : q.arc ≠ peer.arc := fun heq => hne (h.unique hk hq heq)
    rcases hm with he | ⟨a,ha⟩
    · exact he (update_of_ne harc _ _)
    · refine ha ⟨fun hw => ?_,fun hv => ?_⟩
      · rcases update_cases hw with ⟨_,hw⟩ | ⟨_,hw⟩
        · exact absurd (Option.some.inj hw).symm hne
        · exact (without_cases hw).2
      · have hsrc : a ≠ src := fun heq => by cases (heq ▸ hv).symm.trans hfree
        exact (update_of_ne hsrc _ _).trans (h.without_eq hk hv hne)

end State

/-- What boringtun is relied on for: a datagram that was not made with a peer's keys is an error to
its session, unless it is empty. -/
structure Noise.Authentic (N : Noise) (made : Nat → List UInt8 → Prop) : Prop where
  rejects : ∀ key session ip datagram, datagram ≠ [] → ¬ made key datagram →
    (N.decapsulate key session ip datagram).2 = .err
  empty : ∀ key session ip, (N.decapsulate key session ip []).2 = .done ∨
    ∃ data, (N.decapsulate key session ip []).2 = .writeToNetwork data
  nonempty : ∀ key, ¬ made key []

theorem Noise.Authentic.empty_ne {N : Noise} (h : N.Authentic made) (key : Nat)
    (session : N.Session) (ip : Option Nat) : (N.decapsulate key session ip []).2 ≠ .err := by
  rcases h.empty key session ip with he | ⟨data,he⟩ <;> rw [he] <;> nofun

namespace State

variable {N : Noise} {s : State N} {fuel : Nat} {made : Nat → List UInt8 → Prop}

/-- An empty datagram from an unknown address moves the first peer that is tried. -/
theorem udpRecv_empty_moves (hN : N.Authentic made) (h : Consistent s.view) {src : SocketAddr}
    (hp : s.peers = peer :: rest) (hfree : s.peersByAddr.lookup src = none) :
    Moves s (s.udpRecv fuel src []).1 peer := by
  obtain ⟨key,hkey⟩ := mem_peers.mp (show peer ∈ s.peers by rw [hp]; exact mem_cons_self)
  have hne : s.endpoint peer.arc ≠ some src := fun he => by
    cases hfree.symm.trans (h.back key peer src hkey he)
  have hok : (s.decapsulate peer (some src.ip) []).2 ≠ .err := hN.empty_ne _ _ _
  have hs : (s.udpRecv fuel src []).1.view = s.view.move peer src := by
    unfold udpRecv
    rw [hfree,hp]
    unfold handleUnknownSource
    dsimp only
    rw [if_neg hok]
    exact (processTunnResult_view ..).trans view_updatePeerEndpoint
  rw [View.move,if_neg (show s.view.endpoint peer.arc ≠ some src from hne)] at hs
  refine .inl (fun heq => hne ?_)
  rw [← heq]
  exact (congrArg (fun v => v.endpoint peer.arc) hs).trans (update_self ..)

/-- A datagram moves only peers with whose keys it was made, unless it is empty, comes from an
address that is no peer's, and there are peers. -/
theorem datagram_moves_iff (hN : N.Authentic made) {events : List Event}
    (hr : run fuel (new N) events = some s) (src : SocketAddr) (data : List UInt8) :
    (∀ p, s.Holds p → Moves s (s.udpRecv fuel src data).1 p → made p.publicKey data) ↔
      data ≠ [] ∨ s.peersByAddr.lookup src ≠ none ∨ s.peers = [] := by
  have h := run_consistent hr
  constructor
  · intro hmoves
    by_contra hcon
    simp only [not_or,not_not] at hcon
    obtain ⟨rfl,hfree,hpeers⟩ := hcon
    obtain ⟨peer,rest,hp⟩ := exists_cons_of_ne_nil hpeers
    have hmem : peer ∈ s.peers := by rw [hp]; exact mem_cons_self
    exact hN.nonempty peer.publicKey (hmoves peer (.inl (mem_peers.mp hmem))
      (udpRecv_empty_moves hN h hp hfree))
  · intro hcond p hp hm
    obtain ⟨hfree,hpeer,session,ht⟩ := h.moves hp hm
    have hdata : data ≠ [] := by
      rcases hcond with hd | ha | hnone
      · exact hd
      · exact absurd hfree ha
      · rw [hnone] at hpeer
        cases hpeer
    by_contra hnot
    exact ht (hN.rejects _ _ _ data hdata hnot)

end State

/-- Sessions that take what begins with their peer's key. -/
def sampleNoise : Noise where
  Session := Unit
  new _ _ _ := ()
  decapsulate key _ _ datagram :=
    ((),match datagram with
      | [] => .done
      | b :: packet => if b.toNat = key then .writeToTunnelV4 packet else .err)

def sampleMade (key : Nat) (datagram : List UInt8) : Prop :=
  datagram.head?.map UInt8.toNat = some key

theorem sampleNoise_authentic : sampleNoise.Authentic sampleMade where
  rejects key session ip datagram hne hmade := by
    cases datagram with
    | nil => exact absurd rfl hne
    | cons b packet => exact if_neg (fun heq => hmade (congrArg some heq))
  empty key session ip := .inl rfl
  nonempty key h := by cases h

namespace State

/-- A peer that is heard from its own address. -/
def heardEvents : List Event :=
  [.addPeer ⟨"demo",1⟩ 7 0xac1000fe none,.datagram ⟨0x0a000001,51820⟩ [7,1]]

theorem heard_moves_iff : ∃ s : State sampleNoise, run 0 (new sampleNoise) heardEvents = some s ∧
    ((∀ p, s.Holds p → Moves s (s.udpRecv 0 ⟨0x0a000002,40000⟩ [7]).1 p →
        sampleMade p.publicKey [7]) ↔
      [(7 : UInt8)] ≠ [] ∨ s.peersByAddr.lookup ⟨0x0a000002,40000⟩ ≠ none ∨ s.peers = []) :=
  ⟨_,rfl,datagram_moves_iff sampleNoise_authentic
    (show run 0 (new sampleNoise) heardEvents = some _ from rfl) _ _⟩

/-- An empty datagram from elsewhere, and the peer's traffic goes there. -/
theorem empty_datagram_redirects : sampleNoise.Authentic sampleMade ∧
    ∃ s : State sampleNoise, run 0 (new sampleNoise) heardEvents = some s ∧
      s.egressEndpoint "demo" 0xac1000fe = some ⟨0x0a000001,51820⟩ ∧
      (s.udpRecv 0 ⟨0x0a000002,40000⟩ []).1.egressEndpoint "demo" 0xac1000fe =
        some ⟨0x0a000002,40000⟩ ∧ ¬ sampleMade 7 [] :=
  ⟨sampleNoise_authentic,_,rfl,by decide +kernel,by decide +kernel,nofun⟩

end State

/-! Access of removed peers. -/

/-- What a datagram does, it does for a registered peer, and into no channel of a later incarnation
than the peer was added for. -/
def Effect.Allowed {N : Noise} (s : State N) : Effect → Prop
  | .decapsulated peer => s.peersByKey.lookup peer.publicKey = some peer
  | .sent _ _ => True
  | .injected peer channel _ =>
    s.peersByKey.lookup peer.publicKey = some peer ∧ channel.id ≤ peer.namespaceId.id

def Effect.IsFor (key : Nat) : Effect → Prop
  | .decapsulated peer | .injected peer _ _ => peer.publicKey = key
  | .sent _ _ => False

def Event.Adds (key : Nat) : Event → Prop
  | .addPeer _ publicKey _ _ => publicKey = key
  | _ => False

/-- No key is added twice, and a name changes its incarnation only when the peers of the last one
are gone. -/
def Event.Orderly {N : Noise} (s : State N) : Event → Prop
  | .addPeer namespaceId publicKey _ _ => s.peersByKey.lookup publicKey = none ∧
      ∀ channel ∈ s.namespaceChannels.lookup namespaceId.name, channel.id ≤ namespaceId.id
  | .createPort namespaceId => ∀ p ∈ s.peers, p.namespaceId.name = namespaceId.name →
      namespaceId.id ≤ p.namespaceId.id
  | _ => True

namespace State

variable {N : Noise} {s s' : State N} {fuel : Nat} {p peer : Peer} {src : SocketAddr}
  {data : List UInt8} {e : Effect}

/-- Every address entry is the state stored for its key, and the peer's endpoint. -/
def Indexed (s : State N) : Prop :=
  ∀ a p, s.peersByAddr.lookup a = some p →
    s.peersByKey.lookup p.publicKey = some p ∧ s.endpoint p.arc = some a

/-- No channel is of a later incarnation than a peer with its name. -/
structure Orderly (v : View) : Prop extends Consistent v where
  registered : ∀ a p, v.byAddr a = some p → v.byKey p.publicKey = some p
  current : ∀ channel k p, v.byKey k = some p → v.channel p.namespaceId.name = some channel →
    channel.id ≤ p.namespaceId.id

theorem Orderly.step (h : Orderly s.view) (ho : ev.Orderly s) : Orderly (s.step fuel ev).1.view := by
  have hs := step_view fuel s ev
  generalize (s.step fuel ev).1.view = w at hs
  have hcons := h.toConsistent.step hs
  cases hs with
  | same => exact h
  | added =>
    refine ⟨hcons,fun a p hp => ?_,fun channel k p hp hc => ?_⟩
    · have hreg := h.registered a p hp
      exact (update_of_ne (fun heq => by cases (heq ▸ hreg).symm.trans ho.1) _ _).trans hreg
    · rcases update_cases hp with ⟨_,hp⟩ | ⟨_,hp⟩
      · cases hp
        exact ho.2 channel hc
      · exact h.current channel k p hp hc
  | @removed key peer hk =>
    refine ⟨hcons,fun a p hpa => ?_,fun channel k p hp => h.current channel k p ?_⟩
    · obtain ⟨hne,hpa⟩ := without_cases hpa
      have hreg := h.registered a p hpa
      refine (update_of_ne (fun heq => ?_) _ _).trans hreg
      cases hk.symm.trans (heq ▸ hreg)
      exact hne (h.addressed a peer hpa)
    · exact ((update_cases hp).resolve_left (fun hc => by cases hc.2)).2
  | created =>
    refine ⟨hcons,h.registered,fun channel k p hp hc => ?_⟩
    rcases update_cases hc with ⟨hname,hc⟩ | ⟨_,hc⟩
    · cases hc
      exact ho p (mem_peers.mpr ⟨k,hp⟩) hname
    · exact h.current channel k p hp hc
  | cleaned =>
    refine ⟨hcons,h.registered,fun channel k p hp hc => h.current channel k p hp ?_⟩
    exact ((update_cases hc).resolve_left (fun hc => by cases hc.2)).2
  | @moved key peer _ _ hk =>
    refine ⟨hcons,fun a p hpa => ?_,h.current⟩
    rcases update_cases hpa with ⟨_,hpa⟩ | ⟨_,hpa⟩
    · cases hpa
      rw [h.keyed key peer hk]
      exact hk
    · exact h.registered a p (without_cases hpa).2

theorem new_orderly (N : Noise) : Orderly (new N).view :=
  ⟨new_consistent N,fun _ _ h => (by cases h),fun _ _ _ h => (by cases h)⟩

/-- An effect for one of some peers, into the channel of its namespace's name. -/
def From (s : State N) (ok : Peer → Prop) : Effect → Prop
  | .decapsulated peer => ok peer
  | .sent _ _ => True
  | .injected peer channel _ =>
    ok peer ∧ s.namespaceChannels.lookup peer.namespaceId.name = some channel

theorem continuation_from (peer : Peer) (src : SocketAddr) (fuel : Nat) (s₀ s : State N) :
    ∀ e ∈ (continuation peer src fuel s).2, From s₀ ok e := by
  induction fuel generalizing s with
  | zero => exact nofun
  | succ fuel ih =>
    unfold continuation
    dsimp only
    split
    · exact forall_mem_cons.mpr ⟨trivial,ih _⟩
    · exact nofun

theorem processTunnResult_from (hp : ok peer) (result : TunnResult)
    (hc : s'.namespaceChannels = s.namespaceChannels) :
    ∀ e ∈ (s'.processTunnResult fuel peer src result).2, From s ok e := by
  cases result with
  | done => exact nofun
  | err => exact nofun
  | writeToTunnelV6 packet => exact nofun
  | writeToNetwork data => exact forall_mem_cons.mpr ⟨trivial,continuation_from peer src fuel s s'⟩
  | writeToTunnelV4 packet =>
    unfold processTunnResult
    dsimp only
    rw [hc]
    split
    · exact forall_mem_singleton.mpr ⟨hp,by assumption⟩
    · exact nofun

theorem updatePeerEndpoint_channels (s : State N) (peer : Peer) (addr : SocketAddr) :
    (s.updatePeerEndpoint peer addr).namespaceChannels = s.namespaceChannels := by
  unfold State.updatePeerEndpoint
  split <;> rfl

theorem handleUnknownSource_from (peers : List Peer) (hok : ∀ p ∈ peers, ok p)
    (hc : s'.namespaceChannels = s.namespaceChannels) :
    ∀ e ∈ (handleUnknownSource fuel src data peers s').2, From s ok e := by
  induction peers generalizing s' with
  | nil => exact nofun
  | cons peer peers ih =>
    obtain ⟨hpeer,hrest⟩ := forall_mem_cons.mp hok
    unfold handleUnknownSource
    dsimp only
    split
    · exact forall_mem_cons.mpr ⟨hpeer,ih hrest hc⟩
    · exact forall_mem_cons.mpr ⟨hpeer,processTunnResult_from hpeer _
        ((updatePeerEndpoint_channels ..).trans hc)⟩

theorem Orderly.allowed (h : Orderly s.view) (fuel : Nat) (src : SocketAddr) (data : List UInt8) :
    ∀ e ∈ (s.udpRecv fuel src data).2, e.Allowed s := by
  have hfrom : ∀ e ∈ (s.udpRecv fuel src data).2,
      From s (fun p => s.peersByKey.lookup p.publicKey = some p) e := by
    unfold State.udpRecv
    cases ha : s.peersByAddr.lookup src with
    | some peer =>
      have hreg := h.registered src peer ha
      exact forall_mem_cons.mpr ⟨hreg,processTunnResult_from hreg _ rfl⟩
    | none =>
      refine handleUnknownSource_from s.peers (fun p hp => ?_) rfl
      obtain ⟨k,hk⟩ := mem_peers.mp hp
      rw [h.keyed k p hk]
      exact hk
  intro e he
  cases e with
  | decapsulated peer => exact hfrom _ he
  | sent addr data => trivial
  | injected peer channel packet =>
    obtain ⟨hreg,hc⟩ := hfrom _ he
    exact ⟨hreg,h.current channel _ peer hreg hc⟩

theorem lookup_removed (h : s.peersByKey.lookup key = none) (ha : ¬ ev.Adds key) :
    (s.step fuel ev).1.peersByKey.lookup key = none := by
  have hs := step_view fuel s ev
  change (s.step fuel ev).1.view.byKey key = none
  generalize (s.step fuel ev).1.view = w at hs
  cases hs with
  | added => exact (update_of_ne (fun heq => ha heq.symm) _ _).trans h
  | removed hk =>
    show update _ _ _ _ = _
    rw [update_apply]
    split
    · rfl
    · exact h
  | _ => exact h

theorem removePeer_lookup (s : State N) (key : Nat) :
    (s.removePeer key).peersByKey.lookup key = none := by
  unfold State.removePeer
  cases hk : s.peersByKey.lookup key with
  | none => exact hk
  | some peer => exact lookup_erase key _

/-- In an orderly run the address index names registered peers only, and no removed peer's datagram
is decapsulated or injected. -/
theorem removed_no_access {events : List Event}
    (ha : Runs.Along (fun s ev => some (s.step fuel ev).1) (fun s ev => ev.Orderly s) (new N) events)
    (hr : run fuel (new N) events = some s) (src : SocketAddr) (data : List UInt8) :
    s.Indexed ∧ (∀ e ∈ (s.udpRecv fuel src data).2, e.Allowed s) ∧
    ∀ before mid key, events = before ++ .removePeer key :: mid → (∀ ev ∈ mid, ¬ ev.Adds key) →
      ∀ e ∈ (s.udpRecv fuel src data).2, ¬ e.IsFor key := by
  have h : Orderly s.view := ha.keeps (I := fun s => Orderly s.view)
    (fun s ev s' h ho hstep => by cases hstep; exact h.step ho) (new_orderly N) hr
  refine ⟨fun a p hp => ⟨h.registered a p hp,h.addressed a p hp⟩,h.allowed fuel src data,?_⟩
  rintro before mid key rfl hmid e he hfor
  have hnone : s.peersByKey.lookup key = none := by
    rw [run,Runs.run_append,Option.bind_eq_some_iff] at hr
    obtain ⟨s₀,_,hr⟩ := hr
    change Runs.run _ (s₀.removePeer key) mid = some s at hr
    have hadds : Runs.Along (fun s ev => some (s.step fuel ev).1) (fun _ ev => ¬ ev.Adds key)
        (s₀.removePeer key) mid := Runs.along_of_forall (fun ev hev _ => hmid ev hev) _
    exact hadds.keeps (I := fun s => s.peersByKey.lookup key = none)
      (fun s ev s' h ho hstep => by cases hstep; exact lookup_removed h ho)
      (removePeer_lookup s₀ key) hr
  have hallowed := h.allowed fuel src data e he
  cases e with
  | decapsulated peer =>
    cases hfor
    cases hnone.symm.trans hallowed
  | sent addr data => exact hfor
  | injected peer channel packet =>
    cases hfor
    cases hnone.symm.trans hallowed.1

/-- A peer is heard, removed, and added for the next incarnation of its namespace. -/
def orderlyEvents : List Event :=
  [.createPort ⟨"demo",1⟩,.addPeer ⟨"demo",1⟩ 7 0xac1000fe none,
    .datagram ⟨0x0a000001,51820⟩ [7,1],.removePeer 7,.cleanup "demo" 1,.createPort ⟨"demo",2⟩]

instance (s : State N) : (ev : Event) → Decidable (ev.Orderly s)
  | .addPeer namespaceId _ _ _ =>
    inferInstanceAs (Decidable (_ ∧ ∀ channel ∈ s.namespaceChannels.lookup namespaceId.name,
      channel.id ≤ namespaceId.id))
  | .createPort namespaceId =>
    inferInstanceAs (Decidable (∀ p ∈ s.peers, p.namespaceId.name = namespaceId.name →
      namespaceId.id ≤ p.namespaceId.id))
  | .removePeer _ | .cleanup _ _ | .datagram _ _ | .rehash _ => isTrue trivial

theorem orderlyEvents_no_access : ∃ s : State sampleNoise,
    run 0 (new sampleNoise) orderlyEvents = some s ∧
    ∀ e ∈ (s.udpRecv 0 ⟨0x0a000001,51820⟩ [7,2]).2, ¬ e.IsFor 7 := by
  have ha : Runs.Along (fun s ev => some (s.step 0 ev).1) (fun s ev => ev.Orderly s)
      (new sampleNoise) orderlyEvents := by
    decide +kernel
  have hr : run 0 (new sampleNoise) orderlyEvents = some _ := rfl
  obtain ⟨_,_,hremoved⟩ := removed_no_access ha hr ⟨0x0a000001,51820⟩ [7,2]
  exact ⟨_,hr,hremoved (orderlyEvents.take 3) (orderlyEvents.drop 4) 7 rfl
    (by simp [orderlyEvents,Event.Adds])⟩

/-- A key that was added twice keeps its first state in the address index when it is removed; and a
peer reaches the channel that the next incarnation of its namespace has created. -/
theorem removed_peer_has_access :
    (∃ s : State sampleNoise, run 0 (new sampleNoise)
        [.createPort ⟨"demo",1⟩,.addPeer ⟨"demo",1⟩ 7 0xac1000fe none,
          .datagram ⟨0x0a000001,51820⟩ [7,1],.addPeer ⟨"demo",1⟩ 7 0xac1000fe none,
          .removePeer 7] = some s ∧
      ¬ s.Indexed ∧ s.peersByKey.lookup 7 = none ∧
      (s.udpRecv 0 ⟨0x0a000001,51820⟩ [7,2]).2 =
        [.decapsulated ⟨0,7,⟨"demo",1⟩,0xac1000fe⟩,
          .injected ⟨0,7,⟨"demo",1⟩,0xac1000fe⟩ ⟨1⟩ [2]]) ∧
    ∃ s : State sampleNoise, run 0 (new sampleNoise)
        [.createPort ⟨"demo",1⟩,.addPeer ⟨"demo",1⟩ 7 0xac1000fe none,.cleanup "demo" 1,
          .createPort ⟨"demo",2⟩] = some s ∧
      (s.udpRecv 0 ⟨0x0a000001,51820⟩ [7,2]).2 =
        [.decapsulated ⟨0,7,⟨"demo",1⟩,0xac1000fe⟩,
          .injected ⟨0,7,⟨"demo",1⟩,0xac1000fe⟩ ⟨2⟩ [2]] := by
  refine ⟨⟨_,rfl,fun h => ?_,by decide +kernel,by decide +kernel⟩,_,rfl,by decide +kernel⟩
  have := (h ⟨0x0a000001,51820⟩ ⟨0,7,⟨"demo",1⟩,0xac1000fe⟩ (by decide +kernel)).1
  exact absurd this (by decide +kernel)

end State

end Distvirt.Worker.WireGuard
