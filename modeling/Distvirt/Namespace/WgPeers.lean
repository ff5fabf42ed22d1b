import Distvirt.Namespace.IpAlloc

/-! The WireGuard peer manager and the two allocators of one namespace side by side. -/

namespace Distvirt
open Std (ExtTreeMap)

inductive WgPeerOutput where
  | addPeer (peerPublicKey : Nat) (peerIp : Nat)
  | removePeer (peerPublicKey : Nat)
deriving DecidableEq, Repr

inductive ConnectResult where
  | ok (clientIp : Nat) (outputs : List WgPeerOutput)
  | error (message : String)
deriving DecidableEq, Repr

/-- Peers are keyed by their 32-byte public key, here its value. `nextHostOffset` is a `u16`. -/
structure WireGuardPeerManager where
  peers : ExtTreeMap Nat Nat
  nextHostOffset : Nat
  subnet : Nat
  prefixLen : Nat

namespace WireGuardPeerManager

/-- The top host of the subnet, cut to sixteen bits. -/
def new (subnet prefixLen : Nat) : WireGuardPeerManager :=
  { peers := ∅, nextHostOffset := (2 ^ (32 - prefixLen) - 2) % 2 ^ 16, subnet, prefixLen }

def connect (m : WireGuardPeerManager) (clientPublicKey : Nat) :
    ConnectResult × WireGuardPeerManager :=
  match m.peers[clientPublicKey]? with
  | some clientIp => (.ok clientIp [],m)
  | none =>
    if m.nextHostOffset < 2 then (.error "no more WireGuard peer IPs available",m)
    else
      let clientIp := m.subnet + m.nextHostOffset
      (.ok clientIp [.addPeer clientPublicKey clientIp],
        { m with
          nextHostOffset := m.nextHostOffset - 1
          peers := m.peers.insert clientPublicKey clientIp })

/-- The address of a peer that leaves is not handed out again. -/
def disconnect (m : WireGuardPeerManager) (clientPublicKey : Nat) :
    List WgPeerOutput × WireGuardPeerManager :=
  match m.peers[clientPublicKey]? with
  | some _ => ([.removePeer clientPublicKey],{ m with peers := m.peers.erase clientPublicKey })
  | none => ([],m)

/-- Connected peers hold distinct addresses between the cursor and the top of the subnet. -/
structure Valid (m : WireGuardPeerManager) : Prop where
  bounds : ∀ (k : Nat) ip, m.peers[k]? = some ip →
    ∃ o, ip = m.subnet + o ∧ m.nextHostOffset < o ∧ 2 ≤ o ∧ o ≤ 2 ^ (32 - m.prefixLen) - 2
  cursor : m.nextHostOffset ≤ 2 ^ (32 - m.prefixLen) - 2
  owner : ∀ (k k' : Nat) ip, m.peers[k]? = some ip → m.peers[k']? = some ip → k = k'

theorem valid_new (subnet prefixLen : Nat) : (new subnet prefixLen).Valid where
  bounds := by simp [new]
  cursor := Nat.mod_le _ _
  owner := by simp [new]

variable {m : WireGuardPeerManager} {pk k ip : Nat}

theorem connect_snd (m : WireGuardPeerManager) (pk : Nat) : (m.connect pk).2 = m ∨
    (m.peers[pk]? = none ∧ 2 ≤ m.nextHostOffset ∧ (m.connect pk).2 =
      { m with
        nextHostOffset := m.nextHostOffset - 1
        peers := m.peers.insert pk (m.subnet + m.nextHostOffset) }) := by
  unfold connect
  split
  · exact .inl rfl
  · rename_i hk
    split
    · exact .inl rfl
    · exact .inr ⟨hk,by omega,rfl⟩

theorem connect_peers (h : (m.connect pk).2.peers[k]? = some ip) :
    m.peers[k]? = some ip ∨
      (m.peers[pk]? = none ∧ 2 ≤ m.nextHostOffset ∧ k = pk ∧ ip = m.subnet + m.nextHostOffset) := by
  rcases m.connect_snd pk with he | ⟨hk,hn,he⟩
  · exact .inl (he ▸ h)
  · rw [he,ExtTreeMap.getElem?_insert] at h
    split at h
    · rename_i hc
      cases h
      exact .inr ⟨hk,hn,(compare_eq_iff_eq.mp hc).symm,rfl⟩
    · exact .inl h

theorem disconnect_peers (h : (m.disconnect pk).2.peers[k]? = some ip) : m.peers[k]? = some ip := by
  unfold disconnect at h
  split at h
  · simp only [ExtTreeMap.getElem?_erase] at h
    split at h
    · cases h
    · exact h
  · exact h

theorem disconnect_rest (m : WireGuardPeerManager) (pk : Nat) :
    (m.disconnect pk).2.nextHostOffset = m.nextHostOffset ∧
    (m.disconnect pk).2.subnet = m.subnet ∧ (m.disconnect pk).2.prefixLen = m.prefixLen := by
  unfold disconnect
  split <;> exact ⟨rfl,rfl,rfl⟩

theorem connect_rest (m : WireGuardPeerManager) (pk : Nat) :
    (m.connect pk).2.nextHostOffset ≤ m.nextHostOffset ∧
    (m.connect pk).2.subnet = m.subnet ∧ (m.connect pk).2.prefixLen = m.prefixLen := by
  rcases m.connect_snd pk with he | ⟨_,_,he⟩ <;> rw [he]
  · exact ⟨Nat.le_refl _,rfl,rfl⟩
  · exact ⟨Nat.sub_le _ _,rfl,rfl⟩

theorem Valid.connect (v : m.Valid) (pk : Nat) : (m.connect pk).2.Valid := by
  rcases m.connect_snd pk with he | ⟨hk,hn,he⟩
  · rw [he]
    exact v
  obtain ⟨_,hs,hl⟩ := m.connect_rest pk
  have next : (m.connect pk).2.nextHostOffset = m.nextHostOffset - 1 := by rw [he]
  refine ⟨?_,?_,?_⟩
  · intro k ip hp
    rw [hs,hl,next]
    rcases connect_peers hp with hp | ⟨_,_,_,rfl⟩
    · obtain ⟨o,rfl,ho⟩ := v.bounds k ip hp
      exact ⟨o,rfl,by omega⟩
    · have := v.cursor
      exact ⟨m.nextHostOffset,rfl,by omega⟩
  · rw [next,hl]
    have := v.cursor
    omega
  · -- the new address is the old cursor, and everybody else holds one above it
    have fresh : ∀ k : Nat, m.peers[k]? ≠ some (m.subnet + m.nextHostOffset) := by
      intro k h
      obtain ⟨o,ho,hlt,_⟩ := v.bounds k _ h
      omega
    intro k k' ip h h'
    rcases connect_peers h with g | ⟨_,_,hk,rfl⟩ <;>
      rcases connect_peers h' with g' | ⟨_,_,hk',hip⟩
    · exact v.owner k k' ip g g'
    · exact (fresh k (hip ▸ g)).elim
    · exact (fresh k' g').elim
    · exact hk.trans hk'.symm

theorem Valid.disconnect (v : m.Valid) (pk : Nat) : (m.disconnect pk).2.Valid := by
  obtain ⟨hn,hs,hl⟩ := m.disconnect_rest pk
  refine ⟨?_,by rw [hn,hl]; exact v.cursor,?_⟩
  · intro k ip h
    rw [hn,hs,hl]
    exact v.bounds k ip (disconnect_peers h)
  · exact fun k k' ip h h' => v.owner k k' ip (disconnect_peers h) (disconnect_peers h')

end WireGuardPeerManager

/-- The address state of one namespace: `Namespace::new` builds both managers over the same
subnet and reserves ten addresses at its top. -/
structure AddressPool where
  ipAllocator : NamespaceIpAllocator
  wgPeers : WireGuardPeerManager

namespace AddressPool

def new (subnet prefixLen : Nat) : AddressPool :=
  ⟨.new subnet prefixLen 10,.new subnet prefixLen⟩

inductive Op where
  | allocate (key : IpResourceKey) (explicitIp : Option Nat)
  | release (key : IpResourceKey)
  | connect (clientPublicKey : Nat)
  | disconnect (clientPublicKey : Nat)

def step (s : AddressPool) : Op → AddressPool
  | .allocate key explicitIp =>
    match s.ipAllocator.allocate key explicitIp with
    | .ok (_,a) => { s with ipAllocator := a }
    | .error _ => s
  | .release key => { s with ipAllocator := s.ipAllocator.release key }
  | .connect pk => { s with wgPeers := (s.wgPeers.connect pk).2 }
  | .disconnect pk => { s with wgPeers := (s.wgPeers.disconnect pk).2 }

def run (s : AddressPool) (ops : List Op) : AddressPool := ops.foldl step s

inductive Holder where
  | resource (key : IpResourceKey)
  | peer (clientPublicKey : Nat)
deriving DecidableEq

def held (s : AddressPool) : Holder → Option Nat
  | .resource key => s.ipAllocator.held key
  | .peer pk => s.wgPeers.peers[pk]?

/-- Held addresses are pairwise distinct hosts of the subnet, none of them reserved. -/
structure Exclusive (s : AddressPool) (subnet prefixLen : Nat) : Prop where
  distinct : ∀ h h' ip, s.held h = some ip → s.held h' = some ip → h = h'
  inside : ∀ h ip, s.held h = some ip → subnet ≤ ip ∧ ip < subnet + 2 ^ (32 - prefixLen)
  unreserved : ∀ h ip, s.held h = some ip →
    ip ≠ subnet ∧ ip ≠ subnet + 1 ∧ ip ≠ subnet + 2 ^ (32 - prefixLen) - 1

/-- A client that is not connected yet is only connected while the manager's next address
lies above the manual zone (or the manager refuses it anyway). -/
def ClearOfZones (s : AddressPool) : Op → Prop
  | .connect pk => s.wgPeers.peers[pk]?.isSome ∨ s.wgPeers.nextHostOffset < 2 ∨
      s.ipAllocator.manualZoneEnd + 2 ≤ s.wgPeers.nextHostOffset
  | _ => True

/-- The pools that runs from `new` reach when every step meets `ClearOfZones`. -/
inductive ReachableClear (subnet prefixLen : Nat) : AddressPool → Prop
  | start : ReachableClear subnet prefixLen (new subnet prefixLen)
  | step : ReachableClear subnet prefixLen s → s.ClearOfZones op →
      ReachableClear subnet prefixLen (s.step op)

/-- The invariant of such runs: both managers keep their own invariants over one subnet and
every peer sits above the manual zone. -/
structure Separate (subnet prefixLen : Nat) (s : AddressPool) : Prop where
  allocator : s.ipAllocator.Valid
  manager : s.wgPeers.Valid
  base : s.ipAllocator.subnetBase = subnet
  zoneEnd : s.ipAllocator.manualZoneEnd = 2 ^ (32 - prefixLen) - 2 - 10
  peerBase : s.wgPeers.subnet = subnet ∧ s.wgPeers.prefixLen = prefixLen
  above : ∀ (k : Nat) ip, s.wgPeers.peers[k]? = some ip →
    subnet + s.ipAllocator.manualZoneEnd + 2 ≤ ip

variable {s : AddressPool} {subnet prefixLen : Nat}

theorem separate_new (hp : 1 ≤ prefixLen) : Separate subnet prefixLen (new subnet prefixLen) where
  allocator := NamespaceIpAllocator.valid_new _ _ _
  manager := WireGuardPeerManager.valid_new _ _
  base := rfl
  zoneEnd := by simp [new,NamespaceIpAllocator.new,show prefixLen ≠ 0 by omega]
  peerBase := ⟨rfl,rfl⟩
  above := by simp [new,WireGuardPeerManager.new]

theorem Separate.allocate (h : Separate subnet prefixLen s) (key : IpResourceKey)
    (explicitIp : Option Nat) : Separate subnet prefixLen (s.step (.allocate key explicitIp)) := by
  simp only [step]
  split
  · rename_i r a ha
    obtain ⟨hb,he⟩ := h.allocator.allocate_rest ha
    exact ⟨h.allocator.allocate ha,h.manager,hb.trans h.base,he.trans h.zoneEnd,h.peerBase,
      fun k ip hk => he ▸ h.above k ip hk⟩
  · exact h

theorem Separate.release (h : Separate subnet prefixLen s) (key : IpResourceKey) :
    Separate subnet prefixLen (s.step (.release key)) := by
  obtain ⟨hb,he⟩ := s.ipAllocator.release_rest key
  exact ⟨h.allocator.release key,h.manager,hb.trans h.base,he.trans h.zoneEnd,h.peerBase,
    fun k ip hk => by simpa only [step,he] using h.above k ip hk⟩

theorem Separate.connect (h : Separate subnet prefixLen s)
    (clear : s.ClearOfZones (.connect pk)) : Separate subnet prefixLen (s.step (.connect pk)) := by
  obtain ⟨_,hs,hl⟩ := s.wgPeers.connect_rest pk
  refine ⟨h.allocator,h.manager.connect pk,h.base,h.zoneEnd,
    ⟨hs.trans h.peerBase.1,hl.trans h.peerBase.2⟩,?_⟩
  intro k ip hk
  rcases WireGuardPeerManager.connect_peers hk with hk | ⟨hnew,hn,_,rfl⟩
  · exact h.above k ip hk
  · rcases clear with hc | hc | hc
    · simp [hnew] at hc
    · omega
    · have := h.peerBase.1
      simp only [step]
      omega

theorem Separate.disconnect (h : Separate subnet prefixLen s) (pk : Nat) :
    Separate subnet prefixLen (s.step (.disconnect pk)) := by
  obtain ⟨_,hs,hl⟩ := s.wgPeers.disconnect_rest pk
  exact ⟨h.allocator,h.manager.disconnect pk,h.base,h.zoneEnd,
    ⟨hs.trans h.peerBase.1,hl.trans h.peerBase.2⟩,
    fun k ip hk => h.above k ip (WireGuardPeerManager.disconnect_peers hk)⟩

theorem ReachableClear.separate (hp : 1 ≤ prefixLen) (h : ReachableClear subnet prefixLen s) :
    Separate subnet prefixLen s := by
  induction h with
  | start => exact separate_new hp
  | @step s op _ clear ih =>
    cases op with
    | allocate key explicitIp => exact ih.allocate key explicitIp
    | release key => exact ih.release key
    | connect pk => exact ih.connect clear
    | disconnect pk => exact ih.disconnect pk

theorem Separate.resource (h : Separate subnet prefixLen s) (hk : s.held (.resource key) = some ip) :
    ∃ o kind, s.ipAllocator.allocations[key]? = some (o,kind) ∧ ip = subnet + 2 + o ∧
      o < s.ipAllocator.manualZoneEnd := by
  simp only [held,NamespaceIpAllocator.held,Option.map_eq_some_iff] at hk
  obtain ⟨⟨o,kind⟩,ha,rfl⟩ := hk
  refine ⟨o,kind,ha,?_,h.allocator.owner_lt ha⟩
  rw [NamespaceIpAllocator.offsetToIp,h.allocator.firstHost,h.base]

theorem Separate.peer (h : Separate subnet prefixLen s) (hk : s.held (.peer pk) = some ip) :
    subnet + s.ipAllocator.manualZoneEnd + 2 ≤ ip ∧ subnet + 2 ≤ ip ∧
      ip ≤ subnet + 2 ^ (32 - prefixLen) - 2 := by
  obtain ⟨o,rfl,_,h2,ho⟩ := h.manager.bounds pk ip hk
  have := h.above pk _ hk
  rw [h.peerBase.1] at this ⊢
  rw [h.peerBase.2] at ho
  omega

/-- Resources sit below the manual zone's end, peers above it and below the broadcast address. -/
theorem Separate.exclusive (h : Separate subnet prefixLen s) : s.Exclusive subnet prefixLen := by
  have zone := h.zoneEnd
  have range : ∀ x ip, s.held x = some ip →
      subnet + 2 ≤ ip ∧ ip + 2 ≤ subnet + 2 ^ (32 - prefixLen) := by
    intro x ip hx
    cases x with
    | resource key =>
      obtain ⟨o,_,_,rfl,ho⟩ := h.resource hx
      omega
    | peer pk =>
      have := h.peer hx
      omega
  refine ⟨?_,fun x ip hx => by have := range x ip hx; omega,
    fun x ip hx => by have := range x ip hx; omega⟩
  intro x x' ip hx hx'
  cases x with
  | resource key =>
    obtain ⟨o,kind,ha,rfl,ho⟩ := h.resource hx
    cases x' with
    | resource key' =>
      obtain ⟨o',kind',ha',he,_⟩ := h.resource hx'
      have : o' = o := by omega
      subst this
      rw [h.allocator.owner key key' o' kind kind' ha ha']
    | peer pk =>
      have := (h.peer hx').1
      omega
  | peer pk =>
    cases x' with
    | resource key =>
      obtain ⟨o,_,_,rfl,ho⟩ := h.resource hx'
      have := (h.peer hx).1
      omega
    | peer pk' => rw [h.manager.owner pk pk' ip hx hx']

theorem addresses_exclusive (hp : 1 ≤ prefixLen ∧ prefixLen ≤ 30)
    (h : ReachableClear subnet prefixLen s) : s.Exclusive subnet prefixLen :=
  (h.separate hp.1).exclusive

/-- One workload and one peer in a `/24`, both far from the border of the zones. -/
theorem addresses_exclusive_run : ReachableClear 0xac100000 24
    (((new 0xac100000 24).step (.allocate (.workload "web") none)).step (.connect 7)) ∧
    Exclusive (((new 0xac100000 24).step (.allocate (.workload "web") none)).step (.connect 7))
      0xac100000 24 := by
  have h : ReachableClear 0xac100000 24
      (((new 0xac100000 24).step (.allocate (.workload "web") none)).step (.connect 7)) :=
    .step (.step .start trivial) (.inr (.inr (by decide +kernel)))
  exact ⟨h,addresses_exclusive (by decide) h⟩

/-- The tenth peer of a `/24` gets the last address of the manual zone, since the reserve
counts the broadcast address. In a `/15` the first peer is already inside that zone, since
the cursor is cut to sixteen bits. -/
theorem addresses_shared :
    (let s := (new 0xac100000 24).run
      (.allocate (.workload "web") (some 0xac1000f5) :: (List.range 10).map .connect)
    s.held (.resource (.workload "web")) = some 0xac1000f5 ∧
      s.held (.peer 9) = some 0xac1000f5) ∧
    (let s := (new 0xac100000 15).run
      [.allocate (.workload "web") (some 0xac10fffe),.connect 0]
    s.held (.resource (.workload "web")) = some 0xac10fffe ∧
      s.held (.peer 0) = some 0xac10fffe) := by
  decide +kernel

end AddressPool

end Distvirt
