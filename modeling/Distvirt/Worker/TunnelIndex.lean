import Distvirt.Worker.Tunnel

/-! The reverse index of the tunnel transport, by which the receive loop tells whose datagram it
has. -/

namespace Distvirt.Worker.Tunnel

inductive PeerCall
  | addPeer (worker : WorkerId) (endpoint : SocketAddr) (publicKey : Option Nat)
  | removePeer (worker : WorkerId)

/-- `add_peer`. A peer without a key gets no session, also when encryption is enabled. -/
def Transport.register (t : Transport) (worker : WorkerId) (endpoint : SocketAddr) :
    Option Nat → Option Transport
  | some publicKey => t.addPeer worker endpoint publicKey
  | none => some { t with
      addrToWorker := t.addrToWorker.insert endpoint worker
      peers := t.peers.insert worker ⟨endpoint,none⟩ }

/-- With encryption, a key has to be one that a session can be built for. -/
def Transport.KeyFits (t : Transport) (publicKey : Option Nat) : Prop :=
  t.encrypted = true → ∀ key, publicKey = some key → t.accepts key = true

/-- The transport together with the worker that was registered last at each address. -/
structure Registry where
  transport : Transport
  last : SocketAddr → Option WorkerId

namespace Registry

def new (encrypted : Bool) (accepts : Nat → Bool) : Registry :=
  ⟨(Manager.new encrypted accepts).transport,fun _ => none⟩

def call (s : Registry) : PeerCall → Registry
  | .addPeer worker endpoint publicKey =>
    match s.transport.register worker endpoint publicKey with
    | some t => ⟨t,fun addr => if addr = endpoint then some worker else s.last addr⟩
    | none => s
  | .removePeer worker => ⟨s.transport.removePeer worker,s.last⟩

/-- Whom the receive loop takes a datagram to be from. -/
def attributed (s : Registry) (src : SocketAddr) : Option WorkerId :=
  s.transport.addrToWorker.lookup src

def endpoint (s : Registry) (worker : WorkerId) : Option SocketAddr :=
  (s.transport.peers.lookup worker).map TransportPeer.endpoint

structure Mirrors (s : Registry) : Prop where
  index : ∀ addr w, s.attributed addr = some w ↔ s.endpoint w = some addr ∧ s.last addr = some w
  live : ∀ addr w, s.endpoint w = some addr → s.last addr = some w → s.attributed addr = some w
  withdrawn : ∀ addr, (∀ w, s.endpoint w ≠ some addr) → s.attributed addr = none

variable {s : Registry} {worker w : WorkerId} {addr : SocketAddr} {t : Transport}
  {publicKey : Option Nat}

theorem mirrors_of_index
    (h : ∀ addr w, s.attributed addr = some w ↔ s.endpoint w = some addr ∧ s.last addr = some w) :
    s.Mirrors where
  index := h
  live := fun addr w he hl => (h addr w).mpr ⟨he,hl⟩
  withdrawn := by
    intro addr hnone
    cases hat : s.attributed addr with
    | none => rfl
    | some w => exact absurd ((h addr w).mp hat).1 (hnone w)

/-- The call leaves no second address indexed to the worker it adds, and takes away no address that
is indexed to another worker than the one it removes. -/
def Orderly (s : Registry) : PeerCall → Prop
  | .addPeer worker endpoint publicKey =>
    s.transport.KeyFits publicKey → ∀ addr, s.attributed addr = some worker → addr = endpoint
  | .removePeer worker =>
    ∀ addr, s.endpoint worker = some addr → ∀ w, s.attributed addr = some w → w = worker

theorem register_eq_none (s : Registry) (worker : WorkerId) (addr : SocketAddr)
    (publicKey : Option Nat) :
    s.transport.register worker addr publicKey = none ↔ ¬s.transport.KeyFits publicKey := by
  unfold Transport.register Transport.KeyFits
  cases publicKey with
  | none => simp
  | some key => simp [Transport.addPeer]

theorem register_tables (h : s.transport.register worker addr publicKey = some t) :
    t.addrToWorker = s.transport.addrToWorker.insert addr worker ∧
      ∃ noise, t.peers = s.transport.peers.insert worker ⟨addr,noise⟩ := by
  cases publicKey with
  | none =>
    cases h
    exact ⟨rfl,_,rfl⟩
  | some key =>
    simp only [Transport.register,Transport.addPeer] at h
    split at h
    · cases h
    · cases h
      exact ⟨rfl,_,rfl⟩

theorem Mirrors.added {s' : Registry} (h : s.Mirrors)
    (hat : ∀ a, s'.attributed a = if a = addr then some worker else s.attributed a)
    (hend : ∀ w, s'.endpoint w = if w = worker then some addr else s.endpoint w)
    (hlast : ∀ a, s'.last a = if a = addr then some worker else s.last a) :
    s'.Mirrors ↔ ∀ a, s.attributed a = some worker → a = addr := by
  constructor
  · intro hm a ha
    by_contra hne
    have hkept : s'.attributed a = some worker := by rw [hat,if_neg hne,ha]
    have hnow := ((hm.index a worker).mp hkept).1
    rw [hend,if_pos rfl] at hnow
    exact hne (Option.some.inj hnow).symm
  · intro ho
    apply mirrors_of_index
    intro a w
    rw [hat,hend,hlast]
    by_cases ha : a = addr
    · subst a
      by_cases hw : w = worker
      · simp [hw]
      · simp [hw,Ne.symm hw]
    · simp only [if_neg ha]
      by_cases hw : w = worker
      · subst w
        have hgone : s.attributed a ≠ some worker := fun hk => ha (ho a hk)
        simp [hgone,Ne.symm ha]
      · simp only [if_neg hw,h.index a w]

theorem Mirrors.removed {s' : Registry} (h : s.Mirrors) (hown : s.endpoint worker = some addr)
    (hat : ∀ a, s'.attributed a = if a = addr then none else s.attributed a)
    (hend : ∀ w, s'.endpoint w = if w = worker then none else s.endpoint w)
    (hlast : s'.last = s.last) :
    s'.Mirrors ↔ ∀ w, s.attributed addr = some w → w = worker := by
  constructor
  · intro hm w hw
    by_contra hne
    have hboth := (h.index addr w).mp hw
    have hnow := (hm.index addr w).mpr ⟨by rw [hend,if_neg hne,hboth.1],by rw [hlast,hboth.2]⟩
    rw [hat,if_pos rfl] at hnow
    cases hnow
  · intro ho
    apply mirrors_of_index
    intro a w
    rw [hat,hend,hlast]
    by_cases hw : w = worker
    · subst w
      have hgone : a ≠ addr → s.attributed a ≠ some worker := fun ha hk =>
        ha (Option.some.inj (((h.index a worker).mp hk).1.symm.trans hown))
      by_cases ha : a = addr
      · simp [ha]
      · simp [ha,hgone ha]
    · by_cases ha : a = addr
      · subst a
        have hother : s.attributed addr ≠ some w := fun hk => hw (ho w hk)
        simpa [hw,h.index] using hother
      · simp only [if_neg ha,if_neg hw,h.index a w]

theorem Mirrors.addPeer (h : s.Mirrors) (worker : WorkerId) (addr : SocketAddr)
    (publicKey : Option Nat) : (s.call (.addPeer worker addr publicKey)).Mirrors ↔
      s.Orderly (.addPeer worker addr publicKey) := by
  have hfits := s.register_eq_none worker addr publicKey
  simp only [call,Orderly]
  cases hreg : s.transport.register worker addr publicKey with
  | none => exact iff_of_true h (fun hkey => absurd hkey (hfits.mp hreg))
  | some t =>
    have hkey : s.transport.KeyFits publicKey := by
      by_contra hkey
      cases hreg.symm.trans (hfits.mpr hkey)
    obtain ⟨hindex,noise,hpeers⟩ := register_tables hreg
    refine Iff.trans (h.added ?_ ?_ ?_ : _ ↔ ∀ a, s.attributed a = some worker → a = addr) ?_
    · intro a
      simp only [attributed,hindex,AList.lookup_insert_if]
    · intro w
      simp only [endpoint,hpeers,AList.lookup_insert_if]
      split <;> rfl
    · exact fun _ => rfl
    · exact ⟨fun halone _ => halone,fun halone => halone hkey⟩

theorem Mirrors.removePeer (h : s.Mirrors) (worker : WorkerId) :
    (s.call (.removePeer worker)).Mirrors ↔ s.Orderly (.removePeer worker) := by
  simp only [call,Orderly,Transport.removePeer]
  cases hp : s.transport.peers.lookup worker with
  | none =>
    have hnone : s.endpoint worker = none := by simp [endpoint,hp]
    exact iff_of_true h (fun addr he => by simp [hnone] at he)
  | some peer =>
    have hown : s.endpoint worker = some peer.endpoint := by simp [endpoint,hp]
    rw [h.removed hown]
    · simp [hown]
    · exact fun a => AList.lookup_erase_if
    · intro w
      simp only [endpoint,AList.lookup_erase_if]
      split <;> rfl
    · rfl

theorem new_mirrors (encrypted : Bool) (accepts : Nat → Bool) : (new encrypted accepts).Mirrors :=
  mirrors_of_index (fun addr w => by simp [new,Manager.new,attributed,endpoint])

/-- The index mirrors the peers all along exactly the orderly sequences of calls. -/
theorem index_mirrors_iff (encrypted : Bool) (accepts : Nat → Bool) (calls : List PeerCall) :
    (∀ n, ((calls.take n).foldl call (new encrypted accepts)).Mirrors) ↔
      Runs.Along (fun s c => some (s.call c)) Orderly (new encrypted accepts) calls := by
  refine Runs.along_iff ?_ (new_mirrors encrypted accepts) calls
  intro s c h
  cases c with
  | addPeer worker endpoint publicKey => exact h.addPeer worker endpoint publicKey
  | removePeer worker => exact h.removePeer worker

/-- A worker that comes back with a new endpoint keeps the old address, and the removal of a worker
takes the address from the one that has it now. -/
theorem index_goes_astray :
    let here : SocketAddr := ⟨1,1⟩
    let there : SocketAddr := ⟨2,1⟩
    let moved := [PeerCall.addPeer 1 here none,.addPeer 1 there none].foldl call
      (new false fun _ => true)
    let shared := [PeerCall.addPeer 1 here none,.addPeer 2 here none,.removePeer 1].foldl call
      (new false fun _ => true)
    (moved.attributed here = some 1 ∧ moved.endpoint 1 = some there) ∧
      (shared.endpoint 2 = some here ∧ shared.last here = some 2 ∧
        shared.attributed here = none) := by
  decide

end Registry
end Distvirt.Worker.Tunnel
