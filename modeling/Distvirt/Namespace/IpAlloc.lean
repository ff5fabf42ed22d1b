import Mathlib.Algebra.Ring.Nat
import Mathlib.Data.Finset.Basic
import Mathlib.Data.Prod.Lex
import Mathlib.Data.String.Basic
import Std.Data.ExtTreeMap

/-! The per-namespace IP allocator. The subnet is split into an auto zone at the
bottom, a manual zone above it and a zone at the top that is left to the
WireGuard peers. Offsets count from the first usable host, `subnetBase + 2`.
An IPv4 address is its 32-bit value as a `Nat`: every address computed from an
aligned subnet stays below `2 ^ 32`, so no sum wraps. -/

namespace Distvirt

open Std (ExtTreeMap)
open List

/-- Workloads and services have separate names: the key says which of the two it is. -/
inductive IpResourceKey where
  | workload (name : String)
  | service (name : String)
deriving DecidableEq, Repr

namespace IpResourceKey

def rank : IpResourceKey → Bool ×ₗ String
  | .workload name => toLex (false,name)
  | .service name => toLex (true,name)

theorem rank_injective : Function.Injective rank := by
  intro a b h
  cases a <;> cases b <;> simp_all [rank]

instance : LinearOrder IpResourceKey := LinearOrder.lift' rank rank_injective

instance : Std.LawfulEqCmp (compare : IpResourceKey → IpResourceKey → Ordering) :=
  ⟨compare_eq_iff_eq.mp⟩

instance : Std.TransCmp (compare : IpResourceKey → IpResourceKey → Ordering) := inferInstance

end IpResourceKey

inductive IpAllocKind where
  | auto
  | manual
deriving DecidableEq, Repr

structure IpAllocation where
  ip : Nat
  kind : IpAllocKind
deriving DecidableEq, Repr

inductive IpAllocError where
  | autoZoneExhausted
  | manualZoneExhausted
  | ipOutsideManualZone (ip : Nat)
  | manualIpCollision (ip : Nat) (existingKey : IpResourceKey)
  | kindMigration (key : IpResourceKey) (existing requested : IpAllocKind)
deriving DecidableEq, Repr

structure NamespaceIpAllocator where
  subnetBase : Nat
  firstHost : Nat
  autoZoneSize : Nat
  manualZoneStart : Nat
  /-- Exclusive. -/
  manualZoneEnd : Nat
  allocations : ExtTreeMap IpResourceKey (Nat × IpAllocKind)
  occupiedOffsets : Finset Nat
  nextAutoOffset : Nat
  autoFreeList : List Nat

namespace NamespaceIpAllocator

def new (subnet : Nat) (prefixLen wgReserve : Nat) : NamespaceIpAllocator :=
  -- `1u32.checked_shl(32)` is `None`
  let totalAddrs := if prefixLen = 0 then 0 else 2 ^ (32 - prefixLen)
  let usable := totalAddrs - 2
  let nonWg := usable - wgReserve
  { subnetBase := subnet, firstHost := subnet + 2, autoZoneSize := nonWg / 2,
    manualZoneStart := nonWg / 2, manualZoneEnd := nonWg, allocations := ∅,
    occupiedOffsets := ∅, nextAutoOffset := 0, autoFreeList := [] }

def offsetToIp (a : NamespaceIpAllocator) (offset : Nat) : Nat := a.firstHost + offset

def ipToOffset (a : NamespaceIpAllocator) (ip : Nat) : Option Nat :=
  if a.firstHost ≤ ip then some (ip - a.firstHost) else none

def requestedKind : Option Nat → IpAllocKind
  | some _ => .manual
  | none => .auto

/-- The free list is a stack: the address released last is handed out first. -/
def allocateAuto (a : NamespaceIpAllocator) (key : IpResourceKey) :
    Except IpAllocError (IpAllocation × NamespaceIpAllocator) :=
  match a.autoFreeList.getLast? with
  | some offset =>
    .ok (⟨a.offsetToIp offset,.auto⟩,
      { a with
        autoFreeList := a.autoFreeList.dropLast
        occupiedOffsets := insert offset a.occupiedOffsets
        allocations := a.allocations.insert key (offset,.auto) })
  | none =>
    if a.autoZoneSize ≤ a.nextAutoOffset then .error .autoZoneExhausted
    else
      match (List.range' a.nextAutoOffset (a.autoZoneSize - a.nextAutoOffset)).find?
          (fun candidate => candidate ∉ a.occupiedOffsets) with
      | some candidate =>
        .ok (⟨a.offsetToIp candidate,.auto⟩,
          { a with
            nextAutoOffset := candidate + 1
            occupiedOffsets := insert candidate a.occupiedOffsets
            allocations := a.allocations.insert key (candidate,.auto) })
      | none => .error .autoZoneExhausted

def allocateManual (a : NamespaceIpAllocator) (key : IpResourceKey) (ip : Nat) :
    Except IpAllocError (IpAllocation × NamespaceIpAllocator) :=
  match a.ipToOffset ip with
  | none => .error (.ipOutsideManualZone ip)
  | some offset =>
    if offset < a.manualZoneStart ∨ a.manualZoneEnd ≤ offset then
      .error (.ipOutsideManualZone ip)
    else if offset ∈ a.occupiedOffsets then
      let existing := (a.allocations.toList.find? (fun e => e.2.1 == offset)).map (·.1)
      .error (.manualIpCollision ip (existing.getD key))
    else
      .ok (⟨ip,.manual⟩,
        { a with
          occupiedOffsets := insert offset a.occupiedOffsets
          allocations := a.allocations.insert key (offset,.manual) })

/-- A key that already has an address keeps it, whatever explicit address is asked for;
only a change of kind is refused. -/
def allocate (a : NamespaceIpAllocator) (key : IpResourceKey) (explicitIp : Option Nat) :
    Except IpAllocError (IpAllocation × NamespaceIpAllocator) :=
  match a.allocations[key]? with
  | some (offset,existing) =>
    if existing ≠ requestedKind explicitIp then
      .error (.kindMigration key existing (requestedKind explicitIp))
    else .ok (⟨a.offsetToIp offset,existing⟩,a)
  | none =>
    match explicitIp with
    | none => a.allocateAuto key
    | some ip => a.allocateManual key ip

def release (a : NamespaceIpAllocator) (key : IpResourceKey) : NamespaceIpAllocator :=
  match a.allocations[key]? with
  | none => a
  | some (offset,kind) =>
    { a with
      allocations := a.allocations.erase key
      occupiedOffsets := a.occupiedOffsets.erase offset
      autoFreeList := if kind = .auto then a.autoFreeList ++ [offset] else a.autoFreeList }

/-- The address a resource holds. -/
def held (a : NamespaceIpAllocator) (key : IpResourceKey) : Option Nat :=
  a.allocations[key]?.map (fun (offset,_) => a.offsetToIp offset)

variable {a a' : NamespaceIpAllocator} {key : IpResourceKey} {offset o : Nat} {kind : IpAllocKind}

/-- What every allocator built by `new` and changed by `allocate` and `release` keeps: each
occupied offset has one owner of the kind of its zone, and the offsets below the cursor are
either occupied or free, never both. -/
structure Valid (a : NamespaceIpAllocator) : Prop where
  firstHost : a.firstHost = a.subnetBase + 2
  manualStart : a.manualZoneStart = a.autoZoneSize
  zones : a.autoZoneSize ≤ a.manualZoneEnd
  occupied : ∀ o, o ∈ a.occupiedOffsets ↔ ∃ (key : IpResourceKey) (kind : IpAllocKind),
    a.allocations[key]? = some (o,kind)
  owner : ∀ (key key' : IpResourceKey) o kind kind', a.allocations[key]? = some (o,kind) →
    a.allocations[key']? = some (o,kind') → key = key'
  auto : ∀ (key : IpResourceKey) o, a.allocations[key]? = some (o,.auto) → o < a.nextAutoOffset
  manual : ∀ (key : IpResourceKey) o, a.allocations[key]? = some (o,.manual) →
    a.manualZoneStart ≤ o ∧ o < a.manualZoneEnd
  cursor : a.nextAutoOffset ≤ a.autoZoneSize
  freeNodup : a.autoFreeList.Nodup
  free : ∀ o ∈ a.autoFreeList, o < a.nextAutoOffset ∧ o ∉ a.occupiedOffsets
  covered : ∀ o < a.nextAutoOffset, o ∈ a.occupiedOffsets ∨ o ∈ a.autoFreeList

theorem valid_new (subnet prefixLen wgReserve) : (new subnet prefixLen wgReserve).Valid where
  firstHost := rfl
  manualStart := rfl
  zones := Nat.div_le_self _ 2
  occupied := by simp [new]
  owner := by simp [new]
  auto := by simp [new]
  manual := by simp [new]
  cursor := Nat.zero_le _
  freeNodup := nodup_nil
  free := by simp [new]
  covered := by simp [new]

/-- Reserves an offset nobody holds, leaving the cursor and the free list alone. -/
def occupy (a : NamespaceIpAllocator) (key : IpResourceKey) (offset : Nat) (kind : IpAllocKind) :
    NamespaceIpAllocator :=
  { a with
    occupiedOffsets := insert offset a.occupiedOffsets
    allocations := a.allocations.insert key (offset,kind) }

theorem getElem?_occupy : (occupy a key offset kind).allocations[k]? =
    if key = k then some (offset,kind) else a.allocations[k]? := by
  simp [occupy,ExtTreeMap.getElem?_insert]

theorem occupy_cases (h : (occupy a key offset kind).allocations[k]? = some (o,d)) :
    (key = k ∧ offset = o ∧ kind = d) ∨ a.allocations[k]? = some (o,d) := by
  rw [getElem?_occupy] at h
  split at h
  · cases h
    exact .inl ⟨‹_›,rfl,rfl⟩
  · exact .inr h

theorem getElem?_release : (release a key).allocations[k]? =
    if key = k then none else a.allocations[k]? := by
  unfold release
  cases hk : a.allocations[key]? with
  | none =>
    by_cases h : key = k
    · simp [← h,hk]
    · simp [h]
  | some e => simp [ExtTreeMap.getElem?_erase]

theorem Valid.owner_lt (v : a.Valid) (h : a.allocations[key]? = some (o,kind)) :
    o < a.manualZoneEnd := by
  cases kind with
  | auto => exact Nat.lt_of_lt_of_le (v.auto key o h) (Nat.le_trans v.cursor v.zones)
  | manual => exact (v.manual key o h).2

/-- The scan from the cursor stops at once: no offset above it is taken in the auto zone. -/
theorem Valid.next_free (v : a.Valid) (h : a.nextAutoOffset < a.autoZoneSize) :
    a.nextAutoOffset ∉ a.occupiedOffsets := by
  intro ho
  obtain ⟨key,kind,hk⟩ := (v.occupied _).mp ho
  cases kind with
  | auto => exact Nat.lt_irrefl _ (v.auto key _ hk)
  | manual =>
    have hs := (v.manual key _ hk).1
    have := v.manualStart
    omega

def inManualZone (a : NamespaceIpAllocator) (ip : Nat) : Prop :=
  a.firstHost + a.manualZoneStart ≤ ip ∧ ip < a.firstHost + a.manualZoneEnd

instance (a : NamespaceIpAllocator) (ip : Nat) : Decidable (a.inManualZone ip) :=
  inferInstanceAs (Decidable (_ ∧ _))

/-- What an allocation can come to: the key has its address already, or an auto address is popped
or taken at the cursor, or the asked manual address is taken, and the reasons for a refusal. -/
inductive Allocated (a : NamespaceIpAllocator) (key : IpResourceKey) :
    Option Nat → Except IpAllocError (IpAllocation × NamespaceIpAllocator) → Prop
  | known (h : a.allocations[key]? = some (n,requestedKind ip)) :
    Allocated a key ip (.ok (⟨a.offsetToIp n,requestedKind ip⟩,a))
  | migrates (h : a.allocations[key]? = some (n,d)) (hd : d ≠ requestedKind ip) :
    Allocated a key ip (.error e)
  | popped (fresh : a.allocations[key]? = none) (hf : a.autoFreeList = rest ++ [n]) :
    Allocated a key none
      (.ok (⟨a.offsetToIp n,.auto⟩,{ a.occupy key n .auto with autoFreeList := rest }))
  | advanced (fresh : a.allocations[key]? = none) (hf : a.autoFreeList = [])
      (hlt : a.nextAutoOffset < a.autoZoneSize) :
    Allocated a key none (.ok (⟨a.offsetToIp a.nextAutoOffset,.auto⟩,
      { a.occupy key a.nextAutoOffset .auto with nextAutoOffset := a.nextAutoOffset + 1 }))
  | exhausted (fresh : a.allocations[key]? = none) (hf : a.autoFreeList = [])
      (hle : a.autoZoneSize ≤ a.nextAutoOffset) : Allocated a key none (.error e)
  | manual (fresh : a.allocations[key]? = none) (hs : a.manualZoneStart ≤ n)
      (he : n < a.manualZoneEnd) (hu : n ∉ a.occupiedOffsets) :
    Allocated a key (some (a.offsetToIp n)) (.ok (⟨a.offsetToIp n,.manual⟩,a.occupy key n .manual))
  | outside (fresh : a.allocations[key]? = none) (hz : ¬ a.inManualZone i) :
    Allocated a key (some i) (.error e)
  | taken {k : IpResourceKey} (fresh : a.allocations[key]? = none)
      (h : a.allocations[k]? = some (n,d)) :
    Allocated a key (some (a.offsetToIp n)) (.error e)

theorem Valid.allocated (v : a.Valid) (key : IpResourceKey) (ip : Option Nat) :
    a.Allocated key ip (a.allocate key ip) := by
  unfold allocate
  cases hk : a.allocations[key]? with
  | some e =>
    obtain ⟨o,kind⟩ := e
    simp only
    split
    · exact .migrates hk ‹_›
    · rename_i hkind
      simp only [ne_eq,not_not] at hkind
      subst hkind
      exact .known hk
  | none =>
    cases ip with
    | none =>
      simp only [allocateAuto]
      cases hf : a.autoFreeList.getLast? with
      | some o => exact .popped hk (dropLast_append_getLast? o hf).symm
      | none =>
        have hf := getLast?_eq_none_iff.mp hf
        simp only
        split
        · exact .exhausted hk hf ‹_›
        · have hlt : a.nextAutoOffset < a.autoZoneSize := by omega
          obtain ⟨n,hn⟩ : ∃ n, a.autoZoneSize - a.nextAutoOffset = n + 1 :=
            ⟨a.autoZoneSize - a.nextAutoOffset - 1,by omega⟩
          simp only [hn,range'_succ,find?_cons,v.next_free hlt,not_false_eq_true,decide_true]
          exact .advanced hk hf hlt
    | some ip =>
      simp only [allocateManual,ipToOffset]
      by_cases hip : a.firstHost ≤ ip
      · obtain ⟨o,rfl⟩ := Nat.exists_eq_add_of_le hip
        simp only [hip,↓reduceIte,Nat.add_sub_cancel_left]
        split
        · exact .outside hk (by unfold inManualZone; omega)
        · split
          · obtain ⟨k,d,h⟩ := (v.occupied _).mp ‹_›
            exact .taken hk h
          · exact .manual hk (by omega) (by omega) ‹_›
      · simp only [hip,↓reduceIte]
        exact .outside hk (fun hz => hip (Nat.le_trans (Nat.le_add_right _ _) hz.1))

theorem Valid.occupied_occupy (v : a.Valid) (fresh : a.allocations[key]? = none) (o : Nat) :
    o ∈ (a.occupy key offset kind).occupiedOffsets ↔
      ∃ (k : IpResourceKey) (d : IpAllocKind),
        (a.occupy key offset kind).allocations[k]? = some (o,d) := by
  simp only [getElem?_occupy]
  constructor
  · intro ho
    rcases Finset.mem_insert.mp ho with rfl | ho
    · exact ⟨key,kind,by simp⟩
    · obtain ⟨k,d,hk⟩ := (v.occupied o).mp ho
      have hne : key ≠ k := by rintro rfl; simp [fresh] at hk
      exact ⟨k,d,by simp [hne,hk]⟩
  · rintro ⟨k,d,hk⟩
    refine Finset.mem_insert.mpr ?_
    split at hk
    · cases hk
      exact .inl rfl
    · exact .inr ((v.occupied o).mpr ⟨k,d,hk⟩)

/-- A reserved offset is nobody else's and in the zone of its kind; the cursor may move past it and
the free list lose it. -/
theorem Valid.reserve (v : a.Valid) (fresh : a.allocations[key]? = none)
    (unused : offset ∉ a.occupiedOffsets) (hauto : kind = .auto → offset < upto)
    (hmanual : kind = .manual → a.manualZoneStart ≤ offset ∧ offset < a.manualZoneEnd)
    (hn : a.nextAutoOffset ≤ upto) (hc : upto ≤ a.autoZoneSize) (nodup : left.Nodup)
    (hfree : ∀ p ∈ left, p ∈ a.autoFreeList ∧ p ≠ offset)
    (hcov : ∀ p < upto, p = offset ∨ p ∈ a.occupiedOffsets ∨ p ∈ left) :
    Valid { a.occupy key offset kind with nextAutoOffset := upto, autoFreeList := left } := by
  have taken : ∀ k d, a.allocations[k]? = some (offset,d) → False :=
    fun k d hk => unused ((v.occupied _).mpr ⟨k,d,hk⟩)
  refine ⟨v.firstHost,v.manualStart,v.zones,v.occupied_occupy fresh,?_,?_,?_,hc,nodup,?_,?_⟩
  · intro k₁ k₂ o d₁ d₂ h₁ h₂
    rcases occupy_cases h₁ with ⟨rfl,rfl,_⟩ | g₁ <;> rcases occupy_cases h₂ with ⟨rfl,hp,_⟩ | g₂
    · rfl
    · exact (taken _ _ g₂).elim
    · exact (taken _ _ (hp ▸ g₁)).elim
    · exact v.owner k₁ k₂ o d₁ d₂ g₁ g₂
  · intro k p hk
    rcases occupy_cases hk with ⟨_,rfl,hd⟩ | hk
    · exact hauto hd
    · exact Nat.lt_of_lt_of_le (v.auto k p hk) hn
  · intro k p hk
    rcases occupy_cases hk with ⟨_,rfl,hd⟩ | hk
    · exact hmanual hd
    · exact v.manual k p hk
  · intro p hp
    obtain ⟨hlt,hun⟩ := v.free p (hfree p hp).1
    exact ⟨Nat.lt_of_lt_of_le hlt hn,by simp [occupy,(hfree p hp).2,hun]⟩
  · intro p hp
    exact (or_assoc.mpr (hcov p hp)).imp_left Finset.mem_insert.mpr

theorem Valid.allocate (v : a.Valid) (h : a.allocate key ip = .ok (r,a')) : a'.Valid := by
  have ha := v.allocated key ip
  rw [h] at ha
  cases ha with
  | known => exact v
  | @popped rest o fresh hf =>
    obtain ⟨ho,hu⟩ := v.free o (by simp [hf])
    have nodup := v.freeNodup
    rw [hf,nodup_append] at nodup
    refine v.reserve fresh hu (fun _ => ho) (by simp) (Nat.le_refl _) v.cursor nodup.1
      (fun p hp => ⟨by simp [hf,hp],nodup.2.2 p hp o (by simp)⟩) (fun p hp => ?_)
    have := v.covered p hp
    simp only [hf,mem_append,mem_singleton] at this
    tauto
  | advanced fresh hf hlt =>
    refine v.reserve fresh (v.next_free hlt) (fun _ => Nat.lt_succ_self _) (by simp) (Nat.le_succ _) hlt
      v.freeNodup (by simp [occupy,hf]) (fun p hp => ?_)
    exact (Nat.lt_succ_iff_lt_or_eq.mp hp).elim (fun hp => .inr (v.covered p hp)) .inl
  | manual fresh hs he hu =>
    refine v.reserve fresh hu (by simp) (fun _ => ⟨hs,he⟩) (Nat.le_refl _) v.cursor v.freeNodup
      (fun p hp => ⟨hp,?_⟩) (fun p hp => .inr (v.covered p hp))
    have := (v.free p hp).1
    have := v.cursor
    have := v.manualStart
    omega

/-- The subnet and its zones are fixed when the allocator is built. -/
theorem Valid.allocate_rest (v : a.Valid) (h : a.allocate key ip = .ok (r,a')) :
    a'.subnetBase = a.subnetBase ∧ a'.manualZoneEnd = a.manualZoneEnd := by
  have ha := v.allocated key ip
  rw [h] at ha
  cases ha <;> exact ⟨rfl,rfl⟩

theorem Valid.allocate_within (v : a.Valid) (h : a.allocate key ip = .ok (r,a')) :
    r.ip < a.firstHost + a.manualZoneEnd := by
  have hc := v.cursor
  have hz := v.zones
  have ha := v.allocated key ip
  rw [h] at ha
  cases ha with
  | known hk => exact Nat.add_lt_add_left (v.owner_lt hk) _
  | @popped _ o _ hf =>
    have := (v.free o (by simp [hf])).1
    exact Nat.add_lt_add_left (by omega) _
  | advanced _ _ hlt => exact Nat.add_lt_add_left (by omega) _
  | manual _ _ he => exact Nat.add_lt_add_left he _

theorem release_rest (a : NamespaceIpAllocator) (key : IpResourceKey) :
    (a.release key).subnetBase = a.subnetBase ∧
    (a.release key).manualZoneEnd = a.manualZoneEnd := by
  unfold release
  split <;> exact ⟨rfl,rfl⟩

section Release

variable (v : a.Valid) (hk : a.allocations[key]? = some (o,kind))
include v hk

theorem Valid.freed_nodup :
    (if kind = .auto then a.autoFreeList ++ [o] else a.autoFreeList).Nodup := by
  split
  · refine nodup_append.mpr ⟨v.freeNodup,by simp,?_⟩
    intro p hp q hq
    rw [mem_singleton] at hq
    rintro rfl
    exact (v.free p hp).2 (hq ▸ (v.occupied o).mpr ⟨key,kind,hk⟩)
  · exact v.freeNodup

theorem Valid.freed_free
    (hp : p ∈ if kind = .auto then a.autoFreeList ++ [o] else a.autoFreeList) :
    p < a.nextAutoOffset ∧ p ∉ a.occupiedOffsets.erase o := by
  have kept : p ∈ a.autoFreeList → p < a.nextAutoOffset ∧ p ∉ a.occupiedOffsets.erase o :=
    fun hp => ⟨(v.free p hp).1,fun h => (v.free p hp).2 (Finset.mem_of_mem_erase h)⟩
  split at hp
  · rename_i hauto
    rcases mem_append.mp hp with hp | hp
    · exact kept hp
    · rw [mem_singleton] at hp
      subst hp hauto
      exact ⟨v.auto key p hk,Finset.notMem_erase _ _⟩
  · exact kept hp

theorem Valid.freed_covered (hp : p < a.nextAutoOffset) : p ∈ a.occupiedOffsets.erase o ∨
    p ∈ if kind = .auto then a.autoFreeList ++ [o] else a.autoFreeList := by
  by_cases hpo : p = o
  · subst hpo
    cases kind with
    | auto => exact .inr (by simp)
    | manual =>
      have := (v.manual key p hk).1
      have := v.manualStart
      have := v.cursor
      omega
  · rcases v.covered p hp with h | h
    · exact .inl (Finset.mem_erase.mpr ⟨hpo,h⟩)
    · exact .inr (by split <;> simp [h])

end Release

theorem Valid.release (v : a.Valid) (key : IpResourceKey) : (a.release key).Valid := by
  have lookup : ∀ k : IpResourceKey, (a.release key).allocations[k]? =
      if key = k then none else a.allocations[k]? := fun k => getElem?_release
  unfold NamespaceIpAllocator.release at lookup ⊢
  split
  · exact v
  · rename_i o kind hk
    simp only [hk] at lookup
    have others : ∀ (k : IpResourceKey) p d, (a.allocations.erase key)[k]? = some (p,d) →
        a.allocations[k]? = some (p,d) ∧ p ≠ o := by
      intro k p d h
      rw [lookup] at h
      split at h
      · cases h
      · rename_i hne
        refine ⟨h,?_⟩
        rintro rfl
        exact hne (v.owner key k p kind d hk h)
    refine ⟨v.firstHost,v.manualStart,v.zones,fun p => ?_,?_,?_,?_,v.cursor,v.freed_nodup hk,
      fun p => v.freed_free hk,fun p => v.freed_covered hk⟩
    · rw [Finset.mem_erase,v.occupied p]
      constructor
      · rintro ⟨hne,k,d,h⟩
        have : key ≠ k := by
          rintro rfl
          rw [hk] at h
          cases h
          exact hne rfl
        exact ⟨k,d,by rw [lookup]; simp [this,h]⟩
      · rintro ⟨k,d,h⟩
        exact ⟨(others k p d h).2,k,d,(others k p d h).1⟩
    · exact fun k k' p d d' h h' => v.owner k k' p d d' (others k p d h).1 (others k' p d' h').1
    · exact fun k p h => v.auto k p (others k p _ h).1
    · exact fun k p h => v.manual k p (others k p _ h).1

end NamespaceIpAllocator

end Distvirt
