import Distvirt.Namespace.IpAlloc

/-! Releases and allocations of a whole spec change, one resource after the other. An error in
the middle keeps what was done before it. -/

namespace Distvirt

open Std (ExtTreeMap)
open List

abbrev IpRequest := IpResourceKey × Option Nat

namespace NamespaceIpAllocator

def releaseAll (a : NamespaceIpAllocator) (keys : List IpResourceKey) : NamespaceIpAllocator :=
  keys.foldl release a

/-- Allocates for each resource and builds its resolved form; the first error stops the loop and
leaves the allocator as it is then. -/
def resolveAll {α β : Type} (request : α → IpRequest) (build : α → IpAllocation → β) :
    NamespaceIpAllocator → List α → Except IpAllocError (List β) × NamespaceIpAllocator
  | a,[] => (.ok [],a)
  | a,x :: xs =>
    match a.allocate (request x).1 (request x).2 with
    | .error e => (.error e,a)
    | .ok (alloc,a) =>
      match resolveAll request build a xs with
      | (.error e,a) => (.error e,a)
      | (.ok ys,a) => (.ok (build x alloc :: ys),a)

/-- The same loop on the requests alone. -/
def allocateAll : NamespaceIpAllocator → List IpRequest → Option IpAllocError × NamespaceIpAllocator
  | a,[] => (none,a)
  | a,(key,ip) :: rest =>
    match a.allocate key ip with
    | .error e => (some e,a)
    | .ok (_,a) => allocateAll a rest

variable {a b c : NamespaceIpAllocator} {key k : IpResourceKey} {rel : List IpResourceKey}
  {ip : Option Nat} {reqs pre post : List IpRequest} {o : Nat} {d : IpAllocKind}

theorem resolveAll_allocateAll (request : α → IpRequest) (build : α → IpAllocation → β)
    (a : NamespaceIpAllocator) (xs : List α) :
    (resolveAll request build a xs).2 = (a.allocateAll (xs.map request)).2 ∧
    ∀ e, (resolveAll request build a xs).1 = .error e ↔
      (a.allocateAll (xs.map request)).1 = some e := by
  induction xs generalizing a with
  | nil => simp [resolveAll,allocateAll]
  | cons x xs ih =>
    simp only [resolveAll,allocateAll,map_cons]
    cases ha : a.allocate (request x).1 (request x).2 with
    | error e => simp
    | ok r =>
      obtain ⟨alloc,a'⟩ := r
      obtain ⟨hs,he⟩ := ih a'
      simp only
      cases hr : resolveAll request build a' xs with
      | mk res a'' =>
        rw [hr] at hs he
        cases res with
        | error e | ok ys =>
          refine ⟨hs,fun e' => ?_⟩
          simpa using he e'

theorem allocateAll_append : a.allocateAll (pre ++ post) =
    match a.allocateAll pre with
    | (none,b) => b.allocateAll post
    | (some e,b) => (some e,b) := by
  induction pre generalizing a with
  | nil => rfl
  | cons r pre ih =>
    obtain ⟨key,ip⟩ := r
    simp only [cons_append,allocateAll]
    cases a.allocate key ip with
    | error e => rfl
    | ok r => exact ih

theorem Valid.releaseAll (v : a.Valid) (keys : List IpResourceKey) : (a.releaseAll keys).Valid := by
  induction keys generalizing a with
  | nil => exact v
  | cons key keys ih => exact ih (v.release key)

theorem Valid.allocateAll (v : a.Valid) (reqs : List IpRequest) : (a.allocateAll reqs).2.Valid := by
  induction reqs generalizing a with
  | nil => exact v
  | cons r reqs ih =>
    obtain ⟨key,ip⟩ := r
    simp only [allocateAll]
    cases ha : a.allocate key ip with
    | error e => exact v
    | ok r => exact ih (v.allocate ha)

/-- The allocation of a key that the removed resources leave in place. -/
def kept (a : NamespaceIpAllocator) (rel : List IpResourceKey) (key : IpResourceKey) :
    Option (Nat × IpAllocKind) :=
  if key ∈ rel then none else a.allocations[key]?

theorem getElem?_releaseAll : (a.releaseAll rel).allocations[k]? = a.kept rel k := by
  induction rel generalizing a with
  | nil => simp [releaseAll,kept]
  | cons key rel ih =>
    have : (a.releaseAll (key :: rel)) = (a.release key).releaseAll rel := rfl
    rw [this,ih,kept,kept,getElem?_release]
    by_cases hk : k ∈ rel
    · simp [hk]
    · by_cases hkey : key = k
      · simp [hkey]
      · simp [hk,hkey,Ne.symm hkey]

def holdsAuto (a : NamespaceIpAllocator) (key : IpResourceKey) : Bool :=
  match a.allocations[key]? with
  | some (_,.auto) => true
  | _ => false

/-- How many auto addresses are not in use. -/
def freeAuto (a : NamespaceIpAllocator) : Nat :=
  a.autoFreeList.length + (a.autoZoneSize - a.nextAutoOffset)

/-- The removed resources with an auto address, the one removed last first. A resource that is
listed twice is removed once. -/
def releasedAutos : NamespaceIpAllocator → List IpResourceKey → List IpResourceKey
  | _,[] => []
  | a,key :: rel => releasedAutos (a.release key) rel ++ if a.holdsAuto key then [key] else []

/-- The requests for an auto address by resources that have no address then. -/
def newAutos (a : NamespaceIpAllocator) (rel : List IpResourceKey) (reqs : List IpRequest) :
    List IpRequest :=
  reqs.filter (fun r => (a.kept rel r.1).isNone ∧ r.2 = none)

/-- Everything the change asks for can be given. -/
structure Fits (a : NamespaceIpAllocator) (rel : List IpResourceKey) (reqs : List IpRequest) :
    Prop where
  kind : ∀ key ip o d, (key,ip) ∈ reqs → a.kept rel key = some (o,d) → d = requestedKind ip
  zone : ∀ key ip, (key,some ip) ∈ reqs → a.kept rel key = none → a.inManualZone ip
  unowned : ∀ key ip, (key,some ip) ∈ reqs → a.kept rel key = none →
    ∀ k o d, a.kept rel k = some (o,d) → a.offsetToIp o ≠ ip
  distinct : ∀ key k ip, (key,some ip) ∈ reqs → (k,some ip) ∈ reqs → a.kept rel key = none →
    a.kept rel k = none → key = k
  room : (a.newAutos rel reqs).length ≤ a.freeAuto + (a.releasedAutos rel).length

/-- The requests put back exactly what was removed: nothing new is asked for, removed manual
addresses are asked for again, and the removed auto addresses come back in the reverse order of
their removal, so that each resource pops its own. -/
structure PutsBack (a : NamespaceIpAllocator) (rel : List IpResourceKey) (reqs : List IpRequest) :
    Prop where
  same : ∀ key ip, (key,ip) ∈ reqs → ∃ o, a.allocations[key]? = some (o,requestedKind ip) ∧
    (key ∈ rel → ∀ i, ip = some i → i = a.offsetToIp o)
  manual : ∀ key o, key ∈ rel → a.allocations[key]? = some (o,.manual) → ∃ ip, (key,ip) ∈ reqs
  auto : (reqs.filter (fun r => r.1 ∈ rel ∧ r.2 = none)).map Prod.fst = a.releasedAutos rel

/-- A request is rejected only after everything has been put back. -/
def Restores (a : NamespaceIpAllocator) (rel : List IpResourceKey) (reqs : List IpRequest) : Prop :=
  ∃ pre key ip post, reqs = pre ++ (key,ip) :: post ∧ a.PutsBack rel pre ∧
    (a.allocate key ip).isOk = false

@[simp] theorem kept_nil : a.kept [] k = a.allocations[k]? := by simp [kept]

theorem holdsAuto_iff : a.holdsAuto key = true ↔ ∃ o, a.allocations[key]? = some (o,.auto) := by
  unfold holdsAuto
  split
  · rename_i o h
    exact ⟨fun _ => ⟨o,h⟩,fun _ => rfl⟩
  · rename_i h
    simp only [Bool.false_eq_true,false_iff,not_exists]
    exact fun o ho => h o ho

theorem freeAuto_release : (a.release key).freeAuto =
    a.freeAuto + if a.holdsAuto key then 1 else 0 := by
  unfold freeAuto release holdsAuto
  cases hk : a.allocations[key]? with
  | none => rfl
  | some e =>
    obtain ⟨o,d⟩ := e
    cases d with
    | auto =>
      simp
      omega
    | manual => simp

theorem freeAuto_releaseAll : (a.releaseAll rel).freeAuto =
    a.freeAuto + (a.releasedAutos rel).length := by
  induction rel generalizing a with
  | nil => rfl
  | cons key rel ih =>
    have : a.releaseAll (key :: rel) = (a.release key).releaseAll rel := rfl
    rw [this,ih,freeAuto_release,releasedAutos,length_append]
    split <;> simp
    omega

/-- What neither an allocation of a known address nor a release touches. -/
def frame (a : NamespaceIpAllocator) : NamespaceIpAllocator :=
  { a with allocations := ∅, occupiedOffsets := ∅, autoFreeList := [] }

theorem releaseAll_frame (a : NamespaceIpAllocator) (rel : List IpResourceKey) :
    (a.releaseAll rel).frame = a.frame := by
  induction rel generalizing a with
  | nil => rfl
  | cons key rel ih =>
    refine (ih (a.release key)).trans ?_
    unfold release
    split <;> rfl

theorem zones_of_frame (h : b.frame = a.frame) : b.firstHost = a.firstHost ∧
    b.manualZoneStart = a.manualZoneStart ∧ b.manualZoneEnd = a.manualZoneEnd :=
  ⟨(congrArg firstHost h :),(congrArg manualZoneStart h :),(congrArg manualZoneEnd h :)⟩

/-- The address is free for a manual request. -/
def Clear (a : NamespaceIpAllocator) (i : Nat) : Prop :=
  a.inManualZone i ∧ ∀ (k : IpResourceKey) o d, a.allocations[k]? = some (o,d) → a.offsetToIp o ≠ i

/-- The request can be granted, room in the auto zone apart. -/
def Admits (a : NamespaceIpAllocator) (r : IpRequest) : Prop :=
  (∀ o d, a.allocations[r.1]? = some (o,d) → d = requestedKind r.2) ∧
  (a.allocations[r.1]? = none → ∀ i, r.2 = some i → a.Clear i)

/-- The requests are not for the same new address. -/
def Apart (a : NamespaceIpAllocator) (r r' : IpRequest) : Prop :=
  ∀ i, r.2 = some i → r'.2 = some i → a.allocations[r.1]? = none → a.allocations[r'.1]? = none →
    r.1 = r'.1

/-- The requests fit when nothing is removed. -/
structure Grants (a : NamespaceIpAllocator) (reqs : List IpRequest) : Prop where
  admits : ∀ r ∈ reqs, a.Admits r
  apart : ∀ r ∈ reqs, ∀ r' ∈ reqs, a.Apart r r'
  room : (a.newAutos [] reqs).length ≤ a.freeAuto

/-- Whether a change fits can be judged after the removals. -/
theorem fits_releaseAll : a.Fits rel reqs ↔ (a.releaseAll rel).Grants reqs := by
  have hk : ∀ k, (a.releaseAll rel).allocations[k]? = a.kept rel k := fun k => getElem?_releaseAll
  obtain ⟨hf,hs,he⟩ := zones_of_frame (a.releaseAll_frame rel)
  have hn : (a.releaseAll rel).newAutos [] reqs = a.newAutos rel reqs := by
    simp only [newAutos,kept_nil,hk]
  constructor
  · rintro ⟨kind,zone,unowned,distinct,room⟩
    refine ⟨fun r hr => ?_,fun r hr r' hr' => ?_,by rw [hn,freeAuto_releaseAll]; exact room⟩
    · simp only [Admits,Clear,inManualZone,offsetToIp,hk,hf,hs,he]
      refine ⟨fun o d => kind r.1 r.2 o d hr,fun fresh i hi => ?_⟩
      have hr : (r.1,some i) ∈ reqs := hi ▸ hr
      exact ⟨zone _ i hr fresh,unowned _ i hr fresh⟩
    · simp only [Apart,hk]
      exact fun i hi hi' => distinct r.1 r'.1 i (hi ▸ hr) (hi' ▸ hr')
  · rintro ⟨admits,apart,room⟩
    simp only [Admits,Clear,Apart,inManualZone,offsetToIp,hk,hf,hs,he] at admits apart
    exact ⟨fun key ip o d hr => (admits _ hr).1 o d,fun key i hr fresh => ((admits _ hr).2 fresh i rfl).1,
      fun key i hr fresh => ((admits _ hr).2 fresh i rfl).2,
      fun key k i hr hr' => apart _ hr _ hr' i rfl rfl,by rw [← hn,← freeAuto_releaseAll]; exact room⟩

theorem Valid.auto_outside (v : a.Valid) (h : a.allocations[key]? = some (o,.auto)) :
    ¬ a.inManualZone (a.offsetToIp o) := by
  have := v.auto key o h
  have := v.cursor
  have := v.manualStart
  unfold inManualZone offsetToIp
  omega

/-- A request is granted exactly if it can be. -/
theorem Valid.allocate_isOk (v : a.Valid) : (a.allocate key ip).isOk = true ↔ a.Admits (key,ip) ∧
    (a.allocations[key]? = none → ip = none → 0 < a.freeAuto) := by
  have ha := v.allocated key ip
  generalize a.allocate key ip = res at ha
  cases ha with
  | known h => simp [Except.isOk,Except.toBool,Admits,h]
  | migrates h hd => simp [Except.isOk,Except.toBool,Admits,h,hd]
  | popped fresh hf => simp [Except.isOk,Except.toBool,Admits,freeAuto,fresh,hf]
  | advanced fresh hf hlt =>
    simp [Except.isOk,Except.toBool,Admits,freeAuto,fresh,hf,Nat.sub_pos_of_lt hlt]
  | exhausted fresh hf hle =>
    simp [Except.isOk,Except.toBool,Admits,freeAuto,fresh,hf,hle]
  | @manual n fresh hs he hu =>
    have hz : a.inManualZone (a.offsetToIp n) := by
      unfold inManualZone offsetToIp
      omega
    have : a.Clear (a.offsetToIp n) := by
      refine ⟨hz,fun k o d hk heq => hu ?_⟩
      exact Nat.add_left_cancel heq ▸ (v.occupied o).mpr ⟨k,d,hk⟩
    simp [Except.isOk,Except.toBool,Admits,fresh,this]
  | outside fresh hz => simp [Except.isOk,Except.toBool,Admits,Clear,fresh,hz]
  | taken fresh h =>
    simp only [Except.isOk,Except.toBool,Bool.false_eq_true,false_iff]
    exact fun hadm => (hadm.1.2 fresh _ rfl).2 _ _ _ h rfl

/-- A granted request changes only the entry of its key, and an auto address costs one. -/
theorem Valid.allocate_lookup (v : a.Valid) (h : a.allocate key ip = .ok (r,b)) :
    (b.firstHost = a.firstHost ∧ b.manualZoneStart = a.manualZoneStart ∧
      b.manualZoneEnd = a.manualZoneEnd) ∧
    (∀ k : IpResourceKey, k ≠ key → b.allocations[k]? = a.allocations[k]?) ∧
    (∃ o, b.allocations[key]? = some (o,requestedKind ip) ∧
      (a.allocations[key]? = none → ∀ i, ip = some i → a.offsetToIp o = i)) ∧
    (a.allocations[key]? ≠ none → b = a) ∧
    a.freeAuto = b.freeAuto + if a.allocations[key]? = none ∧ ip = none then 1 else 0 := by
  have other : ∀ o d k, k ≠ key → (a.occupy key o d).allocations[k]? = a.allocations[k]? :=
    fun o d k hne => getElem?_occupy.trans (if_neg (Ne.symm hne))
  have own : ∀ o d, (a.occupy key o d).allocations[key]? = some (o,d) :=
    fun o d => getElem?_occupy.trans (if_pos rfl)
  have ha := v.allocated key ip
  rw [h] at ha
  cases ha with
  | known hk => exact ⟨⟨rfl,rfl,rfl⟩,fun _ _ => rfl,⟨_,hk,by simp [hk]⟩,fun _ => rfl,by simp [hk]⟩
  | popped fresh hf =>
    refine ⟨⟨rfl,rfl,rfl⟩,other _ .auto,⟨_,own _ .auto,by simp⟩,absurd fresh,?_⟩
    simp only [freeAuto,hf,occupy,fresh,and_self,↓reduceIte,length_append,length_singleton]
    omega
  | advanced fresh hf hlt =>
    refine ⟨⟨rfl,rfl,rfl⟩,other _ .auto,⟨_,own _ .auto,by simp⟩,absurd fresh,?_⟩
    simp only [freeAuto,hf,occupy,fresh,and_self,↓reduceIte]
    omega
  | manual fresh =>
    refine ⟨⟨rfl,rfl,rfl⟩,other _ .manual,⟨_,own _ .manual,by simp⟩,absurd fresh,?_⟩
    simp [freeAuto,occupy]

/-- The key's new address is the only one that a granted request takes away. -/
theorem Valid.clear_iff (v : a.Valid) (h : a.allocate key ip = .ok (r,b)) (i : Nat) :
    b.Clear i ↔ a.Clear i ∧ ¬ (ip = some i ∧ a.allocations[key]? = none) := by
  obtain ⟨⟨z1,z2,z3⟩,other,⟨o,own,ho⟩,sticky,-⟩ := v.allocate_lookup h
  by_cases fresh : a.allocations[key]? = none
  · have zone : b.inManualZone i ↔ a.inManualZone i := by simp only [inManualZone,z1,z2,z3]
    simp only [Clear,zone,fresh,and_true,and_assoc,offsetToIp,z1]
    refine and_congr_right (fun hz => ⟨fun hb => ⟨fun k o' d hk => ?_,fun hip => ?_⟩,?_⟩)
    · exact hb k o' d ((other k (by rintro rfl; simp [fresh] at hk)).trans hk)
    · exact hb key o _ own (ho fresh i hip)
    · rintro ⟨hfree,hip⟩ k o' d hk heq
      by_cases hkey : k = key
      · rw [hkey,own] at hk
        cases hk
        cases ip with
        | none => exact (v.allocate h).auto_outside own (by rw [offsetToIp,z1,heq]; exact zone.mpr hz)
        | some j => exact hip (congrArg some ((ho fresh j rfl).symm.trans heq))
      · exact hfree k o' d ((other k hkey).symm.trans hk) heq
  · rw [sticky fresh]
    simp [fresh]

/-- Granting the first request does not change whether the others fit. -/
theorem Valid.grants_cons (v : a.Valid) (h : a.allocate key ip = .ok (r,b))
    (hn : ∀ ip, (key,ip) ∉ reqs) : b.Grants reqs ↔ a.Grants ((key,ip) :: reqs) := by
  obtain ⟨-,other,-,-,cost⟩ := v.allocate_lookup h
  have head : a.Admits (key,ip) := (v.allocate_isOk.mp (by rw [h]; rfl)).1
  have hne : ∀ r ∈ reqs, r.1 ≠ key := by
    rintro ⟨k,i⟩ hm rfl
    exact hn i hm
  have lookup : ∀ r ∈ reqs, b.allocations[r.1]? = a.allocations[r.1]? := fun r hr => other _ (hne r hr)
  have admits : ∀ r ∈ reqs, b.Admits r ↔ a.Admits r ∧ a.Apart (key,ip) r := by
    intro r hr
    simp only [Admits,Apart,lookup r hr,v.clear_iff h,and_assoc]
    refine and_congr_right (fun _ => ⟨fun hb => ⟨fun fresh i hi => (hb fresh i hi).1,?_⟩,?_⟩)
    · exact fun i hip hi hkey fresh => ((hb fresh i hi).2 ⟨hip,hkey⟩).elim
    · exact fun ha fresh i hi => ⟨ha.1 fresh i hi,fun hip => hne r hr (ha.2 i hip.1 hi hip.2 fresh).symm⟩
  have apart : ∀ r ∈ reqs, ∀ r' ∈ reqs, b.Apart r r' ↔ a.Apart r r' := by
    intro r hr r' hr'
    simp only [Apart,lookup r hr,lookup r' hr']
  have room : (b.newAutos [] reqs).length ≤ b.freeAuto ↔
      (a.newAutos [] ((key,ip) :: reqs)).length ≤ a.freeAuto := by
    have : b.newAutos [] reqs = a.newAutos [] reqs :=
      filter_congr (fun r hr => by rw [kept_nil,kept_nil,lookup r hr])
    rw [this,cost,newAutos,newAutos]
    by_cases hc : a.allocations[key]? = none ∧ ip = none
    · rw [filter_cons_of_pos (by simpa using hc),if_pos hc,length_cons,Nat.add_le_add_iff_right]
    · rw [filter_cons_of_neg (by simpa using hc),if_neg hc,Nat.add_zero]
  constructor
  · rintro ⟨hadm,hapart,hroom⟩
    have head' : ∀ r ∈ reqs, a.Apart (key,ip) r := fun r hr => ((admits r hr).mp (hadm r hr)).2
    refine ⟨?_,?_,room.mp hroom⟩
    · exact forall_mem_cons.mpr ⟨head,fun r hr => ((admits r hr).mp (hadm r hr)).1⟩
    · refine forall_mem_cons.mpr ⟨?_,fun r hr => ?_⟩
      · exact forall_mem_cons.mpr ⟨fun _ _ _ _ _ => rfl,head'⟩
      · exact forall_mem_cons.mpr ⟨fun i hi hi' hk hk' => (head' r hr i hi' hi hk' hk).symm,
          fun r' hr' => (apart r hr r' hr').mp (hapart r hr r' hr')⟩
  · rintro ⟨hadm,hapart,hroom⟩
    have mem : ∀ r ∈ reqs, r ∈ (key,ip) :: reqs := fun r hr => mem_cons_of_mem _ hr
    refine ⟨fun r hr => (admits r hr).mpr ⟨hadm r (mem r hr),hapart _ mem_cons_self r (mem r hr)⟩,
      fun r hr r' hr' => (apart r hr r' hr').mpr (hapart r (mem r hr) r' (mem r' hr')),room.mpr hroom⟩

/-- The loop reaches its end exactly if the requests fit. -/
theorem Valid.allocateAll_ok (v : a.Valid) (hn : (reqs.map Prod.fst).Nodup) :
    (a.allocateAll reqs).1 = none ↔ a.Grants reqs := by
  induction reqs generalizing a with
  | nil => exact ⟨fun _ => ⟨by simp,by simp,by simp [newAutos]⟩,fun _ => rfl⟩
  | cons r reqs ih =>
    obtain ⟨key,ip⟩ := r
    obtain ⟨hnot,hn⟩ := nodup_cons.mp hn
    simp only [NamespaceIpAllocator.allocateAll]
    cases ha : a.allocate key ip with
    | ok res =>
      obtain ⟨alloc,b⟩ := res
      exact (ih (v.allocate ha) hn).trans
        (v.grants_cons ha (fun ip hm => hnot (mem_map.mpr ⟨_,hm,rfl⟩)))
    | error e =>
      refine ⟨fun h => by simp at h,fun fits => ?_⟩
      have hok := v.allocate_isOk.mpr ⟨fits.admits (key,ip) mem_cons_self,fun fresh hip => ?_⟩
      · simp [ha,Except.isOk,Except.toBool] at hok
      · refine Nat.lt_of_lt_of_le ?_ fits.room
        exact length_pos_of_mem (mem_filter.mpr ⟨List.mem_cons_self,by simp [fresh,hip]⟩)

theorem Valid.fits_iff (v : a.Valid) (hn : (reqs.map Prod.fst).Nodup) :
    ((a.releaseAll rel).allocateAll reqs).1 = none ↔ a.Fits rel reqs :=
  ((v.releaseAll rel).allocateAll_ok hn).trans fits_releaseAll.symm

def offsetOf (a : NamespaceIpAllocator) (key : IpResourceKey) : Nat :=
  (a.allocations[key]?.map Prod.fst).getD 0

/-- An allocator is known by the addresses that are held and by its free list. -/
theorem Valid.ext_lookup (v : a.Valid) (vb : b.Valid)
    (lookup : ∀ k : IpResourceKey, b.allocations[k]? = a.allocations[k]?)
    (free : b.autoFreeList = a.autoFreeList) (hf : b.frame = a.frame) : b = a := by
  have alloc : b.allocations = a.allocations := ExtTreeMap.ext_getElem? lookup
  have occ : b.occupiedOffsets = a.occupiedOffsets := by
    ext o
    rw [v.occupied,vb.occupied,alloc]
  obtain ⟨_,_,_,_,_,_,_,_,_⟩ := a
  obtain ⟨_,_,_,_,_,_,_,_,_⟩ := b
  cases alloc
  cases occ
  cases free
  cases hf
  rfl

theorem holdsAuto_release : (a.release key).holdsAuto k =
    if key = k then false else a.holdsAuto k := by
  simp only [holdsAuto,getElem?_release]
  by_cases hk : key = k <;> simp [hk]

theorem mem_releasedAutos : k ∈ a.releasedAutos rel ↔ k ∈ rel ∧ a.holdsAuto k = true := by
  induction rel generalizing a with
  | nil => simp [releasedAutos]
  | cons key rel ih =>
    rw [releasedAutos,mem_append,ih,holdsAuto_release]
    by_cases hk : key = k
    · subst hk
      cases a.holdsAuto key <;> simp
    · cases a.holdsAuto key <;> simp [hk,Ne.symm hk]

theorem releasedAutos_nodup : (a.releasedAutos rel).Nodup := by
  induction rel generalizing a with
  | nil => exact nodup_nil
  | cons key rel ih =>
    refine nodup_append.mpr ⟨ih,by split <;> simp,?_⟩
    rintro k hk k' hk' rfl
    split at hk' <;> simp [mem_releasedAutos,holdsAuto_release] at hk hk'
    exact hk.2.1 hk'.symm

theorem releasedAutos_congr (h : ∀ k ∈ rel, b.holdsAuto k = a.holdsAuto k) :
    b.releasedAutos rel = a.releasedAutos rel := by
  induction rel generalizing a b with
  | nil => rfl
  | cons key rel ih =>
    rw [releasedAutos,releasedAutos,h key mem_cons_self,ih (fun k hk => ?_)]
    rw [holdsAuto_release,holdsAuto_release,h k (mem_cons_of_mem _ hk)]

/-- The other removals when a key is left out. -/
theorem releasedAutos_filter : a.releasedAutos (rel.filter (· ≠ key)) =
    (a.releasedAutos rel).filter (· ≠ key) := by
  induction rel generalizing a with
  | nil => rfl
  | cons k rel ih =>
    rw [releasedAutos,filter_append,← ih]
    by_cases hk : k = key
    · subst hk
      rw [filter_cons_of_neg (by simp)]
      have hsame : (a.release k).releasedAutos (rel.filter (· ≠ k)) =
          a.releasedAutos (rel.filter (· ≠ k)) := by
        refine releasedAutos_congr (fun k' hk' => ?_)
        rw [holdsAuto_release,if_neg (Ne.symm (by simpa using (mem_filter.mp hk').2))]
      rw [hsame]
      split <;> simp
    · rw [filter_cons_of_pos (by simpa using hk),releasedAutos]
      split <;> simp [hk]

theorem free_releaseAll : (a.releaseAll rel).autoFreeList =
    a.autoFreeList ++ (a.releasedAutos rel).reverse.map a.offsetOf := by
  induction rel generalizing a with
  | nil => simp [releaseAll,releasedAutos]
  | cons key rel ih =>
    have offs : ((a.release key).releasedAutos rel).reverse.map (a.release key).offsetOf =
        ((a.release key).releasedAutos rel).reverse.map a.offsetOf := by
      refine map_congr_left (fun k hm => ?_)
      have hne : key ≠ k := by
        rintro rfl
        simp [mem_releasedAutos,holdsAuto_release] at hm
      simp [offsetOf,getElem?_release,hne]
    refine ih.trans ?_
    rw [offs,releasedAutos,reverse_append,map_append,← append_assoc]
    congr 1
    cases hk : a.allocations[key]? with
    | none => simp [release,holdsAuto,hk]
    | some e =>
      obtain ⟨o,d⟩ := e
      cases d <;> simp [release,holdsAuto,offsetOf,hk]

theorem filter_absent (h : key ∉ rel) : rel.filter (· ≠ key) = rel := by
  refine filter_eq_self.mpr (fun k hk => ?_)
  rw [decide_eq_true_eq]
  rintro rfl
  exact h hk

theorem allocate_sticky (hk : a.allocations[key]? = some (o,requestedKind ip)) :
    a.allocate key ip = .ok (⟨a.offsetToIp o,requestedKind ip⟩,a) := by
  simp [allocate,hk]

/-- The request asks for what the resource had, and if that was an auto address which is now free,
it is on top of the free list. -/
def GivesBack (a : NamespaceIpAllocator) (rel : List IpResourceKey) (key : IpResourceKey)
    (ip : Option Nat) : Prop :=
  ∃ o, a.allocations[key]? = some (o,requestedKind ip) ∧
    (key ∈ rel → ∀ i, ip = some i → i = a.offsetToIp o) ∧
    (key ∈ rel → ip = none → (a.releasedAutos rel).head? = some key)

/-- The last auto address released is on top of the free list. -/
theorem free_head (h : (a.releasedAutos rel).head? = some key) :
    a.releasedAutos rel = key :: a.releasedAutos (rel.filter (· ≠ key)) ∧
    (a.releaseAll rel).autoFreeList =
      (a.releaseAll (rel.filter (· ≠ key))).autoFreeList ++ [a.offsetOf key] := by
  have hcons : a.releasedAutos rel = key :: a.releasedAutos (rel.filter (· ≠ key)) := by
    obtain ⟨rest,hr⟩ := head?_eq_some_iff.mp h
    have nodup : (key :: rest).Nodup := hr ▸ releasedAutos_nodup
    have : ∀ k ∈ rest, k ≠ key := by
      rintro k hk rfl
      exact (nodup_cons.mp nodup).1 hk
    rw [releasedAutos_filter,hr,filter_cons_of_neg (by simp),
      filter_eq_self.mpr (fun k hk => decide_eq_true (this k hk))]
  refine ⟨hcons,?_⟩
  rw [free_releaseAll,free_releaseAll,hcons]
  simp

/-- A key that held no auto address does not show in the free list. -/
theorem releasedAutos_other (hk : a.holdsAuto key = false) :
    a.releasedAutos (rel.filter (· ≠ key)) = a.releasedAutos rel := by
  rw [releasedAutos_filter]
  refine filter_eq_self.mpr (fun k hm => ?_)
  rw [decide_eq_true_eq]
  rintro rfl
  rw [(mem_releasedAutos.mp hm).2] at hk
  cases hk

/-- Asking for what a resource had gives it back. -/
theorem Valid.gives_back (v : a.Valid) (h : a.GivesBack rel key ip) :
    ∃ r, (a.releaseAll rel).allocate key ip = .ok (r,a.releaseAll (rel.filter (· ≠ key))) := by
  obtain ⟨o,hk,hmanual,hauto⟩ := h
  have vb := v.releaseAll rel
  have hf := a.releaseAll_frame rel
  have lookup : ∀ k, (a.releaseAll rel).allocations[k]? = a.kept rel k := fun k => getElem?_releaseAll
  by_cases hm : key ∈ rel
  · have fresh : (a.releaseAll rel).allocations[key]? = none := (lookup key).trans (if_pos hm)
    obtain ⟨r,c,hb,hc,hfree,hframe⟩ : ∃ r c, (a.releaseAll rel).allocate key ip = .ok (r,c) ∧
        (∀ k : IpResourceKey, c.allocations[k]? =
          if key = k then some (o,requestedKind ip) else (a.releaseAll rel).allocations[k]?) ∧
        c.autoFreeList = (a.releaseAll (rel.filter (· ≠ key))).autoFreeList ∧
        c.frame = (a.releaseAll rel).frame := by
      cases ip with
      | none =>
        have htop := (free_head (hauto hm rfl)).2
        simp only [offsetOf,hk,Option.map_some,Option.getD_some] at htop
        refine ⟨⟨(a.releaseAll rel).offsetToIp o,.auto⟩,{ occupy _ key o .auto with
          autoFreeList := (a.releaseAll (rel.filter (· ≠ key))).autoFreeList },?_,
          fun k => getElem?_occupy,rfl,rfl⟩
        simp [NamespaceIpAllocator.allocate,fresh,allocateAuto,htop,occupy]
      | some i =>
        obtain ⟨hfirst,hstart,hend⟩ := zones_of_frame hf
        obtain ⟨hs,he⟩ := v.manual key o hk
        have hu : o ∉ (a.releaseAll rel).occupiedOffsets := by
          rw [vb.occupied]
          rintro ⟨k,d,hk'⟩
          rw [lookup,kept] at hk'
          split at hk'
          · cases hk'
          · exact absurd hm (v.owner k key o _ _ hk' hk ▸ ‹k ∉ rel›)
        refine ⟨⟨i,.manual⟩,occupy _ key o .manual,?_,fun k => getElem?_occupy,?_,rfl⟩
        · simp [NamespaceIpAllocator.allocate,fresh,allocateManual,ipToOffset,offsetToIp,occupy,hmanual hm i rfl,hfirst,
            hstart,hend,Nat.not_lt.mpr hs,Nat.not_le.mpr he,hu]
        · have : a.holdsAuto key = false := by simp [holdsAuto,hk,requestedKind]
          rw [free_releaseAll,releasedAutos_other this,← free_releaseAll]
          rfl
    refine ⟨r,hb.trans (congrArg (fun c => Except.ok (r,c)) ?_)⟩
    refine (v.releaseAll _).ext_lookup (vb.allocate hb) (fun k => ?_) hfree
      (hframe.trans (hf.trans (a.releaseAll_frame _).symm))
    rw [hc,lookup,getElem?_releaseAll,kept,kept]
    by_cases hkk : key = k
    · simp [← hkk,hk]
    · simp [hkk,Ne.symm hkk]
  · have hb : (a.releaseAll rel).allocations[key]? = some (o,requestedKind ip) :=
      (lookup key).trans ((if_neg hm).trans hk)
    rw [filter_absent hm]
    exact ⟨_,allocate_sticky hb⟩

/-- And nothing else does. -/
theorem Valid.gives_back_only (v : a.Valid) (hb : (a.releaseAll rel).allocate key ip = .ok (r,c))
    (hc : c.allocations[key]? = a.allocations[key]?) : a.GivesBack rel key ip := by
  have vb := v.releaseAll rel
  have hf := a.releaseAll_frame rel
  obtain ⟨_,_,⟨o,own,ho⟩,_,_⟩ := vb.allocate_lookup hb
  have hk : a.allocations[key]? = some (o,requestedKind ip) := hc ▸ own
  have fresh : key ∈ rel → (a.releaseAll rel).allocations[key]? = none :=
    fun hm => getElem?_releaseAll.trans (if_pos hm)
  refine ⟨o,hk,fun hm i hi => ?_,?_⟩
  · have := ho (fresh hm) i hi
    simp only [offsetToIp,(zones_of_frame hf).1] at this
    exact this.symm
  · rintro hm rfl
    have offset : ∀ o', (some (o',.auto) : Option (Nat × IpAllocKind)) = some (o,requestedKind none) →
        o' = o := fun o' h => by cases h; rfl
    have ha := vb.allocated key none
    rw [hb] at ha
    cases ha with
    | known hk' => simp [fresh hm] at hk'
    | @popped rest o' _ hfree =>
      have : o' = o := offset o' ((getElem?_occupy.trans (if_pos rfl)).symm.trans own)
      subst this
      rw [free_releaseAll] at hfree
      cases hr : a.releasedAutos rel with
      | nil =>
        -- the address would be free and held in `a`
        exfalso
        rw [hr,reverse_nil,map_nil,append_nil] at hfree
        exact (v.free o' (by rw [hfree]; simp)).2 ((v.occupied o').mpr ⟨key,_,hk⟩)
      | cons k rest' =>
        obtain ⟨o₁,ho₁⟩ := holdsAuto_iff.mp (mem_releasedAutos.mp (hr ▸ mem_cons_self)).2
        rw [hr,reverse_cons,map_append,← append_assoc] at hfree
        obtain ⟨_,hlast⟩ := append_inj' hfree rfl
        simp only [map_cons,map_nil,offsetOf,ho₁,Option.map_some,Option.getD_some,
          cons.injEq,and_true] at hlast
        subst hlast
        rw [v.owner k key o₁ _ _ ho₁ hk]
        rfl
    | advanced =>
      have hnext : (a.releaseAll rel).nextAutoOffset = a.nextAutoOffset :=
        (congrArg nextAutoOffset hf :)
      have : (a.releaseAll rel).nextAutoOffset = o :=
        offset _ ((getElem?_occupy.trans (if_pos rfl)).symm.trans own)
      exact absurd (v.auto key o hk) (by omega)

theorem Valid.allocateAll_keeps (v : a.Valid) (h : a.allocations[k]? = some e)
    (reqs : List IpRequest) : (a.allocateAll reqs).2.allocations[k]? = some e := by
  induction reqs generalizing a with
  | nil => exact h
  | cons r reqs ih =>
    obtain ⟨key,ip⟩ := r
    simp only [NamespaceIpAllocator.allocateAll]
    cases ha : a.allocate key ip with
    | error e => exact h
    | ok res =>
      obtain ⟨r,b⟩ := res
      obtain ⟨_,other,_,sticky,_⟩ := v.allocate_lookup ha
      refine ih (v.allocate ha) ?_
      by_cases hk : k = key
      · rw [sticky (by simp [← hk,h])]
        exact h
      · rw [other k hk]
        exact h

theorem releaseAll_absent (h : ∀ key ∈ rel, a.allocations[key]? = none) : a.releaseAll rel = a := by
  induction rel with
  | nil => rfl
  | cons key rel ih =>
    have hkey : a.release key = a := by simp [release,h key mem_cons_self]
    exact (congrArg (releaseAll · rel) hkey).trans (ih (fun k hk => h k (mem_cons_of_mem _ hk)))

theorem putsBack_nil : a.PutsBack rel [] ↔ ∀ key ∈ rel, a.allocations[key]? = none := by
  constructor
  · rintro ⟨_,manual,auto⟩ key hm
    cases hk : a.allocations[key]? with
    | none => rfl
    | some e =>
      obtain ⟨o,d⟩ := e
      cases d with
      | manual => simpa using manual key o hm hk
      | auto =>
        have : key ∈ a.releasedAutos rel := mem_releasedAutos.mpr ⟨hm,holdsAuto_iff.mpr ⟨o,hk⟩⟩
        simp [← auto] at this
  · intro h
    refine ⟨by simp,fun key o hm hk => by simp [h key hm] at hk,Eq.symm ?_⟩
    refine eq_nil_iff_forall_not_mem.mpr (fun key hm => ?_)
    obtain ⟨hm,ha⟩ := mem_releasedAutos.mp hm
    simp [holdsAuto,h key hm] at ha

theorem mem_filter_other (hn : ∀ ip, (key,ip) ∉ reqs) :
    ∀ r ∈ reqs, r.1 ∈ rel.filter (· ≠ key) ↔ r.1 ∈ rel := by
  rintro ⟨k,i⟩ hr
  have : k ≠ key := by
    rintro rfl
    exact hn i hr
  simp [this]

/-- Either the key's auto address is next on the free list, or the request takes none of them. -/
theorem putsBack_autos (hn : ∀ ip, (key,ip) ∉ reqs)
    (hk : a.allocations[key]? = some (o,requestedKind ip)) :
    (((key,ip) :: reqs).filter (fun r => r.1 ∈ rel ∧ r.2 = none)).map Prod.fst =
        a.releasedAutos rel ↔
      (key ∈ rel → ip = none → (a.releasedAutos rel).head? = some key) ∧
      (reqs.filter (fun r => r.1 ∈ rel.filter (· ≠ key) ∧ r.2 = none)).map Prod.fst =
        a.releasedAutos (rel.filter (· ≠ key)) := by
  have filter : reqs.filter (fun r => r.1 ∈ rel.filter (· ≠ key) ∧ r.2 = none) =
      reqs.filter (fun r => r.1 ∈ rel ∧ r.2 = none) :=
    filter_congr (fun r hr => by simp only [mem_filter_other hn r hr])
  rw [filter]
  by_cases hc : key ∈ rel ∧ ip = none
  · rw [filter_cons_of_pos (by simpa using hc),map_cons]
    constructor
    · intro he
      have hhead : (a.releasedAutos rel).head? = some key := by rw [← he]; rfl
      rw [(free_head hhead).1] at he
      exact ⟨fun _ _ => hhead,(cons.inj he).2⟩
    · rintro ⟨hhead,he⟩
      rw [(free_head (hhead hc.1 hc.2)).1,he]
  · rw [filter_cons_of_neg (by simpa using hc)]
    have : a.releasedAutos (rel.filter (· ≠ key)) = a.releasedAutos rel := by
      by_cases hm : key ∈ rel
      · cases ip with
        | none => exact absurd ⟨hm,rfl⟩ hc
        | some i => exact releasedAutos_other (by simp [holdsAuto,hk,requestedKind])
      · rw [filter_absent hm]
    rw [this]
    exact ⟨fun he => ⟨fun h1 h2 => (hc ⟨h1,h2⟩).elim,he⟩,fun he => he.2⟩

/-- The first request of a list that puts everything back, and the others. -/
theorem putsBack_cons (hn : ∀ ip, (key,ip) ∉ reqs) : a.PutsBack rel ((key,ip) :: reqs) ↔
    a.GivesBack rel key ip ∧ a.PutsBack (rel.filter (· ≠ key)) reqs := by
  constructor
  · rintro ⟨same,manual,hauto⟩
    obtain ⟨o,hk,hman⟩ := same key ip (by simp)
    obtain ⟨hhead,hrest⟩ := (putsBack_autos hn hk).mp hauto
    refine ⟨⟨o,hk,hman,hhead⟩,?_,?_,hrest⟩
    · intro k i hm
      obtain ⟨o',hk',hi'⟩ := same k i (mem_cons_of_mem _ hm)
      exact ⟨o',hk',fun hg => hi' ((mem_filter_other hn _ hm).mp hg)⟩
    · intro k o' hg hk'
      obtain ⟨hg,hne⟩ := mem_filter.mp hg
      obtain ⟨i,hi⟩ := manual k o' hg hk'
      refine ⟨i,(mem_cons.mp hi).resolve_left ?_⟩
      intro he
      cases he
      simp at hne
  · rintro ⟨⟨o,hk,hman,hhead⟩,same,manual,hrest⟩
    refine ⟨?_,?_,(putsBack_autos hn hk).mpr ⟨hhead,hrest⟩⟩
    · intro k i hm
      rcases mem_cons.mp hm with he | hm
      · cases he
        exact ⟨o,hk,hman⟩
      · obtain ⟨o',hk',hi'⟩ := same k i hm
        exact ⟨o',hk',fun hg => hi' ((mem_filter_other hn _ hm).mpr hg)⟩
    · intro k o' hg hk'
      by_cases hkk : k = key
      · exact ⟨ip,by simp [hkk]⟩
      · obtain ⟨i,hi⟩ := manual k o' (mem_filter.mpr ⟨hg,by simpa using hkk⟩) hk'
        exact ⟨i,mem_cons_of_mem _ hi⟩

theorem Valid.putsBack_iff (v : a.Valid) (hn : (reqs.map Prod.fst).Nodup) :
    (a.releaseAll rel).allocateAll reqs = (none,a) ↔ a.PutsBack rel reqs := by
  induction reqs generalizing rel with
  | nil =>
    rw [putsBack_nil]
    constructor
    · intro hb key hm
      have hb : a.releaseAll rel = a := (Prod.mk.inj hb).2
      exact (congrArg (·.allocations[key]?) hb).symm.trans (getElem?_releaseAll.trans (if_pos hm))
    · intro h
      rw [releaseAll_absent h]
      rfl
  | cons r reqs ih =>
    obtain ⟨key,ip⟩ := r
    obtain ⟨hnot,hn⟩ := nodup_cons.mp hn
    have fresh : ∀ ip, (key,ip) ∉ reqs := fun ip hm => hnot (mem_map.mpr ⟨_,hm,rfl⟩)
    rw [putsBack_cons fresh,← ih hn]
    simp only [NamespaceIpAllocator.allocateAll]
    constructor
    · intro he
      cases hb : (a.releaseAll rel).allocate key ip with
      | error e => simp [hb] at he
      | ok res =>
        obtain ⟨r,c⟩ := res
        simp only [hb] at he
        have vb := v.releaseAll rel
        obtain ⟨_,_,⟨o,own,_⟩,_,_⟩ := vb.allocate_lookup hb
        have hc : c.allocations[key]? = a.allocations[key]? := by
          have := (vb.allocate hb).allocateAll_keeps own reqs
          rw [he] at this
          exact own.trans this.symm
        have hback := v.gives_back_only hb hc
        obtain ⟨r',hb'⟩ := v.gives_back hback
        rw [hb] at hb'
        cases hb'
        exact ⟨hback,he⟩
    · rintro ⟨hback,hrest⟩
      obtain ⟨r,hb⟩ := v.gives_back hback
      simp only [hb]
      exact hrest

/-- Where a loop stops. -/
theorem allocateAll_error (h : a.allocateAll reqs = (some e,b)) :
    ∃ pre key ip post, reqs = pre ++ (key,ip) :: post ∧ a.allocateAll pre = (none,b) ∧
      b.allocate key ip = .error e := by
  induction reqs generalizing a with
  | nil => simp [allocateAll] at h
  | cons r reqs ih =>
    obtain ⟨key,ip⟩ := r
    simp only [allocateAll] at h
    cases ha : a.allocate key ip with
    | error e' =>
      simp only [ha,Prod.mk.injEq,Option.some.injEq] at h
      obtain ⟨rfl,rfl⟩ := h
      exact ⟨[],key,ip,reqs,rfl,rfl,ha⟩
    | ok res =>
      simp only [ha] at h
      obtain ⟨pre,key',ip',post,hreqs,hpre,hend⟩ := ih h
      exact ⟨(key,ip) :: pre,key',ip',post,by rw [hreqs]; rfl,by simp [allocateAll,ha,hpre],hend⟩

/-- When a failed change leaves the allocator as it was: it does not fail at all, or it fails
only after it has put everything back. -/
theorem Valid.unchanged_iff (v : a.Valid) (hn : (reqs.map Prod.fst).Nodup) :
    (∀ e b, (a.releaseAll rel).allocateAll reqs = (some e,b) → b = a) ↔
      a.Fits rel reqs ∨ a.Restores rel reqs := by
  rw [← v.fits_iff hn]
  cases hr : (a.releaseAll rel).allocateAll reqs with
  | mk res b =>
    cases res with
    | none => simp
    | some e =>
      simp only [reduceCtorEq,false_or]
      obtain ⟨pre,key,ip,post,hreqs,hpre,hend⟩ := allocateAll_error hr
      have split : ∀ pre key ip post, reqs = pre ++ (key,ip) :: post → (pre.map Prod.fst).Nodup := by
        rintro pre key ip post rfl
        rw [map_append] at hn
        exact (nodup_append.mp hn).1
      constructor
      · intro h
        have hb : b = a := h e b rfl
        subst hb
        exact ⟨pre,key,ip,post,hreqs,(v.putsBack_iff (split _ _ _ _ hreqs)).mp hpre,by rw [hend]; rfl⟩
      · rintro ⟨pre',key',ip',post',hreqs',hback,hrej⟩ e' b' he
        cases he
        have hpre' := (v.putsBack_iff (split _ _ _ _ hreqs')).mpr hback
        rw [hreqs',allocateAll_append,hpre'] at hr
        simp only [NamespaceIpAllocator.allocateAll] at hr
        cases ha : a.allocate key' ip' with
        | ok res =>
          rw [ha] at hrej
          cases hrej
        | error e'' =>
          simp only [ha,Prod.mk.injEq] at hr
          exact hr.2.symm

end NamespaceIpAllocator

end Distvirt
