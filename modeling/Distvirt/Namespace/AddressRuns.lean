import Distvirt.Namespace.Resolve

/-! The allocator over whole runs: what its requests fail for, and which address a key has. -/

namespace Distvirt.NamespaceIpAllocator
open Std (ExtTreeMap)

namespace InPlace

/-! The methods with their writes one by one, as they change the allocator in place: a failure
leaves what has been written until then. -/

abbrev Result := Except IpAllocError IpAllocation × NamespaceIpAllocator

def allocateAuto (a : NamespaceIpAllocator) (key : IpResourceKey) : Result :=
  match a.autoFreeList.getLast? with
  | some offset =>
    let a := { a with autoFreeList := a.autoFreeList.dropLast }
    let a := { a with occupiedOffsets := insert offset a.occupiedOffsets }
    let a := { a with allocations := a.allocations.insert key (offset,.auto) }
    (.ok ⟨a.offsetToIp offset,.auto⟩,a)
  | none =>
    if a.autoZoneSize ≤ a.nextAutoOffset then (.error .autoZoneExhausted,a)
    else
      match (List.range' a.nextAutoOffset (a.autoZoneSize - a.nextAutoOffset)).find?
          (fun candidate => candidate ∉ a.occupiedOffsets) with
      | some candidate =>
        let a := { a with nextAutoOffset := candidate + 1 }
        let a := { a with occupiedOffsets := insert candidate a.occupiedOffsets }
        let a := { a with allocations := a.allocations.insert key (candidate,.auto) }
        (.ok ⟨a.offsetToIp candidate,.auto⟩,a)
      | none => (.error .autoZoneExhausted,a)

def allocateManual (a : NamespaceIpAllocator) (key : IpResourceKey) (ip : Nat) : Result :=
  match a.ipToOffset ip with
  | none => (.error (.ipOutsideManualZone ip),a)
  | some offset =>
    if offset < a.manualZoneStart ∨ a.manualZoneEnd ≤ offset then
      (.error (.ipOutsideManualZone ip),a)
    else if offset ∈ a.occupiedOffsets then
      let existing := (a.allocations.toList.find? (fun e => e.2.1 == offset)).map (·.1)
      (.error (.manualIpCollision ip (existing.getD key)),a)
    else
      let a := { a with occupiedOffsets := insert offset a.occupiedOffsets }
      let a := { a with allocations := a.allocations.insert key (offset,.manual) }
      (.ok ⟨ip,.manual⟩,a)

def allocate (a : NamespaceIpAllocator) (key : IpResourceKey) (explicitIp : Option Nat) : Result :=
  match a.allocations[key]? with
  | some (offset,existing) =>
    if existing ≠ requestedKind explicitIp then
      (.error (.kindMigration key existing (requestedKind explicitIp)),a)
    else (.ok ⟨a.offsetToIp offset,existing⟩,a)
  | none =>
    match explicitIp with
    | none => allocateAuto a key
    | some ip => allocateManual a key ip

end InPlace

inductive AddressOp where
  | allocate (key : IpResourceKey) (explicitIp : Option Nat)
  | release (key : IpResourceKey)
deriving DecidableEq

def AddressOp.step (a : NamespaceIpAllocator) : AddressOp → NamespaceIpAllocator
  | .allocate key explicitIp => (InPlace.allocate a key explicitIp).2
  | .release key => a.release key

/-- Why a new key may be refused: the auto zone is full, or the address is outside the manual zone or
another key's. -/
def Refusable (a : NamespaceIpAllocator) (key : IpResourceKey) : Option Nat → Prop
  | none => ∀ o < a.autoZoneSize, ∃ k, a.held k = some (a.offsetToIp o)
  | some ip => ¬ a.inManualZone ip ∨ ∃ k, k ≠ key ∧ a.held k = some ip

/-- What is promised of a request with its result, and of what follows. -/
structure Honest (a : NamespaceIpAllocator) (key : IpResourceKey) (explicitIp : Option Nat)
    (res : InPlace.Result) : Prop where
  complete : a.held key = none → ∀ e, res.1 = .error e → a.Refusable key explicitIp
  unchanged : ∀ e, res.1 = .error e → res.2 = a
  granted : ∀ r, res.1 = .ok r → res.2.held key = some r.ip ∧ r.ip < 2 ^ 32
  keeps : ∀ (more : List AddressOp) k ip, .release k ∉ more → a.held k = some ip →
    (more.foldl AddressOp.step a).held k = some ip
  exact : ∀ r ip, res.1 = .ok r → explicitIp = some ip → r.ip = ip

variable {a b : NamespaceIpAllocator} {key k : IpResourceKey} {ip : Option Nat}

/-- Nothing is written before the last check. -/
theorem allocate_inPlace : InPlace.allocate a key ip =
    match a.allocate key ip with
    | .ok (r,b) => (.ok r,b)
    | .error e => (.error e,a) := by
  unfold InPlace.allocate allocate
  cases a.allocations[key]? with
  | some e =>
    simp only
    split <;> rfl
  | none =>
    cases ip with
    | none =>
      simp only [InPlace.allocateAuto,allocateAuto]
      cases a.autoFreeList.getLast? with
      | some o => rfl
      | none =>
        simp only
        split
        · rfl
        · generalize List.find? _ _ = found
          cases found <;> rfl
    | some ip =>
      simp only [InPlace.allocateManual,allocateManual]
      cases a.ipToOffset ip with
      | none => rfl
      | some o =>
        simp only
        split
        · rfl
        · split <;> rfl

/-- A step keeps the invariant, the zones, and every address that it does not release. -/
theorem Valid.step (v : a.Valid) (op : AddressOp) : (op.step a).Valid ∧
    (op.step a).firstHost = a.firstHost ∧ (op.step a).manualZoneEnd = a.manualZoneEnd ∧
    ∀ k, op ≠ .release k → ∀ e, a.allocations[k]? = some e →
      (op.step a).allocations[k]? = some e := by
  cases op with
  | release key =>
    obtain ⟨hf,-,he⟩ := zones_of_frame (a.releaseAll_frame [key])
    refine ⟨v.release key,hf,he,fun k hk e h => (getElem?_release.trans (if_neg ?_)).trans h⟩
    rintro rfl
    exact hk rfl
  | allocate key ip =>
    simp only [AddressOp.step,allocate_inPlace]
    cases h : a.allocate key ip with
    | error e => exact ⟨v,rfl,rfl,fun _ _ _ h => h⟩
    | ok res =>
      obtain ⟨⟨hf,-,he⟩,hother,-,hsame,-⟩ := v.allocate_lookup h
      refine ⟨v.allocate h,hf,he,fun k _ e hk => ?_⟩
      by_cases hkey : k = key
      · subst hkey
        rw [hsame (by rw [hk]; exact Option.some_ne_none _)]
        exact hk
      · exact (hother k hkey).trans hk

theorem Valid.run (v : a.Valid) (ops : List AddressOp) : (ops.foldl AddressOp.step a).Valid ∧
    (ops.foldl AddressOp.step a).firstHost = a.firstHost ∧
    (ops.foldl AddressOp.step a).manualZoneEnd = a.manualZoneEnd ∧
    ∀ k, .release k ∉ ops → ∀ e, a.allocations[k]? = some e →
      (ops.foldl AddressOp.step a).allocations[k]? = some e := by
  induction ops generalizing a with
  | nil => exact ⟨v,rfl,rfl,fun _ _ _ h => h⟩
  | cons op ops ih =>
    obtain ⟨v',hf,he,hk⟩ := v.step op
    obtain ⟨v'',hf',he',hk'⟩ := ih v'
    refine ⟨v'',hf'.trans hf,he'.trans he,fun k hm e h => ?_⟩
    rw [List.mem_cons,not_or] at hm
    exact hk' k hm.2 e (hk k (Ne.symm hm.1) e h)

theorem Valid.complete (v : a.Valid) (h : a.allocate key ip = .error e) (fresh : a.held key = none) :
    a.Refusable key ip := by
  have ha := v.allocated key ip
  rw [h] at ha
  cases ha with
  | migrates hk => simp [held,hk] at fresh
  | exhausted _ hf hle =>
    -- an offset of the zone is below the cursor, and none of those is free
    intro o ho
    have := (v.covered o (Nat.lt_of_lt_of_le ho hle)).resolve_right (by simp [hf])
    obtain ⟨k,d,hk⟩ := (v.occupied o).mp this
    exact ⟨k,by simp [held,hk]⟩
  | outside _ hz => exact .inl hz
  | @taken _ _ _ k _ hk =>
    refine .inr ⟨k,?_,by simp [held,hk]⟩
    rintro rfl
    simp [held,hk] at fresh

/-- The address that a granted request returns is then the key's, and the asked one unless the key
had another before. -/
theorem Valid.granted (v : a.Valid) (h : a.allocate key ip = .ok (r,b)) : b.held key = some r.ip ∧
    ((∀ i, ip = some i → r.ip = i) ↔
      ∀ i o, ip = some i → a.allocations[key]? = some (o,.manual) → a.offsetToIp o = i) := by
  have own : ∀ o d, (a.occupy key o d).held key = some (a.offsetToIp o) := by
    intro o d
    simp only [held,getElem?_occupy,↓reduceIte]
    rfl
  have ha := v.allocated key ip
  rw [h] at ha
  cases ha with
  | known hk =>
    refine ⟨by simp [held,hk],fun h i o hi ho => ?_,fun h i hi => ?_⟩
    · cases (Prod.mk.inj (Option.some.inj (hk.symm.trans ho))).1
      exact h i hi
    · subst hi
      exact h i _ rfl hk
  | popped fresh hf => exact ⟨own _ _,by simp⟩
  | advanced fresh => exact ⟨own _ _,by simp⟩
  | manual fresh => exact ⟨own _ _,by simp [fresh]⟩

/-- Requests are honest unless a key that has a manual address asks for another one. -/
theorem honest_iff (hp : 1 ≤ prefixLen ∧ prefixLen ≤ 30)
    (hend : subnet + 2 ^ (32 - prefixLen) - 1 < 2 ^ 32 - 1)
    (wgReserve : Nat) (ops : List AddressOp) (key : IpResourceKey) (explicitIp : Option Nat) :
    let a := ops.foldl AddressOp.step (new subnet prefixLen wgReserve)
    a.Honest key explicitIp (InPlace.allocate a key explicitIp) ↔ ∀ ip o, explicitIp = some ip →
      a.allocations[key]? = some (o,.manual) → a.offsetToIp o = ip := by
  intro a
  obtain ⟨v,hf,he,-⟩ := (valid_new subnet prefixLen wgReserve).run ops
  change a.Valid at v
  change a.firstHost = _ at hf
  change a.manualZoneEnd = _ at he
  have word : ∀ i, i < a.firstHost + a.manualZoneEnd → i < 2 ^ 32 := by
    intro i hi
    have : 2 ^ 2 ≤ 2 ^ (32 - prefixLen) := Nat.pow_le_pow_right (by decide) (by omega)
    simp only [new,if_neg (show prefixLen ≠ 0 by omega)] at hf he
    omega
  have keeps : ∀ (more : List AddressOp) k ip, .release k ∉ more → a.held k = some ip →
      (more.foldl AddressOp.step a).held k = some ip := by
    intro more k ip hm hk
    obtain ⟨-,hf,-,hkept⟩ := v.run more
    obtain ⟨e,he,rfl⟩ := Option.map_eq_some_iff.mp hk
    rw [held,hkept k hm e he]
    simp only [Option.map_some,offsetToIp,hf]
  rw [allocate_inPlace]
  cases h : a.allocate key explicitIp with
  | error e =>
    refine ⟨fun _ ip o hip hk => ?_,fun _ => ?_⟩
    · simp [allocate,hk,hip,requestedKind] at h
    · exact ⟨fun fresh _ _ => v.complete h fresh,fun _ _ => rfl,fun _ hr => (by cases hr),keeps,
        fun _ _ hr => (by cases hr)⟩
  | ok res =>
    obtain ⟨r,b⟩ := res
    obtain ⟨hheld,hexact⟩ := v.granted h
    refine Iff.trans ⟨fun honest ip hip => honest.exact r ip rfl hip,fun hexact => ?_⟩ hexact
    refine ⟨fun _ _ he => (by cases he),fun _ he => (by cases he),fun _ hr => ?_,keeps,
      fun _ ip hr => ?_⟩
    · cases hr
      exact ⟨hheld,word _ (v.allocate_within h)⟩
    · cases hr
      exact hexact ip

/-- A workload and a service are allocated and the workload is released. -/
def sampleOps : List AddressOp :=
  [.allocate (.workload "web") none,.allocate (.service "db") (some 0xac100080),
    .release (.workload "web")]

theorem sampleOps_honest : let a := sampleOps.foldl AddressOp.step (new 0xac100000 24 10)
    a.Honest (.workload "web") none (InPlace.allocate a (.workload "web") none) :=
  (honest_iff (by decide) (by decide) 10 sampleOps (.workload "web") none).mpr (by simp)

/-- A key that asks for another address is told its old one. -/
theorem other_address_ignored :
    let a := AddressOp.step (new 0xac100000 24 10) (.allocate (.service "db") (some 0xac100080))
    let res := InPlace.allocate a (.service "db") (some 0xac100081)
    res.1 = .ok ⟨0xac100080,.manual⟩ ∧ ¬ a.Honest (.service "db") (some 0xac100081) res := by
  intro a res
  have h : res.1 = .ok ⟨0xac100080,.manual⟩ := by decide +kernel
  exact ⟨h,fun honest => absurd (honest.exact _ _ h rfl) (by decide)⟩

end Distvirt.NamespaceIpAllocator
