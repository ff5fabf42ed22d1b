import Mathlib.Data.List.Sort
import Mathlib.Data.List.Dedup

/-! Directed edges between node ids, indexed in both directions. The forward lists keep the
order their owner gave them, the reverse sets are iterated in ascending order. -/

namespace Distvirt.SmRouter

open Std (ExtTreeMap)
open List

/-- Ids in ascending order without repetition, as a `BTreeSet` iterates them. -/
def ascending (ids : List Nat) : List Nat := (ids.insertionSort (· ≤ ·)).dedup

theorem mem_ascending : x ∈ ascending ids ↔ x ∈ ids := by
  simp [ascending]

theorem ascending_sorted (ids : List Nat) : (ascending ids).Pairwise (· < ·) := by
  have le : (ascending ids).Pairwise (· ≤ ·) :=
    (List.pairwise_insertionSort (· ≤ ·) ids).sublist (List.dedup_sublist _)
  exact (le.and (List.nodup_dedup _)).imp (fun h => Nat.lt_of_le_of_ne h.1 h.2)

/-- Ascending lists with the same members are the same. -/
theorem eq_of_ascending {l l' : List Nat} (h : l.Pairwise (· < ·)) (h' : l'.Pairwise (· < ·))
    (hm : ∀ x, x ∈ l ↔ x ∈ l') : l = l' := by
  refine List.Perm.eq_of_pairwise' (r := (· ≤ ·)) (h.imp Nat.le_of_lt) (h'.imp Nat.le_of_lt) ?_
  exact (perm_ext_iff_of_nodup (h.imp Nat.ne_of_lt) (h'.imp Nat.ne_of_lt)).mpr hm

def insertAscending (x : Nat) (ids : List Nat) : List Nat :=
  if x ∈ ids then ids else ids.orderedInsert (· ≤ ·) x

theorem mem_insertAscending : y ∈ insertAscending x ids ↔ y = x ∨ y ∈ ids := by
  unfold insertAscending
  split
  · rename_i h
    constructor
    · exact .inr
    · rintro (rfl | h')
      · exact h
      · exact h'
  · simp

theorem insertAscending_sorted (h : ids.Pairwise (· < ·)) :
    (insertAscending x ids).Pairwise (· < ·) := by
  unfold insertAscending
  split
  · exact h
  · rename_i hx
    have le : (ids.orderedInsert (· ≤ ·) x).Pairwise (· ≤ ·) :=
      List.Pairwise.orderedInsert x ids (h.imp Nat.le_of_lt)
    have nodup : (ids.orderedInsert (· ≤ ·) x).Nodup :=
      (perm_orderedInsert (· ≤ ·) x ids).nodup_iff.mpr (nodup_cons.mpr ⟨hx,h.imp Nat.ne_of_lt⟩)
    exact (le.and nodup).imp (fun h => Nat.lt_of_le_of_ne h.1 h.2)

/-- The target lists by source. An id without edges has the empty list. -/
abbrev Forward := ExtTreeMap Nat (List Nat)

namespace Forward

def targets (f : Forward) (source : Nat) : List Nat := f[source]?.getD []

/-- An empty list is not stored. -/
def store (f : Forward) (source : Nat) (newTargets : List Nat) : Forward :=
  if newTargets = [] then f.erase source else f.insert source newTargets

def drop (f : Forward) (target : Nat) : Forward :=
  f.filterMap (fun _ targets =>
    let targets := targets.filter (· ≠ target)
    if targets = [] then none else some targets)

variable {f : Forward} {source s target : Nat} {newTargets : List Nat}

@[simp] theorem targets_empty : targets ∅ source = [] := by simp [targets]

theorem targets_store : (f.store source newTargets).targets s =
    if s = source then newTargets else f.targets s := by
  have key : compare source s = .eq ↔ s = source := by rw [compare_eq_iff_eq,eq_comm]
  unfold store targets
  split
  · rename_i h
    simp only [ExtTreeMap.getElem?_erase,key,h]
    split <;> rfl
  · simp only [ExtTreeMap.getElem?_insert,key]
    split <;> rfl

theorem targets_drop : (f.drop target).targets s = (f.targets s).filter (· ≠ target) := by
  unfold drop targets
  rw [ExtTreeMap.getElem?_filterMap]
  cases f[s]? with
  | none => simp
  | some ts =>
    simp only [Option.pbind_some,Option.getD_some]
    split
    · rename_i h
      rw [h]
      rfl
    · rfl

end Forward

/-- `rev` is the index of `fwd` by target. -/
structure EdgeMap where
  fwd : Forward
  rev : Nat → List Nat
  inverse : ∀ source target, source ∈ rev target ↔ target ∈ fwd.targets source
  sorted : ∀ target, (rev target).Pairwise (· < ·)

namespace EdgeMap

def empty : EdgeMap :=
  { fwd := ∅, rev := fun _ => [], inverse := by simp, sorted := by simp }

instance : Inhabited EdgeMap := ⟨empty⟩

def targets (m : EdgeMap) (source : Nat) : List Nat := m.fwd.targets source

def sources (m : EdgeMap) (target : Nat) : List Nat := m.rev target

/-- Gives `source` a new target list and moves it in the reverse index. -/
def replace (m : EdgeMap) (source : Nat) (newTargets : List Nat) : EdgeMap where
  fwd := m.fwd.store source newTargets
  rev target :=
    if target ∈ newTargets then insertAscending source (m.rev target)
    else (m.rev target).filter (· ≠ source)
  inverse s target := by
    rw [Forward.targets_store]
    by_cases hs : s = source
    · subst hs
      split
      · rename_i h
        simp [mem_insertAscending,h]
      · rename_i h
        simp [h]
    · rw [if_neg hs]
      split
      · simp [mem_insertAscending,hs,m.inverse]
      · simp [hs,m.inverse]
  sorted target := by
    split
    · exact insertAscending_sorted (m.sorted target)
    · exact (m.sorted target).filter _

/-- The targets an update removes and adds, in the order in which they are reported.
Clearing a source reports its old list as it was given. -/
def changed (m : EdgeMap) (source : Nat) (newTargets : List Nat) : List Nat :=
  if newTargets = [] then m.targets source
  else (ascending (m.targets source)).filter (· ∉ newTargets) ++
    (ascending newTargets).filter (· ∉ m.targets source)

/-- A list with the same targets as before changes nothing, not even the order. -/
def setEdges (m : EdgeMap) (source : Nat) (newTargets : List Nat) : EdgeMap :=
  if m.changed source newTargets = [] then m else m.replace source newTargets

def removeTarget (m : EdgeMap) (target : Nat) : EdgeMap where
  fwd := m.fwd.drop target
  rev := Function.update m.rev target []
  inverse source t := by
    rw [Forward.targets_drop]
    by_cases ht : t = target
    · subst ht
      simp
    · rw [Function.update_of_ne ht]
      simp [ht,m.inverse]
  sorted t := by
    by_cases ht : t = target
    · subst ht
      simp
    · rw [Function.update_of_ne ht]
      exact m.sorted t

/-- Enters one source into the reverse index, target by target. -/
def enter (rev : Nat → List Nat) (entry : Nat × List Nat) : Nat → List Nat :=
  entry.2.foldl (fun rev target =>
    Function.update rev target (insertAscending entry.1 (rev target))) rev

theorem insertAscending_self : insertAscending x (insertAscending x ids) = insertAscending x ids :=
  if_pos (mem_insertAscending.mpr (.inl rfl))

theorem enter_apply {rev : Nat → List Nat} : enter rev entry target =
    if target ∈ entry.2 then insertAscending entry.1 (rev target) else rev target := by
  unfold enter
  induction entry.2 generalizing rev with
  | nil => rfl
  | cons t targets ih =>
    rw [foldl_cons,ih]
    by_cases ht : target = t
    · subst ht
      simp [insertAscending_self]
    · simp [ht]

theorem enter_all {rev : Nat → List Nat} (entries : List (Nat × List Nat))
    (h : ∀ t, (rev t).Pairwise (· < ·)) (target : Nat) :
    (entries.foldl enter rev target).Pairwise (· < ·) ∧
      ∀ source, source ∈ entries.foldl enter rev target ↔
        (∃ targets, (source,targets) ∈ entries ∧ target ∈ targets) ∨ source ∈ rev target := by
  induction entries generalizing rev with
  | nil => simp [h]
  | cons entry entries ih =>
    obtain ⟨s,targets⟩ := entry
    have hentered : ∀ t, (enter rev (s,targets) t).Pairwise (· < ·) := by
      intro t
      rw [enter_apply]
      split
      · exact insertAscending_sorted (h t)
      · exact h t
    obtain ⟨hsorted,hmem⟩ := ih hentered
    refine ⟨hsorted,fun source => ?_⟩
    rw [foldl_cons,hmem,enter_apply]
    by_cases ht : target ∈ targets
    · simp only [ht,if_true,mem_insertAscending,mem_cons,Prod.mk.injEq]
      grind
    · simp only [ht,if_false,mem_cons,Prod.mk.injEq]
      grind

/-- The map with the given target lists. -/
def fromFwd (fwd : Forward) : EdgeMap where
  fwd := fwd
  rev := fwd.toList.foldl enter (fun _ => [])
  inverse source target := by
    rw [(enter_all _ (fun _ => .nil) target).2]
    simp only [ExtTreeMap.mem_toList_iff_getElem?_eq_some,List.not_mem_nil,or_false,
      Forward.targets]
    cases fwd[source]? with
    | none => simp
    | some targets => simp
  sorted target := (enter_all _ (fun _ => .nil) target).1

/-- The reverse index says nothing that the target lists do not say. -/
theorem ext_fwd {m m' : EdgeMap} (h : m.fwd = m'.fwd) : m = m' := by
  have hr : m.rev = m'.rev := by
    funext target
    refine eq_of_ascending (m.sorted target) (m'.sorted target) (fun source => ?_)
    rw [m.inverse,m'.inverse,h]
  cases m
  cases m'
  simp only at h hr
  subst h hr
  rfl

theorem fromFwd_fwd (m : EdgeMap) : fromFwd m.fwd = m := ext_fwd rfl

@[simp] theorem empty_targets : empty.targets source = [] := rfl

variable {m : EdgeMap}

theorem mem_sources : source ∈ m.sources target ↔ target ∈ m.targets source := m.inverse _ _

theorem removeTarget_targets :
    (m.removeTarget target).targets source = (m.targets source).filter (· ≠ target) :=
  Forward.targets_drop

theorem mem_changed : t ∈ m.changed source newTargets ↔
    ¬ (t ∈ m.targets source ↔ t ∈ newTargets) := by
  unfold changed targets
  split
  · rename_i h
    simp [h]
  · simp only [mem_append,mem_filter,mem_ascending,decide_eq_true_eq]
    tauto

/-- After an update a target is reached by the source exactly if it was asked for. -/
theorem mem_setEdges_self : t ∈ (m.setEdges source newTargets).targets source ↔ t ∈ newTargets := by
  unfold setEdges
  split
  · rename_i h
    by_contra hne
    have : t ∈ m.changed source newTargets := mem_changed.mpr hne
    rw [h] at this
    cases this
  · simp [replace,targets,Forward.targets_store]

/-- The list is stored as it is given, unless it only reorders the old one. -/
theorem setEdges_targets (h : newTargets = m.targets source ∨
    ∃ t, ¬ (t ∈ m.targets source ↔ t ∈ newTargets)) :
    (m.setEdges source newTargets).targets source = newTargets := by
  unfold setEdges
  split
  · rename_i hc
    rcases h with rfl | ⟨t,ht⟩
    · rfl
    · have : t ∈ m.changed source newTargets := mem_changed.mpr ht
      rw [hc] at this
      cases this
  · simp [replace,targets,Forward.targets_store]

theorem setEdges_other (h : s ≠ source) :
    (m.setEdges source newTargets).targets s = m.targets s := by
  unfold setEdges
  split
  · rfl
  · exact Forward.targets_store.trans (if_neg h)

theorem setEdges_nil : (m.setEdges source []).targets source = [] :=
  eq_nil_iff_forall_not_mem.mpr (fun _ h => by simp [mem_setEdges_self] at h)

/-- The sources of a target that the update does not report are the same as before. -/
theorem setEdges_sources (h : t ∉ m.changed source newTargets) :
    (m.setEdges source newTargets).sources t = m.sources t := by
  have same : t ∈ m.targets source ↔ t ∈ newTargets := by
    by_contra hne
    exact h (mem_changed.mpr hne)
  unfold setEdges
  split
  · rfl
  · simp only [replace,sources]
    split
    · rename_i hn
      exact if_pos ((m.inverse _ _).mpr (same.mpr hn))
    · rename_i hn
      refine filter_eq_self.mpr (fun s hs => ?_)
      have : source ∉ m.rev t := fun hm => hn (same.mp ((m.inverse _ _).mp hm))
      simp only [ne_eq,decide_eq_true_eq]
      rintro rfl
      exact this hs

end EdgeMap

end Distvirt.SmRouter
