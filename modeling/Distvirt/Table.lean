import Mathlib.Data.List.AList
import Mathlib.Logic.Function.Basic

/-! Hash maps as association lists with distinct keys. The order of the entries stands for the
unspecified order in which a hash map is iterated. -/

/-- A finite map from `K` to `V`. -/
abbrev Table (K V : Type) := AList (fun _ : K => V)

theorem Function.update_cases [DecidableEq α] {f : α → β} (h : update f a b x = y) :
    x = a ∧ b = y ∨ x ≠ a ∧ f x = y := by
  by_cases hx : x = a
  · subst hx
    rw [update_self] at h
    exact .inl ⟨rfl,h⟩
  · rw [update_of_ne hx] at h
    exact .inr ⟨hx,h⟩

namespace AList

open List Function

variable {K V W : Type} [DecidableEq K] {t : Table K V}

def toList (t : Table K V) : List (K × V) := t.entries.map (fun e => (e.1,e.2))

theorem mem_toList : (k,v) ∈ t.toList ↔ t.lookup k = some v := by
  simp only [toList,mem_map,Prod.mk.injEq]
  constructor
  · rintro ⟨e,he,rfl,rfl⟩
    exact mem_lookup_iff.mpr he
  · intro h
    exact ⟨⟨k,v⟩,mem_lookup_iff.mp h,rfl,rfl⟩

omit [DecidableEq K] in
theorem map_fst_toList (t : Table K V) : t.toList.map Prod.fst = t.keys := by
  unfold toList
  rw [map_map]
  rfl

theorem lookup_insert_if : (t.insert k v).lookup k' = if k' = k then some v else t.lookup k' := by
  split
  · subst k'
    exact lookup_insert t
  · rename_i hne
    exact lookup_insert_ne hne

theorem lookup_erase_if : (t.erase k).lookup k' = if k' = k then none else t.lookup k' := by
  split
  · subst k'
    exact lookup_erase k t
  · rename_i hne
    exact lookup_erase_ne hne

theorem lookup_insert_fun :
    (fun k' => (t.insert k v).lookup k') = update (fun k' => t.lookup k') k (some v) :=
  funext (fun _ => by rw [lookup_insert_if,update_apply])

theorem lookup_erase_fun :
    (fun k' => (t.erase k).lookup k') = update (fun k' => t.lookup k') k none :=
  funext (fun _ => by rw [lookup_erase_if,update_apply])

theorem insert_cases (h : (t.insert k v).lookup k' = some v') :
    k' = k ∧ v' = v ∨ k' ≠ k ∧ t.lookup k' = some v' := by
  rw [lookup_insert_if] at h
  split at h
  · exact .inl ⟨‹_›,(Option.some.inj h).symm⟩
  · exact .inr ⟨‹_›,h⟩

theorem erase_cases (h : (t.erase k).lookup k' = some v) : k' ≠ k ∧ t.lookup k' = some v := by
  rw [lookup_erase_if] at h
  split at h
  · cases h
  · exact ⟨‹_›,h⟩

theorem mem_iff : k ∈ t ↔ ∃ v, t.lookup k = some v := by
  rw [← lookup_isSome,Option.isSome_iff_exists]

/-- `retain` of a hash map, with a change of the values that stay. -/
def retain (t : Table K V) (f : K → V → Option W) : Table K W where
  entries := t.entries.filterMap (fun e => (f e.1 e.2).map (Sigma.mk e.1))
  nodupKeys := by
    have hsub : (t.entries.filterMap (fun e => (f e.1 e.2).map
        (@Sigma.mk K (fun _ => W) e.1))).keys.Sublist t.entries.keys := by
      induction t.entries with
      | nil => exact .slnil
      | cons e l ih =>
        simp only [List.filterMap_cons]
        cases f e.1 e.2 with
        | none => exact ih.cons _
        | some w => exact ih.cons_cons _
    exact List.Nodup.sublist hsub t.nodupKeys

theorem lookup_retain : (t.retain f).lookup k = (t.lookup k).bind (f k) := by
  have hmem : ∀ w, (t.retain f).lookup k = some w ↔ (t.lookup k).bind (f k) = some w := by
    intro w
    rw [← Option.mem_def,mem_lookup_iff]
    simp only [retain,mem_filterMap,Option.map_eq_some_iff,Option.bind_eq_some_iff]
    constructor
    · rintro ⟨⟨k',v⟩,he,w',hf,heq⟩
      cases heq
      exact ⟨v,mem_lookup_iff.mpr he,hf⟩
    · rintro ⟨v,hv,hf⟩
      exact ⟨⟨k,v⟩,mem_lookup_iff.mp hv,w,hf,rfl⟩
  cases h : (t.lookup k).bind (f k) with
  | some w => exact (hmem w).mpr h
  | none =>
    cases h' : (t.retain f).lookup k with
    | none => rfl
    | some w =>
      rw [(hmem w).mp h'] at h
      cases h

/-- A loop over the entries that changes at each entry only what is seen at its key. -/
theorem foldl_toList (view : S → K → X) (change : V → X → X)
    (hf : ∀ s k v k', view (f s (k,v)) k' = if k' = k then change v (view s k') else view s k')
    (s : S) : view (t.toList.foldl f s) k =
      match t.lookup k with
      | some v => change v (view s k)
      | none => view s k := by
  obtain ⟨l,hl⟩ := t
  simp only [toList,lookup]
  induction l generalizing s with
  | nil => rfl
  | cons e l ih =>
    obtain ⟨he,hl⟩ := nodupKeys_cons.mp hl
    simp only [map_cons,foldl_cons]
    rw [ih _ hl,hf]
    by_cases hk : k = e.1
    · subst hk
      rw [dlookup_eq_none.mpr he,dlookup_cons_eq]
      simp
    · rw [if_neg hk,dlookup_cons_ne _ _ hk]

/-- How many entries have the property. -/
def tally (t : Table K V) (p : V → Bool) : Nat := t.entries.countP (fun e => p e.2)

theorem tally_insert (h : k ∉ t) : (t.insert k v).tally p = t.tally p + if p v then 1 else 0 := by
  rw [tally,entries_insert_of_notMem h,countP_cons,tally]

theorem toList_erase_perm (h : t.lookup k = some v) : t.toList.Perm ((k,v) :: (t.erase k).toList) := by
  obtain ⟨b,l₁,l₂,-,ht,he⟩ := exists_of_kerase (show k ∈ t.entries.keys from mem_iff.mpr ⟨v,h⟩)
  have hb : t.lookup k = some b := mem_lookup_iff.mpr (ht ▸ mem_append_right _ mem_cons_self)
  cases h.symm.trans hb
  change (t.entries.map _).Perm (_ :: (t.entries.kerase k).map _)
  rw [he,ht]
  simp only [map_append,map_cons]
  exact perm_middle

omit [DecidableEq K] in
theorem tally_eq_countP (t : Table K V) : t.tally p = t.toList.countP (fun e => p e.2) := by
  rw [tally,toList,countP_map]
  rfl

theorem tally_erase (h : t.lookup k = some v) :
    (t.erase k).tally p + (if p v then 1 else 0) = t.tally p := by
  rw [tally_eq_countP t,(toList_erase_perm h).countP_eq,countP_cons,tally_eq_countP]

theorem erase_of_not_mem (h : k ∉ t) : t.erase k = t :=
  ext (kerase_of_notMem_keys h)

end AList
