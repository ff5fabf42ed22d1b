import Distvirt.SmRouter.EdgeMap

/-! The edge map as it is stored. Both directions are edited in place, and an entry that becomes
empty is removed. Between machine ids it holds what the router's edge map holds. -/

namespace Distvirt.SmRouter

open Std (ExtTreeMap ExtTreeSet TransOrd LawfulEqOrd)
open List Std.ExtTreeMap

namespace Entries

variable {α β : Type*} [Ord α] [TransOrd α]

/-- A key without an entry has the empty value. -/
def look (e : β) (m : ExtTreeMap α β) (k : α) : β := m[k]?.getD e

/-- No key maps to the empty value. -/
def Tidy (e : β) (m : ExtTreeMap α β) : Prop := ∀ k : α, m[k]? ≠ some e

/-- Edits the value of a key, if there is one, and removes it if that makes it empty. -/
def prune [DecidableEq β] (e : β) (g : β → β) (m : ExtTreeMap α β) (k : α) : ExtTreeMap α β :=
  m.alter k (fun v => (v.map g).filter (· ≠ e))

variable {m m' : ExtTreeMap α β} {e : β} {g : β → β} {k : α}

/-- One value has been edited. -/
structure Edited (e : β) (g : β → β) (k : α) (m m' : ExtTreeMap α β) : Prop where
  tidy : Tidy e m → Tidy e m'
  self : look e m' k = g (look e m k)
  other : ∀ k', k' ≠ k → look e m' k' = look e m k'

/-- A loop that edits one value after the other. -/
theorem edited_foldl [DecidableEq α] {f : ExtTreeMap α β → α → ExtTreeMap α β}
    (hf : ∀ m k, Edited e g k m (f m k)) (hg : ∀ v, g (g v) = g v) (l : List α) :
    (Tidy e m → Tidy e (l.foldl f m)) ∧
      ∀ k, look e (l.foldl f m) k = if k ∈ l then g (look e m k) else look e m k := by
  induction l generalizing m with
  | nil => simp
  | cons k l ih =>
    obtain ⟨htidy,hlook⟩ := ih (m := f m k)
    have hk := hf m k
    refine ⟨fun h => htidy (hk.tidy h),fun k' => ?_⟩
    rw [foldl_cons,hlook]
    by_cases heq : k' = k
    · subst heq
      simp [hk.self,hg]
    · simp [heq,hk.other k' heq]

variable [LawfulEqOrd α]

theorem edited_of_get {v : Option β} (hget : ∀ k', m'[k']? = if compare k k' = .eq then v else m[k']?)
    (hv : v.getD e = g (look e m k)) (he : v ≠ some e) : Edited e g k m m' := by
  have hself : m'[k]? = v := by rw [hget,if_pos Std.ReflCmp.compare_self]
  have hother : ∀ k', k' ≠ k → m'[k']? = m[k']? := fun k' hk => by
    rw [hget,if_neg (fun heq => hk (Std.compare_eq_iff_eq.mp heq).symm)]
  refine ⟨fun h k' => ?_,by rwa [look,hself],fun k' hk => by rw [look,hother k' hk,look]⟩
  by_cases hk : k' = k
  · rwa [hk,hself]
  · rw [hother k' hk]
    exact h k'

theorem edited_prune [DecidableEq β] (he : g e = e) : Edited e g k m (prune e g m k) := by
  refine edited_of_get (fun _ => getElem?_alter) ?_ (by simp [Option.filter_eq_some_iff])
  unfold look
  cases m[k]? with
  | none => exact he.symm
  | some v => by_cases hv : g v = e <;> simp [Option.filter,hv]

theorem edited_erase (h : g (look e m k) = e) : Edited e g k m (m.erase k) :=
  edited_of_get (fun _ => getElem?_erase) h.symm nofun

theorem tidy_ext (h : Tidy e m) (h' : Tidy e m') (hl : ∀ k, look e m k = look e m' k) : m = m' := by
  refine ext_getElem? (fun k => ?_)
  have heq := hl k
  have hk := h k
  have hk' := h' k
  unfold look at heq
  cases hm : m[k]? <;> cases hm' : m'[k]? <;> simp_all

end Entries

open Entries

structure EdgeDiff (Tgt : Type*) where
  added : List Tgt
  removed : List Tgt

/-- The target lists by source, and the sources by target. -/
structure EdgeIndex (Src Tgt : Type*) [Ord Src] [Ord Tgt] where
  fwd : ExtTreeMap Src (List Tgt)
  rev : ExtTreeMap Tgt (ExtTreeSet Src)

inductive EdgeOp (Src Tgt : Type*)
  | setEdges (source : Src) (newTargets : List Tgt)
  | removeTarget (target : Tgt)

namespace EdgeIndex

variable {Src Tgt : Type*} [Ord Src] [TransOrd Src] [LawfulEqOrd Src]
  [Ord Tgt] [TransOrd Tgt] [LawfulEqOrd Tgt] [DecidableEq Tgt]

def link (source : Src) (rev : ExtTreeMap Tgt (ExtTreeSet Src)) (target : Tgt) :
    ExtTreeMap Tgt (ExtTreeSet Src) :=
  rev.alter target (fun sources => some ((sources.getD ∅).insert source))

def unlink (source : Src) : ExtTreeMap Tgt (ExtTreeSet Src) → Tgt → ExtTreeMap Tgt (ExtTreeSet Src) :=
  prune ∅ (·.erase source)

def fromFwd (fwd : ExtTreeMap Src (List Tgt)) : EdgeIndex Src Tgt where
  fwd := fwd
  rev := fwd.toList.foldl (fun rev e => e.2.foldl (link e.1) rev) ∅

def setEdges (m : EdgeIndex Src Tgt) (source : Src) (newTargets : List Tgt) :
    Option (EdgeDiff Tgt) × EdgeIndex Src Tgt :=
  if newTargets = [] then
    match m.fwd[source]? with
    | none => (none,m)
    | some oldTargets =>
      if oldTargets = [] then (none,{ m with fwd := m.fwd.erase source })
      else (some ⟨[],oldTargets⟩,⟨m.fwd.erase source,oldTargets.foldl (unlink source) m.rev⟩)
  else
    let oldSet := ExtTreeSet.ofList (look [] m.fwd source)
    let newSet := ExtTreeSet.ofList newTargets
    let removed := (oldSet \ newSet).toList
    let added := (newSet \ oldSet).toList
    if removed = [] ∧ added = [] then (none,m)
    else (some ⟨added,removed⟩,⟨m.fwd.insert source newTargets,
      added.foldl (link source) (removed.foldl (unlink source) m.rev)⟩)

def removeTarget (m : EdgeIndex Src Tgt) (target : Tgt) : EdgeIndex Src Tgt :=
  match m.rev[target]? with
  | none => m
  | some sources =>
    ⟨sources.toList.foldl (prune [] (·.filter (· ≠ target))) m.fwd,m.rev.erase target⟩

def apply (m : EdgeIndex Src Tgt) : EdgeOp Src Tgt → EdgeIndex Src Tgt
  | .setEdges source newTargets => (m.setEdges source newTargets).2
  | .removeTarget target => m.removeTarget target

def run (m : EdgeIndex Src Tgt) (ops : List (EdgeOp Src Tgt)) : EdgeIndex Src Tgt :=
  ops.foldl apply m

/-- The two directions say the same, and neither has an empty entry. -/
structure Inverse (m : EdgeIndex Src Tgt) : Prop where
  inverse : ∀ source target, target ∈ look [] m.fwd source ↔ source ∈ look ∅ m.rev target
  fwd : Tidy [] m.fwd
  rev : Tidy ∅ m.rev

/-- What is reported is what changes, and nothing is reported exactly if nothing changes. -/
structure Reports (old newTargets : List Tgt) (diff : Option (EdgeDiff Tgt)) : Prop where
  unchanged : diff = none ↔ ∀ t, t ∈ old ↔ t ∈ newTargets
  added : ∀ d, diff = some d → ∀ t, t ∈ d.added ↔ t ∈ newTargets ∧ t ∉ old
  removed : ∀ d, diff = some d → ∀ t, t ∈ d.removed ↔ t ∈ old ∧ t ∉ newTargets

/-- The source leads where it is told to, and no other list is touched. -/
structure Leads (m : EdgeIndex Src Tgt) (source : Src) (newTargets : List Tgt)
    (m' : EdgeIndex Src Tgt) : Prop where
  self : ∀ t, t ∈ look [] m'.fwd source ↔ t ∈ newTargets
  other : ∀ s, s ≠ source → look [] m'.fwd s = look [] m.fwd s

variable {m : EdgeIndex Src Tgt} {source : Src} {newTargets : List Tgt}

theorem linked (source : Src) (rev : ExtTreeMap Tgt (ExtTreeSet Src)) (l : List Tgt) :
    (Tidy ∅ rev → Tidy ∅ (l.foldl (link source) rev)) ∧ ∀ s t,
      s ∈ look ∅ (l.foldl (link source) rev) t ↔ source = s ∧ t ∈ l ∨ s ∈ look ∅ rev t := by
  have hlink : ∀ (rev : ExtTreeMap Tgt (ExtTreeSet Src)) t,
      Edited ∅ (·.insert source) t rev (link source rev t) := by
    refine fun rev t => edited_of_get (fun _ => getElem?_alter) rfl (fun h => ?_)
    exact ExtTreeSet.eq_empty_iff_forall_not_mem.mp (Option.some.inj h) source (by simp)
  obtain ⟨htidy,hlook⟩ := edited_foldl (m := rev) hlink (fun v => ExtTreeSet.ext_mem (by simp)) l
  refine ⟨htidy,fun s t => ?_⟩
  rw [hlook]
  split <;> simp [*]

theorem unlinked (source : Src) (rev : ExtTreeMap Tgt (ExtTreeSet Src)) (l : List Tgt) :
    (Tidy ∅ rev → Tidy ∅ (l.foldl (unlink source) rev)) ∧ ∀ s t,
      s ∈ look ∅ (l.foldl (unlink source) rev) t ↔ (t ∈ l → source ≠ s) ∧ s ∈ look ∅ rev t := by
  obtain ⟨htidy,hlook⟩ := edited_foldl (m := rev) (f := unlink source)
    (fun rev t => edited_prune (by simp)) (fun v => ExtTreeSet.ext_mem (by simp)) l
  refine ⟨htidy,fun s t => ?_⟩
  rw [hlook]
  split <;> simp [*]

theorem mem_rebuilt (entries : List (Src × List Tgt)) (rev : ExtTreeMap Tgt (ExtTreeSet Src)) :
    (Tidy ∅ rev → Tidy ∅ (entries.foldl (fun rev e => e.2.foldl (link e.1) rev) rev)) ∧ ∀ s t,
      s ∈ look ∅ (entries.foldl (fun rev e => e.2.foldl (link e.1) rev) rev) t ↔
        (∃ e ∈ entries, e.1 = s ∧ t ∈ e.2) ∨ s ∈ look ∅ rev t := by
  induction entries generalizing rev with
  | nil => simp
  | cons e entries ih =>
    obtain ⟨htidy,hlook⟩ := ih (e.2.foldl (link e.1) rev)
    obtain ⟨htidy',hlook'⟩ := linked e.1 rev e.2
    refine ⟨fun h => htidy (htidy' h),fun s t => ?_⟩
    rw [foldl_cons,hlook,hlook']
    simp only [mem_cons,exists_eq_or_imp]
    rw [or_assoc,or_left_comm]

theorem inverse_fromFwd {fwd : ExtTreeMap Src (List Tgt)} (h : Tidy [] fwd) : (fromFwd fwd).Inverse := by
  obtain ⟨htidy,hlook⟩ := mem_rebuilt fwd.toList (∅ : ExtTreeMap Tgt (ExtTreeSet Src))
  refine ⟨fun s t => ?_,h,htidy (fun t => by simp)⟩
  rw [fromFwd,hlook]
  simp only [Prod.exists,mem_toList_iff_getElem?_eq_some,look,getElem?_empty]
  cases hs : fwd[s]? with
  | none => simp [hs]
  | some ts => simp [hs]

/-- The reverse part can be computed from the forward part. -/
theorem Inverse.rebuilt (h : m.Inverse) : fromFwd m.fwd = m := by
  have h' := inverse_fromFwd h.fwd
  have hrev : (fromFwd m.fwd).rev = m.rev := by
    refine tidy_ext h'.rev h.rev (fun t => ExtTreeSet.ext_mem (fun s => ?_))
    rw [← h'.inverse,← h.inverse]
    rfl
  cases m
  exact congrArg _ hrev

/-- One source gets another list. -/
theorem Inverse.replace {fwd : ExtTreeMap Src (List Tgt)} (h : m.Inverse) (added removed : List Tgt)
    (hfwd : Edited [] (fun _ => newTargets) source m.fwd fwd)
    (ha : ∀ t, t ∈ added ↔ t ∈ newTargets ∧ t ∉ look [] m.fwd source)
    (hr : ∀ t, t ∈ removed ↔ t ∈ look [] m.fwd source ∧ t ∉ newTargets)
    (hne : ¬ ∀ t, t ∈ look [] m.fwd source ↔ t ∈ newTargets) :
    Inverse ⟨fwd,added.foldl (link source) (removed.foldl (unlink source) m.rev)⟩ ∧
      Reports (look [] m.fwd source) newTargets (some ⟨added,removed⟩) ∧
      m.Leads source newTargets
        ⟨fwd,added.foldl (link source) (removed.foldl (unlink source) m.rev)⟩ := by
  obtain ⟨htidy,hlook⟩ := unlinked source m.rev removed
  obtain ⟨htidy',hlook'⟩ := linked source (removed.foldl (unlink source) m.rev) added
  refine ⟨⟨fun s t => ?_,hfwd.tidy h.fwd,htidy' (htidy h.rev)⟩,⟨iff_of_false nofun hne,?_,?_⟩,
    fun t => by rw [hfwd.self],hfwd.other⟩
  · rw [hlook',hlook,← h.inverse,hr,ha]
    by_cases hs : source = s
    · subst hs
      by_cases hold : t ∈ look [] m.fwd source <;> simp [hfwd.self,hold]
    · simp [hfwd.other s (Ne.symm hs),hs]
  · rintro d ⟨⟩
    exact ha
  · rintro d ⟨⟩
    exact hr

theorem Inverse.setEdges (h : m.Inverse) (source : Src) (newTargets : List Tgt) :
    (m.setEdges source newTargets).2.Inverse ∧
      Reports (look [] m.fwd source) newTargets (m.setEdges source newTargets).1 ∧
      m.Leads source newTargets (m.setEdges source newTargets).2 := by
  have hsame (heq : ∀ t, t ∈ look [] m.fwd source ↔ t ∈ newTargets) :
      m.Inverse ∧ Reports (look [] m.fwd source) newTargets none ∧ m.Leads source newTargets m :=
    ⟨h,⟨iff_of_true rfl heq,nofun,nofun⟩,heq,fun _ _ => rfl⟩
  unfold EdgeIndex.setEdges
  split
  · rename_i hnew
    subst hnew
    split
    · rename_i hnone
      exact hsame (by simp [look,hnone])
    · rename_i old hsome
      have hold : look [] m.fwd source = old := by rw [look,hsome]; rfl
      have hne : old ≠ [] := fun heq => h.fwd source (hsome.trans (by rw [heq]))
      rw [if_neg hne]
      exact h.replace [] old (edited_erase rfl) (by simp) (by simp [hold])
        (by simpa [hold,eq_nil_iff_forall_not_mem] using hne)
  · rename_i hnew
    dsimp only
    generalize hr : ExtTreeSet.toList (_ \ ExtTreeSet.ofList newTargets) = removed
    generalize ha : ExtTreeSet.toList (ExtTreeSet.ofList newTargets \ _) = added
    have hr : ∀ t, t ∈ removed ↔ t ∈ look [] m.fwd source ∧ t ∉ newTargets := by simp [← hr]
    have ha : ∀ t, t ∈ added ↔ t ∈ newTargets ∧ t ∉ look [] m.fwd source := by simp [← ha]
    have same : (∀ t, t ∈ look [] m.fwd source ↔ t ∈ newTargets) ↔ removed = [] ∧ added = [] := by
      simp only [eq_nil_iff_forall_not_mem,hr,ha,← forall_and]
      refine forall_congr' (fun t => ?_)
      by_cases hold : t ∈ look [] m.fwd source <;> simp [hold]
    split
    · exact hsame (same.mpr ‹_›)
    · exact h.replace added removed (edited_of_get (fun _ => getElem?_insert) rfl (by simpa using hnew))
        ha hr (fun heq => absurd (same.mp heq) ‹_›)

variable [DecidableEq Src]

omit [LawfulEqOrd Tgt] in
theorem Inverse.targets_removeTarget (h : m.Inverse) (target : Tgt) (s : Src) :
    look [] (m.removeTarget target).fwd s = (look [] m.fwd s).filter (· ≠ target) := by
  -- a source that does not lead to the target is not visited, and its list stays as it is
  have hkeep : s ∉ look ∅ m.rev target →
      look [] m.fwd s = (look [] m.fwd s).filter (· ≠ target) := by
    intro hs
    refine (filter_eq_self.mpr (fun t ht => ?_)).symm
    rw [decide_eq_true_eq]
    rintro rfl
    exact hs ((h.inverse s t).mp ht)
  unfold EdgeIndex.removeTarget
  split
  · rename_i hnone
    exact hkeep (by simp [look,hnone])
  · rename_i sources hsome
    obtain ⟨-,hlook⟩ := edited_foldl (e := []) (m := m.fwd) (g := (·.filter (· ≠ target)))
      (fun fwd s => edited_prune rfl) (fun l => by simp) sources.toList
    rw [hlook]
    split
    · rfl
    · rename_i hs
      exact hkeep (by simpa [look,hsome] using hs)

theorem Inverse.removeTarget (h : m.Inverse) (target : Tgt) : (m.removeTarget target).Inverse := by
  have hmem : ∀ s t, t ∈ look [] (m.removeTarget target).fwd s ↔
      t ∈ look [] m.fwd s ∧ t ≠ target := by
    intro s t
    rw [h.targets_removeTarget]
    simp
  have hrev : Edited ∅ (fun _ => ∅) target m.rev (m.removeTarget target).rev ∧
      Tidy [] (m.removeTarget target).fwd := by
    unfold EdgeIndex.removeTarget
    split
    · rename_i hnone
      exact ⟨⟨id,by simp [look,hnone],fun _ _ => rfl⟩,h.fwd⟩
    · exact ⟨edited_erase rfl,(edited_foldl (fun fwd s => edited_prune rfl) (fun l => by simp) _).1 h.fwd⟩
  refine ⟨fun s t => ?_,hrev.2,hrev.1.tidy h.rev⟩
  rw [hmem]
  by_cases ht : t = target
  · subst ht
    simp [hrev.1.self]
  · simp [hrev.1.other t ht,h.inverse,ht]

theorem Inverse.apply (h : m.Inverse) (op : EdgeOp Src Tgt) : (m.apply op).Inverse := by
  cases op with
  | setEdges source newTargets => exact (h.setEdges source newTargets).1
  | removeTarget target => exact h.removeTarget target

/-- After any sequence of edits the directions are inverse and the reverse part can be rebuilt; the
next edit does what it says and reports what it changes. -/
theorem edges_inverse {fwd : ExtTreeMap Src (List Tgt)} (h : Tidy [] fwd)
    (ops : List (EdgeOp Src Tgt)) : ((fromFwd fwd).run ops).Inverse ∧
      fromFwd ((fromFwd fwd).run ops).fwd = (fromFwd fwd).run ops ∧
      (∀ source newTargets, Reports (look [] ((fromFwd fwd).run ops).fwd source) newTargets
          (((fromFwd fwd).run ops).setEdges source newTargets).1 ∧
        ((fromFwd fwd).run ops).Leads source newTargets
          (((fromFwd fwd).run ops).setEdges source newTargets).2) ∧
      ∀ target s, look [] (((fromFwd fwd).run ops).removeTarget target).fwd s =
        (look [] ((fromFwd fwd).run ops).fwd s).filter (· ≠ target) := by
  have hrun : ((fromFwd fwd).run ops).Inverse :=
    foldlRecOn ops EdgeIndex.apply (inverse_fromFwd h) (fun _ hm op _ => hm.apply op)
  refine ⟨hrun,hrun.rebuilt,fun source newTargets => ?_,hrun.targets_removeTarget⟩
  exact (hrun.setEdges source newTargets).2

/-- A second source gets a list that repeats a target; then its list is replaced by another one. -/
theorem repeated_target_inverse :
    let m := (fromFwd ((∅ : ExtTreeMap Nat (List Nat)).insert 1 [7,7,8])).run
      [.setEdges 2 [7,9,7],.removeTarget 8]
    m.Inverse ∧ m.Leads 2 [8,7,8] (m.setEdges 2 [8,7,8]).2 ∧
      Reports (look [] m.fwd 2) [8,7,8] (m.setEdges 2 [8,7,8]).1 := by
  have htidy : Tidy [] ((∅ : ExtTreeMap Nat (List Nat)).insert 1 [7,7,8]) := by
    intro k
    rw [ExtTreeMap.getElem?_insert]
    split <;> simp
  have h := edges_inverse htidy [.setEdges 2 [7,9,7],.removeTarget 8]
  exact ⟨h.1,(h.2.2.1 2 [8,7,8]).2,(h.2.2.1 2 [8,7,8]).1⟩

end EdgeIndex

/-! ### Edges between machine ids -/

open EdgeIndex

def EdgeOp.onMap (e : EdgeMap) : EdgeOp Nat Nat → EdgeMap
  | .setEdges source newTargets => e.setEdges source newTargets
  | .removeTarget target => e.removeTarget target

/-- The index is the one that the edge map abstracts from. -/
structure EdgeMap.Stores (e : EdgeMap) (m : EdgeIndex Nat Nat) : Prop extends m.Inverse where
  same : m.fwd = e.fwd

namespace EdgeMap.Stores

variable {e : EdgeMap} {m : EdgeIndex Nat Nat}

theorem sources (h : e.Stores m) (target : Nat) :
    (look ∅ m.rev target).toList = e.sources target := by
  refine eq_of_ascending ?_ (e.sorted target) (fun s => ?_)
  · exact ExtTreeSet.ordered_toList.imp (fun hlt => Nat.compare_eq_lt.mp hlt)
  · rw [ExtTreeSet.mem_toList,← h.inverse,h.same]
    exact e.mem_sources.symm

theorem difference (old new : List Nat) : (ExtTreeSet.ofList old \ ExtTreeSet.ofList new).toList =
    (ascending old).filter (· ∉ new) := by
  refine eq_of_ascending ?_ ((ascending_sorted old).filter _) (fun t => ?_)
  · exact ExtTreeSet.ordered_toList.imp (fun hlt => Nat.compare_eq_lt.mp hlt)
  · simp [mem_ascending]

/-- The router's edge map reports the targets of both differences in one list. -/
theorem setEdges (h : e.Stores m) (source : Nat) (newTargets : List Nat) :
    (e.setEdges source newTargets).Stores (m.setEdges source newTargets).2 ∧
      e.changed source newTargets = ((m.setEdges source newTargets).1.elim []
        (fun d => d.removed ++ d.added)) := by
  have hlook : look [] m.fwd source = e.targets source := by
    rw [h.same]
    rfl
  suffices key : (m.setEdges source newTargets).2.fwd = (e.setEdges source newTargets).fwd ∧
      e.changed source newTargets =
        ((m.setEdges source newTargets).1.elim [] (fun d => d.removed ++ d.added)) from
    ⟨{ (h.toInverse.setEdges source newTargets).1 with same := key.1 },key.2⟩
  unfold EdgeIndex.setEdges EdgeMap.setEdges EdgeMap.changed
  by_cases hnew : newTargets = []
  · subst hnew
    simp only [if_true]
    cases hold : m.fwd[source]? with
    | none =>
      have hnone : e.targets source = [] := by rw [← hlook,look,hold]; rfl
      simp [hnone,h.same]
    | some old =>
      have hsome : e.targets source = old := by rw [← hlook,look,hold]; rfl
      have hne : old ≠ [] := fun heq => h.fwd source (by rw [hold,heq])
      simp [hsome,hne,replace,Forward.store,h.same]
  · simp only [hnew,if_false,difference,hlook,append_eq_nil_iff]
    split
    · rename_i hsame
      exact ⟨h.same,by rw [hsame.1,hsame.2]; rfl⟩
    · simp [replace,Forward.store,hnew,h.same]

theorem removeTarget (h : e.Stores m) (target : Nat) :
    (e.removeTarget target).Stores (m.removeTarget target) := by
  refine { h.toInverse.removeTarget target with same := ?_ }
  refine tidy_ext (h.toInverse.removeTarget target).fwd ?_ (fun s => ?_)
  · intro k
    simp only [EdgeMap.removeTarget,Forward.drop,ExtTreeMap.getElem?_filterMap]
    cases e.fwd[k]? with
    | none => simp
    | some targets =>
      rw [Option.pbind_some]
      split <;> simp_all
  · rw [h.toInverse.targets_removeTarget,h.same]
    exact e.removeTarget_targets.symm

end EdgeMap.Stores

/-- The same edits of the two maps store the same edges. -/
theorem index_stored {fwd : Forward} (h : Tidy [] fwd) (ops : List (EdgeOp Nat Nat)) :
    (ops.foldl EdgeOp.onMap (EdgeMap.fromFwd fwd)).Stores ((EdgeIndex.fromFwd fwd).run ops) := by
  have start : (EdgeMap.fromFwd fwd).Stores (EdgeIndex.fromFwd fwd) :=
    { inverse_fromFwd h with same := rfl }
  unfold EdgeIndex.run
  generalize EdgeMap.fromFwd fwd = e at start ⊢
  generalize EdgeIndex.fromFwd fwd = m at start ⊢
  induction ops generalizing e m with
  | nil => exact start
  | cons op ops ih =>
    apply ih
    cases op with
    | setEdges source newTargets => exact (start.setEdges source newTargets).1
    | removeTarget target => exact start.removeTarget target

end Distvirt.SmRouter
