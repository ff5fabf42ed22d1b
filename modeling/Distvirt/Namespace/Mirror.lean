import Distvirt.Namespace.Rest
import Distvirt.Sm.Configured

/-! The names of a namespace, its spec and its machines: what the management adapter knows, what
the spec says and what lives in the router. -/

namespace Distvirt

open Std (ExtTreeMap)
open Function List ManagementAdapter Ns SmRouter Router

namespace Names

variable {d : Side} {n n' : Names} {r r' : DRouter} {name : String} {w id : Nat}
  {s : Names × DRouter} {x : String × Val d.signal} {keep : Side × String → Prop}
  {want : (k : Side × String) → Option (Val k.1.signal)}

/-- Ids that are given out are new. -/
structure Grown (n n' : Names) : Prop where
  next : ∀ d, n.next d ≤ n'.next d
  entry : ∀ d name w id, n'.entry (d,name) = some (w,id) →
    n.entry (d,name) = some (w,id) ∨ n.next d ≤ w

theorem Grown.refl : Grown n n := ⟨fun _ => Nat.le_refl _,fun _ _ _ _ h => .inl h⟩

theorem Grown.trans (h : Grown n n') (h' : Grown n' n'') : Grown n n'' where
  next d := Nat.le_trans (h.next d) (h'.next d)
  entry d name w id hn := (h'.entry d name w id hn).elim (h.entry d name w id)
    (fun hle => .inr (Nat.le_trans (h.next d) hle))

theorem grown_set : Grown s.1 (set d s x).1 := by
  unfold set
  cases hn : s.1.entry (d,x.1) with
  | some entry => exact .refl
  | none =>
    refine ⟨fun _ => next_le_add,fun d' name' w id hn' => ?_⟩
    rcases update_cases hn' with ⟨hk,heq⟩ | ⟨_,hn'⟩
    · cases hk
      cases heq
      exact .inr (Nat.le_refl _)
    · exact .inl hn'

theorem grown_remove : Grown s.1 (remove d s name).1 := by
  unfold remove
  cases hn : s.1.entry (d,name) with
  | none => exact .refl
  | some entry => exact ⟨fun _ => Nat.le_refl _,fun _ _ _ _ hn' => .inl (Fits.drop_cases hn').2⟩

/-- The names and the router agree on what is wanted. Machines that are still to be created have
names that are kept. -/
structure Mirror (keep : Side × String → Prop)
    (want : (k : Side × String) → Option (Val k.1.signal)) (s : Names × DRouter) : Prop where
  names : ∀ d name w, (∃ id, s.1.entry (d,name) = some (w,id)) ↔ s.1.name (d,w) = some name
  wanted : ∀ k, s.1.entry k = none ↔ want k = none
  signal : ∀ k w id, s.1.entry k = some (w,id) → s.2.out k.1.signal id = want k
  expected : ∀ k w id, s.1.entry k = some (w,id) → s.2.Expected [] k.1.kind w
  pending : ∀ c ∈ s.2.pendingCreates, ∀ d : Side, c.kind = d.kind →
    ∃ name id, keep (d,name) ∧ s.1.entry (d,name) = some (c.id,id)

namespace Mirror

theorem expected_mono (h : r.Expected [] k w) (hsms : r'.sms = r.sms)
    (hcreates : ∀ c ∈ r.pendingCreates, c ∈ r'.pendingCreates) : r'.Expected [] k w := by
  rcases h with hlive | ⟨c,hc,heq⟩
  · exact .inl (by rwa [hsms])
  · exact .inr ⟨c,hcreates c hc,heq⟩

theorem frame (h : Mirror keep want (n,r))
    (hout : ∀ (d : Side) id, r'.out d.signal id = r.out d.signal id)
    (hsms : r'.sms = r.sms) (hcreates : r'.pendingCreates = r.pendingCreates) :
    Mirror keep want (n,r') where
  names := h.names
  wanted := h.wanted
  signal k w id hn := (hout k.1 id).trans (h.signal k w id hn)
  expected k w id hn := expected_mono (h.expected k w id hn) hsms (fun c hc => by rwa [hcreates])
  pending c hc := h.pending c (hcreates ▸ hc)

/-- What is wanted of one name changes. -/
theorem write (h : Mirror keep want (n,r)) {v : Option (Val d.signal)}
    (hnames : ∀ d name w, (∃ id, n'.entry (d,name) = some (w,id)) ↔ n'.name (d,w) = some name)
    (hother : ∀ k, k ≠ (d,name) → n'.entry k = n.entry k ∧ ∀ w id, n.entry k = some (w,id) →
      r'.out k.1.signal id = r.out k.1.signal id)
    (hself : n'.entry (d,name) = none ∧ v = none ∨ ∃ w id, n'.entry (d,name) = some (w,id) ∧
      v ≠ none ∧ r'.out d.signal id = v ∧ r'.Expected [] d.kind w)
    (hsms : r'.sms = r.sms) (hcreates : ∀ c ∈ r.pendingCreates, c ∈ r'.pendingCreates)
    (hpending : ∀ c ∈ r'.pendingCreates, ∀ d : Side, c.kind = d.kind →
      ∃ name id, keep (d,name) ∧ n'.entry (d,name) = some (c.id,id)) :
    Mirror keep (update want (d,name) v) (n',r') := by
  refine ⟨hnames,fun k => ?_,fun k w id hk => ?_,fun k w id hk => ?_,hpending⟩
  all_goals by_cases hkey : k = (d,name)
  · subst hkey
    rw [update_self]
    rcases hself with ⟨hn,hv⟩ | ⟨w,id,hn,hv,_⟩
    · exact iff_of_true hn hv
    · exact iff_of_false (by simp [hn]) hv
  · rw [update_of_ne hkey,(hother k hkey).1]
    exact h.wanted k
  · subst hkey
    rw [update_self]
    rcases hself with ⟨hn,_⟩ | ⟨w,id,hn,_,ho,_⟩
    · cases hn.symm.trans hk
    · cases hn.symm.trans hk
      exact ho
  · obtain ⟨hn,hout⟩ := hother k hkey
    replace hk := hn.symm.trans hk
    rw [update_of_ne hkey,hout w id hk]
    exact h.signal k w id hk
  · subst hkey
    rcases hself with ⟨hn,_⟩ | ⟨w,id,hn,_,_,hexp⟩
    · cases hn.symm.trans hk
    · cases hn.symm.trans hk
      exact hexp
  · exact expected_mono (h.expected k w id ((hother k hkey).1.symm.trans hk)) hsms hcreates

theorem names_add (h : Mirror keep want (n,r)) (fits : Fits n r) (hname : n.entry (d,name) = none)
    (d' : Side) (name' : String) (w : Nat) :
    (∃ id', (n.add d name id).entry (d',name') = some (w,id')) ↔
      (n.add d name id).name (d',w) = some name' := by
  by_cases hw : (d',w) = (d,n.next d)
  · cases hw
    simp only [add,update_self]
    refine ⟨fun hex => ?_,fun heq => ?_⟩
    · obtain ⟨id',hn⟩ := hex
      rcases update_cases hn with ⟨hk,_⟩ | ⟨_,hn⟩
      · cases hk
        rfl
      · exact absurd (fits.entry d name' _ id' hn).1 (Nat.lt_irrefl _)
    · cases heq
      exact ⟨_,update_self ..⟩
  · simp only [add,update_of_ne hw]
    rw [← h.names d' name' w]
    refine exists_congr (fun id' => ?_)
    by_cases hk : (d',name') = (d,name)
    · cases hk
      rw [update_self,hname]
      exact iff_of_false (fun hc => by cases hc; exact hw rfl) (fun hc => by cases hc)
    · rw [update_of_ne hk]

theorem names_drop (h : Mirror keep want (n,r)) (fits : Fits n r)
    (hname : n.entry (d,name) = some (w,id)) (d' : Side) (name' : String) (w' : Nat) :
    (∃ id', (n.drop d name w).entry (d',name') = some (w',id')) ↔
      (n.drop d name w).name (d',w') = some name' := by
  by_cases hw : (d',w') = (d,w)
  · cases hw
    simp only [drop,update_self]
    refine iff_of_false (fun hex => ?_) (fun hc => by cases hc)
    obtain ⟨id',hn⟩ := hex
    obtain ⟨hk,hn⟩ := Fits.drop_cases (n := n) (w := w) hn
    exact hk (fits.unique _ _ w w id' id hn hname (.inl ⟨rfl,rfl⟩))
  · simp only [drop,update_of_ne hw]
    rw [← h.names d' name' w']
    refine exists_congr (fun id' => ?_)
    by_cases hk : (d',name') = (d,name)
    · cases hk
      rw [update_self,hname]
      exact iff_of_false (fun hc => by cases hc) (fun hc => by cases hc; exact hw rfl)
    · rw [update_of_ne hk]

theorem set (h : Mirror keep want s) (fits : Fits s.1 s.2) (hkeep : keep (d,x.1)) :
    Mirror keep (update want (d,x.1) (some x.2)) (Names.set d s x) := by
  obtain ⟨n,r⟩ := s
  unfold Names.set
  cases hn : n.entry (d,x.1) with
  | some entry =>
    obtain ⟨w,id⟩ := entry
    have hcreates : (r.setSignal d.signal id x.2).pendingCreates = r.pendingCreates :=
      setSignal_pendingCreates
    refine h.write h.names (fun k hk => ⟨rfl,fun w' id' hn' => ?_⟩)
      (.inr ⟨w,id,hn,Option.some_ne_none _,setSignal_out_self,?_⟩) setSignal_sms
      (fun c hc => by rwa [hcreates]) (fun c hc => h.pending c (hcreates ▸ hc))
    · exact setSignal_out (fun hc => hk (fits.unique _ _ _ _ _ _ hn' hn (.inr hc.2)))
    · exact expected_mono (h.expected _ w id hn) setSignal_sms (fun c hc => by rwa [hcreates])
  | none =>
    have hcreates : ((withMachine r d (n.next d)).setSignal d.signal (nextPort r) x.2).pendingCreates =
        r.pendingCreates ++ [⟨d.kind,n.next d,d.state⟩] := setSignal_pendingCreates
    refine h.write (h.names_add fits hn) (fun k hk => ⟨Function.update_of_ne hk _ _,
        fun w id hn' => ?_⟩)
      (.inr ⟨_,_,update_self ..,Option.some_ne_none _,setSignal_out_self,?_⟩)
      setSignal_sms (fun c hc => ?_) (fun c hc d' hd => ?_)
    · have hid := Nat.ne_of_lt (fits.entry k.1 k.2 w id hn').2.1
      exact (setSignal_out (T := topology) (fun hc => hid hc.2)).trans (withMachine_out hid)
    · refine .inr ⟨⟨d.kind,n.next d,d.state⟩,?_,rfl,rfl⟩
      rw [hcreates]
      simp
    · rw [hcreates]
      exact mem_append_left _ hc
    · rw [hcreates,mem_append,mem_singleton] at hc
      rcases hc with hc | rfl
      · obtain ⟨name,id,hk,hn'⟩ := h.pending c hc d' hd
        refine ⟨name,id,hk,(update_of_ne (fun heq => ?_) _ _).trans hn'⟩
        rw [heq,hn] at hn'
        cases hn'
      · cases Side.kind_inj hd
        exact ⟨x.1,_,hkeep,update_self ..⟩

theorem remove (h : Mirror keep want s) (fits : Fits s.1 s.2) (hkeep : ¬ keep (d,name)) :
    Mirror keep (update want (d,name) none) (Names.remove d s name) := by
  obtain ⟨n,r⟩ := s
  unfold Names.remove
  cases hn : n.entry (d,name) with
  | none =>
    have hsame : update want (d,name) none = want := by
      rw [← (h.wanted (d,name)).mp hn]
      exact update_eq_self _ _
    rw [hsame]
    exact h
  | some entry =>
    obtain ⟨w,id⟩ := entry
    have hcreates : (r.destroyPort PortKind.management id).pendingCreates = r.pendingCreates :=
      destroyPort_pendingCreates
    refine h.write (h.names_drop fits hn) (fun k hk => ⟨Function.update_of_ne hk _ _,
        fun w' id' hn' => ?_⟩)
      (.inl ⟨Function.update_self ..,rfl⟩) destroyPort_sms (fun c hc => by rwa [hcreates])
      (fun c hc d' hd => ?_)
    · exact destroyPort_out (fun hc => hk (fits.unique _ _ _ _ _ _ hn' hn (.inr hc.2)))
    · obtain ⟨name',id',hk,hn'⟩ := h.pending c (hcreates ▸ hc) d' hd
      refine ⟨name',id',hk,(update_of_ne (fun heq => ?_) _ _).trans hn'⟩
      exact hkeep (heq ▸ hk)

/-- The machines have settled: what the names say of the ports is as it was. -/
theorem settled (h : Mirror keep want (n,r)) (hr : Router.SamePort PortKind.management r r')
    (hexp : ∀ k w id, n.entry k = some (w,id) → r'.Expected [] k.1.kind w)
    (hc : r'.pendingCreates = []) (keep' : Side × String → Prop) : Mirror keep' want (n,r') where
  names := h.names
  wanted := h.wanted
  signal k w id hn := by
    rw [hr.out _ k.1.node_signal]
    exact h.signal k w id hn
  expected := hexp
  pending c hm := by
    rw [hc] at hm
    cases hm

end Mirror

section wants
variable {A : Type} {g : A → String × Option (Val d.signal)} {k : Side × String}

/-- What is wanted after some names of one side were written, one after the other. -/
def writeAll (d : Side) (g : A → String × Option (Val d.signal))
    (want : (k : Side × String) → Option (Val k.1.signal)) (l : List A) :
    (k : Side × String) → Option (Val k.1.signal) :=
  l.foldl (fun want x => Function.update want (d,(g x).1) (g x).2) want

theorem writeAll_of_ne (h : ∀ x ∈ l, k ≠ (d,(g x).1)) : writeAll d g want l k = want k := by
  induction l generalizing want with
  | nil => rfl
  | cons x l ih =>
    exact (ih (fun y hy => h y (mem_cons_of_mem _ hy))).trans (update_of_ne (h x mem_cons_self) _ _)

theorem writeAll_of_mem (hm : ∃ x ∈ l, (g x).1 = name) (h : ∀ x ∈ l, (g x).1 = name → (g x).2 = v) :
    writeAll d g want l (d,name) = v := by
  induction l generalizing want with
  | nil =>
    obtain ⟨x,hx,_⟩ := hm
    cases hx
  | cons x l ih =>
    by_cases hl : ∃ y ∈ l, (g y).1 = name
    · exact ih hl (fun y hy => h y (mem_cons_of_mem _ hy))
    · have hx : (g x).1 = name := by
        obtain ⟨y,hy,heq⟩ := hm
        rcases mem_cons.mp hy with rfl | hy
        · exact heq
        · exact absurd ⟨y,hy,heq⟩ hl
      have rest : writeAll d g (update want (d,(g x).1) (g x).2) l (d,name) = _ :=
        writeAll_of_ne (fun y hy hc => hl ⟨y,hy,(congrArg Prod.snd hc).symm⟩)
      refine rest.trans ?_
      rw [← h x mem_cons_self hx,← hx]
      exact update_self ..

/-- All names of a map are set, and those of the old one that are gone are dropped. -/
theorem wants_eq (f : String → A → Val d.signal) (old : List String) (new : ExtTreeMap String A)
    (hold : ∀ name, name ∉ old → want (d,name) = none) (name : String) :
    writeAll d (fun x => (x,none)) (writeAll d (fun x => (x.1,some (f x.1 x.2))) want new.toList)
      (old.filter (fun name => name ∉ new)) (d,name) = new[name]?.map (f name) := by
  have listed : ∀ {x : String × A}, x ∈ new.toList ↔ new[x.1]? = some x.2 :=
    ExtTreeMap.mem_toList_iff_getElem?_eq_some
  cases hv : new[name]? with
  | some a =>
    have hmem : name ∈ new := ExtTreeMap.mem_iff_isSome_getElem?.mpr (by rw [hv]; rfl)
    rw [writeAll_of_ne (fun y hy hc => ?_)]
    · refine writeAll_of_mem ⟨(name,a),listed.mpr hv,rfl⟩ (fun x hx heq => ?_)
      cases heq
      rw [listed.mp hx] at hv
      cases hv
      rfl
    · cases hc
      simp [hmem] at hy
  | none =>
    have hnot : name ∉ new := by
      rw [ExtTreeMap.mem_iff_isSome_getElem?,hv]
      simp
    by_cases ho : name ∈ old
    · exact writeAll_of_mem ⟨name,mem_filter.mpr ⟨ho,by simpa using hnot⟩,rfl⟩ (fun _ _ _ => rfl)
    · rw [writeAll_of_ne (fun y hy hc => by cases hc; exact ho (mem_filter.mp hy).1),
        writeAll_of_ne (fun y hy hc => by cases hc; cases hv.symm.trans (listed.mp hy))]
      exact hold name ho

end wants

/-- The names mirror what is wanted, and have grown from `n₀`. -/
structure Mirrors (n₀ : Names) (keep : Side × String → Prop)
    (want : (k : Side × String) → Option (Val k.1.signal)) (s : Names × DRouter) : Prop
    extends Mirror keep want s where
  sound : Sound s
  grown : Grown n₀ s.1

theorem Mirrors.set (h : Mirrors n₀ keep want s) (hk : keep (d,x.1))
    (hv : d.Bounded s.1.bounds x.2) :
    Mirrors n₀ keep (update want (d,x.1) (some x.2)) (Names.set d s x) :=
  ⟨h.toMirror.set h.sound.toFits hk,(h.sound.set hv).1,h.grown.trans grown_set⟩

theorem Mirrors.remove (h : Mirrors n₀ keep want s) (hk : ¬ keep (d,name)) :
    Mirrors n₀ keep (update want (d,name) none) (Names.remove d s name) :=
  ⟨h.toMirror.remove h.sound.toFits hk,(h.sound.remove name).1,h.grown.trans grown_remove⟩

/-- One side is written, with the other as in `s₀`. -/
structure Written (n₀ : Names) (keep : Side × String → Prop) (d : Side) (s₀ : Names × DRouter)
    (want : (k : Side × String) → Option (Val k.1.signal)) (s : Names × DRouter) : Prop
    extends Mirrors n₀ keep want s where
  other : ∀ k, k.1 ≠ d → s.1.entry k = s₀.1.entry k

namespace Written

variable {A : Type} {s₀ : Names × DRouter}

theorem foldl {f : Names × DRouter → A → Names × DRouter} {g : A → String × Option (Val d.signal)}
    (l : List A) (hf : ∀ want s, ∀ x ∈ l, Written n₀ keep d s₀ want s →
      Written n₀ keep d s₀ (update want (d,(g x).1) (g x).2) (f s x))
    (h : Written n₀ keep d s₀ want s) : Written n₀ keep d s₀ (writeAll d g want l) (l.foldl f s) := by
  induction l generalizing want s with
  | nil => exact h
  | cons x l ih =>
    exact ih (fun want s y hy => hf want s y (mem_cons_of_mem _ hy)) (hf want s x mem_cons_self h)

theorem set (h : Written n₀ keep d s₀ want s) (hk : keep (d,x.1))
    (hv : d.Bounded s.1.bounds x.2) :
    Written n₀ keep d s₀ (update want (d,x.1) (some x.2)) (Names.set d s x) := by
  refine ⟨h.toMirrors.set hk hv,fun k hne => Eq.trans ?_ (h.other k hne)⟩
  unfold Names.set
  split
  · rfl
  · exact update_of_ne (fun hc => hne (congrArg Prod.fst hc)) _ _

theorem remove (h : Written n₀ keep d s₀ want s) (hk : ¬ keep (d,name)) :
    Written n₀ keep d s₀ (update want (d,name) none) (Names.remove d s name) := by
  refine ⟨h.toMirrors.remove hk,fun k hne => Eq.trans ?_ (h.other k hne)⟩
  unfold Names.remove
  split
  · exact update_of_ne (fun hc => hne (congrArg Prod.fst hc)) _ _
  · rfl

/-- The side gets its new names and loses those that are gone. -/
theorem side (part : ExtTreeMap String A) {old : List String} {f : String → A → Val d.signal}
    {g : Names × DRouter → String × A → Names × DRouter} (hg : ∀ want s x,
      Written n₀ keep d s₀ want s →
      g s x = Names.set d s (x.1,f x.1 x.2) ∧ d.Bounded s.1.bounds (f x.1 x.2))
    (hkeep : ∀ name, keep (d,name) ↔ name ∈ part) (hold : ∀ name, name ∉ old → want (d,name) = none)
    (h : Mirrors n₀ keep want s₀) : ∃ want', (∀ name, want' (d,name) = part[name]?.map (f name)) ∧
      (∀ k, k.1 ≠ d → want' k = want k) ∧ Written n₀ keep d s₀ want'
        ((old.filter (fun name => name ∉ part)).foldl (Names.remove d) (part.toList.foldl g s₀)) := by
  have set : Written n₀ keep d s₀ _ _ := foldl (f := g)
    (g := fun x => (x.1,some (f x.1 x.2))) part.toList (fun want s x hx h => by
      obtain ⟨heq,hv⟩ := hg want s x h
      have hmem : x.1 ∈ part := ExtTreeMap.mem_iff_isSome_getElem?.mpr
        (by rw [ExtTreeMap.mem_toList_iff_getElem?_eq_some.mp hx]; rfl)
      rw [heq]
      exact h.set (x := (x.1,f x.1 x.2)) ((hkeep x.1).mpr hmem) hv) ⟨h,fun _ _ => rfl⟩
  refine ⟨_,wants_eq f old part hold,fun k hne => ?_,foldl (g := fun x => (x,none)) _
    (fun want s x hx h => h.remove (fun hc => by simp [(hkeep x).mp hc] at hx)) set⟩
  have other : ∀ (name : String), k ≠ (d,name) := fun name hc => hne (congrArg Prod.fst hc)
  exact (writeAll_of_ne (fun _ _ => other _)).trans (writeAll_of_ne (fun _ _ => other _))

end Written

/-- What a spec wants. -/
def wanted (n : Names) (spec : Option NamespaceSpec) : (k : Side × String) → Option (Val k.1.signal)
  | (.workload,name) =>
    (spec.bind (fun spec => spec.workloads[name]?)).map ManagementAdapter.toSmWorkloadSpec
  | (.service,name) => (spec.bind (fun spec => spec.services[name]?)).map (n.serviceSpec name)

/-- The names that a spec has. -/
def kept (spec : NamespaceSpec) : Side × String → Prop
  | (.workload,name) => name ∈ spec.workloads
  | (.service,name) => name ∈ spec.services

/-- A spec wants nothing of a name that it has not. -/
theorem unwanted {old : Option NamespaceSpec} (part : NamespaceSpec → ExtTreeMap String A)
    (hn : name ∉ (old.map (fun o => (part o).keys)).getD []) :
    (old.bind (fun o => (part o)[name]?)).map f = none := by
  cases old with
  | none => rfl
  | some o =>
    have hn : name ∉ part o := by simpa using hn
    simp [ExtTreeMap.getElem?_eq_none hn]

theorem serviceSpec_congr (h : ∀ k, k.1 ≠ .service → n'.entry k = n.entry k) :
    n'.serviceSpec = n.serviceSpec := by
  funext name spec
  simp only [serviceSpec,h (.workload,spec.workloadId) (by simp)]

/-- After a spec is applied the names mirror it. -/
theorem Mirrors.apply (old : Option NamespaceSpec) (new : NamespaceSpec)
    (h : Mirrors n₀ (kept new) (s.1.wanted old) s) :
    Mirrors n₀ (kept new) ((Names.apply s old new).1.wanted (some new)) (Names.apply s old new) := by
  obtain ⟨want₁,hw₁,ho₁,h₁⟩ := Written.side (d := .workload) (g := setWorkload)
    new.workloads (f := fun _ => toSmWorkloadSpec)
    (fun _ _ _ _ => ⟨rfl,trivial⟩) (fun _ => Iff.rfl) (fun _ => unwanted NamespaceSpec.workloads) h
  -- services are set when the ids of the workloads are settled
  generalize hs₁ : foldl (Names.remove .workload) _ _ = s₁ at h₁
  obtain ⟨want₂,hw₂,ho₂,h₂⟩ := Written.side (d := .service) (g := setService)
    new.services (f := s₁.1.serviceSpec) (fun _ s x hs => by
      rw [← serviceSpec_congr hs.other]
      exact ⟨rfl,serviceSpec_bounded hs.sound x.1 x.2⟩)
    (fun _ => Iff.rfl) (fun name hn => (ho₁ (.service,name) (by simp)).trans
      (unwanted NamespaceSpec.services hn)) h₁.toMirrors
  subst hs₁
  have want : want₂ = (Names.apply s old new).1.wanted (some new) := by
    funext k
    rcases k with ⟨_ | _,name⟩
    · exact (ho₂ (.workload,name) (by simp)).trans (hw₁ name)
    · rw [hw₂ name,← serviceSpec_congr h₂.other]
      rfl
  rw [← want]
  exact h₂.toMirrors

end Names

/-- The id belongs to a name. -/
def Names.Has (n : Names) (d : Side) (w : Nat) : Prop := ∃ name id, n.entry (d,name) = some (w,id)

/-- The input tells the machine a spec. -/
def Side.told : (d : Side) → topology.Out d.batch → Prop
  | .workload,v => v ≠ none
  | .service,v => v ≠ none

namespace Names

variable {d : Side} {n : Names} {r : DRouter} {name : String} {w id : Nat}

theorem Mirror.fed (h : Mirror keep want (n,r)) (d : Side)
    (told : ∀ w, r.sms d.kind w ≠ none → ∃ v, r.inp d.batch w = some v ∧ d.told v) :
    Router.Fed (T := topology) d.batch d.told (n.Has d) [] r where
  expected := by
    rintro w ⟨name,id,hn⟩
    exact h.expected (d,name) w id hn
  pending c hc hk := by
    obtain ⟨name,id,_,hn⟩ := h.pending c hc d hk
    exact ⟨name,id,hn⟩
  told w hlive := .inl (told w hlive)

/-- A machine sees the value of its port, and nothing else. -/
theorem Fits.collect_eq (h : Fits n r) (hn : n.entry (d,name) = some (w,id))
    (ho : r.out d.signal id = some v) : r.collect w d.edge d.signal = [(id,v)] := by
  refine collect_eq_singleton (T := topology) (fun q hq => ?_)
    (((h.entry d name w id hn).2.2.2 w).mpr rfl) ho
  obtain ⟨name',hn'⟩ := h.linked d q w hq
  cases h.unique _ _ w w q id hn' hn (.inl ⟨rfl,rfl⟩)
  cases hn.symm.trans hn'
  rfl

theorem Fits.collect_ne_nil (h : Fits n r) : r.collect w d.edge d.signal ≠ [] ↔ n.Has d w := by
  constructor
  · intro hne
    obtain ⟨⟨id,v⟩,hm⟩ := exists_mem_of_ne_nil _ hne
    obtain ⟨name,hn⟩ := h.linked d id w (mem_collect.mp hm).1
    exact ⟨name,id,hn⟩
  · rintro ⟨name,id,hn⟩
    obtain ⟨v,hv⟩ := Option.ne_none_iff_exists'.mp (h.entry d name w id hn).2.2.1
    rw [h.collect_eq hn hv]
    exact cons_ne_nil _ _

theorem Fits.told (h : Fits n r) : d.told (r.aggregate d.batch w) ↔ n.Has d w := by
  rw [← h.collect_ne_nil]
  cases d <;> exact head?_eq_none_iff.not

end Names

theorem sustained (d : Side) : Router.Sustained (T := topology) (base n) d.batch d.told := by
  cases d with
  | workload => exact sustained_workload
  | service => exact sustained_service

namespace Namespace

variable {ns ns' ns₀ : Namespace} {fuel : Nat} {w : Nat} {name : String} {d : Side}

/-- The machines that have names live or are about to be created, and live ones were told their
specs. -/
def Configured (ns : Namespace) : Prop :=
  ∀ d : Side, Router.Fed (T := topology) d.batch d.told (ns.management.seen.Has d) [] ns.router

theorem Configured.same (h : ns.Configured) (hm : ns'.management = ns.management)
    (hs : ns'.router.sms = ns.router.sms) (hi : ns'.router.inp = ns.router.inp)
    (hc : ns'.router.pendingCreates = ns.router.pendingCreates) : ns'.Configured := by
  intro d
  rw [hm]
  exact (h d).same hs hi hc

theorem Configured.pushed (h : ns.Configured) (hp : Pushed ps ns ns') : ns'.Configured :=
  h.same hp.management hp.calls.pushed.sms hp.calls.pushed.inp hp.calls.creates

theorem cycleKeeps_configured : CycleKeeps ns₀ (fun ns _ => ns.Configured)
    (fun ns _ => ns.Configured) (fun ns _ => ns.Configured) where
  propagate ns effects r' sound _ h hp d :=
    (sustained d).propagate (base_kept sound.ready.specs) sound.ready.holds
      (fun r w hr => (sound.management.toFits.same (.of_samePorts hr)).told) (h d) hp
  settle ns effects ns' effects' sound _ _ h collected _ := by
    rw [ite_self]
    have reconciled := h.pushed (reconcile_pushed sound)
    have hr := collected.router
    exact reconciled.same collected.cycled.management (by rw [hr]) (by rw [hr]) (by rw [hr])

/-- Between the steps the specs of the machines are up to date. -/
theorem Rested.current (h : ns.Rested) (d : Side) (id : Nat)
    (hlive : ns.router.sms d.kind id ≠ none) :
    Router.UpToDate (T := topology) ns.router (.inl d.batch) id := by
  rcases h.sound.ready.fresh (.inl d.batch) id (by cases d <;> trivial) (.inl hlive) with hc | hc | hc
  · cases hc
  · have hb := h.marks _ hc
    cases d <;> cases hb
  · exact hc

/-- Live machines are those that have names, and each was told what its port says. -/
theorem Rested.live (h : ns.Rested) (hc : ns.Configured) (d : Side) (w : Nat) :
    ns.router.sms d.kind w ≠ none ↔ ns.management.seen.Has d w :=
  (hc d).live_iff (fun _ => h.sound.management.toFits.told) h.creates (h.current d) w

theorem Rested.told (h : ns.Rested) (hc : ns.Configured)
    (hlive : ns.router.sms d.kind w ≠ none) :
    ns.router.inp d.batch w = some (ns.router.aggregate d.batch w) ∧
      d.told (ns.router.aggregate d.batch w) := by
  have has := (h.live hc d w).mp hlive
  have fits := h.sound.management.toFits
  rcases h.current d w hlive with hnow | ⟨_,hnil⟩
  · exact ⟨hnow,fits.told.mpr has⟩
  · refine absurd (hnil d.edge d.signal ?_) (fits.collect_ne_nil.mpr has)
    cases d <;> exact mem_singleton_self _

/-- The names mirror the spec of the namespace. -/
abbrev Mirrored (keep : Side × String → Prop) (ns : Namespace) : Prop :=
  Names.Mirror keep (ns.management.seen.wanted ns.currentSpec) (ns.management.seen,ns.router)

/-- What a step leaves. -/
structure MirrorInv (ns : Namespace) : Prop where
  rested : ns.Rested
  configured : ns.Configured
  mirrored : ∀ keep, ns.Mirrored keep

/-- What the cycle of a step begins with. -/
structure MirrorPushed (ns : Namespace) : Prop where
  sound : ns.Sound
  configured : ns.Configured
  mirrored : ∃ keep, ns.Mirrored keep

/-- A push that is not about the spec. -/
theorem MirrorInv.pushed (h : ns.MirrorInv) (hp : Pushed ps ns ns') (hps : PortKind.management ∉ ps) :
    ns'.MirrorPushed := by
  have same := hp.calls.same _ hps
  refine ⟨hp.sound,h.configured.pushed hp,fun _ => True,?_⟩
  rw [Mirrored,hp.management,hp.spec]
  exact (h.mirrored _).frame (fun d _ => by rw [same.out _ d.node_signal]) hp.calls.pushed.sms
    hp.calls.creates

/-- Ids that the names of a namespace get are new. -/
abbrev IdsGrown (ns ns' : Namespace) : Prop := ns.management.seen.Grown ns'.management.seen

theorem IdsGrown.of_eq (h : ns'.management = ns.management) : IdsGrown ns ns' := by
  rw [IdsGrown,h]
  exact .refl

theorem MirrorInv.withSpec (h : ns.MirrorInv) (spec : NamespaceSpec) :
    (ns.withSpec spec).MirrorPushed ∧ IdsGrown ns (ns.withSpec spec) := by
  obtain ⟨sound,touched⟩ := withSpec_sound h.rested.sound spec
  have mirrors := Names.Mirrors.apply ns.currentSpec spec
    ⟨h.mirrored _,h.rested.sound.management,.refl⟩
  rw [apply_shown (ns.management,ns.router)] at mirrors
  have mirrored : (ns.withSpec spec).Mirrored _ := mirrors.toMirror
  have hsms : (ns.withSpec spec).router.sms = ns.router.sms := touched.pushed.sms
  have hinp : (ns.withSpec spec).router.inp = ns.router.inp := touched.pushed.inp
  refine ⟨⟨sound,fun d => mirrored.fed d (fun w hlive => ?_),_,mirrored⟩,mirrors.grown⟩
  rw [hsms] at hlive
  rw [hinp]
  exact ⟨_,h.rested.told h.configured hlive⟩

/-- The cycle settles what was pushed. -/
theorem MirrorPushed.runCycle (h : ns.MirrorPushed) :
    Outcome (fun r => r.1.MirrorInv ∧ r.1.management = ns.management) (fun _ => True)
      (ns.runCycle fuel effects) := by
  refine (cycleKeeps_configured.runCycle h.sound h.configured).imp (fun r hr => ?_)
  obtain ⟨ns',effects',ended,configured,rfl⟩ := hr
  obtain ⟨keep,mirrored⟩ := h.mirrored
  have rested : (ns'.finalize effects').1.Rested := ended.rested
  have finalized : Pushed [.artifact] ns' (ns'.finalize effects').1 :=
    finalize_pushed ended.sound
  have cycled : Cycled ns (ns'.finalize effects').1 :=
    ended.cycled.trans finalized.cycled
  have configured := configured.pushed finalized
  refine ⟨⟨rested,configured,fun keep' => ?_⟩,cycled.management⟩
  have hexp := fun d => (configured d).expected
  rw [cycled.management] at hexp
  rw [Mirrored,cycled.management,cycled.currentSpec]
  exact mirrored.settled (cycled.same PortKind.management (by decide))
    (fun k w id hn => hexp k.1 w ⟨k.2,id,hn⟩) rested.creates keep'

theorem MirrorInv.withRequests (h : ns.MirrorInv) (rel : List IpResourceKey)
    (workloads : ExtTreeMap String WorkloadSpecInput)
    (services : ExtTreeMap String ServiceSpecInput) :
    (ns.withRequests rel workloads services).2.MirrorInv :=
  ⟨h.rested.withRequests rel workloads services,
    h.configured.same rfl rfl rfl rfl,fun keep => { h.mirrored keep with }⟩

theorem MirrorInv.pushOp (h : ns.MirrorInv) (op : Op) :
    Outcome (fun
      | .error ns' => ns'.MirrorInv ∧ ns'.management = ns.management
      | .ok (ns',_) => ns'.MirrorPushed ∧ IdsGrown ns ns') (fun _ => True) (ns.pushOp op) := by
  refine pushOp_rule (fun event _ => ?_) (fun identity => ?_) ⟨h,rfl⟩
    (fun rel workloads services => ?_)
  · refine (pushEvent_pushed h.rested.sound event).imp (fun r hr => ?_)
    exact ⟨h.pushed hr.1 (by decide),.of_eq hr.1.management⟩
  · have pushed := TimerIdentity.fire_pushed h.rested.sound identity
    exact ⟨h.pushed pushed (by simp),.of_eq pushed.management⟩
  · have inv := h.withRequests rel workloads services
    exact ⟨⟨inv,rfl⟩,inv.withSpec⟩

theorem MirrorInv.step (h : ns.MirrorInv) (op : Op) :
    Outcome (fun r => r.1.MirrorInv ∧ IdsGrown ns r.1) (fun _ => True) (ns.step fuel op) := by
  rw [step_eq]
  refine (h.pushOp op).bind (fun r hr => ?_)
  cases r with
  | error ns' => exact ⟨hr.1,.of_eq hr.2⟩
  | ok r =>
    exact hr.1.runCycle.imp (fun r' hr' => ⟨hr'.1,hr.2.trans (IdsGrown.of_eq hr'.2)⟩)

theorem MirrorInv.run (h : ns.MirrorInv) (ops : List Op) :
    Outcome (fun r => r.1.MirrorInv ∧ IdsGrown ns r.1) (fun _ => True) (ns.run fuel ops) :=
  Along.run (I := fun ns' => ns'.MirrorInv ∧ IdsGrown ns ns')
    (fun _ op hi _ => (hi.1.step op).imp (fun _ hr => ⟨hr.1,hi.2.trans hr.2⟩))
    ops ns ⟨h,.of_eq rfl⟩ (Runs.along_of_forall (fun _ _ _ => trivial) ns)

theorem new_mirrorInv (id : NamespaceId) (network : NetworkConfig) : (new id network).MirrorInv := by
  have rested := new_rested id network
  have none : ∀ k, (new id network).management.seen.entry k = none := new_entry
  refine ⟨rested,fun d => ⟨fun w hw => ?_,fun _ hc => (by cases hc),
      fun w hw => absurd rfl hw⟩,
    fun keep => ⟨fun d name w => ?_,fun k => ?_,fun k w id hn => ?_,fun k w id hn => ?_,
      fun _ hc => (by cases hc)⟩⟩
  · obtain ⟨name,id,hn⟩ := hw
    cases (none _).symm.trans hn
  · simp only [none]
    cases d <;> simp [new,ManagementAdapter.new,seen]
  · refine iff_of_true (none k) ?_
    rcases k with ⟨_ | _,_⟩ <;> rfl
  · cases (none _).symm.trans hn
  · cases (none _).symm.trans hn

/-- The adapter's maps are inverse to each other, name what the spec names and the machines that
live, and each machine was last told what the spec says under its name. -/
structure Coherent (ns : Namespace) : Prop where
  workloadNames : ∀ name w, ns.management.lookupWorkload name = some w ↔
    ns.management.workloadProtoName w = some name
  serviceNames : ∀ name w, ns.management.lookupService name = some w ↔
    ns.management.serviceProtoName w = some name
  workloadSpecs : ∀ name, (∃ w, ns.management.lookupWorkload name = some w) ↔
    ∃ spec, ns.currentSpec = some spec ∧ name ∈ spec.workloads
  serviceSpecs : ∀ name, (∃ w, ns.management.lookupService name = some w) ↔
    ∃ spec, ns.currentSpec = some spec ∧ name ∈ spec.services
  workloads : ∀ w, ns.router.sms SmKind.workload w ≠ none ↔
    ∃ name, ns.management.lookupWorkload name = some w
  services : ∀ w, ns.router.sms SmKind.service w ≠ none ↔
    ∃ name, ns.management.lookupService name = some w
  workloadTold : ∀ name w spec (workload : WorkloadSpec),
    ns.management.lookupWorkload name = some w → ns.currentSpec = some spec →
    spec.workloads[name]? = some workload → ∃ mgmtId, ns.router.inp Batch.specInput w =
      some (some (mgmtId,ManagementAdapter.toSmWorkloadSpec workload))
  serviceTold : ∀ name w spec (service : ServiceSpec),
    ns.management.lookupService name = some w → ns.currentSpec = some spec →
    spec.services[name]? = some service → ∃ mgmtId, ns.router.inp Batch.svcSpecInput w =
      some (some (mgmtId,ns.management.toSmServiceSpec name service))

theorem lookup_eq {entry : Option (Nat × ManagementId)} :
    entry.map Prod.fst = some w ↔ ∃ id, entry = some (w,id) := by
  cases entry with
  | none => simp
  | some entry =>
    obtain ⟨w',id⟩ := entry
    simp

theorem mem_of_spec (part : NamespaceSpec → ExtTreeMap String A) :
    (spec.bind (fun spec => (part spec)[name]?)).map f ≠ none ↔
      ∃ sp, spec = some sp ∧ name ∈ part sp := by
  cases spec with
  | none => simp
  | some sp => simp

theorem MirrorInv.coherent (h : ns.MirrorInv) : ns.Coherent := by
  have mirrored := h.mirrored (fun _ => True)
  have names : ∀ d name w, (ns.management.seen.entry (d,name)).map Prod.fst = some w ↔
      ns.management.seen.name (d,w) = some name := fun d name w =>
    lookup_eq.trans (mirrored.names d name w)
  have specs : ∀ k, (∃ w, (ns.management.seen.entry k).map Prod.fst = some w) ↔
      ns.management.seen.wanted ns.currentSpec k ≠ none := by
    intro k
    refine Iff.trans ?_ (not_congr (mirrored.wanted k))
    cases ns.management.seen.entry k <;> simp
  have live : ∀ (d : Side) w, ns.router.sms d.kind w ≠ none ↔
      ∃ name, (ns.management.seen.entry (d,name)).map Prod.fst = some w := fun d w =>
    (h.rested.live h.configured d w).trans (exists_congr (fun name => lookup_eq.symm))
  have told : ∀ {d : Side} {name w v}, (ns.management.seen.entry (d,name)).map Prod.fst = some w →
      ns.management.seen.wanted ns.currentSpec (d,name) = some v →
      ns.router.inp d.batch w = some (ns.router.aggregate d.batch w) ∧
        ∃ mgmtId, ns.router.collect w d.edge d.signal = [(mgmtId,v)] := by
    intro d name w v hn hv
    obtain ⟨id,hid⟩ := lookup_eq.mp hn
    refine ⟨(h.rested.told h.configured ((live d w).mpr ⟨name,hn⟩)).1,id,?_⟩
    exact h.rested.sound.management.toFits.collect_eq hid ((mirrored.signal _ w id hid).trans hv)
  refine ⟨names .workload,names .service,
    fun name => (specs (.workload,name)).trans (mem_of_spec (fun s => s.workloads)),
    fun name => (specs (.service,name)).trans (mem_of_spec (fun s => s.services)),
    live .workload,live .service,fun name w spec workload hn hs hw => ?_,
    fun name w spec service hn hs hw => ?_⟩
  · obtain ⟨hinp,mgmtId,hc⟩ := told (d := .workload) hn
      (v := toSmWorkloadSpec workload) (by simp [Names.wanted,hs,hw]; rfl)
    exact ⟨mgmtId,hinp.trans (congrArg (fun l => some (head? l)) hc)⟩
  · obtain ⟨hinp,mgmtId,hc⟩ := told (d := .service) hn
      (v := ns.management.toSmServiceSpec name service) (by simp [Names.wanted,hs,hw]; rfl)
    exact ⟨mgmtId,hinp.trans (congrArg (fun l => some (head? l)) hc)⟩

/-- An id that a name has had is given to no other name, and not again to this one. -/
theorem Grown.same_name {n₀ n₁ n₂ : Names} (h₁ : n₀.Grown n₁) (h₂ : n₁.Grown n₂)
    (fits : n₀.Fits r) (hn : (n₀.entry (d,name)).map Prod.fst = some w)
    (hn' : (n₂.entry (d,name')).map Prod.fst = some w) :
    name' = name ∧ (n₁.entry (d,name)).map Prod.fst = some w := by
  obtain ⟨id,hn⟩ := lookup_eq.mp hn
  obtain ⟨id',hn'⟩ := lookup_eq.mp hn'
  have hlt := (fits.entry d name w id hn).1
  rcases h₂.entry d name' w id' hn' with hmid | hge
  · rcases h₁.entry d name' w id' hmid with hold | hge
    · cases fits.unique _ _ w w id' id hold hn (.inl ⟨rfl,rfl⟩)
      exact ⟨rfl,lookup_eq.mpr ⟨id',hmid⟩⟩
    · exact absurd hlt (Nat.not_lt.mpr hge)
  · exact absurd hlt (Nat.not_lt.mpr (Nat.le_trans (h₁.next d) hge))

/-- The management view, the spec and the router agree after every step of a run, and an id that
a name has at one point and a name has later was the same name's all the time between. -/
theorem specs_coherent {id : NamespaceId} {network : NetworkConfig} {before between after : List Op}
    {ns₀ ns₁ ns₂ : Namespace} {e₀ e₁ e₂ : List NamespaceEffects}
    (h₀ : (new id network).run fuel before = .ok (ns₀,e₀))
    (h₁ : ns₀.run fuel between = .ok (ns₁,e₁)) (h₂ : ns₁.run fuel after = .ok (ns₂,e₂)) :
    ns₁.Coherent ∧
    (∀ name name' w, ns₀.management.lookupWorkload name = some w →
      ns₂.management.lookupWorkload name' = some w →
      name' = name ∧ ns₁.management.lookupWorkload name = some w) ∧
    (∀ name name' w, ns₀.management.lookupService name = some w →
      ns₂.management.lookupService name' = some w →
      name' = name ∧ ns₁.management.lookupService name = some w) := by
  obtain ⟨inv₀,_⟩ := ((new_mirrorInv id network).run before).of_ok h₀
  obtain ⟨inv₁,grown₁⟩ := (inv₀.run between).of_ok h₁
  obtain ⟨_,grown₂⟩ := (inv₁.run after).of_ok h₂
  have fits := inv₀.rested.sound.management.toFits
  exact ⟨inv₁.coherent,fun _ _ _ => Grown.same_name (d := .workload) grown₁ grown₂ fits,
    fun _ _ _ => Grown.same_name (d := .service) grown₁ grown₂ fits⟩

theorem specs_coherent_kept :
    let step (ns : Namespace) (names : List String) :=
      ns.run 3 [.fullSpec (sampleSpec (names.map (·,sampleWorkload)) [])]
    ∃ ns₀ ns₁ ns₂ e₀ e₁ e₂, step sample ["a"] = .ok (ns₀,e₀) ∧ step ns₀ ["a","b"] = .ok (ns₁,e₁) ∧
      step ns₁ ["a","c"] = .ok (ns₂,e₂) ∧ ns₁.management.lookupWorkload "b" = some 2 ∧
      ns₂.management.lookupWorkload "b" = none ∧ ns₂.management.lookupWorkload "c" = some 3 ∧
      ns₁.Coherent ∧ ∀ name, ns₂.management.lookupWorkload name = some 1 → name = "a" := by
  intro step
  have hp : ((step sample ["a"]).toOption.bind (fun r₀ =>
      (step r₀.1 ["a","b"]).toOption.bind (fun r₁ => (step r₁.1 ["a","c"]).toOption.map (fun r₂ =>
        (r₁.1.management.lookupWorkload "b",r₂.1.management.lookupWorkload "b",
          r₂.1.management.lookupWorkload "c",r₀.1.management.lookupWorkload "a"))))) =
      some (some 2,none,some 3,some 1) := by
    decide +kernel
  cases h₀ : step sample ["a"] with
  | error f => simp [h₀,Except.toOption] at hp
  | ok r₀ =>
    obtain ⟨ns₀,e₀⟩ := r₀
    cases h₁ : step ns₀ ["a","b"] with
    | error f => simp [h₀,h₁,Except.toOption] at hp
    | ok r₁ =>
      obtain ⟨ns₁,e₁⟩ := r₁
      cases h₂ : step ns₁ ["a","c"] with
      | error f => simp [h₀,h₁,h₂,Except.toOption] at hp
      | ok r₂ =>
        obtain ⟨ns₂,e₂⟩ := r₂
        simp only [h₀,h₁,h₂,Except.toOption,Option.bind_some,Option.map_some,Option.some.injEq,
          Prod.mk.injEq] at hp
        obtain ⟨hb,hb₂,hc,ha⟩ := hp
        obtain ⟨coherent,workloads,_⟩ := specs_coherent h₀ h₁ h₂
        exact ⟨ns₀,ns₁,ns₂,e₀,e₁,e₂,rfl,h₁,h₂,hb,hb₂,hc,coherent,
          fun name hn => (workloads "a" name 1 ha hn).1⟩

end Namespace

end Distvirt
