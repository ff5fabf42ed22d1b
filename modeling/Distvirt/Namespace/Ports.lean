import Distvirt.Namespace.Adapters
import Distvirt.Sm.NsWrites
import Distvirt.Table

/-! The adapters know the ports they created. The management adapter keeps one table for workloads
and one for services; they are seen as one table with two sides here. -/

namespace Distvirt

open Std (ExtTreeMap)
open Function Ns SmRouter Router PortKind

/-- What calls on the ports of some kinds leave alone. -/
structure Touched (ps : List PortKind) (r r' : DRouter) : Prop where
  pushed : Router.Pushed r r'
  same : ∀ q, q ∉ ps → Router.SamePort q r r'
  prev : ∀ i, incNode i ∉ ps → r'.prev i = r.prev i
  alloc : ∀ k, r'.alloc (.inl k) = r.alloc (.inl k)

namespace Touched

variable {ps : List PortKind} {r : DRouter} {id : Nat}

theorem apart (hq : q ∈ ps) (hq' : q' ∉ ps) : q' ≠ q := fun hc => hq' (hc ▸ hq)

/-- The only edges between ports lead to one that is created once. -/
theorem shared_of_ends (hs : (ends e).1 = .inr q') (ht : (ends e).2 = .inr q) : Shared q := by
  cases e <;> cases hs
  all_goals
    cases ht
    try simp [Shared]

theorem refl : Touched ps r r := ⟨.refl,fun _ _ => .refl,fun _ _ => rfl,fun _ => rfl⟩

theorem trans (h : Touched ps r r') (h' : Touched ps r' r'') : Touched ps r r'' where
  pushed := h.pushed.trans h'.pushed
  same q hq := (h.same q hq).trans (h'.same q hq)
  prev i hi := (h'.prev i hi).trans (h.prev i hi)
  alloc k := (h'.alloc k).trans (h.alloc k)

theorem setSignal (hn : node s = .inr q) (hq : q ∈ ps) : Touched ps r (r.setSignal s id value) where
  pushed := .setSignal hn
  same _ hq' := .setSignal hn (apart hq hq')
  prev i hi := by
    funext source id'
    refine setSignal_prev (fun hc => apart hq hi ?_)
    exact Sum.inr.inj (hc.1.trans hn)
  alloc k := by
    have halloc : (r.setSignal s id value).alloc = r.alloc := setSignal_alloc
    rw [halloc]

theorem setEdges (hn : (ends e).1 = .inr q) (hq : q ∈ ps) : Touched ps r (r.setEdges e id targets) where
  pushed := .setEdges hn
  same _ hq' := .setEdges hn (apart hq hq')
  prev _ _ := rfl
  alloc _ := rfl

theorem createPort (hq : q ∈ ps) : Touched ps r (r.createPort q id) where
  pushed := .createPort
  same _ hq' := .createPort (apart hq hq')
  prev i hi := by
    funext source
    simp [Router.createPort,Router.initState,apart hq hi]
  alloc _ := rfl

theorem createPortAuto (hq : q ∈ ps) : Touched ps r (r.createPortAuto q).2 where
  pushed := .createPortAuto
  same _ hq' := .createPortAuto (apart hq hq')
  prev i hi := (createPort hq : Touched ps r (r.createPort q (r.alloc (.inr q)))).prev i hi
  alloc _ := by simp [createPortAuto_alloc]

theorem createSm : Touched ps r (r.createSm k id state) :=
  ⟨.createSm,fun _ _ => .createSm,fun _ _ => rfl,fun _ => rfl⟩

theorem destroyPort (hq : q ∈ ps) (hs : ¬ Shared q) : Touched ps r (r.destroyPort q id) where
  pushed := .destroyPort
  same _ hq' := .destroyPort (apart hq hq') (fun _ he ht => hs (shared_of_ends he ht))
  prev i hi := by
    funext source id'
    exact destroyPort_prev (fun hc => apart hq hi (Sum.inr.inj hc.1))
  alloc k := by
    have halloc : (r.destroyPort q id).alloc = r.alloc := destroyPort_alloc
    rw [halloc]

end Touched

/-- What the management adapter configures. -/
inductive Side where
  | workload
  | service
deriving DecidableEq

namespace Side

def batch : Side → Batch
  | .workload => .specInput
  | .service => .svcSpecInput

abbrev kind (d : Side) : SmKind := batchNode d.batch

def edge : Side → Edge
  | .workload => .workloadConfig
  | .service => .serviceConfig

def signal : Side → Signal
  | .workload => .managementWlSpec
  | .service => .managementSvcSpec

def state : (d : Side) → State d.kind
  | .workload => WorkloadSm.new
  | .service => ⟨none⟩

/-- A service has to name a workload id in use. -/
def Bounded (n : Bounds) : (d : Side) → Val d.signal → Prop
  | .workload,_ => True
  | .service,spec => spec.workload < n.workload

theorem node_signal (d : Side) : node d.signal = .inr .management := by cases d <;> rfl

theorem ends_edge (d : Side) : ends d.edge = (.inr .management,.inl d.kind) := by cases d <;> rfl

theorem src_edge (d : Side) : (ends d.edge).1 = .inr .management := by rw [ends_edge]

theorem kind_inj {d d' : Side} (h : d.kind = d'.kind) : d = d' := by
  revert h
  cases d <;> cases d' <;> decide

theorem edge_ne {d d' : Side} (h : d ≠ d') : d.edge ≠ d'.edge := by
  revert h
  cases d <;> cases d' <;> decide

end Side

abbrev nextPort (r : DRouter) : ManagementId := r.alloc (.inr PortKind.management)

/-- A new machine with a port that configures it. -/
def withMachine (r : DRouter) (d : Side) (next : Nat) : DRouter :=
  ((r.createPortAuto PortKind.management).2.createSm d.kind next d.state).setEdges d.edge
    (nextPort r) [next]

section withMachine
variable {d d' : Side} {r : DRouter} {s : Signal} {next : Nat}

theorem touched_withMachine : Touched [.management] r (withMachine r d next) :=
  ((Touched.createPortAuto (by simp)).trans .createSm).trans (.setEdges d.src_edge (by simp))

theorem nextPort_withMachine : nextPort (withMachine r d next) = nextPort r + 1 := by
  simp [nextPort,withMachine,setEdges,createSm,createPortAuto_alloc]

theorem withMachine_out_self (hs : node s = .inr .management) :
    (withMachine r d next).out s (nextPort r) ≠ none := by
  have hout : (withMachine r d next).out s (nextPort r) = _ := createPortAuto_out_self hs
  rw [hout]
  exact Option.some_ne_none _

theorem withMachine_out {id : Nat} (h : id ≠ nextPort r) :
    (withMachine r d next).out s id = r.out s id := createPortAuto_out h

theorem withMachine_link_self : (withMachine r d next).link d.edge (nextPort r) x ↔ x = next := by
  simp [withMachine,link,setEdges,EdgeMap.mem_setEdges_self]

theorem withMachine_link {id : Nat} (h : ¬ (d' = d ∧ id = nextPort r)) :
    (withMachine r d next).link d'.edge id x ↔ r.link d'.edge id x := by
  refine setEdges_link (fun hc => h ⟨?_,hc.2⟩)
  by_contra hd
  exact Side.edge_ne hd hc.1

theorem ready_withMachine (h : Ready n r) (hw : n.workload ≤ n'.workload)
    (hs : n.service ≤ n'.service) (hlo : ∀ alloc, bound n alloc d.kind ≤ next)
    (hhi : ∀ alloc, next < bound n' alloc d.kind) : Ready n' (withMachine r d next) := by
  have created : Ready n' ((r.createPortAuto management).2.createSm d.kind next d.state) :=
    (h.createPortAuto (.inl rfl)).createSm hw hs (by cases d <;> rfl) (hlo _) (hhi _)
  refine created.setEdges d.src_edge (fun _ => ?_) (fun k hk t ht => ?_)
  · simp [createSm,createPortAuto_alloc]
  · rw [d.ends_edge] at hk
    cases hk
    rw [List.mem_singleton] at ht
    subst ht
    exact hhi _

end withMachine

/-- Which machine and which port a name has, which name a machine has, and the ids that come
next. -/
@[ext]
structure Names where
  entry : Side × String → Option (Nat × ManagementId)
  name : Side × Nat → Option String
  next : Side → Nat

namespace Names

variable {d d' : Side} {n : Names} {r r' : DRouter} {name : String} {id : Nat} {s : Names × DRouter}

def add (n : Names) (d : Side) (name : String) (id : ManagementId) : Names where
  entry := Function.update n.entry (d,name) (some (n.next d,id))
  name := Function.update n.name (d,n.next d) (some name)
  next := Function.update n.next d (n.next d + 1)

def drop (n : Names) (d : Side) (name : String) (w : Nat) : Names where
  entry := Function.update n.entry (d,name) none
  name := Function.update n.name (d,w) none
  next := n.next

def bounds (n : Names) : Bounds := ⟨n.next .workload,n.next .service⟩

/-- A name gets a value, and a machine if it has none. -/
def set (d : Side) (s : Names × DRouter) (x : String × Val d.signal) : Names × DRouter :=
  match s.1.entry (d,x.1) with
  | some (_,id) => (s.1,s.2.setSignal d.signal id x.2)
  | none => (s.1.add d x.1 (nextPort s.2),
      (withMachine s.2 d (s.1.next d)).setSignal d.signal (nextPort s.2) x.2)

def remove (d : Side) (s : Names × DRouter) (name : String) : Names × DRouter :=
  match s.1.entry (d,name) with
  | some (w,id) => (s.1.drop d name w,s.2.destroyPort PortKind.management id)
  | none => s

theorem next_le_add : n.next d' ≤ (n.add d name id).next d' := by
  by_cases hd : d' = d
  · subst hd
    simp [add]
  · simp [add,hd]

/-- Each name has a machine of its own and a port of its own that configures it. -/
structure Fits (n : Names) (r : DRouter) : Prop where
  entry : ∀ d name w id, n.entry (d,name) = some (w,id) → w < n.next d ∧
    id < nextPort r ∧ r.out d.signal id ≠ none ∧ ∀ x, r.link d.edge id x ↔ x = w
  unique : ∀ k k' w w' id id', n.entry k = some (w,id) → n.entry k' = some (w',id') →
    k.1 = k'.1 ∧ w = w' ∨ id = id' → k = k'
  linked : ∀ d id x, r.link d.edge id x → ∃ name, n.entry (d,name) = some (x,id)

namespace Fits

/-- The ports are as they were. -/
theorem frame (h : Fits n r) (halloc : nextPort r ≤ nextPort r')
    (hout : ∀ (d : Side) id, r.out d.signal id ≠ none → r'.out d.signal id ≠ none)
    (hlink : ∀ (d : Side) id x, r'.link d.edge id x ↔ r.link d.edge id x) : Fits n r' where
  entry d name w id hn := by
    obtain ⟨hw,hid,ho,hl⟩ := h.entry d name w id hn
    exact ⟨hw,Nat.lt_of_lt_of_le hid halloc,hout d id ho,fun x => (hlink d id x).trans (hl x)⟩
  unique := h.unique
  linked d id x hl := h.linked d id x ((hlink d id x).mp hl)

/-- Other ports may change. -/
theorem same (h : Fits n r) (hr : Router.SamePort management r r') : Fits n r' := by
  refine h.frame (Nat.le_of_eq hr.alloc.symm) (fun d id ho => ?_)
    (fun d id x => hr.link d.edge id x d.src_edge)
  rw [hr.out _ d.node_signal]
  exact ho

theorem setSignal (h : Fits n r) {s : Signal} {v : Val s} : Fits n (r.setSignal s id v) := by
  have halloc : (r.setSignal s id v).alloc = r.alloc := setSignal_alloc
  have hedge : (r.setSignal s id v).edge = r.edge := setSignal_edge
  refine h.frame (by simp only [nextPort,halloc,Nat.le_refl])
    (fun _ _ => setSignal_out_ne) (fun _ _ _ => ?_)
  unfold link
  rw [hedge]

/-- A new name, with the next machine and the next port. -/
theorem add (h : Fits n r) (hname : n.entry (d,name) = none) :
    Fits (n.add d name (nextPort r)) (withMachine r d (n.next d)) where
  entry d' name' w id hn := by
    rcases update_cases hn with ⟨hk,heq⟩ | ⟨_,hn⟩
    · cases hk
      cases heq
      exact ⟨by simp [Names.add],by rw [nextPort_withMachine]; exact Nat.lt_succ_self _,
        withMachine_out_self d.node_signal,fun _ => withMachine_link_self⟩
    · obtain ⟨hw,hid,ho,hl⟩ := h.entry d' name' w id hn
      have hne := Nat.ne_of_lt hid
      refine ⟨Nat.lt_of_lt_of_le hw next_le_add,?_,?_,
        fun x => (withMachine_link (fun hc => hne hc.2)).trans (hl x)⟩
      · rw [nextPort_withMachine]
        exact Nat.lt_succ_of_lt hid
      · rwa [withMachine_out hne]
  unique k k' w w' id id' hk hk' heq := by
    have new : ∀ {k w id}, n.entry k = some (w,id) → k.1 = d ∧ w = n.next d ∨ id = nextPort r →
        False := by
      intro k w id hk heq
      obtain ⟨hw,hid,_⟩ := h.entry k.1 k.2 w id hk
      rcases heq with ⟨rfl,rfl⟩ | rfl
      · exact Nat.lt_irrefl _ hw
      · exact Nat.lt_irrefl _ hid
    rcases update_cases hk with ⟨rfl,hv⟩ | ⟨_,hk⟩ <;> rcases update_cases hk' with ⟨rfl,hv'⟩ | ⟨_,hk'⟩
    · rfl
    · cases hv
      exact (new hk' (heq.imp (fun hc => ⟨hc.1.symm,hc.2.symm⟩) Eq.symm)).elim
    · cases hv'
      exact (new hk heq).elim
    · exact h.unique k k' w w' id id' hk hk' heq
  linked d' id x hl := by
    by_cases hd : d' = d ∧ id = nextPort r
    · obtain ⟨rfl,rfl⟩ := hd
      cases withMachine_link_self.mp hl
      exact ⟨name,update_self ..⟩
    · obtain ⟨name',hn⟩ := h.linked d' id x ((withMachine_link hd).mp hl)
      refine ⟨name',(update_of_ne (fun hc => ?_) _ _).trans hn⟩
      cases hc
      cases hname.symm.trans hn

theorem drop_cases (h : (n.drop d name w).entry k = some x) : k ≠ (d,name) ∧ n.entry k = some x :=
  (update_cases h).resolve_left (fun hc => by cases hc.2)

/-- Removing a name destroys its port, which no other name has. -/
theorem drop (h : Fits n r) {w id : Nat} (hname : n.entry (d,name) = some (w,id)) :
    Fits (n.drop d name w) (r.destroyPort management id) := by
  have hl : ∀ {d' : Side} {id' x}, (r.destroyPort management id).link d'.edge id' x ↔
      r.link d'.edge id' x ∧ id' ≠ id := by
    intro d' id' x
    rw [destroyPort_link (T := topology)]
    refine and_congr_right (fun _ => ⟨fun hc heq => hc.1 ⟨d'.src_edge,heq⟩,
      fun hne => ⟨fun hc => hne hc.2,fun hc => ?_⟩⟩)
    cases (congrArg Prod.snd d'.ends_edge).symm.trans hc.1
  have halloc : (r.destroyPort management id).alloc = r.alloc := destroyPort_alloc
  refine ⟨fun d' name' w' id' hn => ?_,fun k k' w w' id id' hk hk' =>
    h.unique k k' w w' id id' (drop_cases hk).2 (drop_cases hk').2,fun d' id' x hlink => ?_⟩
  · obtain ⟨hk,hn⟩ := drop_cases hn
    obtain ⟨hw,hid,ho,hlink⟩ := h.entry d' name' w' id' hn
    have hne : id' ≠ id := fun hc => hk (h.unique _ _ w' w id' id hn hname (.inr hc))
    have hout : (r.destroyPort management id).out d'.signal id' = r.out d'.signal id' :=
      destroyPort_out (fun hc => hne hc.2)
    simp only [nextPort,halloc,hout]
    exact ⟨hw,hid,ho,fun x => (hl.trans (and_iff_left hne)).trans (hlink x)⟩
  · obtain ⟨hlink,hne⟩ := hl.mp hlink
    obtain ⟨name',hn⟩ := h.linked d' id' x hlink
    refine ⟨name',(update_of_ne (fun hc => ?_) _ _).trans hn⟩
    cases hc
    cases hname.symm.trans hn
    exact hne rfl

end Fits

structure Sound (s : Names × DRouter) : Prop extends Fits s.1 s.2 where
  ready : Ready s.1.bounds s.2

namespace Sound

theorem setSignal (h : Sound (n,r)) {id : Nat} {v : Val d.signal} (ho : r.out d.signal id ≠ none)
    (hv : d.Bounded n.bounds v) : Sound (n,r.setSignal d.signal id v) := by
  refine ⟨h.toFits.setSignal,?_⟩
  cases d with
  | workload => exact h.ready.setSignal rfl (.inl ho) (.inl (by decide))
  | service =>
    refine h.ready.setSignal rfl (.inl ho) (.inr (fun spec hspec => ?_))
    have hself : (r.setSignal Signal.managementSvcSpec id v).out Signal.managementSvcSpec id =
      some v := setSignal_out_self
    cases hself.symm.trans hspec
    exact hv

theorem add (h : Sound (n,r)) (hname : n.entry (d,name) = none) :
    Sound (n.add d name (nextPort r),withMachine r d (n.next d)) := by
  refine ⟨h.toFits.add hname,?_⟩
  cases d with
  | workload =>
    exact ready_withMachine h.ready (Nat.le_succ _) (Nat.le_refl _) (fun _ => Nat.le_refl _)
      (fun _ => Nat.lt_succ_self _)
  | service =>
    exact ready_withMachine h.ready (Nat.le_refl _) (Nat.le_succ _) (fun _ => Nat.le_refl _)
      (fun _ => Nat.lt_succ_self _)

theorem set (h : Sound s) {x : String × Val d.signal} (hv : d.Bounded s.1.bounds x.2) :
    Sound (Names.set d s x) ∧ Touched [.management] s.2 (Names.set d s x).2 := by
  obtain ⟨n,r⟩ := s
  unfold Names.set
  cases hn : n.entry (d,x.1) with
  | some entry =>
    obtain ⟨w,id⟩ := entry
    obtain ⟨_,_,ho,_⟩ := h.entry d x.1 w id hn
    exact ⟨h.setSignal ho hv,.setSignal d.node_signal (by simp)⟩
  | none =>
    refine ⟨(h.add hn).setSignal (withMachine_out_self d.node_signal) ?_,
      touched_withMachine.trans (.setSignal d.node_signal (by simp))⟩
    cases d with
    | workload => trivial
    | service => exact hv

theorem remove (h : Sound s) (name : String) :
    Sound (Names.remove d s name) ∧ Touched [.management] s.2 (Names.remove d s name).2 := by
  unfold Names.remove
  cases hn : s.1.entry (d,name) with
  | none => exact ⟨h,.refl⟩
  | some entry =>
    exact ⟨⟨h.toFits.drop hn,h.ready.destroyPort (by simp [Shared])⟩,
      .destroyPort (by simp) (by simp [Shared])⟩

theorem foldl {f : Names × DRouter → α → Names × DRouter}
    (hf : ∀ s a, Sound s → Sound (f s a) ∧ Touched [.management] s.2 (f s a).2) (l : List α)
    (h : Sound s) : Sound (l.foldl f s) ∧ Touched [.management] s.2 (l.foldl f s).2 := by
  induction l generalizing s with
  | nil => exact ⟨h,.refl⟩
  | cons a l ih =>
    obtain ⟨sound,touched⟩ := hf s a h
    obtain ⟨sound',touched'⟩ := ih sound
    exact ⟨sound',touched.trans touched'⟩

end Sound

/-- A service for a workload that does not exist points to workload 0. -/
def serviceSpec (n : Names) (name : String) (spec : ServiceSpec) : Sm.ServiceSpec :=
  { ManagementAdapter.toSmServiceSpec .new name spec with
    workload := ((n.entry (.workload,spec.workloadId)).map Prod.fst).getD 0 }

theorem serviceSpec_bounded (h : Sound s) (name : String) (spec : ServiceSpec) :
    (serviceSpec s.1 name spec).workload < s.1.bounds.workload := by
  simp only [serviceSpec]
  cases hn : s.1.entry (.workload,spec.workloadId) with
  | none => exact h.ready.positive
  | some entry => exact (h.entry _ _ entry.1 entry.2 hn).1

def setWorkload (s : Names × DRouter) (x : String × WorkloadSpec) : Names × DRouter :=
  set .workload s (x.1,ManagementAdapter.toSmWorkloadSpec x.2)

def setService (s : Names × DRouter) (x : String × ServiceSpec) : Names × DRouter :=
  set .service s (x.1,serviceSpec s.1 x.1 x.2)

/-- What a new spec does to the names. -/
def apply (s : Names × DRouter) (old : Option NamespaceSpec) (new : NamespaceSpec) :
    Names × DRouter :=
  let oldWorkloads := (old.map (fun o => o.workloads.keys)).getD []
  let oldServices := (old.map (fun o => o.services.keys)).getD []
  let s := new.workloads.toList.foldl setWorkload s
  let s := (oldWorkloads.filter (fun name => name ∉ new.workloads)).foldl (remove .workload) s
  let s := new.services.toList.foldl setService s
  (oldServices.filter (fun name => name ∉ new.services)).foldl (remove .service) s

/-- A new spec is handed over without touching anything but the management ports. -/
theorem Sound.apply (h : Sound s) (old : Option NamespaceSpec) (new : NamespaceSpec) :
    Sound (Names.apply s old new) ∧ Touched [.management] s.2 (Names.apply s old new).2 := by
  obtain ⟨h₁,f₁⟩ := foldl (f := setWorkload) (fun _ _ hs => hs.set trivial) new.workloads.toList h
  obtain ⟨h₂,f₂⟩ := foldl (f := Names.remove .workload) (fun _ a hs => hs.remove a)
    (((old.map (fun o => o.workloads.keys)).getD []).filter (fun name => name ∉ new.workloads)) h₁
  obtain ⟨h₃,f₃⟩ := foldl (f := setService)
    (fun _ a hs => hs.set (serviceSpec_bounded hs a.1 a.2)) new.services.toList h₂
  obtain ⟨h₄,f₄⟩ := foldl (f := Names.remove .service) (fun _ a hs => hs.remove a)
    (((old.map (fun o => o.services.keys)).getD []).filter (fun name => name ∉ new.services)) h₃
  exact ⟨h₄,((f₁.trans f₂).trans f₃).trans f₄⟩

end Names

namespace ManagementAdapter

/-- The names of the adapter. -/
def seen (m : ManagementAdapter) : Names where
  entry
    | (.workload,name) => m.workloads[name]?
    | (.service,name) => m.services[name]?
  name
    | (.workload,w) => m.workloadNames[w]?
    | (.service,w) => m.serviceNames[w]?
  next
    | .workload => m.nextWorkloadId
    | .service => m.nextServiceId

section lookups
variable [Ord K] [Std.TransOrd K] [Std.LawfulEqOrd K] [DecidableEq K] {m : ExtTreeMap K V} {a b : K}

theorem insert_eq {x : V} : (m.insert a x)[b]? = if b = a then some x else m[b]? := by
  rw [ExtTreeMap.getElem?_insert]
  exact if_congr (Std.LawfulEqCmp.compare_eq_iff_eq.trans eq_comm) rfl rfl

theorem erase_eq : (m.erase a)[b]? = if b = a then none else m[b]? := by
  rw [ExtTreeMap.getElem?_erase]
  exact if_congr (Std.LawfulEqCmp.compare_eq_iff_eq.trans eq_comm) rfl rfl

end lookups

/-- The adapter as its names show it. -/
abbrev shown (s : ManagementAdapter × DRouter) : Names × DRouter := (s.1.seen,s.2)

theorem setWorkload_shown (s : ManagementAdapter × DRouter) (x : String × WorkloadSpec) :
    Names.setWorkload (shown s) x = shown (setWorkload s x) := by
  unfold Names.setWorkload Names.set setWorkload
  simp only [seen]
  cases s.1.workloads[x.1]? with
  | some entry => rfl
  | none =>
    refine Prod.ext (Names.ext (funext (fun k => ?_)) (funext (fun k => ?_)) (funext (fun d => ?_))) rfl
    · rcases k with ⟨_ | _,_⟩ <;>
        simp [seen,Names.add,update_apply,insert_eq,createPortAuto]
    · rcases k with ⟨_ | _,_⟩ <;> simp [seen,Names.add,update_apply,insert_eq]
    · cases d <;> rfl

theorem removeWorkload_shown (s : ManagementAdapter × DRouter) (name : String) :
    Names.remove .workload (shown s) name = shown (removeWorkload s name) := by
  unfold Names.remove removeWorkload
  simp only [seen]
  cases s.1.workloads[name]? with
  | none => rfl
  | some entry =>
    refine Prod.ext (Names.ext (funext (fun k => ?_)) (funext (fun k => ?_)) rfl) rfl
    · rcases k with ⟨_ | _,_⟩ <;> simp [seen,Names.drop,update_apply,erase_eq]
    · rcases k with ⟨_ | _,_⟩ <;> simp [seen,Names.drop,update_apply,erase_eq]

theorem setService_shown (s : ManagementAdapter × DRouter) (x : String × ServiceSpec) :
    Names.setService (shown s) x = shown (setService s x) := by
  unfold Names.setService Names.set setService
  simp only [seen]
  cases s.1.services[x.1]? with
  | some entry => rfl
  | none =>
    refine Prod.ext (Names.ext (funext (fun k => ?_)) (funext (fun k => ?_)) (funext (fun d => ?_))) rfl
    · rcases k with ⟨_ | _,_⟩ <;>
        simp [seen,Names.add,update_apply,insert_eq,createPortAuto]
    · rcases k with ⟨_ | _,_⟩ <;> simp [seen,Names.add,update_apply,insert_eq]
    · cases d <;> rfl

theorem removeService_shown (s : ManagementAdapter × DRouter) (name : String) :
    Names.remove .service (shown s) name = shown (removeService s name) := by
  unfold Names.remove removeService
  simp only [seen]
  cases s.1.services[name]? with
  | none => rfl
  | some entry =>
    refine Prod.ext (Names.ext (funext (fun k => ?_)) (funext (fun k => ?_)) rfl) rfl
    · rcases k with ⟨_ | _,_⟩ <;> simp [seen,Names.drop,update_apply,erase_eq]
    · rcases k with ⟨_ | _,_⟩ <;> simp [seen,Names.drop,update_apply,erase_eq]

/-- The adapter applies a spec as its names do. -/
theorem apply_shown (s : ManagementAdapter × DRouter) (old : Option NamespaceSpec)
    (new : NamespaceSpec) :
    Names.apply (shown s) old new = shown (applyNamespaceSpec s old new) := by
  simp only [Names.apply,applyNamespaceSpec,List.foldl_hom shown setWorkload_shown,
    List.foldl_hom shown removeWorkload_shown,List.foldl_hom shown setService_shown,
    List.foldl_hom shown removeService_shown]

end ManagementAdapter

end Distvirt
