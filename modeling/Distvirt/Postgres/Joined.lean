import Distvirt.Postgres.Need

/-! Which backend connection a client is joined to. The results of connects are told apart only by
their order, so they must not be mixed up. -/

namespace Distvirt.Postgres

open Connection (Forward)
open PostgresActivator hiding Sound
open List (append_nil mem_append mem_filter)

/-- The activator, the clients whose connects are not answered yet, the clients that got a connect
since they were opened, and the upstreams that neither side has closed, each with the client whose
connect it answers. -/
structure Joined where
  core : PostgresActivator := {}
  owed : List Nat := []
  dialled : List Nat := []
  live : List (Nat × Nat) := []

namespace Joined

def connects (actions : List Action) : Nat :=
  actions.countP (fun | .upstreamConnect _ => true | _ => false)

/-- The clients that have sent their startup message, in the order of the map. -/
def started (a : PostgresActivator) : List Nat :=
  (a.connections.toList.filter (fun e => e.2.hasBufferedStartup)).map Prod.fst

/-- For whom the connects among the actions are: for the client that has sent something, or for each
of the clients that wait for the backend. -/
def dials (a : PostgresActivator) (actions : List Action) : Event → List Nat
  | .streamData handle _ => List.replicate (connects actions) handle
  | .backendAvailable _ => (started a).take (connects actions)
  | _ => []

def step (t : Target) (s : Joined) (ev : Event) : Option Joined :=
  (s.core.process t ev).map fun (core,actions) =>
    { core
      owed := (match ev with
        | .upstreamConnectResult _ _ => s.owed.tail
        | _ => s.owed) ++ dials s.core actions ev
      dialled := (match ev with
        | .streamOpen handle | .streamClose handle => s.dialled.filter (· != handle)
        | _ => s.dialled) ++ dials s.core actions ev
      live := (match ev with
        | .upstreamConnectResult upstream true => s.live ++ s.owed.head?.toList.map (upstream,·)
        | .upstreamClose upstream => s.live.filter (·.1 != upstream)
        | _ => s.live).filter (fun e => Action.upstreamClose e.1 ∉ actions) }

/-- No client got two connects, and a backend connection that is not closed is attached to the open
client whose connect it answers, and to no other. -/
structure Matched (s : Joined) : Prop where
  once : s.dialled.Nodup
  attached : ∀ e ∈ s.live, s.core.upstreamToDownstream.lookup e.1 = some e.2 ∧
    e.2 ∈ s.core.connections
  single : ∀ e ∈ s.live, ∀ e' ∈ s.live, e.2 = e'.2 → e = e'

/-- The handles are new and a result answers a connect. While a connect for a client is pending, the
client neither sends more of its startup nor closes, and the backend does not come again. -/
def Patient (s : Joined) : Event → Prop
  | .streamOpen handle => handle ∉ s.core.connections
  | .streamData handle _ => handle ∈ s.owed →
      (s.core.connections.lookup handle).all (fun c => c.phase != .startup) = true
  | .streamClose handle => handle ∉ s.owed
  | .backendAvailable true => ∀ d ∈ s.owed,
      (s.core.connections.lookup d).all (fun c => !c.hasBufferedStartup) = true
  | .upstreamConnectResult upstream _ => s.owed ≠ [] ∧ upstream ∉ s.core.upstreamToDownstream
  | _ => True

instance (s : Joined) : DecidablePred s.Patient
  | .streamOpen _ | .streamClose _ => inferInstanceAs (Decidable (¬ _))
  | .streamData _ _ => inferInstanceAs (Decidable (_ → _))
  | .backendAvailable true => inferInstanceAs (Decidable (∀ d ∈ s.owed, _))
  | .upstreamConnectResult _ _ => inferInstanceAs (Decidable (_ ∧ _))
  | .backendAvailable false | .upstreamData _ _ | .upstreamClose _ | .tick => isTrue trivial

/-- The queue is what is owed, and a client that has its answer is past its startup. -/
structure Inv (s : Joined) : Prop where
  owed : s.core.pendingConnects = s.owed
  queue : s.owed.Nodup
  waiting : ∀ d ∈ s.owed, d ∈ s.dialled ∧
    ∃ c, s.core.connections.lookup d = some c ∧ meaningful c = true
  once : s.dialled.Nodup
  met : ∀ d ∈ s.dialled, d ∉ s.owed → ∀ c, s.core.connections.lookup d = some c → c.Met
  live : ∀ e ∈ s.live, s.core.upstreamToDownstream.lookup e.1 = some e.2
  joined : ∀ u d, s.core.upstreamToDownstream.lookup u = some d →
    (∃ c, s.core.connections.lookup d = some c) ∧ d ∈ s.dialled ∧ d ∉ s.owed
  single : ∀ u u' d, s.core.upstreamToDownstream.lookup u = some d →
    s.core.upstreamToDownstream.lookup u' = some d → u = u'

variable {t : Target} {s s' : Joined} {c c' : Connection}

theorem Inv.matched (h : s.Inv) : s.Matched where
  once := h.once
  attached e he := ⟨h.live e he,AList.mem_iff.mpr (h.joined _ _ (h.live e he)).1⟩
  single e he e' he' heq := by
    have hu := h.single e.1 e'.1 e.2 (h.live e he) (heq ▸ h.live e' he')
    exact Prod.ext hu heq

theorem Inv.fewer (h : s.Inv) {live : List (Nat × Nat)} (hl : ∀ e ∈ live, e ∈ s.live) :
    Inv { s with live } :=
  { h with live := fun e he => h.live e (hl e he) }

/-- A client moves on. -/
theorem Inv.set (h : s.Inv) (hl : s.core.connections.lookup d = some c) (hf : Forward c c') :
    Inv { s with core := s.core.setConnection d c' } := by
  obtain ⟨howed,hqueue,hwaiting,honce,hmet,hlive,hjoined,hsingle⟩ := h
  refine ⟨howed,hqueue,?_,honce,?_,hlive,?_,hsingle⟩ <;>
    simp only [setConnection,AList.lookup_insert_if] <;> grind [Forward]

/-- Clients that were not dialled before are dialled. -/
theorem Inv.dial (h : s.Inv) (handles : List Nat) (hn : handles.Nodup)
    (hd : ∀ d ∈ handles, d ∉ s.dialled ∧
      ∃ c, s.core.connections.lookup d = some c ∧ c.hasBufferedStartup = true) (available : Bool) :
    Inv { s with
      core := { s.core with
        pendingConnects := s.core.pendingConnects ++ handles, backendAvailable := available }
      owed := s.owed ++ handles
      dialled := s.dialled ++ handles } := by
  have hnew : ∀ d ∈ handles, d ∉ s.owed := fun d hm hin => (hd d hm).1 (h.waiting d hin).1
  refine ⟨congrArg (· ++ handles) h.owed,?_,fun d hm => ?_,?_,fun d hm hno => ?_,h.live,
    fun u d hu => ?_,h.single⟩
  · exact h.queue.append hn (fun d hin hm => hnew d hm hin)
  · rcases mem_append.mp hm with hm | hm
    · exact ⟨List.mem_append_left _ (h.waiting d hm).1,(h.waiting d hm).2⟩
    · obtain ⟨-,c,hl,hb⟩ := hd d hm
      exact ⟨List.mem_append_right _ hm,c,hl,meaningful_of_buffered hb⟩
  · exact h.once.append hn (fun d hin hm => (hd d hm).1 hin)
  · rw [mem_append,not_or] at hno
    exact h.met d ((mem_append.mp hm).resolve_right hno.2) hno.1
  · obtain ⟨hopen,hdialled,hno⟩ := h.joined u d hu
    refine ⟨hopen,List.mem_append_left _ hdialled,fun hm => ?_⟩
    rcases mem_append.mp hm with hm | hm
    · exact hno hm
    · exact (hd d hm).1 hdialled

theorem phase_of_buffered (h : c.hasBufferedStartup = true) : c.phase = .startup := by
  simpa using (Bool.and_eq_true_iff.mp h).1

/-- A client with its startup message was not dialled before, or it waits for the answer. -/
theorem Inv.not_dialled (h : s.Inv) (hl : s.core.connections.lookup d = some c)
    (hmet : ¬ c.Met) (ho : d ∉ s.owed) : d ∉ s.dialled :=
  fun hd => hmet (h.met d hd ho c hl)

/-- A client that is not there has no connects. -/
theorem Inv.forget (h : s.Inv) (hno : handle ∉ s.core.connections) :
    Inv { s with dialled := s.dialled.filter (· != handle) } := by
  have hnone := AList.lookup_eq_none.mpr hno
  obtain ⟨howed,hqueue,hwaiting,honce,hmet,hlive,hjoined,hsingle⟩ := h
  refine ⟨howed,hqueue,?_,honce.filter _,?_,hlive,?_,hsingle⟩ <;>
    simp only [mem_filter] <;> grind

theorem Inv.insert (h : s.Inv) (hno : handle ∉ s.core.connections) (hd : handle ∉ s.dialled) :
    Inv { s with core := s.core.setConnection handle c } := by
  have hnone := AList.lookup_eq_none.mpr hno
  obtain ⟨howed,hqueue,hwaiting,honce,hmet,hlive,hjoined,hsingle⟩ := h
  refine ⟨howed,hqueue,?_,honce,?_,hlive,?_,hsingle⟩ <;>
    simp only [setConnection,AList.lookup_insert_if] <;> grind

theorem Inv.erase (h : s.Inv) (ho : handle ∉ s.owed)
    (hu : ∀ u, s.core.upstreamToDownstream.lookup u ≠ some handle) :
    Inv { s with core := { s.core with connections := s.core.connections.erase handle } } := by
  obtain ⟨howed,hqueue,hwaiting,honce,hmet,hlive,hjoined,hsingle⟩ := h
  refine ⟨howed,hqueue,?_,honce,?_,hlive,?_,hsingle⟩ <;>
    simp only [AList.lookup_erase_if] <;> grind

theorem Inv.unlink (h : s.Inv) (upstream : Nat) :
    Inv { s with
      core := { s.core with upstreamToDownstream := s.core.upstreamToDownstream.erase upstream }
      live := s.live.filter (·.1 != upstream) } := by
  obtain ⟨howed,hqueue,hwaiting,honce,hmet,hlive,hjoined,hsingle⟩ := h
  refine ⟨howed,hqueue,hwaiting,honce,hmet,?_,?_,?_⟩ <;>
    simp only [AList.lookup_erase_if,mem_filter] <;> grind

/-- A client has its answer. -/
theorem Inv.answer (h : s.Inv) (ho : s.owed = d :: rest)
    (hl : s.core.connections.lookup d = some c) (hm : c'.Met) :
    Inv { s with
      core := setConnection { s.core with pendingConnects := rest } d c'
      owed := rest } := by
  obtain ⟨howed,hqueue,hwaiting,honce,hmet,hlive,hjoined,hsingle⟩ := h.set hl hm.forward
  simp only [ho,List.nodup_cons] at hqueue
  refine ⟨rfl,hqueue.2,?_,honce,?_,hlive,?_,hsingle⟩ <;>
    simp only [setConnection,AList.lookup_insert_if,ho,List.mem_cons] at * <;> grind

/-- A new backend connection belongs to a client that has none. -/
theorem Inv.link (h : s.Inv) (hu : upstream ∉ s.core.upstreamToDownstream)
    (hl : s.core.connections.lookup d = some c) (hd : d ∈ s.dialled) (ho : d ∉ s.owed)
    (hno : ∀ u, s.core.upstreamToDownstream.lookup u ≠ some d) :
    Inv { s with
      core := { s.core with
        upstreamToDownstream := s.core.upstreamToDownstream.insert upstream d }
      live := s.live ++ [(upstream,d)] } := by
  have hnone := AList.lookup_eq_none.mpr hu
  obtain ⟨howed,hqueue,hwaiting,honce,hmet,hlive,hjoined,hsingle⟩ := h
  refine ⟨howed,hqueue,hwaiting,honce,hmet,?_,?_,?_⟩ <;>
    simp only [AList.lookup_insert_if,mem_append,List.mem_singleton] <;> grind

theorem Inv.not_dialled_of_startup (h : s.Inv) (hl : s.core.connections.lookup handle = some c)
    (hp : s.Patient (.streamData handle data))
    (hb : (c.onClientData t data).1.hasBufferedStartup = true) : handle ∉ s.dialled := by
  have hmet : ¬ c.Met := by
    intro hmet
    have hforward : Forward c (c.onClientData t data).1 := Connection.onClientData_forward
    have hmet' := hforward.2 hmet
    simp [Connection.Met,phase_of_buffered hb] at hmet'
  refine h.not_dialled hl hmet (fun ho => hmet ?_)
  obtain ⟨c₁,hl₁,hm⟩ := (h.waiting handle ho).2
  cases hl.symm.trans hl₁
  have hphase := hp ho
  simp only [hl,Option.all_some,bne_iff_ne] at hphase
  revert hphase hm
  unfold meaningful Connection.Met
  cases c.phase <;> simp

theorem upstreamOf_some (a : PostgresActivator) :
    a.upstreamOf handle = some u → a.upstreamToDownstream.lookup u = some handle := by
  intro h
  obtain ⟨e,he,rfl⟩ := Option.map_eq_some_iff.mp h
  have heq : e.2 = handle := by simpa using List.find?_some he
  rw [← heq]
  exact AList.mem_toList.mp (List.mem_of_find?_eq_some he)

theorem upstreamOf_none {a : PostgresActivator} (h : a.upstreamOf handle = none) (u : Nat) :
    a.upstreamToDownstream.lookup u ≠ some handle := by
  intro hu
  have := List.find?_eq_none.mp (Option.map_eq_none_iff.mp h) (u,handle) (AList.mem_toList.mpr hu)
  simp at this

theorem Inv.streamClose (h : s.Inv) (ho : handle ∉ s.owed) :
    Inv ⟨(s.core.handleStreamClose handle).1,s.owed,s.dialled.filter (· != handle),
      s.live.filter (fun e => Action.upstreamClose e.1 ∉ (s.core.handleStreamClose handle).2)⟩ := by
  have hfilter : s.core.pendingConnects.filter (· != handle) = s.core.pendingConnects := by
    rw [h.owed,List.filter_eq_self]
    exact fun d hd => bne_iff_ne.mpr (fun heq => ho (heq ▸ hd))
  unfold handleStreamClose
  cases hl : s.core.connections.lookup handle with
  | none =>
    exact (h.forget (AList.lookup_eq_none.mp hl)).fewer (fun e he => (mem_filter.mp he).1)
  | some c =>
    dsimp only
    rw [hfilter]
    cases hu : s.core.upstreamOf handle with
    | none =>
      have herase := h.erase ho (upstreamOf_none hu)
      exact (herase.forget (by simp)).fewer (fun e he => (mem_filter.mp he).1)
    | some u =>
      have hlook := upstreamOf_some _ hu
      have hno : ∀ u', (s.core.upstreamToDownstream.erase u).lookup u' ≠ some handle := by
        intro u' hu'
        rw [AList.lookup_erase_if] at hu'
        split at hu'
        · cases hu'
        · exact absurd (h.single u' u handle hu' hlook) ‹_›
      have herase := (h.unlink u).erase ho hno
      refine (herase.forget (by simp)).fewer (fun e he => ?_)
      simp only [mem_filter] at he ⊢
      grind

@[simp] theorem connects_append : connects (l ++ l') = connects l + connects l' := List.countP_append

@[simp] theorem connects_processConnActions (a : PostgresActivator) (actions : List ConnAction) :
    connects (a.processConnActions handle actions) = 0 := by
  refine List.countP_eq_zero.mpr (fun action haction => ?_)
  obtain ⟨connAction,-,heq⟩ := List.mem_filterMap.mp haction
  cases connAction with
  | upstreamSend data | upstreamClose =>
    obtain ⟨upstream,-,rfl⟩ := Option.map_eq_some_iff.mp heq
    exact Bool.false_ne_true
  | downstreamSend data | downstreamClose | log message =>
    cases heq
    exact Bool.false_ne_true

@[simp] theorem connects_updateBackendNeed (a : PostgresActivator) (need : BackendNeed) :
    connects (a.updateBackendNeed need) = 0 := by
  unfold updateBackendNeed
  split <;> rfl

theorem connects_started (handles : List Nat) :
    connects (handles.map (fun _ => .upstreamConnect 5432)) = handles.length := by
  rw [connects,List.countP_map]
  exact congrFun List.countP_true handles

theorem Inv.backendAvailable (h : s.Inv) (hp : s.Patient (.backendAvailable true)) :
    Inv ⟨(s.core.handleBackendAvailable true).1,s.owed ++ started s.core,
      s.dialled ++ started s.core,s.live⟩ := by
  refine h.dial _ ?_ (fun d hd => ?_) true
  · exact (AList.map_fst_toList s.core.connections ▸ AList.keys_nodup _).sublist
      (List.filter_sublist.map _)
  · obtain ⟨⟨d,c⟩,he,rfl⟩ := List.mem_map.mp hd
    obtain ⟨hmem,hb⟩ := mem_filter.mp he
    have hl := AList.mem_toList.mp hmem
    have hphase : c.phase = .startup := phase_of_buffered hb
    refine ⟨h.not_dialled hl (by simp [Connection.Met,hphase]) (fun ho => ?_),c,hl,hb⟩
    have hno := hp d ho
    simp only [hl,Option.all_some,Bool.not_eq_true'] at hno
    rw [hno] at hb
    cases hb

theorem dials_available (a : PostgresActivator) :
    dials a (a.handleBackendAvailable true).2 (.backendAvailable true) = started a := by
  simp only [dials,handleBackendAvailable,↓reduceIte,connects_append,connects_started,
    connects_updateBackendNeed]
  exact List.take_length

theorem dials_gone (a : PostgresActivator) :
    dials a (a.handleBackendAvailable false).2 (.backendAvailable false) = [] := by
  have hclients : ∀ l : List (Nat × Connection), connects (l.flatMap (fun e =>
      processConnActions { a with backendAvailable := false } e.1 e.2.onUpstreamClosed.2)) = 0 := by
    intro l
    induction l with
    | nil => rfl
    | cons e l ih => rw [List.flatMap_cons,connects_append,connects_processConnActions,ih]
  have hcloses : ∀ l : List (Nat × Nat), connects (l.map (fun e => .upstreamClose e.1)) = 0 := by
    intro l
    rw [connects,List.countP_map]
    exact congrFun List.countP_false l
  have hzero : connects (a.handleBackendAvailable false).2 = 0 := by
    simp only [handleBackendAvailable,Bool.false_eq_true,↓reduceIte,connects_append,hclients,hcloses,
      connects_updateBackendNeed]
  rw [dials,hzero,List.take_zero]

theorem Inv.backendGone (h : s.Inv) : Inv ⟨(s.core.handleBackendAvailable false).1,s.owed,s.dialled,
      s.live.filter (fun e => Action.upstreamClose e.1 ∉ (s.core.handleBackendAvailable false).2)⟩ := by
  have hlook : ∀ d, (s.core.connections.retain (fun _ c => some c.onUpstreamClosed.1)).lookup d =
      (s.core.connections.lookup d).map (fun c => c.onUpstreamClosed.1) := by
    intro d
    rw [AList.lookup_retain]
    cases s.core.connections.lookup d <;> rfl
  refine ⟨h.owed,h.queue,fun d hd => ?_,h.once,fun d hd ho c hc => ?_,fun e he => ?_,
    fun u d hu => ?_,fun u u' d hu => ?_⟩
  · obtain ⟨hdialled,c,hl,-⟩ := h.waiting d hd
    refine ⟨hdialled,c.onUpstreamClosed.1,(hlook d).trans (congrArg _ hl),?_⟩
    simp [meaningful,c.onUpstreamClosed_phase]
  · obtain ⟨c,-,rfl⟩ := Option.map_eq_some_iff.mp ((hlook d).symm.trans hc)
    exact .inr c.onUpstreamClosed_phase
  · obtain ⟨hm,hno⟩ := mem_filter.mp he
    refine absurd (List.mem_append_left _ (List.mem_append_right _ ?_)) (of_decide_eq_true hno)
    exact List.mem_map.mpr ⟨e,AList.mem_toList.mpr (h.live e hm),rfl⟩
  · cases hu
  · cases hu

theorem onUpstreamData_phase (h : c.onUpstreamData t data = some (c',actions)) :
    c'.phase = c.phase := by
  unfold Connection.onUpstreamData at h
  split at h
  · cases h
    rfl
  · obtain ⟨conn,hscan,heq⟩ := Option.map_eq_some_iff.mp h
    cases heq
    obtain ⟨frames,tail,-,rfl⟩ := Connection.scan_cut hscan
    rfl

/-- A client sends something, and is dialled if that completes its startup message. -/
theorem Inv.streamData (h : s.Inv) (hp : s.Patient (.streamData handle data)) :
    let r := s.core.handleStreamData t handle data
    Inv ⟨r.1,s.owed ++ dials s.core r.2 (.streamData handle data),
      s.dialled ++ dials s.core r.2 (.streamData handle data),s.live⟩ := by
  simp only [dials,handleStreamData]
  cases hl : s.core.connections.lookup handle with
  | none =>
    simp only [connects,List.countP_nil,List.replicate_zero,append_nil]
    exact h
  | some c =>
    have hforward : Forward c (c.onClientData t data).1 := Connection.onClientData_forward
    have hset := h.set hl hforward
    dsimp only
    split
    · rename_i hb
      have hb := (Bool.and_eq_true_iff.mp hb).2
      simp only [connects_append,connects_processConnActions,connects_updateBackendNeed]
      refine hset.dial [handle] (List.nodup_singleton _) (fun d hd => ?_) _
      cases List.mem_singleton.mp hd
      exact ⟨h.not_dialled_of_startup hl hp hb,_,AList.lookup_insert _,hb⟩
    · simp only [connects_append,connects_processConnActions,connects_updateBackendNeed]
      simpa [connects] using hset

/-- A connect is answered. -/
theorem Inv.connectResult (h : s.Inv) (hp : s.Patient (.upstreamConnectResult upstream ok)) :
    Inv ⟨(s.core.handleUpstreamConnectResult upstream ok).1,s.owed.tail,s.dialled,
      if ok then s.live ++ s.owed.head?.toList.map (upstream,·) else s.live⟩ := by
  obtain ⟨hne,hu⟩ := hp
  cases ho : s.owed with
  | nil => exact absurd ho hne
  | cons d rest =>
    obtain ⟨hd,c,hl,hm⟩ := h.waiting d (ho ▸ List.mem_cons_self)
    have hno : ∀ u, s.core.upstreamToDownstream.lookup u ≠ some d :=
      fun u hlook => (h.joined u d hlook).2.2 (ho ▸ List.mem_cons_self)
    simp only [handleUpstreamConnectResult,h.owed,ho]
    cases ok with
    | true =>
      have hanswer := h.answer ho hl (Connection.onUpstreamConnected_met hm)
      have hrest : d ∉ rest := (List.nodup_cons.mp (ho ▸ h.queue)).1
      simp only [inform,hl]
      exact hanswer.link hu (AList.lookup_insert _) hd hrest hno
    | false =>
      simp only [inform,hl]
      exact h.answer ho hl (.inr c.onUpstreamClosed_phase)

theorem Inv.upstreamData (h : s.Inv) (hr : s.core.handleUpstreamData t upstream data = some r) :
    Inv { s with core := r.1 } := by
  unfold handleUpstreamData at hr
  split at hr
  · cases hr
    exact h
  · split at hr
    · cases hr
      exact h
    · rename_i d hlook c hl
      obtain ⟨⟨c',actions⟩,hd,rfl⟩ := Option.map_eq_some_iff.mp hr
      simp only [inform,hl]
      have hphase := onUpstreamData_phase hd
      refine h.set hl ⟨fun hm => ?_,fun hm => ?_⟩
      · rwa [meaningful,hphase]
      · rwa [Connection.Met,hphase]

theorem Inv.upstreamClose (h : s.Inv) (upstream : Nat) :
    Inv { s with
      core := (s.core.handleUpstreamClose upstream).1
      live := s.live.filter (·.1 != upstream) } := by
  unfold handleUpstreamClose
  cases hlook : s.core.upstreamToDownstream.lookup upstream with
  | none => exact h.fewer (fun e he => (mem_filter.mp he).1)
  | some d =>
    obtain ⟨c,hl⟩ := (h.joined upstream d hlook).1
    simp only [inform,hl]
    exact (h.unlink upstream).set hl (Connection.Met.forward (.inr c.onUpstreamClosed_phase))

theorem Inv.step (h : s.Inv) (hp : s.Patient ev) (hs : s.step t ev = some s') : s'.Inv := by
  obtain ⟨r,hr,rfl⟩ := Option.map_eq_some_iff.mp hs
  have fewer : ∀ {p : Nat × Nat → Bool} {live : List (Nat × Nat)}, ∀ e ∈ live.filter p, e ∈ live :=
    fun e he => (mem_filter.mp he).1
  cases ev with
  | streamOpen handle =>
    cases hr
    simp only [dials,append_nil]
    exact ((h.forget hp).insert hp (by simp)).fewer fewer
  | streamData handle data =>
    cases hr
    exact (h.streamData hp).fewer fewer
  | streamClose handle =>
    cases hr
    simp only [dials,append_nil]
    exact h.streamClose hp
  | backendAvailable available =>
    cases hr
    cases available with
    | true =>
      simp only [dials_available]
      exact (h.backendAvailable hp).fewer fewer
    | false =>
      simp only [dials_gone,append_nil]
      exact h.backendGone
  | upstreamConnectResult upstream ok =>
    cases hr
    simp only [dials,append_nil]
    cases ok <;> exact (h.connectResult hp).fewer fewer
  | upstreamData upstream data =>
    simp only [dials,append_nil]
    exact (h.upstreamData hr).fewer fewer
  | upstreamClose upstream =>
    cases hr
    simp only [dials,append_nil]
    exact (h.upstreamClose upstream).fewer fewer
  | tick =>
    cases hr
    simp only [dials,append_nil]
    exact h.fewer fewer

end Joined

end Distvirt.Postgres
