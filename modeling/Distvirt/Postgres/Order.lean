import Distvirt.Postgres.Transparent

/-! The order of the answers. The activator may answer a query itself only when the backend owes
nothing for what was forwarded before. -/

namespace Distvirt.Postgres

open Connection

/-- Query, Sync and FunctionCall are answered by a ReadyForQuery of their own. -/
def expectsReady (m : List UInt8) : Bool :=
  m.head? == some 0x51 || m.head? == some 0x53 || m.head? == some 0x46

def isSync (m : List UInt8) : Bool := m.head? == some 0x53

/-- Parse, Bind, Execute, Describe, Close and Flush begin an exchange that a Sync closes. The messages
that are left belong to an exchange that is already waiting for a ReadyForQuery. -/
def awaitsSync (m : List UInt8) : Bool :=
  m.head? == some 0x50 || m.head? == some 0x42 || m.head? == some 0x45 ||
    m.head? == some 0x44 || m.head? == some 0x43 || m.head? == some 0x48

/-- Every ReadyForQuery in the backend's stream. -/
def readies (backend : List UInt8) : List TransactionStatus :=
  (tagged.split backend).1.filterMap parseReadyForQueryStatus

/-- No exchange among the messages waits for its Sync. -/
def synced (messages : List (List UInt8)) : Bool :=
  (messages.filter (fun m => isSync m || awaitsSync m)).getLast?.all isSync

/-- The backend has answered the startup message and every message that was forwarded. -/
def Answered (sent backend : List UInt8) : Prop :=
  unfinished sent = [] ∧ synced (tagged.split (body sent)).1 = true ∧
  1 + (tagged.split (body sent)).1.countP expectsReady ≤ (readies backend).length

instance (sent backend : List UInt8) : Decidable (Answered sent backend) :=
  inferInstanceAs (Decidable (_ ∧ _ ∧ _))

/-- The client sends whole exchanges of proper messages, and waits for a ReadyForQuery, of the backend
or of the activator, for each message that asks for one. -/
def Session.Patient (s : Session) : ConnEvent → Prop
  | .clientData _ => s.conn.phase = .proxying → s.conn.isIdle = true →
      (∀ m ∈ (tagged.split (body s.client)).1, 5 ≤ m.length) ∧
      synced (tagged.split (body s.client)).1 = true ∧
      1 + (tagged.split (body s.client)).1.countP expectsReady ≤
        (readies s.backend).length + s.answered
  | _ => True

instance (s : Session) : (ev : ConnEvent) → Decidable (s.Patient ev)
  | .clientData _ => inferInstanceAs (Decidable (_ → _ → _))
  | .upstreamConnected | .upstreamData _ | .upstreamClosed | .upstreamFailed => isTrue trivial

/-- At each of its own answers, the activator has seen the backend answer everything that was
forwarded before, and the last ReadyForQuery was idle. -/
def Session.InOrder (s : Session) (actions : List ConnAction) : Prop :=
  ∀ before after, actions = before ++ .downstreamSend buildSelect1Response :: after →
    Answered (s.sent ++ upstreamBytes before) s.backend ∧
    (readies s.backend).getLast? = some .idle

theorem healthCheck_head (h : IsHealthCheck m) : m.head? = some msgQuery := by
  obtain ⟨query,hq,-⟩ := h
  unfold extractSimpleQuery at hq
  split at hq
  · cases hq
  split at hq
  · cases hq
  · rename_i htag
    rw [not_not] at htag
    cases m with
    | nil => cases htag
    | cons b rest => exact congrArg some htag

section removed
variable {messages kept : List (List UInt8)}

/-- The messages that are answered here are queries, none of an exchange that a Sync closes. -/
theorem Removed.synced_eq (h : Removed messages kept n) : synced kept = synced messages := by
  have hfilter : kept.filter (fun m => isSync m || awaitsSync m) =
      messages.filter (fun m => isSync m || awaitsSync m) := by
    induction h with
    | nil => rfl
    | keep _ ih => rw [List.filter_cons,List.filter_cons,ih]
    | answer hm _ ih =>
      rw [ih,List.filter_cons_of_neg]
      simp [isSync,awaitsSync,healthCheck_head hm,msgQuery]
  rw [synced,hfilter,synced]

theorem Removed.count_eq (h : Removed messages kept n) :
    messages.countP expectsReady = kept.countP expectsReady + n := by
  induction h with
  | nil => rfl
  | keep _ ih =>
    rw [List.countP_cons,List.countP_cons,ih]
    omega
  | answer hm _ ih =>
    rw [List.countP_cons_of_pos (by simp [expectsReady,healthCheck_head hm,msgQuery]),ih]
    rfl

/-- A proper message is as long as its own header says. -/
theorem size_of_cut (h : tagged.Cut stream messages tail) (hm : m ∈ messages) (hlong : 5 ≤ m.length) :
    tagged.size m = some m.length := by
  induction h with
  | rest _ => cases hm
  | @frame stream n frames tail hs _ ih =>
    rcases List.mem_cons.mp hm with rfl | hm
    · have hn : (stream.take n).length = n := by rw [List.length_take,Nat.min_eq_left (tagged.le hs)]
      have hsize : 1 + u32At stream 1 = n := by
        simp only [tagged] at hs
        split at hs
        · exact Option.some.inj hs
        · cases hs
      rw [hn] at hlong ⊢
      simp only [tagged,hn,u32At_take hlong,hsize]
      exact if_pos ⟨hlong,Nat.le_refl _⟩
    · exact ih hm

/-- Where the client waits for all its answers, the backend owes none. -/
theorem answered_of_waiting (h : Transparent client sent held n) (hheld : held = unfinished client)
    (hproper : ∀ m ∈ (tagged.split (body client)).1, 5 ≤ m.length)
    (hsynced : synced (tagged.split (body client)).1 = true)
    (hcount : 1 + (tagged.split (body client)).1.countP expectsReady ≤
      (readies backend).length + n) : Answered sent backend := by
  obtain ⟨ssl,startup,rest,messages,kept,hclient,hssl,hs,hcut,hrem,hsent⟩ :=
    Session.transparent_whole h hheld
  rw [hclient,body_eq hssl hs,hcut.split_eq] at hproper hsynced hcount
  have hwhole : tagged.Cut kept.flatten kept [] := Framing.cut_flatten (fun m hm =>
    size_of_cut hcut (hrem.sublist.subset hm) (hproper m (hrem.sublist.subset hm)))
  have hbody : body sent = kept.flatten := by
    have hb : body ([].flatten ++ startup ++ kept.flatten) = kept.flatten :=
      body_eq (List.forall_mem_nil _) hs
    rwa [hsent]
  rw [hrem.count_eq] at hcount
  refine ⟨?_,?_,?_⟩
  · rw [unfinished,hbody,hwhole.split_eq]
  · rw [hbody,hwhole.split_eq,hrem.synced_eq]
    exact hsynced
  · rw [hbody,hwhole.split_eq]
    dsimp only
    omega

end removed

namespace Connection

variable {t : Target} {c : Connection}

/-- Nothing is forwarded before an answer. -/
theorem drainClientProxying_before (h : (drainClientProxying t fuel c).2 =
      before ++ .downstreamSend buildSelect1Response :: after) : upstreamBytes before = [] := by
  induction fuel generalizing c before with
  | zero => cases before <;> cases h
  | succ fuel ih =>
    unfold drainClientProxying at h
    split at h
    · cases before <;> cases h
    · split at h
      · cases before <;> cases h
      · split at h
        · cases before with
          | nil => rfl
          | cons a before =>
            simp only [List.cons_append,List.cons.injEq] at h
            obtain ⟨rfl,h⟩ := h
            show upstreamBytes before = []
            exact ih h
        · cases before with
          | nil => cases h
          | cons a before => cases before <;> cases h

theorem tryParseStartup_silent : .downstreamSend buildSelect1Response ∉ (tryParseStartup fuel c).2 := by
  induction fuel generalizing c with
  | zero => exact List.not_mem_nil
  | succ fuel ih =>
    unfold tryParseStartup
    split
    · exact List.not_mem_nil
    · refine fun h => (List.mem_cons.mp h).elim (fun heq => ?_) ih
      cases heq
    · exact List.not_mem_nil

/-- Client data is answered only in the idle state. -/
theorem onClientData_answer
    (h : (c.onClientData t data).2 = before ++ .downstreamSend buildSelect1Response :: after) :
    c.phase = .proxying ∧ c.isIdle = true ∧ upstreamBytes before = [] := by
  have hmem : .downstreamSend buildSelect1Response ∈ (c.onClientData t data).2 := by
    rw [h]
    exact List.mem_append_right _ List.mem_cons_self
  cases hphase : c.phase with
  | awaitingStartup =>
    rw [onClientData_early (.inl hphase)] at hmem
    exact absurd hmem tryParseStartup_silent
  | sslNegotiation =>
    rw [onClientData_early (.inr hphase)] at hmem
    exact absurd hmem tryParseStartup_silent
  | startup =>
    rw [onClientData_startup hphase] at hmem
    cases hmem
  | proxying =>
    cases hidle : c.isIdle with
    | true =>
      rw [onClientData_idle hphase hidle] at h
      exact ⟨rfl,rfl,drainClientProxying_before h⟩
    | false =>
      rw [onClientData_busy hphase hidle] at hmem
      cases List.mem_singleton.mp hmem
  | closing =>
    rw [onClientData_closing hphase] at hmem
    cases hmem

/-- Client data does not touch what is known of the backend. -/
theorem onClientData_backend (data : List UInt8) :
    (c.onClientData t data).1.upstreamRecvBuf = c.upstreamRecvBuf ∧
      (c.onClientData t data).1.lastTxnStatus = c.lastTxnStatus := by
  cases hphase : c.phase with
  | awaitingStartup =>
    rw [onClientData_early (.inl hphase)]
    exact (tryParseStartup_started _).backend
  | sslNegotiation =>
    rw [onClientData_early (.inr hphase)]
    exact (tryParseStartup_started _).backend
  | startup =>
    rw [onClientData_startup hphase]
    exact ⟨rfl,rfl⟩
  | proxying =>
    cases hidle : c.isIdle with
    | true =>
      rw [onClientData_idle hphase hidle]
      have hd := drainClientProxying_drained t { c with recvBuf := c.recvBuf ++ data } (Nat.le_refl _)
      have hbuf := congrArg upstreamRecvBuf hd.conn
      have hlast := congrArg lastTxnStatus hd.conn
      exact ⟨hbuf,hlast⟩
    | false =>
      rw [onClientData_busy hphase hidle]
      exact ⟨rfl,rfl⟩
  | closing =>
    rw [onClientData_closing hphase]
    exact ⟨rfl,rfl⟩

theorem onUpstreamConnected_backend (c : Connection) :
    c.onUpstreamConnected.1.upstreamRecvBuf = c.upstreamRecvBuf ∧
      c.onUpstreamConnected.1.lastTxnStatus = c.lastTxnStatus := by
  unfold onUpstreamConnected
  split
  · exact ⟨rfl,rfl⟩
  · dsimp only
    split <;> exact ⟨rfl,rfl⟩

end Connection

namespace Session

variable {t : Target} {s s' : Session}

/-- The connection has scanned the backend's stream. -/
def Scanned (s : Session) : Prop :=
  s.conn.phase = .closing ∨
    (∃ frames, tagged.Cut s.backend frames s.conn.upstreamRecvBuf ∧
      s.conn.lastTxnStatus = (frames.filterMap parseReadyForQueryStatus).getLast?)

theorem Scanned.readies (h : s.Scanned) (hphase : s.conn.phase = .proxying) :
    s.conn.lastTxnStatus = (readies s.backend).getLast? := by
  rcases h with h | ⟨frames,hcut,hlast⟩
  · rw [hphase] at h
    cases h
  · rw [hlast,Postgres.readies,hcut.split_eq]

theorem Scanned.frame (h : s.Scanned) (hb : s'.backend = s.backend)
    (hphase : s.conn.phase = .closing → s'.conn.phase = .closing)
    (hbuf : s'.conn.upstreamRecvBuf = s.conn.upstreamRecvBuf)
    (hlast : s'.conn.lastTxnStatus = s.conn.lastTxnStatus) : s'.Scanned := by
  rcases h with h | ⟨frames,hcut,heq⟩
  · exact .inl (hphase h)
  · exact .inr ⟨frames,by rwa [hb,hbuf],hlast.trans heq⟩

theorem Scanned.upstreamData (h : s.Scanned) (hstep : s.step t (.upstreamData data) = some s') :
    s'.Scanned := by
  obtain ⟨⟨conn,actions⟩,hc,rfl⟩ := Option.map_eq_some_iff.mp hstep
  change s.conn.onUpstreamData t data = _ at hc
  unfold onUpstreamData at hc
  split at hc
  · rename_i hphase
    cases hc
    exact .inl hphase
  · rename_i hphase
    obtain ⟨conn',hscan,heq⟩ := Option.map_eq_some_iff.mp hc
    cases heq
    obtain ⟨frames',tail,hcut',rfl⟩ := scan_cut hscan
    rcases h with h | ⟨frames,hcut,hlast⟩
    · exact absurd h hphase
    · refine .inr ⟨frames ++ frames',hcut.append hcut',?_⟩
      rw [List.filterMap_append,List.getLast?_append,← hlast]
      rfl

theorem Scanned.step (h : s.Scanned) (hstep : s.step t ev = some s') : s'.Scanned := by
  cases ev with
  | clientData data =>
    cases hstep
    obtain ⟨hbuf,hlast⟩ := onClientData_backend (t := t) (c := s.conn) data
    refine h.frame rfl (fun hphase => ?_) hbuf hlast
    show (s.conn.onClientData t data).1.phase = _
    rw [onClientData_closing hphase]
    exact hphase
  | upstreamConnected =>
    cases hstep
    obtain ⟨hbuf,hlast⟩ := s.conn.onUpstreamConnected_backend
    refine h.frame rfl (fun hphase => ?_) hbuf hlast
    show s.conn.onUpstreamConnected.1.phase = _
    unfold onUpstreamConnected
    rw [if_pos (by rw [hphase]; decide)]
    exact hphase
  | upstreamData data => exact h.upstreamData hstep
  | upstreamClosed =>
    cases hstep
    exact .inl s.conn.onUpstreamClosed_phase
  | upstreamFailed =>
    cases hstep
    exact .inl s.conn.onUpstreamFailed_phase

/-- In a run without cut messages, a client that waits for its answers gets every answer in order. -/
theorem answers_inOrder {events : List ConnEvent} {data : List UInt8}
    (ha : Runs.Along (step t) (fun s ev => s.Uncut ev ∧ s.Patient ev) {}
      (events ++ [.clientData data]))
    (hr : run t {} events = some s) : s.InOrder (s.conn.onClientData t data).2 := by
  have hscanned : s.Scanned := Runs.run_keeps (fun _ _ _ h hstep => h.step hstep)
    (.inr ⟨[],.rest Framing.size_nil,rfl⟩) hr
  obtain ⟨hbefore,⟨huncut,hpatient⟩,-⟩ := ha.append hr
  have hpassing : s.Passing :=
    hbefore.keeps (fun _ _ _ h ha hstep => h.step ha.1 hstep) passing_new hr
  intro before after heq
  obtain ⟨hphase,hidle,hnone⟩ := onClientData_answer heq
  rw [hnone,List.append_nil]
  obtain ⟨hproper,hsynced,hcount⟩ := hpatient hphase hidle
  have hheld := huncut hphase
  rw [if_pos hidle] at hheld
  refine ⟨answered_of_waiting (hpassing.transparent hphase) hheld hproper hsynced hcount,?_⟩
  rw [← hscanned.readies hphase]
  unfold isIdle at hidle
  rw [Bool.and_eq_true] at hidle
  exact eq_of_beq hidle.2

/-- Two queries in one chunk each, the second when the first has been answered. -/
theorem wholeEvents_inOrder :
    ∃ s, run .wasm32 {} (idleEvents ++ [.clientData (queryMessage "SELECT 2"),
        .upstreamData (readyMessage 0x49)]) = some s ∧
      (s.conn.onClientData .wasm32 (queryMessage "SELECT 1")).2 =
        [.downstreamSend buildSelect1Response] ∧
      s.InOrder (s.conn.onClientData .wasm32 (queryMessage "SELECT 1")).2 := by
  have hp : (run .wasm32 {} (idleEvents ++ [.clientData (queryMessage "SELECT 2"),
      .upstreamData (readyMessage 0x49)])).map
      (fun s => (s.conn.onClientData .wasm32 (queryMessage "SELECT 1")).2) =
      some [.downstreamSend buildSelect1Response] := by
    decide +kernel
  obtain ⟨s,hr,hactions⟩ := Option.map_eq_some_iff.mp hp
  exact ⟨s,hr,hactions,answers_inOrder (by decide +kernel) hr⟩

/-- A query is forwarded, and the health check behind it is answered before the backend has
answered the query. -/
theorem pipelined_out_of_order :
    ∃ s, run .wasm32 {} (idleEvents ++ [.clientData (queryMessage "SELECT 2")]) = some s ∧
      s.sent = sampleStartup ++ queryMessage "SELECT 2" ∧ s.backend = readyMessage 0x49 ∧
      (s.conn.onClientData .wasm32 (queryMessage "SELECT 1")).2 =
        [.downstreamSend buildSelect1Response] ∧
      ¬ s.InOrder (s.conn.onClientData .wasm32 (queryMessage "SELECT 1")).2 := by
  have hp : (run .wasm32 {} (idleEvents ++ [.clientData (queryMessage "SELECT 2")])).map
      (fun s => ((s.conn.onClientData .wasm32 (queryMessage "SELECT 1")).2,s.sent,s.backend)) =
      some ([.downstreamSend buildSelect1Response],sampleStartup ++ queryMessage "SELECT 2",
        readyMessage 0x49) := by
    decide +kernel
  obtain ⟨s,hr,heq⟩ := Option.map_eq_some_iff.mp hp
  obtain ⟨hactions,hsent,hbackend⟩ : _ ∧ _ ∧ _ := by simpa only [Prod.mk.injEq] using heq
  refine ⟨s,hr,hsent,hbackend,hactions,fun h => ?_⟩
  obtain ⟨hanswered,_⟩ := h [] [] hactions
  rw [hsent,hbackend] at hanswered
  exact absurd hanswered (by decide +kernel)

end Session

end Distvirt.Postgres
