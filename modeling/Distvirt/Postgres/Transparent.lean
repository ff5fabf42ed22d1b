import Distvirt.Postgres.Scan

/-! What reaches the backend is the client's stream without the packets that the activator answers,
as long as no message of the client is cut by a change between the two ways of receiving it. -/

namespace Distvirt.Postgres

open List Connection

def IsSslRequest (p : List UInt8) : Prop := parseStartupMessage p = some (.sslRequest,p.length)

def IsStartup (p : List UInt8) : Prop := parseStartupMessage p = some (.startup p,p.length)

/-- `kept` is `messages` without as many health checks as were answered. -/
inductive Removed : List (List UInt8) → List (List UInt8) → Nat → Prop
  | nil : Removed [] [] 0
  | keep {m messages kept answered} : Removed messages kept answered →
      Removed (m :: messages) (m :: kept) answered
  | answer {m messages kept answered} : IsHealthCheck m → Removed messages kept answered →
      Removed (m :: messages) kept (answered + 1)

/-- The client's stream is SSL requests, the startup message, whole messages and a rest that is
no whole message. The backend got the startup message, the messages that were not answered, and
the rest if it is not held back. -/
def Transparent (client sent held : List UInt8) (answered : Nat) : Prop :=
  ∃ (ssl : List (List UInt8)) (startup body : List UInt8) (messages kept : List (List UInt8))
    (tail : List UInt8), client = ssl.flatten ++ startup ++ body ∧ (∀ p ∈ ssl, IsSslRequest p) ∧ IsStartup startup ∧
    tagged.Cut body messages tail ∧ Removed messages kept answered ∧
    ((sent = startup ++ kept.flatten ∧ held = tail) ∨
      (sent = startup ++ kept.flatten ++ tail ∧ held = []))

/-- The client's stream after the startup message. -/
def bodyWith : Nat → List UInt8 → List UInt8
  | 0,_ => []
  | fuel + 1,stream =>
    match parseStartupMessage stream with
    | none => []
    | some (.sslRequest,n) => bodyWith fuel (stream.drop n)
    | some (.startup _,n) => stream.drop n

def body (client : List UInt8) : List UInt8 := bodyWith client.length client

/-- The part of the client's stream that is no whole message yet. -/
def unfinished (client : List UInt8) : List UInt8 := (tagged.split (body client)).2

/-- Client data that is parsed finds the unfinished message held back as a whole; client data that
is passed on finds nothing held back. -/
def Session.Uncut (s : Session) : ConnEvent → Prop
  | .clientData _ => s.conn.phase = .proxying →
      s.conn.recvBuf = if s.conn.isIdle then unfinished s.client else []
  | _ => True

section removed
variable {messages kept : List (List UInt8)}

theorem Removed.append (h : Removed messages kept n) (h' : Removed messages' kept' n') :
    Removed (messages ++ messages') (kept ++ kept') (n + n') := by
  induction h with
  | nil => simpa using h'
  | keep _ ih => exact .keep ih
  | answer hm _ ih =>
    rw [Nat.add_right_comm]
    exact .answer hm ih

theorem Removed.sublist (h : Removed messages kept n) : kept.Sublist messages := by
  induction h with
  | nil => exact .slnil
  | keep _ ih => exact ih.cons_cons _
  | answer _ _ ih => exact ih.cons _

theorem removed_none (messages : List (List UInt8)) : Removed messages messages 0 := by
  induction messages with
  | nil => exact .nil
  | cons m messages ih => exact .keep ih

end removed

section bodies
variable {ssl : List (List UInt8)} {startup : List UInt8}

theorem bodyWith_eq (hssl : ∀ p ∈ ssl, IsSslRequest p) (hs : IsStartup startup)
    (hfuel : ssl.length < fuel) : bodyWith fuel (ssl.flatten ++ startup ++ rest) = rest := by
  induction ssl generalizing fuel with
  | nil =>
    obtain ⟨fuel,rfl⟩ := Nat.exists_eq_succ_of_ne_zero (Nat.ne_of_gt hfuel)
    have hp := parseStartupMessage_append hs rest
    simp only [flatten_nil,nil_append,bodyWith,hp]
    exact drop_left
  | cons p ssl ih =>
    obtain ⟨fuel,rfl⟩ := Nat.exists_eq_succ_of_ne_zero (Nat.ne_of_gt (Nat.zero_lt_of_lt hfuel))
    have hp := parseStartupMessage_append (hssl p mem_cons_self) (ssl.flatten ++ startup ++ rest)
    rw [flatten_cons,append_assoc,append_assoc,← append_assoc ssl.flatten]
    simp only [bodyWith,hp]
    rw [drop_left]
    exact ih (fun q hq => hssl q (mem_cons_of_mem _ hq)) (by simpa using hfuel)

theorem IsSslRequest.length (h : IsSslRequest p) : 8 ≤ p.length :=
  (parseStartupMessage_some.mp h).1

theorem body_eq (hssl : ∀ p ∈ ssl, IsSslRequest p) (hs : IsStartup startup) :
    body (ssl.flatten ++ startup ++ rest) = rest := by
  refine bodyWith_eq hssl hs ?_
  have hlen : ∀ ssl : List (List UInt8), (∀ p ∈ ssl, IsSslRequest p) →
      ssl.length ≤ ssl.flatten.length := by
    intro ssl hssl
    induction ssl with
    | nil => exact Nat.le_refl _
    | cons p ssl ih =>
      have hp := (hssl p mem_cons_self).length
      have := ih (fun q hq => hssl q (mem_cons_of_mem _ hq))
      simp only [length_cons,flatten_cons,length_append]
      omega
  have hstart : 8 ≤ startup.length := (parseStartupMessage_some.mp hs).1
  have := hlen ssl hssl
  simp only [length_append]
  omega

end bodies

namespace Connection

variable {t : Target} {c : Connection}

/-- What one call does with the messages it holds. -/
structure Drained (c : Connection) (r : Connection × List ConnAction) : Prop where
  conn : r.1 = { c with recvBuf := r.1.recvBuf }
  passed : ∃ messages kept tail, tagged.Cut c.recvBuf messages tail ∧
    Removed messages kept (answers r.2) ∧
    ((upstreamBytes r.2 = kept.flatten ∧ r.1.recvBuf = tail) ∨
      (upstreamBytes r.2 = kept.flatten ++ tail ∧ r.1.recvBuf = []))

theorem drained_held (h : tagged.size c.recvBuf = none) : Drained c (c,[]) :=
  ⟨rfl,[],[],c.recvBuf,.rest h,.nil,.inl ⟨rfl,rfl⟩⟩

theorem drained_flush (c : Connection) :
    Drained c ({ c with recvBuf := [] },[.upstreamSend c.recvBuf]) := by
  obtain ⟨messages,tail,hcut⟩ := tagged.exists_cut c.recvBuf
  exact ⟨rfl,messages,messages,tail,hcut,removed_none _,
    .inr ⟨by simpa [upstreamBytes] using hcut.flatten,rfl⟩⟩

theorem drainClientProxying_drained (t : Target) (c : Connection) (h : c.recvBuf.length ≤ fuel) :
    Drained c (drainClientProxying t fuel c) := by
  induction fuel generalizing c with
  | zero =>
    have hnil := length_eq_zero_iff.mp (Nat.le_zero.mp h)
    exact drained_held (by rw [hnil]; exact Framing.size_nil)
  | succ fuel ih =>
    unfold drainClientProxying
    split
    · rename_i hempty
      rw [List.isEmpty_iff] at hempty
      exact drained_held (by rw [hempty]; exact Framing.size_nil)
    · cases hp : parseTaggedMessage t c.recvBuf with
      | none => exact drained_held (parseTaggedMessage_none hp)
      | some parsed =>
        obtain ⟨tag,total⟩ := parsed
        dsimp only
        split
        · rename_i hi
          obtain ⟨hcheck,hpos⟩ := intercepts_check hi
          have hsize := parseTaggedMessage_some hp hpos
          have hle := tagged.le hsize
          obtain ⟨hconn,messages,kept,tail,hcut,hrem,hout⟩ :=
            ih { c with recvBuf := c.recvBuf.drop total } (by
              simp only [length_drop]
              omega)
          refine ⟨hconn,_,kept,tail,.frame hsize hcut,?_,hout⟩
          have := hrem.answer hcheck
          simpa [answers,count_cons] using this
        · exact drained_flush c

/-- What one call does before the startup message is there. -/
structure Started (c : Connection) (r : Connection × List ConnAction) : Prop where
  silent : upstreamBytes r.2 = [] ∧ answers r.2 = 0
  backend : r.1.upstreamRecvBuf = c.upstreamRecvBuf ∧ r.1.lastTxnStatus = c.lastTxnStatus
  passed : ∃ ssl : List (List UInt8), (∀ p ∈ ssl, IsSslRequest p) ∧
    (((r.1.phase = c.phase ∨ r.1.phase = .sslNegotiation) ∧ r.1.bufferedData = c.bufferedData ∧
        c.recvBuf = ssl.flatten ++ r.1.recvBuf) ∨
      (r.1.phase = .startup ∧ r.1.recvBuf = [] ∧ ∃ startup body, IsStartup startup ∧
        c.recvBuf = ssl.flatten ++ startup ++ body ∧
        r.1.bufferedData = c.bufferedData ++ startup ++ body))

theorem tryParseStartup_started (c : Connection) : Started c (tryParseStartup fuel c) := by
  have waits : ∀ c, Started c (c,[]) := fun c =>
    ⟨⟨rfl,rfl⟩,⟨rfl,rfl⟩,[],nofun,.inl ⟨.inl rfl,rfl,rfl⟩⟩
  induction fuel generalizing c with
  | zero => exact waits c
  | succ fuel ih =>
    unfold tryParseStartup
    cases hp : parseStartupMessage c.recvBuf with
    | none => exact waits c
    | some parsed =>
      obtain ⟨msg,n⟩ := parsed
      have htake := parseStartupMessage_take hp
      cases msg with
      | sslRequest =>
        obtain ⟨⟨hsent,hans⟩,hbackend,ssl,hssl,hpassed⟩ :=
          ih { c with recvBuf := c.recvBuf.drop n, phase := .sslNegotiation }
        refine ⟨⟨by simpa [upstreamBytes] using hsent,?_⟩,hbackend,c.recvBuf.take n :: ssl,
          forall_mem_cons.mpr ⟨htake,hssl⟩,?_⟩
        · simpa [answers,buildSelect1Response] using hans
        · rcases hpassed with ⟨hphase,hbuf,heq⟩ | ⟨hphase,hrecv,startup,body,hs,heq,hbuf⟩
          · refine .inl ⟨.inr (hphase.elim id id),hbuf,?_⟩
            rw [flatten_cons,append_assoc,← heq,take_append_drop]
          · refine .inr ⟨hphase,hrecv,startup,body,hs,?_,hbuf⟩
            rw [flatten_cons,append_assoc,append_assoc,← append_assoc ssl.flatten,
              ← heq,take_append_drop]
      | startup raw =>
        have hraw : raw = c.recvBuf.take n := by
          obtain ⟨_,_,_,hmsg⟩ := parseStartupMessage_some.mp hp
          split at hmsg
          · cases hmsg
          · exact StartupMessage.startup.inj hmsg
        subst hraw
        refine ⟨⟨rfl,rfl⟩,⟨rfl,rfl⟩,[],nofun,
          .inr ⟨rfl,rfl,c.recvBuf.take n,c.recvBuf.drop n,htake,?_,rfl⟩⟩
        simp only [flatten_nil,nil_append,take_append_drop]

theorem onClientData_early (h : c.phase = .awaitingStartup ∨ c.phase = .sslNegotiation)
    (data : List UInt8) : c.onClientData t data = tryParseStartup (c.recvBuf ++ data).length
      { c with recvBuf := c.recvBuf ++ data } := by
  obtain ⟨phase,_,_,_,_,_⟩ := c
  rcases h with h | h <;> cases h <;> rfl

theorem onClientData_startup (h : c.phase = .startup) (data : List UInt8) :
    c.onClientData t data = ({ c with bufferedData := c.bufferedData ++ data },[]) := by
  obtain ⟨phase,_,_,_,_,_⟩ := c
  cases h
  rfl

theorem onClientData_idle (h : c.phase = .proxying) (hidle : c.isIdle = true) (data : List UInt8) :
    c.onClientData t data = drainClientProxying t (c.recvBuf ++ data).length
      { c with recvBuf := c.recvBuf ++ data } := by
  unfold onClientData
  rw [h]
  exact if_pos hidle

theorem onClientData_busy (h : c.phase = .proxying) (hidle : c.isIdle = false) (data : List UInt8) :
    c.onClientData t data = (c,[.upstreamSend data]) := by
  unfold onClientData
  rw [h]
  exact if_neg (by rw [hidle]; exact Bool.false_ne_true)

theorem onClientData_closing (h : c.phase = .closing) (data : List UInt8) :
    c.onClientData t data = (c,[]) := by
  unfold onClientData
  rw [h]

theorem onUpstreamClosed_phase (c : Connection) : c.onUpstreamClosed.1.phase = .closing := by
  unfold onUpstreamClosed
  split
  · rfl
  · rename_i hphase
    exact not_not.mp hphase

theorem onUpstreamFailed_phase (c : Connection) : c.onUpstreamFailed.1.phase = .closing :=
  c.onUpstreamClosed_phase

end Connection

namespace Session

/-- How far the client's stream has come. -/
inductive Passing (s : Session) : Prop where
  | early {ssl : List (List UInt8)}
    (hphase : s.conn.phase = .awaitingStartup ∨ s.conn.phase = .sslNegotiation)
    (hssl : ∀ p ∈ ssl, IsSslRequest p) (hclient : s.client = ssl.flatten ++ s.conn.recvBuf)
    (hbuf : s.conn.bufferedData = []) (hsent : s.sent = []) (hans : s.answered = 0)
  | startup {ssl : List (List UInt8)} {startup : List UInt8} (body : List UInt8)
    (hphase : s.conn.phase = .startup) (hssl : ∀ p ∈ ssl, IsSslRequest p)
    (hs : IsStartup startup) (hclient : s.client = ssl.flatten ++ startup ++ body)
    (hbuf : s.conn.bufferedData = startup ++ body) (hrecv : s.conn.recvBuf = [])
    (hsent : s.sent = []) (hans : s.answered = 0)
  | proxying (hphase : s.conn.phase = .proxying)
    (h : Transparent s.client s.sent s.conn.recvBuf s.answered)
  | closing (hphase : s.conn.phase = .closing)

variable {t : Target} {s s' : Session}

section transparent
variable {client sent : List UInt8}

/-- Data that is passed on as it comes. -/
theorem transparent_forward (h : Transparent client sent [] n) :
    Transparent (client ++ data) (sent ++ data) [] n := by
  obtain ⟨ssl,startup,body,messages,kept,tail,hclient,hssl,hs,hcut,hrem,hsent⟩ := h
  have hall : sent = startup ++ kept.flatten ++ tail := by
    rcases hsent with ⟨hsent,rfl⟩ | ⟨hsent,_⟩
    · rw [hsent,append_nil]
    · exact hsent
  obtain ⟨messages',tail',hrest⟩ := tagged.exists_cut (tail ++ data)
  refine ⟨ssl,startup,body ++ data,_,kept ++ messages',tail',?_,hssl,hs,
    hcut.append hrest,hrem.append (removed_none _),.inr ⟨?_,rfl⟩⟩
  · rw [hclient,append_assoc]
  · rw [hall,flatten_append,append_assoc _ tail,hrest.flatten]
    simp only [append_assoc]

/-- What is held back is the unfinished message, so all that was sent is whole messages. -/
theorem transparent_whole (h : Transparent client sent held n) (hheld : held = unfinished client) :
    ∃ (ssl : List (List UInt8)) (startup body : List UInt8) (messages kept : List (List UInt8)),
      client = ssl.flatten ++ startup ++ body ∧ (∀ p ∈ ssl, IsSslRequest p) ∧ IsStartup startup ∧
      tagged.Cut body messages held ∧ Removed messages kept n ∧ sent = startup ++ kept.flatten := by
  obtain ⟨ssl,startup,body,messages,kept,tail,hclient,hssl,hs,hcut,hrem,hsent⟩ := h
  have htail : held = tail := by
    rw [hheld,hclient,unfinished,body_eq hssl hs,hcut.split_eq]
  refine ⟨ssl,startup,body,messages,kept,hclient,hssl,hs,htail ▸ hcut,hrem,?_⟩
  rcases hsent with ⟨hsent,_⟩ | ⟨hsent,hnil⟩
  · exact hsent
  · rw [hsent,← htail,hnil,append_nil]

/-- Data that is parsed together with the unfinished message. -/
theorem transparent_drain {c : Connection} (h : Transparent client sent held n)
    (hheld : held = unfinished client) (hc : c.recvBuf = held ++ data) (hr : c.Drained r) :
    Transparent (client ++ data) (sent ++ upstreamBytes r.2) r.1.recvBuf (n + answers r.2) := by
  obtain ⟨ssl,startup,body,messages,kept,hclient,hssl,hs,hcut,hrem,hkept⟩ := transparent_whole h hheld
  obtain ⟨_,messages',kept',tail',hcut',hrem',hout⟩ := hr
  rw [hc] at hcut'
  refine ⟨ssl,startup,body ++ data,_,_,tail',?_,hssl,hs,hcut.append hcut',hrem.append hrem',?_⟩
  · rw [hclient,append_assoc]
  · rw [hkept,flatten_append]
    rcases hout with ⟨hbytes,hrecv⟩ | ⟨hbytes,hrecv⟩
    · exact .inl ⟨by rw [hbytes,append_assoc],hrecv⟩
    · exact .inr ⟨by rw [hbytes]; simp only [append_assoc],hrecv⟩

theorem transparent_connected {ssl : List (List UInt8)} {startup body : List UInt8}
    (hssl : ∀ p ∈ ssl, IsSslRequest p) (hs : IsStartup startup) :
    Transparent (ssl.flatten ++ startup ++ body) (startup ++ body) [] 0 := by
  obtain ⟨messages,tail,hcut⟩ := tagged.exists_cut body
  refine ⟨ssl,startup,body,messages,messages,tail,rfl,hssl,hs,hcut,removed_none _,.inr ⟨?_,rfl⟩⟩
  rw [append_assoc,← hcut.flatten]

end transparent

theorem Passing.started {ssl : List (List UInt8)}
    (hphase : s.conn.phase = .awaitingStartup ∨ s.conn.phase = .sslNegotiation)
    (hssl : ∀ p ∈ ssl, IsSslRequest p) (hclient : s.client = ssl.flatten ++ s.conn.recvBuf)
    (hbuf : s.conn.bufferedData = []) (hsent : s.sent = []) (hans : s.answered = 0)
    (hr : Connection.Started { s.conn with recvBuf := s.conn.recvBuf ++ data } r) :
    Passing ⟨r.1,s.client ++ data,s.backend,s.sent ++ upstreamBytes r.2,s.answered + answers r.2⟩ := by
  obtain ⟨⟨hbytes,hzero⟩,_,ssl',hssl',hpassed⟩ := hr
  have hall : ∀ p ∈ ssl ++ ssl', IsSslRequest p := fun p hp =>
    (mem_append.mp hp).elim (hssl p) (hssl' p)
  have hsent' : s.sent ++ upstreamBytes r.2 = [] := by rw [hsent,hbytes]; rfl
  have hans' : s.answered + answers r.2 = 0 := by rw [hans,hzero]
  rcases hpassed with ⟨hp,hb,heq⟩ | ⟨hp,hrecv,startup,body,hs,heq,hb⟩
  · have hstay : r.1.phase = .awaitingStartup ∨ r.1.phase = .sslNegotiation :=
      hp.elim (fun hp => hphase.imp hp.trans hp.trans) .inr
    refine .early hstay hall ?_ (hb.trans hbuf) hsent' hans'
    rw [hclient,flatten_append,append_assoc,append_assoc,← heq]
  · refine .startup body hp hall hs ?_ ?_ hrecv hsent' hans'
    · rw [hclient,flatten_append,append_assoc,append_assoc,append_assoc,
        ← append_assoc ssl'.flatten,← heq]
    · rw [hb]
      exact congrArg (· ++ startup ++ body) hbuf

theorem Passing.clientData (h : s.Passing) (ha : s.Uncut (.clientData data)) :
    Passing ⟨(s.conn.onClientData t data).1,s.client ++ data,s.backend,
      s.sent ++ upstreamBytes (s.conn.onClientData t data).2,
      s.answered + answers (s.conn.onClientData t data).2⟩ := by
  cases h with
  | early hphase hssl hclient hbuf hsent hans =>
    rw [onClientData_early hphase]
    exact .started hphase hssl hclient hbuf hsent hans (tryParseStartup_started _)
  | @startup ssl startup body hphase hssl hs hclient hbuf hrecv hsent hans =>
    rw [onClientData_startup hphase]
    refine .startup (body ++ data) hphase hssl hs ?_ ?_ hrecv ?_ hans
    · rw [hclient,append_assoc]
    · rw [hbuf,append_assoc]
    · rw [hsent]
      rfl
  | proxying hphase ht =>
    have hheld := ha hphase
    cases hidle : s.conn.isIdle with
    | true =>
      rw [hidle,if_pos rfl] at hheld
      rw [onClientData_idle hphase hidle]
      have hd := drainClientProxying_drained t
        { s.conn with recvBuf := s.conn.recvBuf ++ data } (Nat.le_refl _)
      exact .proxying ((congrArg phase hd.conn).trans hphase) (transparent_drain ht hheld rfl hd)
    | false =>
      rw [hidle,if_neg Bool.false_ne_true] at hheld
      rw [onClientData_busy hphase hidle]
      rw [hheld] at ht
      refine .proxying hphase ?_
      rw [hheld]
      simpa [upstreamBytes,answers] using transparent_forward ht
  | closing hphase =>
    rw [onClientData_closing hphase]
    exact .closing hphase

theorem Passing.upstreamConnected (h : s.Passing) :
    Passing { s with
      conn := s.conn.onUpstreamConnected.1
      sent := s.sent ++ upstreamBytes s.conn.onUpstreamConnected.2 } := by
  unfold onUpstreamConnected
  split
  · simpa [upstreamBytes] using h
  · rename_i hstart
    cases h with
    | early hphase | proxying hphase | closing hphase => simp [not_not.mp hstart] at hphase
    | @startup ssl startup body hphase hssl hs hclient hbuf hrecv hsent hans =>
      have hlong : 8 ≤ startup.length := (parseStartupMessage_some.mp hs).1
      have hne : s.conn.bufferedData.isEmpty = false := by
        rw [hbuf]
        cases startup with
        | nil => simp at hlong
        | cons b rest => rfl
      dsimp only
      rw [hne,if_neg Bool.false_ne_true]
      refine .proxying rfl ?_
      show Transparent s.client (s.sent ++ upstreamBytes [.upstreamSend s.conn.bufferedData])
        s.conn.recvBuf s.answered
      rw [hclient,hsent,hrecv,hans,hbuf]
      simpa [upstreamBytes] using transparent_connected hssl hs

/-- The parts of a connection that the backend's data leaves as they are. -/
theorem Passing.frame (h : s.Passing) (hphase : c.phase = s.conn.phase)
    (hrecv : c.recvBuf = s.conn.recvBuf) (hbuf : c.bufferedData = s.conn.bufferedData)
    (backend : List UInt8) : Passing { s with conn := c, backend } := by
  obtain ⟨_,_,_,_,_,_⟩ := c
  simp only at hphase hrecv hbuf
  subst hphase hrecv hbuf
  cases h with
  | early hphase hssl hclient hbuf hsent hans =>
    exact .early hphase hssl hclient hbuf hsent hans
  | startup body hphase hssl hs hclient hbuf hrecv hsent hans =>
    exact .startup body hphase hssl hs hclient hbuf hrecv hsent hans
  | proxying hphase ht => exact .proxying hphase ht
  | closing hphase => exact .closing hphase

theorem Passing.step (h : s.Passing) (ha : s.Uncut ev) (hstep : s.step t ev = some s') :
    s'.Passing := by
  cases ev with
  | clientData data =>
    cases hstep
    exact h.clientData ha
  | upstreamConnected =>
    cases hstep
    exact h.upstreamConnected
  | upstreamData data =>
    obtain ⟨⟨conn,actions⟩,hc,rfl⟩ := Option.map_eq_some_iff.mp hstep
    change s.conn.onUpstreamData t data = _ at hc
    unfold onUpstreamData at hc
    split at hc
    · cases hc
      exact h.frame rfl rfl rfl _
    · obtain ⟨conn',hscan,heq⟩ := Option.map_eq_some_iff.mp hc
      cases heq
      obtain ⟨frames,tail,_,rfl⟩ := scan_cut hscan
      exact h.frame (by rfl) (by rfl) (by rfl) _
  | upstreamClosed =>
    cases hstep
    exact .closing s.conn.onUpstreamClosed_phase
  | upstreamFailed =>
    cases hstep
    exact .closing s.conn.onUpstreamFailed_phase

theorem transparent_held {client sent held : List UInt8} (h : Transparent client sent held n) :
    held = unfinished client ∨ held = [] := by
  obtain ⟨ssl,startup,body,messages,kept,tail,hclient,hssl,hs,hcut,_,hsent⟩ := h
  rcases hsent with ⟨_,rfl⟩ | ⟨_,hheld⟩
  · left
    rw [hclient,unfinished,body_eq hssl hs,hcut.split_eq]
  · exact .inr hheld

theorem Passing.transparent (h : s.Passing) (hphase : s.conn.phase = .proxying) :
    Transparent s.client s.sent s.conn.recvBuf s.answered := by
  cases h with
  | early hp | startup _ hp | closing hp => simp [hphase] at hp
  | proxying _ h => exact h

theorem passing_new : Passing {} := .early (.inl rfl) (forall_mem_nil _) rfl rfl rfl rfl

/-- In a run without cut messages the connection is transparent whenever it is connected. -/
theorem run_transparent {events : List ConnEvent} (ha : Runs.Along (step t) Uncut {} events)
    (hr : run t {} events = some s) (hphase : s.conn.phase = .proxying) :
    Transparent s.client s.sent s.conn.recvBuf s.answered :=
  (ha.keeps (fun _ _ _ h ha hstep => h.step ha hstep) passing_new hr).transparent hphase

end Session

/-- A startup message without parameters. -/
def sampleStartup : List UInt8 := [0,0,0,9,0,3,0,0,0]

def queryMessage (text : String) : List UInt8 :=
  [msgQuery,0,0,0,UInt8.ofNat (text.length + 5)] ++ text.toList.map (fun c => UInt8.ofNat c.toNat) ++
    [0]

def readyMessage (status : UInt8) : List UInt8 := [msgReadyForQuery,0,0,0,5,status]

/-- A session that is connected and idle. -/
def idleEvents : List ConnEvent :=
  [.clientData sampleStartup,.upstreamConnected,.upstreamData (readyMessage 0x49)]

namespace Session

/-- A health check and the beginning of a query, then the rest of the query. -/
def wholeEvents : List ConnEvent :=
  idleEvents ++ [.clientData (queryMessage "SELECT 1" ++ (queryMessage "SELECT 2").take 7),
    .clientData ((queryMessage "SELECT 2").drop 7)]

instance (s : Session) : (ev : ConnEvent) → Decidable (s.Uncut ev)
  | .clientData _ => inferInstanceAs (Decidable (_ → _))
  | .upstreamConnected | .upstreamData _ | .upstreamClosed | .upstreamFailed => isTrue trivial

theorem wholeEvents_transparent : ∃ s, run .wasm32 {} wholeEvents = some s ∧
    s.sent = sampleStartup ++ queryMessage "SELECT 2" ∧ s.answered = 1 ∧
    Transparent s.client s.sent s.conn.recvBuf s.answered := by
  have hp : (run .wasm32 {} wholeEvents).map (fun s => (s.conn.phase,s.sent,s.answered)) =
      some (.proxying,sampleStartup ++ queryMessage "SELECT 2",1) := by
    decide +kernel
  obtain ⟨s,hr,heq⟩ := Option.map_eq_some_iff.mp hp
  obtain ⟨hphase,hsent,hans⟩ : _ ∧ _ ∧ _ := by simpa only [Prod.mk.injEq] using heq
  exact ⟨s,hr,hsent,hans,run_transparent (by decide +kernel) hr hphase⟩

/-- While the answer to a query is on its way, the beginning of the next query is held back. The
answer says that a transaction is open, and the rest of the query is passed on without it. -/
def cutEvents : List ConnEvent :=
  idleEvents ++ [.clientData (queryMessage "BEGIN"),.clientData ((queryMessage "SELECT 2").take 7),
    .upstreamData (readyMessage 0x54),.clientData ((queryMessage "SELECT 2").drop 7)]

theorem cutEvents_not_transparent : ∃ s, run .wasm32 {} cutEvents = some s ∧
    s.conn.phase = .proxying ∧
    s.sent = sampleStartup ++ queryMessage "BEGIN" ++ (queryMessage "SELECT 2").drop 7 ∧
    ¬ Transparent s.client s.sent s.conn.recvBuf s.answered := by
  have hp : (run .wasm32 {} cutEvents).map
      (fun s => (s.conn.phase,s.sent,s.conn.recvBuf,unfinished s.client)) =
      some (.proxying,sampleStartup ++ queryMessage "BEGIN" ++ (queryMessage "SELECT 2").drop 7,
        (queryMessage "SELECT 2").take 7,[]) := by
    decide +kernel
  obtain ⟨s,hr,heq⟩ := Option.map_eq_some_iff.mp hp
  obtain ⟨hphase,hsent,hheld,hrest⟩ : _ ∧ _ ∧ _ ∧ _ := by simpa only [Prod.mk.injEq] using heq
  refine ⟨s,hr,hphase,hsent,fun h => ?_⟩
  have hnil : s.conn.recvBuf = [] := (transparent_held h).elim (·.trans hrest) id
  rw [hheld] at hnil
  exact absurd hnil (by decide +kernel)

end Session

end Distvirt.Postgres
