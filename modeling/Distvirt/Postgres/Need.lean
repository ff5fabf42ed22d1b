import Distvirt.Postgres.Core
import Distvirt.Postgres.Order

/-! The need of a backend. It is reported as long as a client waits for the backend, if no query is
forwarded by a connection that counts as idle. -/

namespace Distvirt.Postgres

open List Connection PostgresActivator AList Function

instance (m : List UInt8) : Decidable (IsHealthCheck m) :=
  decidable_of_iff ((extractSimpleQuery m).any isHealthCheckQuery = true)
    (by rw [Option.any_eq_true]; rfl)

/-- All messages of a buffer are health checks that the activator answers, and no header in it gives a
size that is zero in `usize`. -/
def Quiet (t : Target) (buf : List UInt8) : Prop :=
  (∀ m ∈ (tagged.split buf).1, IsHealthCheck m ∧ ¬ Wraps t m) ∧ ¬ Wraps t (tagged.split buf).2

instance (t : Target) (buf : List UInt8) : Decidable (Quiet t buf) := inferInstanceAs (Decidable (_ ∧ _))

namespace Connection

variable {t : Target} {c c' : Connection} {data : List UInt8} {asked : Bool}

theorem intercepts_iff (hidle : c.isIdle = true) (hpos : 0 < total) :
    c.intercepts (c.recvBuf.getD 0 0) total = true ↔ IsHealthCheck (c.recvBuf.take total) := by
  refine ⟨fun h => (intercepts_check h).1,?_⟩
  rintro ⟨query,hq,hcheck⟩
  have htag : (c.recvBuf.take total).head? = some msgQuery := healthCheck_head ⟨query,hq,hcheck⟩
  have hhead : c.recvBuf.getD 0 0 = msgQuery := by
    rw [head?_take,if_neg (Nat.ne_of_gt hpos)] at htag
    rw [getD_eq_getElem?_getD,← head?_eq_getElem?,htag]
    rfl
  rw [intercepts,hidle,hhead,hq]
  simpa using hcheck

/-- The first message is forwarded with all that follows. -/
theorem drainClientProxying_forwards (hne : c.recvBuf ≠ []) (hp : parseTaggedMessage t c.recvBuf =
      some (tag,total)) (hi : c.intercepts tag total = false) (hfuel : c.recvBuf.length ≤ fuel) :
    upstreamBytes (drainClientProxying t fuel c).2 ≠ [] := by
  obtain ⟨fuel,rfl⟩ := Nat.exists_eq_succ_of_ne_zero
    (Nat.ne_of_gt (Nat.lt_of_lt_of_le (length_pos_iff.mpr hne) hfuel))
  simp [drainClientProxying,hp,hi,hne,upstreamBytes]

/-- A size that wraps to zero makes the message an empty one, which is no health check. -/
theorem drainClientProxying_wraps (hw : Wraps t c.recvBuf) (hfuel : c.recvBuf.length ≤ fuel) :
    upstreamBytes (drainClientProxying t fuel c).2 ≠ [] := by
  have hne : c.recvBuf ≠ [] := fun h => by simp [Wraps,h] at hw
  refine drainClientProxying_forwards hne (parseTaggedMessage_wraps hw) ?_ hfuel
  simp [intercepts,extractSimpleQuery]

theorem wraps_take (hs : tagged.size buf = some n) : Wraps t (buf.take n) ↔ Wraps t buf := by
  obtain ⟨hlong,hsize⟩ : 5 ≤ buf.length ∧ 1 + u32At buf 1 = n := by
    simp only [tagged] at hs
    split at hs
    · rename_i hle
      exact ⟨hle.1,Option.some.inj hs⟩
    · cases hs
  have hle := tagged.le hs
  by_cases hn : 5 ≤ n
  · rw [Wraps,u32At_take hn,length_take,Nat.min_eq_left hle]
    exact and_congr_left' (iff_of_true hn hlong)
  · have hwide : 2 ^ 32 ≤ 2 ^ t.usizeBits := Nat.pow_le_pow_right (by decide) t.wide
    refine iff_of_false (fun h => ?_) (fun h => ?_)
    · have hshort := h.1
      rw [length_take] at hshort
      omega
    · have hzero := h.2
      rw [hsize,Nat.mod_eq_of_lt (by omega)] at hzero
      omega

/-- Nothing is forwarded in the idle state exactly if the buffer holds nothing but health checks. -/
theorem drainClientProxying_cut {tail : List UInt8} (hcut : tagged.Cut c.recvBuf frames tail)
    (hidle : c.isIdle = true) (hfuel : c.recvBuf.length ≤ fuel) :
    upstreamBytes (drainClientProxying t fuel c).2 = [] ↔
      (∀ m ∈ frames, IsHealthCheck m ∧ ¬ Wraps t m) ∧ ¬ Wraps t tail := by
  generalize hbuf : c.recvBuf = buf at hcut
  induction hcut generalizing c fuel with
  | rest hs =>
    subst hbuf
    by_cases hw : Wraps t c.recvBuf
    · exact iff_of_false (drainClientProxying_wraps hw hfuel) (fun h => h.2 hw)
    · refine iff_of_true ?_ ⟨nofun,hw⟩
      cases fuel with
      | zero => rfl
      | succ fuel =>
        simp only [drainClientProxying,parseTaggedMessage_size hw,hs,Option.map_none]
        split <;> rfl
  | @frame stream n frames tail hs hrest ih =>
    subst hbuf
    have hpos := tagged.pos hs
    have hle := tagged.le hs
    have hne : c.recvBuf ≠ [] := fun h => by
      rw [h] at hle
      exact absurd hpos (Nat.not_lt.mpr hle)
    rw [forall_mem_cons,wraps_take hs]
    by_cases hw : Wraps t c.recvBuf
    · exact iff_of_false (drainClientProxying_wraps hw hfuel) (fun h => h.1.1.2 hw)
    have hp : parseTaggedMessage t c.recvBuf = some (c.recvBuf.getD 0 0,n) := by
      rw [parseTaggedMessage_size hw,hs]
      rfl
    by_cases hi : c.intercepts (c.recvBuf.getD 0 0) n = true
    · obtain ⟨fuel,rfl⟩ := Nat.exists_eq_succ_of_ne_zero (by omega : fuel ≠ 0)
      have hnext : upstreamBytes
          (drainClientProxying t fuel { c with recvBuf := c.recvBuf.drop n }).2 = [] ↔ _ :=
        ih hidle (by rw [length_drop]; omega) rfl
      have hcheck := (intercepts_iff hidle hpos).mp hi
      simp only [hcheck,hw,not_false_eq_true,and_self,true_and]
      rw [← hnext]
      rw [drainClientProxying,if_neg (by simpa using hne),hp]
      dsimp only
      rw [if_pos hi]
      rfl
    · have hcheck : ¬ IsHealthCheck (c.recvBuf.take n) := fun h => hi ((intercepts_iff hidle hpos).mpr h)
      exact iff_of_false (drainClientProxying_forwards hne hp (Bool.eq_false_iff.mpr hi) hfuel)
        (fun h => hcheck h.1.1.1)

theorem onClientData_quiet (hphase : c.phase = .proxying) (hidle : c.isIdle = true) :
    upstreamBytes (c.onClientData t data).2 = [] ↔ Quiet t (c.recvBuf ++ data) := by
  rw [onClientData_idle hphase hidle]
  exact drainClientProxying_cut (c := { c with recvBuf := c.recvBuf ++ data })
    (Framing.split_cut _) hidle (Nat.le_refl _)

/-- The connection has been given a backend. -/
def Met (c : Connection) : Prop := c.phase = .proxying ∨ c.phase = .closing

/-- What holds of a connection that has (`asked`) or has not forwarded anything since the last
ReadyForQuery. -/
structure Tracked (asked : Bool) (c : Connection) : Prop where
  early : ¬ c.Met → c.lastTxnStatus = none ∧ asked = false
  auth : c.lastTxnStatus = none ∨ c.authComplete = true
  unanswered : asked = true → c.lastTxnStatus ≠ some .idle

theorem not_idle (h : c.lastTxnStatus ≠ some .idle) : c.isIdle = false := by
  simp [isIdle,h]

theorem Tracked.idle (h : Tracked asked c) (hs : c.lastTxnStatus = some .idle) :
    c.isIdle = true := by
  rcases h.auth with hn | ha
  · exact nomatch hn.symm.trans hs
  · simp [isIdle,hs,ha]

/-- Client data starts a connection, or it leaves all but the buffers as they are. -/
theorem onClientData_cases (t : Target) (c : Connection) (data : List UInt8) :
    ((c.phase = .awaitingStartup ∨ c.phase = .sslNegotiation) ∧ ¬ (c.onClientData t data).1.Met ∧
      upstreamBytes (c.onClientData t data).2 = []) ∨
    ((c.onClientData t data).1.phase = c.phase ∧
      (c.onClientData t data).1.authComplete = c.authComplete ∧
      (upstreamBytes (c.onClientData t data).2 ≠ [] → c.phase = .proxying)) := by
  have early (hphase : c.phase = .awaitingStartup ∨ c.phase = .sslNegotiation) :
      ¬ (c.onClientData t data).1.Met ∧ upstreamBytes (c.onClientData t data).2 = [] := by
    rw [onClientData_early hphase]
    have hstarted : Started { c with recvBuf := c.recvBuf ++ data } (tryParseStartup
      (c.recvBuf ++ data).length { c with recvBuf := c.recvBuf ++ data }) := tryParseStartup_started _
    obtain ⟨⟨hsilent,-⟩,-,ssl,-,hpassed⟩ := hstarted
    refine ⟨fun hmet => ?_,hsilent⟩
    rcases hpassed with ⟨hp | hp,-,-⟩ | ⟨hp,-,-⟩ <;> rcases hmet with hm | hm <;>
      rcases hphase with he | he <;> simp_all
  cases hphase : c.phase with
  | awaitingStartup => exact .inl ⟨.inl rfl,early (.inl hphase)⟩
  | sslNegotiation => exact .inl ⟨.inr rfl,early (.inr hphase)⟩
  | startup =>
    rw [onClientData_startup hphase]
    exact .inr ⟨hphase,rfl,fun h => absurd rfl h⟩
  | proxying =>
    right
    cases hidle : c.isIdle with
    | true =>
      rw [onClientData_idle hphase hidle]
      have hd := drainClientProxying_drained t { c with recvBuf := c.recvBuf ++ data } (Nat.le_refl _)
      have hp := congrArg phase hd.conn
      have ha := congrArg authComplete hd.conn
      exact ⟨hp.trans hphase,ha,fun _ => rfl⟩
    | false =>
      rw [onClientData_busy hphase hidle]
      exact ⟨hphase,rfl,fun _ => rfl⟩
  | closing =>
    rw [onClientData_closing hphase]
    exact .inr ⟨hphase,rfl,fun h => absurd rfl h⟩

theorem note_auth (frames : List (List UInt8)) (h : c.lastTxnStatus = none ∨ c.authComplete = true) :
    (c.note frames).lastTxnStatus = none ∨ (c.note frames).authComplete = true := by
  unfold note
  cases hl : (frames.filterMap parseReadyForQueryStatus).getLast? with
  | none => exact h.imp id (fun ha => Bool.or_eq_true_iff.mpr (.inl ha))
  | some status =>
    obtain ⟨m,hm,hstatus⟩ := mem_filterMap.mp (mem_of_getLast? hl)
    refine .inr (Bool.or_eq_true_iff.mpr (.inr (any_eq_true.mpr ⟨m,hm,?_⟩)))
    exact Option.isSome_of_eq_some hstatus

/-- The connection only moves on. -/
def Forward (c c' : Connection) : Prop :=
  (PostgresActivator.meaningful c = true → PostgresActivator.meaningful c' = true) ∧ (c.Met → c'.Met)

theorem Met.meaningful (h : c.Met) : PostgresActivator.meaningful c = true := by
  rcases h with hp | hp <;> simp [PostgresActivator.meaningful,hp]

theorem Met.forward (h : c'.Met) : Forward c c' := ⟨fun _ => h.meaningful,fun _ => h⟩

theorem onUpstreamConnected_met (h : meaningful c = true) : c.onUpstreamConnected.1.Met := by
  by_cases hp : c.phase = .startup
  · unfold onUpstreamConnected
    simp only [hp,ne_eq,not_true_eq_false,↓reduceIte]
    split <;> exact .inl rfl
  · have heq : c.onUpstreamConnected = (c,[]) := if_pos hp
    rw [heq]
    revert h hp
    unfold meaningful Met
    cases c.phase <;> simp

theorem onClientData_forward : Forward c (c.onClientData t data).1 := by
  have hcases := onClientData_cases t c data
  unfold Forward meaningful Met at *
  grind

/-- Client data keeps the account if nothing is forwarded in the idle state. -/
theorem Tracked.clientData (h : Tracked asked c) (data : List UInt8)
    (hidle : c.phase = .proxying → c.isIdle = true → upstreamBytes (c.onClientData t data).2 = []) :
    Tracked (asked || !(upstreamBytes (c.onClientData t data).2).isEmpty)
      (c.onClientData t data).1 := by
  have hlast := (onClientData_backend (t := t) (c := c) data).2
  have hcases := onClientData_cases t c data
  have hidle' := h.idle
  obtain ⟨hearly,hauth,hun⟩ := h
  constructor <;> grind [List.isEmpty_iff,Met]

theorem Tracked.upstreamConnected (h : Tracked asked c) (hm : meaningful c = true) :
    Tracked (asked || !(upstreamBytes c.onUpstreamConnected.2).isEmpty) c.onUpstreamConnected.1 ∧
      c.onUpstreamConnected.1.Met := by
  have hmet := onUpstreamConnected_met hm
  refine ⟨?_,hmet⟩
  by_cases hp : c.phase = .startup
  · have hn := (h.early (by simp [Met,hp])).1
    have hlast := c.onUpstreamConnected_backend.2.trans hn
    refine ⟨fun h => absurd hmet h,.inl hlast,fun _ => ?_⟩
    rw [hlast]
    exact nofun
  · have heq : c.onUpstreamConnected = (c,[]) := if_pos hp
    rw [heq]
    simpa [upstreamBytes] using h

theorem Tracked.closed (h : Tracked asked c) :
    Tracked asked c.onUpstreamClosed.1 ∧ c.onUpstreamClosed.1.Met := by
  have hmet : c.onUpstreamClosed.1.Met := .inr c.onUpstreamClosed_phase
  obtain ⟨hearly,hauth,hun⟩ := h
  refine ⟨?_,hmet⟩
  constructor <;> grind [onUpstreamClosed]

theorem Tracked.upstreamData (h : Tracked asked c) (hm : c.Met)
    (hd : c.onUpstreamData t data = some (c',actions)) :
    Tracked (asked && (readies (c.upstreamRecvBuf ++ data)).isEmpty) c' ∧ c'.Met := by
  unfold onUpstreamData at hd
  split at hd
  · cases hd
    refine ⟨⟨fun hn => absurd hm hn,h.auth,fun ha => h.unanswered ?_⟩,hm⟩
    exact (Bool.and_eq_true_iff.mp ha).1
  · obtain ⟨conn,hscan,heq⟩ := Option.map_eq_some_iff.mp hd
    cases heq
    obtain ⟨frames,tail,hcut,rfl⟩ := scan_cut hscan
    refine ⟨⟨fun hn => absurd hm hn,note_auth frames h.auth,fun ha => ?_⟩,hm⟩
    obtain ⟨hasked,hempty⟩ := Bool.and_eq_true_iff.mp ha
    rw [readies,hcut.split_eq,List.isEmpty_iff] at hempty
    simp only [note,hempty]
    exact h.unanswered hasked

end Connection

namespace PostgresActivator

variable {t : Target} {a b : PostgresActivator} {asked : Nat → Bool} {d : Nat} {c : Connection}

theorem computeBackendNeed_active : a.computeBackendNeed = .active ↔
    ∃ h c, a.connections.lookup h = some c ∧ meaningful c = true ∧ c.isIdle = false := by
  simp only [computeBackendNeed,← mem_toList,List.isEmpty_iff,List.filter_eq_nil_iff,
    List.all_eq_true,List.mem_filter]
  split_ifs <;> grind

/-- The account of every connection, and of those that are being connected. -/
structure Sound (a : PostgresActivator) (asked : Nat → Bool) : Prop where
  conn : ∀ h c, a.connections.lookup h = some c → Tracked (asked h) c
  upstream : ∀ u d, a.upstreamToDownstream.lookup u = some d →
    ∀ c, a.connections.lookup d = some c → c.Met
  pending : ∀ d ∈ a.pendingConnects, ∀ c, a.connections.lookup d = some c → meaningful c = true

/-- One connection moves on. -/
theorem Sound.set (h : a.Sound asked) (hl : a.connections.lookup d = some c) (hc : Tracked x c')
    (hf : Forward c c') : (a.setConnection d c').Sound (update asked d x) := by
  obtain ⟨hconn,hupstream,hpending⟩ := h
  constructor <;> simp only [setConnection,lookup_insert_if,update_apply] <;>
    grind [Forward]

theorem Sound.insert (h : a.Sound asked) (hp : d ∉ a.pendingConnects)
    (hu : ∀ u, a.upstreamToDownstream.lookup u ≠ some d) (hc : Tracked false c) :
    (a.setConnection d c).Sound (update asked d false) := by
  obtain ⟨hconn,hupstream,hpending⟩ := h
  constructor <;> simp only [setConnection,lookup_insert_if,update_apply] <;> grind

theorem Sound.erase (h : a.Sound asked) (k : Nat) :
    ({ a with connections := a.connections.erase k } : PostgresActivator).Sound asked := by
  obtain ⟨hconn,hupstream,hpending⟩ := h
  constructor <;> simp only [lookup_erase_if] <;> grind

/-- A new upstream belongs to a connection that has met it. -/
theorem Sound.link (h : a.Sound asked) (u : Nat)
    (hd : ∀ c, a.connections.lookup d = some c → c.Met) :
    ({ a with upstreamToDownstream := a.upstreamToDownstream.insert u d } :
      PostgresActivator).Sound asked := by
  obtain ⟨hconn,hupstream,hpending⟩ := h
  constructor <;> simp only [lookup_insert_if] <;> grind

theorem Sound.unlink (h : a.Sound asked) (u : Nat) :
    ({ a with upstreamToDownstream := a.upstreamToDownstream.erase u } :
      PostgresActivator).Sound asked := by
  obtain ⟨hconn,hupstream,hpending⟩ := h
  constructor <;> simp only [lookup_erase_if] <;> grind

theorem Sound.waits (h : a.Sound asked) {pending : List Nat}
    (hp : ∀ d ∈ pending, d ∈ a.pendingConnects ∨
      ∀ c, a.connections.lookup d = some c → meaningful c = true) :
    ({ a with pendingConnects := pending, backendAvailable := available } :
      PostgresActivator).Sound asked :=
  ⟨h.conn,h.upstream,fun d hd c hc => (hp d hd).elim (fun hold => h.pending d hold c hc)
    (fun hnew => hnew c hc)⟩

theorem meaningful_of_buffered (h : c.hasBufferedStartup = true) : meaningful c = true := by
  simp only [hasBufferedStartup,Bool.and_eq_true,beq_iff_eq] at h
  simp [meaningful,h.1]

/-- The last need among the actions. -/
def lastNeed (need : BackendNeed) (actions : List Action) : BackendNeed :=
  actions.foldl (fun need action =>
    match action with
    | .setBackendNeed need => need
    | _ => need) need

theorem lastNeed_eq (h : ∀ n, .setBackendNeed n ∉ actions) (more : List Action) :
    lastNeed need (actions ++ more) = lastNeed need more := by
  induction actions with
  | nil => rfl
  | cons action actions ih =>
    have hrest := ih (fun n hn => h n (mem_cons_of_mem _ hn))
    cases action with
    | setBackendNeed n => exact absurd mem_cons_self (h n)
    | downstreamSend _ _ | upstreamSend _ _ | downstreamClose _ | upstreamClose _
    | upstreamConnect _ | log _ => exact hrest

/-- A need that was reported right is so again, when the old one is compared with the new. -/
theorem lastNeed_update (h : ∀ n, .setBackendNeed n ∉ actions)
    (hneed : a.computeBackendNeed = .active → need = .active) : b.computeBackendNeed = .active →
      lastNeed need (actions ++ b.updateBackendNeed a.computeBackendNeed) = .active := by
  intro hb
  rw [lastNeed_eq h]
  unfold updateBackendNeed
  split
  · exact hb
  · rename_i heq
    rw [not_ne_iff] at heq
    exact hneed (heq.trans hb)

theorem processConnActions_silent : .setBackendNeed n ∉ a.processConnActions h actions := by
  intro hm
  obtain ⟨action,-,heq⟩ := mem_filterMap.mp hm
  cases action <;> simp at heq

theorem silent_nil (n : BackendNeed) : Action.setBackendNeed n ∉ [] := nofun

end PostgresActivator

/-- The activator, the need that it reported last, and the clients for which something was forwarded
since the backend's last ReadyForQuery. -/
structure Served where
  core : PostgresActivator := {}
  need : BackendNeed := .none
  asked : Nat → Bool := fun _ => false

namespace Served

open PostgresActivator hiding Sound

def note (s : Served) (handle : Nat) (f : Connection → Bool → Bool) : Nat → Bool :=
  match s.core.connections.lookup handle with
  | none => s.asked
  | some c => Function.update s.asked handle (f c (s.asked handle))

def nowAsked (t : Target) (s : Served) : Event → Nat → Bool
  | .streamOpen handle => Function.update s.asked handle false
  | .streamData handle data =>
    s.note handle (fun c asked => asked || !(upstreamBytes (c.onClientData t data).2).isEmpty)
  | .upstreamConnectResult _ true =>
    match s.core.pendingConnects with
    | [] => s.asked
    | downstream :: _ =>
      s.note downstream (fun c asked => asked || !(upstreamBytes c.onUpstreamConnected.2).isEmpty)
  | .upstreamData upstream data =>
    match s.core.upstreamToDownstream.lookup upstream with
    | none => s.asked
    | some downstream =>
      s.note downstream (fun c asked => asked && (readies (c.upstreamRecvBuf ++ data)).isEmpty)
  | _ => s.asked

def step (t : Target) (s : Served) (ev : Event) : Option Served :=
  (s.core.process t ev).map (fun r =>
    ⟨r.1,lastNeed s.need r.2,s.nowAsked t ev⟩)

/-- A client that waits for the backend: its startup message is held back, it is being
authenticated, it has a query that is not answered, or it is inside a transaction. -/
def Busy (s : Served) (handle : Nat) (c : Connection) : Prop :=
  c.hasBufferedStartup = true ∨ (c.phase = .proxying ∧ c.authComplete = false) ∨
    s.asked handle = true ∨ c.lastTxnStatus = some .inTransaction ∨ c.lastTxnStatus = some .failed

def Reported (s : Served) : Prop :=
  ∀ handle c, s.core.connections.lookup handle = some c → s.Busy handle c → s.need = .active

/-- A new stream has a new handle, and a client that counts as idle sends health checks only. -/
def Allowed (t : Target) (s : Served) : Event → Prop
  | .streamOpen handle => s.core.connections.lookup handle = none ∧
      handle ∉ s.core.pendingConnects ∧ ∀ e ∈ s.core.upstreamToDownstream.toList, e.2 ≠ handle
  | .streamData handle data => ∀ c ∈ s.core.connections.lookup handle,
      c.phase = .proxying → c.isIdle = true → Quiet t (c.recvBuf ++ data)
  | _ => True

instance (t : Target) (s : Served) : DecidablePred (s.Allowed t)
  | .streamOpen _ => inferInstanceAs (Decidable (_ ∧ _ ∧ _))
  | .streamData _ _ => inferInstanceAs (Decidable (∀ c ∈ _, _ → _ → _))
  | .streamClose _ | .backendAvailable _ | .upstreamConnectResult _ _ | .upstreamData _ _
  | .upstreamClose _ | .tick => isTrue trivial

structure Sound (s : Served) : Prop where
  core : s.core.Sound s.asked
  need : s.core.computeBackendNeed = .active → s.need = .active

variable {t : Target} {s s' : Served}

theorem Sound.reported (h : s.Sound) : s.Reported := by
  intro handle c hl hbusy
  have htracked := h.core.conn handle c hl
  suffices hc : meaningful c = true ∧ c.isIdle = false from
    h.need (computeBackendNeed_active.mpr ⟨handle,c,hl,hc⟩)
  have met : c.lastTxnStatus ≠ none ∨ s.asked handle = true → meaningful c = true := by
    intro hne
    have hmet : c.Met := by
      by_contra hn
      obtain ⟨hnone,hasked⟩ := htracked.early hn
      rcases hne with hne | hne
      · exact hne hnone
      · exact nomatch hasked.symm.trans hne
    exact hmet.meaningful
  rcases hbusy with hb | ⟨hp,ha⟩ | ha | ht | ht
  · refine ⟨meaningful_of_buffered hb,not_idle ?_⟩
    simp only [hasBufferedStartup,Bool.and_eq_true,beq_iff_eq] at hb
    rw [(htracked.early (by simp [Connection.Met,hb.1])).1]
    exact nofun
  · exact ⟨by simp [meaningful,hp],by simp [isIdle,ha]⟩
  · exact ⟨met (.inr ha),not_idle (htracked.unanswered ha)⟩
  · exact ⟨met (.inl (by simp [ht])),not_idle (by simp [ht])⟩
  · exact ⟨met (.inl (by simp [ht])),not_idle (by simp [ht])⟩

/-- A connection of `b` sees an event. -/
theorem sound_inform (hb : b.Sound s.asked)
    (hneed : s.core.computeBackendNeed = .active → s.need = .active)
    (hl : b.connections = s.core.connections)
    (hf : ∀ c, b.connections.lookup d = some c → Tracked (g c (s.asked d)) (f c).1 ∧
      Forward c (f c).1) : Sound ⟨(s.core.inform b d f).1,lastNeed s.need (s.core.inform b d f).2,
      s.note d g⟩ := by
  unfold inform note
  rw [← hl]
  cases hc : b.connections.lookup d with
  | none => exact ⟨hb,lastNeed_update silent_nil hneed⟩
  | some c =>
    obtain ⟨htracked,hforward⟩ := hf c hc
    exact ⟨hb.set hc htracked hforward,lastNeed_update (fun _ => processConnActions_silent) hneed⟩

theorem Sound.streamOpen (h : s.Sound) (ha : s.Allowed t (.streamOpen handle)) :
    Sound ⟨s.core.setConnection handle .new,s.need,update s.asked handle false⟩ := by
  obtain ⟨-,hpending,hupstream⟩ := ha
  refine ⟨h.core.insert hpending (fun u hu => ?_) ⟨fun _ => ⟨rfl,rfl⟩,.inl rfl,nofun⟩,
    fun hactive => ?_⟩
  · exact hupstream (u,handle) (mem_toList.mpr hu) rfl
  · -- a connection that waits for its startup message does not count
    obtain ⟨k,c,hk,hm,hi⟩ := computeBackendNeed_active.mp hactive
    rcases insert_cases hk with ⟨_,rfl⟩ | ⟨_,hk⟩
    · cases hm
    · exact h.need (computeBackendNeed_active.mpr ⟨k,c,hk,hm,hi⟩)

theorem Sound.streamData {handle : Nat} (h : s.Sound) (ha : s.Allowed t (.streamData handle data)) :
    Sound ⟨(s.core.handleStreamData t handle data).1,
      lastNeed s.need (s.core.handleStreamData t handle data).2,
      s.nowAsked t (.streamData handle data)⟩ := by
  simp only [handleStreamData,nowAsked,note]
  cases hl : s.core.connections.lookup handle with
  | none => exact h
  | some c =>
    have htracked := (h.core.conn handle c hl).clientData (t := t) data
      (fun hp hi => (onClientData_quiet hp hi).mpr (ha c hl hp hi))
    have hset := h.core.set hl htracked onClientData_forward
    dsimp only
    split
    · rename_i hb
      refine ⟨hset.waits (fun d hd => ?_),lastNeed_update (fun n hn => ?_) h.need⟩
      · rcases mem_append.mp hd with hd | hd
        · exact .inl hd
        · right
          intro c' hc'
          cases mem_singleton.mp hd
          rw [setConnection,lookup_insert] at hc'
          cases hc'
          exact meaningful_of_buffered (Bool.and_eq_true_iff.mp hb).2
      · rcases mem_append.mp hn with hn | hn
        · exact processConnActions_silent hn
        · cases mem_singleton.mp hn
    · refine ⟨hset,lastNeed_update (fun n hn => ?_) h.need⟩
      rw [append_nil] at hn
      exact processConnActions_silent hn

theorem Sound.streamClose (h : s.Sound) (handle : Nat) :
    Sound ⟨(s.core.handleStreamClose handle).1,
      lastNeed s.need (s.core.handleStreamClose handle).2,s.asked⟩ := by
  unfold handleStreamClose
  cases s.core.connections.lookup handle with
  | none => exact ⟨h.core,lastNeed_update silent_nil h.need⟩
  | some c =>
    have hclosed : ({ s.core with
        connections := s.core.connections.erase handle
        pendingConnects := s.core.pendingConnects.filter (· != handle) } :
        PostgresActivator).Sound s.asked :=
      (h.core.erase handle).waits (fun d hd => .inl (mem_filter.mp hd).1)
    cases s.core.upstreamOf handle with
    | none => exact ⟨hclosed,lastNeed_update silent_nil h.need⟩
    | some u =>
      have hsilent : ∀ n, Action.setBackendNeed n ∉ [Action.upstreamClose u] := by
        intro n hn
        cases mem_singleton.mp hn
      exact ⟨hclosed.unlink u,lastNeed_update hsilent h.need⟩

theorem Sound.backendAvailable (h : s.Sound) (available : Bool) :
    Sound ⟨(s.core.handleBackendAvailable available).1,
      lastNeed s.need (s.core.handleBackendAvailable available).2,s.asked⟩ := by
  cases available with
  | true =>
    constructor
    · apply h.core.waits
      intro d hd
      apply (mem_append.mp hd).imp_right
      · intro hd c hc
        obtain ⟨⟨d,c'⟩,he,rfl⟩ := mem_map.mp hd
        obtain ⟨hmem,hb⟩ := mem_filter.mp he
        rw [mem_toList.mp hmem] at hc
        cases hc
        exact meaningful_of_buffered hb
    · apply lastNeed_update _ h.need
      intro n hn
      obtain ⟨_,-,heq⟩ := mem_map.mp hn
      cases heq
  | false =>
    have hlookup : ∀ k c, (s.core.connections.retain (fun _ c => some c.onUpstreamClosed.1)).lookup k =
        some c → ∃ c', s.core.connections.lookup k = some c' ∧ c = c'.onUpstreamClosed.1 := by
      intro k c hc
      rw [lookup_retain] at hc
      obtain ⟨c',hl,heq⟩ := Option.bind_eq_some_iff.mp hc
      exact ⟨c',hl,(Option.some.inj heq).symm⟩
    refine ⟨⟨fun k c hk => ?_,nofun,fun d _ c hk => ?_⟩,lastNeed_update (fun n hn => ?_) h.need⟩
    · obtain ⟨c',hl,rfl⟩ := hlookup k c hk
      exact (h.core.conn k c' hl).closed.1
    · obtain ⟨c',hl,rfl⟩ := hlookup d c hk
      simp [meaningful,onUpstreamClosed_phase]
    · rcases mem_append.mp hn with hn | hn
      · obtain ⟨_,-,hm⟩ := mem_flatMap.mp hn
        exact processConnActions_silent hm
      · obtain ⟨_,-,heq⟩ := mem_map.mp hn
        cases heq

theorem Sound.connected {upstream d : Nat} (h : s.Sound) (hp : s.core.pendingConnects = d :: rest) :
    Sound ⟨(s.core.handleUpstreamConnectResult upstream true).1,
      lastNeed s.need (s.core.handleUpstreamConnectResult upstream true).2,
      s.nowAsked t (.upstreamConnectResult upstream true)⟩ := by
  have hrest : ({ s.core with pendingConnects := rest } : PostgresActivator).Sound s.asked :=
    h.core.waits (fun d hd => .inl (hp ▸ mem_cons_of_mem _ hd))
  simp only [handleUpstreamConnectResult,inform,nowAsked,note,hp,↓reduceIte]
  cases hl : s.core.connections.lookup d with
  | none =>
    refine ⟨hrest.link upstream (fun c hc => ?_),lastNeed_update silent_nil h.need⟩
    cases hl.symm.trans hc
  | some c =>
    have hm := h.core.pending d (hp ▸ mem_cons_self) c hl
    obtain ⟨htracked,hmet⟩ := (h.core.conn d c hl).upstreamConnected hm
    have hset := hrest.set hl htracked hmet.forward
    refine ⟨hset.link upstream (fun c' hc' => ?_),
      lastNeed_update (fun _ => processConnActions_silent) h.need⟩
    rw [setConnection,lookup_insert] at hc'
    cases hc'
    exact hmet

theorem note_keep : s.note d (fun _ asked => asked) = s.asked := by
  unfold note
  split
  · rfl
  · exact update_eq_self _ _

/-- A connection is closed; a failed one is closed in the same way. -/
theorem Sound.closed (h : s.Sound) (hb : b.Sound s.asked) (hl : b.connections = s.core.connections)
    (d : Nat) : Sound ⟨(s.core.inform b d onUpstreamClosed).1,
      lastNeed s.need (s.core.inform b d onUpstreamClosed).2,
      s.asked⟩ := by
  have hinform := sound_inform (g := fun _ asked => asked) (f := onUpstreamClosed) hb h.need hl
    (fun c hc => ⟨(hb.conn d c hc).closed.1,Connection.Met.forward (.inr c.onUpstreamClosed_phase)⟩)
  rwa [note_keep] at hinform

theorem Sound.upstreamData (h : s.Sound) (hr : s.core.handleUpstreamData t upstream data = some r) :
    Sound ⟨r.1,lastNeed s.need r.2,s.nowAsked t (.upstreamData upstream data)⟩ := by
  unfold handleUpstreamData at hr
  simp only [nowAsked]
  cases hu : s.core.upstreamToDownstream.lookup upstream with
  | none =>
    simp only [hu] at hr
    cases hr
    exact h
  | some d =>
    simp only [hu] at hr
    cases hl : s.core.connections.lookup d with
    | none =>
      simp only [hl] at hr
      cases hr
      simp only [note,hl]
      exact h
    | some c =>
      simp only [hl] at hr
      obtain ⟨⟨c',actions⟩,hd,rfl⟩ := Option.map_eq_some_iff.mp hr
      have hmet := h.core.upstream upstream d hu c hl
      refine sound_inform h.core h.need rfl (fun k hk => ?_)
      cases hl.symm.trans hk
      obtain ⟨htracked,hmet'⟩ := (h.core.conn d c hl).upstreamData hmet hd
      exact ⟨htracked,hmet'.forward⟩

theorem Sound.step (h : s.Sound) (ha : s.Allowed t ev) (hs : s.step t ev = some s') : s'.Sound := by
  obtain ⟨r,hr,rfl⟩ := Option.map_eq_some_iff.mp hs
  cases ev with
  | streamOpen handle =>
    cases hr
    exact h.streamOpen ha
  | streamData handle data =>
    cases hr
    exact h.streamData ha
  | streamClose handle =>
    cases hr
    exact h.streamClose handle
  | backendAvailable available =>
    cases hr
    exact h.backendAvailable available
  | upstreamConnectResult upstream ok =>
    cases hr
    cases hp : s.core.pendingConnects with
    | nil =>
      cases ok <;> simp only [handleUpstreamConnectResult,nowAsked,hp] <;> exact h
    | cons d rest =>
      cases ok with
      | true => exact h.connected hp
      | false =>
        have hrest : ({ s.core with pendingConnects := rest } : PostgresActivator).Sound s.asked :=
          h.core.waits (fun d hd => .inl (hp ▸ mem_cons_of_mem _ hd))
        simp only [handleUpstreamConnectResult,nowAsked,hp]
        exact h.closed hrest rfl d
  | upstreamData upstream data => exact h.upstreamData hr
  | upstreamClose upstream =>
    cases hr
    simp only [handleUpstreamClose,nowAsked]
    split
    · exact h
    · split
      · exact ⟨h.core.unlink upstream,h.need⟩
      · exact h.closed (h.core.unlink upstream) rfl _
  | tick =>
    cases hr
    exact h

end Served

end Distvirt.Postgres
