import Distvirt.Postgres.Protocol
import Distvirt.Runs

/-! One client connection of the activator, and what passes through it. -/

namespace Distvirt.Postgres

inductive Phase
  | awaitingStartup
  | sslNegotiation
  | startup
  | proxying
  | closing
deriving DecidableEq, Repr

inductive ConnAction
  | downstreamSend (data : List UInt8)
  | upstreamSend (data : List UInt8)
  | downstreamClose
  | upstreamClose
  | log (message : String)
deriving DecidableEq

structure Connection where
  phase : Phase := .awaitingStartup
  recvBuf : List UInt8 := []
  upstreamRecvBuf : List UInt8 := []
  bufferedData : List UInt8 := []
  lastTxnStatus : Option TransactionStatus := none
  authComplete : Bool := false
deriving DecidableEq

namespace Connection

def new : Connection := {}

def isIdle (c : Connection) : Bool := c.authComplete && c.lastTxnStatus == some .idle

def hasBufferedStartup (c : Connection) : Bool := c.phase == .startup && !c.bufferedData.isEmpty

/-- The test of `drain_client_proxying` for a message that the activator answers. -/
def intercepts (c : Connection) (tag : UInt8) (total : Nat) : Bool :=
  c.isIdle && tag == msgQuery &&
    match extractSimpleQuery (c.recvBuf.take total) with
    | some query => isHealthCheckQuery query
    | none => false

/-- An intercepted message is not empty, so as many rounds as there are bytes are enough. -/
def drainClientProxying (t : Target) : Nat → Connection → Connection × List ConnAction
  | 0,c => (c,[])
  | fuel + 1,c =>
    if c.recvBuf.isEmpty then (c,[])
    else
      match parseTaggedMessage t c.recvBuf with
      | none => (c,[])
      | some (tag,total) =>
        if c.intercepts tag total then
          let (c,actions) := drainClientProxying t fuel { c with recvBuf := c.recvBuf.drop total }
          (c,.downstreamSend buildSelect1Response :: actions)
        else ({ c with recvBuf := [] },[.upstreamSend c.recvBuf])

/-- Every startup message has at least eight bytes. -/
def tryParseStartup : Nat → Connection → Connection × List ConnAction
  | 0,c => (c,[])
  | fuel + 1,c =>
    match parseStartupMessage c.recvBuf with
    | none => (c,[])
    | some (.sslRequest,consumed) =>
      let (c,actions) := tryParseStartup fuel
        { c with recvBuf := c.recvBuf.drop consumed, phase := .sslNegotiation }
      (c,.downstreamSend [0x4e] :: actions)
    | some (.startup raw,consumed) =>
      ({ c with
          recvBuf := []
          bufferedData := c.bufferedData ++ raw ++ c.recvBuf.drop consumed
          phase := .startup },[])

/-- What one message of the backend says about the transaction. -/
def observe (c : Connection) (tag : UInt8) (total : Nat) : Connection :=
  if tag = msgReadyForQuery then
    match parseReadyForQueryStatus (c.upstreamRecvBuf.take total) with
    | some status => { c with lastTxnStatus := some status, authComplete := true }
    | none => c
  else c

/-- The loop of `scan_upstream_for_ready`. If it is still going after as many rounds as there are
bytes, a message had size zero and it goes on forever. -/
def scanLoop (t : Target) : Nat → Connection → Option Connection
  | fuel,c =>
    match parseTaggedMessage t c.upstreamRecvBuf with
    | none => some c
    | some (tag,total) =>
      match fuel with
      | 0 => none
      | fuel + 1 =>
        scanLoop t fuel { c.observe tag total with upstreamRecvBuf := c.upstreamRecvBuf.drop total }

def scanUpstreamForReady (t : Target) (c : Connection) (data : List UInt8) : Option Connection :=
  let c := { c with upstreamRecvBuf := c.upstreamRecvBuf ++ data }
  scanLoop t c.upstreamRecvBuf.length c

def onClientData (t : Target) (c : Connection) (data : List UInt8) :
    Connection × List ConnAction :=
  match c.phase with
  | .awaitingStartup | .sslNegotiation =>
    let c := { c with recvBuf := c.recvBuf ++ data }
    tryParseStartup c.recvBuf.length c
  | .startup => ({ c with bufferedData := c.bufferedData ++ data },[])
  | .proxying =>
    if c.isIdle then
      let c := { c with recvBuf := c.recvBuf ++ data }
      drainClientProxying t c.recvBuf.length c
    else (c,[.upstreamSend data])
  | .closing => (c,[])

def onUpstreamConnected (c : Connection) : Connection × List ConnAction :=
  if c.phase ≠ .startup then (c,[])
  else
    let c := { c with phase := .proxying }
    if c.bufferedData.isEmpty then (c,[])
    else ({ c with bufferedData := [] },[.upstreamSend c.bufferedData])

def onUpstreamData (t : Target) (c : Connection) (data : List UInt8) :
    Option (Connection × List ConnAction) :=
  if c.phase = .closing then some (c,[])
  else (c.scanUpstreamForReady t data).map (·,[.downstreamSend data])

def onUpstreamClosed (c : Connection) : Connection × List ConnAction :=
  if c.phase ≠ .closing then ({ c with phase := .closing },[.downstreamClose]) else (c,[])

def onUpstreamFailed (c : Connection) : Connection × List ConnAction :=
  if c.phase ≠ .closing then ({ c with phase := .closing },[.downstreamClose]) else (c,[])

end Connection

inductive ConnEvent
  | clientData (data : List UInt8)
  | upstreamConnected
  | upstreamData (data : List UInt8)
  | upstreamClosed
  | upstreamFailed
deriving DecidableEq

/-- One call of the connection, if it returns. -/
def Connection.step (t : Target) (c : Connection) : ConnEvent → Option (Connection × List ConnAction)
  | .clientData data => some (c.onClientData t data)
  | .upstreamConnected => some c.onUpstreamConnected
  | .upstreamData data => c.onUpstreamData t data
  | .upstreamClosed => some c.onUpstreamClosed
  | .upstreamFailed => some c.onUpstreamFailed

/-- The bytes that actions send to the backend. -/
def upstreamBytes (actions : List ConnAction) : List UInt8 :=
  actions.flatMap (fun
    | .upstreamSend data => data
    | _ => [])

/-- The answers that the activator gives itself. -/
def answers (actions : List ConnAction) : Nat :=
  actions.count (.downstreamSend buildSelect1Response)

/-- A connection with all that has passed through it: what the client and the backend sent, what
was forwarded to the backend, and how many queries the activator answered. -/
structure Session where
  conn : Connection := .new
  client : List UInt8 := []
  backend : List UInt8 := []
  sent : List UInt8 := []
  answered : Nat := 0

namespace Session

def step (t : Target) (s : Session) (ev : ConnEvent) : Option Session :=
  (s.conn.step t ev).map fun (conn,actions) =>
    match ev with
    | .clientData data =>
      { s with
        conn
        client := s.client ++ data
        sent := s.sent ++ upstreamBytes actions
        answered := s.answered + answers actions }
    | .upstreamData data => { s with conn, backend := s.backend ++ data }
    | _ => { s with conn, sent := s.sent ++ upstreamBytes actions }

def run (t : Target) (s : Session) (events : List ConnEvent) : Option Session :=
  Runs.run (step t) s events

end Session

end Distvirt.Postgres
