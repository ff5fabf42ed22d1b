import Distvirt.Worker.Routes

/-! Which addresses an endpoint table reaches, and how frames for the others are buffered. -/

namespace Distvirt.Worker

variable {K : Parts}

def Route.isReachable : Route → Bool
  | .localPod portId => portId.isSome
  | .remoteSegment _ | .localAdapter _ => true
  | _ => false

namespace EndpointTable

theorem isReachable_route (b : EndpointBackend K) : b.isReachable = b.route.isReachable := by
  cases b <;> rfl

def isReady (t : EndpointTable K) (ip : Nat) : Bool :=
  ((t.byIp.lookup ip).map (fun ep => decide (ep.state = .ready))).getD false

/-- Whether frames sent to the address now are passed on, here or to another worker. -/
def isReachable (t : EndpointTable K) (ip : Nat) : Bool :=
  match t.route ip with
  | some (.service _ (some backendIp)) =>
    t.isReady ip && backendIp ≠ ip && ((t.route backendIp).map Route.isReachable).getD false
  | some r => r.isReachable
  | none => false

/-- The policy by which frames for the address are buffered. -/
def bufferPolicy (t : EndpointTable K) (ip : Nat) : Option BufferPolicy :=
  (t.byIp.lookup ip).bind fun ep =>
    match ep.backend with
    | .service _ policy _ _ => some ⟨policy.bufferFrames,policy.timeoutMs⟩
    | .unplacedPod policy => some policy
    | .localPod none => some podPolicy
    | _ => none

end EndpointTable

end Distvirt.Worker
