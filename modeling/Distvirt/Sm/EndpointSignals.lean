import Distvirt.Runs
import Distvirt.Sm.Endpoint

/-! What an endpoint has published, under any inputs. -/

namespace Distvirt

open EndpointTurn

/-- An endpoint with the signals it last set. -/
structure EndpointSignals where
  ep : EndpointSm
  demand : Bool := false
  status : EndpointStatus := .idle
  info : Option EndpointInfo := none
  wantedTimers : List (TimerRequest EndpointTimerKey) := []

namespace EndpointSignals

def publish (l : EndpointSignals) (t : EndpointTurn) : EndpointSignals :=
  { ep := t.toEndpointSm
    demand := t.setDemand.getD l.demand
    status := t.setStatus.getD l.status
    info := t.setEndpointInfo.getD l.info
    wantedTimers := t.setWantedTimers.getD l.wantedTimers }

def create (hasActivation : Bool) : EndpointSignals :=
  let ep := EndpointSm.new hasActivation
  publish { ep } ep.begin.onInit

def step (l : EndpointSignals) (input : EndpointInput) : EndpointSignals :=
  l.publish (l.ep.begin.handle input)

/-- Computing the signals again changes nothing, and demand that no activity explains has a timer
that ends it. -/
structure Current (l : EndpointSignals) : Prop where
  state : l.ep.state = l.ep.derivedState
  demand : l.demand = l.ep.computeDemand
  status : l.status = l.ep.status
  info : l.info = l.ep.endpointInfo
  timers : l.wantedTimers = l.ep.wantedTimers
  activated : l.wantedTimers ≠ [] → l.ep.hasActivation = true
  ends : l.ep.hasActivation = true → l.demand = true → l.ep.activeLevel = false →
    l.wantedTimers ≠ []

/-- The idle timeout does not change while the idle timer runs. -/
def Steady (l : EndpointSignals) : EndpointInput → Prop
  | .configInput (some config) => l.ep.idleTimerActive = true → config.hasActivation = true →
    config.idleTimeout = l.ep.idleTimeout
  | _ => True

variable {l : EndpointSignals} {e : EndpointSm}

theorem wantedTimers_ne_nil : e.wantedTimers ≠ [] ↔ e.idleTimerActive = true := by
  unfold EndpointSm.wantedTimers
  split <;> simp_all

/-- Only the timers are left to what the input's handler does. -/
theorem Current.turned {t : EndpointTurn}
    (hguard : t.idleTimerActive = true → t.hasActivation = true)
    (htimers : t.setWantedTimers.getD l.wantedTimers = t.wantedTimers) :
    (l.publish t.publish).Current := by
  have htimers' : (l.publish t.publish).wantedTimers = t.wantedTimers := htimers
  refine ⟨rfl,rfl,rfl,rfl,htimers,fun h => ?_,fun ha hd hl => ?_⟩
  · exact hguard (wantedTimers_ne_nil.mp (htimers' ▸ h))
  · have hidle : (t.activeLevel || t.idleTimerActive) = true := (if_pos ha).symm.trans hd
    rw [show t.activeLevel = false from hl,Bool.false_or] at hidle
    exact htimers' ▸ wantedTimers_ne_nil.mpr hidle

/-- Without activation the idle timer does not run. -/
theorem Current.guard (h : l.Current) : l.ep.idleTimerActive = true → l.ep.hasActivation = true :=
  fun hidle => h.activated (h.timers ▸ wantedTimers_ne_nil.mpr hidle)

theorem current_config (h : l.Current) (config : EndpointConfig) :
    (l.step (.configInput (some config))).Current ↔ l.Steady (.configInput (some config)) := by
  unfold step handle dispatch handleConfig
  dsimp only
  split
  · rename_i hstop
    have hno : config.hasActivation = false := by simpa using (Bool.and_eq_true_iff.mp hstop).2
    refine iff_of_true (.turned (fun hidle => ?_) rfl) (fun _ hactive => ?_)
    · cases hidle
    · cases hno.symm.trans hactive
  · rename_i hrun
    have hguard : l.ep.idleTimerActive = true → config.hasActivation = true := by
      simpa [EndpointSm.begin] using hrun
    constructor
    · intro hcurrent hidle _
      have htimers : l.wantedTimers =
          EndpointSm.wantedTimers { l.ep with idleTimeout := config.idleTimeout } := hcurrent.timers
      rw [h.timers] at htimers
      simpa [EndpointSm.wantedTimers,hidle,eq_comm] using htimers
    · intro hsteady
      refine .turned hguard (h.timers.trans ?_)
      cases hidle : l.ep.idleTimerActive with
      | false => simp [EndpointSm.wantedTimers,EndpointSm.begin,hidle]
      | true =>
        simp [EndpointSm.wantedTimers,EndpointSm.begin,hidle,hsteady hidle (hguard hidle)]

theorem current_step (h : l.Current) (input : EndpointInput) :
    (l.step input).Current ↔ l.Steady input := by
  cases input with
  | configInput config =>
    cases config with
    | none => exact iff_of_true (.turned h.guard h.timers) trivial
    | some config => exact current_config h config
  | readinessInput readiness => exact iff_of_true (.turned h.guard h.timers) trivial
  | placementInput placement => exact iff_of_true (.turned h.guard h.timers) trivial
  | activateEndpoint active => exact iff_of_true (.turned h.guard h.timers) trivial
  | backendNeedInput need =>
    refine iff_of_true ?_ trivial
    unfold step handle dispatch handleActivate
    dsimp only
    split
    · exact .turned (fun hidle => by cases hidle) rfl
    · exact .turned h.guard h.timers
  | endpointTimerFired key =>
    refine iff_of_true ?_ trivial
    unfold step handle dispatch handleTimerFired
    dsimp only
    split
    · exact .turned (fun hidle => by cases hidle) rfl
    · exact .turned h.guard h.timers
  | endpointDemandTraffic =>
    refine iff_of_true ?_ trivial
    unfold step handle dispatch handleTrafficEvent
    dsimp only
    split
    · rename_i hactive
      exact .turned (fun _ => hactive) rfl
    · exact .turned h.guard h.timers

/-- All signals are those of the present fields after every input, exactly when no configuration
changes the idle timeout while the idle timer runs. -/
theorem signals_current_iff (hasActivation : Bool) (inputs : List EndpointInput) :
    (∀ n, ((inputs.take n).foldl step (create hasActivation)).Current) ↔
      Runs.Along (fun l input => some (l.step input)) Steady (create hasActivation) inputs := by
  have hinit : (create hasActivation).Current := .turned (fun h => by cases h) rfl
  exact Runs.along_iff (I := Current) (fun l input h => current_step h input) hinit inputs

/-- The timer keeps the timeout that the endpoint had when it started. -/
theorem timer_keeps_old_timeout :
    let config : EndpointConfig := ⟨.workload,1,true,10,0,none⟩
    let l := [.configInput (some config),.endpointDemandTraffic,
      .configInput (some { config with idleTimeout := 20 })].foldl step (create true)
    l.wantedTimers = [⟨.idleTimeout,1,10⟩] ∧ l.ep.wantedTimers = [⟨.idleTimeout,1,20⟩] := by
  decide

end EndpointSignals

end Distvirt
