import Mathlib.Data.Option.Basic

/-! Runs of a machine that takes one event at a time and may stop. -/

namespace Distvirt.Runs

variable {S E : Type} (step : S → E → Option S)

def run (s : S) (events : List E) : Option S := events.foldlM step s

/-- Every event of a run finds a state that allows it. -/
def Along (allowed : S → E → Prop) : S → List E → Prop
  | _,[] => True
  | s,ev :: events => allowed s ev ∧
    match step s ev with
    | some s' => Along allowed s' events
    | none => True

instance decidableAlong {allowed : S → E → Prop} [∀ s ev, Decidable (allowed s ev)] :
    (s : S) → (events : List E) → Decidable (Along step allowed s events)
  | _,[] => isTrue trivial
  | s,ev :: events =>
    have : Decidable (match step s ev with
        | some s' => Along step allowed s' events
        | none => True) :=
      match step s ev with
      | some s' => decidableAlong s' events
      | none => isTrue trivial
    inferInstanceAs (Decidable (_ ∧ _))

variable {step} {I : S → Prop} {events : List E}

theorem Along.tail (h : Along step allowed s (ev :: events)) (hs : step s ev = some s') :
    Along step allowed s' events := by
  have hrest := h.2
  rwa [hs] at hrest

theorem Along.cons (h : allowed s ev) (hrest : ∀ s', step s ev = some s' → Along step allowed s' events) :
    Along step allowed s (ev :: events) := by
  refine ⟨h,?_⟩
  cases hs : step s ev with
  | none => trivial
  | some s' => exact hrest s' hs

theorem run_cons : run step s (ev :: events) = (step s ev).bind (run step · events) := rfl

/-- A machine that never stops. -/
theorem run_some (f : S → E → S) (s : S) (events : List E) :
    run (fun s ev => some (f s ev)) s events = some (events.foldl f s) := by
  induction events generalizing s with
  | nil => rfl
  | cons ev events ih => exact ih (f s ev)

theorem run_append : run step s (events ++ more) = (run step s events).bind (run step · more) :=
  List.foldlM_append

theorem along_of_forall (h : ∀ ev ∈ events, ∀ s, allowed s ev) (s : S) :
    Along step allowed s events := by
  induction events generalizing s with
  | nil => trivial
  | cons ev events ih =>
    exact .cons (h ev List.mem_cons_self s)
      (fun s' _ => ih (fun ev hev => h ev (List.mem_cons_of_mem _ hev)) s')

theorem Along.append (h : Along step allowed s (events ++ more)) (hr : run step s events = some s') :
    Along step allowed s events ∧ Along step allowed s' more := by
  induction events generalizing s with
  | nil =>
    cases hr
    exact ⟨trivial,h⟩
  | cons ev events ih =>
    obtain ⟨mid,hmid,hr⟩ := Option.bind_eq_some_iff.mp hr
    obtain ⟨hbefore,hafter⟩ := ih (h.tail hmid) hr
    refine ⟨.cons h.1 (fun s' hs' => ?_),hafter⟩
    rwa [← Option.some.inj (hmid.symm.trans hs')]

/-- What every allowed step keeps, a run of allowed steps keeps. -/
theorem Along.keeps (h : Along step allowed s events)
    (hstep : ∀ s ev s', I s → allowed s ev → step s ev = some s' → I s') (hs : I s)
    (hr : run step s events = some s') : I s' := by
  induction events generalizing s with
  | nil =>
    cases hr
    exact hs
  | cons ev events ih =>
    obtain ⟨mid,hmid,hr⟩ := Option.bind_eq_some_iff.mp hr
    exact ih (h.tail hmid) (hstep s ev mid hs h.1 hmid) hr

theorem run_keeps (hstep : ∀ s ev s', I s → step s ev = some s' → I s') (hs : I s)
    (hr : run step s events = some s') : I s' := by
  induction events generalizing s with
  | nil =>
    cases hr
    exact hs
  | cons ev events ih =>
    obtain ⟨mid,hmid,hr⟩ := Option.bind_eq_some_iff.mp hr
    exact ih (hstep s ev mid hs hmid) hr

/-- Where exactly the allowed steps keep a property, it holds all the way along exactly the allowed
runs. -/
theorem along_iff (hstep : ∀ s ev, I s → (I (f s ev) ↔ allowed s ev)) (hs : I s) (events : List E) :
    (∀ n, I ((events.take n).foldl f s)) ↔ Along (fun s ev => some (f s ev)) allowed s events := by
  induction events generalizing s with
  | nil => simp [hs,Along]
  | cons ev events ih =>
    constructor
    · intro hall
      have hnext : I (f s ev) := by simpa using hall 1
      exact ⟨(hstep s ev hs).mp hnext,(ih hnext).mp (fun n => hall (n + 1))⟩
    · intro h n
      have hnext := (hstep s ev hs).mpr h.1
      cases n with
      | zero => exact hs
      | succ n => exact (ih hnext).mpr h.2 n

end Distvirt.Runs
