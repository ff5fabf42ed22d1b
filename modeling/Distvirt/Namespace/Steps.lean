import Distvirt.Namespace.Apply
import Distvirt.Runs

/-! A step writes to the router and then runs a cycle. The rules here split a proof about steps
accordingly. -/

namespace Distvirt
open Std (ExtTreeMap)

/-- What holds of a result, and of a fault. -/
def Outcome {α : Type} (P : α → Prop) (E : Fault → Prop) : Except Fault α → Prop
  | .ok a => P a
  | .error f => E f

namespace Outcome

variable {E : Fault → Prop} {x : Except Fault α}

theorem imp (h : Outcome P E x) (hp : ∀ a, P a → P' a) : Outcome P' E x := by
  cases x with
  | ok a => exact hp a h
  | error f => exact h

theorem bind (h : Outcome P E x) (hf : ∀ a, P a → Outcome Q E (f a)) : Outcome Q E (x >>= f) := by
  cases x with
  | ok a => exact hf a h
  | error f => exact h

theorem map (h : Outcome P E x) (hg : ∀ a, P a → Q (g a)) : Outcome Q E (x.map g) := by
  cases x with
  | ok a => exact hg a h
  | error f => exact h

theorem of_ok (h : Outcome P E x) (hx : x = .ok a) : P a := by
  subst hx
  exact h

theorem and (h : Outcome P E x) (h' : Outcome P' E x) : Outcome (fun a => P a ∧ P' a) E x := by
  cases x with
  | ok a => exact ⟨h,h'⟩
  | error f => exact h

theorem of_error (h : Outcome P E x) {f : Fault} (hx : x = .error f) : E f := by
  subst hx
  exact h

/-- An invariant along the rest of a list. -/
theorem foldlM {I : List γ → α → Prop}
    (hstep : ∀ x rest a, I (x :: rest) a → Outcome (I rest) E (step a x)) :
    ∀ (l : List γ) (a : α), I l a → Outcome (I []) E (l.foldlM step a) := by
  intro l
  induction l with
  | nil => exact fun a h => h
  | cons x rest ih =>
    intro a h
    rw [List.foldlM_cons]
    exact (hstep x rest a h).bind ih

end Outcome

namespace Namespace

variable {ns ns' : Namespace} {effects : NamespaceEffects} {fuel : Nat} {E : Fault → Prop}

/-- The spec change up to the cycle. -/
def withSpec (ns : Namespace) (spec : NamespaceSpec) : Namespace :=
  let (management,router) :=
    ManagementAdapter.applyNamespaceSpec (ns.management,ns.router) ns.currentSpec spec
  { ns with management, router, currentSpec := some spec }

/-- What a step does before its cycle; a rejected spec change has none. -/
def pushOp (ns : Namespace) : Op → Except Fault (Except Namespace (Namespace × NamespaceEffects))
  | .event event => (ns.pushEvent {} event).map .ok
  | .timer identity => .ok (.ok ({ ns with router := identity.fire ns.router },{}))
  | .fullSpec input =>
    match ns.withRequests (removedKeys ns.currentSpec input) input.workloads input.services with
    | (.error _,ns) => .ok (.error ns)
    | (.ok (ws,ss),ns) =>
      .ok (.ok (ns.withSpec ⟨input.network,.ofList ws,.ofList ss⟩,{}))
  | .patch input =>
    match ns.currentSpec with
    | none => .ok (.error ns)
    | some current =>
      match ns.withRequests (patchRemovedKeys input) input.workloads input.services with
      | (.error _,ns) => .ok (.error ns)
      | (.ok (ws,ss),ns) =>
        .ok (.ok (ns.withSpec
          { network := current.network
            workloads := ws.foldl (fun m e => m.insert e.1 e.2)
              (input.removeWorkloads.foldl ExtTreeMap.erase current.workloads)
            services := ss.foldl (fun m e => m.insert e.1 e.2)
              (input.removeServices.foldl ExtTreeMap.erase current.services) },{}))

/-- What a step does before its cycle, by the kind of the step. -/
theorem pushOp_rule
    (hevent : ∀ event, op = .event event → Outcome (fun r => P (.ok r)) E (ns.pushEvent {} event))
    (htimer : ∀ identity : TimerIdentity,
      P (.ok ({ ns with router := identity.fire ns.router },{}))) (hkept : P (.error ns))
    (hspec : ∀ rel workloads services,
      P (.error (ns.withRequests rel workloads services).2) ∧
        ∀ spec, P (.ok ((ns.withRequests rel workloads services).2.withSpec spec,{}))) :
    Outcome P E (ns.pushOp op) := by
  cases op with
  | event event => exact (hevent event rfl).map (fun _ h => h)
  | timer identity => exact htimer identity
  | fullSpec input =>
    have h := hspec (removedKeys ns.currentSpec input) input.workloads input.services
    simp only [pushOp]
    split
    all_goals
      rename_i heq
      rw [heq] at h
    · exact h.1
    · exact h.2 _
  | patch input =>
    simp only [pushOp]
    split
    · exact hkept
    · have h := hspec (patchRemovedKeys input) input.workloads input.services
      split
      all_goals
        rename_i heq
        rw [heq] at h
      · exact h.1
      · exact h.2 _

theorem installSpec_map (spec : NamespaceSpec) :
    (ns.installSpec fuel spec).map ofApplied = (ns.withSpec spec).runCycle fuel {} := by
  have heq : ns.installSpec fuel spec = ((ns.withSpec spec).runCycle fuel {}).map
      (fun r => (.ok (r.2,r.1.ipAllocator.fullSnapshot),r.1)) := by
    simp only [installSpec,withSpec,bind,Except.bind,pure,Except.pure,Except.map]
  rw [heq]
  cases (ns.withSpec spec).runCycle fuel {} with
  | ok r => rfl
  | error f => rfl

theorem step_eq (op : Op) : ns.step fuel op = ns.pushOp op >>= fun
    | .error ns' => .ok (ns',{})
    | .ok (ns',effects) => ns'.runCycle fuel effects := by
  cases op with
  | event event =>
    simp only [step,processEvent,pushOp]
    cases ns.pushEvent {} event with
    | ok r => rfl
    | error f => rfl
  | timer identity => rfl
  | fullSpec input =>
    simp only [step,applyFullSpec,pushOp]
    cases ns.withRequests (removedKeys ns.currentSpec input) input.workloads input.services with
    | mk res ns₁ =>
      cases res with
      | error err => rfl
      | ok specs => exact installSpec_map _
  | patch input =>
    simp only [step,applyPatch,pushOp]
    cases ns.currentSpec with
    | none => rfl
    | some current =>
      simp only
      cases ns.withRequests (patchRemovedKeys input) input.workloads input.services with
      | mk res ns₁ =>
        cases res with
        | error err => rfl
        | ok specs => exact installSpec_map _

section cycle
variable {A B D : Namespace → NamespaceEffects → Prop}

/-- `A` before a propagation, `B` after it, `D` when there is nothing left to propagate. -/
structure Rule (A B D : Namespace → NamespaceEffects → Prop) (E : Fault → Prop) : Prop where
  propagate : ∀ ns effects, A ns effects → Outcome (B · effects) E ns.propagate
  settle : ∀ ns effects, B ns effects → Outcome
    (fun r => if r.1 then A r.2.1 r.2.2 else D r.2.1 r.2.2) E (ns.settleOnce effects)
  fuel : E .outOfFuel

theorem Rule.reconcileLoop (h : Rule A B D E) : ∀ (fuel : Nat) ns effects, B ns effects →
    Outcome (fun r => D r.1 r.2) E (reconcileLoop fuel ns effects) := by
  intro fuel
  induction fuel with
  | zero => exact fun _ _ _ => h.fuel
  | succ fuel ih =>
    intro ns effects hb
    refine (h.settle ns effects hb).bind (fun r hr => ?_)
    obtain ⟨mutated,ns',effects'⟩ := r
    cases mutated with
    | true => exact (h.propagate ns' effects' hr).bind (fun ns'' hb' => ih ns'' effects' hb')
    | false => exact hr

theorem Rule.runCycle (h : Rule A B D E) {P : Namespace → NamespaceEffects → Prop}
    (hd : ∀ ns effects, D ns effects → P (ns.finalize effects).1 (ns.finalize effects).2)
    (ha : A ns effects) : Outcome (fun r => P r.1 r.2) E (ns.runCycle fuel effects) := by
  refine (h.propagate ns effects ha).bind (fun ns' hb => ?_)
  refine (h.reconcileLoop fuel ns' effects hb).bind (fun r hr => ?_)
  exact hd r.1 r.2 hr

end cycle

/-- Every step of the run is allowed in the state it is taken in. -/
abbrev Along (allowed : Namespace → Op → Prop) (fuel : Nat) : Namespace → List Op → Prop :=
  Runs.Along (fun ns op => (ns.step fuel op).toOption.map Prod.fst) allowed

/-- What an allowed step keeps of the state and of the effects so far, a run of allowed steps
keeps. -/
theorem Along.history {I : List NamespaceEffects → Namespace → Prop}
    (hstep : ∀ done ns op, I done ns → allowed ns op →
      Outcome (fun r => I (done ++ [r.2]) r.1) E (ns.step fuel op)) :
    ∀ (ops : List Op) (done : List NamespaceEffects) (ns : Namespace), I done ns →
      Along allowed fuel ns ops → Outcome (fun r => I (done ++ r.2) r.1) E (ns.run fuel ops) := by
  intro ops
  induction ops with
  | nil =>
    intro done ns h _
    exact (congrArg (I · ns) (List.append_nil done)).mpr h
  | cons op ops ih =>
    intro done ns h hall
    have kept := hstep done ns op h hall.1
    unfold Namespace.run
    cases hs : ns.step fuel op with
    | error f => exact kept.of_error hs
    | ok r =>
      have rest := hall.tail (by simp only [hs]; rfl)
      refine (ih (done ++ [r.2]) r.1 (kept.of_ok hs) rest).bind (fun r' hr' => ?_)
      rw [List.append_assoc] at hr'
      exact hr'

/-- What an allowed step keeps, a run of allowed steps keeps. -/
theorem Along.run {I : Namespace → Prop}
    (hstep : ∀ ns op, I ns → allowed ns op → Outcome (fun r => I r.1) E (ns.step fuel op))
    (ops : List Op) (ns : Namespace) (h : I ns) (hall : Along allowed fuel ns ops) :
    Outcome (fun r => I r.1) E (ns.run fuel ops) :=
  Along.history (I := fun _ => I) (fun _ => hstep) ops [] ns h hall

end Namespace

end Distvirt
