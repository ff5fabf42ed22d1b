import Distvirt.SmRouter.Router

/-! The induction rule for a propagation. -/

namespace Distvirt.SmRouter

namespace Router

variable {T : Topology} {r r' : Router T}

/-- A property of the router at each stage of a round. Each stage takes the list of what it has
still to process: `create` the machines, `wave` the dirty inputs, `event` the events. -/
structure Stages (T : Topology) where
  rest : Router T → Prop
  create : List T.PendingCreate → Router T → Prop
  wave : List (T.Input × Nat) → Router T → Prop
  event : List T.PendingEvent → Router T → Prop

/-- What has to be shown of the stages: each step of a stage keeps its property, and each stage
hands over to the next. -/
structure Stages.Kept (I : Stages T) : Prop where
  begin : ∀ r, I.rest r → I.create r.pendingCreates { r with pendingCreates := [] }
  again : ∀ r, I.create [] r → I.create r.pendingCreates { r with pendingCreates := [] }
  materialize : ∀ c todo r r', I.create (c :: todo) r → r.materializeOne c = some r' →
    I.create todo r'
  created : ∀ r, I.create [] r → r.pendingCreates = [] →
    I.wave (dedupWave [] r.dirty) { r with dirty := [] }
  deliver : ∀ x todo r, I.wave (x :: todo) r → I.wave todo (r.processDirtyInput x)
  delivered : ∀ r, I.wave [] r → I.event r.pendingEvents { r with pendingEvents := [] }
  send : ∀ ev todo r r', I.event (ev :: todo) r → r.processEvent ev = some r' → I.event todo r'
  sent : ∀ r, I.event [] r → I.rest r

/-- The second property is kept as long as the first holds. -/
structure Stages.KeptUnder (I J : Stages T) : Prop where
  begin : ∀ r, I.rest r → J.rest r → J.create r.pendingCreates { r with pendingCreates := [] }
  again : ∀ r, I.create [] r → J.create [] r →
    J.create r.pendingCreates { r with pendingCreates := [] }
  materialize : ∀ c todo r r', I.create (c :: todo) r → J.create (c :: todo) r →
    r.materializeOne c = some r' → J.create todo r'
  created : ∀ r, I.create [] r → J.create [] r → r.pendingCreates = [] →
    J.wave (dedupWave [] r.dirty) { r with dirty := [] }
  deliver : ∀ x todo r, I.wave (x :: todo) r → J.wave (x :: todo) r →
    J.wave todo (r.processDirtyInput x)
  delivered : ∀ r, I.wave [] r → J.wave [] r →
    J.event r.pendingEvents { r with pendingEvents := [] }
  send : ∀ ev todo r r', I.event (ev :: todo) r → J.event (ev :: todo) r →
    r.processEvent ev = some r' → J.event todo r'
  sent : ∀ r, I.event [] r → J.event [] r → J.rest r

def Stages.and (I J : Stages T) : Stages T where
  rest r := I.rest r ∧ J.rest r
  create todo r := I.create todo r ∧ J.create todo r
  wave todo r := I.wave todo r ∧ J.wave todo r
  event todo r := I.event todo r ∧ J.event todo r

variable {I : Stages T}

theorem Stages.Kept.and (h : I.Kept) (h' : I.KeptUnder J) : (I.and J).Kept where
  begin r hr := ⟨h.begin r hr.1,h'.begin r hr.1 hr.2⟩
  again r hr := ⟨h.again r hr.1,h'.again r hr.1 hr.2⟩
  materialize c todo r r' hc hr := ⟨h.materialize c todo r r' hc.1 hr,
    h'.materialize c todo r r' hc.1 hc.2 hr⟩
  created r hc he := ⟨h.created r hc.1 he,h'.created r hc.1 hc.2 he⟩
  deliver x todo r hw := ⟨h.deliver x todo r hw.1,h'.deliver x todo r hw.1 hw.2⟩
  delivered r hw := ⟨h.delivered r hw.1,h'.delivered r hw.1 hw.2⟩
  send ev todo r r' he hr := ⟨h.send ev todo r r' he.1 hr,h'.send ev todo r r' he.1 he.2 hr⟩
  sent r he := ⟨h.sent r he.1,h'.sent r he.1 he.2⟩

namespace Stages.Kept

theorem materialize_list (h : I.Kept) (todo : List T.PendingCreate) (hc : I.create todo r)
    (hr : todo.foldlM materializeOne r = some r') : I.create [] r' := by
  induction todo generalizing r with
  | nil => cases hr; exact hc
  | cons c todo ih =>
    simp only [List.foldlM_cons] at hr
    cases hm : r.materializeOne c with
    | none => simp [hm] at hr
    | some r₁ =>
      rw [hm] at hr
      exact ih (h.materialize c todo r r₁ hc hm) hr

theorem materialize_all (h : I.Kept) (fuel : Nat)
    (hc : I.create r.pendingCreates { r with pendingCreates := [] })
    (hr : Router.materialize fuel r = some r') : I.create [] r' ∧ r'.pendingCreates = [] := by
  induction fuel generalizing r with
  | zero =>
    unfold Router.materialize at hr
    split at hr
    · rename_i he
      cases hr
      rw [he] at hc
      exact ⟨by rw [← he] at hc; exact he ▸ hc,he⟩
    · cases hr
  | succ fuel ih =>
    unfold Router.materialize at hr
    split at hr
    · rename_i he
      cases hr
      exact ⟨by rw [← he] at hc; exact he ▸ hc,he⟩
    · simp only at hr
      cases hm : r.pendingCreates.foldlM materializeOne { r with pendingCreates := [] } with
      | none => simp [hm] at hr
      | some r₁ =>
        rw [hm] at hr
        exact ih (h.again _ (h.materialize_list _ hc hm)) hr

theorem deliver_list (h : I.Kept) (todo : List (T.Input × Nat)) (hw : I.wave todo r) :
    I.wave [] (todo.foldl processDirtyInput r) := by
  induction todo generalizing r with
  | nil => exact hw
  | cons x todo ih => exact ih (h.deliver x todo r hw)

theorem send_list (h : I.Kept) (todo : List T.PendingEvent) (he : I.event todo r)
    (hr : todo.foldlM Router.processEvent r = some r') : I.event [] r' := by
  induction todo generalizing r with
  | nil => cases hr; exact he
  | cons ev todo ih =>
    simp only [List.foldlM_cons] at hr
    cases hm : r.processEvent ev with
    | none => simp [hm] at hr
    | some r₁ =>
      rw [hm] at hr
      exact ih (h.send ev todo r r₁ he hm) hr

theorem round (h : I.Kept) (hi : I.rest r) (hr : r.round = some r') : I.rest r' := by
  unfold Router.round at hr
  cases hm : Router.materialize T.createDepth r with
  | none => simp [hm] at hr
  | some r₁ =>
    rw [hm] at hr
    obtain ⟨hc,he⟩ := h.materialize_all T.createDepth (h.begin r hi) hm
    have hw := h.deliver_list _ (h.created r₁ hc he)
    exact h.sent _ (h.send_list _ (h.delivered _ hw) hr)

theorem rounds (h : I.Kept) (fuel : Nat) (hi : I.rest r) (hr : Router.rounds fuel r = some r') :
    I.rest r' ∧ r'.Quiescent := by
  induction fuel generalizing r with
  | zero =>
    unfold Router.rounds at hr
    split at hr
    · cases hr
      exact ⟨hi,‹_›⟩
    · cases hr
  | succ fuel ih =>
    unfold Router.rounds at hr
    split at hr
    · cases hr
      exact ⟨hi,‹_›⟩
    · simp only at hr
      cases hm : r.round with
      | none => simp [hm] at hr
      | some r₁ =>
        rw [hm] at hr
        exact ih (h.round hi hm) hr

/-- What the stages keep holds when the propagation comes to rest. -/
theorem propagate (h : I.Kept) (hi : I.rest r) (hr : r.propagate = some r') :
    I.rest r' ∧ r'.Quiescent := h.rounds _ hi hr

end Stages.Kept

end Router

end Distvirt.SmRouter
