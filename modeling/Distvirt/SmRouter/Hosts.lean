import Distvirt.SmRouter.Writes

/-! Which ports there are is up to external code: a propagation neither creates nor destroys one,
and it queues inputs for live ports only. -/

namespace Distvirt.SmRouter

namespace Router

variable {T : Topology} [T.PortFed] {S : T.Port → Nat → Prop} {r r' : Router T} {p : T.Port}
  {id : Nat}

/-- All live ports, and all ports that an input is queued for, are of the set. -/
structure Hosted (S : T.Port → Nat → Prop) (r : Router T) : Prop where
  ports : ∀ p id, r.ports p id = true → S p id
  queue : ∀ q ∈ r.queue, S (T.incPort q.2.1) q.1

theorem Hosted.mono (h : r.Hosted S) (hS : ∀ p id, S p id → S' p id) : r.Hosted S' :=
  ⟨fun p id hp => hS p id (h.ports p id hp),fun q hq => hS _ _ (h.queue q hq)⟩

/-- The ports and what is queued for them are the same. -/
def SameQueue (r r' : Router T) : Prop := r'.ports = r.ports ∧ r'.queue = r.queue

theorem Hosted.same (h : r.Hosted S) (hr : SameQueue r r') : r'.Hosted S :=
  ⟨by rw [hr.1]; exact h.ports,by rw [hr.2]; exact h.queue⟩

omit [T.PortFed] in
theorem SameQueue.trans (h : SameQueue r r') (h' : SameQueue r' r'') :
    SameQueue r r'' := ⟨h'.1.trans h.1,h'.2.trans h.2⟩

omit [T.PortFed] in
theorem SameQueue.foldl {α : Type} {f : Router T → α → Router T} (hf : ∀ r a, SameQueue r (f r a)) :
    ∀ (l : List α) (r : Router T), SameQueue r (l.foldl f r) := by
  intro l
  induction l with
  | nil => exact fun _ => ⟨rfl,rfl⟩
  | cons a l ih => exact fun r => (hf r a).trans (ih _)

omit [T.PortFed] in
theorem sameQueue_setSignal : SameQueue r (r.setSignal s id value) :=
  ⟨setSignal_ports,setSignal_queue⟩

omit [T.PortFed] in
theorem sameQueue_destroySm {k : T.Sm} : SameQueue r (r.destroySm k id) := by
  have clear : ∀ r : Router T, SameQueue r (r.clearEdges (.inl k) id) :=
    SameQueue.foldl (f := fun r e => r.setEdges e id []) (fun _ _ => ⟨rfl,rfl⟩) _
  exact clear _

omit [T.PortFed] in
theorem sameQueue_react {k : T.Sm} {reaction : T.Reaction k} :
    SameQueue r (r.react k id reaction) := by
  have signals : ∀ r : Router T, SameQueue r (r.applySignals k id reaction.effects) :=
    SameQueue.foldl (fun r s => by
      cases reaction.effects.signal s with
      | some value => exact sameQueue_setSignal
      | none => exact ⟨rfl,rfl⟩) _
  have edges : ∀ r : Router T, SameQueue r (r.applyEdges k id reaction.effects) :=
    SameQueue.foldl (fun r e => by
      cases reaction.effects.edge e with
      | some newTargets => exact ⟨rfl,rfl⟩
      | none => exact ⟨rfl,rfl⟩) _
  have kept := (signals { r with
    sms := put r.sms k id (some reaction.state)
    alloc := reaction.alloc
    pendingCreates := r.pendingCreates ++ reaction.effects.creates }).trans (edges _)
  simp only [react,applyEffects]
  split
  · exact SameQueue.trans ⟨kept.1,kept.2⟩ sameQueue_destroySm
  · exact ⟨kept.1,kept.2⟩

namespace Hosted

theorem setSignal (h : r.Hosted S) : (r.setSignal s id value).Hosted S := h.same sameQueue_setSignal

theorem setEdges (h : r.Hosted S) : (r.setEdges e id newTargets).Hosted S := ⟨h.ports,h.queue⟩

theorem createPort (h : r.Hosted S) (hS : S p id) : (r.createPort p id).Hosted S where
  ports p' id' hp := by
    simp only [Router.createPort,initState] at hp
    by_cases hc : p' = p ∧ id' = id
    · obtain ⟨rfl,rfl⟩ := hc
      exact hS
    · exact h.ports p' id' (by rwa [put_ne hc] at hp)
  queue := h.queue

theorem createPortAuto (h : r.Hosted S) (hS : ∀ id, S p id) : (r.createPortAuto p).2.Hosted S :=
  createPort (r := { r with alloc := Function.update r.alloc (.inr p) (r.alloc (.inr p) + 1) })
    ⟨h.ports,h.queue⟩ (hS _)

theorem destroyPort [T.Lawful] (h : r.Hosted S) : (r.destroyPort p id).Hosted S where
  ports p' id' hp := by
    rw [destroyPort_ports] at hp
    by_cases hc : p' = p ∧ id' = id
    · obtain ⟨rfl,rfl⟩ := hc
      simp at hp
    · exact h.ports p' id' (by rwa [put_ne hc] at hp)
  queue q hq := by
    rw [destroyPort_queue] at hq
    exact h.queue q (List.mem_filter.mp hq).1

theorem drain (h : r.Hosted S) : (r.drain p).2.Hosted S :=
  ⟨h.ports,fun q hq => h.queue q (List.mem_filter.mp hq).1⟩

theorem foldl {α : Type} {f : Router T → α → Router T}
    (hf : ∀ r a, r.Hosted S → (f r a).Hosted S) (l : List α) :
    ∀ r : Router T, r.Hosted S → (l.foldl f r).Hosted S := by
  induction l with
  | nil => exact fun _ h => h
  | cons a l ih => exact fun r h => ih _ (hf r a h)

theorem processInc [T.Lawful] (h : r.Hosted S) (i : T.Inc) (t : Nat) : (r.processInc i t).Hosted S := by
  by_cases hp : r.ports (T.incPort i) t = true
  · rw [processInc_eq hp]
    refine ⟨h.ports,fun q hq => ?_⟩
    rcases List.mem_append.mp hq with hq | hq
    · exact h.queue q hq
    · obtain ⟨source,_,hq⟩ := List.mem_flatMap.mp hq
      obtain ⟨d,_,rfl⟩ := List.mem_map.mp hq
      exact h.ports _ _ hp
  · rw [processInc_none hp]
    exact h

/-- The set as a property of each stage of a round. -/
def stages (S : T.Port → Nat → Prop) : Stages T :=
  ⟨Hosted S,fun _ => Hosted S,fun _ => Hosted S,fun _ => Hosted S⟩

theorem stages_kept [T.Lawful] : (stages (T := T) S).Kept where
  begin _ h := ⟨h.ports,h.queue⟩
  again _ h := ⟨h.ports,h.queue⟩
  materialize c todo r r' h hr := by
    unfold materializeOne at hr
    split at hr
    · cases hr
    · cases hr
      refine Hosted.same ?_ sameQueue_react
      split
      · exact ⟨h.ports,h.queue⟩
      · exact ⟨h.ports,h.queue⟩
  created _ h _ := ⟨h.ports,h.queue⟩
  deliver x todo r h := by
    obtain ⟨b | i,t⟩ := x
    · simp only [processDirtyInput,processBatch]
      split
      · exact h
      · split
        · exact h
        · exact Hosted.same (r := { r with inp := _ }) ⟨h.ports,h.queue⟩ sameQueue_react
    · exact Hosted.processInc h i t
  delivered _ h := ⟨h.ports,h.queue⟩
  send ev todo r r' h hr := by
    unfold processEvent at hr
    split at hr
    · split at hr
      · cases hr
        exact h.same sameQueue_react
      · cases hr
        exact h
    · cases hr
  sent _ h := h

theorem propagate [T.Lawful] (h : r.Hosted S) (hr : r.propagate = some r') : r'.Hosted S :=
  (stages_kept.propagate (I := stages S) h hr).1

end Hosted

end Router

end Distvirt.SmRouter
