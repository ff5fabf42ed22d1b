import Distvirt.Shell.Introduced

/-! What destroying a namespace leaves on the workers: nothing is written to their connections, so
that a namespace is gone from them only if there are none. -/

namespace Distvirt

namespace Shell

variable {s s' : Shell} {fuel : Nat} {now : Duration} {id : NamespaceId}

/-- The last command about a namespace destroys it, each of its peers is removed after it was
added, and a worker that has handled all its commands keeps nothing of the namespace. -/
structure LeftNothing (id : NamespaceId) (l : List ProtocolCommand) : Prop where
  destroyed : ∃ l₁ l₂, l = l₁ ++ .destroyNamespace id :: l₂ ∧
    .destroyNamespace id ∉ l₁ ∧ .destroyNamespace id ∉ l₂ ∧
    ∀ c ∈ l₂, ¬ c.Names id ∧ ¬ c.Creates id
  peers : ∀ l₁ key ip secret l₂, l = l₁ ++ .ofNamespace (.addWireGuardPeer id key ip secret) :: l₂ →
    .ofNamespace (.removeWireGuardPeer key) ∈ l₂
  nothing : ∀ (node node' : Worker.Node) (inputs : List Worker.Node.Input),
    node.namespaces = ∅ → node.peers = ∅ → inputs.filterMap Worker.Node.Input.received = l →
    node.run inputs = .ok node' →
    id ∉ node'.namespaces ∧ ∀ key, node'.peers.lookup key ≠ some id

/-- Every connected worker that was told of the namespace has been rid of it. -/
def TornDown (s : Shell) (id : NamespaceId) : Prop :=
  ∀ w ∈ s.workers, s.HasTold id w → LeftNothing id (s.stream w)

/-- Destroying a namespace changes no connection. -/
theorem destroy_step (h : s.Inv) (hd : s.step fuel (now,.destroyNamespace id) = some s') :
    s'.workers = s.workers ∧ ∀ w, s'.created w id = s.created w id := by
  obtain ⟨mid,hmid,hadv⟩ := Option.bind_eq_some_iff.mp hd
  obtain ⟨_,_,_,wrote⟩ := Inv.destroyNamespace_wrote h.good hmid
  have all := wrote.trans (advanceAll_passed wrote.good hadv)
  refine ⟨all.workers,fun w => ?_⟩
  rw [all.created]
  simp only [announcements,List.append_nil,List.countP_nil,ite_self,Nat.add_zero]
  rfl

/-- No worker is ever told to destroy a namespace, so a live namespace is torn down when it is
destroyed if and only if no worker is connected. -/
theorem tornDown_iff (events : List (Duration × ShellEvent)) (hr : new.run fuel events = some s)
    (hlive : id ∈ s.orchestrator.namespaceIds)
    (hd : s.step fuel (now,.destroyNamespace id) = some s') :
    s'.TornDown id ↔ ∀ w, w ∉ s.workers := by
  have inv := Inv.init.run hr
  obtain ⟨hworkers,hcreated⟩ := destroy_step inv hd
  constructor
  · intro htorn w hw
    have told : s'.HasTold id w := by
      rw [hasTold_iff,hcreated,inv.met w hw id hlive]
      exact Nat.one_pos
    obtain ⟨l₁,l₂,hl,_⟩ := (htorn w (hworkers ▸ hw) told).destroyed
    refine (inv.step hd).undestroyed w id ?_
    rw [hl]
    simp
  · intro hnone w hw
    exact absurd (hworkers ▸ hw) (hnone w)

/-- The only worker that was told of a namespace and of its peer leaves before the end. -/
def leftEvents : List (Duration × ShellEvent) := peerEvents ++ [(3,.workerDisconnected 0)]

theorem leftEvents_tornDown : ∃ s s', new.run 1 leftEvents = some s ∧ s.HasTold ⟨"demo",1⟩ 0 ∧
    ⟨"demo",1⟩ ∈ s.orchestrator.namespaceIds ∧
    s.step 1 (4,.destroyNamespace ⟨"demo",1⟩) = some s' ∧ s'.TornDown ⟨"demo",1⟩ := by
  have ends : (new.run 1 leftEvents).any (fun s =>
      (s.stream 0).any (fun c => c.Creates ⟨"demo",1⟩) &&
      decide (⟨"demo",1⟩ ∈ s.orchestrator.namespaceIds) && s.workers.keys.isEmpty &&
      (s.step 1 (4,.destroyNamespace ⟨"demo",1⟩)).isSome) = true := by decide +kernel
  obtain ⟨s,hr,ends⟩ := (Option.any_eq_true ..).mp ends
  simp only [Bool.and_eq_true,decide_eq_true_eq,List.isEmpty_iff] at ends
  obtain ⟨⟨⟨htold,hlive⟩,hnone⟩,hd⟩ := ends
  obtain ⟨c,hc,hcr⟩ := List.any_eq_true.mp htold
  obtain ⟨s',hs'⟩ := Option.isSome_iff_exists.mp hd
  refine ⟨s,s',hr,⟨c,hc,of_decide_eq_true hcr⟩,hlive,hs',
    (tornDown_iff leftEvents hr hlive hs').mpr (fun w hw => ?_)⟩
  have hmem : w ∈ s.workers.keys := hw
  rw [hnone] at hmem
  cases hmem

/-- The worker has the namespace and a peer of it, and hears nothing of the destruction. -/
theorem peerEvents_not_tornDown : ∃ s s', new.run 1 peerEvents = some s ∧
    ⟨"demo",1⟩ ∈ s.orchestrator.namespaceIds ∧
    s.step 1 (3,.destroyNamespace ⟨"demo",1⟩) = some s' ∧ ¬ s'.TornDown ⟨"demo",1⟩ := by
  have ends : (new.run 1 peerEvents).any (fun s =>
      decide (⟨"demo",1⟩ ∈ s.orchestrator.namespaceIds) &&
      (s.step 1 (3,.destroyNamespace ⟨"demo",1⟩)).any (fun s' => decide (0 ∈ s'.workers) &&
        (s'.stream 0).any (fun c => c.Creates ⟨"demo",1⟩) &&
        decide (.destroyNamespace ⟨"demo",1⟩ ∉ s'.stream 0))) = true := by decide +kernel
  cases hr : new.run 1 peerEvents with
  | none =>
    rw [hr] at ends
    cases ends
  | some s =>
    simp only [hr,Option.any_some,Bool.and_eq_true,decide_eq_true_eq] at ends
    obtain ⟨hlive,hd⟩ := ends
    cases hs' : s.step 1 (3,.destroyNamespace ⟨"demo",1⟩) with
    | none =>
      rw [hs'] at hd
      cases hd
    | some s' =>
      simp only [hs',Option.any_some,Bool.and_eq_true,decide_eq_true_eq] at hd
      obtain ⟨⟨hw,htold⟩,hnot⟩ := hd
      refine ⟨s,s',rfl,hlive,hs',fun htorn => ?_⟩
      obtain ⟨c,hc,hcr⟩ := List.any_eq_true.mp htold
      obtain ⟨l₁,l₂,hl,_⟩ := (htorn 0 hw ⟨c,hc,of_decide_eq_true hcr⟩).destroyed
      exact hnot (by rw [hl]; simp)

end Shell

end Distvirt
