import Distvirt.Orchestrator.Core
import Mathlib.Data.Finset.Insert

/-! How a worker handles the commands on its connection. Pods and peers are known by their ids;
what the fabric does with endpoints and names is not part of it. -/

namespace Distvirt

/-- All commands that a worker is sent: those of the orchestrator, and those of the namespaces. -/
inductive ProtocolCommand where
  | createNamespace (namespaceId : NamespaceId) (network : SegmentedNetwork)
  | destroyNamespace (namespaceId : NamespaceId)
  | deleteArtifact (artifactId : ArtifactId) (poolId : String)
  | workerRegistrySync (workers : WorkerRegistry)
  | ofNamespace (command : WorkerCommand)
deriving DecidableEq

/-- The namespace that a worker looks up to handle the command. A command about a peer names a
namespace too, but the peers are not kept with it. -/
def WorkerCommand.lookedUp : WorkerCommand → Option NamespaceId
  | .registrySync namespaceId _ | .registryUpdate namespaceId _ _
  | .launchPod namespaceId _ _ _ _ _ | .stopPod namespaceId _ _ | .suspendPod namespaceId _ _ _
  | .resumePod namespaceId _ _ _ _ | .endpointSync namespaceId _ | .endpointUpdate namespaceId _ _ =>
    some namespaceId
  | .addWireGuardPeer _ _ _ _ | .removeWireGuardPeer _ => none

namespace ProtocolCommand

/-- The command is of no use to a worker without the namespace. -/
def Names (namespaceId : NamespaceId) : ProtocolCommand → Prop
  | .ofNamespace command => command.lookedUp = some namespaceId
  | _ => False

def Creates (namespaceId : NamespaceId) : ProtocolCommand → Prop
  | .createNamespace id _ => id = namespaceId
  | _ => False

instance (namespaceId : NamespaceId) : DecidablePred (Names namespaceId)
  | .ofNamespace command => inferInstanceAs (Decidable (command.lookedUp = some namespaceId))
  | .createNamespace _ _ | .destroyNamespace _ | .deleteArtifact _ _ | .workerRegistrySync _ =>
    inferInstanceAs (Decidable False)

instance (namespaceId : NamespaceId) : DecidablePred (Creates namespaceId)
  | .createNamespace id _ => inferInstanceAs (Decidable (id = namespaceId))
  | .ofNamespace _ | .destroyNamespace _ | .deleteArtifact _ _ | .workerRegistrySync _ =>
    inferInstanceAs (Decidable False)

end ProtocolCommand

namespace Worker

/-- What ends a worker with all its pods. The second stands for failures of the machine, such as
a gateway that cannot be set up. -/
inductive FatalError where
  | namespaceNotFound (namespaceId : NamespaceId)
  | environment
deriving DecidableEq, Repr

/-- `namespaces` has the pods of each namespace, `peers` the namespace of each WireGuard peer. -/
structure Node where
  pools : List String
  wireguard : Bool
  namespaces : Table NamespaceId (Finset PodId)
  peers : Table Nat NamespaceId
deriving DecidableEq

namespace Node

def getNamespaceMut (node : Node) (namespaceId : NamespaceId) :
    Except FatalError (Finset PodId) :=
  match node.namespaces.lookup namespaceId with
  | some pods => .ok pods
  | none => .error (.namespaceNotFound namespaceId)

def withPods (node : Node) (namespaceId : NamespaceId) (pods : Finset PodId) : Node :=
  { node with namespaces := node.namespaces.insert namespaceId pods }

/-- `sound` says that the machine does its part: the gateway is set up, no lock is poisoned, the
snapshot can be read. A suspended pod leaves when its supervisor reports the end. -/
def handleNamespaceCommand (sound : Bool) (node : Node) : WorkerCommand → Except FatalError Node
  | .registrySync namespaceId _ | .registryUpdate namespaceId _ _ | .endpointSync namespaceId _
  | .endpointUpdate namespaceId _ _ => do
    let _ ← node.getNamespaceMut namespaceId
    if sound then return node else throw .environment
  | .launchPod namespaceId podId _ _ _ _ => do
    let pods ← node.getNamespaceMut namespaceId
    return node.withPods namespaceId (insert podId pods)
  | .stopPod namespaceId podId _ => do
    let pods ← node.getNamespaceMut namespaceId
    return node.withPods namespaceId (pods.erase podId)
  | .suspendPod namespaceId _ _ poolId =>
    if poolId ∈ node.pools then (node.getNamespaceMut namespaceId).map (fun _ => node)
    else .ok node
  | .resumePod namespaceId podId _ _ poolId =>
    if poolId ∈ node.pools then do
      let pods ← node.getNamespaceMut namespaceId
      return if sound then node.withPods namespaceId (insert podId pods) else node
    else .ok node
  | .addWireGuardPeer namespaceId peerPublicKey _ _ =>
    .ok (if node.wireguard then
      { node with peers := node.peers.insert peerPublicKey namespaceId } else node)
  | .removeWireGuardPeer peerPublicKey =>
    .ok (if node.wireguard then { node with peers := node.peers.erase peerPublicKey } else node)

def handleCommand (sound : Bool) (node : Node) : ProtocolCommand → Except FatalError Node
  | .createNamespace namespaceId _ =>
    if sound then .ok (node.withPods namespaceId ∅) else .error .environment
  | .destroyNamespace namespaceId =>
    .ok { node with namespaces := node.namespaces.erase namespaceId }
  | .deleteArtifact _ _ | .workerRegistrySync _ => .ok node
  | .ofNamespace command => node.handleNamespaceCommand sound command

/-- What the main loop of a worker reacts to. -/
inductive Input where
  | receive (sound : Bool) (command : ProtocolCommand)
  | podFinished (namespaceId : NamespaceId) (podId : PodId)
deriving DecidableEq

def Input.received : Input → Option ProtocolCommand
  | .receive _ command => some command
  | .podFinished _ _ => none

def step (node : Node) : Input → Except FatalError Node
  | .receive sound command => node.handleCommand sound command
  | .podFinished namespaceId podId =>
    match node.namespaces.lookup namespaceId with
    | some pods => .ok (node.withPods namespaceId (pods.erase podId))
    | none => .ok node

/-- The first fatal error ends the loop. -/
def run (node : Node) (inputs : List Input) : Except FatalError Node := inputs.foldlM step node

variable {node node' : Node} {id : NamespaceId} {c : ProtocolCommand}

theorem getNamespaceMut_error (h : node.getNamespaceMut id = .error e) :
    e = .namespaceNotFound id ∧ id ∉ node.namespaces := by
  unfold getNamespaceMut at h
  split at h
  · cases h
  · rename_i hnone
    cases h
    exact ⟨rfl,AList.lookup_eq_none.mp hnone⟩

/-- A handler that looks the namespace up and then fails for other reasons only. -/
theorem bind_error {id' : NamespaceId} {f : Finset PodId → Except FatalError Node}
    (hf : ∀ pods e, f pods = .error e → e = .environment)
    (h : (node.getNamespaceMut id' >>= f) = .error (.namespaceNotFound id)) :
    id' = id ∧ id ∉ node.namespaces := by
  cases hg : node.getNamespaceMut id' with
  | error e =>
    rw [hg] at h
    cases h
    obtain ⟨heq,hnot⟩ := getNamespaceMut_error hg
    cases heq
    exact ⟨rfl,hnot⟩
  | ok pods =>
    rw [hg] at h
    exact absurd (hf pods _ h) (by simp)

theorem handleNamespaceCommand_error {command : WorkerCommand}
    (h : node.handleNamespaceCommand sound command = .error (.namespaceNotFound id)) :
    command.lookedUp = some id ∧ id ∉ node.namespaces := by
  have found : ∀ {id' : NamespaceId} {f : Finset PodId → Except FatalError Node},
      (∀ pods e, f pods = .error e → e = .environment) →
      (node.getNamespaceMut id' >>= f) = .error (.namespaceNotFound id) →
      some id' = some id ∧ id ∉ node.namespaces := by
    intro id' f hf h
    obtain ⟨rfl,hnot⟩ := bind_error hf h
    exact ⟨rfl,hnot⟩
  have checked : ∀ (pods : Finset PodId) (e : FatalError),
      (if sound then return node else throw .environment : Except FatalError Node) = .error e →
      e = .environment := by
    intro pods e he
    split at he
    · cases he
    · cases he
      rfl
  cases command with
  | registrySync id' entries | registryUpdate id' added removed | endpointSync id' endpoints
  | endpointUpdate id' upserted removedIps => exact found checked h
  | launchPod id' podId network containers resources volumes | stopPod id' podId graceful =>
    refine found (fun _ _ he => ?_) h
    cases he
  | suspendPod id' podId artifactId poolId =>
    simp only [handleNamespaceCommand] at h
    split at h
    · refine found (f := fun _ => .ok node) (fun _ _ he => nomatch he) ?_
      rw [← h]
      cases node.getNamespaceMut id' <;> rfl
    · cases h
  | resumePod id' podId artifactId network poolId =>
    simp only [handleNamespaceCommand] at h
    split at h
    · refine found (fun _ _ he => ?_) h
      cases he
    · cases h
  | addWireGuardPeer id' peerPublicKey peerIp presharedKey => cases h
  | removeWireGuardPeer peerPublicKey => cases h

/-- Only a command that names a namespace can miss it. -/
theorem handleCommand_error (h : node.handleCommand sound c = .error (.namespaceNotFound id)) :
    c.Names id ∧ id ∉ node.namespaces := by
  cases c with
  | createNamespace id' network =>
    simp only [handleCommand] at h
    split at h <;> cases h
  | destroyNamespace id' => cases h
  | deleteArtifact artifactId poolId => cases h
  | workerRegistrySync workers => cases h
  | ofNamespace command => exact handleNamespaceCommand_error h

theorem mem_withPods (h : id ∈ node.namespaces) :
    id ∈ (node.withPods id' pods).namespaces := (AList.mem_insert _).mpr (.inr h)

theorem getNamespaceMut_bind {id' : NamespaceId} {f : Finset PodId → Except FatalError Node}
    (hf : ∀ pods node', f pods = .ok node' → id ∈ node'.namespaces)
    (h : (node.getNamespaceMut id' >>= f) = .ok node') : id ∈ node'.namespaces := by
  cases hg : node.getNamespaceMut id' with
  | error e =>
    rw [hg] at h
    cases h
  | ok pods =>
    rw [hg] at h
    exact hf pods node' h

/-- A handler of a command of a namespace keeps the namespaces that the worker has. -/
theorem handleNamespaceCommand_ok (h : node.handleNamespaceCommand sound command = .ok node')
    (hid : id ∈ node.namespaces) : id ∈ node'.namespaces := by
  have checked : ∀ (pods : Finset PodId) (node' : Node),
      (if sound then return node else throw .environment : Except FatalError Node) = .ok node' →
      id ∈ node'.namespaces := by
    intro pods node' he
    split at he
    · cases he
      exact hid
    · cases he
  cases command with
  | registrySync id' entries | registryUpdate id' added removed | endpointSync id' endpoints
  | endpointUpdate id' upserted removedIps => exact getNamespaceMut_bind checked h
  | launchPod id' podId network containers resources volumes | stopPod id' podId graceful =>
    refine getNamespaceMut_bind (fun pods node' he => ?_) h
    cases he
    exact mem_withPods hid
  | suspendPod id' podId artifactId poolId =>
    simp only [handleNamespaceCommand] at h
    split at h
    · refine getNamespaceMut_bind (fun pods node' he => ?_) h
      cases he
      exact hid
    · cases h
      exact hid
  | resumePod id' podId artifactId network poolId =>
    simp only [handleNamespaceCommand] at h
    split at h
    · refine getNamespaceMut_bind (fun pods node' he => ?_) h
      cases he
      split
      · exact mem_withPods hid
      · exact hid
    · cases h
      exact hid
  | addWireGuardPeer id' peerPublicKey peerIp presharedKey | removeWireGuardPeer peerPublicKey =>
    cases h
    split <;> exact hid

theorem handleCommand_ok (h : node.handleCommand sound c = .ok node')
    (hc : ∀ id, c ≠ .destroyNamespace id) :
    (∀ id ∈ node.namespaces, id ∈ node'.namespaces) ∧ ∀ id, c.Creates id → id ∈ node'.namespaces := by
  cases c with
  | createNamespace id' network =>
    simp only [handleCommand] at h
    split at h
    · cases h
      refine ⟨fun id hid => mem_withPods hid,fun id hcr => ?_⟩
      cases hcr
      exact (AList.mem_insert _).mpr (.inl rfl)
    · cases h
  | destroyNamespace id' => exact absurd rfl (hc id')
  | deleteArtifact artifactId poolId | workerRegistrySync workers =>
    cases h
    exact ⟨fun _ hid => hid,fun _ hcr => hcr.elim⟩
  | ofNamespace command =>
    exact ⟨fun _ hid => handleNamespaceCommand_ok h hid,fun _ hcr => hcr.elim⟩

end Node

end Worker

end Distvirt
