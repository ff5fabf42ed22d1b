import Distvirt.Worker.Turns

/-! The packets of a service's stream manager beside frames that are dispatched: the exits they
leave the fabric by, and in which order. -/

namespace Distvirt.Worker

open Output Option List

/-- A way out of the fabric. -/
inductive Exit where
  | port (portId : PortId)
  | tunnel (workerId : WorkerId)
  | gateway
deriving DecidableEq, Repr

namespace Output

variable {Frame : Type}

def exit : Output Frame → Option Exit
  | .port portId _ => some (.port portId)
  | .tunnel workerId _ => some (.tunnel workerId)
  | .gateway _ => some .gateway
  | _ => none

/-- The frames that leave by an exit, in the order in which they do. -/
def leaving (e : Exit) (out : List (Output Frame)) : List Frame :=
  out.filterMap (fun o => if o.exit = some e then o.frame? else none)

theorem leaving_append (e : Exit) (out out' : List (Output Frame)) :
    leaving e (out ++ out') = leaving e out ++ leaving e out' := filterMap_append

theorem leaving_perm (e : Exit) (h : out.Perm out') :
    (leaving e out).Perm (leaving e out') := h.filterMap _

end Output

def Pass.exit {W : Wire} : Pass W → Option Exit
  | .stop out => out.findSome? Output.exit
  | _ => none

namespace Fabric

variable {W : Wire} {f f' : Fabric W} {frame : W.Frame} {h : Header} {now ip : Nat}
  {portId : PortId}

/-- Every packet is sent from a task of its own, and the tasks run in any order. -/
def Sends (f : Fabric W) (packets : List W.Frame) (sent : List (Output W.Frame)) : Prop :=
  sent.Perm (f.sendL4Frames packets)

/-- The exit that the dispatch of a frame chooses for it. Frames that a stream manager takes in
have none. -/
def chosen (f : Fabric W) (frame : W.Frame) (source : FrameSource) (now : Nat) : Option Exit :=
  let (frame,f) := f.reverseDnat frame now
  match f.pass frame false source now with
  | (.forward frame _,f) => (f.pass frame true source now).1.exit
  | (last,_) => last.exit

/-- The pod that a service forwards the frame to. -/
def forwardsTo (f : Fabric W) (frame : W.Frame) (source : FrameSource) (now : Nat) : Option Nat :=
  let (frame,f) := f.reverseDnat frame now
  match (f.pass frame false source now).1 with
  | .forward rewritten _ => (W.header rewritten).map Header.dstIp
  | _ => none

theorem exit_changed (change : Option FlowStatusChange) :
    (changed (W := W) change).findSome? exit = none := by
  cases change <;> rfl

theorem exit_activated (sid : Option ServiceId) (activate : Bool) :
    (activated (W := W) ip sid activate).findSome? exit = none := by
  unfold activated
  split <;> rfl

/-- Nothing leaves while the frame is forwarded. -/
theorem exit_forward (hp : (f.pass frame skip source now).1 = .forward rewritten out) :
    out.findSome? exit = none := by
  unfold pass at hp
  split at hp
  · cases hp
  · simp only at hp
    split at hp <;> cases hp
    rw [findSome?_append,exit_changed,exit_activated]
    rfl

/-- A frame that a service forwards is passed again, to the pod. -/
theorem forwardsTo_dispatched (hf : f.forwardsTo frame source now = some ip) (fuel : Nat) :
    ∃ (rewritten : W.Frame) (f' : Fabric W) (out : List (Output W.Frame)),
      (W.header rewritten).map Header.dstIp = some ip ∧ out.findSome? exit = none ∧
      f.chosen frame source now = (f'.pass rewritten true source now).1.exit ∧
      (f.dispatchFrame (fuel + 1) frame source now).2 = out ++ (finish (fun f frame =>
        f.dispatchFrame fuel frame .internal now) now (f'.pass rewritten true source now)).2 := by
  unfold forwardsTo at hf
  rw [dispatchFrame]
  unfold chosen
  generalize f.reverseDnat frame now = r at hf ⊢
  simp only at hf ⊢
  cases hp : r.2.pass r.1 false source now with
  | mk last f' =>
    rw [hp] at hf
    cases last with
    | stop out | act action serviceId dstIp out => cases hf
    | forward rewritten out => exact ⟨rewritten,f',out,hf,exit_forward (by rw [hp]),rfl,rfl⟩

/-- The exit that is chosen is the first one that the dispatch of the frame uses. -/
theorem chosen_dispatched (hc : f.chosen frame source now = some e) (fuel : Nat) :
    (f.dispatchFrame (fuel + 1) frame source now).2.findSome? exit = some e := by
  have stopped : ∀ {x : Pass W × Fabric W}, x.1.exit = some e →
      (finish (fun f frame => f.dispatchFrame fuel frame .internal now) now x).2.findSome? exit =
        some e := by
    rintro ⟨last,f'⟩ hx
    cases last with
    | stop out => exact hx
    | forward rewritten out | act action serviceId dstIp out => cases hx
  unfold chosen at hc
  rw [dispatchFrame]
  generalize f.reverseDnat frame now = r at hc ⊢
  simp only at hc ⊢
  cases hp : r.2.pass r.1 false source now with
  | mk last f' =>
    rw [hp] at hc
    cases last with
    | stop out | act action serviceId dstIp out => exact stopped hc
    | forward rewritten out =>
      rw [findSome?_append,exit_forward (by rw [hp]),none_or]
      exact stopped hc

def portExit (f : Fabric W) (portId : PortId) : Option Exit :=
  if portId ∈ f.ports then some (.port portId) else none

/-- What is attached for frames to an address. -/
def exitAt (f : Fabric W) (ip : Nat) : Option Exit :=
  match f.table.route ip with
  | none => if (ip = f.gatewayIp ∨ ¬ f.isInSubnet ip) ∧ f.hasGateway then some .gateway else none
  | some (.remoteSegment workerId) =>
    ((f.tunnelPorts.lookup workerId).filter (· ∈ f.ports)).map (fun _ => .tunnel workerId)
  | some (.localAdapter portId) | some (.localPod (some portId)) => f.portExit portId
  | some _ => none

def isLocal (f : Fabric W) (ip : Nat) : Bool := (f.table.getPortId ip).isSome

/-- The exit of a packet of a stream manager. -/
def l4Exit (f : Fabric W) (packet : W.Frame) : Option Exit :=
  (W.header packet).bind (fun h => (f.table.getPortId h.dstIp).bind f.portExit)

/-- The packet's address is one of a local pod or adapter, or nothing is attached that a frame to it
could leave by. -/
def Reaches (f : Fabric W) (frame : W.Frame) (source : FrameSource) (now : Nat) : Prop :=
  ∀ h, W.header frame = some h → f.isLocal h.dstIp = true ∨
    f.exitAt ((f.forwardsTo frame source now).getD h.dstIp) = none

theorem Similar.exitAt (hs : Similar f f') (ip : Nat) : f'.exitAt ip = f.exitAt ip := by
  simp only [Fabric.exitAt,portExit,isInSubnet,hs.shape.route,hs.ports,hs.tunnelPorts,hs.hasGateway,
    hs.gatewayIp,hs.prefixLen]
  rfl

theorem exitAt_of_port (hp : f.table.getPortId ip = some portId) :
    f.exitAt ip = f.portExit portId := by
  rw [EndpointTable.getPortId_eq] at hp
  unfold exitAt
  split at hp
  · rename_i hr
    rw [hr,hp]
  · rename_i hr
    cases hp
    rw [hr]
  · cases hp

theorem exit_place : (f.place ip (.port portId) frame (f.table.route ip)).findSome? exit =
    f.exitAt ip := by
  unfold place exitAt
  cases f.table.route ip with
  | none =>
    by_cases ho : ip = f.gatewayIp ∨ ¬ f.isInSubnet ip = true
    · by_cases hg : f.hasGateway = true
      · rw [sendGateway,if_pos ho,if_pos hg,if_pos ⟨ho,hg⟩]
        rfl
      · rw [sendGateway,if_pos ho,if_neg hg,if_neg (fun h => hg h.2)]
        rfl
    · rw [sendGateway,if_neg ho,if_neg (fun h => ho h.1)]
      rfl
  | some r =>
    cases r with
    | remoteSegment w =>
      simp only [sendTunnel]
      cases f.tunnelPorts.lookup w with
      | none => rfl
      | some id => by_cases hp : id ∈ f.ports <;> simp [hp,exit]
    | localAdapter id => by_cases hp : id ∈ f.ports <;> simp [sendPort,portExit,hp,exit]
    | localPod id =>
      cases id with
      | none => rfl
      | some id => by_cases hp : id ∈ f.ports <;> simp [sendPort,portExit,hp,exit]
    | service _ _ | unplacedPod => rfl

/-- Only what is placed leaves. -/
theorem exit_stop (skip : Bool) (sid : Option ServiceId) (activate : Bool) :
    Pass.exit (.stop (f.told ip frame skip now ++
      (f.place ip (.port portId) frame (f.table.route ip) ++ activated ip sid activate))) =
      f.exitAt ip := by
  have htold : (f.told ip frame skip now).findSome? exit = none := exit_changed _
  rw [Pass.exit,findSome?_append,findSome?_append,htold,exit_activated,exit_place,none_or,or_none]

/-- A frame leaves at its address, or at that of the pod that its service forwards it to. -/
theorem chosen_eq (f : Fabric W) (portId : PortId) (now : Nat) (hh : W.header frame = some h) :
    f.chosen frame (.port portId) now =
      f.exitAt ((f.forwardsTo frame (.port portId) now).getD h.dstIp) ∧
    (f.isLocal h.dstIp = true → f.forwardsTo frame (.port portId) now = none) := by
  obtain ⟨frame₁,f₁,hr⟩ : ∃ g f', f.reverseDnat frame now = (g,f') := ⟨_,_,rfl⟩
  have hs := f.similar_reverseDnat frame now
  obtain ⟨h₁,hh₁,hdst⟩ : ∃ h₁, W.header frame₁ = some h₁ ∧ h₁.dstIp = h.dstIp := by
    have : (W.header (f.reverseDnat frame now).1).map Header.dstIp = some h.dstIp := by
      unfold reverseDnat
      simp only [hh]
      split <;> simp [W.header_rewriteSrc,hh]
    rw [hr] at this
    exact map_eq_some_iff.mp this
  rw [hr] at hs
  dsimp only at hs
  have ht := f₁.turn frame₁ false (.port portId) now hh₁
  simp only [chosen,forwardsTo,hr]
  rw [← hdst]
  generalize f₁.pass frame₁ false (.port portId) now = r at ht ⊢
  cases ht with
  | stop sid activate => exact ⟨(exit_stop false sid activate).trans (hs.exitAt _),fun _ => rfl⟩
  | act ep sid policy backendIp processor action hep hb _ _ =>
    have hroute : f₁.exitAt h₁.dstIp = none := by
      rw [exitAt,EndpointTable.route_of_lookup hep,hb]
      rfl
    exact ⟨hroute.symm.trans (hs.exitAt _),fun _ => rfl⟩
  | forward sid podIp activate hroute hreach =>
    have hh₂ : W.header (W.rewriteDst frame₁ h₁.dstIp podIp) = some { h₁ with dstIp := podIp } := by
      rw [W.header_rewriteDst,hh₁]
      rfl
    have hs₂ := (f₁.similar_looked h₁.dstIp frame₁ false now).trans
      (similar_insertConntrackEntry _ (W.rewriteDst frame₁ h₁.dstIp podIp) h₁.dstIp podIp now)
    have hservice : f₁.table.isService podIp = false := by
      unfold EndpointTable.isService
      split
      · rename_i hr'
        rw [hr'] at hreach
        cases hreach
      · rfl
    obtain ⟨sid',activate',hp⟩ := (Fabric.turn _ _ true (.port portId) now hh₂).direct
      ((hs₂.shape.isService _).trans hservice)
    simp only [hp,hh₂]
    refine ⟨(exit_stop true sid' activate').trans ((hs₂.exitAt _).trans (hs.exitAt _)),fun hl => ?_⟩
    rw [isLocal,EndpointTable.getPortId_eq,← hs.shape.route,hroute] at hl
    cases hl

theorem l4Exit_eq_chosen_iff
    (hd : (W.header frame).map Header.dstIp = (W.header packet).map Header.dstIp) :
    f.l4Exit packet = f.chosen frame (.port portId) now ↔ f.Reaches frame (.port portId) now := by
  unfold l4Exit Reaches
  cases hh : W.header frame with
  | none =>
    rw [hh,map_none,eq_comm,map_eq_none_iff] at hd
    rw [hd]
    have hrunt : f.chosen frame (.port portId) now = none := by
      simp only [chosen,reverseDnat,hh,pass_runt f false _ now hh]
      rfl
    simp [hrunt]
  | some h =>
    rw [hh,map_some,eq_comm,map_eq_some_iff] at hd
    obtain ⟨h',hh',hdst⟩ := hd
    obtain ⟨hc,hf⟩ := f.chosen_eq portId now hh
    rw [hc,hh',bind_some,hdst]
    simp only [some.injEq,forall_eq']
    cases hp : f.table.getPortId h.dstIp with
    | none =>
      simp only [isLocal,hp,bind_none,isSome_none,Bool.false_eq_true,false_or]
      exact eq_comm
    | some id =>
      have hl : f.isLocal h.dstIp = true := by rw [isLocal,hp]; rfl
      simp [hl,hf hl,exitAt_of_port hp]

theorem leaving_sendPort (p : W.Frame) (e : Exit) :
    leaving e (f.sendPort portId p) = if f.portExit portId = some e then [p] else [] := by
  by_cases hp : portId ∈ f.ports
  · by_cases he : Exit.port portId = e <;>
      simp [sendPort,portExit,hp,he,leaving,exit,frame?]
  · simp [sendPort,portExit,hp,leaving]

theorem leaving_sendL4Frames (f : Fabric W) (packets : List W.Frame) (e : Exit) :
    leaving e (f.sendL4Frames packets) = packets.filter (fun p => f.l4Exit p = some e) := by
  induction packets with
  | nil => rfl
  | cons p packets ih =>
    have hp : leaving e (f.sendL4Frames [p]) = if f.l4Exit p = some e then [p] else [] := by
      rw [sendL4Frames,flatMap_singleton,l4Exit]
      cases W.header p with
      | none => simp [leaving]
      | some h =>
        cases hid : f.table.getPortId h.dstIp with
        | none => simp [hid,leaving]
        | some id => simp only [hid,bind_some,leaving_sendPort]
    have hcons : f.sendL4Frames (p :: packets) = f.sendL4Frames [p] ++ f.sendL4Frames packets := by
      simp [sendL4Frames]
    rw [hcons,leaving_append,hp,ih,filter_cons]
    by_cases he : f.l4Exit p = some e <;> simp [he]

/-- The packets leave where frames with the same addresses from a port would, and in the order in
which they were produced. -/
theorem packets_leave_as_dispatched_iff (f : Fabric W) (packets : List W.Frame)
    (received : W.Frame → W.Frame) (portId : PortId) (now : Nat)
    (hd : ∀ p ∈ packets, (W.header (received p)).map Header.dstIp = (W.header p).map Header.dstIp) :
    (∀ sent, f.Sends packets sent → ∀ e, leaving e sent =
      packets.filter (fun p => f.chosen (received p) (.port portId) now = some e)) ↔
    (∀ p ∈ packets, f.Reaches (received p) (.port portId) now) ∧
      ∀ p ∈ packets, ∀ q ∈ packets, ∀ e, f.l4Exit p = some e → f.l4Exit q = some e → p = q := by
  constructor
  · intro h
    have hall : ∀ p ∈ packets, ∀ e, f.l4Exit p = some e ↔
        f.chosen (received p) (.port portId) now = some e := by
      intro p hp e
      have := h _ (.refl _) e
      rw [leaving_sendL4Frames] at this
      simpa [hp] using (congrArg (p ∈ ·) this).to_iff
    refine ⟨fun p hp => (l4Exit_eq_chosen_iff (hd p hp)).mp (ext (hall p hp)),?_⟩
    -- Each of the two packets can be the first to leave.
    have hfirst : ∀ p ∈ packets, ∀ e, f.l4Exit p = some e →
        (packets.filter (fun p => f.chosen (received p) (.port portId) now = some e)).head? =
          some p := by
      intro p hp e he
      obtain ⟨before,after,rfl⟩ := append_of_mem hp
      have hperm : f.Sends (before ++ p :: after) (f.sendL4Frames (p :: (before ++ after))) := by
        exact (perm_middle.symm).flatMap_right _
      rw [← h _ hperm e,leaving_sendL4Frames,filter_cons,if_pos (by simpa using he)]
      rfl
    intro p hp q hq e hpe hqe
    exact some.inj ((hfirst p hp e hpe).symm.trans (hfirst q hq e hqe))
  · rintro ⟨hreach,hone⟩ sent hsent e
    have hsame : packets.filter (fun p => f.chosen (received p) (.port portId) now = some e) =
        packets.filter (fun p => f.l4Exit p = some e) := by
      refine filter_congr fun p hp => ?_
      rw [(l4Exit_eq_chosen_iff (hd p hp)).mpr (hreach p hp)]
    have hperm := leaving_perm e hsent
    rw [leaving_sendL4Frames] at hperm
    rw [hsame]
    -- A list of equal packets is the only arrangement of itself.
    have hequal : ∀ p ∈ packets.filter (fun p => f.l4Exit p = some e),
        ∀ q ∈ packets.filter (fun p => f.l4Exit p = some e), p = q := by
      intro p hp q hq
      simp only [mem_filter,decide_eq_true_eq] at hp hq
      exact hone p hp.1 q hq.1 e hp.2 hq.2
    revert hperm hequal
    generalize packets.filter (fun p => f.l4Exit p = some e) = kept
    intro hperm hequal
    cases kept with
    | nil => exact hperm.eq_nil
    | cons p rest =>
      rw [eq_replicate_of_mem (fun q hq => hequal q hq p mem_cons_self)] at hperm ⊢
      exact perm_replicate.mp hperm

/-- Pods of this worker at 2 and 4, and a pod of worker 2 at 3. -/
def podAndPeer : Fabric .passthrough where
  table := ((EndpointTable.new.put 2 (.start .ready (.localPod (some 7)))).put 3 (.remote 2)).put 4
    (.start .ready (.localPod (some 6)))
  conntrack := ∅
  ports := [5,6,7,8]
  tunnelPorts := (∅ : Table WorkerId PortId).insert 2 8
  hasGateway := true
  gatewayIp := 1
  prefixLen := 24

/-- A packet of the service at 9. -/
def answer (dstIp clientPort : Nat) : Wire.passthrough.Frame :=
  (⟨9,dstIp,6,some (80,clientPort),none⟩ : Header)

/-- Answers to the two pods of this worker. -/
def answers : List Wire.passthrough.Frame := [answer 2 1000,answer 4 1001]

theorem packets_leave_local : podAndPeer.chosen (answer 2 1000) (.port 5) 0 = some (.port 7) ∧
    podAndPeer.chosen (answer 4 1001) (.port 5) 0 = some (.port 6) ∧
    ∀ sent, podAndPeer.Sends answers sent → leaving (.port 7) sent = [answer 2 1000] ∧
      leaving (.port 6) sent = [answer 4 1001] := by
  have hchosen : podAndPeer.chosen (answer 2 1000) (.port 5) 0 = some (.port 7) ∧
      podAndPeer.chosen (answer 4 1001) (.port 5) 0 = some (.port 6) := by
    decide +kernel
  have hexit : podAndPeer.l4Exit (answer 2 1000) = some (.port 7) ∧
      podAndPeer.l4Exit (answer 4 1001) = some (.port 6) := by
    decide +kernel
  have members : ∀ p ∈ answers, p = answer 2 1000 ∨ p = answer 4 1001 := by
    simp [answers]
  refine ⟨hchosen.1,hchosen.2,fun sent hsent => ?_⟩
  have hleave := (podAndPeer.packets_leave_as_dispatched_iff answers id 5 0
    (fun _ _ => rfl)).mpr ⟨?_,?_⟩ sent hsent
  · rw [hleave,hleave]
    simp [answers,hchosen]
  · intro p hp h hh
    rcases members p hp with rfl | rfl <;>
      · cases hh
        exact .inl (by decide +kernel)
  · intro p hp q hq e hpe hqe
    rcases members p hp with rfl | rfl <;> rcases members q hq with rfl | rfl
    · rfl
    · cases hexit.1.symm.trans hpe
      cases hexit.2.symm.trans hqe
    · cases hexit.1.symm.trans hqe
      cases hexit.2.symm.trans hpe
    · rfl

/-- A client on the other worker gets no answer, and two answers to a pod can change places. -/
theorem packets_go_astray :
    podAndPeer.chosen (answer 3 1000) (.port 7) 0 = some (.tunnel 2) ∧
    podAndPeer.sendL4Frames [answer 3 1000] = [] ∧
    ∃ sent, podAndPeer.Sends [answer 2 1000,answer 2 1001] sent ∧
      leaving (.port 7) sent = [answer 2 1001,answer 2 1000] :=
  ⟨by decide +kernel,rfl,_,.swap _ _ _,rfl⟩

end Fabric

end Distvirt.Worker
