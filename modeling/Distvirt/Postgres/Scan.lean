import Distvirt.Postgres.Connection

/-! What the activator reads of the backend's stream, however the stream is cut into chunks. -/

namespace Distvirt.Postgres

open Connection List

/-- No header in the stream gives a size that is zero in `usize`. -/
inductive Sized (t : Target) : List UInt8 → Prop
  | rest {stream} : tagged.size stream = none → ¬ Wraps t stream → Sized t stream
  | frame {stream n} : tagged.size stream = some n → ¬ Wraps t stream → Sized t (stream.drop n) →
      Sized t stream

def IsHealthCheck (m : List UInt8) : Prop :=
  ∃ query, extractSimpleQuery m = some query ∧ isHealthCheckQuery query = true

section sized
variable {t : Target} {stream tail : List UInt8} {frames : List (List UInt8)}

theorem Sized.front (h : Sized t stream) : ¬ Wraps t stream := by
  cases h with
  | rest _ hw => exact hw
  | frame _ hw _ => exact hw

theorem wraps_append (hlong : 5 ≤ stream.length) : Wraps t (stream ++ more) ↔ Wraps t stream := by
  unfold Wraps
  rw [u32At_append hlong,length_append]
  omega

theorem sized_append (h : tagged.Cut stream frames tail) :
    Sized t (stream ++ more) ↔ Sized t stream ∧ Sized t (tail ++ more) := by
  induction h with
  | rest hs =>
    refine ⟨fun hsized => ⟨.rest hs (fun hw => ?_),hsized⟩,And.right⟩
    exact hsized.front ((wraps_append hw.1).mpr hw)
  | frame hs _ ih =>
    rename_i stream n frames tail hcut
    have hlong : 5 ≤ stream.length := by
      by_contra hshort
      have hnone : tagged.size stream = none := if_neg (fun h => hshort h.1)
      cases hs.symm.trans hnone
    rw [← drop_append_of_le_length (tagged.le hs)] at ih
    constructor
    · intro hsized
      cases hsized with
      | rest hnone _ => cases (tagged.append hs more).symm.trans hnone
      | frame hs' hw hrest =>
        cases (tagged.append hs more).symm.trans hs'
        obtain ⟨hfirst,hmore⟩ := ih.mp hrest
        exact ⟨.frame hs (fun h => hw ((wraps_append hlong).mpr h)) hfirst,hmore⟩
    · rintro ⟨hsized,hmore⟩
      cases hsized with
      | rest hnone _ => cases hs.symm.trans hnone
      | frame hs' hw hrest =>
        cases hs.symm.trans hs'
        exact .frame (tagged.append hs more) (fun h => hw ((wraps_append hlong).mp h))
          (ih.mpr ⟨hrest,hmore⟩)

end sized

namespace Connection

variable {t : Target} {c c' : Connection} {frames : List (List UInt8)}
  {tail : List UInt8} {fuel : Nat}

/-- What these messages of the backend say. -/
def note (c : Connection) (frames : List (List UInt8)) : Connection :=
  { c with
    lastTxnStatus := (frames.filterMap parseReadyForQueryStatus).getLast?.or c.lastTxnStatus
    authComplete := c.authComplete || frames.any (fun m => (parseReadyForQueryStatus m).isSome) }

theorem note_append : c.note (frames ++ frames') = (c.note frames).note frames' := by
  simp [note,Option.or_assoc,Bool.or_assoc]

theorem observe_eq (hn : 0 < n) :
    c.observe (c.upstreamRecvBuf.getD 0 0) n = c.note [c.upstreamRecvBuf.take n] := by
  have hhead : (c.upstreamRecvBuf.take n).getD 0 0 = c.upstreamRecvBuf.getD 0 0 := by
    rw [getD_eq_getElem?_getD,getElem?_take_of_lt hn,getD_eq_getElem?_getD]
  unfold observe note
  split
  · cases hp : parseReadyForQueryStatus (c.upstreamRecvBuf.take n) <;> simp [hp]
  · rename_i hne
    have hnone : parseReadyForQueryStatus (c.upstreamRecvBuf.take n) = none := by
      unfold parseReadyForQueryStatus
      rw [hhead,if_pos hne,ite_self]
    simp [hnone]

/-- A message of size zero is read again and again. -/
theorem scanLoop_wraps (h : Wraps t c.upstreamRecvBuf) : scanLoop t fuel c = none := by
  induction fuel generalizing c with
  | zero =>
    unfold scanLoop
    simp only [parseTaggedMessage_wraps h]
  | succ fuel ih =>
    unfold scanLoop
    simp only [parseTaggedMessage_wraps h]
    exact ih h

/-- The loop reads the whole messages, if none has size zero. -/
theorem scanLoop_some (hcut : tagged.Cut c.upstreamRecvBuf frames tail)
    (hfuel : c.upstreamRecvBuf.length ≤ fuel) (h : Sized t c.upstreamRecvBuf) :
    scanLoop t fuel c = some { c.note frames with upstreamRecvBuf := tail } := by
  generalize hbuf : c.upstreamRecvBuf = buf at hcut hfuel h
  induction hcut generalizing c fuel with
  | rest hs =>
    subst hbuf
    unfold scanLoop
    rw [parseTaggedMessage_size h.front,hs]
    simp [note]
  | frame hs hrest ih =>
    rename_i n frames tail
    subst hbuf
    cases h with
    | rest hnone _ => cases hs.symm.trans hnone
    | frame hs' hw hsized =>
      cases hs.symm.trans hs'
      have hpos := tagged.pos hs
      have hle := tagged.le hs
      obtain ⟨fuel,rfl⟩ := Nat.exists_eq_succ_of_ne_zero (by omega : fuel ≠ 0)
      unfold scanLoop
      simp only [parseTaggedMessage_size hw,hs,Option.map_some]
      rw [observe_eq hpos,ih rfl (by rw [length_drop]; omega) hsized]
      simp [note,Option.or_assoc,Bool.or_assoc]

theorem scanLoop_sized (h : scanLoop t fuel c = some c') : Sized t c.upstreamRecvBuf := by
  induction fuel generalizing c with
  | zero =>
    have hw : ¬ Wraps t c.upstreamRecvBuf := fun hw => nomatch (scanLoop_wraps hw).symm.trans h
    unfold scanLoop at h
    rw [parseTaggedMessage_size hw] at h
    cases hs : tagged.size c.upstreamRecvBuf with
    | none => exact .rest hs hw
    | some n =>
      rw [hs] at h
      cases h
  | succ fuel ih =>
    have hw : ¬ Wraps t c.upstreamRecvBuf := fun hw => nomatch (scanLoop_wraps hw).symm.trans h
    unfold scanLoop at h
    rw [parseTaggedMessage_size hw] at h
    cases hs : tagged.size c.upstreamRecvBuf with
    | none => exact .rest hs hw
    | some n =>
      rw [hs] at h
      exact .frame hs hw (ih h)

theorem scan_some (hcut : tagged.Cut (c.upstreamRecvBuf ++ data) frames tail)
    (h : Sized t (c.upstreamRecvBuf ++ data)) :
    c.scanUpstreamForReady t data = some { c.note frames with upstreamRecvBuf := tail } :=
  scanLoop_some hcut (Nat.le_refl _) h

/-- A scan that returns has read every whole message. -/
theorem scan_cut (h : c.scanUpstreamForReady t data = some c') :
    ∃ frames tail, tagged.Cut (c.upstreamRecvBuf ++ data) frames tail ∧
      c' = { c.note frames with upstreamRecvBuf := tail } := by
  have hcut := tagged.split_cut (c.upstreamRecvBuf ++ data)
  rw [scan_some hcut (scanLoop_sized h)] at h
  cases h
  exact ⟨_,_,hcut,rfl⟩

/-- The chunks of a stream are read as the stream is read in one. -/
theorem scans_eq {chunks : List (List UInt8)} (hnone : tagged.size c.upstreamRecvBuf = none)
    (h : Sized t (c.upstreamRecvBuf ++ chunks.flatten)) :
    chunks.foldlM (scanUpstreamForReady t) c = c.scanUpstreamForReady t chunks.flatten := by
  induction chunks generalizing c with
  | nil =>
    rw [scan_some (.rest (by simpa using hnone)) h]
    simp [note]
  | cons chunk chunks ih =>
    rw [flatten_cons,← append_assoc] at h
    obtain ⟨frames,tail,hcut⟩ := tagged.exists_cut (c.upstreamRecvBuf ++ chunk)
    obtain ⟨frames',tail',hcut'⟩ := tagged.exists_cut (tail ++ chunks.flatten)
    obtain ⟨hfirst,hmore⟩ := (sized_append hcut).mp h
    have hall := hcut.append hcut'
    rw [append_assoc] at h hall
    rw [foldlM_cons,scan_some hcut hfirst]
    refine (ih hcut.size_tail hmore).trans ?_
    rw [scan_some (c := { c.note frames with upstreamRecvBuf := tail }) hcut' hmore]
    rw [flatten_cons,scan_some hall h,note_append]
    rfl

/-- A message that the activator answers is not empty. -/
theorem intercepts_check (h : c.intercepts tag total = true) :
    IsHealthCheck (c.recvBuf.take total) ∧ 0 < total := by
  unfold intercepts at h
  cases hq : extractSimpleQuery (c.recvBuf.take total) with
  | none => simp [hq] at h
  | some query =>
    simp only [hq,Bool.and_eq_true] at h
    refine ⟨⟨query,hq,h.2⟩,Nat.pos_of_ne_zero (fun hz => ?_)⟩
    subst hz
    cases hq

theorem drainClientProxying_fuel (hfuel : c.recvBuf.length ≤ fuel)
    (hfuel' : c.recvBuf.length ≤ fuel') :
    drainClientProxying t fuel c = drainClientProxying t fuel' c := by
  induction fuel generalizing c fuel' with
  | zero =>
    have hnil := length_eq_zero_iff.mp (Nat.le_zero.mp hfuel)
    cases fuel' with
    | zero => rfl
    | succ fuel' => simp [drainClientProxying,hnil]
  | succ fuel ih =>
    cases fuel' with
    | zero =>
      have hnil := length_eq_zero_iff.mp (Nat.le_zero.mp hfuel')
      simp [drainClientProxying,hnil]
    | succ fuel' =>
      unfold drainClientProxying
      split
      · rfl
      · split
        · rfl
        · rename_i hne _ tag total _
          split
          · rename_i hi
            have hpos := (intercepts_check hi).2
            have hlong := length_pos_iff.mpr (fun h => hne (isEmpty_iff.mpr h))
            have hdrop : (c.recvBuf.drop total).length < c.recvBuf.length := by
              rw [length_drop]
              omega
            rw [ih (Nat.le_of_lt_succ (Nat.lt_of_lt_of_le hdrop hfuel))
              (Nat.le_of_lt_succ (Nat.lt_of_lt_of_le hdrop hfuel'))]
          · rfl

end Connection

/-- No loop slices its buffer beyond the end, and every drain ends. A stream of the backend is
scanned to its end, with one result however it is cut into chunks and no whole message left, just
when no header in it has size zero. -/
theorem scans_iff (t : Target) (c : Connection) (chunks : List (List UInt8)) :
    (∀ buf tag total, parseTaggedMessage t buf = some (tag,total) → total ≤ buf.length) ∧
    (∀ c fuel, c.recvBuf.length ≤ fuel →
      drainClientProxying t fuel c = drainClientProxying t c.recvBuf.length c) ∧
    ((∃ c', chunks.foldlM (scanUpstreamForReady t) { c with upstreamRecvBuf := [] } = some c' ∧
        scanUpstreamForReady t { c with upstreamRecvBuf := [] } chunks.flatten = some c' ∧
        tagged.size c'.upstreamRecvBuf = none) ↔
      Sized t chunks.flatten) := by
  refine ⟨fun _ _ _ => parseTaggedMessage_le,
    fun c fuel hfuel => drainClientProxying_fuel hfuel (Nat.le_refl _),?_,?_⟩
  · rintro ⟨c',_,hscan,_⟩
    exact scanLoop_sized hscan
  · intro h
    obtain ⟨frames,tail,hcut⟩ := tagged.exists_cut chunks.flatten
    have hscan := scan_some (c := { c with upstreamRecvBuf := [] }) hcut h
    exact ⟨_,(scans_eq Framing.size_nil h).trans hscan,hscan,hcut.size_tail⟩

/-- A length of `2 ^ 32 - 1` is a size of zero where `usize` has 32 bits. -/
theorem scan_never_ends :
    scanUpstreamForReady .wasm32 .new [0x5a,0xff,0xff,0xff,0xff] = none ∧
    ∀ fuel, scanLoop .wasm32 fuel
      { new with upstreamRecvBuf := [0x5a,0xff,0xff,0xff,0xff] } = none := by
  have hw : Wraps .wasm32 [0x5a,0xff,0xff,0xff,0xff] := by decide
  exact ⟨Connection.scanLoop_wraps hw,fun _ => scanLoop_wraps hw⟩

end Distvirt.Postgres
