import Distvirt.Codec

/-! The output of a container on its way from the guest to the worker and from there to the
orchestrator. -/

namespace Distvirt.Guest

def streamStdout : UInt8 := 1
def streamStderr : UInt8 := 2

def parseOutputChunkHeader (header : List UInt8) : (UInt8 × UInt64) × Nat :=
  ((header.headD 0,UInt64.ofNat (Bytes.ofLe ((header.drop 1).take 8))),Bytes.ofLe (header.drop 9))

theorem ofLe_seq (seq : UInt64) : UInt64.ofNat (Bytes.ofLe (Bytes.toLe 8 seq.toNat)) = seq := by
  rw [Bytes.ofLe_toLe seq.toNat_lt]
  exact UInt64.ofNat_toNat

theorem ofLe_len (h : len ≤ 16 * 1024 * 1024) : Bytes.ofLe (Bytes.toLe 4 len) = len :=
  Bytes.ofLe_toLe (by omega)

/-- The chunks of `encode_output_chunk`, as `IoSession::next_event` reads them: the stream and the
sequence number, with the payload. -/
def outputChunks : Codec (UInt8 × UInt64) where
  size := 13
  header m len := m.1 :: (Bytes.toLe 8 m.2.toNat ++ Bytes.toLe 4 len)
  parse := parseOutputChunkHeader
  limit := 16 * 1024 * 1024
  accepts m := m.1 == streamStdout || m.1 == streamStderr
  pos := by decide
  length_header m len := by simp
  parse_header m len h := by
    have htake : (Bytes.toLe 8 m.2.toNat ++ Bytes.toLe 4 len).take 8 = Bytes.toLe 8 m.2.toNat :=
      List.take_left' (Bytes.length_toLe _ _)
    have hdrop : (Bytes.toLe 8 m.2.toNat ++ Bytes.toLe 4 len).drop 8 = Bytes.toLe 4 len :=
      List.drop_left' (Bytes.length_toLe _ _)
    simp only [parseOutputChunkHeader,List.headD_cons,List.drop_succ_cons,List.drop_zero,htake,hdrop,
      ofLe_seq,ofLe_len h]

/-- The frames of `send_log_frame`, as `recv_log_frame` reads them: the sequence number, with the
payload. -/
def logFrames : Codec UInt64 where
  size := 12
  header seq len := Bytes.toLe 8 seq.toNat ++ Bytes.toLe 4 len
  parse header := (UInt64.ofNat (Bytes.ofLe (header.take 8)),Bytes.ofLe (header.drop 8))
  limit := 16 * 1024 * 1024
  accepts _ := true
  pos := by decide
  length_header seq len := by simp
  parse_header seq len h := by
    rw [List.take_left' (Bytes.length_toLe _ _),List.drop_left' (Bytes.length_toLe _ _),ofLe_seq,
      ofLe_len h]

/-- Output is read as it was written and a cut is noticed, exactly when the chunks are of the two
output streams and the cut is in no header. -/
theorem output_faithful_iff (chunks : List ((UInt8 × UInt64) × List UInt8))
    (chunk : (UInt8 × UInt64) × List UInt8) (frames : List (UInt64 × List UInt8))
    (frame : UInt64 × List UInt8) (t : List UInt8)
    (hchunks : ∀ f ∈ chunk :: chunks, f.2.length < 16 * 1024 * 1024)
    (hframes : ∀ f ∈ frame :: frames, f.2.length < 16 * 1024 * 1024) :
    (t <+: outputChunks.encode chunk → t ≠ outputChunks.encode chunk →
      (outputChunks.Faithful chunks t ↔
        (∀ f ∈ chunks, f.1.1 = streamStdout ∨ f.1.1 = streamStderr) ∧ (t = [] ∨ 13 ≤ t.length))) ∧
    (t <+: logFrames.encode frame → t ≠ logFrames.encode frame →
      (logFrames.Faithful frames t ↔ t = [] ∨ 12 ≤ t.length)) := by
  rw [List.forall_mem_cons] at hchunks hframes
  constructor
  · intro ht hne
    rw [Codec.faithful_iff (fun f hf => Nat.le_of_lt (hchunks.2 f hf)) (Nat.le_of_lt hchunks.1) ht hne]
    simp [outputChunks]
  · intro ht hne
    rw [Codec.faithful_iff (fun f hf => Nat.le_of_lt (hframes.2 f hf)) (Nat.le_of_lt hframes.1) ht hne]
    simp [logFrames]

/-- A chunk and a whole header of the next. -/
theorem output_faithful_one : outputChunks.Faithful [((1,0),[104,105])]
    ((outputChunks.encode ((2,1),[33])).take 13) :=
  ((output_faithful_iff [((1,0),[104,105])] ((2,1),[33]) [] (0,[]) _ (by decide) (by decide)).1
    (List.take_prefix _ _) (by decide)).mpr (by decide)

/-- A header that is cut counts as the end of the output. -/
theorem cut_header_unnoticed :
    outputChunks.readAll ((outputChunks.encode ((1,0),[104,105])).take 12) = ([],none) ∧
    logFrames.readAll ((logFrames.encode (0,[104,105])).take 11) = ([],none) := by
  decide

end Distvirt.Guest
