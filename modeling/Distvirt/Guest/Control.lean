import Distvirt.Bytes

/-! The reader of the control stream. -/

namespace Distvirt.Guest

open List

/-- What a poll for a message gives. -/
inductive Recv where
  | pending
  | message (payload : List UInt8)
  | eof
  | ioError
  | tooLarge (len : Nat)
deriving DecidableEq, Repr

namespace ControlReader

/-- Reads until nothing is there. A read of no bytes is the end of the stream. -/
def readAll (buf : List UInt8) : List (Option (List UInt8)) → List UInt8 × Option Recv
  | [] => (buf,none)
  | none :: _ => (buf,some .ioError)
  | some [] :: _ => (buf,some .eof)
  | some chunk :: reads => readAll (buf ++ chunk) reads

/-- Looks for a complete message. -/
def parse (buf : List UInt8) : List UInt8 × Recv :=
  if buf.length < 4 then (buf,.pending)
  else
    let len := Bytes.ofLe (buf.take 4)
    if 1024 * 1024 < len then (buf,.tooLarge len)
    else if buf.length < 4 + len then (buf,.pending)
    else (buf.drop (4 + len),.message ((buf.drop 4).take len))

def pollRecv (buf : List UInt8) (reads : List (Option (List UInt8))) : List UInt8 × Recv :=
  match readAll buf reads with
  | (buf,some failed) => (buf,failed)
  | (buf,none) => parse buf

/-- A run of polls: the buffer after it and what the polls gave. -/
def polls (buf : List UInt8) : List (List (Option (List UInt8))) → List UInt8 × List Recv
  | [] => (buf,[])
  | reads :: rest =>
    let (buf,r) := pollRecv buf reads
    let (buf,out) := polls buf rest
    (buf,r :: out)

def encode (payload : List UInt8) : List UInt8 := Bytes.toLe 4 payload.length ++ payload

theorem ofLe_encode (h : payload.length ≤ 1024 * 1024) (more : List UInt8) :
    Bytes.ofLe ((encode payload ++ more).take 4) = payload.length := by
  rw [encode,append_assoc,take_left' (Bytes.length_toLe _ _)]
  exact Bytes.ofLe_toLe (by omega)

theorem parse_whole (h : payload.length ≤ 1024 * 1024) (more : List UInt8) :
    parse (encode payload ++ more) = (more,.message payload) := by
  have hlen : (encode payload).length = 4 + payload.length := by simp [encode]
  have hdrop : (encode payload ++ more).drop 4 = payload ++ more := by
    rw [encode,append_assoc,drop_left' (Bytes.length_toLe _ _)]
  unfold parse
  rw [ofLe_encode h,if_neg (by simp [hlen]; omega),if_neg (by omega),if_neg (by simp [hlen]),hdrop,
    take_left' rfl,drop_left' hlen]

theorem parse_part (h : payload.length ≤ 1024 * 1024) (heq : encode payload = buf ++ rest)
    (hne : rest ≠ []) : parse buf = (buf,.pending) := by
  have hlen : buf.length + rest.length = 4 + payload.length := by
    rw [← length_append,← heq]
    simp [encode]
  have hpos := length_pos_iff.mpr hne
  unfold parse
  split
  · rfl
  · rename_i hlong
    have hle : Bytes.ofLe (buf.take 4) = payload.length := by
      rw [← ofLe_encode h [],append_nil,heq,take_append_of_le_length (by omega)]
    rw [hle,if_neg (by omega),if_pos (by omega)]

theorem readAll_chunks (buf : List UInt8) {chunks : List (List UInt8)}
    (h : ∀ chunk ∈ chunks, chunk ≠ []) (more : List (Option (List UInt8))) :
    readAll buf (chunks.map some ++ more) = readAll (buf ++ chunks.flatten) more := by
  induction chunks generalizing buf with
  | nil => simp
  | cons chunk chunks ih =>
    rw [map_cons,cons_append,readAll.eq_4 _ _ _ (h chunk mem_cons_self),
      ih _ (fun c hc => h c (mem_cons_of_mem _ hc)),flatten_cons,append_assoc]

/-- A poll that finds the stream open takes the next message out as soon as all of it is there. -/
theorem parse_stream (hsize : ∀ m ∈ msgs, m.length ≤ 1024 * 1024)
    (h : buf ++ left = msgs.flatMap encode) :
    parse buf = (buf,.pending) ∨ ∃ m rest, msgs = m :: rest ∧ (parse buf).2 = .message m ∧
      (parse buf).1 ++ left = rest.flatMap encode := by
  cases msgs with
  | nil =>
    obtain ⟨rfl,rfl⟩ := append_eq_nil_iff.mp h
    exact .inl rfl
  | cons m rest =>
    have hm := hsize m mem_cons_self
    rw [flatMap_cons] at h
    rcases append_eq_append_iff.mp h with ⟨part,heq,rfl⟩ | ⟨more,rfl,hmore⟩
    · by_cases hpart : part = []
      · subst hpart
        rw [append_nil] at heq
        refine .inr ⟨m,rest,rfl,?_⟩
        have hwhole := parse_whole hm []
        rw [append_nil,heq] at hwhole
        rw [hwhole]
        exact ⟨rfl,rfl⟩
      · exact .inl (parse_part hm heq hpart)
    · refine .inr ⟨m,rest,rfl,?_,?_⟩
      · rw [parse_whole hm]
      · rw [parse_whole hm]
        exact hmore.symm

theorem polls_stream (buf left : List UInt8) {msgs : List (List UInt8)}
    (hsize : ∀ m ∈ msgs, m.length ≤ 1024 * 1024)
    {reads : List (List (List UInt8))}
    (hreads : ∀ chunks ∈ reads, ∀ chunk ∈ chunks, chunk ≠ [])
    (h : buf ++ (reads.flatten.flatten ++ left) = msgs.flatMap encode) :
    ∃ yielded rest, msgs = yielded ++ rest ∧
      (polls buf (reads.map (·.map some))).1 ++ left = rest.flatMap encode ∧
      (polls buf (reads.map (·.map some))).2.filter (· ≠ .pending) = yielded.map .message := by
  induction reads generalizing buf msgs with
  | nil => exact ⟨[],msgs,rfl,h,rfl⟩
  | cons chunks reads ih =>
    have hchunks := hreads chunks mem_cons_self
    have hrest := fun chunks hm => hreads chunks (mem_cons_of_mem _ hm)
    have hpoll : pollRecv buf (chunks.map some) = parse (buf ++ chunks.flatten) := by
      have hread := readAll_chunks buf hchunks []
      rw [append_nil] at hread
      rw [pollRecv,hread]
      rfl
    have h' : (buf ++ chunks.flatten) ++ (reads.flatten.flatten ++ left) = msgs.flatMap encode := by
      rw [← h]
      simp [append_assoc]
    simp only [map_cons,polls,hpoll]
    rcases parse_stream hsize h' with hp | ⟨m,rest,rfl,hm,hbuf⟩
    · rw [hp]
      obtain ⟨yielded,rest,heq,hleft,hout⟩ := ih _ hsize hrest h'
      exact ⟨yielded,rest,heq,hleft,by simpa using hout⟩
    · obtain ⟨yielded,rest,rfl,hleft,hout⟩ :=
        ih _ (fun m hm => hsize m (mem_cons_of_mem _ hm)) hrest hbuf
      refine ⟨m :: yielded,rest,rfl,hleft,?_⟩
      rw [hm,filter_cons_of_pos (by simp),hout]
      rfl

theorem polls_last (buf : List UInt8) (reads : List (List (Option (List UInt8))))
    (last : List (Option (List UInt8))) :
    (polls buf (reads ++ [last])).2 =
      (polls buf reads).2 ++ [(pollRecv (polls buf reads).1 last).2] := by
  induction reads generalizing buf with
  | nil => rfl
  | cons first reads ih => exact congrArg (_ :: ·) (ih _)

/-- All messages come before the end of the stream exactly when none is in the buffer by then. A
message that is in the buffer comes with the next poll, if the stream has not ended. -/
theorem messages_before_eof_iff (msgs : List (List UInt8))
    (hsize : ∀ m ∈ msgs, m.length ≤ 1024 * 1024) (reads : List (List (List UInt8)))
    (last : List (List UInt8)) (hreads : ∀ chunks ∈ reads ++ [last], ∀ chunk ∈ chunks, chunk ≠ [])
    (hstream : (reads ++ [last]).flatten.flatten = msgs.flatMap encode) :
    ((polls [] (reads.map (·.map some) ++ [last.map some ++ [some []]])).2.filter (· ≠ .pending) =
        msgs.map .message ++ [.eof] ↔
      (polls [] (reads.map (·.map some))).1 ++ last.flatten = []) ∧
    ∀ m ∈ msgs, ∀ buf, pollRecv (encode m ++ buf) [] = (buf,.message m) := by
  refine ⟨?_,fun m hm buf => parse_whole (hsize m hm) buf⟩
  have hopen : ∀ chunks ∈ reads, ∀ chunk ∈ chunks, chunk ≠ [] :=
    fun chunks hm => hreads chunks (mem_append_left _ hm)
  have hlast : ∀ chunk ∈ last, chunk ≠ [] := hreads last (by simp)
  have hend : (pollRecv (polls [] (reads.map (·.map some))).1 (last.map some ++ [some []])).2 = .eof := by
    rw [pollRecv,readAll_chunks _ hlast]
    rfl
  obtain ⟨yielded,rest,rfl,hbuf,hout⟩ := polls_stream [] last.flatten hsize hopen
    (by simpa using hstream)
  rw [polls_last,filter_append,hout,hend,hbuf]
  cases rest with
  | nil => simp
  | cons m rest => simp [encode,Bytes.toLe]

/-- Two messages, of which the second is cut in three. -/
theorem two_messages_before_eof :
    (polls [] [[some [2,0,0,0,104]],[some [105,1],some [0,0]],[some [0,33]],[some []]]).2.filter
      (· ≠ .pending) = [.message [104,105],.message [33],.eof] :=
  (messages_before_eof_iff [[104,105],[33]] (by decide) [[[2,0,0,0,104]],[[105,1],[0,0]],[[0,33]]] []
    (by decide) (by decide)).1.mpr (by decide)

/-- A message that comes together with the end of the stream is lost. -/
theorem message_with_eof_lost : (polls [] [[some (encode [104,105]),some []]]).2 = [.eof] := by
  decide

end ControlReader

end Distvirt.Guest
