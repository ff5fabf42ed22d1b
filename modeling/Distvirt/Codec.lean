import Distvirt.Bytes

/-! Frames of a header of fixed size and a payload whose length the header tells. -/

namespace Distvirt

open List

structure Codec (M : Type) where
  size : Nat
  header : M → Nat → List UInt8
  parse : List UInt8 → M × Nat
  /-- No longer payload is read. -/
  limit : Nat
  accepts : M → Bool
  pos : 0 < size
  length_header : ∀ m len, (header m len).length = size
  parse_header : ∀ m {len}, len ≤ limit → parse (header m len) = (m,len)

namespace Codec

variable {M : Type}

inductive Failure (M : Type)
  | tooLarge (len : Nat)
  | payload
  | unknown (m : M)
deriving DecidableEq

def encode (c : Codec M) (f : M × List UInt8) : List UInt8 := c.header f.1 f.2.length ++ f.2

def readExact (n : Nat) (stream : List UInt8) : Option (List UInt8 × List UInt8) :=
  if n ≤ stream.length then some (stream.take n,stream.drop n) else none

/-- The next frame and what follows it. A stream that ends in a header counts as ended. -/
def next (c : Codec M) (stream : List UInt8) :
    Except (Failure M) (Option ((M × List UInt8) × List UInt8)) :=
  match readExact c.size stream with
  | none => .ok none
  | some (header,rest) =>
    let (m,len) := c.parse header
    if c.limit < len then .error (.tooLarge len)
    else
      match readExact len rest with
      | none => .error .payload
      | some (payload,rest) =>
        if c.accepts m then .ok (some ((m,payload),rest)) else .error (.unknown m)

def readWith (c : Codec M) : Nat → List UInt8 → List (M × List UInt8) × Option (Failure M)
  | 0,_ => ([],none)
  | fuel + 1,stream =>
    match c.next stream with
    | .error e => ([],some e)
    | .ok none => ([],none)
    | .ok (some (f,rest)) =>
      let (frames,failed) := readWith c fuel rest
      (f :: frames,failed)

/-- The frames of a stream up to its end, and the failure if it does not end cleanly. Every frame takes
at least a byte. -/
def readAll (c : Codec M) (stream : List UInt8) : List (M × List UInt8) × Option (Failure M) :=
  c.readWith (stream.length + 1) stream

/-- Whole frames with a part of another after them: the frames are read, and a clean end is reported
exactly when there is no such part. -/
def Faithful (c : Codec M) (frames : List (M × List UInt8)) (t : List UInt8) : Prop :=
  (c.readAll (frames.flatMap c.encode ++ t)).1 = frames ∧
    ((c.readAll (frames.flatMap c.encode ++ t)).2 = none ↔ t = [])

variable {c : Codec M}

theorem length_encode (f : M × List UInt8) : (c.encode f).length = c.size + f.2.length := by
  rw [encode,length_append,c.length_header]

theorem readExact_append (h : front.length = n) (more : List UInt8) :
    readExact n (front ++ more) = some (front,more) := by
  rw [readExact,if_pos (by simp [h]),take_left' h,drop_left' h]

theorem next_encode (h : f.2.length ≤ c.limit) (more : List UInt8) : c.next (c.encode f ++ more) =
      if c.accepts f.1 then .ok (some (f,more)) else .error (.unknown f.1) := by
  rw [encode,append_assoc,next,readExact_append (c.length_header _ _)]
  simp only [c.parse_header f.1 h,if_neg (Nat.not_lt.mpr h),readExact_append rfl]

theorem next_short (h : stream.length < c.size) : c.next stream = .ok none := by
  rw [next,readExact,if_neg (Nat.not_le.mpr h)]

/-- A frame that is cut in its payload. -/
theorem next_cut (h : f.2.length ≤ c.limit) (ht : c.encode f = t ++ rest) (hne : rest ≠ [])
    (hsize : c.size ≤ t.length) : c.next t = .error .payload := by
  have hlen := congrArg length ht
  rw [length_encode,length_append] at hlen
  have hpos := length_pos_iff.mpr hne
  have hheader : t.take c.size = c.header f.1 f.2.length := by
    rw [← take_append_of_le_length hsize,← ht,encode,take_left' (c.length_header _ _)]
  rw [next,readExact,if_pos hsize,hheader]
  simp only [c.parse_header f.1 h,if_neg (Nat.not_lt.mpr h)]
  rw [readExact,if_neg (by simp; omega)]

theorem readWith_append (h : ∀ f ∈ done, f.2.length ≤ c.limit)
    (ha : ∀ f ∈ done, c.accepts f.1 = true) (fuel : Nat) (t : List UInt8) :
    c.readWith (done.length + fuel) (done.flatMap c.encode ++ t) =
      (done ++ (c.readWith fuel t).1,(c.readWith fuel t).2) := by
  induction done with
  | nil => simp
  | cons f done ih =>
    have hrest := ih (fun f hf => h f (mem_cons_of_mem _ hf))
      (fun f hf => ha f (mem_cons_of_mem _ hf))
    rw [length_cons,Nat.add_right_comm,readWith,flatMap_cons,append_assoc,
      next_encode (h f mem_cons_self),if_pos (ha f mem_cons_self)]
    simp only [hrest]
    rfl

theorem accepts_of_readWith (h : ∀ f ∈ done, f.2.length ≤ c.limit)
    (hr : (c.readWith fuel (done.flatMap c.encode ++ t)).1 = done) :
    ∀ f ∈ done, c.accepts f.1 = true := by
  induction done generalizing fuel with
  | nil => exact fun f hf => absurd hf not_mem_nil
  | cons f done ih =>
    cases fuel with
    | zero => cases hr
    | succ fuel =>
      rw [readWith,flatMap_cons,append_assoc,next_encode (h f mem_cons_self)] at hr
      cases ha : c.accepts f.1 with
      | false =>
        rw [ha] at hr
        cases hr
      | true =>
        rw [ha] at hr
        have hrest := ih (fun f hf => h f (mem_cons_of_mem _ hf)) (cons.inj hr).2
        exact forall_mem_cons.mpr ⟨ha,hrest⟩

/-- A stream of whole frames and a part of one is faithful exactly when all frames are accepted and the
part is no part of a header. -/
theorem faithful_iff (h : ∀ f ∈ done, f.2.length ≤ c.limit) (hf : f.2.length ≤ c.limit)
    (ht : t <+: c.encode f) (hne : t ≠ c.encode f) :
    c.Faithful done t ↔ (∀ f ∈ done, c.accepts f.1 = true) ∧ (t = [] ∨ c.size ≤ t.length) := by
  obtain ⟨rest,ht⟩ := ht
  have hrest : rest ≠ [] := by
    rintro rfl
    exact hne (by simpa using ht)
  have hfuel : ∃ fuel, (done.flatMap c.encode ++ t).length + 1 = done.length + (fuel + 1) := by
    have hlen : done.length ≤ (done.flatMap c.encode).length := by
      clear h
      induction done with
      | nil => exact Nat.zero_le _
      | cons f done ih =>
        have hpos := c.pos
        rw [flatMap_cons,length_append,length_encode,length_cons]
        omega
    exact ⟨(done.flatMap c.encode ++ t).length - done.length,by rw [length_append]; omega⟩
  obtain ⟨fuel,hfuel⟩ := hfuel
  rw [Faithful,readAll,hfuel]
  have hend : (c.readWith (fuel + 1) t).1 = [] ∧
      ((c.readWith (fuel + 1) t).2 = none ↔ t.length < c.size) := by
    rw [readWith]
    by_cases hsize : t.length < c.size
    · rw [next_short hsize]
      exact ⟨rfl,iff_of_true rfl hsize⟩
    · rw [next_cut hf ht.symm hrest (Nat.not_lt.mp hsize)]
      exact ⟨rfl,iff_of_false (fun h => by cases h) hsize⟩
  constructor
  · rintro ⟨hread,hclean⟩
    have ha := accepts_of_readWith h hread
    rw [readWith_append h ha] at hclean
    refine ⟨ha,?_⟩
    rw [← hclean,hend.2]
    exact Nat.lt_or_ge _ _
  · rintro ⟨ha,hpart⟩
    rw [readWith_append h ha,hend.1]
    refine ⟨List.append_nil _,hend.2.trans ⟨fun hsize => ?_,fun hnil => ?_⟩⟩
    · exact hpart.resolve_right (Nat.not_le.mpr hsize)
    · rw [hnil]
      exact c.pos

end Codec

end Distvirt
