import Mathlib.Algebra.Ring.Nat
import Distvirt.Framing

/-! The wire protocol as the activator reads it: startup messages without a tag, then messages with
a tag and a length. The source would panic at an index or a slice beyond the buffer. Each index is
read after a check of the length, so that the default of `getD` is never read, and each size that a
parser returns lies in the buffer (`parseTaggedMessage_le`, `parseStartupMessage_some`). -/

namespace Distvirt.Postgres

open List

/-- The machine the activator is compiled for. Lengths are 32 bits on the wire. -/
structure Target where
  usizeBits : Nat
  wide : 32 ≤ usizeBits

def Target.wasm32 : Target := ⟨32,Nat.le_refl _⟩

def u32FromBeBytes (a b c d : UInt8) : Nat :=
  ((a.toNat * 256 + b.toNat) * 256 + c.toNat) * 256 + d.toNat

/-- The big-endian number at an index that is in the buffer. -/
def u32At (buf : List UInt8) (i : Nat) : Nat :=
  u32FromBeBytes (buf.getD i 0) (buf.getD (i + 1) 0) (buf.getD (i + 2) 0) (buf.getD (i + 3) 0)

def sslRequestCode : Nat := 80877103

def msgReadyForQuery : UInt8 := 0x5a
def msgQuery : UInt8 := 0x51

inductive TransactionStatus
  | idle
  | inTransaction
  | failed
deriving DecidableEq, Repr

def TransactionStatus.fromByte (b : UInt8) : Option TransactionStatus :=
  if b = 0x49 then some .idle
  else if b = 0x54 then some .inTransaction
  else if b = 0x45 then some .failed
  else none

inductive StartupMessage
  | sslRequest
  | startup (raw : List UInt8)
deriving DecidableEq

def parseStartupMessage (buf : List UInt8) : Option (StartupMessage × Nat) :=
  if buf.length < 4 then none
  else
    let length := u32At buf 0
    if length < 8 then none
    else if buf.length < length then none
    else
      let code := u32At buf 4
      if code = sslRequestCode then some (.sslRequest,length)
      else some (.startup (buf.take length),length)

/-- The tag of a complete message and its size, computed in `usize`. -/
def parseTaggedMessage (t : Target) (buf : List UInt8) : Option (UInt8 × Nat) :=
  if buf.length < 5 then none
  else
    let total := (1 + u32At buf 1) % 2 ^ t.usizeBits
    if buf.length < total then none
    else some (buf.getD 0 0,total)

def parseReadyForQueryStatus (msgBytes : List UInt8) : Option TransactionStatus :=
  if msgBytes.length < 6 then none
  else if msgBytes.getD 0 0 ≠ msgReadyForQuery then none
  else TransactionStatus.fromByte (msgBytes.getD 5 0)

def isContinuation (b : UInt8) : Bool := 0x80 ≤ b && b ≤ 0xbf

/-- `core::str::from_utf8`, to the code points of the text. -/
def fromUtf8 : List UInt8 → Option (List Nat)
  | [] => some []
  | a :: rest =>
    if a < 0x80 then (fromUtf8 rest).map (a.toNat :: ·)
    else
      match rest with
      | [] => none
      | b :: rest =>
        if 0xc2 ≤ a ∧ a ≤ 0xdf ∧ isContinuation b then
          (fromUtf8 rest).map ((a.toNat % 32 * 64 + b.toNat % 64) :: ·)
        else
          match rest with
          | [] => none
          | c :: rest =>
            if isContinuation b ∧ isContinuation c ∧ ((a = 0xe0 ∧ 0xa0 ≤ b) ∨
                (0xe1 ≤ a ∧ a ≤ 0xef ∧ a ≠ 0xed) ∨ (a = 0xed ∧ b ≤ 0x9f)) then
              (fromUtf8 rest).map (((a.toNat % 16 * 64 + b.toNat % 64) * 64 + c.toNat % 64) :: ·)
            else
              match rest with
              | [] => none
              | d :: rest =>
                if isContinuation b ∧ isContinuation c ∧ isContinuation d ∧
                    ((a = 0xf0 ∧ 0x90 ≤ b) ∨ (0xf1 ≤ a ∧ a ≤ 0xf3) ∨ (a = 0xf4 ∧ b ≤ 0x8f)) then
                  (fromUtf8 rest).map
                    ((((a.toNat % 8 * 64 + b.toNat % 64) * 64 + c.toNat % 64) * 64 +
                      d.toNat % 64) :: ·)
                else none

/-- The query of a simple Query message without its terminator. -/
def extractSimpleQuery (msgBytes : List UInt8) : Option (List Nat) :=
  if msgBytes.length < 6 then none
  else if msgBytes.getD 0 0 ≠ msgQuery then none
  else
    let payload := msgBytes.drop 5
    if payload.getLast? = some 0 then fromUtf8 payload.dropLast
    else none

def isWhitespace (c : Nat) : Bool :=
  (9 ≤ c && c ≤ 13) || c == 0x20 || c == 0x85 || c == 0xa0 || c == 0x1680 ||
    (0x2000 ≤ c && c ≤ 0x200a) || c == 0x2028 || c == 0x2029 || c == 0x202f || c == 0x205f ||
    c == 0x3000

def trimEnd (p : Nat → Bool) (text : List Nat) : List Nat := (text.reverse.dropWhile p).reverse

def trim (text : List Nat) : List Nat := trimEnd isWhitespace (text.dropWhile isWhitespace)

def toAsciiLowercase (c : Nat) : Nat := if 0x41 ≤ c ∧ c ≤ 0x5a then c + 0x20 else c

/-- `SELECT 1`, in any case, between spaces and before semicolons. -/
def isHealthCheckQuery (query : List Nat) : Bool :=
  (trim (trimEnd (· == 0x3b) (trim query))).map toAsciiLowercase == "select 1".toList.map Char.toNat

/-- RowDescription, DataRow, CommandComplete and ReadyForQuery. -/
def buildSelect1Response : List UInt8 :=
  [0x54,0,0,0,33,0,1] ++ [0x3f,0x63,0x6f,0x6c,0x75,0x6d,0x6e,0x3f,0] ++
    [0,0,0,0] ++ [0,0] ++ [0,0,0,23] ++ [0,4] ++ [0xff,0xff,0xff,0xff] ++ [0,0] ++
    [0x44,0,0,0,11,0,1,0,0,0,1,0x31] ++
    [0x43,0,0,0,13,0x53,0x45,0x4c,0x45,0x43,0x54,0x20,0x31,0] ++
    [0x5a,0,0,0,5,0x49]

/-! The frames of the two formats, with lengths that do not wrap. -/

theorem u32At_take (h : i + 4 ≤ n) : u32At (buf.take n) i = u32At buf i := by
  unfold u32At
  simp only [getD_eq_getElem?_getD]
  rw [getElem?_take_of_lt (by omega),getElem?_take_of_lt (by omega),
    getElem?_take_of_lt (by omega),getElem?_take_of_lt (by omega)]

theorem u32At_append (h : i + 4 ≤ buf.length) : u32At (buf ++ more) i = u32At buf i := by
  unfold u32At
  simp only [getD_eq_getElem?_getD]
  rw [getElem?_append_left (by omega),getElem?_append_left (by omega),
    getElem?_append_left (by omega),getElem?_append_left (by omega)]

theorem u32At_lt (buf : List UInt8) (i : Nat) : u32At buf i < 2 ^ 32 := by
  unfold u32At u32FromBeBytes
  have h₀ := (buf.getD i 0).toNat_lt
  have h₁ := (buf.getD (i + 1) 0).toNat_lt
  have h₂ := (buf.getD (i + 2) 0).toNat_lt
  have h₃ := (buf.getD (i + 3) 0).toNat_lt
  omega

/-- The messages of a stream, with sizes that do not wrap. -/
def tagged : Framing UInt8 where
  size buf := if 5 ≤ buf.length ∧ 1 + u32At buf 1 ≤ buf.length then some (1 + u32At buf 1) else none
  pos h := by
    split at h
    · cases h
      omega
    · cases h
  le h := by
    split at h
    · rename_i hle
      cases h
      exact hle.2
    · cases h
  append {buf n} h more := by
    split at h
    · rename_i hle
      cases h
      rw [u32At_append (by omega),List.length_append,if_pos (by omega)]
    · cases h

variable {t : Target} {buf : List UInt8}

/-- The size that a header gives is zero in `usize`. -/
def Wraps (t : Target) (buf : List UInt8) : Prop :=
  5 ≤ buf.length ∧ (1 + u32At buf 1) % 2 ^ t.usizeBits = 0

instance (t : Target) (buf : List UInt8) : Decidable (Wraps t buf) :=
  inferInstanceAs (Decidable (_ ∧ _))

theorem parseTaggedMessage_wraps (h : Wraps t buf) :
    parseTaggedMessage t buf = some (buf.getD 0 0,0) := by
  obtain ⟨hlong,hzero⟩ := h
  unfold parseTaggedMessage
  rw [if_neg (by omega)]
  dsimp only
  rw [hzero]
  exact if_neg (Nat.not_lt_zero _)

/-- A size that does not become zero is the right one. -/
theorem parseTaggedMessage_size (h : ¬ Wraps t buf) :
    parseTaggedMessage t buf = (tagged.size buf).map (buf.getD 0 0,·) := by
  unfold parseTaggedMessage
  by_cases hlong : buf.length < 5
  · have hsize : tagged.size buf = none := if_neg (by omega)
    rw [if_pos hlong,hsize]
    rfl
  · have hwide : 2 ^ 32 ≤ 2 ^ t.usizeBits := Nat.pow_le_pow_right (by decide) t.wide
    have hlt := u32At_lt buf 1
    have hsmall : 1 + u32At buf 1 < 2 ^ t.usizeBits := by
      refine Nat.lt_of_le_of_ne (by omega) (fun heq => h ⟨by omega,?_⟩)
      rw [heq,Nat.mod_self]
    rw [if_neg hlong]
    dsimp only
    rw [Nat.mod_eq_of_lt hsmall]
    split
    · have hsize : tagged.size buf = none := if_neg (by omega)
      rw [hsize]
      rfl
    · have hsize : tagged.size buf = some (1 + u32At buf 1) := if_pos ⟨by omega,by omega⟩
      rw [hsize]
      rfl

theorem parseTaggedMessage_le (h : parseTaggedMessage t buf = some (tag,total)) :
    total ≤ buf.length := by
  unfold parseTaggedMessage at h
  split at h
  · cases h
  · dsimp only at h
    split at h
    · cases h
    · cases h
      omega

theorem parseTaggedMessage_none (h : parseTaggedMessage t buf = none) : tagged.size buf = none := by
  have hw : ¬ Wraps t buf := fun hw => nomatch (parseTaggedMessage_wraps hw).symm.trans h
  rw [parseTaggedMessage_size hw] at h
  exact Option.map_eq_none_iff.mp h

theorem parseTaggedMessage_some (h : parseTaggedMessage t buf = some (tag,total)) (hpos : 0 < total) :
    tagged.size buf = some total := by
  have hw : ¬ Wraps t buf := by
    intro hw
    cases (parseTaggedMessage_wraps hw).symm.trans h
    exact Nat.lt_irrefl _ hpos
  rw [parseTaggedMessage_size hw] at h
  obtain ⟨n,hn,heq⟩ := Option.map_eq_some_iff.mp h
  cases heq
  exact hn

theorem parseStartupMessage_some : parseStartupMessage buf = some (msg,n) ↔
    8 ≤ n ∧ n ≤ buf.length ∧ u32At buf 0 = n ∧
      msg = if u32At buf 4 = sslRequestCode then .sslRequest else .startup (buf.take n) := by
  unfold parseStartupMessage
  constructor
  · intro h
    split at h
    · cases h
    · dsimp only at h
      split at h
      · cases h
      · split at h
        · cases h
        · split at h
          all_goals
            rename_i hcode
            cases h
            refine ⟨by omega,by omega,rfl,?_⟩
          · rw [if_pos hcode]
          · rw [if_neg hcode]
  · rintro ⟨hmin,hle,rfl,rfl⟩
    dsimp only
    rw [if_neg (by omega),if_neg (by omega),if_neg (by omega)]
    split <;> rfl

theorem parseStartupMessage_take (h : parseStartupMessage buf = some (msg,n)) :
    parseStartupMessage (buf.take n) = some (msg,(buf.take n).length) := by
  obtain ⟨hmin,hle,hn,hmsg⟩ := parseStartupMessage_some.mp h
  have hlen : (buf.take n).length = n := by rw [length_take,Nat.min_eq_left hle]
  rw [hlen]
  refine parseStartupMessage_some.mpr ⟨hmin,Nat.le_of_eq hlen.symm,?_,?_⟩
  · rw [u32At_take (by omega),hn]
  · rw [u32At_take (by omega),take_take,Nat.min_self,hmsg]

theorem parseStartupMessage_append (h : parseStartupMessage buf = some (msg,n))
    (more : List UInt8) : parseStartupMessage (buf ++ more) = some (msg,n) := by
  obtain ⟨hmin,hle,hn,hmsg⟩ := parseStartupMessage_some.mp h
  refine parseStartupMessage_some.mpr ⟨hmin,?_,?_,?_⟩
  · rw [length_append]
    omega
  · rw [u32At_append (by omega),hn]
  · rw [u32At_append (by omega),take_append_of_le_length hle,hmsg]

end Distvirt.Postgres
