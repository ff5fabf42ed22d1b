import Mathlib.Data.List.Basic

/-! Streams of frames that carry their own length. -/

namespace Distvirt

/-- How long the first frame of a buffer is, if all of it is there. What comes later does not
change it. -/
structure Framing (α : Type) where
  size : List α → Option Nat
  pos : ∀ {buf n}, size buf = some n → 0 < n
  le : ∀ {buf n}, size buf = some n → n ≤ buf.length
  append : ∀ {buf n}, size buf = some n → ∀ more, size (buf ++ more) = some n

namespace Framing

variable {α : Type} (F : Framing α)

/-- A stream is these frames and a rest that does not begin with a whole frame. -/
inductive Cut : List α → List (List α) → List α → Prop
  | rest {tail} : F.size tail = none → Cut tail [] tail
  | frame {stream n frames tail} : F.size stream = some n → Cut (stream.drop n) frames tail →
      Cut stream (stream.take n :: frames) tail

def splitWith : Nat → List α → List (List α) × List α
  | 0,buf => ([],buf)
  | fuel + 1,buf =>
    match F.size buf with
    | none => ([],buf)
    | some n =>
      let (frames,tail) := splitWith fuel (buf.drop n)
      (buf.take n :: frames,tail)

/-- The whole frames of a buffer and what is left of it. -/
def split (buf : List α) : List (List α) × List α := F.splitWith buf.length buf

variable {F}
variable {frames : List (List α)}

theorem size_nil : F.size [] = none := by
  cases h : F.size [] with
  | none => rfl
  | some n => exact absurd (F.le h) (Nat.not_le.mpr (F.pos h))

theorem splitWith_cut (fuel : Nat) (buf : List α) (h : buf.length ≤ fuel) :
    F.Cut buf (F.splitWith fuel buf).1 (F.splitWith fuel buf).2 := by
  induction fuel generalizing buf with
  | zero =>
    cases List.length_eq_zero_iff.mp (Nat.le_zero.mp h)
    exact .rest size_nil
  | succ fuel ih =>
    unfold splitWith
    cases hs : F.size buf with
    | none => exact .rest hs
    | some n =>
      have hpos := F.pos hs
      exact .frame hs (ih (buf.drop n) (by rw [List.length_drop]; omega))

theorem split_cut (buf : List α) : F.Cut buf (F.split buf).1 (F.split buf).2 :=
  splitWith_cut buf.length buf (Nat.le_refl _)

theorem exists_cut (F : Framing α) (buf : List α) : ∃ frames tail, F.Cut buf frames tail :=
  ⟨_,_,split_cut buf⟩

/-- There is one way to cut a stream. -/
theorem Cut.unique (h : F.Cut stream frames tail) (h' : F.Cut stream frames' tail') :
    frames = frames' ∧ tail = tail' := by
  induction h generalizing frames' with
  | rest hs =>
    cases h' with
    | rest hs' => exact ⟨rfl,rfl⟩
    | frame hs' _ => cases hs.symm.trans hs'
  | frame hs _ ih =>
    cases h' with
    | rest hs' => cases hs.symm.trans hs'
    | frame hs' hrest =>
      cases hs.symm.trans hs'
      obtain ⟨rfl,rfl⟩ := ih hrest
      exact ⟨rfl,rfl⟩

theorem Cut.split_eq (h : F.Cut stream frames tail) : F.split stream = (frames,tail) := by
  obtain ⟨hf,ht⟩ := (split_cut stream).unique h
  exact Prod.ext hf ht

theorem Cut.flatten (h : F.Cut stream frames tail) : stream = frames.flatten ++ tail := by
  induction h with
  | rest _ => rfl
  | frame _ _ ih =>
    rw [List.flatten_cons,List.append_assoc,← ih,List.take_append_drop]

theorem Cut.size_tail (h : F.Cut stream frames tail) : F.size tail = none := by
  induction h with
  | rest hs => exact hs
  | frame _ _ ih => exact ih

/-- What arrives later is cut together with what was left. -/
theorem Cut.append (h : F.Cut stream frames tail) (h' : F.Cut (tail ++ more) frames' tail') :
    F.Cut (stream ++ more) (frames ++ frames') tail' := by
  induction h with
  | rest _ => exact h'
  | frame hs _ ih =>
    have hrest := ih h'
    rw [← List.drop_append_of_le_length (F.le hs)] at hrest
    have := Cut.frame (F.append hs more) hrest
    rwa [List.take_append_of_le_length (F.le hs)] at this

/-- Whole frames, one after the other. -/
theorem cut_flatten (h : ∀ f ∈ frames, F.size f = some f.length) : F.Cut frames.flatten frames [] := by
  induction frames with
  | nil => exact .rest size_nil
  | cons f frames ih =>
    have hf := F.append (h f List.mem_cons_self) frames.flatten
    have hrest : F.Cut ((f ++ frames.flatten).drop f.length) frames [] := by
      rw [List.drop_left]
      exact ih (fun g hg => h g (List.mem_cons_of_mem _ hg))
    have hcut := Cut.frame hf hrest
    rwa [List.take_left] at hcut

end Framing

end Distvirt
