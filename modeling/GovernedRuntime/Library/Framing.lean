/-
Length-framed parts: each part is written as its size in bytes, a colon and its
text, so that the parts can be read back from what was written.
-/
import Mathlib.Data.Nat.Digits.Defs
import Mathlib.Data.List.Basic

namespace GovernedRuntime.Library

/-- `<utf8ByteLength>:<bytes>`. -/
def framed (part : String) : String := toString part.utf8ByteSize ++ ":" ++ part

def framedParts (parts : List String) : String := String.join (parts.map framed)

theorem toList_framed (part : String) :
    (framed part).toList = Nat.toDigits 10 part.utf8ByteSize ++ ':' :: part.toList := by
  have hsize : (toString part.utf8ByteSize).toList = Nat.toDigits 10 part.utf8ByteSize :=
    Nat.toList_repr
  rw [framed, String.toList_append, String.toList_append, hsize, List.append_assoc]
  rfl

theorem toList_framedParts_cons (part : String) (parts : List String) :
    (framedParts (part :: parts)).toList = (framed part).toList ++ (framedParts parts).toList := by
  rw [framedParts, List.map_cons, String.join_cons, String.toList_append]
  rfl

/-- A size is read up to the colon. -/
theorem size_append_injective {m n : Nat} {xs ys : List Char}
    (heq : Nat.toDigits 10 m ++ ':' :: xs = Nat.toDigits 10 n ++ ':' :: ys) :
    m = n ∧ xs = ys := by
  have hdigits : ∀ k : Nat, ∀ c ∈ Nat.toDigits 10 k, c.isDigit = true :=
    fun _ _ hmem => Nat.isDigit_of_mem_toDigits (by decide) (by decide) hmem
  have htake : ∀ (k : Nat) (rest : List Char),
      (Nat.toDigits 10 k ++ ':' :: rest).takeWhile Char.isDigit = Nat.toDigits 10 k := by
    intro k rest
    rw [List.takeWhile_append_of_pos (hdigits k)]
    exact List.append_nil _
  have hsize : Nat.toDigits 10 m = Nat.toDigits 10 n := by
    rw [← htake m xs, heq, htake n ys]
  have hvalue := congrArg (Nat.ofDigitChars 10 · 0) hsize
  simp only [Nat.ofDigitChars_ten_toDigits] at hvalue
  rw [hsize] at heq
  exact ⟨hvalue, (List.cons.inj (List.append_cancel_left heq)).2⟩

/-- Two texts of one size that begin the same characters are one text. -/
theorem eq_of_append_eq_of_size_eq {part other : String} {xs ys : List Char}
    (heq : part.toList ++ xs = other.toList ++ ys)
    (hsize : part.utf8ByteSize = other.utf8ByteSize) : part = other ∧ xs = ys := by
  have hrest : ∀ {a b : String} {more : List Char}, b.toList = a.toList ++ more →
      a.utf8ByteSize = b.utf8ByteSize → more = [] := by
    intro a b more hb hab
    have htext : b = a ++ String.ofList more := by
      apply String.toList_injective
      rw [String.toList_append, String.toList_ofList, hb]
    rw [htext, String.utf8ByteSize_append] at hab
    have hempty := String.utf8ByteSize_eq_zero_iff.1 (Nat.left_eq_add.1 hab)
    rwa [← String.toList_ofList (l := more), String.toList_eq_nil_iff]
  rcases List.append_eq_append_iff.1 heq with ⟨more, hother, hxs⟩ | ⟨more, hpart, hys⟩
  · obtain rfl := hrest hother hsize
    rw [List.append_nil] at hother
    exact ⟨String.toList_injective hother.symm, hxs⟩
  · obtain rfl := hrest hpart hsize.symm
    rw [List.append_nil] at hpart
    exact ⟨String.toList_injective hpart, hys.symm⟩

theorem framed_append_injective {part other : String} {xs ys : List Char}
    (heq : (framed part).toList ++ xs = (framed other).toList ++ ys) :
    part = other ∧ xs = ys := by
  rw [toList_framed, toList_framed, List.append_assoc, List.append_assoc] at heq
  obtain ⟨hsize, hrest⟩ := size_append_injective heq
  exact eq_of_append_eq_of_size_eq hrest hsize

theorem toList_framed_ne_nil (part : String) : (framed part).toList ≠ [] := by
  rw [toList_framed]
  exact List.append_ne_nil_of_right_ne_nil _ (List.cons_ne_nil _ _)

/-- Every part, and where it ends, can be read from the framed parts. -/
theorem framedParts_injective : Function.Injective framedParts := by
  intro parts others heq
  replace heq := congrArg String.toList heq
  induction parts generalizing others with
  | nil =>
      cases others with
      | nil => rfl
      | cons other others =>
          rw [toList_framedParts_cons] at heq
          exact absurd (List.append_eq_nil_iff.1 heq.symm).1 (toList_framed_ne_nil other)
  | cons part parts ih =>
      cases others with
      | nil =>
          rw [toList_framedParts_cons] at heq
          exact absurd (List.append_eq_nil_iff.1 heq).1 (toList_framed_ne_nil part)
      | cons other others =>
          rw [toList_framedParts_cons, toList_framedParts_cons] at heq
          obtain ⟨hpart, hrest⟩ := framed_append_injective heq
          rw [hpart, ih hrest]

end GovernedRuntime.Library
