import DeclSchema.Declared.Integers
import Mathlib

/-!
Sums that go round, beside the exact ones.

A 32-bit sum is right up to a multiple of `2 ^ 32`, whatever happened on the
way to it. That is all that can be said after one addition, and it is
enough to go on with: `Wraps v n` relates a word to the exact integer that
it stands for, an addition of words goes with the addition of the integers
(`Wraps.add`), and only at the end is a word read off. There are `2 ^ 32`
words and as many residues, so the exact integer determines the word
(`Wraps.unique`) and equals it if it is in range (`Wraps.toInt_eq`).
-/

namespace DeclSchema.Declared

/-- The word is the one that is congruent to the integer modulo `2 ^ 32`. -/
def Wraps (v : Int32) (n : Int) : Prop :=
  v.toInt ≡ n [ZMOD 2 ^ 32]

instance (v : Int32) (n : Int) : Decidable (Wraps v n) :=
  inferInstanceAs (Decidable (v.toInt ≡ n [ZMOD 2 ^ 32]))

namespace Wraps

variable {v w : Int32} {m n : Int}

theorem toInt (v : Int32) : Wraps v v.toInt :=
  Int.ModEq.refl _

theorem ofInt (n : Int) : Wraps (.ofInt n) n := by
  rw [Wraps, Int32.toInt_ofInt]
  exact Int.bmod_emod

theorem add (hv : Wraps v m) (hw : Wraps w n) : Wraps (v + w) (m + n) := by
  have hsum : (v + w).toInt ≡ v.toInt + w.toInt [ZMOD 2 ^ 32] := by
    rw [Int32.toInt_add]
    exact Int.bmod_emod
  exact hsum.trans (Int.ModEq.add hv hw)

theorem toInt_eq (h : Wraps v n) (hlow : -2 ^ 31 ≤ n) (hhigh : n < 2 ^ 31) : v.toInt = n := by
  have hv := v.le_toInt
  have hv' := v.toInt_lt
  unfold Wraps Int.ModEq at h
  omega

theorem unique (hv : Wraps v n) (hw : Wraps w n) : v = w := by
  rw [← Int32.toInt_inj]
  exact toInt_eq (hv.trans hw.symm) w.le_toInt w.toInt_lt

end Wraps

/-! ### Sequences -/

/-- The sum of the values as integers. -/
def exactSum (values : List Int32) : Int :=
  (values.map Int32.toInt).sum

theorem exactSum_of_perm {values values' : List Int32} (h : values.Perm values') :
    exactSum values = exactSum values' :=
  (h.map Int32.toInt).sum_eq

/-- The induction keeps the sum so far apart from the integer that it stands
for: the one may have gone round any number of times. -/
theorem wraps_foldl (values : List Int32) {v : Int32} {n : Int} (h : Wraps v n) :
    Wraps (values.foldl (· + ·) v) (n + exactSum values) := by
  induction values generalizing v n with
  | nil => simpa [exactSum] using h
  | cons w rest ih =>
      have hrest := ih (h.add (Wraps.toInt w))
      rwa [add_assoc] at hrest

theorem wraps_sum (values : List Int32) :
    Wraps (IntSequence.sum values.toArray) (exactSum values) := by
  have hfold := wraps_foldl values (Wraps.toInt 0)
  rw [IntSequence.sum, List.foldl_toArray]
  simpa using hfold

end DeclSchema.Declared
