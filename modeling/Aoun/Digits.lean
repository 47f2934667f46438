import Mathlib.Data.List.Induction
import Mathlib.Data.List.TakeWhile
import Aoun.Price
import Aoun.Text

/-!
# Texts of digits

The fields for prices and for seats take ASCII digits only. What they hold is stored as text, and
other screens read it with `Decimal(string:)` and with `Int(_:)`, which both find the number that
the digits denote.

## Main results

* `Aoun.natOfDigits_pos_iff` — a number is positive exactly if it has a digit other than `0`.
* `Aoun.decimal_of_digits`, `Aoun.integer_of_digits` — what is read of a text of digits.
-/

set_option relaxedAutoImplicit false
set_option autoImplicit false

namespace Aoun

lemma isDigit_of_digit {c : Char} (h : digit c = true) : c.isDigit = true := by
  have hc : '0' ≤ c ∧ c ≤ '9' := by simpa [digit] using h
  rw [Char.isDigit, Bool.and_eq_true, decide_eq_true_iff, decide_eq_true_iff]
  exact hc

lemma not_isWhitespace_of_isDigit {c : Char} (h : c.isDigit = true) :
    c.isWhitespace = false := by
  by_contra hw
  simp only [Bool.not_eq_false, Char.isWhitespace, Bool.or_eq_true, decide_eq_true_eq] at hw
  rcases hw with ((rfl | rfl) | rfl) | rfl <;> exact absurd h (by decide)

/-- One more digit at the end of a number. -/
lemma natOfDigits_append (ds : List Char) (d : Char) :
    natOfDigits (ds ++ [d]) = 10 * natOfDigits ds + (d.toNat - '0'.toNat) := by
  simp [natOfDigits, List.foldl_append]

/-- A number of `n` digits is below `10 ^ n`. -/
lemma natOfDigits_lt {ds : List Char} (h : ∀ d ∈ ds, digit d = true) :
    natOfDigits ds < 10 ^ ds.length := by
  induction ds using List.reverseRecOn with
  | nil => decide
  | append_singleton ds d ih =>
    have hd : d.toNat ≤ 57 := by
      have hle : d ≤ '9' := by
        have := h d (by simp)
        simp only [digit, Bool.decide_and, Bool.and_eq_true, decide_eq_true_eq] at this
        exact this.2
      exact hle
    have hih := ih fun d' hd' => h d' (by simp [hd'])
    rw [natOfDigits_append, List.length_append, List.length_singleton, pow_succ]
    have h0 : '0'.toNat = 48 := rfl
    omega

/-- Digits have no sign. -/
lemma scanSign_of_digits {cs : List Char} (h : ∀ c ∈ cs, digit c = true) :
    scanSign cs = (false, cs) := by
  unfold scanSign
  split
  · exact absurd (h '-' (by simp)) (by decide)
  · exact absurd (h '+' (by simp)) (by decide)
  · rfl

/-- **Digits.** `Decimal(string:)` on a text of digits gives their number. -/
theorem decimal_of_digits {s : String} (hne : s.toList ≠ [])
    (h : ∀ c ∈ s.toList, digit c = true) : decimal s = some (natOfDigits s.toList : ℚ) := by
  obtain ⟨c, cs, hs⟩ := List.exists_cons_of_ne_nil hne
  rw [hs] at h
  have hc : c.isDigit = true := isDigit_of_digit (h c (by simp))
  have hall : ∀ d ∈ c :: cs, d.isDigit = true := fun d hd => isDigit_of_digit (h d hd)
  have hdrop : (c :: cs).dropWhile Char.isWhitespace = c :: cs := by
    rw [List.dropWhile_cons_of_neg]
    simp [not_isWhitespace_of_isDigit hc]
  have hsign := scanSign_of_digits h
  have htake : (c :: cs).takeWhile Char.isDigit = c :: cs := List.takeWhile_eq_self_iff.mpr hall
  have hrest : (c :: cs).dropWhile Char.isDigit = [] := List.dropWhile_eq_nil_iff.mpr hall
  simp [decimal, hs, hdrop, hsign, htake, hrest, scanExponent]

/-- **Positive numbers.** A number is positive exactly if one of its digits is not `0`.

**Proof sketch.** Induction from the last digit on: the number is ten times the one before the
last digit, and that digit. -/
theorem natOfDigits_pos_iff {ds : List Char} (h : ∀ d ∈ ds, digit d = true) :
    0 < natOfDigits ds ↔ ∃ d ∈ ds, d ≠ '0' := by
  induction ds using List.reverseRecOn with
  | nil => simp [natOfDigits]
  | append_singleton ds d ih =>
    have hle : '0' ≤ d := by
      have hd := h d (by simp)
      simp only [digit, Bool.decide_and, Bool.and_eq_true, decide_eq_true_eq] at hd
      exact hd.1
    have hd : 0 < d.toNat - '0'.toNat ↔ d ≠ '0' := by
      have hnat : '0'.toNat ≤ d.toNat := hle
      constructor
      · rintro hpos rfl
        simp at hpos
      · intro hne
        have hne' : d.toNat ≠ '0'.toNat := fun heq => hne (Char.toNat_inj.mp heq)
        omega
    have hih := ih fun d' hd' => h d' (by simp [hd'])
    have hlast : (∃ d' ∈ ds ++ [d], d' ≠ '0') ↔ (∃ d' ∈ ds, d' ≠ '0') ∨ d ≠ '0' := by
      simp [or_and_right, exists_or]
    rw [natOfDigits_append, hlast, ← hih, ← hd]
    omega

/-- **Digits.** `Int(_:)` on a text of digits gives their number, within 64 bits. -/
theorem integer_of_digits {s : String} (hne : s.toList ≠ [])
    (h : ∀ c ∈ s.toList, digit c = true) (hlt : natOfDigits s.toList < 2 ^ 63) :
    integer s = some (natOfDigits s.toList : ℤ) := by
  have hall : s.toList.all Char.isDigit = true :=
    List.all_eq_true.mpr fun c hc => isDigit_of_digit (h c hc)
  have hsign := scanSign_of_digits h
  have hlow : -2 ^ 63 ≤ (natOfDigits s.toList : ℤ) := by omega
  have hhigh : (natOfDigits s.toList : ℤ) < 2 ^ 63 := by exact_mod_cast hlt
  unfold integer
  rw [hsign]
  simp only [Bool.false_eq_true, if_false]
  rw [if_pos ⟨hne, hall, hlow, hhigh⟩]

/-- A text has no more characters than UTF-16 code units. -/
lemma length_le_utf16Length (s : String) : s.toList.length ≤ utf16Length s := by
  unfold utf16Length
  induction s.toList with
  | nil => rfl
  | cons c cs ih =>
    rw [List.map_cons, List.sum_cons, List.length_cons]
    split_ifs <;> omega

end Aoun
