import Mathlib.Algebra.Order.Field.Rat
import Mathlib.Data.Rat.Floor
import Mathlib.Tactic.Linarith
import Mathlib.Tactic.Ring
import Mathlib.Tactic.FieldSimp

/-!
# Amounts of money

Prices are posted as text in SAR and charged in USD. `Decimal` is exact arithmetic here, so
an amount is a rational number, and the text `"\(d)"` of an amount `d` is the number it
denotes. What `String(format: "%.2f", …)` shows is the amount rounded to cents.

## Main definitions

* `Aoun.decimal` — `Decimal(string:)`, which reads the longest number at the start.
* `Aoun.integer` — `Int(_:)`, which reads a whole text or nothing.
* `Aoun.PriceUtils.usd`, `Aoun.PriceUtils.usdFigure`, `Aoun.PriceUtils.usdString` — the
  conversion, and the figure the confirmation sheets display, as a number and as text.

## Main results

* `Aoun.PriceUtils.abs_usdFigure_sub_le` — the displayed figure is within half a cent.
* `Aoun.PriceUtils.usdFigure_eq_usd_iff` — it is the converted amount exactly when that is a
  whole number of cents.
-/

set_option relaxedAutoImplicit false
set_option autoImplicit false

namespace Aoun

/-! ## Reading numbers -/

/-- The number written by decimal digits. -/
def natOfDigits (ds : List Char) : ℕ :=
  ds.foldl (fun n d => 10 * n + (d.toNat - '0'.toNat)) 0

/-- An optional sign (`true` for a minus), and what follows it. -/
def scanSign : List Char → Bool × List Char
  | '-' :: cs => (true, cs)
  | '+' :: cs => (false, cs)
  | cs => (false, cs)

/-- The exponent `e±digits` at the start of the text, `0` if there is none. -/
def scanExponent : List Char → ℤ
  | c :: cs =>
    let ds := (scanSign cs).2.takeWhile Char.isDigit
    if (c = 'e' ∨ c = 'E') ∧ ds ≠ [] then
      if (scanSign cs).1 then -(natOfDigits ds : ℤ) else natOfDigits ds
    else 0
  | [] => 0

/-- `Decimal(string:)`: white space, a sign, digits with an optional fraction, and an optional
exponent; what follows the number is ignored, and without a digit there is no number. -/
def decimal (s : String) : Option ℚ :=
  let (neg, cs) := scanSign (s.toList.dropWhile Char.isWhitespace)
  let ip := cs.takeWhile Char.isDigit
  let rest := cs.dropWhile Char.isDigit
  let fp := if rest.head? = some '.' then rest.tail.takeWhile Char.isDigit else []
  let rest := if rest.head? = some '.' then rest.tail.dropWhile Char.isDigit else rest
  if ip = [] ∧ fp = [] then none
  else
    let m : ℚ := natOfDigits (ip ++ fp) / 10 ^ fp.length * (10 : ℚ) ^ scanExponent rest
    some (if neg then -m else m)

/-- `Int(_:)`: a sign and digits, nothing else, within 64 bits. -/
def integer (s : String) : Option ℤ :=
  let (neg, ds) := scanSign s.toList
  let n : ℤ := if neg then -(natOfDigits ds : ℤ) else natOfDigits ds
  if ds ≠ [] ∧ ds.all Char.isDigit ∧ -2 ^ 63 ≤ n ∧ n < 2 ^ 63 then some n else none

/-- `String(format: "%03d", n)`. -/
def format03d (n : ℕ) : String :=
  String.ofList (List.replicate (3 - (toString n).length) '0') ++ toString n

/-- The digits of a padded number read as the number. -/
lemma natOfDigits_format03d (n : ℕ) : natOfDigits (format03d n).toList = n := by
  have hread : ∀ ds, natOfDigits ds = Nat.ofDigitChars 10 ds 0 := fun _ => rfl
  rw [hread, format03d, String.toList_append, String.toList_ofList, Nat.ofDigitChars_append,
    Nat.ofDigitChars_replicate_zero, Nat.mul_zero, Nat.toString_eq_ofList_toDigits,
    String.toList_ofList]
  exact Nat.ofDigitChars_ten_toDigits

/-- A price is read from a non-empty text that denotes a positive number. -/
def positiveDecimal (s : String) : Option ℚ :=
  if 0 < s.length then (decimal s).filter fun d => 0 < d else none

lemma positiveDecimal_pos {s : String} {d : ℚ} (h : positiveDecimal s = some d) : 0 < d := by
  unfold positiveDecimal at h
  split_ifs at h
  simpa using (Option.filter_eq_some_iff.mp h).2

/-! ## Conversion -/

/-- SAR for one USD. -/
def K_SAR_TO_USD_CONVERSION_RATE : ℚ := 15 / 4

namespace PriceUtils

/-- `PriceUtils.usd(fromSAR:)`. -/
def usd (sar : ℚ) : ℚ := sar / K_SAR_TO_USD_CONVERSION_RATE

/-- An amount in cents, rounded to the nearest. -/
def cents (d : ℚ) : ℤ := ⌊d * 100 + 1 / 2⌋

/-- The amount shown by `String(format: "%.2f", d)`. -/
def shown (d : ℚ) : ℚ := cents d / 100

/-- The text of an amount in cents: units, a point, two digits. -/
def formatCents (c : ℤ) : String :=
  (if c < 0 then "-" else "") ++ toString (c.natAbs / 100) ++ "." ++
    toString (c.natAbs % 100 / 10) ++ toString (c.natAbs % 10)

/-- The figure of `PriceUtils.usdString(fromSAR:)`. -/
def usdFigure (sar : ℚ) : ℚ := shown (usd sar)

/-- `PriceUtils.usdString(fromSAR:)`. -/
def usdString (sar : ℚ) : String := formatCents (cents (usd sar))

example : usdString 15 = "4.00" := by decide +kernel
example : usdString 10 = "2.67" := by decide +kernel

/-- Rounding to cents moves an amount by at most half a cent. -/
lemma abs_shown_sub_le (d : ℚ) : |shown d - d| ≤ 1 / 200 := by
  have h₁ : ((cents d : ℤ) : ℚ) ≤ d * 100 + 1 / 2 := Int.floor_le _
  have h₂ : d * 100 + 1 / 2 < (cents d : ℤ) + 1 := Int.lt_floor_add_one _
  unfold shown
  rw [abs_le]
  constructor <;> linarith

/-- The displayed figure is within half a cent of the converted amount. -/
theorem abs_usdFigure_sub_le (sar : ℚ) : |usdFigure sar - usd sar| ≤ 1 / 200 :=
  abs_shown_sub_le _

/-- Rounding to cents changes nothing exactly on whole numbers of cents. -/
lemma shown_eq_iff (d : ℚ) : shown d = d ↔ ∃ k : ℤ, d = k / 100 := by
  constructor
  · intro h
    exact ⟨cents d, h.symm⟩
  · rintro ⟨k, rfl⟩
    have hk : cents ((k : ℚ) / 100) = k := by
      unfold cents
      rw [Int.floor_eq_iff]
      constructor <;> linarith
    rw [shown, hk]

/-- The displayed figure is the converted amount exactly when that is a whole number of
cents, that is, when the amount in SAR is a multiple of `0.0375`. -/
theorem usdFigure_eq_usd_iff (sar : ℚ) :
    usdFigure sar = usd sar ↔ ∃ k : ℤ, sar = k * (3 / 80) := by
  rw [usdFigure, shown_eq_iff]
  refine exists_congr fun k => ?_
  unfold usd K_SAR_TO_USD_CONVERSION_RATE
  constructor <;> intro h <;> linarith

end PriceUtils

end Aoun
