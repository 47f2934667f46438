import Mathlib.Algebra.GroupWithZero.Nat
import Mathlib.Data.List.Basic
import Aoun.Lib.Regex

/-!
# The texts that the forms check

How the forms trim and edit a text, and the checks of `Utilities`, which are regular expressions
that `NSPredicate` matches against a whole text. Characters are counted as `Char`s.

## Main definitions

* `Aoun.trimmed` — `trimmingCharacters(in: .whitespacesAndNewlines)`.
* `Aoun.replacingCharacters` — a text with a range of it replaced.
* `Aoun.Utilities.isPasswordValid`, `isValidName`, `isValidEmail` — the checks.

## Main results

* `Aoun.Utilities.isPasswordValid_iff` — which texts are taken for a password.
* `Aoun.Utilities.isValidName_iff` — which texts are taken for a name.
* `Aoun.Utilities.isValidEmail_iff` — which texts are taken for an email address.
-/

set_option relaxedAutoImplicit false
set_option autoImplicit false

namespace Aoun

/-! ## White space -/

/-- `CharacterSet.whitespacesAndNewlines`: the separators of Unicode (its categories `Z`), the
tab, and the characters from `U+000A` to `U+000D` and `U+0085`. -/
def isWhitespaceOrNewline (c : Char) : Bool :=
  let n := c.toNat
  n = 0x20 ∨ n = 0xA0 ∨ n = 0x1680 ∨ (0x2000 ≤ n ∧ n ≤ 0x200A) ∨ n = 0x2028 ∨ n = 0x2029 ∨
    n = 0x202F ∨ n = 0x205F ∨ n = 0x3000 ∨ (0x09 ≤ n ∧ n ≤ 0x0D) ∨ n = 0x85

/-- `trimmingCharacters(in: .whitespacesAndNewlines)`. -/
def trimmed (s : String) : String :=
  String.ofList ((s.toList.dropWhile isWhitespaceOrNewline).reverse.dropWhile
    isWhitespaceOrNewline).reverse

/-! ## Editing -/

/-- `replacingCharacters(in:with:)`, for the range of `length` characters at `location`. -/
def replacingCharacters (text : String) (location length : ℕ) (string : String) : String :=
  String.ofList (text.toList.take location ++ string.toList ++ text.toList.drop (location + length))

/-- The length of a text after an edit of a range inside it. -/
lemma length_replacingCharacters {text : String} {location length : ℕ}
    (h : location + length ≤ text.length) (string : String) :
    (replacingCharacters text location length string).length + length =
      text.length + string.length := by
  simp only [replacingCharacters, String.length_ofList, List.length_append, List.length_take,
    List.length_drop, String.length_toList]
  omega

/-- `NSString.length`, which counts UTF-16 code units. -/
def utf16Length (s : String) : ℕ :=
  (s.toList.map fun c => if c.toNat < 0x10000 then 1 else 2).sum

/-! ## Classes of characters -/

/-- `[a-z]`. -/
def lowercase (c : Char) : Bool := 'a' ≤ c ∧ c ≤ 'z'

/-- `[a-zA-Z]`. -/
def letter (c : Char) : Bool := lowercase c ∨ ('A' ≤ c ∧ c ≤ 'Z')

/-- `[0-9]`. -/
def digit (c : Char) : Bool := '0' ≤ c ∧ c ≤ '9'

/-- The zeros of the decimal digits of Unicode (its category `Nd`). -/
def decimalZeros : List ℕ :=
  [0x30, 0x660, 0x6F0, 0x7C0, 0x966, 0x9E6, 0xA66, 0xAE6, 0xB66, 0xBE6, 0xC66, 0xCE6, 0xD66,
    0xDE6, 0xE50, 0xED0, 0xF20, 0x1040, 0x1090, 0x17E0, 0x1810, 0x1946, 0x19D0, 0x1A80, 0x1A90,
    0x1B50, 0x1BB0, 0x1C40, 0x1C50, 0xA620, 0xA8D0, 0xA900, 0xA9D0, 0xA9F0, 0xAA50, 0xABF0,
    0xFF10, 0x104A0, 0x10D30, 0x11066, 0x110F0, 0x11136, 0x111D0, 0x112F0, 0x11450, 0x114D0,
    0x11650, 0x116C0, 0x11730, 0x118E0, 0x11950, 0x11C50, 0x11D50, 0x11DA0, 0x16A60, 0x16AC0,
    0x16B50, 0x1D7CE, 0x1D7D8, 0x1D7E2, 0x1D7EC, 0x1D7F6, 0x1E140, 0x1E2F0, 0x1E950, 0x1FBF0]

/-- `\d`, any decimal digit of Unicode. -/
def decimalDigit (c : Char) : Bool :=
  decimalZeros.any fun first => first ≤ c.toNat ∧ c.toNat < first + 10

/-- `.`, anything but a line terminator. -/
def anyCharacter (c : Char) : Bool :=
  let n := c.toNat
  ¬ ((0x0A ≤ n ∧ n ≤ 0x0D) ∨ n = 0x85 ∨ n = 0x2028 ∨ n = 0x2029)

/-- `[$@$#!%*?&]`. -/
def special (c : Char) : Bool := c ∈ ['$', '@', '#', '!', '%', '*', '?', '&']

/-- `[A-Za-z\d$@$#!%*?&]`. -/
def passwordCharacter (c : Char) : Bool := letter c ∨ decimalDigit c ∨ special c

/-! ## The checks -/

namespace Utilities

open Regex

/-- `^(?=.*[a-z])(?=.*[$@$#!%*?&])[A-Za-z\d$@$#!%*?&]{8,}`. -/
def passwordTest : Regex :=
  seq start (seq (ahead (seq (atLeast 0 anyCharacter) (cls lowercase)))
    (seq (ahead (seq (atLeast 0 anyCharacter) (cls special))) (atLeast 8 passwordCharacter)))

/-- `isPasswordValid(_:)`. -/
def isPasswordValid (password : String) : Bool := passwordTest.fullMatch password

/-- `^(([^ ]?)(^[a-zA-Z].*[a-zA-Z]$)([^ ]?))$`. -/
def predicateTest : Regex :=
  seq start (seq (opt fun c => c ≠ ' ') (seq start (seq (cls letter)
    (seq (atLeast 0 anyCharacter) (seq (cls letter) (seq stop
      (seq (opt fun c => c ≠ ' ') stop)))))))

/-- `isValidName(testStr:)`. -/
def isValidName (testStr : String) : Bool :=
  2 < testStr.length ∧ testStr.length < 14 ∧ predicateTest.fullMatch testStr

/-- `[A-Z0-9a-z._%+-]+@[A-Za-z0-9.-]+\.[A-Za-z]{2,}`. -/
def emailTest : Regex :=
  seq (atLeast 1 fun c => letter c ∨ digit c ∨ c ∈ ['.', '_', '%', '+', '-'])
    (seq (cls fun c => c = '@') (seq (atLeast 1 fun c => letter c ∨ digit c ∨ c ∈ ['.', '-'])
      (seq (cls fun c => c = '.') (atLeast 2 letter))))

/-- `isValidEmail(_:)`. -/
def isValidEmail (email : String) : Bool := emailTest.fullMatch email

/-- No character of a password ends a line. -/
lemma anyCharacter_of_passwordCharacter {c : Char} (h : passwordCharacter c = true) :
    anyCharacter c = true := by
  by_contra hc
  simp only [anyCharacter, decide_eq_true_eq, not_not] at hc
  have hn : (c.toNat = 0x0A ∨ c.toNat = 0x0B ∨ c.toNat = 0x0C ∨ c.toNat = 0x0D) ∨
      c.toNat = 0x85 ∨ c.toNat = 0x2028 ∨ c.toNat = 0x2029 := by omega
  have hchar : ∀ n, c.toNat = n → c = Char.ofNat n := by
    rintro n rfl
    exact (Char.ofNat_toNat c).symm
  rcases hn with (hn | hn | hn | hn) | hn | hn | hn <;>
    (rw [hchar _ hn] at h; revert h; decide)

/-- **Which texts are taken for a password.** It is made of at least eight letters, digits and
special characters, one of them a lowercase letter, and one special. -/
theorem isPasswordValid_iff (s : String) : isPasswordValid s = true ↔ 8 ≤ s.length ∧
    (∀ c ∈ s.toList, passwordCharacter c = true) ∧ (∃ c ∈ s.toList, lowercase c = true) ∧
    ∃ c ∈ s.toList, special c = true := by
  rw [isPasswordValid, fullMatch_iff]
  constructor
  · rintro ⟨before, hmatch⟩
    obtain ⟨p₁, h₁, hmatch⟩ := mem_ends_seq.mp hmatch
    obtain ⟨rfl, -⟩ := ends_start.mp h₁
    obtain ⟨p₂, h₂, hmatch⟩ := mem_ends_seq.mp hmatch
    obtain ⟨p₃, h₃, hmatch⟩ := mem_ends_seq.mp hmatch
    obtain rfl := (ends_ahead.mp h₂).1
    obtain rfl := (ends_ahead.mp h₃).1
    obtain ⟨cs, hs, -, hle, hp⟩ := mem_many.mp hmatch
    obtain rfl : s.toList = cs := by simpa using hs
    have hany : ∀ c ∈ s.toList, anyCharacter c = true :=
      fun c hc => anyCharacter_of_passwordCharacter (hp c hc)
    exact ⟨hle, hp, ((ends_ahead_find hany).mp h₂).2, ((ends_ahead_find hany).mp h₃).2⟩
  · rintro ⟨hle, hp, hlower, hspecial⟩
    have hany : ∀ c ∈ s.toList, anyCharacter c = true :=
      fun c hc => anyCharacter_of_passwordCharacter (hp c hc)
    refine ⟨s.toList.reverse, mem_ends_seq.mpr ⟨_, ends_start.mpr ⟨rfl, rfl⟩, ?_⟩⟩
    refine mem_ends_seq.mpr ⟨_, (ends_ahead_find hany).mpr ⟨rfl, hlower⟩, ?_⟩
    refine mem_ends_seq.mpr ⟨_, (ends_ahead_find hany).mpr ⟨rfl, hspecial⟩, ?_⟩
    exact mem_many.mpr ⟨s.toList, by simp, by simp, hle, hp⟩

/-- No letter ends a line. -/
lemma anyCharacter_of_letter {c : Char} (h : letter c = true) : anyCharacter c = true :=
  anyCharacter_of_passwordCharacter (by simp [passwordCharacter, h])

/-- What the expression for names matches: a letter, anything in one line, and a letter. -/
lemma predicateTest_iff (s : String) : predicateTest.fullMatch s = true ↔
    ∃ a mid b, s.toList = a :: (mid ++ [b]) ∧ letter a = true ∧ letter b = true ∧
      ∀ c ∈ mid, anyCharacter c = true := by
  rw [fullMatch_iff]
  constructor
  · rintro ⟨before, hmatch⟩
    obtain ⟨p₁, h₁, hmatch⟩ := mem_ends_seq.mp hmatch
    obtain ⟨rfl, -⟩ := ends_start.mp h₁
    obtain ⟨⟨b₂, a₂⟩, h₂, hmatch⟩ := mem_ends_seq.mp (ends_opt_start.mp hmatch)
    obtain ⟨⟨b₃, a₃⟩, h₃, hmatch⟩ := mem_ends_seq.mp hmatch
    obtain ⟨⟨b₄, a₄⟩, h₄, hmatch⟩ := mem_ends_seq.mp hmatch
    obtain ⟨-, rfl⟩ := ends_stop_opt.mp hmatch
    obtain ⟨a, ha, hs, -⟩ := ends_cls.mp h₂
    obtain ⟨mid, rfl, -, -, hmid⟩ := mem_many.mp h₃
    obtain ⟨b, hb, rfl, -⟩ := ends_cls.mp h₄
    exact ⟨a, mid, b, hs, ha, hb, hmid⟩
  · rintro ⟨a, mid, b, hs, ha, hb, hmid⟩
    refine ⟨b :: (mid.reverse ++ [a]), mem_ends_seq.mpr ⟨_, ends_start.mpr ⟨rfl, rfl⟩, ?_⟩⟩
    refine ends_opt_start.mpr (mem_ends_seq.mpr ⟨([a], mid ++ [b]), ?_, ?_⟩)
    · exact ends_cls.mpr ⟨a, ha, hs, rfl⟩
    refine mem_ends_seq.mpr ⟨(mid.reverse ++ [a], [b]), ?_, ?_⟩
    · exact mem_many.mpr ⟨mid, rfl, rfl, Nat.zero_le _, hmid⟩
    refine mem_ends_seq.mpr ⟨(b :: (mid.reverse ++ [a]), []), ?_, ends_stop_opt.mpr ⟨rfl, rfl⟩⟩
    exact ends_cls.mpr ⟨b, hb, rfl, rfl⟩

/-- **Which texts are taken for a name.** It has three to thirteen characters in one line, and its
first and its last character are letters. -/
theorem isValidName_iff (s : String) : isValidName s = true ↔ (3 ≤ s.length ∧ s.length ≤ 13) ∧
    s.toList.head?.any letter = true ∧ s.toList.getLast?.any letter = true ∧
    ∀ c ∈ s.toList, anyCharacter c = true := by
  have hlength : s.length = s.toList.length := rfl
  have hconcat : ∀ (a b : Char) mid, (a :: (mid ++ [b])).getLast? = some b := by
    intro a b mid
    rw [← List.cons_append, List.getLast?_concat]
  rw [isValidName, decide_eq_true_eq, predicateTest_iff]
  constructor
  · rintro ⟨h₁, h₂, a, mid, b, hs, ha, hb, hmid⟩
    refine ⟨⟨h₁, Nat.le_of_lt_succ h₂⟩, by simp [hs, ha], by simp [hs, hconcat, hb], ?_⟩
    rw [hs]
    intro c hc
    rcases List.mem_cons.mp hc with rfl | hc
    · exact anyCharacter_of_letter ha
    · rcases List.mem_append.mp hc with hc | hc
      · exact hmid c hc
      · rw [List.mem_singleton.mp hc]
        exact anyCharacter_of_letter hb
  · rintro ⟨⟨h₁, h₂⟩, hfirst, hlast, hany⟩
    refine ⟨h₁, Nat.lt_succ_of_le h₂, ?_⟩
    -- with three characters there is a first one, and a last one besides
    cases hs : s.toList with
    | nil => simp [hs] at hfirst
    | cons a l =>
      rcases List.eq_nil_or_concat l with rfl | ⟨mid, b, rfl⟩
      · rw [hlength, hs] at h₁
        simp at h₁
      · rw [List.concat_eq_append] at hs ⊢
        rw [hs] at hfirst hlast hany
        rw [hconcat] at hlast
        exact ⟨a, mid, b, rfl, hfirst, hlast, fun c hc => hany c (by simp [hc])⟩

/-- An email address is made of a name, a domain and, after the last dot, letters. -/
structure EmailParts (email : String) (name domain tld : List Char) : Prop where
  text : email.toList = name ++ '@' :: (domain ++ '.' :: tld)
  name : 1 ≤ name.length ∧
    ∀ c ∈ name, letter c = true ∨ digit c = true ∨ c ∈ ['.', '_', '%', '+', '-']
  domain : 1 ≤ domain.length ∧
    ∀ c ∈ domain, letter c = true ∨ digit c = true ∨ c ∈ ['.', '-']
  tld : 2 ≤ tld.length ∧ ∀ c ∈ tld, letter c = true

/-- What the expression for email addresses matches. -/
lemma emailTest_iff (email : String) :
    emailTest.fullMatch email = true ↔ ∃ name domain tld, EmailParts email name domain tld := by
  rw [fullMatch_iff]
  constructor
  · rintro ⟨before, hmatch⟩
    obtain ⟨⟨b₁, a₁⟩, h₁, hmatch⟩ := mem_ends_seq.mp hmatch
    obtain ⟨⟨b₂, a₂⟩, h₂, hmatch⟩ := mem_ends_seq.mp hmatch
    obtain ⟨⟨b₃, a₃⟩, h₃, hmatch⟩ := mem_ends_seq.mp hmatch
    obtain ⟨⟨b₄, a₄⟩, h₄, hmatch⟩ := mem_ends_seq.mp hmatch
    obtain ⟨name, htext, -, hname⟩ := mem_many.mp h₁
    obtain ⟨c, hc, hat, -⟩ := ends_cls.mp h₂
    obtain ⟨domain, hdomain, -, hdomain'⟩ := mem_many.mp h₃
    obtain ⟨d, hd, hdot, -⟩ := ends_cls.mp h₄
    obtain ⟨tld, htld, -, htld'⟩ := mem_many.mp hmatch
    obtain rfl : c = '@' := by simpa using hc
    obtain rfl : d = '.' := by simpa using hd
    refine ⟨name, domain, tld, ?_, by simpa using hname, by simpa using hdomain',
      by simpa using htld'⟩
    simp only [List.append_nil] at htext hat hdomain hdot htld
    rw [htext, hat, hdomain, hdot, htld]
  · rintro ⟨name, domain, tld, htext, hname, hdomain, htld⟩
    rw [htext]
    refine ⟨tld.reverse ++ '.' :: (domain.reverse ++ '@' :: name.reverse), ?_⟩
    refine mem_ends_seq.mpr ⟨(name.reverse, '@' :: (domain ++ '.' :: tld)), ?_, ?_⟩
    · exact mem_many.mpr ⟨name, rfl, by simp, by simpa using hname⟩
    refine mem_ends_seq.mpr ⟨('@' :: name.reverse, domain ++ '.' :: tld), ?_, ?_⟩
    · exact ends_cls.mpr ⟨'@', by decide, rfl, rfl⟩
    refine mem_ends_seq.mpr ⟨(domain.reverse ++ '@' :: name.reverse, '.' :: tld), ?_, ?_⟩
    · exact mem_many.mpr ⟨domain, rfl, rfl, by simpa using hdomain⟩
    refine mem_ends_seq.mpr ⟨('.' :: (domain.reverse ++ '@' :: name.reverse), tld), ?_, ?_⟩
    · exact ends_cls.mpr ⟨'.', by decide, rfl, rfl⟩
    · exact mem_many.mpr ⟨tld, by simp, rfl, by simpa using htld⟩

/-- The name of an address is what stands before its first `@`. -/
lemma EmailParts.name_eq {email : String} {name domain tld : List Char}
    (h : EmailParts email name domain tld) : name = email.toList.takeWhile (· != '@') := by
  have hname : ∀ c ∈ name, (c != '@') = true := by
    intro c hc
    rw [bne_iff_ne]
    rintro rfl
    exact absurd (h.name.2 _ hc) (by decide)
  rw [h.text, List.takeWhile_append_of_pos hname, List.takeWhile_cons_of_neg (by simp),
    List.append_nil]

/-- Its letters at the end are what stands after its last `.`. -/
lemma EmailParts.tld_eq {email : String} {name domain tld : List Char}
    (h : EmailParts email name domain tld) :
    tld = (email.toList.reverse.takeWhile (· != '.')).reverse := by
  have htld : ∀ c ∈ tld.reverse, (c != '.') = true := by
    intro c hc
    rw [bne_iff_ne]
    rintro rfl
    exact absurd (h.tld.2 _ (List.mem_reverse.mp hc)) (by decide)
  have hreverse : email.toList.reverse =
      tld.reverse ++ '.' :: (domain.reverse ++ '@' :: name.reverse) := by simp [h.text]
  rw [hreverse, List.takeWhile_append_of_pos htld, List.takeWhile_cons_of_neg (by simp),
    List.append_nil, List.reverse_reverse]

/-- An address has its parts in one way only, whatever else of `@` and `.` is in it. -/
lemma EmailParts.unique {email : String} {name domain tld name' domain' tld' : List Char}
    (h : EmailParts email name domain tld) (h' : EmailParts email name' domain' tld') :
    name' = name ∧ domain' = domain ∧ tld' = tld := by
  obtain rfl : name' = name := h'.name_eq.trans h.name_eq.symm
  obtain rfl : tld' = tld := h'.tld_eq.trans h.tld_eq.symm
  have htext := h'.text.symm.trans h.text
  have hdomain := List.cons_inj_right _ |>.mp (List.append_cancel_left htext)
  exact ⟨rfl, List.append_cancel_right hdomain, rfl⟩

/-- **Which texts are taken for an email address.** Those that have the parts of one, which is then
so in one way only. -/
theorem isValidEmail_iff (email : String) : isValidEmail email = true ↔
    ∃! p : List Char × List Char × List Char, EmailParts email p.1 p.2.1 p.2.2 := by
  rw [isValidEmail, emailTest_iff]
  constructor
  · rintro ⟨name, domain, tld, h⟩
    refine ⟨(name, domain, tld), h, ?_⟩
    rintro ⟨name', domain', tld'⟩ h'
    obtain ⟨hname, hdomain, htld⟩ := h.unique h'
    exact Prod.ext hname (Prod.ext hdomain htld)
  · rintro ⟨⟨name, domain, tld⟩, h, -⟩
    exact ⟨name, domain, tld, h⟩

example : isPasswordValid "passw0rd!" = true := by decide
example : isValidName "Sara" = true := by decide
example : isValidEmail "sara@aoun.com" = true := by decide

end Utilities

end Aoun
