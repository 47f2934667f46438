import Mathlib.Data.List.Basic

/-!
# Regular expressions with anchors and lookahead

The regular expressions that validate short texts: classes of characters, repeated or
optional, one after another, with anchors and with lookahead. A match starts at a place of a
text and may end at several places after it.

## Main definitions

* `Regex` — the expressions.
* `Regex.ends` — the places where the matches that start at a place end.
* `Regex.fullMatch` — the expression matches a whole text.

## Main results

* `Regex.mem_many`, `Regex.mem_ends_seq`, `Regex.ends_ahead`, `Regex.ends_opt` — what the
  constructors match.
-/

set_option relaxedAutoImplicit false
set_option autoImplicit false

/-- Regular expressions. -/
inductive Regex
  /-- One character of a class. -/
  | cls (p : Char → Bool)
  /-- At most one character of a class. -/
  | opt (p : Char → Bool)
  /-- At least `n` characters of a class. -/
  | atLeast (n : ℕ) (p : Char → Bool)
  /-- The start of the text. -/
  | start
  /-- The end of the text. -/
  | stop
  /-- What follows matches. -/
  | ahead (r : Regex)
  /-- One expression after the other. -/
  | seq (r r' : Regex)

namespace Regex

/-- A place in a text: what is before it, the last character first, and what follows. -/
abbrev Place := List Char × List Char

/-- The places reached by at least `n` characters of a class. -/
def many (p : Char → Bool) : ℕ → List Char → List Char → List Place
  | 0, before, [] => [(before, [])]
  | 0, before, c :: cs => (before, c :: cs) :: if p c then many p 0 (c :: before) cs else []
  | _ + 1, _, [] => []
  | n + 1, before, c :: cs => if p c then many p n (c :: before) cs else []

/-- The places where the matches that start at a place end. -/
def ends : Regex → Place → List Place
  | cls _, (_, []) => []
  | cls p, (before, c :: cs) => if p c then [(c :: before, cs)] else []
  | opt _, (before, []) => [(before, [])]
  | opt p, (before, c :: cs) => (before, c :: cs) :: if p c then [(c :: before, cs)] else []
  | atLeast n p, (before, after) => many p n before after
  | start, (before, after) => if before = [] then [(before, after)] else []
  | stop, (before, after) => if after = [] then [(before, after)] else []
  | ahead r, place => if r.ends place = [] then [] else [place]
  | seq r r', place => (r.ends place).flatMap r'.ends

/-- The expression matches the whole text. -/
def fullMatch (r : Regex) (s : String) : Bool :=
  (r.ends ([], s.toList)).any fun place => place.2.isEmpty

/-! ## What the constructors match -/

/-- At least `n` characters of a class have been read. -/
lemma mem_many {p : Char → Bool} {n : ℕ} {before after : List Char} {place : Place} :
    place ∈ many p n before after ↔ ∃ cs, after = cs ++ place.2 ∧
      place.1 = cs.reverse ++ before ∧ n ≤ cs.length ∧ ∀ c ∈ cs, p c = true := by
  induction after generalizing n before with
  | nil =>
    cases n with
    | zero =>
      constructor
      · intro h
        obtain rfl := List.mem_singleton.mp h
        exact ⟨[], by simp⟩
      · rintro ⟨cs, hafter, hbefore, -, -⟩
        obtain ⟨rfl, hrest⟩ := List.append_eq_nil_iff.mp hafter.symm
        exact List.mem_singleton.mpr (Prod.ext (by simpa using hbefore) hrest)
    | succ n =>
      constructor
      · intro h; cases h
      · rintro ⟨cs, hafter, -, hle, -⟩
        obtain ⟨rfl, -⟩ := List.append_eq_nil_iff.mp hafter.symm
        simp at hle
  | cons c after ih =>
    -- either nothing is read, or the first character and then the rest
    have hread : ∀ n, (∃ cs, c :: after = cs ++ place.2 ∧ place.1 = cs.reverse ++ before ∧
        n ≤ cs.length ∧ ∀ d ∈ cs, p d = true) ↔
        (n = 0 ∧ place = (before, c :: after)) ∨
          (p c = true ∧ place ∈ many p (n - 1) (c :: before) after) := by
      intro n
      rw [ih]
      constructor
      · rintro ⟨cs, hafter, hbefore, hle, hp⟩
        cases cs with
        | nil => exact Or.inl ⟨by simpa using hle, Prod.ext (by simpa using hbefore)
            (by simpa using hafter.symm)⟩
        | cons d cs =>
          obtain ⟨rfl, rfl⟩ := List.cons.inj hafter
          refine Or.inr ⟨hp c (by simp), cs, rfl, by simpa using hbefore, ?_, fun d hd => ?_⟩
          · simp only [List.length_cons] at hle; omega
          · exact hp d (by simp [hd])
      · rintro (⟨rfl, rfl⟩ | ⟨hc, cs, rfl, hbefore, hle, hp⟩)
        · exact ⟨[], by simp⟩
        · refine ⟨c :: cs, by simp, by simpa using hbefore, ?_, ?_⟩
          · simp only [List.length_cons]; omega
          · intro d hd
            rcases List.mem_cons.mp hd with rfl | hd
            · exact hc
            · exact hp d hd
    rw [hread]
    cases n with
    | zero => by_cases hc : p c = true <;> simp [many, hc]
    | succ n => by_cases hc : p c = true <;> simp [many, hc]

lemma mem_ends_seq {r r' : Regex} {place place' : Place} :
    place' ∈ (seq r r').ends place ↔ ∃ mid ∈ r.ends place, place' ∈ r'.ends mid :=
  List.mem_flatMap

/-- Lookahead reads nothing. -/
lemma ends_ahead {r : Regex} {place place' : Place} :
    place' ∈ (ahead r).ends place ↔ place' = place ∧ ∃ mid, mid ∈ r.ends place := by
  rw [ends]
  split_ifs with h
  · simp [h]
  · simp [List.exists_mem_of_ne_nil _ h]

lemma ends_start {place place' : Place} :
    place' ∈ start.ends place ↔ place' = place ∧ place.1 = [] := by
  obtain ⟨before, after⟩ := place
  rw [ends]
  split_ifs with h <;> simp [h]

lemma ends_stop {place place' : Place} :
    place' ∈ stop.ends place ↔ place' = place ∧ place.2 = [] := by
  obtain ⟨before, after⟩ := place
  rw [ends]
  split_ifs with h <;> simp [h]

/-- An optional character is read or not. -/
lemma ends_opt {p : Char → Bool} {place place' : Place} :
    place' ∈ (opt p).ends place ↔
      place' = place ∨ ∃ c, p c = true ∧ place.2 = c :: place'.2 ∧ place'.1 = c :: place.1 := by
  obtain ⟨before, after⟩ := place
  cases after with
  | nil => simp [ends]
  | cons c cs =>
    obtain ⟨before', after'⟩ := place'
    by_cases hc : p c = true
    · simp only [ends, hc, if_true, List.mem_cons, List.not_mem_nil, or_false]
      refine or_congr_right ⟨?_, ?_⟩
      · intro heq
        obtain ⟨rfl, rfl⟩ := Prod.mk.inj heq
        exact ⟨c, hc, rfl, rfl⟩
      · rintro ⟨d, -, hcs, rfl⟩
        obtain ⟨rfl, rfl⟩ := List.cons.inj hcs
        rfl
    · simp only [ends, hc, Bool.false_eq_true, if_false, List.mem_singleton]
      refine (or_iff_left ?_).symm
      rintro ⟨d, hd, hcs, -⟩
      obtain ⟨rfl, -⟩ := List.cons.inj hcs
      exact absurd hd hc

/-- At the start of a text an optional character before its start is not read. -/
lemma ends_opt_start {p : Char → Bool} {r : Regex} {after : List Char} {place : Place} :
    place ∈ (seq (opt p) (seq start r)).ends ([], after) ↔ place ∈ r.ends ([], after) := by
  constructor
  · intro hmatch
    obtain ⟨mid, hopt, hrest⟩ := mem_ends_seq.mp hmatch
    obtain ⟨mid', hstart, hend⟩ := mem_ends_seq.mp hrest
    obtain ⟨rfl, hbefore⟩ := ends_start.mp hstart
    rcases ends_opt.mp hopt with rfl | ⟨c, -, -, hread⟩
    · exact hend
    · rw [hbefore] at hread
      cases hread
  · intro hmatch
    exact mem_ends_seq.mpr ⟨_, ends_opt.mpr (Or.inl rfl),
      mem_ends_seq.mpr ⟨_, ends_start.mpr ⟨rfl, rfl⟩, hmatch⟩⟩

/-- After the end of a text an optional character is not read. -/
lemma ends_stop_opt {p : Char → Bool} {place place' : Place} :
    place' ∈ (seq stop (seq (opt p) stop)).ends place ↔ place' = place ∧ place.2 = [] := by
  constructor
  · intro hmatch
    obtain ⟨mid, hstop, hrest⟩ := mem_ends_seq.mp hmatch
    obtain ⟨rfl, hafter⟩ := ends_stop.mp hstop
    obtain ⟨mid', hopt, hend⟩ := mem_ends_seq.mp hrest
    obtain ⟨rfl, -⟩ := ends_stop.mp hend
    rcases ends_opt.mp hopt with rfl | ⟨c, -, hread, -⟩
    · exact ⟨rfl, hafter⟩
    · rw [hafter] at hread
      cases hread
  · rintro ⟨rfl, hafter⟩
    exact mem_ends_seq.mpr ⟨_, ends_stop.mpr ⟨rfl, hafter⟩,
      mem_ends_seq.mpr ⟨_, ends_opt.mpr (Or.inl rfl), ends_stop.mpr ⟨rfl, hafter⟩⟩⟩

lemma ends_cls {p : Char → Bool} {before after : List Char} {place : Place} :
    place ∈ (cls p).ends (before, after) ↔
      ∃ c, p c = true ∧ after = c :: place.2 ∧ place.1 = c :: before := by
  cases after with
  | nil => simp [ends]
  | cons c cs =>
    by_cases hc : p c = true
    · simp only [ends, hc, if_true, List.mem_singleton, List.cons.injEq]
      constructor
      · rintro rfl
        exact ⟨c, hc, ⟨rfl, rfl⟩, rfl⟩
      · rintro ⟨d, -, ⟨rfl, hrest⟩, hbefore⟩
        exact Prod.ext hbefore hrest.symm
    · simp only [ends, hc]
      constructor
      · intro h; cases h
      · rintro ⟨d, hd, hdc, -⟩
        obtain ⟨rfl, -⟩ := List.cons.inj hdc
        exact absurd hd hc

lemma fullMatch_iff {r : Regex} {s : String} :
    r.fullMatch s = true ↔ ∃ before, (before, []) ∈ r.ends ([], s.toList) := by
  rw [fullMatch, List.any_eq_true]
  constructor
  · rintro ⟨⟨before, after⟩, hmem, hnil⟩
    obtain rfl : after = [] := by simpa using hnil
    exact ⟨before, hmem⟩
  · rintro ⟨before, hmem⟩
    exact ⟨(before, []), hmem, rfl⟩

/-- A text contains a character of a class exactly where it can be found by lookahead, skipping
what comes before it. -/
lemma ends_ahead_find {p q : Char → Bool} {s : List Char} (hq : ∀ c ∈ s, q c = true)
    {place : Place} : place ∈ (ahead (seq (atLeast 0 q) (cls p))).ends ([], s) ↔
      place = ([], s) ∧ ∃ c ∈ s, p c = true := by
  rw [ends_ahead]
  refine and_congr_right fun _ => ⟨?_, ?_⟩
  · rintro ⟨last, hlast⟩
    obtain ⟨⟨b, a⟩, hmid, hfound⟩ := mem_ends_seq.mp hlast
    obtain ⟨c, hc, rfl, -⟩ := ends_cls.mp hfound
    obtain ⟨cs, hs, -⟩ := mem_many.mp hmid
    exact ⟨c, by rw [hs]; simp, hc⟩
  · rintro ⟨c, hc, hp⟩
    obtain ⟨l, r, rfl⟩ := List.append_of_mem hc
    refine ⟨(c :: l.reverse, r), mem_ends_seq.mpr ⟨(l.reverse, c :: r), ?_, ?_⟩⟩
    · exact mem_many.mpr ⟨l, rfl, by simp, Nat.zero_le _, fun d hd => hq d (by simp [hd])⟩
    · exact ends_cls.mpr ⟨c, hp, rfl, rfl⟩

end Regex
