import Mathlib.Data.List.Basic
import Aoun.Lib.Run

/-!
# Text boxes that a user and a program write

A user edits the text in a box, a range of it at a time, and a program overwrites it. From the
text alone one cannot tell whose it is. Along a run of the system that the box belongs to, a
sheet is kept beside the text: it says of every character whether the user has entered it, and
holds on to what the program wrote over. What the user has entered and not deleted can be read
off it.

A box with a placeholder starts with the placeholder as its text. The program puts it back into
the box where that is empty, and clears the box at some steps.

## Main definitions

* `TextBox.Edit` — an edit of a range of a text.
* `TextBox.Sheet` — what is kept beside the text.
* `TextBox` — a system with a text that is edited.
* `TextBox.HasPlaceholder` — how the program treats a box with a placeholder.
* `TextBox.KeepsEntered` — the text is what the user has entered and not deleted, or the
  placeholder if that is nothing.

## Main results

* `TextBox.throughoutAfter_keepsEntered_iff` — when a box keeps what the user has entered
  throughout a run.
-/

set_option relaxedAutoImplicit false
set_option autoImplicit false

open StepSystem

namespace TextBox

variable {α : Type*}

/-! ## Edits -/

/-- An edit: `length` characters at `location` are replaced by `new`. -/
structure Edit (α : Type*) where
  location : ℕ
  length : ℕ
  new : List α

namespace Edit

/-- The text after an edit. -/
def apply (e : Edit α) (text : List α) : List α :=
  text.take e.location ++ e.new ++ text.drop (e.location + e.length)

/-- The range is inside the text. -/
def Inside (e : Edit α) (text : List α) : Prop := e.location + e.length ≤ text.length

/-- The edit with other characters. -/
def map {β : Type*} (f : α → β) (e : Edit α) : Edit β := ⟨e.location, e.length, e.new.map f⟩

/-- The edit replaces all of the text, or nothing by nothing. -/
def AllOrNothing (e : Edit α) (text : List α) : Prop :=
  (e.location = 0 ∧ e.length = text.length) ∨ (e.length = 0 ∧ e.new = [])

variable {e : Edit α} {text : List α}

lemma map_apply {β : Type*} (f : α → β) (e : Edit α) (text : List α) :
    (e.apply text).map f = (e.map f).apply (text.map f) := by
  simp [apply, map, List.map_take, List.map_drop]

/-- What an edit does to the length. -/
lemma length_apply (h : e.Inside text) :
    (e.apply text).length + e.length = text.length + e.new.length := by
  unfold Inside at h
  simp only [apply, List.length_append, List.length_take, List.length_drop]
  omega

/-- If only what is entered is left, then all of the text is replaced. -/
lemma all_of_apply_eq (hin : e.Inside text) (h : e.apply text = e.new) :
    e.location = 0 ∧ e.length = text.length := by
  have hlength := length_apply hin
  rw [h] at hlength
  unfold Inside at hin
  omega

end Edit

/-! ## Sheets -/

/-- A text with what is kept beside it. -/
structure Sheet (α : Type*) where
  /-- The characters of the text, each with whether the user has entered it. -/
  slots : List (α × Bool)
  /-- What the user had entered where the program wrote over it. -/
  lost : List α

namespace Sheet

/-- A text that the user has entered. -/
def typed (text : List α) : Sheet α := ⟨text.map (·, true), []⟩

/-- A text that the program has written. -/
def written (text : List α) : Sheet α := ⟨text.map (·, false), []⟩

/-- The text. -/
def text (s : Sheet α) : List α := s.slots.map Prod.fst

/-- What the user has entered and not deleted. -/
def entered (s : Sheet α) : List α := s.lost ++ (s.slots.filter Prod.snd).map Prod.fst

/-- The sheet after an edit of the user. -/
def edit (e : Edit α) (s : Sheet α) : Sheet α :=
  { s with slots := (e.map (·, true)).apply s.slots }

/-- The sheet after a step at which the program leaves `text` in the box. -/
def leave [DecidableEq α] (text : List α) (s : Sheet α) : Sheet α :=
  if text = s.text then s else ⟨text.map (·, false), s.entered⟩

@[simp] lemma text_typed (text : List α) : (typed text).text = text := by
  simp [typed, Sheet.text, Function.comp_def]

@[simp] lemma text_written (text : List α) : (written text).text = text := by
  simp [written, Sheet.text, Function.comp_def]

@[simp] lemma entered_typed (text : List α) : (typed text).entered = text := by
  simp [typed, entered, List.filter_map, Function.comp_def]

@[simp] lemma entered_written (text : List α) : (written text).entered = [] := by
  simp [written, entered, List.filter_map, Function.comp_def]

lemma text_edit (e : Edit α) (s : Sheet α) : (s.edit e).text = e.apply s.text := by
  simp [edit, Sheet.text, Edit.map_apply, Edit.map, Function.comp_def]

/-- An edit of a text that the user has entered. -/
lemma edit_typed (e : Edit α) (text : List α) : (typed text).edit e = typed (e.apply text) := by
  simp [typed, edit, Edit.map_apply]

/-- An edit of a text that the program has written enters the new characters. -/
lemma entered_edit_written (e : Edit α) (text : List α) :
    ((written text).edit e).entered = e.new := by
  simp [written, edit, entered, Edit.apply, Edit.map, ← List.map_take, ← List.map_drop,
    List.filter_map, Function.comp_def]

/-- It leaves nothing of the text if it replaces all of it. -/
lemma edit_written_all {e : Edit α} {text : List α}
    (h : e.location = 0 ∧ e.length = text.length) : (written text).edit e = typed e.new := by
  simp [written, edit, typed, Edit.apply, Edit.map, h.1, h.2]

lemma edit_nothing {e : Edit α} (h : e.length = 0 ∧ e.new = []) (s : Sheet α) :
    s.edit e = s := by
  simp [edit, Edit.apply, Edit.map, h.1, h.2]

section Leave

variable [DecidableEq α]

@[simp] lemma text_leave (text : List α) (s : Sheet α) : (s.leave text).text = text := by
  unfold leave
  split_ifs with h
  · exact h.symm
  · exact text_written text

/-- The program does not change what the user has entered and not deleted, unless it changes the
text. -/
lemma leave_text (s : Sheet α) : s.leave s.text = s := if_pos rfl

lemma entered_leave_typed {text text' : List α} (h : text' ≠ text) :
    ((typed text).leave text').entered = text := by
  have hleave : (typed text).leave text' = ⟨text'.map (·, false), (typed text).entered⟩ :=
    if_neg (by simpa using h)
  rw [hleave, entered_typed]
  simp [entered, List.filter_map, Function.comp_def]

lemma leave_of_entered {s : Sheet α} (h : s.entered = []) {text : List α} (hne : text ≠ s.text) :
    s.leave text = written text := by
  rw [leave, if_neg hne, h, written]

end Leave

/-- All of the text is the user's, or the box has the placeholder, untouched. -/
def Clean (placeholder : List α) (s : Sheet α) : Prop :=
  (∃ text, s = typed text) ∨ s = written placeholder

/-- The text is what the user has entered and not deleted, or the placeholder if that is
nothing. -/
def Keeps (placeholder : List α) (s : Sheet α) : Prop :=
  s.text = s.entered ∨ (s.entered = [] ∧ s.text = placeholder)

variable {placeholder : List α} {s : Sheet α}

lemma Clean.keeps (hs : s.Clean placeholder) : s.Keeps placeholder := by
  rcases hs with ⟨text, rfl⟩ | rfl
  · exact Or.inl (by simp)
  · exact Or.inr (by simp)

/-- Where the user has entered nothing, the box has the placeholder, untouched. -/
lemma Clean.eq_written (hs : s.Clean placeholder) (hne : placeholder ≠ [])
    (hentered : s.entered = []) (htext : s.text = placeholder) : s = written placeholder := by
  rcases hs with ⟨text, rfl⟩ | rfl
  · rw [entered_typed] at hentered
    rw [text_typed, hentered] at htext
    exact absurd htext.symm hne
  · rfl

/-- In an empty box nothing has been entered and not deleted. -/
lemma Clean.entered_eq_nil (hs : s.Clean placeholder) (htext : s.text = []) :
    s.entered = [] := by
  rcases hs.keeps with heq | ⟨hnil, -⟩
  · rw [← heq, htext]
  · exact hnil

/-- An edit that respects the placeholder. -/
lemma Clean.edit {e : Edit α} (hs : s.Clean placeholder)
    (he : s.entered = [] → s.text = placeholder → e.AllOrNothing placeholder) :
    (s.edit e).Clean placeholder := by
  rcases hs with ⟨text, rfl⟩ | rfl
  · exact Or.inl ⟨_, edit_typed e text⟩
  · rcases he (entered_written _) (text_written _) with hall | hnothing
    · exact Or.inl ⟨_, edit_written_all hall⟩
    · rw [edit_nothing hnothing]
      exact Or.inr rfl

/-- Any other edit mixes the placeholder with the text of the user. -/
lemma Clean.allOrNothing {e : Edit α} (hs : s.Clean placeholder) (hne : placeholder ≠ [])
    (hin : e.Inside s.text) (hkeeps : (s.edit e).Keeps placeholder) (hentered : s.entered = [])
    (htext : s.text = placeholder) : e.AllOrNothing placeholder := by
  obtain rfl := hs.eq_written hne hentered htext
  rw [text_written] at hin
  unfold Keeps at hkeeps
  rw [text_edit, text_written, entered_edit_written] at hkeeps
  rcases hkeeps with happly | ⟨hnew, happly⟩
  · exact Or.inl (Edit.all_of_apply_eq hin happly)
  · -- the edit leaves the placeholder as long as it is
    have hlength := Edit.length_apply hin
    rw [happly, hnew, List.length_nil] at hlength
    exact Or.inr ⟨by omega, hnew⟩

section Leave

variable [DecidableEq α]

/-- The program clears a box where nothing has been entered. -/
lemma Clean.leave_nil (hs : s.Clean placeholder) (hentered : s.entered = []) :
    (s.leave []).Clean placeholder := by
  by_cases htext : [] = s.text
  · rw [htext, leave_text]
    exact hs
  · rw [leave_of_entered hentered htext]
    exact Or.inl ⟨[], rfl⟩

/-- The program puts the placeholder into an empty box. -/
lemma Clean.leave_placeholder (hs : s.Clean placeholder) (hne : placeholder ≠ [])
    (htext : s.text = []) : (s.leave placeholder).Clean placeholder := by
  rw [leave_of_entered (hs.entered_eq_nil htext) (by rw [htext]; exact hne)]
  exact Or.inr rfl

/-- A box that the program clears has lost what was in it. -/
lemma Clean.entered_of_leave_nil (hs : s.Clean placeholder)
    (hkeeps : (s.leave []).Keeps placeholder) : s.entered = [] := by
  rcases hs with ⟨text, rfl⟩ | rfl
  · by_cases htext : text = []
    · rw [htext, entered_typed]
    · unfold Keeps at hkeeps
      rw [text_leave, entered_leave_typed (Ne.symm htext)] at hkeeps
      rcases hkeeps with heq | ⟨heq, -⟩
      · exact absurd heq.symm htext
      · exact absurd heq htext
  · exact entered_written _

end Leave

end Sheet

end TextBox

/-! ## Boxes -/

/-- A system whose states hold a text; at some steps an edit of the user is let through. -/
structure TextBox (σ ε α : Type*) where
  step : σ → ε → Option σ
  text : σ → List α
  edit : σ → ε → Option (TextBox.Edit α)

namespace TextBox

variable {σ ε α : Type*} (b : TextBox σ ε α) (placeholder : List α)

/-- An edit changes the text as it says; at the other steps the program clears the box, leaves
it, or puts the placeholder into it where it is empty. -/
structure HasPlaceholder (clears : σ → ε → Prop) : Prop where
  edited : ∀ {s e s' edit}, b.edit s e = some edit → b.step s e = some s' →
    ¬ clears s e ∧ edit.Inside (b.text s) ∧ b.text s' = edit.apply (b.text s)
  cleared : ∀ {s e s'}, b.edit s e = none → b.step s e = some s' → clears s e → b.text s' = []
  left : ∀ {s e s'}, b.edit s e = none → b.step s e = some s' → ¬ clears s e →
    b.text s' = b.text s ∨ (b.text s = [] ∧ b.text s' = placeholder)

section Sheets

variable [DecidableEq α]

/-- The sheet after a step. -/
def update (sheet : Sheet α) (s : σ) (e : ε) : Sheet α :=
  match b.edit s e, b.step s e with
  | some edit, _ => sheet.edit edit
  | none, some s' => sheet.leave (b.text s')
  | none, none => sheet

/-- The sheet after a run. -/
def sheet (h : List (σ × ε)) : Sheet α :=
  h.foldl (fun sheet p => b.update sheet p.1 p.2) (.written placeholder)

/-- The text is what the user has entered and not deleted, or the placeholder if that is
nothing. -/
def KeepsEntered (h : List (σ × ε)) (s : σ) : Prop :=
  b.text s = (b.sheet placeholder h).entered ∨
    ((b.sheet placeholder h).entered = [] ∧ b.text s = placeholder)

/-- An edit where the box has the placeholder is of all or nothing of it, and the box is cleared
only where nothing has been entered. -/
def Safe (clears : σ → ε → Prop) (h : List (σ × ε)) (s : σ) (e : ε) : Prop :=
  (∀ edit, b.edit s e = some edit → (b.sheet placeholder h).entered = [] →
    b.text s = placeholder → edit.AllOrNothing placeholder) ∧
  (clears s e → (b.sheet placeholder h).entered = [])

variable {b placeholder} {clears : σ → ε → Prop} {s₀ s s' : σ} {e : ε} {h : List (σ × ε)}

@[simp] lemma sheet_nil : b.sheet placeholder [] = .written placeholder := rfl

lemma sheet_snoc (h : List (σ × ε)) (s : σ) (e : ε) :
    b.sheet placeholder (h ++ [(s, e)]) = b.update (b.sheet placeholder h) s e := by
  simp [sheet]

lemma update_edit {edit : Edit α} (hedit : b.edit s e = some edit) (sheet : Sheet α) :
    b.update sheet s e = sheet.edit edit := by
  rw [update, hedit]

lemma update_leave (hedit : b.edit s e = none) (hs : b.step s e = some s') (sheet : Sheet α) :
    b.update sheet s e = sheet.leave (b.text s') := by
  rw [update, hedit, hs]

/-- The sheet follows the text. -/
lemma text_update (hb : b.HasPlaceholder placeholder clears) (hs : b.step s e = some s')
    {sheet : Sheet α} (htext : sheet.text = b.text s) :
    (b.update sheet s e).text = b.text s' := by
  cases hedit : b.edit s e with
  | some edit =>
    rw [update_edit hedit, Sheet.text_edit, htext, (hb.edited hedit hs).2.2]
  | none => rw [update_leave hedit hs, Sheet.text_leave]

/-- A safe step. -/
lemma clean_update (hb : b.HasPlaceholder placeholder clears) (hne : placeholder ≠ [])
    (hs : b.step s e = some s') (htext : (b.sheet placeholder h).text = b.text s)
    (hclean : (b.sheet placeholder h).Clean placeholder)
    (hsafe : b.Safe placeholder clears h s e) :
    (b.update (b.sheet placeholder h) s e).Clean placeholder := by
  cases hedit : b.edit s e with
  | some edit =>
    rw [update_edit hedit]
    refine hclean.edit fun hentered hp => hsafe.1 edit hedit hentered ?_
    rw [← htext, hp]
  | none =>
    rw [update_leave hedit hs]
    by_cases hc : clears s e
    · rw [hb.cleared hedit hs hc]
      exact hclean.leave_nil (hsafe.2 hc)
    · rcases hb.left hedit hs hc with hsame | ⟨hnil, hp⟩
      · rw [hsame, ← htext, Sheet.leave_text]
        exact hclean
      · rw [hp]
        exact hclean.leave_placeholder hne (htext.trans hnil)

/-- A step that keeps what the user has entered is safe. -/
lemma safe_of_keeps (hb : b.HasPlaceholder placeholder clears) (hne : placeholder ≠ [])
    (hs : b.step s e = some s') (htext : (b.sheet placeholder h).text = b.text s)
    (hclean : (b.sheet placeholder h).Clean placeholder)
    (hkeeps : (b.update (b.sheet placeholder h) s e).Keeps placeholder) :
    b.Safe placeholder clears h s e := by
  constructor
  · intro edit hedit hentered hp
    obtain ⟨-, hin, -⟩ := hb.edited hedit hs
    rw [update_edit hedit] at hkeeps
    rw [← htext] at hin hp
    exact hclean.allOrNothing hne hin hkeeps hentered hp
  · intro hc
    have hedit : b.edit s e = none := by
      rw [Option.eq_none_iff_forall_ne_some]
      intro edit hedit
      exact (hb.edited hedit hs).1 hc
    rw [update_leave hedit hs, hb.cleared hedit hs hc] at hkeeps
    exact hclean.entered_of_leave_nil hkeeps

/-- **When a box keeps what the user has entered.** Throughout a run that starts with the
placeholder in the box, the text is what the user has entered and not deleted, or the
placeholder if that is nothing, if and only if every step is safe.

**Proof sketch.** As long as all steps are safe, all of the text is the user's, or the box has
the placeholder, untouched (`clean_update`). From there a step that is not safe mixes the
placeholder with what the user enters, or loses it (`safe_of_keeps`). -/
theorem throughoutAfter_keepsEntered_iff (hb : b.HasPlaceholder placeholder clears)
    (hne : placeholder ≠ []) (hr : Run b.step s₀ h s) (h0 : b.text s₀ = placeholder) :
    ThroughoutAfter (b.KeepsEntered placeholder) h s ↔
      EveryStepAfter (b.Safe placeholder clears) h := by
  refine hr.throughoutAfter_iff_everyStepAfter (J := fun h s =>
    (b.sheet placeholder h).text = b.text s ∧ (b.sheet placeholder h).Clean placeholder)
    ⟨by simp [h0], Or.inr rfl⟩ ?_ ?_ ?_
  · rintro h s ⟨htext, hclean⟩
    rw [KeepsEntered, ← htext]
    exact hclean.keeps
  · rintro h s e s' - ⟨htext, hclean⟩ hs
    rw [KeepsEntered, sheet_snoc, ← text_update hb hs htext]
    constructor
    · exact safe_of_keeps hb hne hs htext hclean
    · intro hsafe
      exact (clean_update hb hne hs htext hclean hsafe).keeps
  · rintro h s e s' - ⟨htext, hclean⟩ hsafe hs
    rw [sheet_snoc]
    exact ⟨text_update hb hs htext, clean_update hb hne hs htext hclean hsafe⟩

end Sheets

end TextBox
