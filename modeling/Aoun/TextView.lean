import Mathlib.Data.Int.Basic
import Aoun.Community.Questions
import Aoun.Lib.Run
import Aoun.Text

/-!
# Text views with a placeholder

`RPTTextView`, the text view of several forms. Its text is what the user has entered or, while the
view is not edited and that is empty, the placeholder; the view decides which by comparing its
text with the placeholder and with the empty text. It refines a plain box that only holds the
user's text, as long as that is not the placeholder when editing ends.

UIKit tells the view when editing begins and ends, in turn, and proposes edits only in between.
The forms set the color of the placeholder at any time, which is how they mark a missing text.

## Main definitions

* `Aoun.RPTTextView` — the view, with its methods.
* `Aoun.plainStep` — the plain box.
* `Aoun.RPTTextView.Shows` — the view shows the text of the plain box.
* `Aoun.RPTTextView.Fits` — the view's text is within its limit.

## Main results

* `Aoun.RPTTextView.shows_of_step` — a step of the view is one of the plain box.
* `Aoun.rptTextView_simulates` — the view simulates the plain box in every run.
* `Aoun.hasBody_of_shown` — what a form makes of the text that it finds in the view.
-/

set_option relaxedAutoImplicit false
set_option autoImplicit false

namespace Aoun

open StepSystem

/-! ## The view -/

/-- `RPTTextView`; a color that is not set is `none`. -/
structure RPTTextView (Color : Type*) where
  text : String
  textColor : Option Color
  localTextColor : Option Color
  placeHolder : Option String
  placeHolderColor : Option Color
  characotrLimit : ℤ
  /-- The view is being edited. -/
  isFirstResponder : Bool

/-- What happens to a text view. -/
inductive TextViewEvent (Color : Type*)
  | textViewDidBeginEditing
  /-- An edit is proposed: `length` characters at `location` are replaced. -/
  | change (location length : ℕ) (text : String)
  | textViewDidEndEditing
  /-- A form sets the color of the placeholder. -/
  | placeHolderColor (color : Option Color)
  deriving DecidableEq

namespace RPTTextView

variable {Color : Type*} (view : RPTTextView Color)

/-- `configure()`, which `init(coder:)` and `awakeFromNib()` call. -/
def configure : RPTTextView Color := { view with localTextColor := view.textColor }

/-- Setting `placeHolder`. -/
def setPlaceHolder (placeHolder : Option String) : RPTTextView Color :=
  let view := { view with placeHolder := placeHolder }
  if view.text.length = 0 then { view with text := placeHolder.getD "" } else view

/-- Setting `placeHolderColor`. -/
def setPlaceHolderColor (color : Option Color) : RPTTextView Color :=
  { view with placeHolderColor := color, textColor := color }

/-- `textView(_:shouldChangeTextIn:replacementText:)`. -/
def shouldChangeTextIn (location length : ℕ) (text : String) : Bool :=
  if view.characotrLimit = 0 then true
  else (replacingCharacters view.text location length text).length < view.characotrLimit

/-- `textViewDidBeginEditing(_:)`. -/
def textViewDidBeginEditing : RPTTextView Color :=
  if some view.text = view.placeHolder then
    { view with text := "", textColor := view.localTextColor }
  else view

/-- `textViewDidEndEditing(_:)`. -/
def textViewDidEndEditing : RPTTextView Color :=
  if view.text.length = 0 then
    { view with text := view.placeHolder.getD "", textColor := view.placeHolderColor }
  else view

/-- The view after an event; `none` where UIKit does not let it happen. -/
def step : TextViewEvent Color → Option (RPTTextView Color)
  | .textViewDidBeginEditing =>
    if view.isFirstResponder then none
    else some { view.textViewDidBeginEditing with isFirstResponder := true }
  | .change location length text =>
    if view.isFirstResponder ∧ location + length ≤ view.text.length then
      some (if view.shouldChangeTextIn location length text then
        { view with text := replacingCharacters view.text location length text } else view)
    else none
  | .textViewDidEndEditing =>
    if view.isFirstResponder then
      some { view.textViewDidEndEditing with isFirstResponder := false }
    else none
  | .placeHolderColor color => some (view.setPlaceHolderColor color)

end RPTTextView

/-! ## The plain box -/

/-- A box that only holds the text of the user, which an edit may not make as long as `limit`,
unless that is 0. -/
def plainStep {Color : Type*} (limit : ℤ) (text : String) : TextViewEvent Color → Option String
  | .change location length new =>
    let newText := replacingCharacters text location length new
    if location + length ≤ text.length then
      some (if limit = 0 ∨ newText.length < limit then newText else text)
    else none
  | _ => some text

/-- The text of the user after a run of a view, which starts empty. -/
def userText {Color : Type*} (limit : ℤ) (h : List (RPTTextView Color × TextViewEvent Color)) :
    Option String :=
  exec (plainStep limit) "" (h.map Prod.snd)

/-- Editing does not end where the user's own text is the placeholder `p`. -/
def EndsApart {Color : Type*} (p : String) (limit : ℤ)
    (h : List (RPTTextView Color × TextViewEvent Color)) (_ : RPTTextView Color)
    (e : TextViewEvent Color) : Prop :=
  e = .textViewDidEndEditing → userText limit h ≠ some p

instance {Color : Type*} [DecidableEq Color] (p : String) (limit : ℤ)
    (h : List (RPTTextView Color × TextViewEvent Color)) (view : RPTTextView Color)
    (e : TextViewEvent Color) : Decidable (EndsApart p limit h view e) :=
  inferInstanceAs (Decidable (_ → _))

namespace RPTTextView

variable {Color : Type*} {p text : String} {limit : ℤ} {view view' : RPTTextView Color}
  {e : TextViewEvent Color} {h : List (RPTTextView Color × TextViewEvent Color)}

/-- The view shows the text of a plain box with its limit: while it is edited its text is that of
the user, and otherwise the placeholder `p` if that is empty. -/
structure Shows (p : String) (limit : ℤ) (view : RPTTextView Color) (text : String) : Prop where
  placeHolder : view.placeHolder = some p
  characotrLimit : view.characotrLimit = limit
  shown : view.text = if view.isFirstResponder ∨ text ≠ "" then text else p
  short : 0 < limit → text.length < limit
  /-- Outside of editing the text of the user is not mistaken for the placeholder. -/
  ne : view.isFirstResponder = false → text ≠ p

/-- While it is edited the text is that of the user. -/
lemma Shows.text_of_editing (hs : Shows p limit view text) (hediting : view.isFirstResponder) :
    view.text = text := by
  rw [hs.shown, if_pos (Or.inl hediting)]

/-- Outside of editing it is the placeholder exactly if the user has entered nothing. -/
lemma Shows.text_eq_iff (hs : Shows p limit view text) (hrest : view.isFirstResponder = false) :
    view.text = p ↔ text = "" := by
  rw [hs.shown]
  by_cases hempty : text = ""
  · simp [hrest, hempty]
  · simp [hempty, hs.ne hrest]

/-- A placeholder that is set while the view is empty. -/
lemma shows_setPlaceHolder (hp : p ≠ "") (hempty : view.text = "")
    (hrest : view.isFirstResponder = false) :
    Shows p view.characotrLimit (view.setPlaceHolder (some p)) "" := by
  have hset : view.setPlaceHolder (some p) = { view with placeHolder := some p, text := p } := by
    simp [setPlaceHolder, hempty]
  rw [hset]
  exact ⟨rfl, rfl, by simp [hrest], fun hlimit => by simpa using hlimit, fun _ => hp.symm⟩

/-- Editing begins: the placeholder is taken away. -/
lemma shows_begin (hs : Shows p limit view text) (hrest : view.isFirstResponder = false) :
    Shows p limit { view.textViewDidBeginEditing with isFirstResponder := true } text := by
  have hcleared : some view.text = view.placeHolder ↔ text = "" := by
    rw [hs.placeHolder, Option.some.injEq, hs.text_eq_iff hrest]
  unfold textViewDidBeginEditing
  by_cases hempty : text = ""
  · rw [if_pos (hcleared.mpr hempty)]
    exact ⟨hs.placeHolder, hs.characotrLimit, by simp [hempty], hs.short, by simp⟩
  · rw [if_neg (fun hc => hempty (hcleared.mp hc))]
    refine ⟨hs.placeHolder, hs.characotrLimit, ?_, hs.short, by simp⟩
    show view.text = _
    rw [hs.shown]
    simp [hempty]

/-- Editing ends: the placeholder is put back if the user's text is empty. -/
lemma shows_end (hs : Shows p limit view text) (hediting : view.isFirstResponder = true)
    (hne : text ≠ p) :
    Shows p limit { view.textViewDidEndEditing with isFirstResponder := false } text := by
  have htext := hs.text_of_editing hediting
  have hput : view.text.length = 0 ↔ text = "" := by rw [htext, String.length_eq_zero_iff]
  unfold textViewDidEndEditing
  by_cases hempty : text = ""
  · rw [if_pos (hput.mpr hempty)]
    exact ⟨hs.placeHolder, hs.characotrLimit, by simp [hempty, hs.placeHolder], hs.short,
      fun _ => hne⟩
  · rw [if_neg (fun hc => hempty (hput.mp hc))]
    exact ⟨hs.placeHolder, hs.characotrLimit, by simp [hempty, htext], hs.short, fun _ => hne⟩

/-- An edit is let through exactly where the plain box lets it through. -/
lemma shouldChangeTextIn_iff (hs : Shows p limit view text) (hediting : view.isFirstResponder)
    (location length : ℕ) (new : String) :
    view.shouldChangeTextIn location length new = true ↔
      limit = 0 ∨ (replacingCharacters text location length new).length < limit := by
  unfold shouldChangeTextIn
  rw [hs.characotrLimit, hs.text_of_editing hediting]
  split_ifs with hzero
  · simp [hzero]
  · simp [hzero]

/-- An edit of the view is one of the user's text. -/
lemma shows_change (hs : Shows p limit view text) (hediting : view.isFirstResponder = true)
    (location length : ℕ) (new : String) :
    Shows p limit
      (if view.shouldChangeTextIn location length new then
        { view with text := replacingCharacters view.text location length new } else view)
      (if limit = 0 ∨ (replacingCharacters text location length new).length < limit then
        replacingCharacters text location length new else text) := by
  have htext := hs.text_of_editing hediting
  rw [← if_congr (shouldChangeTextIn_iff hs hediting location length new) rfl rfl]
  split_ifs with hchange
  · refine ⟨hs.placeHolder, hs.characotrLimit, by simp [hediting, htext], fun hlimit => ?_, ?_⟩
    · rcases (shouldChangeTextIn_iff hs hediting ..).mp hchange with hzero | hshort
      · omega
      · exact hshort
    · intro hrest
      rw [hediting] at hrest
      cases hrest
  · exact hs

/-- **One step.** What happens to the view happens to the plain box, and the view goes on to show
its text, if that is not the placeholder when editing ends. -/
theorem shows_of_step (hs : Shows p limit view text)
    (hne : e = .textViewDidEndEditing → text ≠ p) (hstep : view.step e = some view') :
    ∃ text', plainStep limit text e = some text' ∧ Shows p limit view' text' := by
  cases e with
  | textViewDidBeginEditing =>
    simp only [step, Option.ite_none_left_eq_some, Option.some.injEq, Bool.not_eq_true] at hstep
    obtain ⟨hrest, rfl⟩ := hstep
    exact ⟨text, rfl, shows_begin hs hrest⟩
  | change location length new =>
    simp only [step, Option.ite_none_right_eq_some, Option.some.injEq] at hstep
    obtain ⟨⟨hediting, hin⟩, rfl⟩ := hstep
    rw [hs.text_of_editing hediting] at hin
    exact ⟨_, by simp only [plainStep, if_pos hin], shows_change hs hediting location length new⟩
  | textViewDidEndEditing =>
    simp only [step, Option.ite_none_right_eq_some, Option.some.injEq] at hstep
    obtain ⟨hediting, rfl⟩ := hstep
    exact ⟨text, rfl, shows_end hs hediting (hne rfl)⟩
  | placeHolderColor color =>
    obtain rfl := Option.some.inj hstep
    exact ⟨text, rfl, hs.placeHolder, hs.characotrLimit, hs.shown, hs.short, hs.ne⟩

/-- A run of the view, from when its placeholder is set. -/
lemma shows_of_run {view₀ : RPTTextView Color} (hp : p ≠ "") (hempty : view₀.text = "")
    (hrest : view₀.isFirstResponder = false)
    (hr : Run step (view₀.setPlaceHolder (some p)) h view)
    (hne : EveryStepAfter (EndsApart p view₀.characotrLimit) h) :
    ∃ text, userText view₀.characotrLimit h = some text ∧
      Shows p view₀.characotrLimit view text := by
  refine hr.simulated_of_everyStepAfter (G := fun text e => e = .textViewDidEndEditing → text ≠ p)
    (shows_setPlaceHolder hp hempty hrest) (fun _ _ _ _ hs hne hstep => shows_of_step hs hne hstep)
    fun h₁ q h₂ hq text htext hend => ?_
  rintro rfl
  exact hne h₁ q h₂ hq hend htext

end RPTTextView

open RPTTextView

/-! ## Runs -/

/-- The view for reviews as its form loads it, before the placeholder is set. -/
def reviewView : RPTTextView String :=
  let view : RPTTextView String :=
    { text := "", textColor := some "black", localTextColor := none, placeHolder := none,
      placeHolderColor := some "lightGray", characotrLimit := 240, isFirstResponder := false }
  view.configure.setPlaceHolderColor (some "gray")

/-- The limit of the text views for descriptions and reviews. -/
def K_DescriptionLimit : ℤ := 240

/-- The colors of the texts of the forms. -/
inductive UIColor
  | labelColor
  | lightGray
  | colorLiteral
  | red
  deriving DecidableEq

/-- The view has a limit, and its text and its placeholder have fewer characters. -/
structure RPTTextView.Fits {Color : Type*} (limit : ℤ) (view : RPTTextView Color) : Prop where
  characotrLimit : view.characotrLimit = limit
  text : view.text.length < limit
  placeHolder : ∀ p, view.placeHolder = some p → (p.length : ℤ) < limit

/-- Whatever happens to a view, its text stays within its limit, the placeholder included. -/
lemma RPTTextView.Fits.step {Color : Type*} {limit : ℤ} {view view' : RPTTextView Color}
    {e : TextViewEvent Color} (hfits : view.Fits limit) (hstep : view.step e = some view') :
    view'.Fits limit := by
  have hlimit : 0 < limit := by have := hfits.text; omega
  cases e with
  | textViewDidBeginEditing =>
    simp only [RPTTextView.step, Option.ite_none_left_eq_some, Option.some.injEq] at hstep
    obtain ⟨-, rfl⟩ := hstep
    unfold textViewDidBeginEditing
    split_ifs
    · exact ⟨hfits.characotrLimit, by simpa using hlimit, hfits.placeHolder⟩
    · exact ⟨hfits.characotrLimit, hfits.text, hfits.placeHolder⟩
  | change location length text =>
    simp only [RPTTextView.step, Option.ite_none_right_eq_some, Option.some.injEq] at hstep
    obtain ⟨-, rfl⟩ := hstep
    split_ifs with hchange
    · refine ⟨hfits.characotrLimit, ?_, hfits.placeHolder⟩
      unfold shouldChangeTextIn at hchange
      rw [hfits.characotrLimit, if_neg (by omega)] at hchange
      exact of_decide_eq_true hchange
    · exact hfits
  | textViewDidEndEditing =>
    simp only [RPTTextView.step, Option.ite_none_right_eq_some, Option.some.injEq] at hstep
    obtain ⟨-, rfl⟩ := hstep
    unfold textViewDidEndEditing
    split_ifs
    · refine ⟨hfits.characotrLimit, ?_, hfits.placeHolder⟩
      cases hp : view.placeHolder with
      | none => simpa using hlimit
      | some p => exact hfits.placeHolder p hp
    · exact ⟨hfits.characotrLimit, hfits.text, hfits.placeHolder⟩
  | placeHolderColor color =>
    obtain rfl := Option.some.inj hstep
    exact ⟨hfits.characotrLimit, hfits.text, hfits.placeHolder⟩

/-! ## What the forms see -/

/-- **What a form sees.** A form for questions that takes the text of such a view for its
description takes it over exactly if the user has entered something other than the
placeholder. -/
theorem hasBody_of_shown {Color : Type*} {view₀ view : RPTTextView Color} {vc : AskQuestion}
    {h : List (RPTTextView Color × TextViewEvent Color)} (hempty : view₀.text = "")
    (hrest : view₀.isFirstResponder = false)
    (hr : Run RPTTextView.step (view₀.setPlaceHolder (some AskQuestion.placeHolder)) h view)
    (hne : EveryStepAfter (EndsApart AskQuestion.placeHolder view₀.characotrLimit) h)
    (hvc : vc.description = view.text) :
    vc.HasBody ↔ ∃ text, userText view₀.characotrLimit h = some text ∧ text ≠ "" ∧
      text ≠ AskQuestion.placeHolder := by
  obtain ⟨text, htext, hs⟩ := shows_of_run (by decide) hempty hrest hr hne
  have hbody : vc.HasBody ↔ text ≠ "" ∧ text ≠ AskQuestion.placeHolder := by
    unfold AskQuestion.HasBody
    rw [hvc, hs.shown]
    by_cases hnone : text = ""
    · cases hediting : view.isFirstResponder <;> simp [hnone]
    · simp [hnone, and_comm]
  simp [hbody, htext]

end Aoun
