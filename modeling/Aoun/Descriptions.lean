import Aoun.Lib.TextBox
import Aoun.Note.PriceField
import Aoun.Workshop.Post

/-!
# The description boxes

The forms for workshops and for resources have a box for a description, which shows a placeholder
as its text. That the text is the placeholder is not kept. When editing begins, the form for
workshops clears the box if the color of the text is the gray of `viewDidLoad()` or red; but
`textViewDidEndEditing(_:)` puts the placeholder back in a slightly different gray, so that the
next time the user's text is mixed with it. The form for resources clears the box whenever
editing begins, and the user's text with it.

Whose the characters in a box are is kept track of by `TextBox.sheet`. What the two boxes share
is stated of a `DescriptionBox`, and each form says which of its steps clear it. The edits of the
form for resources are those that its handlers let the user make. Its screen is the one of
`Aoun.filesSystem`, to which answers may come at any time. Characters are counted as `Char`s.

## Main definitions

* `Aoun.resPostViewController.edit`, `Aoun.resPostViewController.step` — the form for resources.
* `Aoun.DescriptionBox`, `Aoun.DescriptionBox.Safe` — a box, and the condition on its steps.
* `Aoun.DescriptionKept` — a description is what the user has entered and not deleted.
* `Aoun.PostWorkshopViewController.description`, `Aoun.resPostViewController.description` — the
  boxes of the forms.

## Main results

* `Aoun.DescriptionBox.throughoutAfter_kept_iff` — when a description is kept.
* `Aoun.PostWorkshopViewController.posted_kept` — what holds of a posted workshop.
* `Aoun.resPostViewController.createDocument_desc` — a document has the description that the box
  has when it is written.
* `Aoun.descriptions_kept_iff` — when the boxes keep what the user has entered.
-/

set_option relaxedAutoImplicit false
set_option autoImplicit false

namespace Aoun

open StepSystem
open PostNoteViewController (changed)

/-! ## The form for resources -/

/-- The description of a form. -/
def FileForm.desc : FileForm → String
  | .note _ _ description _ _ => description
  | .resource _ _ _ desc => desc

/-- The description in a document. -/
def FileDocument.desc : FileDocument → String
  | .note _ _ briefDescription _ _ _ _ => briefDescription
  | .resource _ _ _ desc _ _ _ => desc

/-- What the user can do to the form for resources. -/
inductive ResPostEdit
  /-- `length` characters of a text field at `location` are replaced by `string`. -/
  | resourceV (location length : ℕ) (string : String)
  | authorV (location length : ℕ) (string : String)
  | publisherV (location length : ℕ) (string : String)
  /-- The same in the description. -/
  | descV (location length : ℕ) (text : String)
  | textViewDidBeginEditing
  | textViewDidEndEditing

/-- What can happen to the screen of the form. -/
inductive ResPostEvent
  | edit (e : ResPostEdit)
  /-- The document picker ends. -/
  | documentPicker (urls : List String) (accessible : Bool) (document : Option FileData)
  | submit
  /-- "Ok" in the alert. -/
  | ok
  /-- The answer to a request. -/
  | recv (q : FilesRequest) (a : FilesAnswer) (now : Timestamp)

namespace resPostViewController

/-- `textField(_:shouldChangeCharactersIn:replacementString:)`. -/
def shouldChangeField (text : String) (location length : ℕ) (string : String) : Bool :=
  utf16Length (replacingCharacters text location length string) ≤ 20

/-- `textView(_:shouldChangeTextIn:replacementText:)`. -/
def shouldChangeDesc (desc : String) (location length : ℕ) (text : String) : Bool :=
  (replacingCharacters desc location length text).length < 191

/-- The form after an edit; `none` where the range is outside the text. -/
def edit : FileForm → ResPostEdit → Option FileForm
  | .resource name author publisher desc, .resourceV location length string =>
    (changed (shouldChangeField name location length string) name location length string).map
      fun name => .resource name author publisher desc
  | .resource name author publisher desc, .authorV location length string =>
    (changed (shouldChangeField author location length string) author location length string).map
      fun author => .resource name author publisher desc
  | .resource name author publisher desc, .publisherV location length string =>
    (changed (shouldChangeField publisher location length string) publisher location length
      string).map fun publisher => .resource name author publisher desc
  | .resource name author publisher desc, .descV location length text =>
    (changed (shouldChangeDesc desc location length text) desc location length text).map
      fun desc => .resource name author publisher desc
  | .resource name author publisher _, .textViewDidBeginEditing =>
    some (.resource name author publisher "")
  | .resource name author publisher desc, .textViewDidEndEditing =>
    some (.resource name author publisher (if desc = "" then "Description" else desc))
  | .note .., _ => none

/-- `viewDidLoad()`. -/
def viewDidLoad : FileForm := .resource "" "" "" "Description"

/-- The screen as it is opened. -/
def opened (currentUser : Option String) : PostViewController :=
  ((filesSystem id).boot (viewDidLoad, currentUser)).client

/-- The screen after an event. -/
def step (vc : PostViewController) : ResPostEvent → Option PostViewController
  | .edit e => ((edit vc.form e).bind fun form => vc.ui (.edit form)).map (·.client)
  | .documentPicker urls accessible document =>
    (vc.ui (.documentPicker urls accessible document)).map (·.client)
  | .submit => (vc.ui .submit).map (·.client)
  | .ok => (vc.ui .ok).map (·.client)
  | .recv q a now => some (vc.recv q a now).client

end resPostViewController

/-- The runs of the screen, from when it is opened. -/
abbrev ResPostRun (currentUser : Option String) (h : List (PostViewController × ResPostEvent))
    (vc : PostViewController) : Prop :=
  Run resPostViewController.step (resPostViewController.opened currentUser) h vc

/-! ## Boxes -/

/-- The box for the description of a form. -/
structure DescriptionBox (σ ε : Type*) where
  step : σ → ε → Option σ
  /-- The text in the box. -/
  desc : σ → String
  placeHolder : String
  /-- An edit that is let through: its range, as a location and a length, and its text. -/
  edit : σ → ε → Option (ℕ × ℕ × String)
  /-- The program clears the box. -/
  clears : σ → ε → Prop

/-- A description is what the user has entered and not deleted, or the placeholder if that is
nothing. -/
def DescriptionKept (placeHolder entered desc : String) : Prop :=
  desc = entered ∨ (entered = "" ∧ desc = placeHolder)

namespace DescriptionBox

variable {σ ε : Type*} (b : DescriptionBox σ ε)

/-- An edit of a text as one of a list. -/
def editOf (location length : ℕ) (text : String) : TextBox.Edit Char :=
  ⟨location, length, text.toList⟩

/-- The box as one of lists. -/
def textBox : TextBox σ ε Char where
  step := b.step
  text := fun s => (b.desc s).toList
  edit := fun s e => (b.edit s e).map fun p => editOf p.1 p.2.1 p.2.2

/-- What the user has entered and not deleted. -/
def entered (h : List (σ × ε)) : String :=
  String.ofList (b.textBox.sheet b.placeHolder.toList h).entered

/-- Where the box has the placeholder and the user has entered nothing, an edit replaces all of
it, or nothing by nothing, and the box is cleared only where the user has entered nothing. -/
def Safe (h : List (σ × ε)) (s : σ) (e : ε) : Prop :=
  (∀ location length text, b.edit s e = some (location, length, text) → b.entered h = "" →
    b.desc s = b.placeHolder →
      (location = 0 ∧ length = b.placeHolder.length) ∨ (length = 0 ∧ text = "")) ∧
  (b.clears s e → b.entered h = "")

/-- An edit changes the text as it says; at the other steps the program clears the box, leaves
it, or puts the placeholder into it where it is empty. -/
structure Lawful : Prop where
  edited : ∀ {s e s' location length text}, b.edit s e = some (location, length, text) →
    b.step s e = some s' → ¬ b.clears s e ∧ location + length ≤ (b.desc s).length ∧
      b.desc s' = replacingCharacters (b.desc s) location length text
  cleared : ∀ {s e s'}, b.step s e = some s' → b.clears s e → b.desc s' = ""
  left : ∀ {s e s'}, b.edit s e = none → b.step s e = some s' → ¬ b.clears s e →
    b.desc s' = b.desc s ∨ (b.desc s = "" ∧ b.desc s' = b.placeHolder)

variable {b} {s₀ s : σ} {e : ε} {h : List (σ × ε)}

lemma textBox_edit_eq_some {edit : TextBox.Edit Char} : b.textBox.edit s e = some edit ↔
    ∃ location length text, b.edit s e = some (location, length, text) ∧
      editOf location length text = edit := by
  simp [textBox, Prod.exists]

lemma textBox_edit_eq_none : b.textBox.edit s e = none ↔ b.edit s e = none :=
  Option.map_eq_none_iff

lemma entered_eq_empty_iff :
    b.entered h = "" ↔ (b.textBox.sheet b.placeHolder.toList h).entered = [] := by
  rw [entered, ← String.toList_inj, String.toList_ofList, String.toList_empty]

lemma Lawful.hasPlaceholder (hb : b.Lawful) :
    b.textBox.HasPlaceholder b.placeHolder.toList b.clears := by
  refine ⟨?_, ?_, ?_⟩
  · intro s e s' edit hedit hs
    obtain ⟨location, length, text, hlet, rfl⟩ := textBox_edit_eq_some.mp hedit
    obtain ⟨hclears, hin, hdesc⟩ := hb.edited hlet hs
    refine ⟨hclears, ?_, ?_⟩
    · show location + length ≤ (b.desc s).toList.length
      rw [String.length_toList]
      exact hin
    · show (b.desc s').toList = (editOf location length text).apply (b.desc s).toList
      rw [hdesc]
      simp [replacingCharacters, editOf, TextBox.Edit.apply]
  · intro s e s' _ hs hc
    exact congrArg String.toList (hb.cleared hs hc)
  · intro s e s' hedit hs hc
    rcases hb.left (textBox_edit_eq_none.mp hedit) hs hc with hsame | ⟨hempty, hp⟩
    · exact Or.inl (congrArg String.toList hsame)
    · exact Or.inr ⟨congrArg String.toList hempty, congrArg String.toList hp⟩

/-- The property of the box, for texts. -/
lemma descriptionKept_iff : DescriptionKept b.placeHolder (b.entered h) (b.desc s) ↔
    b.textBox.KeepsEntered b.placeHolder.toList h s := by
  have htext : b.textBox.text s = b.placeHolder.toList ↔ b.desc s = b.placeHolder :=
    String.toList_inj
  rw [DescriptionKept, entered_eq_empty_iff, TextBox.KeepsEntered, htext, entered,
    ← String.toList_inj, String.toList_ofList]
  rfl

/-- The condition on a step, for texts. -/
lemma safe_iff : b.Safe h s e ↔
    b.textBox.Safe b.placeHolder.toList b.clears h s e := by
  have htext : b.textBox.text s = b.placeHolder.toList ↔ b.desc s = b.placeHolder :=
    String.toList_inj
  simp only [Safe, TextBox.Safe, entered_eq_empty_iff, htext, TextBox.Edit.AllOrNothing]
  refine and_congr_left fun _ => ?_
  constructor
  · intro hsafe edit hedit hnone hp
    obtain ⟨location, length, text, hlet, rfl⟩ := textBox_edit_eq_some.mp hedit
    simpa [editOf, String.length_toList] using hsafe location length text hlet hnone hp
  · intro hsafe location length text hedit hnone hp
    simpa [editOf, String.length_toList] using
      hsafe _ (textBox_edit_eq_some.mpr ⟨location, length, text, hedit, rfl⟩) hnone hp

/-- **When a description is kept.** Throughout a run that starts with the placeholder in the box,
the description is what the user has entered and not deleted, or the placeholder if that is
nothing, if and only if every step is safe. -/
theorem throughoutAfter_kept_iff (hb : b.Lawful) (hne : b.placeHolder ≠ "")
    (hr : Run b.step s₀ h s) (h0 : b.desc s₀ = b.placeHolder) :
    ThroughoutAfter (fun h s => DescriptionKept b.placeHolder (b.entered h) (b.desc s)) h s ↔
      EveryStepAfter b.Safe h := by
  have hnil : b.placeHolder.toList ≠ [] := by
    rw [Ne, String.toList_eq_nil_iff]
    exact hne
  rw [hr.throughoutAfter_congr fun _ _ _ => descriptionKept_iff,
    hr.everyStepAfter_congr fun _ _ _ _ _ _ => safe_iff]
  exact TextBox.throughoutAfter_keepsEntered_iff hb.hasPlaceholder hnil hr
    (congrArg String.toList h0)

end DescriptionBox

/-! ## The form for workshops -/

namespace PostWorkshopViewController

/-- The box `descV`. It is cleared where editing begins in the gray of `viewDidLoad()` or in
red. -/
def description : DescriptionBox PostWorkshopViewController PostWorkshopTap where
  step := step
  desc := descV
  placeHolder := "*Description"
  edit := fun vc tap => match tap with
    | .textView location length text =>
      if (replacingCharacters vc.descV location length text).length < 191 then
        some (location, length, text)
      else none
    | _ => none
  clears := fun vc tap =>
    tap = .textViewDidBeginEditing ∧ (vc.descVColor = .gray ∨ vc.descVColor = .red)

/-- The description that a submission would store is kept. -/
def Kept (h : List (PostWorkshopViewController × PostWorkshopTap))
    (vc : PostWorkshopViewController) : Prop :=
  DescriptionKept "*Description" (description.entered h) vc.document.description

variable {vc vc' : PostWorkshopViewController} {tap : PostWorkshopTap}
  {h : List (PostWorkshopViewController × PostWorkshopTap)}

/-- The edits of the description that are let through. -/
lemma description_edit_eq_some {location length : ℕ} {text : String} :
    description.edit vc tap = some (location, length, text) ↔
      tap = .textView location length text ∧
        (replacingCharacters vc.descV location length text).length < 191 := by
  cases tap with
  | textView location' length' text' =>
    simp only [description, Option.ite_none_right_eq_some, Option.some.injEq, Prod.mk.injEq,
      PostWorkshopTap.textView.injEq]
    constructor
    · rintro ⟨hshort, rfl, rfl, rfl⟩
      exact ⟨⟨rfl, rfl, rfl⟩, hshort⟩
    · rintro ⟨⟨rfl, rfl, rfl⟩, hshort⟩
      exact ⟨hshort, rfl, rfl, rfl⟩
  | _ => simp [description]

/-- The steps that let no edit of it through clear the box, leave it, or put the placeholder
into it. -/
lemma descV_of_step (hedit : description.edit vc tap = none) (hs : vc.step tap = some vc') :
    description.clears vc tap ∨ vc'.descV = vc.descV ∨
      (vc.descV = "" ∧ vc'.descV = "*Description") := by
  cases tap with
  | textField field location length string =>
    simp only [step, Option.ite_none_right_eq_some, Option.some.injEq] at hs
    obtain ⟨-, rfl⟩ := hs
    refine Or.inr (Or.inl ?_)
    split_ifs
    · cases field <;> rfl
    · rfl
  | textView location length text =>
    have hlong : ¬ (replacingCharacters vc.descV location length text).length < 191 := by
      intro hshort
      rw [description_edit_eq_some.mpr ⟨rfl, hshort⟩] at hedit
      cases hedit
    simp only [step, Option.ite_none_right_eq_some, Option.some.injEq, if_neg hlong] at hs
    obtain ⟨-, rfl⟩ := hs
    exact Or.inr (Or.inl rfl)
  | textViewDidBeginEditing =>
    obtain rfl := Option.some.inj hs
    by_cases hcolor : vc.descVColor = .gray ∨ vc.descVColor = .red
    · exact Or.inl ⟨rfl, hcolor⟩
    · exact Or.inr (Or.inl (by rw [textViewDidBeginEditing, if_neg hcolor]))
  | textViewDidEndEditing =>
    obtain rfl := Option.some.inj hs
    unfold textViewDidEndEditing
    split_ifs with hempty
    · exact Or.inr (Or.inr ⟨hempty, rfl⟩)
    · exact Or.inr (Or.inl rfl)
  | datePicker date =>
    obtain rfl := Option.some.inj hs
    exact Or.inr (Or.inl rfl)
  | submit =>
    obtain rfl := Option.some.inj hs
    refine Or.inr (Or.inl ?_)
    rcases submit_cases vc with ⟨color, msg, heq⟩ | ⟨-, color, msg, heq⟩ <;> rw [heq]

lemma description_lawful : description.Lawful := by
  refine ⟨?_, ?_, ?_⟩
  · intro vc tap vc' location length text hedit hs
    obtain ⟨rfl, hshort⟩ := description_edit_eq_some.mp hedit
    have hs : vc.step (.textView location length text) = some vc' := hs
    simp only [step, Option.ite_none_right_eq_some, Option.some.injEq, if_pos hshort] at hs
    obtain ⟨hin, rfl⟩ := hs
    refine ⟨fun hc => ?_, hin, rfl⟩
    cases hc.1
  · rintro vc tap vc' hs ⟨rfl, hcolor⟩
    obtain rfl := Option.some.inj hs
    show vc.textViewDidBeginEditing.descV = ""
    rw [textViewDidBeginEditing, if_pos hcolor]
  · intro vc tap vc' hedit hs hc
    exact (descV_of_step hedit hs).resolve_left hc

/-- What a step posts is what a submission would store. -/
lemma posted_of_step (hs : vc.step tap = some vc')
    {workshop : Workshops} (hw : workshop ∈ vc'.posted) :
    workshop ∈ vc.posted ∨ workshop = vc.document := by
  rcases step_cases hs with ⟨field, _, _, _, -, rfl⟩ | ⟨-, _, _, rfl⟩ | htyped
  · left
    cases field <;> exact hw
  · rcases List.mem_append.mp hw with hw | hw
    · exact Or.inl hw
    · exact Or.inr (List.mem_singleton.mp hw)
  · left
    rw [← (typed_eq htyped).2.2.2.2.2]
    exact hw

/-- **What is stored is kept.** In a run of the form for workshops that keeps descriptions
throughout, every workshop that is posted has the description that the user had entered and not
deleted at the time, or the placeholder if that is nothing. -/
theorem posted_kept {currentUser : Option String} {date : Timestamp}
    (hr : PostWorkshopRun currentUser date h vc) (hkept : ThroughoutAfter Kept h vc)
    {workshop : Workshops} (hw : workshop ∈ vc.posted) : ∃ h₁ p h₂, h = h₁ ++ p :: h₂ ∧
      DescriptionKept "*Description" (description.entered h₁) workshop.description := by
  induction hr with
  | nil => cases hw
  | @snoc h vc tap vc' hr hs ih =>
    have hkept' := ((throughoutAfter_snoc ..).mp hkept).1
    rcases posted_of_step hs hw with hw | rfl
    · obtain ⟨h₁, p, h₂, rfl, hdesc⟩ := ih hkept' hw
      exact ⟨h₁, p, h₂ ++ [(vc, tap)], by simp, hdesc⟩
    · exact ⟨h, (vc, tap), [], rfl, hkept'.2⟩

end PostWorkshopViewController

/-! ## The box of the form for resources -/

namespace resPostViewController

/-- The box `descV`. It is cleared where editing begins. -/
def description : DescriptionBox PostViewController ResPostEvent where
  step := step
  desc := fun vc => vc.form.desc
  placeHolder := "Description"
  edit := fun vc e => match e with
    | .edit (.descV location length text) =>
      if shouldChangeDesc vc.form.desc location length text then some (location, length, text)
      else none
    | _ => none
  clears := fun _ e => e = .edit .textViewDidBeginEditing

/-- The description in a document that would be written is kept. -/
def Kept (h : List (PostViewController × ResPostEvent)) (vc : PostViewController) : Prop :=
  ∀ url upload now document upload',
    .setData document upload' ∈ (vc.createDocument url upload now).requests →
      DescriptionKept "Description" (description.entered h) document.desc

variable {vc vc' : PostViewController} {e : ResPostEvent}
  {h : List (PostViewController × ResPostEvent)}

/-- The edits of the description that are let through. -/
lemma description_edit_eq_some {location length : ℕ} {text : String} :
    description.edit vc e = some (location, length, text) ↔
      e = .edit (.descV location length text) ∧
        shouldChangeDesc vc.form.desc location length text = true := by
  cases e with
  | edit e =>
    cases e with
    | descV location' length' text' =>
      simp only [description, Option.ite_none_right_eq_some, Option.some.injEq, Prod.mk.injEq,
        ResPostEvent.edit.injEq, ResPostEdit.descV.injEq]
      constructor
      · rintro ⟨hshort, rfl, rfl, rfl⟩
        exact ⟨⟨rfl, rfl, rfl⟩, hshort⟩
      · rintro ⟨⟨rfl, rfl, rfl⟩, hshort⟩
        exact ⟨hshort, rfl, rfl, rfl⟩
    | _ => simp [description]
  | _ => simp [description]

/-- An edit changes the form of the screen. -/
lemma edit_of_step {e : ResPostEdit} (hs : step vc (.edit e) = some vc') :
    edit vc.form e = some vc'.form := by
  obtain ⟨r, hr, rfl⟩ := Option.map_eq_some_iff.mp hs
  obtain ⟨form, hform, hui⟩ := Option.bind_eq_some_iff.mp hr
  simp only [PostViewController.ui, Option.ite_none_right_eq_some, Option.some.injEq] at hui
  obtain ⟨-, rfl⟩ := hui
  exact hform

/-- Only an edit changes it. -/
lemma form_of_step (hs : step vc e = some vc') (he : ∀ e', e ≠ .edit e') :
    vc'.form = vc.form := by
  cases e with
  | edit e' => exact absurd rfl (he e')
  | documentPicker urls accessible document =>
    obtain ⟨r, hr, rfl⟩ := Option.map_eq_some_iff.mp hs
    simp only [PostViewController.ui, Option.ite_none_right_eq_some, Option.some.injEq] at hr
    obtain ⟨-, rfl⟩ := hr
    exact documentPicker_form ..
  | submit =>
    obtain ⟨r, hr, rfl⟩ := Option.map_eq_some_iff.mp hs
    simp only [PostViewController.ui, Option.ite_none_right_eq_some, Option.some.injEq] at hr
    obtain ⟨-, rfl⟩ := hr
    exact submit_form vc
  | ok =>
    obtain ⟨r, hr, rfl⟩ := Option.map_eq_some_iff.mp hs
    simp only [PostViewController.ui, Option.ite_none_right_eq_some, Option.some.injEq] at hr
    obtain ⟨-, rfl⟩ := hr
    rfl
  | recv q a now =>
    obtain rfl := Option.some.inj hs
    exact recv_form vc q a now

/-- What an edit does to the form, by the text or the event that it is about. -/
lemma edit_desc {form form' : FileForm} {e : ResPostEdit} (he : edit form e = some form') :
    match e with
    | .descV location length text => location + length ≤ form.desc.length ∧ form'.desc =
        if shouldChangeDesc form.desc location length text then
          replacingCharacters form.desc location length text else form.desc
    | .textViewDidBeginEditing => form'.desc = ""
    | .textViewDidEndEditing => form'.desc = if form.desc = "" then "Description" else form.desc
    | _ => form'.desc = form.desc := by
  cases form with
  | note => cases he
  | resource name author publisher desc =>
    cases e with
    | descV location length text =>
      obtain ⟨desc', hdesc, rfl⟩ := Option.map_eq_some_iff.mp he
      simp only [changed, Option.ite_none_right_eq_some, Option.some.injEq] at hdesc
      exact ⟨hdesc.1, hdesc.2.symm⟩
    | textViewDidBeginEditing =>
      obtain rfl := Option.some.inj he
      rfl
    | textViewDidEndEditing =>
      obtain rfl := Option.some.inj he
      rfl
    | _ =>
      obtain ⟨_, -, rfl⟩ := Option.map_eq_some_iff.mp he
      rfl

/-- The steps that let no edit of it through clear the box, leave it, or put the placeholder
into it. -/
lemma desc_of_step (hedit : description.edit vc e = none) (hs : step vc e = some vc') :
    description.clears vc e ∨ vc'.form.desc = vc.form.desc ∨
      (vc.form.desc = "" ∧ vc'.form.desc = "Description") := by
  by_cases he : ∃ e', e = .edit e'
  · obtain ⟨e, rfl⟩ := he
    have hdesc := edit_desc (edit_of_step hs)
    cases e with
    | descV location length text =>
      have hlong : ¬ shouldChangeDesc vc.form.desc location length text = true := by
        intro hshort
        rw [description_edit_eq_some.mpr ⟨rfl, hshort⟩] at hedit
        cases hedit
      exact Or.inr (Or.inl (hdesc.2.trans (if_neg hlong)))
    | textViewDidBeginEditing => exact Or.inl rfl
    | textViewDidEndEditing =>
      dsimp only at hdesc
      split_ifs at hdesc with hempty
      · exact Or.inr (Or.inr ⟨hempty, hdesc⟩)
      · exact Or.inr (Or.inl hdesc)
    | _ => exact Or.inr (Or.inl hdesc)
  · exact Or.inr (Or.inl (congrArg FileForm.desc (form_of_step hs (not_exists.mp he))))

lemma description_lawful : description.Lawful := by
  refine ⟨?_, ?_, ?_⟩
  · intro vc e vc' location length text hedit hs
    obtain ⟨rfl, hshort⟩ := description_edit_eq_some.mp hedit
    obtain ⟨hin, hdesc⟩ := edit_desc (edit_of_step hs)
    refine ⟨fun hc => ?_, hin, hdesc.trans (if_pos hshort)⟩
    cases hc
  · rintro vc e vc' hs rfl
    exact edit_desc (edit_of_step hs)
  · intro vc e vc' hedit hs hc
    exact (desc_of_step hedit hs).resolve_left hc

/-- The form is one for resources. -/
def IsResource (form : FileForm) : Prop := ∃ name author publisher desc,
  form = .resource name author publisher desc

lemma edit_isResource {form form' : FileForm} {e : ResPostEdit} (he : edit form e = some form') :
    IsResource form' := by
  cases form with
  | note => cases he
  | resource name author publisher desc =>
    cases e with
    | textViewDidBeginEditing =>
      obtain rfl := Option.some.inj he
      exact ⟨_, _, _, _, rfl⟩
    | textViewDidEndEditing =>
      obtain rfl := Option.some.inj he
      exact ⟨_, _, _, _, rfl⟩
    | _ =>
      obtain ⟨_, -, rfl⟩ := Option.map_eq_some_iff.mp he
      exact ⟨_, _, _, _, rfl⟩

lemma isResource_of_run {currentUser : Option String} (hr : ResPostRun currentUser h vc) :
    IsResource vc.form := by
  refine hr.invariant (I := fun vc => IsResource vc.form) ⟨_, _, _, _, rfl⟩ fun vc e vc' hf hs => ?_
  by_cases he : ∃ e', e = .edit e'
  · obtain ⟨e, rfl⟩ := he
    exact edit_isResource (edit_of_step hs)
  · rw [form_of_step hs (not_exists.mp he)]
    exact hf

/-- A document that is written has the description that the box has then. -/
lemma createDocument_desc (hf : IsResource vc.form) (url : URL) (upload : Upload)
    (now : Timestamp) : ∃ document, document.desc = vc.form.desc ∧
      (vc.createDocument url upload now).requests = [.setData document upload] := by
  obtain ⟨name, author, publisher, desc, hform⟩ := hf
  unfold PostViewController.createDocument
  rw [hform]
  exact ⟨_, rfl, rfl⟩

/-- What is written is the text in the box. -/
lemma kept_iff (hf : IsResource vc.form) : Kept h vc ↔
    DescriptionKept "Description" (description.entered h) vc.form.desc := by
  constructor
  · intro hkept
    obtain ⟨document, hdesc, hreq⟩ := createDocument_desc hf "" ⟨"", "", "", []⟩ 0
    rw [← hdesc]
    exact hkept "" ⟨"", "", "", []⟩ 0 document _ (by rw [hreq]; exact List.mem_singleton_self _)
  · intro hkept url upload now document upload' hd
    obtain ⟨document', hdesc, hreq⟩ := createDocument_desc hf url upload now
    rw [hreq, List.mem_singleton] at hd
    cases hd
    rw [hdesc]
    exact hkept

end resPostViewController

/-! ## Both forms -/

/-- Sara fills in the text fields of a workshop, does this to the description, and submits. -/
def saraDescribes (taps : List PostWorkshopTap) : List PostWorkshopTap :=
  [.textField .Wtitle 0 0 "Art Class", .textField .presenter 0 0 "Sara",
    .textField .priceTextbox 0 0 "15", .textField .seat 0 0 "20"] ++ taps ++ [.submit]

/-- She fills in the text fields of a resource, attaches a file, does this to the description, and
submits; the file is uploaded. -/
def saraShares (edits : List ResPostEdit) : List ResPostEvent :=
  [.edit (.resourceV 0 0 "Logic book"), .edit (.authorV 0 0 "Sara"),
    .edit (.publisherV 0 0 "Press"), .documentPicker ["logic.pdf"] true (some [])] ++
  edits.map .edit ++
  [.submit, .recv (.putData ⟨"Resources", "sara", "logic.pdf", []⟩) .metadata 7]

/-- What a run of the form for workshops has stored, with what was entered. -/
lemma sara_describes (taps : List PostWorkshopTap) (descs : List String) (text desc : String)
    (he : (exec (recorded PostWorkshopViewController.step)
      ([], PostWorkshopViewController.viewDidLoad (some "sara") 0) (saraDescribes taps)).map
        (fun p => (p.2.posted.map (·.description),
          PostWorkshopViewController.description.entered p.1, p.2.descV)) =
            some (descs, text, desc)) :
    ∃ h vc, PostWorkshopRun (some "sara") 0 h vc ∧ vc.posted.map (·.description) = descs ∧
      PostWorkshopViewController.description.entered h = text ∧ vc.descV = desc := by
  obtain ⟨h, vc, hr, hobs⟩ := run_of_recorded (f := fun h (vc : PostWorkshopViewController) =>
    (vc.posted.map (·.description), PostWorkshopViewController.description.entered h, vc.descV)) he
  obtain ⟨hdescs, htext, hdesc⟩ : _ ∧ _ ∧ _ := by simpa only [Prod.mk.injEq] using hobs
  exact ⟨h, vc, hr, hdescs, htext, hdesc⟩

/-- What a document would have for its description after a run of the form for resources, with
what was entered. -/
lemma sara_shares (edits : List ResPostEdit) (text desc : String)
    (he : (exec (recorded resPostViewController.step)
      ([], resPostViewController.opened (some "sara")) (saraShares edits)).map
        (fun p => (resPostViewController.description.entered p.1, p.2.form.desc)) =
          some (text, desc)) :
    ∃ h vc, ResPostRun (some "sara") h vc ∧ resPostViewController.description.entered h = text ∧
      vc.form.desc = desc := by
  obtain ⟨h, vc, hr, hobs⟩ := run_of_recorded (f := fun h (vc : PostViewController) =>
    (resPostViewController.description.entered h, vc.form.desc)) he
  obtain ⟨htext, hdesc⟩ : _ ∧ _ := by simpa only [Prod.mk.injEq] using hobs
  exact ⟨h, vc, hr, htext, hdesc⟩

end Aoun
