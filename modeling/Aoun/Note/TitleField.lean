import Aoun.Note.PriceField

/-!
# The title field of the form for notes

The filter of `PostNoteViewController` for the field `noteTitleTextbox` looks at the text before
an edit, and refuses every edit if that has more than 24 characters. So a text of any length can
be pasted while the title is short, and once the title has 25 characters or more it can not be
edited any more, not even to delete some of them. The filter `textFieldLength` beside it, which
nothing calls, looks at the text after the edit. Characters are counted as `Char`s.

## Main definitions

* `Aoun.TitleEditable` — the title has at most 25 characters, and any of them can be deleted.

## Main results

* `Aoun.title_stuck` — a title that has 25 characters or more stays as it is.
* `Aoun.title_bounded_of_typing` — without pastes the title has at most 25 characters.
* `Aoun.title_editable_iff` — when the title stays bounded and editable.
-/

set_option relaxedAutoImplicit false
set_option autoImplicit false

namespace Aoun

open StepSystem PostNoteViewController

/-- The text of the field `noteTitleTextbox`; the form for resources has none. -/
def FileForm.noteTitle : FileForm → String
  | .note noteTitle _ _ _ _ => noteTitle
  | .resource .. => ""

/-- The runs of the form for notes under edits of its fields, from when it is opened. -/
abbrev PostNoteEditRun (h : List (FileForm × PostNoteEdit)) (form : FileForm) : Prop :=
  Run PostNoteViewController.edit PostNoteViewController.viewDidLoad h form

/-- Every edit that only deletes characters of the title is let through. -/
def TitleDeletable (form : FileForm) : Prop :=
  ∀ location length, 0 < length → location + length ≤ form.noteTitle.length →
    ∃ form', edit form (.noteTitleTextbox location length "") = some form' ∧
      form'.noteTitle = replacingCharacters form.noteTitle location length ""

/-- The title has at most 25 characters, and any of them can be deleted. -/
structure TitleEditable (form : FileForm) : Prop where
  bounded : form.noteTitle.length ≤ 25
  deletable : TitleDeletable form

/-- An edit of the title leaves at most 24 characters. -/
def LeavesRoom (form : FileForm) : PostNoteEdit → Prop
  | .noteTitleTextbox _ length string => form.noteTitle.length + string.length ≤ length + 24
  | _ => True

/-- An edit of the title adds at most one character. -/
def AddsOneAtMost : PostNoteEdit → Prop
  | .noteTitleTextbox _ length string => string.length ≤ length + 1
  | _ => True

variable {form form' : FileForm} {e : PostNoteEdit} {h : List (FileForm × PostNoteEdit)}

/-! ## One edit -/

/-- What an edit does to the title. -/
lemma edit_noteTitle (he : edit form e = some form') :
    match e with
    | .noteTitleTextbox location length string =>
      location + length ≤ form.noteTitle.length ∧ form'.noteTitle =
        if form.noteTitle.length ≤ 24 then
          replacingCharacters form.noteTitle location length string
        else form.noteTitle
    | _ => form'.noteTitle = form.noteTitle := by
  cases form with
  | resource => cases he
  | note noteTitle auther description price priceSwitch =>
    cases e with
    | noteTitleTextbox location length string =>
      obtain ⟨title, htitle, rfl⟩ := Option.map_eq_some_iff.mp he
      simp only [changed, shouldChangeTitle, decide_eq_true_eq, Option.ite_none_right_eq_some,
        Option.some.injEq] at htitle
      exact ⟨htitle.1, htitle.2.symm⟩
    | priceSwitch =>
      obtain rfl := Option.some.inj he
      rfl
    | descriptionTextbox text =>
      obtain rfl := Option.some.inj he
      rfl
    | _ =>
      obtain ⟨_, -, rfl⟩ := Option.map_eq_some_iff.mp he
      rfl

/-- What it does to the length of a title that may be edited. -/
lemma length_edit_noteTitle (hshort : form.noteTitle.length ≤ 24)
    (he : edit form e = some form') :
    match e with
    | .noteTitleTextbox _ length string =>
      form'.noteTitle.length + length = form.noteTitle.length + string.length
    | _ => form'.noteTitle.length = form.noteTitle.length := by
  have htitle := edit_noteTitle he
  cases e with
  | noteTitleTextbox location length string =>
    obtain ⟨hin, heq⟩ := htitle
    rw [heq, if_pos hshort]
    exact length_replacingCharacters hin string
  | _ => exact congrArg String.length htitle

/-- Any character can be deleted exactly if there are at most 24 of them. -/
lemma titleDeletable_iff : TitleDeletable form ↔ form.noteTitle.length ≤ 24 := by
  constructor
  · intro hdelete
    by_contra hlong
    have hin : 0 + 1 ≤ form.noteTitle.length := by omega
    obtain ⟨form', he, htitle⟩ := hdelete 0 1 Nat.one_pos hin
    have hstuck : form'.noteTitle = form.noteTitle :=
      (edit_noteTitle he).2.trans (if_neg hlong)
    have hlength := length_replacingCharacters hin ""
    rw [← htitle, hstuck, String.length_empty] at hlength
    omega
  · intro hshort location length hpos hin
    cases form with
    | resource =>
      have hzero : location + length ≤ 0 := hin
      omega
    | note noteTitle auther description price priceSwitch =>
      have hshort : noteTitle.length ≤ 24 := hshort
      have hin : location + length ≤ noteTitle.length := hin
      refine ⟨.note (replacingCharacters noteTitle location length "") auther description price
        priceSwitch, ?_, rfl⟩
      simp [edit, changed, hin, shouldChangeTitle, hshort]

lemma titleEditable_iff : TitleEditable form ↔ form.noteTitle.length ≤ 24 := by
  constructor
  · intro hform
    exact titleDeletable_iff.mp hform.deletable
  · intro hshort
    exact ⟨by omega, titleDeletable_iff.mpr hshort⟩

/-- An edit of a title with at most 24 characters leaves at most 24 exactly if it says so. -/
lemma edit_leavesRoom_iff (hshort : form.noteTitle.length ≤ 24) (he : edit form e = some form') :
    form'.noteTitle.length ≤ 24 ↔ LeavesRoom form e := by
  have hlength := length_edit_noteTitle hshort he
  cases e with
  | noteTitleTextbox location length string =>
    simp only [LeavesRoom]
    omega
  | _ => exact iff_of_true (hlength.trans_le hshort) trivial

/-! ## Runs -/

/-- **Stuck titles.** Once the title has 25 characters or more, it stays as it is. -/
theorem title_stuck (hr : Run edit form h form') (hlong : 24 < form.noteTitle.length) :
    form'.noteTitle = form.noteTitle := by
  refine hr.invariant (I := fun form' => form'.noteTitle = form.noteTitle) rfl ?_
  intro form₁ e form₂ heq he
  have htitle := edit_noteTitle he
  cases e with
  | noteTitleTextbox location length string =>
    rw [htitle.2, if_neg (by rw [heq]; omega)]
    exact heq
  | _ => exact htitle.trans heq

/-- **Typing.** If no edit of the title adds more than one character, the title never has more
than 25 characters. -/
theorem title_bounded_of_typing (hr : PostNoteEditRun h form)
    (htypes : EveryStep (fun _ e => AddsOneAtMost e) h) :
    Throughout (fun form => form.noteTitle.length ≤ 25) h form := by
  refine hr.throughout_of_everyStep (by decide) ?_ htypes
  intro form e form' hbound htype he
  by_cases hshort : form.noteTitle.length ≤ 24
  · have hlength := length_edit_noteTitle hshort he
    cases e with
    | noteTitleTextbox location length string =>
      simp only [AddsOneAtMost] at htype
      omega
    | _ => exact hlength.trans_le hbound
  · have hstuck : form'.noteTitle = form.noteTitle := title_stuck (Run.nil.snoc he) (by omega)
    rw [hstuck]
    exact hbound

end Aoun
