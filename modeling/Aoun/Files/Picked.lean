import Mathlib.Data.List.Induction
import Aoun.Files.Post
import Aoun.Lib.Acts

/-!
# The file that is attached

`documentPicker(_:didPickDocumentsAt:)` notes the picked files in `files` and the bytes of the
last one in `documentFileData`. A file that cannot be read still replaces `files`, and the form
shows it as attached; a submission then takes the name from one pick and the bytes from another,
or stops for want of any bytes.

## Main definitions

* `Aoun.Pick`, `Aoun.picks` — the picks that a form has taken.
* `Aoun.UploadsPicked` — a submission uploads the file that was picked last.
* `Aoun.HoldsPicked` — the bytes that were read last are those of the file picked last.

## Main results

* `Aoun.attached_picks` — what a form has attached after what its user did.
* `Aoun.uploads_picked_iff` — when the submissions of a run upload what was attached.
-/

set_option relaxedAutoImplicit false
set_option autoImplicit false

namespace Aoun

open AsyncSystem AsyncSystem.World StepSystem

/-! ## The picks -/

/-- A pick that the form has taken. -/
structure Pick where
  /-- The last path components of the picked files. -/
  files : List String
  /-- What was read of the last file, if it could be read. -/
  document : Option FileData
  /-- The number of the pick among all that the user has done. -/
  number : ℕ

namespace Pick

/-- The last path component of the picked file. -/
def filename (p : Pick) : String := p.files.getLast?.getD ""

/-- The bytes of the picked file, where `unread` gives those of the files that could not be
read. -/
def contents (unread : ℕ → FileData) (p : Pick) : FileData := p.document.getD (unread p.number)

end Pick

/-- The pick, if what the user does is one and the form takes it. -/
def PostTap.pick (number : ℕ) : PostTap → Option Pick
  | .documentPicker urls accessible document =>
    if urls = [] ∨ accessible = false then none else some ⟨urls, document, number⟩
  | _ => none

/-- The picks among what the user has done, oldest first. -/
def picks (us : List PostTap) : List Pick := us.zipIdx.filterMap fun u => u.1.pick u.2

@[simp] lemma picks_nil : picks [] = [] := rfl

lemma picks_snoc (us : List PostTap) (u : PostTap) :
    picks (us ++ [u]) = picks us ++ (u.pick us.length).toList := by
  cases hu : u.pick us.length <;> simp [picks, List.zipIdx_append, hu]

/-- The bytes that were read last. -/
def lastRead (us : List PostTap) : Option FileData := ((picks us).filterMap (·.document)).getLast?

lemma lastRead_snoc (us : List PostTap) (u : PostTap) :
    lastRead (us ++ [u]) = ((u.pick us.length).bind (·.document)).or (lastRead us) := by
  rw [lastRead, picks_snoc]
  cases hu : u.pick us.length with
  | none => simp [lastRead]
  | some p => cases hp : p.document <;> simp [lastRead, hp]

/-! ## What is attached -/

/-- What the form has attached: the files and the data. -/
def PostViewController.attached (vc : PostViewController) : List String × Option FileData :=
  (vc.files, vc.documentFileData)

/-- What is attached after what the user does. -/
def PostTap.attach (a : List String × Option FileData) :
    PostTap → List String × Option FileData
  | .documentPicker urls accessible document =>
    if urls = [] ∨ accessible = false then a else (urls, document.or a.2)
  | _ => a

/-- **What a form has attached.** The files are those of the last pick, the data those read
last.

**Proof sketch.** Induction on what the user has done, from its end. A pick replaces the files,
and the data if the file could be read. -/
lemma attached_picks (us : List PostTap) :
    us.foldl PostTap.attach ([], none) =
      (((picks us).getLast?.map (·.files)).getD [], lastRead us) := by
  induction us using List.reverseRecOn with
  | nil => rfl
  | append_singleton us u ih =>
    rw [List.foldl_append, ih, lastRead_snoc, picks_snoc]
    cases u with
    | documentPicker urls accessible document =>
      by_cases hskip : urls = [] ∨ accessible = false <;>
        simp [PostTap.attach, PostTap.pick, hskip]
    | _ => simp [PostTap.attach, PostTap.pick]

namespace PostViewController

variable (vc : PostViewController)

/-- A submission changes nothing of what is attached. -/
lemma submit_attached : vc.submit.client.attached = vc.attached := by
  rw [submit]
  split_ifs
  · unfold putData
    cases hdata : vc.documentFileData <;> simp [attached, hdata]
  · rfl

/-- What the user does to what is attached. -/
lemma ui_attached {vc : PostViewController} {u : PostTap} {r : PostReaction}
    (h : vc.ui u = some r) : r.client.attached = u.attach vc.attached := by
  cases u with
  | submit =>
    simp only [ui, Option.ite_none_right_eq_some, Option.some.injEq] at h
    exact h.2 ▸ vc.submit_attached
  | documentPicker urls accessible document =>
    simp only [ui, Option.ite_none_right_eq_some, Option.some.injEq] at h
    rw [← h.2, Reaction.skip_client, documentPicker, PostTap.attach]
    split_ifs <;> rfl
  | _ =>
    simp only [ui, Option.ite_none_right_eq_some, Option.some.injEq] at h
    exact h.2 ▸ rfl

/-- The callbacks change nothing of what is attached. -/
lemma recv_attached (q : FilesRequest) (a : FilesAnswer) (now : Timestamp) :
    (vc.recv q a now).client.attached = vc.attached := by
  unfold recv
  split_ifs
  · rfl
  · unfold callback
    split
    case h_3 =>
      unfold createDocument
      cases vc.form <;> cases vc.currentUser <;> rfl
    all_goals rfl

end PostViewController

variable {downloadURL : String → URL} {s : FilesServer} {h : List (FilesWorld × FilesEvent)}
  {w : FilesWorld}

/-- In every state of every run a form has attached what its user picked. -/
theorem filesSystem_attached (hr : (filesSystem downloadURL).RunFrom s h w) {i : ℕ}
    {vc : PostViewController} (hvc : w.clients i = some vc) :
    vc.attached = (((picks (acts i h)).getLast?.map (·.files)).getD [], lastRead (acts i h)) := by
  rw [← attached_picks]
  exact folded (fun _ => rfl) (fun _ _ _ => PostViewController.ui_attached)
    PostViewController.recv_attached hr hvc

/-! ## The submissions -/

/-- The checks of a form do not pass without a file. -/
lemma FileForm.check_nil (form : FileForm) (error : String) : (form.check [] error).2 = false := by
  cases form with
  | note => grind [check, PostNoteViewController.check]
  | resource => grind [check, resPostViewController.check]

/-- If the step is a submission that passes the checks, then the program does not stop, and what
is uploaded, if anything, is the file picked last: its name names the path and its bytes are
the data. -/
def UploadsPicked (unread : ℕ → ℕ → FileData) (h : List (FilesWorld × FilesEvent))
    (w : FilesWorld) (e : FilesEvent) : Prop :=
  ∀ i vc r, e = .ui i .submit → w.clients i = some vc → vc.ui .submit = some r →
    (vc.form.check vc.files vc.error).2 = true →
    r.client.trapped = false ∧ ∀ upload, FilesRequest.putData upload ∈ r.requests →
      ∃ p, (picks (acts i h)).getLast? = some p ∧ upload.filename = p.filename ∧
        upload.data = p.contents (unread i)

/-- If the step is a submission that passes the checks, then the file picked last could be read,
or else it holds the same bytes as the file that was read last. -/
def HoldsPicked (unread : ℕ → ℕ → FileData) (h : List (FilesWorld × FilesEvent))
    (w : FilesWorld) (e : FilesEvent) : Prop :=
  ∀ i vc, e = .ui i .submit → w.clients i = some vc →
    (vc.form.check vc.files vc.error).2 = true → ∀ p, (picks (acts i h)).getLast? = some p →
    p.document = none → lastRead (acts i h) = some (p.contents (unread i))

/-- What is attached when a form is submitted and its checks pass. -/
lemma picked_of_check {vc : PostViewController} {us : List PostTap}
    (hatt : vc.attached = (((picks us).getLast?.map (·.files)).getD [], lastRead us))
    (hcheck : (vc.form.check vc.files vc.error).2 = true) :
    ∃ p, (picks us).getLast? = some p ∧ vc.files = p.files ∧ vc.documentFileData = lastRead us := by
  obtain ⟨hfiles, hdata⟩ := Prod.mk.inj hatt
  cases hlast : (picks us).getLast? with
  | some p => exact ⟨p, rfl, by simpa [hlast] using hfiles, hdata⟩
  | none =>
    -- without a pick the checks stop at the missing file
    have hnone : vc.files = [] := by simpa [hlast] using hfiles
    rw [hnone, FileForm.check_nil] at hcheck
    cases hcheck

/-- The file that was read last is the file picked last, if that could be read. -/
lemma lastRead_of_document {us : List PostTap} {p : Pick} (hp : (picks us).getLast? = some p)
    {data : FileData} (hdata : p.document = some data) : lastRead us = some data := by
  obtain ⟨l, hl⟩ := List.getLast?_eq_some_iff.mp hp
  simp [lastRead, hl, hdata]

/-- A submission that passes the checks uploads the attached data under the name of the
attached file, or stops. -/
lemma PostViewController.ui_submit {vc : PostViewController} {r : PostReaction}
    (hr : vc.ui .submit = some r) (hcheck : (vc.form.check vc.files vc.error).2 = true) :
    match vc.documentFileData with
    | none => r.client.trapped = true
    | some data => r.client.trapped = false ∧ r.requests =
        [.putData ⟨vc.form.collection, vc.currentUser.getD "", vc.files.getLast?.getD "",
          data⟩] := by
  simp only [ui, Option.ite_none_right_eq_some, Option.some.injEq] at hr
  obtain ⟨htap, rfl⟩ := hr
  rw [submit, if_pos hcheck]
  unfold putData
  cases hdata : vc.documentFileData with
  | none => simp
  | some data => exact ⟨htap.1, rfl⟩

/-- When a step uploads the file that was picked. -/
lemma uploads_picked_step_iff (unread : ℕ → ℕ → FileData)
    (hr : (filesSystem downloadURL).RunFrom s h w) {e : FilesEvent} {w' : FilesWorld}
    (hs : (filesSystem downloadURL).step w e = some w') :
    UploadsPicked unread h w e ↔ HoldsPicked unread h w e := by
  constructor
  · intro hup i vc he hvc hcheck p hp hnone
    subst he
    obtain ⟨p', hp', hfiles, hdata⟩ := picked_of_check (filesSystem_attached hr hvc) hcheck
    obtain rfl : p' = p := Option.some.inj (hp'.symm.trans hp)
    cases took_of_step hs with
    | @ui _ _ vc' r client reacts =>
      obtain rfl : vc' = vc := Option.some.inj (client.symm.trans hvc)
      obtain ⟨hrun, hall⟩ := hup i vc' r rfl hvc reacts hcheck
      have hsub := PostViewController.ui_submit reacts hcheck
      rw [← hdata]
      cases hd : vc'.documentFileData with
      | none => simp [hd, hrun] at hsub
      | some data =>
        rw [hd] at hsub
        obtain ⟨q, hq, -, hbytes⟩ := hall _ (by rw [hsub.2]; exact List.mem_singleton_self _)
        obtain rfl : q = p' := Option.some.inj (hq.symm.trans hp')
        rw [show data = _ from hbytes]
  · rintro hhold i vc r rfl hvc hui hcheck
    obtain ⟨p, hp, hfiles, hdata⟩ := picked_of_check (filesSystem_attached hr hvc) hcheck
    have hread : lastRead (acts i h) = some (p.contents (unread i)) := by
      cases hdoc : p.document with
      | none => exact hhold i vc rfl hvc hcheck p hp hdoc
      | some data => rw [lastRead_of_document hp hdoc, Pick.contents, hdoc, Option.getD_some]
    have hsub := PostViewController.ui_submit hui hcheck
    rw [hdata, hread] at hsub
    obtain ⟨hrun, hreq⟩ := hsub
    refine ⟨hrun, fun upload hup => ⟨p, hp, ?_⟩⟩
    rw [hreq, List.mem_singleton] at hup
    obtain rfl := FilesRequest.putData.inj hup
    exact ⟨by rw [hfiles]; rfl, rfl⟩

/-- **When the attached file is the one uploaded.** In a run of any number of forms every
submission that passes the checks runs on, and uploads what was picked last, if and only if at
each of them the file picked last could be read, or happens to hold the same bytes as the file
that was read last.

**Proof sketch.** At a submission that passes the checks the form has a pick
(`picked_of_check`), the name is that of the last one, and the data are those read last
(`filesSystem_attached`). -/
theorem uploads_picked_iff (unread : ℕ → ℕ → FileData)
    (hr : (filesSystem downloadURL).RunFrom s h w) :
    EveryStepAfter (UploadsPicked unread) h ↔ EveryStepAfter (HoldsPicked unread) h :=
  hr.everyStepAfter_congr fun _ _ _ _ hr hs => uploads_picked_step_iff unread hr hs

/-- What Alice does on the form: she picks `rings.pdf`, which can be read, then perhaps another
file, and submits. -/
def attaching (others : List PostTap) : List FilesEvent :=
  .boot 0 (.note "Rings" "Noether" "Ideals in rings" "" false, some "alice") ::
    (.documentPicker ["rings.pdf"] true (some [1, 2]) :: others).map (.ui 0)

/-- Alice attaches one file and posts it. -/
theorem uploads_picked_alice :
    ∃ h w, (filesSystem id).RunFrom ⟨fun _ => none, []⟩ h w ∧
      w.flights.map (·.request) = [.putData ⟨"Notes", "alice", "rings.pdf", [1, 2]⟩] ∧
      (EveryStepAfter (UploadsPicked fun _ _ => []) h ↔
        EveryStepAfter (HoldsPicked fun _ _ => []) h) := by
  have he : (exec (filesSystem id).step (start ⟨fun _ => none, []⟩) (attaching [.submit])).map
      (fun w => w.flights.map (·.request)) =
      some [.putData ⟨"Notes", "alice", "rings.pdf", [1, 2]⟩] := by decide +kernel
  obtain ⟨h, w, hr, -, hw⟩ := run_of_observed he
  exact ⟨h, w, hr, hw, uploads_picked_iff _ hr⟩

/-- Alice picks a second file, which cannot be read; the bytes of the first are uploaded under
the name of the second. -/
theorem upload_of_another : ∃ h w, (filesSystem id).RunFrom ⟨fun _ => none, []⟩ h w ∧
    ¬ EveryStepAfter (UploadsPicked fun _ _ => [3]) h := by
  have he : (exec (filesSystem id).step (start ⟨fun _ => none, []⟩)
      (attaching [.documentPicker ["fields.pdf"] true none])).map (fun w =>
        (w.clients 0).bind fun vc => (vc.ui .submit).map fun r =>
          ((vc.form.check vc.files vc.error).2, r.requests)) =
      some (some (true, [.putData ⟨"Notes", "alice", "fields.pdf", [1, 2]⟩])) := by decide +kernel
  obtain ⟨h, w, hr, hes, hw⟩ := run_of_observed he
  obtain ⟨vc, hvc, hw⟩ := Option.bind_eq_some_iff.mp hw
  obtain ⟨r, hui, hr'⟩ := Option.map_eq_some_iff.mp hw
  obtain ⟨hcheck, hreq⟩ := Prod.mk.inj hr'
  have hs : (filesSystem id).step w (.ui 0 .submit) = some (w.react 0 w.next r).tick :=
    step_ui hvc hui
  refine ⟨_, _, hr.snoc hs, fun hall => ?_⟩
  obtain ⟨-, hup⟩ := ((everyStepAfter_snoc ..).mp hall).2 0 vc r rfl hvc hui hcheck
  obtain ⟨p, hp, -, hdata⟩ := hup _ (by rw [hreq]; exact List.mem_singleton_self _)
  have hlast : (picks (acts 0 h)).getLast? = some ⟨["fields.pdf"], none, 1⟩ := by
    rw [acts_eq_filterMap, hes]
    rfl
  obtain rfl := Option.some.inj (hlast.symm.trans hp)
  exact absurd hdata (by decide)

end Aoun
