import Aoun.Files.Post

/-!
# The fields that are stored

The forms check their fields when they are submitted, and store them when the file has been uploaded
and its URL has arrived. They take touches all the while, so that what is stored is what is filled
in then. It passes the checks where a form whose file is on the way is edited only to what they
accept.

## Main definitions

* `Aoun.FileForm.Complete`, `Aoun.FileDocument.Complete` — the fields pass the checks.
* `Aoun.KeepsComplete` — a form whose file is on the way is edited only to what its checks accept.

## Main results

* `Aoun.documents_complete` — the documents pass the checks.
* `Aoun.document_incomplete` — one that does not.
-/

set_option relaxedAutoImplicit false
set_option autoImplicit false

namespace Aoun

open AsyncSystem AsyncSystem.World StepSystem

/-! ## What the forms accept -/

/-- The fields of a note, other than its price, pass the checks. -/
def NoteComplete (noteTitle auther description : String) : Prop :=
  4 ≤ (trimmed noteTitle).length ∧ 4 ≤ (trimmed auther).length ∧
    11 ≤ (trimmed description).length ∧ description ≠ "*Description"

/-- The fields of a resource that are required pass the checks. -/
def ResourceComplete (name author publisher : String) : Prop :=
  4 ≤ (trimmed name).length ∧ 4 ≤ (trimmed author).length ∧ 4 ≤ (trimmed publisher).length

/-- The fields that are filled in pass the checks. -/
def FileForm.Complete : FileForm → Prop
  | .note noteTitle auther description _ _ => NoteComplete noteTitle auther description
  | .resource name author publisher _ => ResourceComplete name author publisher

/-- The fields that are stored pass the checks. -/
def FileDocument.Complete : FileDocument → Prop
  | .note noteTitle autherName briefDescription _ _ _ _ =>
    NoteComplete noteTitle autherName briefDescription
  | .resource ResName authorName pubName _ _ _ _ => ResourceComplete ResName authorName pubName

instance (form : FileForm) : Decidable form.Complete :=
  match form with
  | .note .. => inferInstanceAs (Decidable (_ ∧ _ ∧ _ ∧ _))
  | .resource .. => inferInstanceAs (Decidable (_ ∧ _ ∧ _))

/-- A form that is submitted is complete. -/
lemma FileForm.complete_of_check {form : FileForm} {files : List String} {error : String}
    (h : (form.check files error).2 = true) : form.Complete := by
  cases form with
  | note noteTitle auther description price priceSwitch =>
    simp only [check, PostNoteViewController.check] at h
    split_ifs at h with hempty _ _ htitle hauther hdescription
    exact ⟨by omega, by omega, by omega, fun hd => hempty (Or.inr (Or.inr hd))⟩
  | resource name author publisher desc =>
    simp only [check, resPostViewController.check] at h
    split_ifs at h with _ hname hauthor hpublisher
    exact ⟨by omega, by omega, by omega⟩

/-! ## The reactions -/

/-- The file of a submission is on the way. -/
def FilesRequest.Uploads : FilesRequest → Prop
  | .putData _ | .downloadURL _ => True
  | .setData _ _ => False

/-- What is asked for fits the form: while its file is on the way it is complete, and so is what is
stored. -/
def FilesRequest.Fits (vc : PostViewController) : FilesRequest → Prop
  | .putData _ | .downloadURL _ => vc.form.Complete
  | .setData document _ => document.Complete

/-- What is asked for fits a form with the same fields. -/
lemma FilesRequest.Fits.of_form {vc vc' : PostViewController} {q : FilesRequest} (h : q.Fits vc)
    (hform : vc'.form = vc.form) : q.Fits vc' := by
  cases q with
  | setData document upload => exact h
  | _ => exact (congrArg FileForm.Complete hform).mpr h

section

variable {vc : PostViewController}

/-- What a tap asks for fits the form, and only an edit changes its fields. -/
lemma ui_fits {u : PostTap} {r : PostReaction} (hr : vc.ui u = some r) :
    (∀ q ∈ r.requests, q.Fits r.client) ∧ (r.client.form = vc.form ∨ ∃ form, u = .edit form) := by
  cases u with
  | edit form =>
    simp only [PostViewController.ui, Option.ite_none_right_eq_some, Option.some.injEq] at hr
    rw [← hr.2]
    exact ⟨by simp, Or.inr ⟨form, rfl⟩⟩
  | documentPicker urls accessible document =>
    simp only [PostViewController.ui, Option.ite_none_right_eq_some, Option.some.injEq] at hr
    rw [← hr.2]
    refine ⟨by simp, Or.inl ?_⟩
    dsimp only [Reaction.skip_client, PostViewController.documentPicker]
    split_ifs <;> rfl
  | submit =>
    simp only [PostViewController.ui, Option.ite_none_right_eq_some, Option.some.injEq] at hr
    rw [← hr.2, PostViewController.submit]
    split_ifs with hcheck
    · have hcomplete : vc.form.Complete := FileForm.complete_of_check hcheck
      unfold PostViewController.putData
      cases vc.documentFileData with
      | none => exact ⟨by simp, Or.inl rfl⟩
      | some data =>
        refine ⟨fun q hq => ?_, Or.inl rfl⟩
        rw [List.mem_singleton.mp hq]
        exact hcomplete
    · exact ⟨by simp, Or.inl rfl⟩
  | ok =>
    simp only [PostViewController.ui, Option.ite_none_right_eq_some, Option.some.injEq] at hr
    rw [← hr.2]
    exact ⟨by simp, Or.inl rfl⟩

/-- What is stored are the fields of a complete form. -/
lemma createDocument_fits (h : vc.form.Complete) (url : URL) (upload : Upload) (now : Timestamp) :
    (∀ q ∈ (vc.createDocument url upload now).requests,
      q.Fits (vc.createDocument url upload now).client) ∧
      (vc.createDocument url upload now).client.form = vc.form := by
  unfold PostViewController.createDocument
  split
  · next hform =>
    rw [hform] at h
    split
    · exact ⟨by simp, rfl⟩
    · refine ⟨fun q hq => ?_, rfl⟩
      rw [List.mem_singleton.mp hq]
      exact h
  · next hform =>
    rw [hform] at h
    refine ⟨fun q hq => ?_, rfl⟩
    rw [List.mem_singleton.mp hq]
    exact h

/-- What an answer leads to fits the form, and its fields stay. -/
lemma recv_fits {q : FilesRequest} (hq : q.Fits vc) (a : FilesAnswer) (now : Timestamp) :
    (∀ q' ∈ (vc.recv q a now).requests, q'.Fits (vc.recv q a now).client) ∧
      (vc.recv q a now).client.form = vc.form := by
  unfold PostViewController.recv
  split_ifs
  · exact ⟨by simp, rfl⟩
  unfold PostViewController.callback
  split
  · refine ⟨fun q' hq' => ?_, rfl⟩
    rw [List.mem_singleton.mp hq']
    exact hq
  · exact ⟨by simp [PostViewController.uploadFailed], rfl⟩
  · exact createDocument_fits hq _ _ now
  · exact ⟨by simp, rfl⟩
  · exact ⟨by simp, rfl⟩
  · exact ⟨by simp, rfl⟩

end

/-! ## The system -/

/-- The documents are complete, and so is what the forms have asked for. -/
structure StoresComplete (w : FilesWorld) : Prop where
  documents : ∀ p ∈ w.server.documents, p.1.Complete
  flights : ∀ f ∈ w.flights, ∃ vc, w.clients f.owner = some vc ∧ f.request.Fits vc

/-- A form whose file is on the way is edited only to what its checks accept. -/
def KeepsComplete (w : FilesWorld) (e : FilesEvent) : Prop :=
  ∀ i form, e = .ui i (.edit form) → ∀ f ∈ w.flights, f.owner = i → f.request.Uploads →
    form.Complete

/-- A reaction of a form that asks for what fits it, and keeps what it has asked for fitting. -/
lemma StoresComplete.react {w : FilesWorld} (h : StoresComplete w) (i root : ℕ) {r : PostReaction}
    (hr : ∀ q ∈ r.requests, q.Fits r.client)
    (hkeeps : ∀ f ∈ w.flights, f.owner = i → f.request.Fits r.client) :
    StoresComplete (w.react i root r) := by
  refine ⟨h.documents, fun f hf => ?_⟩
  rcases List.mem_append.mp hf with hf | hf
  · by_cases hi : f.owner = i
    · exact ⟨r.client, by rw [hi, react_clients_self], hkeeps f hf hi⟩
    · rw [react_clients_of_ne _ _ _ hi]
      exact h.flights f hf
  · obtain ⟨q, hq, rfl⟩ := List.mem_map.mp hf
    exact ⟨r.client, react_clients_self w i root r, hr q hq⟩

lemma StoresComplete.tick {w : FilesWorld} (h : StoresComplete w) : StoresComplete w.tick :=
  ⟨h.documents, h.flights⟩

/-- The server stores what is asked for. -/
lemma FilesServer.complete_serve {downloadURL : String → URL} {s : FilesServer} {q : FilesRequest}
    {vc : PostViewController} (hs : ∀ p ∈ s.documents, p.1.Complete) (hq : q.Fits vc)
    (o : Outcome) : ∀ p ∈ (s.serve downloadURL q o).server.documents, p.1.Complete := by
  cases o with
  | success =>
    cases q with
    | setData document upload =>
      intro p hp
      rcases List.mem_append.mp hp with hp | hp
      · exact hs p hp
      · rw [List.mem_singleton.mp hp]
        exact hq
    | _ => exact hs
  | _ => exact hs

variable {downloadURL : String → URL} {s : FilesServer} {h : List (FilesWorld × FilesEvent)}
  {w : FilesWorld}

/-- A step that meets the condition keeps the documents complete. -/
lemma storesComplete_step {e : FilesEvent} {w' : FilesWorld} (hw : StoresComplete w)
    (he : KeepsComplete w e) (hs : (filesSystem downloadURL).step w e = some w') :
    StoresComplete w' := by
  -- a reaction that keeps the fields keeps what has been asked for fitting them
  have hsame : ∀ i vc vc', w.clients i = some vc → vc'.form = vc.form →
      ∀ f ∈ w.flights, f.owner = i → f.request.Fits vc' := by
    rintro i vc vc' hc hform f hf rfl
    obtain ⟨vc'', hc'', hfits⟩ := hw.flights f hf
    obtain rfl := Option.some.inj (hc.symm.trans hc'')
    exact hfits.of_form hform
  cases took_of_step hs with
  | @boot i a free =>
    refine (hw.react i w.next (fun q hq => absurd hq List.not_mem_nil) fun f hf hi => ?_).tick
    obtain ⟨vc, hc, -⟩ := hw.flights f hf
    rw [hi, free] at hc
    cases hc
  | @ui i u vc r client reacts =>
    obtain ⟨hrequests, hform⟩ := ui_fits reacts
    refine (hw.react i w.next hrequests fun f hf hi => ?_).tick
    rcases hform with hform | ⟨form, rfl⟩
    · exact hsame i vc r.client client hform f hf hi
    · -- what has been stored does not look at the form, and the rest is covered by the condition
      obtain ⟨vc', -, hfits⟩ := hw.flights f hf
      simp only [filesSystem, PostViewController.ui, Option.ite_none_right_eq_some,
        Option.some.injEq] at reacts
      obtain ⟨-, rfl⟩ := reacts
      cases hq : f.request with
      | setData document upload =>
        rw [hq] at hfits
        exact hfits
      | putData upload => exact he i form rfl f hf hi (hq ▸ trivial)
      | downloadURL upload => exact he i form rfl f hf hi (hq ▸ trivial)
  | @serve k o f flight unanswered =>
    have hf := mem_of_flight flight
    obtain ⟨vc, hc, hfits⟩ := hw.flights f hf
    refine ⟨FilesServer.complete_serve hw.documents hfits o, fun f' hf' => ?_⟩
    rcases List.mem_append.mp hf' with hf' | hf'
    · exact hw.flights f' (List.mem_of_mem_eraseIdx hf')
    · obtain rfl := List.mem_singleton.mp hf'
      exact ⟨vc, hc, hfits⟩
  | @deliver k now f a vc flight answered client =>
    obtain ⟨vc', hc', hfits⟩ := hw.flights f (mem_of_flight flight)
    obtain rfl := Option.some.inj (client.symm.trans hc')
    obtain ⟨hrequests, hform⟩ := recv_fits hfits a now
    have hland : StoresComplete (w.land k) :=
      ⟨hw.documents, fun f' hf' => hw.flights f' (List.mem_of_mem_eraseIdx hf')⟩
    exact hland.react f.owner f.root hrequests fun f' hf' hi =>
      hsame f.owner vc _ client hform f' (List.mem_of_mem_eraseIdx hf') hi

/-- Alice submits a note, and fills in `form` while its file is on the way. -/
def postingEdited (form : FileForm) : List FilesEvent :=
  [.boot 0 (.note "Rings" "Noether" "Ideals in rings" "" false, some "alice"),
    .ui 0 (.documentPicker ["rings.pdf"] true (some [1, 2])), .ui 0 .submit, .ui 0 (.edit form),
    .serve 0 .success, .deliver 0 0, .serve 0 .success, .deliver 0 0, .serve 0 .success,
    .deliver 0 0]

/-- A test that a form is edited only to what its checks accept. -/
def editsComplete (_ : FilesWorld) : FilesEvent → Bool
  | .ui _ (.edit form) => decide form.Complete
  | _ => true

/-- Alice empties the form while its file is on the way, and an empty note is stored. -/
theorem document_incomplete : ∃ h w, (filesSystem id).RunFrom ⟨fun _ => none, []⟩ h w ∧
    ∃ p ∈ w.server.documents, ¬ p.1.Complete := by
  have he : (exec (filesSystem id).step (start ⟨fun _ => none, []⟩)
      (postingEdited (.note "" "" "" "" false))).map (fun w => w.server.documents.map (·.1)) =
      some [.note "" "" "" "" "Notes/alice/rings.pdf" "alice" 0] := by decide +kernel
  obtain ⟨h, w, hr, -, hw⟩ := run_of_observed he
  obtain ⟨p, hp, hdocument⟩ : ∃ p ∈ w.server.documents,
      p.1 = .note "" "" "" "" "Notes/alice/rings.pdf" "alice" 0 := by
    rw [← List.mem_map, hw]
    exact List.mem_singleton_self _
  refine ⟨h, w, hr, p, hp, ?_⟩
  rw [hdocument]
  rintro ⟨htitle, -⟩
  exact absurd htitle (by decide)

end Aoun
