import Aoun.Files.Post

/-!
# The files that are downloaded

A stored document's URL addresses the path of its own upload, but nothing keeps the object
there: whoever posts a file of the same name to the same collection as the same user replaces
it. Nor does the upload check the size that the download fetches at most.

## Main definitions

* `Aoun.RoundTrips` — the download of every stored document yields the bytes of its own
  submission.
* `Aoun.KeepsFiles` — what the step writes changes the file of no post.

## Main results

* `Aoun.filesSystem_addressed` — the URLs of the documents address their uploads.
* `Aoun.FilesServer.download_putData` — an upload of another name changes no download.
* `Aoun.files_round_trip_iff` — when the downloads of a run yield what was uploaded.
-/

set_option relaxedAutoImplicit false
set_option autoImplicit false

namespace Aoun

open AsyncSystem AsyncSystem.World StepSystem

/-! ## The URLs -/

/-- The URL of every stored document is that of the path of its upload. -/
def FilesServer.Addressed (downloadURL : String → URL) (s : FilesServer) : Prop :=
  ∀ p ∈ s.documents, p.1.url = downloadURL p.2.path

/-- A document about to be stored has the URL of the path of its upload. -/
def FilesRequest.Addressed (downloadURL : String → URL) : FilesRequest → Prop
  | .setData document upload => document.url = downloadURL upload.path
  | _ => True

/-- The answer to a request, if it is a URL, is that of the path. -/
def FilesRequest.Answered (downloadURL : String → URL) : FilesRequest → FilesAnswer → Prop
  | .downloadURL upload, .url u => u = downloadURL upload.path
  | _, _ => True

section

variable {downloadURL : String → URL}

/-- The server answers with the URLs of the paths. -/
lemma FilesServer.serve_answered (s : FilesServer) (q : FilesRequest) (o : Outcome) :
    q.Answered downloadURL (s.serve downloadURL q o).answer := by
  cases q with
  | downloadURL upload =>
    cases o with
    | success =>
      show FilesRequest.Answered _ _ (s.urlAnswer downloadURL upload.path)
      unfold FilesServer.urlAnswer
      cases s.objects upload.path with
      | none => trivial
      | some _ => rfl
    | _ => trivial
  | _ => trivial

/-- The server keeps the URLs of the documents. -/
lemma FilesServer.Addressed.serve {s : FilesServer} (hs : s.Addressed downloadURL)
    {q : FilesRequest} (hq : q.Addressed downloadURL) (o : Outcome) :
    (s.serve downloadURL q o).server.Addressed downloadURL := by
  cases o with
  | success =>
    cases q with
    | putData upload => exact hs
    | downloadURL upload => exact hs
    | setData document upload =>
      intro p hp
      rcases List.mem_append.mp hp with hp | hp
      · exact hs p hp
      · rw [List.mem_singleton.mp hp]
        exact hq
  | _ => exact hs

/-- A reaction that issues only requests with the URLs of the paths. -/
abbrev KeepsAddressed (downloadURL : String → URL) (r : PostReaction) : Prop :=
  Keeps (fun _ _ => True) (fun _ q => q.Addressed downloadURL) r []

lemma keeps_addressed_skip (vc : PostViewController) :
    KeepsAddressed downloadURL (.skip vc) :=
  ⟨trivial, fun q hq => by simp at hq⟩

/-- The user causes no request for a document. -/
lemma ui_keeps_addressed {vc : PostViewController} {u : PostTap} {r : PostReaction}
    (h : vc.ui u = some r) : KeepsAddressed downloadURL r := by
  cases u with
  | submit =>
    simp only [PostViewController.ui, Option.ite_none_right_eq_some, Option.some.injEq] at h
    rw [← h.2, PostViewController.submit]
    split_ifs
    · unfold PostViewController.putData
      cases vc.documentFileData with
      | none => exact keeps_addressed_skip _
      | some data => exact ⟨trivial, fun q hq => by rw [List.mem_singleton.mp hq]; trivial⟩
    · exact keeps_addressed_skip _
  | _ =>
    simp only [PostViewController.ui, Option.ite_none_right_eq_some, Option.some.injEq] at h
    exact h.2 ▸ keeps_addressed_skip _

/-- `createDocument(with:)` stores the URL that it is called with. -/
lemma createDocument_keeps_addressed (vc : PostViewController) {url : URL} {upload : Upload}
    (hurl : url = downloadURL upload.path) (now : Timestamp) :
    KeepsAddressed downloadURL (vc.createDocument url upload now) := by
  unfold PostViewController.createDocument
  cases vc.form with
  | note =>
    cases vc.currentUser with
    | none => exact keeps_addressed_skip _
    | some userId => exact ⟨trivial, fun q hq => by rw [List.mem_singleton.mp hq]; exact hurl⟩
  | resource => exact ⟨trivial, fun q hq => by rw [List.mem_singleton.mp hq]; exact hurl⟩

lemma recv_keeps_addressed (vc : PostViewController) {q : FilesRequest} {a : FilesAnswer}
    (h : q.Answered downloadURL a) (now : Timestamp) :
    KeepsAddressed downloadURL (vc.recv q a now) := by
  unfold PostViewController.recv
  split_ifs
  · exact keeps_addressed_skip _
  · unfold PostViewController.callback
    split
    · exact ⟨trivial, fun q hq => by rw [List.mem_singleton.mp hq]; trivial⟩
    · exact keeps_addressed_skip _
    · exact createDocument_keeps_addressed vc h now
    · exact keeps_addressed_skip _
    · exact keeps_addressed_skip _
    · exact keeps_addressed_skip _

/-- The forms satisfy the conditions of the client rule. -/
lemma filesSystem_rules : ClientRules (filesSystem downloadURL) (fun _ => False)
    (·.Addressed downloadURL) (fun _ _ _ => True) (fun _ q => q.Addressed downloadURL)
    (fun _ q a => q.Answered downloadURL a) where
  boot := fun _ _ _ => keeps_addressed_skip _
  ui := fun _ _ _ _ _ _ _ hr => ⟨ui_keeps_addressed hr, fun _ hq => hq⟩
  serve := fun s q o _ hs hq => ⟨hs.serve hq o, s.serve_answered q o, fun _ _ => trivial⟩
  others := fun _ _ _ _ _ _ => ⟨fun _ _ _ => trivial, fun _ _ h => h⟩
  recv := fun _ c _ _ _ now _ _ _ ha =>
    ⟨recv_keeps_addressed c ha now, fun _ hq _ => hq⟩

variable {s : FilesServer} {h : List (FilesWorld × FilesEvent)} {w : FilesWorld}

/-- In every state of every run the URLs of the documents, those stored and those about to be,
are the URLs of the paths of their uploads. -/
theorem filesSystem_addressed (hs : s.Addressed downloadURL)
    (hr : (filesSystem downloadURL).RunFrom s h w) :
    w.server.Addressed downloadURL ∧ ∀ f ∈ w.flights, f.request.Addressed downloadURL := by
  have hinv := client_invariant exclusiveRules_false filesSystem_rules hs hr
  refine ⟨hinv.server, fun f hf => ?_⟩
  obtain ⟨_, -, hq, -⟩ := hinv.flight f hf
  exact hq

end

/-! ## The downloads -/

/-- What a download yields is an object of at most the size it fetches. -/
lemma DownloadManager.download_eq_some {reference : URL → String} {s : FilesServer} {url : URL}
    {data : FileData} : download reference s url = some data ↔
      s.objects (reference url) = some data ∧ data.length ≤ maxSize := by
  simp [download, Option.filter_eq_some_iff]

/-- The download of every stored document yields the bytes of its own submission. -/
def FilesServer.RoundTrips (reference : URL → String) (s : FilesServer) : Prop :=
  ∀ p ∈ s.documents, DownloadManager.download reference s p.1.url = some p.2.data

/-- The download of every stored document yields the bytes of its own submission. -/
def RoundTrips (reference : URL → String) (w : FilesWorld) : Prop :=
  w.server.RoundTrips reference

/-- A write changes the file of no post: an upload brings the bytes of the documents that are
stored for its path, and a document is stored while the bytes of its submission are still in
place, and not more than the download fetches. -/
def FilesServer.Spares (s : FilesServer) : FilesRequest → Prop
  | .putData upload => ∀ p ∈ s.documents, p.2.path = upload.path → p.2.data = upload.data
  | .downloadURL _ => True
  | .setData _ upload => s.objects upload.path = some upload.data ∧
      upload.data.length ≤ DownloadManager.maxSize

/-- What the step writes changes the file of no post. -/
def KeepsFiles (w : FilesWorld) (e : FilesEvent) : Prop :=
  ∀ k f, e = .serve k .success → w.flights[k]? = some f → w.server.Spares f.request

section

variable {downloadURL : String → URL} {reference : URL → String}

/-- **Other posts are kept.** An upload to another collection, for another user or under
another file name changes no download of a stored document. -/
theorem FilesServer.download_putData (haddr : ∀ path, reference (downloadURL path) = path)
    {s : FilesServer} (hs : s.Addressed downloadURL) {p : FileDocument × Upload}
    (hp : p ∈ s.documents) {upload : Upload} (hplain : p.2.Plain) (hplain' : upload.Plain)
    (hne : ¬ (p.2.collection = upload.collection ∧ p.2.uid = upload.uid ∧
      p.2.filename = upload.filename)) :
    DownloadManager.download reference (s.serve downloadURL (.putData upload) .success).server
      p.1.url = DownloadManager.download reference s p.1.url := by
  have hpath : p.2.path ≠ upload.path := fun h => hne ((hplain.path_eq_iff hplain').mp h)
  have hobject : (s.serve downloadURL (.putData upload) .success).server.objects p.2.path =
      s.objects p.2.path := Function.update_of_ne hpath _ _
  unfold DownloadManager.download
  rw [hs p hp, haddr, hobject]

/-- When the server's handling of a request keeps the downloads. -/
lemma FilesServer.roundTrips_serve_iff (haddr : ∀ path, reference (downloadURL path) = path)
    {s : FilesServer} (hs : s.Addressed downloadURL) {q : FilesRequest}
    (hq : q.Addressed downloadURL) (h : s.RoundTrips reference) :
    (s.serve downloadURL q .success).server.RoundTrips reference ↔ s.Spares q := by
  cases q with
  | putData upload =>
    refine forall_congr' fun p => forall_congr' fun hp => ?_
    obtain ⟨hobject, hsize⟩ := DownloadManager.download_eq_some.mp (h p hp)
    rw [hs p hp, haddr] at hobject
    rw [DownloadManager.download_eq_some, hs p hp, haddr]
    by_cases hpath : p.2.path = upload.path
    · simp [FilesServer.serve, hpath, hsize, eq_comm]
    · simp [FilesServer.serve, hpath, hsize, hobject]
  | downloadURL upload => exact iff_of_true h trivial
  | setData document upload =>
    have hnew : DownloadManager.download reference s document.url = some upload.data ↔
        s.Spares (.setData document upload) := by
      rw [DownloadManager.download_eq_some, show document.url = _ from hq, haddr]
      rfl
    rw [← hnew]
    constructor
    · intro h'
      exact h' (document, upload) (List.mem_append_right _ (List.mem_singleton_self _))
    · intro hd p hp
      rcases List.mem_append.mp hp with hp | hp
      · exact h p hp
      · rw [List.mem_singleton.mp hp]
        exact hd

/-- When a step keeps the downloads. -/
lemma roundTrips_step_iff (haddr : ∀ path, reference (downloadURL path) = path)
    {w w' : FilesWorld} {e : FilesEvent} (hw : w.server.Addressed downloadURL)
    (hf : ∀ f ∈ w.flights, f.request.Addressed downloadURL) (h : RoundTrips reference w)
    (hs : (filesSystem downloadURL).step w e = some w') :
    RoundTrips reference w' ↔ KeepsFiles w e := by
  cases took_of_step hs with
  | boot free => exact iff_of_true h (by intro k f he; cases he)
  | ui client reacts => exact iff_of_true h (by intro k f he; cases he)
  | deliver flight answered client => exact iff_of_true h (by intro k f he; cases he)
  | @serve k o f flight unanswered =>
    cases o with
    | success =>
      refine (FilesServer.roundTrips_serve_iff haddr hw (hf f (mem_of_flight flight)) h).trans ?_
      constructor
      · intro hspares k' f' he hf'
        obtain ⟨rfl, -⟩ := Event.serve.inj he
        obtain rfl : f = f' := by rw [flight] at hf'; exact Option.some.inj hf'
        exact hspares
      · exact fun hkeeps => hkeeps k f rfl flight
    | failure _ => exact iff_of_true h (by intro k f he; cases he)
    | neither => exact iff_of_true h (by intro k f he; cases he)

end

/-! ## The condition -/

variable {downloadURL : String → URL} {reference : URL → String}
  {objects : String → Option FileData} {h : List (FilesWorld × FilesEvent)} {w : FilesWorld}

/-- **When downloads yield what was uploaded.** From the first post on, every download of a
stored document yields, at any time of a run, the bytes of the document's own submission if
and only if no step writes over the file of a post.

**Proof sketch.** A step keeps the downloads exactly when it meets the condition
(`roundTrips_step_iff`), since the URL of a document addresses the path of its upload in
every state that can be reached (`filesSystem_addressed`). -/
theorem files_round_trip_iff (haddr : ∀ path, reference (downloadURL path) = path)
    (hr : (filesSystem downloadURL).RunFrom ⟨objects, []⟩ h w) :
    Throughout (RoundTrips reference) h w ↔ EveryStep KeepsFiles h := by
  have hnone : (⟨objects, []⟩ : FilesServer).Addressed downloadURL := by
    intro p hp
    cases hp
  have hstart : RoundTrips reference (start ⟨objects, []⟩) := by
    simp [RoundTrips, FilesServer.RoundTrips]
  rw [hr.throughout_iff_everyStep fun h' w e w' hr' hP hs => by
    obtain ⟨hw, hf⟩ := filesSystem_addressed hnone hr'
    exact roundTrips_step_iff haddr hw hf hP hs]
  exact and_iff_right hstart

/-- What a user does to post the note, with the file `rings.pdf` of the bytes `data`, on the
form that is launched as number `i`, if every request succeeds. -/
def posting (i : ℕ) (data : FileData) : List FilesEvent :=
  [.boot i (.note "Rings" "Noether" "Ideals in rings" "" false, some "alice"),
    .ui i (.documentPicker ["rings.pdf"] true (some data)), .ui i .submit,
    .serve 0 .success, .deliver 0 0, .serve 0 .success, .deliver 0 0, .serve 0 .success,
    .deliver 0 0]

/-- Alice posts a note. -/
theorem files_round_trip_alice :
    ∃ h w, (filesSystem id).RunFrom ⟨fun _ => none, []⟩ h w ∧ w.server.documents.length = 1 ∧
      (Throughout (RoundTrips id) h w ↔ EveryStep KeepsFiles h) := by
  have he : (exec (filesSystem id).step (start ⟨fun _ => none, []⟩) (posting 0 [1, 2])).map
      (fun w => w.server.documents.length) = some 1 := by decide +kernel
  obtain ⟨h, w, hr, -, hw⟩ := run_of_observed he
  exact ⟨h, w, hr, hw, files_round_trip_iff (fun _ => rfl) hr⟩

/-- Alice posts two notes, with files of one name. -/
theorem post_overwritten : ∃ h w, (filesSystem id).RunFrom ⟨fun _ => none, []⟩ h w ∧
    ¬ Throughout (RoundTrips id) h w := by
  have he : (exec (filesSystem id).step (start ⟨fun _ => none, []⟩)
      (posting 0 [1, 2] ++ posting 1 [3])).map (fun w => w.server.documents.map fun p =>
        (p.2.data, DownloadManager.download id w.server p.1.url)) =
      some [([1, 2], some [3]), ([3], some [3])] := by decide +kernel
  obtain ⟨h, w, hr, -, hw⟩ := run_of_observed he
  refine ⟨h, w, hr, fun hall => ?_⟩
  obtain ⟨p, hp, hpair⟩ : ∃ p ∈ w.server.documents,
      (p.2.data, DownloadManager.download id w.server p.1.url) = ([1, 2], some [3]) := by
    rw [← List.mem_map, hw]
    exact List.mem_cons_self
  obtain ⟨hdata, hdownload⟩ := Prod.mk.inj hpair
  have heq := hall.2 p hp
  rw [hdata, hdownload] at heq
  exact absurd heq (by decide)

end Aoun
