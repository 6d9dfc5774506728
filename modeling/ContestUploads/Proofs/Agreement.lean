import ContestUploads.Proofs.Reached
import ContestUploads.Proofs.Seeding

/-!
# The catalog in memory and the catalog over tables

Clients call the desk, with arguments of any kind, and they call the catalog of uploads itself, with
records whose fields are of their declared types.  A submission that they store again is one that
they were given before, with another status or other references.

What a call comes to in a world is `ClientCall.answered`.  Every carrier does just this
(`ClientCall.does_program`), so that a catalog in memory and a catalog over tables that carry the
same world give the same answer and carry the same world afterwards.  Over a whole run this needs
that a submission which a client was given stays a version of a stored one.
-/

namespace ContestUploads

open Program Sql World

/-- A call of a client. -/
inductive ClientCall
  | desk (call : DeskCall)
  | uploadStatuses
  | uploadTypes
  | submissionStatuses
  | createUpload (draft : StoredUpload) (id : Value) (operator : String)
  | createSubmission (draft : StoredSubmission) (id : Value) (operator : String)
  | updateSubmission (s : StoredSubmission) (operator : String)
  | getSubmission (n : Int)
  | searchSubmissions (x : Sought)

namespace ClientCall

/-- What is done at a call. -/
def program (settings : Settings) : ClientCall → Program Value
  | desk c => c.program settings
  | uploadStatuses => call (.catalog .uploadStatuses)
  | uploadTypes => call (.catalog .uploadTypes)
  | submissionStatuses => call (.catalog .submissionStatuses)
  | createUpload draft id operator =>
      call (.catalog (.createUpload { draft.record with id }.value (.text operator)))
  | createSubmission draft id operator =>
      call (.catalog (.createSubmission { draft.record with id }.value (.text operator)))
  | updateSubmission s operator => call (.catalog (.updateSubmission s.value (.text operator)))
  | getSubmission n => call (.catalog (.getSubmission (.int n)))
  | searchSubmissions x => call (.catalog (.searchSubmissions (.filter x.filter)))

/-- What a call comes to in a world: its answer, and the world afterwards. -/
def answered (settings : Settings) (w : World) : ClientCall → Except Failure Value × World
  | desk (.upload category projectId userId filename) =>
      Carrier.shown Value.int (w.upload settings category projectId userId filename)
  | desk (.setSubmissionStatus submissionId statusId operator) =>
      Carrier.shown StoredSubmission.value (w.changeStatus settings submissionId statusId operator)
  | uploadStatuses => (.ok (.list (w.uploadStatuses.map StoredLookup.value)), w)
  | uploadTypes => (.ok (.list (w.uploadTypes.map StoredLookup.value)), w)
  | submissionStatuses => (.ok (.list (w.submissionStatuses.map StoredLookup.value)), w)
  | createUpload draft _ operator =>
      (.ok (draft.created w.nextUpload operator w.now).value, w.addUpload draft operator)
  | createSubmission draft _ operator =>
      (.ok (draft.created w.freeSubmission operator w.now).value, w.addSubmission draft operator)
  | updateSubmission s operator =>
      (.ok (s.stamped operator w.now).value, w.putSubmission s operator)
  | getSubmission n => (.ok (((w.submission? n).map StoredSubmission.value).getD .null), w)
  | searchSubmissions x =>
      (.ok (.list ((w.submissions.filter (x.picks ·)).map StoredSubmission.value)), w)

/-- A call that is well meant: types and statuses are from the lookups, integers are within reach,
and a submission that is stored again is known. -/
def Proper (w : World) (reach : Int → Prop) (known : StoredSubmission → Prop) : ClientCall → Prop
  | desk (.upload _ projectId userId _) =>
      (∀ n, projectId = .int n → reach n) ∧ ∀ n, userId = .int n → reach n
  | desk (.setSubmissionStatus submissionId _ _) => ∀ n, submissionId = .int n → reach n
  | uploadStatuses | uploadTypes | submissionStatuses => True
  | createUpload draft _ _ => draft.Proper w reach
  | createSubmission draft _ _ => draft.Proper w reach
  | updateSubmission s _ => s.Proper w reach ∧ known s
  | getSubmission n => reach n
  | searchSubmissions x => x.Within reach

variable {κ : Type} [UploadCatalog κ] {k : Carrier κ} {w u : World} (settings : Settings)

/-- A call that is well meant comes to the same over every carrier. -/
theorem does_program {c : ClientCall} (hc : c.Proper w k.reach w.IsVersion)
    (hupload : k.reach w.nextUpload) (hsubmission : k.reach w.freeSubmission) :
    k.Does (c.program settings) w (c.answered settings w) := by
  cases c with
  | desk c =>
      cases c with
      | upload category projectId userId filename =>
          exact does_upload settings hc.1 hc.2 hupload hsubmission category filename
      | setSubmissionStatus submissionId statusId operator =>
          exact does_setSubmissionStatus settings hc statusId operator
  | uploadStatuses => exact Carrier.does_call fun h => ⟨k.uploadStatuses h, h⟩
  | uploadTypes => exact Carrier.does_call fun h => ⟨k.uploadTypes h, h⟩
  | submissionStatuses => exact Carrier.does_call fun h => ⟨k.submissionStatuses h, h⟩
  | createUpload draft id operator =>
      exact Carrier.does_call fun h => k.createUpload id operator h hc
  | createSubmission draft id operator =>
      exact Carrier.does_call fun h => k.createSubmission id operator h hc hsubmission
  | updateSubmission s operator =>
      exact Carrier.does_call fun h => k.updateSubmission operator h hc.1 hc.2
  | getSubmission n => exact Carrier.does_call fun h => ⟨k.getSubmission h hc, h⟩
  | searchSubmissions x => exact Carrier.does_call fun h => ⟨k.searchSubmissions h hc, h⟩

/-- A call stays well meant with more within reach and more that is known, as long as the lookups
are the same. -/
theorem Proper.imp {reach reach' : Int → Prop} {known known' : StoredSubmission → Prop}
    (hsetting : SameSetting w u) (hreach : ∀ n, reach n → reach' n)
    (hknown : ∀ s, known s → known' s) {c : ClientCall} (hc : c.Proper w reach known) :
    c.Proper u reach' known' := by
  cases c with
  | desk c =>
      cases c with
      | upload category projectId userId filename =>
          exact ⟨fun n hn => hreach n (hc.1 n hn), fun n hn => hreach n (hc.2 n hn)⟩
      | setSubmissionStatus submissionId statusId operator =>
          exact fun n hn => hreach n (hc n hn)
  | createUpload draft id operator => exact StoredUpload.Proper.imp hsetting hreach hc
  | createSubmission draft id operator => exact StoredSubmission.Proper.imp hsetting hreach hc
  | updateSubmission s operator =>
      exact ⟨StoredSubmission.Proper.imp hsetting hreach hc.1, hknown s hc.2⟩
  | getSubmission n => exact hreach n hc
  | searchSubmissions x => exact Sought.Within.imp hreach x hc
  | uploadStatuses => trivial
  | uploadTypes => trivial
  | submissionStatuses => trivial

/-- What every write keeps is kept by a call that is well meant. -/
theorem kept_answered {holds : World → Prop} (hkept : Kept holds) (h : holds w)
    {reach : Int → Prop} {c : ClientCall} (hc : c.Proper w reach w.IsVersion) :
    holds (c.answered settings w).2 := by
  cases c with
  | desk c =>
      cases c with
      | upload category projectId userId filename =>
          exact hkept.upload settings h category projectId userId filename
      | setSubmissionStatus submissionId statusId operator =>
          exact hkept.changeStatus settings h submissionId statusId operator
  | createUpload draft id operator => exact hkept.addUpload w draft operator h
  | createSubmission draft id operator => exact hkept.addSubmission w draft operator h
  | updateSubmission s operator => exact hkept.putSubmission w s operator hc.2 h
  | uploadStatuses => exact h
  | uploadTypes => exact h
  | submissionStatuses => exact h
  | getSubmission n => exact h
  | searchSubmissions x => exact h

end ClientCall

/-- An answer gives a submission, alone or in a list. -/
def Gives (answer : Except Failure Value) (s : StoredSubmission) : Prop :=
  answer = .ok s.value ∨ ∃ listed, answer = .ok (.list listed) ∧ s.value ∈ listed

theorem gives_value {x s : StoredSubmission} (h : Gives (.ok x.value) s) : s = x := by
  rcases h with h | ⟨listed, h, -⟩
  · exact StoredSubmission.value_injective (Except.ok.inj h).symm
  · cases Except.ok.inj h

/-- A list of other records gives no submission. -/
theorem gives_list {xs : List Value} {s : StoredSubmission} (h : Gives (.ok (.list xs)) s) :
    s.value ∈ xs := by
  rcases h with h | ⟨listed, h, hs⟩
  · cases Except.ok.inj h
  · exact Value.list.inj (Except.ok.inj h) ▸ hs

theorem not_gives_lookups (catalog : List StoredLookup) (s : StoredSubmission) :
    ¬Gives (.ok (.list (catalog.map StoredLookup.value))) s := by
  intro h
  obtain ⟨l, -, hl⟩ := List.mem_map.1 (gives_list h)
  cases hl

namespace ClientCall
variable {κ : Type} [UploadCatalog κ] {k : Carrier κ} {w u : World} (settings : Settings)

/-- A submission that a call answers with is a version of a stored one. -/
theorem isVersion_of_gives {reach : Int → Prop} {c : ClientCall}
    (hc : c.Proper w reach w.IsVersion) {s : StoredSubmission}
    (hs : Gives (c.answered settings w).1 s) : (c.answered settings w).2.IsVersion s := by
  cases c with
  | desk c =>
      cases c with
      | upload category projectId userId filename =>
          rcases hresult : w.upload settings category projectId userId filename with ⟨e | n, u⟩
          · simp [answered, hresult, Carrier.shown, Except.map, Gives] at hs
          · rw [answered, hresult] at hs
            rcases hs with hs | ⟨listed, hs, -⟩ <;> cases Except.ok.inj hs
      | setSubmissionStatus submissionId statusId operator =>
          rcases hresult : w.changeStatus settings submissionId statusId operator
            with ⟨e | changed, u⟩
          · simp [answered, hresult, Carrier.shown, Except.map, Gives] at hs
          · rw [answered, hresult] at hs ⊢
            obtain rfl := gives_value hs
            exact isVersion_of_mem (mem_of_changeStatus settings hresult).1
  | createUpload draft id operator =>
      rcases hs with hs | ⟨listed, hs, -⟩ <;> cases Except.ok.inj hs
  | createSubmission draft id operator =>
      obtain rfl := gives_value hs
      exact isVersion_of_mem (List.mem_append_right _ List.mem_cons_self)
  | updateSubmission x operator =>
      obtain rfl := gives_value hs
      obtain ⟨y, hy, hid, -⟩ := hc.2
      exact isVersion_of_mem (List.mem_map.2 ⟨y, hy, if_pos hid⟩)
  | uploadStatuses => exact absurd hs (not_gives_lookups _ s)
  | uploadTypes => exact absurd hs (not_gives_lookups _ s)
  | submissionStatuses => exact absurd hs (not_gives_lookups _ s)
  | getSubmission n =>
      rcases hfound : w.submission? n with _ | x
      · simp only [answered, hfound] at hs
        rcases hs with hs | ⟨listed, hs, -⟩ <;> cases Except.ok.inj hs
      · simp only [answered, hfound] at hs
        obtain rfl := gives_value hs
        exact isVersion_of_mem (mem_of_submission? hfound).1
  | searchSubmissions x =>
      obtain ⟨y, hy, hsame⟩ := List.mem_map.1 (gives_list hs)
      obtain rfl := StoredSubmission.value_injective hsame
      exact isVersion_of_mem (List.mem_of_mem_filter hy)

/-- Carry out a call after others, and keep its answer. -/
def next (answers : List (Except Failure Value) × Trail (Platform κ)) (c : ClientCall) :
    List (Except Failure Value) × Trail (Platform κ) :=
  let done := (c.program settings).run Platform.answer answers.2
  (answers.1 ++ [done.1], done.2)

/-- Carry out calls one after the other, whatever comes of each, and keep all answers. -/
def run (calls : List ClientCall) (t : Trail (Platform κ)) :
    List (Except Failure Value) × Trail (Platform κ) :=
  calls.foldl (next settings) ([], t)

theorem run_concat (calls : List ClientCall) (c : ClientCall) (t : Trail (Platform κ)) :
    run settings (calls ++ [c]) t = next settings (run settings calls t) c := by
  rw [run, List.foldl_append]
  rfl

end ClientCall

/-- A submission that is among the answers so far, but for its status and its references. -/
def Renewed (answers : List (Except Failure Value)) (s : StoredSubmission) : Prop :=
  ∃ answer ∈ answers, ∃ x, Gives answer x ∧
    s = { x with status := s.status, uploadId := s.uploadId, resourceId := s.resourceId }

/-- Calls that are well meant, one after the other.  Types and statuses are from the lookups and
integers fit, those too that come next; a submission that is stored again was an answer before. -/
inductive WellMeant (settings : Settings) (w : World) (t : Trail (Platform Memory.Catalog)) :
    List ClientCall → Prop
  | nil : WellMeant settings w t []
  | concat {calls : List ClientCall} {c : ClientCall} (earlier : WellMeant settings w t calls)
      (proper : c.Proper w (fits · = true) (Renewed (ClientCall.run settings calls t).1))
      (nextUpload : fits (ClientCall.run settings calls t).2.state.catalog.nextUpload = true)
      (nextSubmission :
        fits (ClientCall.run settings calls t).2.state.catalog.nextSubmission = true) :
      WellMeant settings w t (calls ++ [c])

namespace World

variable {w u : World} (settings : Settings)

/-- A call that is well meant comes to the same over both catalogs. -/
theorem Tabled.answered (h : u.Tabled) {c : ClientCall}
    (hc : c.Proper u (fits · = true) u.IsVersion) (hupload : fits u.nextUpload = true)
    (hsubmission : fits u.nextSubmission = true) (committed : Database) :
    (c.program settings).outcome Platform.answer u.platform =
        ((c.answered settings u).1, (c.answered settings u).2.platform) ∧
      (c.program settings).outcome Platform.answer (u.platformWith (u.session committed)) =
        ((c.answered settings u).1, (c.answered settings u).2.platformWith
          ((c.answered settings u).2.session committed)) ∧
      (c.answered settings u).2.Tabled := by
  rw [← h.freeSubmission] at hsubmission
  have hmemory := ClientCall.does_program settings (k := .memory)
    (hc.imp (.refl u) (fun _ _ => trivial) fun _ hs => hs) trivial trivial h.coherent
  have htables := ClientCall.does_program settings (k := .tables committed) hc hupload
    hsubmission h
  exact ⟨hmemory.1, htables.1, htables.2⟩

/-- Two runs that carry the same world after the same answers, one over the catalog in memory and
one over tables.  Every submission that was an answer is a version of a stored one. -/
structure Abreast (w : World) (committed : Database)
    (p : List (Except Failure Value) × Trail (Platform Memory.Catalog))
    (q : List (Except Failure Value) × Trail (Platform Session)) (u : World) : Prop where
  answers : p.1 = q.1
  memory : p.2.state = u.platform
  tables : q.2.state = u.platformWith (u.session committed)
  tabled : u.Tabled
  setting : SameSetting w u
  versions : ∀ answer ∈ p.1, ∀ s, Gives answer s → u.IsVersion s

variable {committed : Database}
  {p : List (Except Failure Value) × Trail (Platform Memory.Catalog)}
  {q : List (Except Failure Value) × Trail (Platform Session)}

/-- What a client stores again is a version of a stored submission. -/
theorem Abreast.renewed (h : Abreast w committed p q u) {s : StoredSubmission}
    (hs : Renewed p.1 s) : u.IsVersion s := by
  obtain ⟨answer, hanswer, x, hx, heq⟩ := hs
  obtain ⟨y, hy, hid, hcreatedBy, hcreatedAt⟩ := h.versions answer hanswer x hx
  rw [heq]
  exact ⟨y, hy, hid, hcreatedBy, hcreatedAt⟩

/-- A call that is well meant keeps two runs abreast. -/
theorem Abreast.next (h : Abreast w committed p q u) {c : ClientCall}
    (hc : c.Proper w (fits · = true) (Renewed p.1))
    (hupload : fits p.2.state.catalog.nextUpload = true)
    (hsubmission : fits p.2.state.catalog.nextSubmission = true) :
    Abreast w committed (ClientCall.next settings p c) (ClientCall.next settings q c)
      (c.answered settings u).2 := by
  have hproper : c.Proper u (fits · = true) u.IsVersion :=
    hc.imp h.setting (fun _ hn => hn) fun _ hs => h.renewed hs
  rw [h.memory] at hupload hsubmission
  obtain ⟨hmemory, htables, htabled⟩ :=
    h.tabled.answered settings hproper hupload hsubmission committed
  have hmemoryReply := Program.run_result Platform.answer (c.program settings) p.2
  have htablesReply := Program.run_result Platform.answer (c.program settings) q.2
  have hmemoryState := Program.run_state Platform.answer (c.program settings) p.2
  have htablesState := Program.run_state Platform.answer (c.program settings) q.2
  rw [h.memory, hmemory] at hmemoryReply hmemoryState
  rw [h.tables, htables] at htablesReply htablesState
  refine ⟨?_, hmemoryState, htablesState, htabled, ?_, ?_⟩
  · show p.1 ++ [_] = q.1 ++ [_]
    rw [h.answers, hmemoryReply, htablesReply]
  · exact ClientCall.kept_answered settings (kept_sameSetting w) h.setting hproper
  · intro answer hanswer s hs
    rcases List.mem_append.1 hanswer with hearlier | hlast
    · exact (ClientCall.kept_answered settings (kept_isVersion s)
        ⟨h.tabled.coherent, h.versions answer hearlier s hs⟩ hproper).2
    · obtain rfl := List.mem_singleton.1 hlast
      rw [hmemoryReply] at hs
      exact ClientCall.isVersion_of_gives settings hproper hs

/-- Calls that are well meant keep two runs abreast. -/
theorem Abreast.run {t : Trail (Platform Memory.Catalog)} {t' : Trail (Platform Session)}
    (h : Abreast w committed ([], t) ([], t') w) {calls : List ClientCall}
    (hcalls : WellMeant settings w t calls) :
    ∃ u, Abreast w committed (ClientCall.run settings calls t) (ClientCall.run settings calls t')
      u := by
  induction hcalls with
  | nil => exact ⟨w, h⟩
  | concat _ hproper hupload hsubmission ih =>
      obtain ⟨u, hu⟩ := ih
      rw [ClientCall.run_concat, ClientCall.run_concat]
      exact ⟨_, hu.next settings hproper hupload hsubmission⟩

end World

/-- **The two catalogs cannot be told apart.** A catalog in memory is new over some names, and the
empty tables of a session are seeded with the same names; the other stores, the clock and the
settings are the same.  Then any calls that are well meant, at the desk or of the catalog itself,
are answered alike on both sides, with equal values or equal failures.  Afterwards the tables hold
the rows of the records in memory, and all else is equal. -/
theorem catalogs_agree {w : World} (hreached : Reached w.platform)
    (hresources : ∀ r ∈ w.resources, fits r.id = true) {names : LookupNames}
    (hnames : names.Valid) (hcatalog : w.catalog = names.catalog) {s : Session}
    (husable : s.usable = true) (hempty : s.working = {}) (settings : Settings)
    {t : Trail (Platform Memory.Catalog)} (ht : t.state = w.platform)
    {t' : Trail (Platform Session)} (ht' : t'.state = w.platformWith (names.seed s).state)
    {calls : List ClientCall} (hcalls : WellMeant settings w t calls) :
    (ClientCall.run settings calls t).1 = (ClientCall.run settings calls t').1 ∧
      ∃ u : World, (ClientCall.run settings calls t).2.state = u.platform ∧
        (ClientCall.run settings calls t').2.state =
          u.platformWith (u.session s.committed) := by
  have hnew := World.new_of_catalog hcatalog
  rw [hnew.seed hnames husable hempty] at ht'
  have hstart : World.Abreast w s.committed ([], t) ([], t') w :=
    { answers := rfl
      memory := ht
      tables := ht'
      tabled := hnew.tabled hnames hreached.coherent hresources
      setting := .refl w
      versions := fun _ hanswer => nomatch hanswer }
  obtain ⟨u, hu⟩ := hstart.run settings hcalls
  exact ⟨hu.answers, u, hu.memory, hu.tables⟩

namespace ClientCall

/-- A submission as a clerk enters it. -/
def entry : StoredSubmission :=
  { id := 0, status := some { id := 1, name := "Active" } }

/-- A clerk enters a submission and stores it again with an upload, and a user sends one in. -/
def exchange : List ClientCall :=
  [.createSubmission entry .null "clerk",
   .updateSubmission { entry.created 1 "clerk" (Clock.stamp {} 1) with uploadId := some 7 } "clerk",
   .desk (.upload (.category .submission) (.int 1) (.int 10) (.text "f.zip"))]

theorem wellMeant_exchange :
    WellMeant {} (openContest []) { state := (openContest []).platform } exchange := by
  have hstatus : ∃ l ∈ (openContest []).submissionStatuses, entry.status = some l :=
    ⟨_, List.mem_cons_self, rfl⟩
  have hnone : WellMeant {} (openContest []) { state := (openContest []).platform } [] := .nil
  have hentered := hnone.concat (c := exchange[0]) ⟨hstatus, by nofun, by nofun⟩ (by decide)
    (by decide)
  have hseven : ∀ n ∈ some (7 : Int), fits n = true := by
    intro n hn
    obtain rfl := Option.some.inj hn
    decide
  have hrenewed := hentered.concat (c := exchange[1])
    ⟨⟨hstatus, hseven, by nofun⟩, _, List.mem_cons_self, _, .inl rfl, rfl⟩ (by decide) (by decide)
  have huser : ∀ m : Int, fits m = true → ∀ n, Value.int m = .int n → fits n = true := by
    intro m hm n hn
    exact Value.int.inj hn ▸ hm
  exact hrenewed.concat (c := exchange[2]) ⟨huser 1 (by decide), huser 10 (by decide)⟩
    (by decide +kernel) (by decide +kernel)

end ClientCall

/-- Over both catalogs a fresh contest answers a clerk and a user alike. -/
theorem catalogs_agree_openContest :
    WellMeant {} (openContest []) { state := (openContest []).platform } ClientCall.exchange ∧
      (ClientCall.run {} ClientCall.exchange { state := (openContest []).platform }).1 =
        (ClientCall.run {} ClientCall.exchange
          { state := (openContest []).platformWith (LookupNames.defaults.seed {}).state }).1 := by
  have hresources : ∀ r ∈ (openContest []).resources, fits r.id = true := by
    intro r hr
    obtain rfl := List.mem_singleton.1 hr
    decide
  exact ⟨ClientCall.wellMeant_exchange,
    (catalogs_agree (reached_openContest []) hresources LookupNames.valid_defaults rfl rfl rfl {}
      rfl rfl ClientCall.wellMeant_exchange).1⟩

end ContestUploads
