import ContestUploads.Proofs.Asking
import ContestUploads.Proofs.Taking

/-!
# Replies of the declared kinds

`Call.Declares` says what a call may answer: a project or nothing, a list of phases, and so on.  The
fields of a record have their declared types; the properties of a project may be anything.  That the
numbers under which such records are known can be written out is said by `Call.Answers`.

Given such replies, and arguments that can be written out, a service has no failure of its own but
problems for callers.  `Program.Ends` says this of a program, together with what holds of its
result; the services are followed with it, one step after the other, for all replies at once.  What
becomes of a call that fails is no matter of this file.
-/

namespace ContestUploads

open Program

variable {α β : Type}

/-- A problem for callers, whose words can be put together. -/
def Failure.IsReport (e : Failure) : Prop :=
  ∃ p : ServiceProblem, e.problem = .service p ∧ p.failure = .service p

namespace Value

/-- A catalog of lookups. -/
def IsLookups (v : Value) : Prop :=
  ∃ catalog : List StoredLookup, v = .list (catalog.map StoredLookup.value)

/-- A resource. -/
def IsResource (v : Value) : Prop :=
  ∃ r : StoredResource, v = r.value

/-- A submission; one that was never stored has no number. -/
def IsSubmission (v : Value) : Prop :=
  ∃ (s : StoredSubmission) (id : Option Int),
    v = Submission.value { s.record with id := (id.map .int).getD .null }

/-- An upload; one that was never stored has no number. -/
def IsUpload (v : Value) : Prop :=
  ∃ (u : StoredUpload) (id : Option Int),
    v = Upload.value { u.record with id := (id.map .int).getD .null }

/-- The number under which a record is known: its first field. -/
def number? : Value → Option Value
  | .record k fields => k.fieldNames.head?.bind fun name => fields.lookup name
  | _ => none

/-- Whether the number of a record, or those of the records of a list, can be written out. -/
def numbersWritable : Value → Bool
  | .list items => items.all fun x => x.number?.all writable
  | v => v.number?.all writable

end Value

/-- What a call may answer, by its declared type.  An update of a submission answers with the
submission as its owner has it afterwards. -/
def Call.Declares : Call → Value → Prop
  | .project _, v => v = .null ∨ ∃ p : StoredProject, v = p.value
  | .phases _, v => ∃ phases : List StoredPhase, v = .list (phases.map StoredPhase.value)
  | .resourceRoles, v => v.IsLookups
  | .searchResources _, v =>
      ∃ resources : List StoredResource, v = .list (resources.map StoredResource.value)
  | .updateResource .., v => v = .null
  | .catalog .uploadStatuses, v => v.IsLookups
  | .catalog .uploadTypes, v => v.IsLookups
  | .catalog .submissionStatuses, v => v.IsLookups
  | .catalog (.createUpload ..), v => v.IsUpload
  | .catalog (.createSubmission ..), v => v.IsSubmission
  | .catalog (.updateSubmission ..), v => v.IsSubmission
  | .catalog (.getSubmission _), v => v = .null ∨ v.IsSubmission
  | .catalog (.searchSubmissions _), v =>
      ∃ found : List Value, v = .list found ∧ ∀ s ∈ found, s.IsSubmission
  | .initiateScreening .., v => v = .null

/-- An answer of the declared type.  The numbers that a message may name can be written out: those
of the records, and how many there are. -/
structure Call.Answers (c : Call) (v : Value) : Prop where
  declared : c.Declares v
  numbers : v.numbersWritable
  countable : ∀ items, v = .list items → Text.writable items.length

namespace Program

/-- Given replies of the declared kinds, a program ends with a result as stated or with a problem
for callers. -/
def Ends (Q : α → Prop) : Program α → Prop
  | .done a => Q a
  | .fail e => e.IsReport
  | .ask c next => ∀ v, c.Answers v → (next (.ok v)).Ends Q
  | .log _ rest => rest.Ends Q
  | .bindContext _ rest => rest.Ends Q
  | .unbindContext _ rest => rest.Ends Q

variable {Q R : α → Prop} {p : Program α}

theorem ends_ofExcept {x : Except Failure α} {a : α} (hx : x = .ok a) (ha : Q a) :
    (ofExcept x).Ends Q := by
  subst hx
  exact ha

theorem Ends.imp (hp : p.Ends Q) (h : ∀ a, Q a → R a) : p.Ends R := by
  induction p with
  | done a => exact h a hp
  | fail e => exact hp
  | ask c next ih => exact fun v hv => ih (.ok v) (hp v hv)
  | log e rest ih => exact ih hp
  | bindContext fields rest ih => exact ih hp
  | unbindContext names rest ih => exact ih hp

/-- One program after another. -/
theorem Ends.bind {f : α → Program β} {S : β → Prop} (hp : p.Ends Q)
    (hf : ∀ a, Q a → (f a).Ends S) : (p >>= f).Ends S := by
  show (p.bind f).Ends S
  induction p with
  | done a => exact hf a hp
  | fail e => exact hp
  | ask c next ih => exact fun v hv => ih (.ok v) (hp v hv)
  | log e rest ih => exact ih hp
  | bindContext fields rest ih => exact ih hp
  | unbindContext names rest ih => exact ih hp

/-- A step whose result is known. -/
theorem ends_ok_bind {a : α} {f : α → Program β} {S : β → Prop} (hf : (f a).Ends S) :
    (ofExcept (.ok a) >>= f).Ends S :=
  hf

/-- A question with an answer or a problem for callers. -/
theorem ends_ofExcept_map {x : Except Failure β} {g : β → α}
    (hproblem : ∀ e, x = .error e → e.IsReport) (hg : ∀ b, x = .ok b → Q (g b)) :
    (ofExcept (x.map g)).Ends Q := by
  cases x with
  | error e => exact hproblem e rfl
  | ok b => exact hg b rfl

theorem Ends.recover {handle : Failure → Program α} (hp : p.Ends Q)
    (hhandle : ∀ e : Failure, e.IsReport → (handle e).Ends Q) : (p.recover handle).Ends Q := by
  induction p with
  | done a => exact hp
  | fail e => exact hhandle e hp
  | ask c next ih => exact fun v hv => ih (.ok v) (hp v hv)
  | log e rest ih => exact ih hp
  | bindContext fields rest ih => exact ih hp
  | unbindContext names rest ih => exact ih hp

/-- A guard lets problems for callers pass. -/
theorem Ends.guarded {action : Value} {context : Fields} (free : context.lookup "action" = none)
    (hp : p.Ends Q) : (guarded action context p).Ends Q := by
  rw [guarded_eq free]
  refine hp.recover fun e hreport => ?_
  obtain ⟨problem, hproblem, hwords⟩ := hreport
  have hpass : Verdict.of action context e = .pass := by
    rw [Verdict.of, hproblem]
  rw [raiseGuarded, hpass]
  exact ⟨problem, hproblem, hwords⟩

theorem ends_call (c : Call) : (call c).Ends c.Answers :=
  fun _ hv => hv

theorem ends_askGuarded {action : String} {context : Fields}
    (free : context.lookup "action" = none) (c : Call) :
    (askGuarded action context c).Ends c.Answers :=
  (ends_call c).guarded free

end Program

/-- A problem for callers is reported if its words can be put together. -/
theorem ServiceProblem.isReport_failure {p : ServiceProblem} (h : p.obstacle? = none) :
    p.failure.IsReport := by
  rw [failure_of_told h]
  exact ⟨p, rfl, failure_of_told h⟩

namespace World

/-- An entry that is missing is reported to callers. -/
theorem isReport_of_known {catalog : List StoredLookup} {name kind : String} {e : Failure}
    (h : known catalog name (.text kind) = .error e) : e.IsReport := by
  unfold known at h
  split at h
  · obtain rfl := Except.error.inj h
    exact ServiceProblem.isReport_failure (by simp [ServiceProblem.obstacle?])
  · cases h

end World

namespace Reception

variable (settings : Settings)

/-- A lookup by name ends with the entry or with a problem for callers. -/
theorem ends_require {v : Value} (hv : v.IsLookups) (hw : v.numbersWritable)
    (name kind : String) :
    (ofExcept (Lookup.require v (.text name) (.text kind))).Ends
      fun x => ∃ l : StoredLookup, x = l.value ∧ Text.writable l.id := by
  obtain ⟨catalog, rfl⟩ := hv
  rw [World.require_stored]
  refine ends_ofExcept_map (fun e he => World.isReport_of_known he) fun l hl => ⟨l, rfl, ?_⟩
  have hid : (Value.int l.id).writable :=
    List.all_eq_true.1 hw _ (List.mem_map_of_mem (World.mem_of_known hl))
  simpa using hid

theorem ends_loadProject {projectId : Int} (hproject : Text.writable projectId) :
    (loadProject projectId).Ends
      fun v => ∃ p : StoredProject, v = p.value ∧ Text.writable p.id := by
  refine (ends_askGuarded rfl _).bind fun v hv => ?_
  rcases hv.declared with rfl | ⟨p, rfl⟩
  · exact ServiceProblem.isReport_failure
      (by simp [ServiceProblem.obstacle?, hproject])
  · have hid : (Value.int p.id).writable := hv.numbers
    exact ⟨p, rfl, by simpa using hid⟩

theorem ends_actingResource {projectId userId : Int} (hproject : Text.writable projectId)
    (huser : Text.writable userId) (names : List String) :
    (actingResource settings (.int projectId) (.int userId) (.ofTexts names)).Ends
      Value.IsResource := by
  have hroles : (roleIds (.ofTexts names)).Ends fun ids => ∃ ns : List Int, ids = ns.map .int := by
    refine (ends_askGuarded rfl _).bind fun v hv => ?_
    obtain ⟨roles, rfl⟩ := hv.declared
    exact ends_ofExcept (StoredLookup.idsAmong_texts roles names) ⟨_, rfl⟩
  have honly (found : List StoredResource) (hcount : Text.writable found.length) :
      (onlyResource (.int projectId) (.int userId) (.list (found.map StoredResource.value))).Ends
        Value.IsResource := by
    have hreport := ServiceProblem.isReport_failure (ServiceProblem.failure_eq_iff.1
      (ServiceProblem.failure_ambiguousOrMissingUser huser hproject hcount))
    rcases found with _ | ⟨r, _ | ⟨r', rest⟩⟩
    · exact hreport
    · exact ⟨r, rfl⟩
    · unfold onlyResource
      dsimp only
      refine ends_ok_bind (a := ((r :: r' :: rest).map StoredResource.value).length) ?_
      rw [if_neg (by simp), List.length_map]
      exact hreport
  unfold actingResource
  refine hroles.bind fun ids hids => ?_
  obtain ⟨ns, rfl⟩ := hids
  split
  · exact ServiceProblem.isReport_failure (ServiceProblem.failure_eq_iff.1
      (ServiceProblem.failure_noSuchRole huser names))
  · rename_i hsome
    have hne : ns ≠ [] := by simpa using hsome
    refine Ends.bind (Q := fun v => ∃ filter, Call.Answers (.searchResources filter) v) ?_
      fun found hv => ?_
    · refine Ends.guarded rfl ?_
      rw [Filter.acting?_ofInts hne _ _ huser]
      exact (ends_call _).imp fun _ hv => ⟨_, hv⟩
    · obtain ⟨filter, hv⟩ := hv
      obtain ⟨resources, rfl⟩ := hv.declared
      exact honly resources (by simpa using hv.countable _ rfl)

theorem ends_requireWinner {p : StoredProject} (hp : Text.writable p.id) {userId : Int}
    (huser : Text.writable userId) :
    (requireWinner settings p.value userId).Ends fun _ => True := by
  unfold requireWinner
  rw [StoredProject.property_value]
  refine ends_ok_bind ?_
  dsimp only
  split
  · trivial
  · exact ServiceProblem.isReport_failure
      (by simp [ServiceProblem.obstacle?, StoredProject.record, hp, huser])

/-- The names of a tracker's problem can be listed again. -/
theorem failureFrom_notEligible {projectId : Value} (hproject : projectId.writable) {e : Failure}
    {i names : Value} (hproblem : e.problem = .service (.noMatchingPhase i names))
    (he : e.IsReport) :
    (ServiceProblem.projectNotEligible projectId names).obstacle? = none := by
  obtain ⟨p, hp, hwords⟩ := he
  obtain rfl := Problem.service.inj (hproblem.symm.trans hp)
  have hnone := ServiceProblem.failure_eq_iff.1 hwords
  simp only [ServiceProblem.obstacle?, Option.or_eq_none_iff] at hnone ⊢
  exact ⟨by simp [hproject], hnone.2⟩

theorem ends_eligiblePhase {projectId : Int} (hproject : Text.writable projectId) (rule : Rule) :
    (eligiblePhase projectId rule).Ends fun v => ∃ p : StoredPhase, v = p.value := by
  have hopen : (openPhase (.int projectId) (.ofTexts rule.phaseNames)).Ends
      fun v => ∃ p : StoredPhase, v = p.value := by
    unfold openPhase
    refine (ends_askGuarded rfl _).bind fun v hv => ?_
    obtain ⟨phases, rfl⟩ := hv.declared
    refine ends_ok_bind ?_
    rw [World.gating?_stored]
    refine ends_ok_bind ?_
    rcases hgating : phases.find? _ with _ | p
    · refine ends_ok_bind (a := rule.phaseNames.map Value.text) ?_
      refine ServiceProblem.isReport_failure (p := .noMatchingPhase _ (.ofTexts _)) ?_
      simp [ServiceProblem.obstacle?, ForeignProblem.ofJoining?_ofTexts,
        hproject]
    · refine ends_ok_bind (a := Value.bool (p.status == .opened)) ?_
      split
      · exact ⟨p, rfl⟩
      · have hid : (Value.int p.id).writable := List.all_eq_true.1 hv.numbers _
          (List.mem_map_of_mem (List.mem_of_find?_eq_some hgating))
        have htype : (Value.ofText? p.type).writable := by
          cases p.type <;> simp [Value.ofText?]
        exact ServiceProblem.isReport_failure (p := .phaseNotOpen (.int p.id) (.ofText? p.type))
          (by simpa [ServiceProblem.obstacle?, htype] using hid)
  unfold eligiblePhase
  refine hopen.recover fun e he => ?_
  split
  · rename_i i names hproblem
    have hwritable : (Value.int projectId).writable := by simpa using hproject
    have hnone := failureFrom_notEligible hwritable hproblem he
    rw [ServiceProblem.failureFrom, hnone]
    exact ⟨_, rfl, ServiceProblem.failure_of_told hnone⟩
  · exact he

theorem ends_createUpload (request : UploadRequest) (rule : Rule) :
    (createUpload settings request rule).Ends Value.IsUpload := by
  unfold createUpload
  refine (ends_askGuarded rfl _).bind fun statuses hstatuses => ?_
  refine (ends_askGuarded rfl _).bind fun types htypes => ?_
  refine (ends_require htypes.declared htypes.numbers _ _).bind fun type _ => ?_
  refine (ends_require hstatuses.declared hstatuses.numbers _ _).bind fun status _ => ?_
  exact (ends_askGuarded rfl _).imp fun _ hupload => hupload.declared

/-- Linking a submission answers with a resource. -/
theorem ends_linkSubmission (request : UploadRequest) (r : StoredResource) (id : Value) :
    (linkSubmission request r.value id).Ends fun v => ∃ r : Resource, v = r.value := by
  unfold linkSubmission
  rw [show r.value = r.record.value from rfl, Resource.link_value]
  refine ends_ok_bind ?_
  refine (ends_askGuarded rfl _).bind fun _ _ => ?_
  exact ⟨r.record.link id, rfl⟩

theorem ends_createSubmission (request : UploadRequest) {upload resource statuses : Value}
    (hupload : upload.IsUpload) (hresource : resource.IsResource)
    (hstatuses : statuses.IsLookups) (hwritable : statuses.numbersWritable) :
    (createSubmission settings request upload resource statuses).Ends
      fun x => ∃ r : Resource, x.2 = r.value := by
  obtain ⟨u, uploadId, rfl⟩ := hupload
  obtain ⟨r, rfl⟩ := hresource
  unfold createSubmission
  refine (ends_require hstatuses hwritable _ _).bind fun status _ => ?_
  refine ends_ok_bind (a := (uploadId.map Value.int).getD .null) ?_
  refine ends_ok_bind (a := Value.int r.id) ?_
  refine (ends_askGuarded rfl _).bind fun submission hsubmission => ?_
  obtain ⟨s, id, rfl⟩ := hsubmission.declared
  refine ends_ok_bind (a := (id.map Value.int).getD .null) ?_
  show Program.Ends _ (Program.bind (linkSubmission request r.value _) _)
  refine (ends_linkSubmission request r _).bind fun linked hlinked => ?_
  refine (ends_askGuarded rfl _).bind fun _ _ => ?_
  exact hlinked

/-- A move between statuses with names is allowed or is reported to callers. -/
theorem isReport_of_checkMove {current : Option String} {target : String} {e : Failure}
    (h : StatusTable.checkMove (.ofText? current) (.text target) = .error e) : e.IsReport := by
  have hfixed : (Value.ofText? current).demandFixed = .ok () := by
    cases current <;> rfl
  unfold StatusTable.checkMove StatusTable.mayMove at h
  rw [hfixed] at h
  split at h
  · cases h
  · obtain rfl := Except.error.inj h
    refine ServiceProblem.isReport_failure ?_
    have hcurrent : (Value.ofText? current).writable := by
      cases current <;> simp [Value.ofText?]
    simp [ServiceProblem.obstacle?, hcurrent]

theorem ends_applyStatus {submission : Value} (hsubmission : submission.IsSubmission)
    (l : StoredLookup) (n : Int) (operator : String) :
    (applyStatus settings submission l.value [("submission_id", .int n)] operator).Ends
      Value.IsSubmission := by
  obtain ⟨s, id, rfl⟩ := hsubmission
  let stored : Submission := { s.record with id := (id.map .int).getD .null }
  have hwritten : (do
      let changed ← ofExcept (stored.value.write "status" l.value)
      let updated ← askGuarded "update submission" [("submission_id", .int n)]
        (.catalog (.updateSubmission changed (.text operator)))
      let name ← ofExcept (l.value.read "name")
      note .info "submission_status_updated"
        ([("submission_id", .int n)] ++ [("status", name), ("operator", .text operator)])
      return updated : Program Value).Ends Value.IsSubmission := by
    refine ends_ok_bind ?_
    refine (ends_askGuarded rfl _).bind fun updated hupdated => ?_
    exact hupdated.declared
  have hmove : checkMove stored.value l.value =
      StatusTable.checkMove (.ofText? s.statusName) (.text l.name) :=
    s.checkMove_value l
  unfold applyStatus
  cases settings.enforceMoves with
  | false => exact hwritten
  | true =>
      rw [hmove]
      rcases hchecked : StatusTable.checkMove (.ofText? s.statusName) (.text l.name) with e | ⟨⟩
      · exact isReport_of_checkMove hchecked
      · exact hwritten

theorem ends_changeStatus {submissionId statusId : Value} (hsubmission : submissionId.writable)
    (hstatus : statusId.writable) (operator : Value) :
    (changeStatus settings submissionId statusId operator).Ends Value.IsSubmission := by
  unfold changeStatus
  rcases hrequest : StatusRequest.ofFields
      [("submission_id", submissionId), ("status_id", statusId), ("operator", operator)]
    with e | request
  · obtain ⟨words, field, hproblem⟩ := StatusRequest.problem_of_ofFields_eq_error hrequest
    exact ⟨_, hproblem, rfl⟩
  · obtain ⟨⟨rfl, -⟩, ⟨rfl, -⟩, -⟩ := StatusRequest.ofFields_eq_ok_iff.1 hrequest
    refine ends_ok_bind ?_
    refine (ends_askGuarded rfl _).bind fun submission hfound => ?_
    rcases hfound.declared with rfl | hfound
    · exact ServiceProblem.isReport_failure
        (by simpa [ServiceProblem.obstacle?] using hsubmission)
    · have hthere : submission.isNull = false := by
        obtain ⟨s, id, rfl⟩ := hfound
        rfl
      rw [hthere]
      refine (ends_askGuarded rfl _).bind fun statuses hstatuses => ?_
      obtain ⟨catalog, rfl⟩ := hstatuses.declared
      rw [World.withId?_stored]
      refine ends_ok_bind ?_
      rcases World.withId? catalog request.statusId with _ | l
      · exact ServiceProblem.isReport_failure
          (by simpa [ServiceProblem.obstacle?] using hstatus)
      · exact ends_applyStatus settings hfound l _ _

theorem ends_retireEach {deleted : StoredLookup} (hdeleted : Text.writable deleted.id)
    (operator : String) (spared : List Value) {listed : List Value}
    (hlisted : ∀ s ∈ listed, s.IsSubmission)
    (hwritable : ∀ s ∈ listed, s.number?.all Value.writable) :
    (retireEach settings deleted.value operator (.list spared) listed).Ends fun _ => True := by
  induction listed with
  | nil => trivial
  | cons submission rest ih =>
      have hlater := ih (fun s hs => hlisted s (List.mem_cons_of_mem submission hs))
        fun s hs => hwritable s (List.mem_cons_of_mem submission hs)
      have hthis := hwritable submission List.mem_cons_self
      obtain ⟨s, id, rfl⟩ := hlisted submission List.mem_cons_self
      have hid : ((id.map Value.int).getD .null).writable := hthis
      rw [retireEach]
      refine ends_ok_bind (a := (id.map Value.int).getD .null) ?_
      rw [Value.holds_list]
      refine ends_ok_bind ?_
      split
      · exact hlater
      · refine ends_ok_bind (a := Value.int deleted.id) ?_
        refine (ends_changeStatus settings hid (by simpa using hdeleted) _).bind
          fun updated _ => ?_
        refine (ends_askGuarded rfl _).bind fun _ _ => ?_
        exact hlater.bind fun later _ => trivial

theorem ends_retireSuperseded {userId : Int} (huser : Text.writable userId)
    {resource statuses : Value} (spared : List Value)
    (hresource : ∃ r : Resource, resource = r.value) (hstatuses : statuses.IsLookups)
    (hwritable : statuses.numbersWritable) :
    (retireSuperseded settings (.int userId) resource statuses (.list spared)).Ends
      fun _ => True := by
  obtain ⟨r, rfl⟩ := hresource
  unfold retireSuperseded
  refine (ends_require hstatuses hwritable _ _).bind fun deleted hdeleted => ?_
  obtain ⟨l, rfl, hl⟩ := hdeleted
  rw [Value.asText_of_writable (by simpa using huser)]
  refine ends_ok_bind ?_
  refine ends_ok_bind (a := r.id) ?_
  refine (ends_askGuarded rfl _).bind fun found hfound => ?_
  obtain ⟨listed, rfl, hlisted⟩ := hfound.declared
  have hshown := List.all_eq_true.1 hfound.numbers
  refine ends_ok_bind ?_
  exact (ends_retireEach settings hl _ spared hlisted hshown).bind fun retired _ => trivial

theorem ends_supersedes (p : StoredProject) (rule : Rule) :
    (ofExcept (supersedes settings p.value rule)).Ends fun _ => True := by
  unfold supersedes
  rw [StoredProject.flag_value]
  split <;> trivial

theorem ends_receive {request : UploadRequest} (hproject : Text.writable request.projectId)
    (huser : Text.writable request.userId) (p : StoredProject) {resource : Value}
    (hresource : resource.IsResource) :
    (receive settings request p.value resource).Ends fun _ => True := by
  have hstatuses : submissionStatuses.Ends fun v => v.IsLookups ∧ v.numbersWritable :=
    (ends_askGuarded rfl _).imp fun _ hcatalog => ⟨hcatalog.declared, hcatalog.numbers⟩
  unfold receive
  refine (ends_eligiblePhase hproject _).bind fun phase hphase => ?_
  obtain ⟨gate, rfl⟩ := hphase
  refine (ends_createUpload settings request _).bind fun upload hupload => ?_
  have huploaded := hupload
  obtain ⟨u, id, rfl⟩ := huploaded
  refine ends_ok_bind (a := (id.map Value.int).getD .null) ?_
  refine ends_ok_bind (a := Value.int gate.id) ?_
  show Program.Ends _ (if _ then _ else _)
  split
  · refine hstatuses.bind fun statuses hcatalog => ?_
    refine (ends_createSubmission settings request hupload hresource hcatalog.1 hcatalog.2).bind
      fun entered hlinked => ?_
    refine (ends_supersedes settings p _).bind fun hold _ => ?_
    split
    · exact (ends_retireSuperseded settings huser _ hlinked hcatalog.1 hcatalog.2).bind
        fun _ _ => trivial
    · trivial
  · refine (ends_supersedes settings p _).bind fun hold _ => ?_
    split
    · refine hstatuses.bind fun statuses hcatalog => ?_
      obtain ⟨r, rfl⟩ := hresource
      exact (ends_retireSuperseded settings huser [] ⟨r.record, rfl⟩ hcatalog.1 hcatalog.2).bind
        fun _ _ => trivial
    · trivial

theorem ends_takeIn {projectId userId : Value} (hproject : projectId.writable)
    (huser : userId.writable) (category filename : Value) :
    (takeIn settings category projectId userId filename).Ends fun _ => True := by
  unfold takeIn
  rcases hrequest : UploadRequest.ofFields [("category", category), ("project_id", projectId),
      ("user_id", userId), ("filename", filename)] with e | request
  · obtain ⟨words, field, hproblem⟩ := UploadRequest.problem_of_ofFields_eq_error hrequest
    exact ⟨_, hproblem, rfl⟩
  · obtain ⟨-, ⟨rfl, -⟩, ⟨rfl, -⟩, -⟩ := UploadRequest.ofFields_eq_ok_iff.1 hrequest
    rw [Value.writable_int] at hproject huser
    refine ends_ok_bind ?_
    refine (ends_loadProject hproject).bind fun project hknown => ?_
    obtain ⟨p, rfl, hp⟩ := hknown
    refine (ends_actingResource settings hproject huser _).bind fun resource hresource => ?_
    split
    · refine (ends_requireWinner settings hp huser).bind fun _ _ => ?_
      exact ends_receive settings hproject huser p hresource
    · exact ends_receive settings hproject huser p hresource

end Reception

/-- What a call writes out of its arguments can be written. -/
def DeskCall.Writable : DeskCall → Prop
  | .upload category projectId userId _ =>
      category.label.writable ∧ projectId.writable ∧ userId.writable
  | .setSubmissionStatus submissionId statusId _ => submissionId.writable ∧ statusId.writable

/-- A call at the desk ends with a result or with a problem for callers. -/
theorem DeskCall.ends (settings : Settings) {call : DeskCall} (hcall : call.Writable) :
    (call.program settings).Ends fun _ => True := by
  have hwithin {body : Program Value} (hbody : body.Ends fun _ => True) (context entered : Fields) :
      (Desk.within context entered body).Ends fun _ => True := by
    have hrecovered : (body.recover fun e => Program.bind (do
        note .debug "operation_exited" []
        leaveContext Desk.contextNames) fun _ => .fail e).Ends fun _ => True :=
      hbody.recover fun e he => he
    show (body.ensuring _).Ends _
    exact hrecovered.bind fun a _ => trivial
  cases call with
  | upload category projectId userId filename =>
      obtain ⟨hcategory, hproject, huser⟩ := hcall
      have hcontext : ∃ context, Desk.uploadContext category projectId userId = .ok context := by
        rw [Desk.uploadContext, Value.asText_of_writable hcategory, Value.asText_of_writable huser]
        exact ⟨_, rfl⟩
      obtain ⟨context, hcontext⟩ := hcontext
      show (Desk.upload settings category projectId userId filename).Ends _
      rw [Desk.upload, hcontext]
      exact ends_ok_bind
        (hwithin (Reception.ends_takeIn settings hproject huser category filename) _ _)
  | setSubmissionStatus submissionId statusId operator =>
      refine hwithin ?_ _ _
      exact (Reception.ends_changeStatus settings hcall.1 hcall.2 operator).imp
        fun _ _ => trivial

end ContestUploads
