import ContestUploads.Filter.Matching
import ContestUploads.Platform
import ContestUploads.Proofs.Requests
import ContestUploads.Reception.Intake

/-!
# What the steps between calls report

Most of what a service does with its values can only go wrong in ways that are not meant for
callers: an attribute that is missing, a value that is no collection, and the like.  `Reports` says
of a step that its failures are such, or problems for callers of an allowed kind.  It is closed
under doing one step after another, so each function is followed by what it is made of.

Three steps report problems on their own: the check of a request, the lookup of a name that has to
be there, and the check of a move.  The stores in memory report none (`reports_platform`).
-/

namespace ContestUploads

variable {α β : Type}

/-- A step that reports nothing to callers but what is allowed. -/
def Reports (allowed : ServiceProblem → Prop) (x : Except Failure α) : Prop :=
  ∀ e p, x = .error e → e.problem = .service p → allowed p

/-- Problems for callers of no kind at all. -/
def ServiceProblem.None (_ : ServiceProblem) : Prop := False

section Reports

variable {allowed : ServiceProblem → Prop}

theorem Reports.imp {more : ServiceProblem → Prop} {x : Except Failure α}
    (h : Reports allowed x) (himp : ∀ p, allowed p → more p) : Reports more x :=
  fun e p he hp => himp p (h e p he hp)

theorem reports_ok (a : α) : Reports allowed (.ok a) :=
  nofun

theorem reports_error {e : Failure} (h : ∀ p, e.problem = .service p → allowed p) :
    Reports allowed (.error e : Except Failure α) := by
  intro e' p he hp
  obtain rfl := Except.error.inj he
  exact h p hp

theorem reports_foreign (p : ForeignProblem) :
    Reports allowed (.error (.foreign p) : Except Failure α) :=
  reports_error nofun

theorem reports_store (p : StoreProblem) :
    Reports allowed (.error (.store p) : Except Failure α) :=
  reports_error nofun

/-- A problem for callers is reported as what it is. -/
theorem reports_failure {p : ServiceProblem} (h : allowed p) :
    Reports allowed (.error p.failure : Except Failure α) :=
  reports_error fun _ hq => ServiceProblem.eq_of_problem_failure hq ▸ h

theorem reports_storeFailure (p : StoreProblem) :
    Reports allowed (.error p.failure : Except Failure α) := by
  unfold StoreProblem.failure
  split
  · exact reports_foreign _
  · exact reports_store _

theorem reports_mentioning (v : Value) (p : StoreProblem) :
    Reports allowed (.error ((Failure.store p).mentioning v) : Except Failure α) := by
  rcases (Failure.store p).mentioning_cases v with h | h
  · rw [h]
    exact reports_store p
  · rw [h]
    exact reports_foreign _

/-- One step after another. -/
theorem Reports.bind {x : Except Failure α} {f : α → Except Failure β} (hx : Reports allowed x)
    (hf : ∀ a, Reports allowed (f a)) : Reports allowed (x >>= f) := by
  cases x with
  | error e => exact reports_error fun p hp => hx e p rfl hp
  | ok a => exact hf a

theorem Reports.map {x : Except Failure α} (f : α → β) (hx : Reports allowed x) :
    Reports allowed (x.map f) := by
  cases x with
  | error e => exact reports_error fun p hp => hx e p rfl hp
  | ok a => exact reports_ok (f a)

theorem Reports.ite {c : Prop} [Decidable c] {x y : Except Failure α} (hx : Reports allowed x)
    (hy : Reports allowed y) : Reports allowed (if c then x else y) := by
  split
  · exact hx
  · exact hy

/-- The steps of a list, one after the other. -/
theorem reports_mapM {f : α → Except Failure β} (hf : ∀ a, Reports allowed (f a)) (as : List α) :
    Reports allowed (as.mapM f) := by
  induction as with
  | nil => exact reports_ok _
  | cons a rest ih =>
      rw [List.mapM_cons]
      exact (hf a).bind fun b => ih.bind fun bs => reports_ok _

end Reports

section Values

variable {allowed : ServiceProblem → Prop} (v x : Value) (name : String)

theorem reports_asText : Reports allowed v.asText := by
  unfold Value.asText
  split
  · exact reports_foreign _
  · exact reports_ok _

theorem reports_read : Reports allowed (v.read name) := by
  unfold Value.read
  split
  · exact reports_ok _
  · exact reports_foreign _

theorem reports_demandFree : Reports allowed (v.demandFree name) :=
  .ite (reports_foreign _) (reports_ok _)

theorem reports_write : Reports allowed (v.write name x) := by
  unfold Value.write
  split
  · refine .ite (reports_foreign _) ?_
    split
    · exact reports_foreign _
    · exact reports_ok _
  · exact reports_demandFree _ _
  · exact reports_demandFree _ _
  · exact reports_ok _
  · exact .ite (reports_foreign _) (reports_foreign _)

theorem reports_writeAll (changes : Fields) : Reports allowed (v.writeAll changes) := by
  induction changes generalizing v with
  | nil => exact reports_ok v
  | cons change rest ih => exact (reports_write v change.2 change.1).bind fun changed => ih changed

theorem reports_members : Reports allowed v.members := by
  unfold Value.members
  split
  · exact reports_ok _
  · exact reports_foreign _

theorem reports_size : Reports allowed v.size := by
  unfold Value.size
  split
  · exact reports_ok _
  · exact reports_foreign _

theorem reports_front : Reports allowed v.front := by
  unfold Value.front
  split
  · exact reports_foreign _
  · exact reports_ok _
  · exact reports_foreign _

theorem reports_demandFixed : Reports allowed v.demandFixed := by
  unfold Value.demandFixed
  split
  · exact reports_foreign _
  · exact reports_ok _

theorem reports_holds : Reports allowed (v.holds x) := by
  unfold Value.holds
  split
  · split
    · exact reports_ok _
    · exact reports_foreign _
  · exact reports_ok _
  · exact (reports_demandFixed x).bind fun _ => reports_ok _
  · exact reports_foreign _

theorem reports_entry : Reports allowed (v.entry x) := by
  unfold Value.entry
  split
  · exact (reports_demandFixed x).bind fun _ => reports_ok _
  · exact reports_foreign _

theorem reports_property : Reports allowed (v.property x) :=
  (reports_read v _).bind fun properties => reports_entry properties x

theorem reports_link : Reports allowed (v.link x) := by
  refine (reports_read v _).bind fun submissions => (reports_holds submissions x).bind fun there => ?_
  have happended : Reports allowed (submissions.appended x) := by
    unfold Value.appended
    split
    · exact reports_ok _
    · exact reports_foreign _
  exact .ite (reports_ok v) (happended.bind fun items => reports_write v items _)

theorem reports_referredName : Reports allowed v.referredName :=
  .ite (reports_read v _) (reports_ok _)

theorem reports_summary (k : RecordKind) : Reports allowed (Value.summary k v) := by
  refine (reports_mapM (fun field => ?_) k.fieldNames).bind fun fields => reports_ok _
  refine (reports_read v field).bind fun shown => ?_
  have hmoment : Reports allowed shown.writtenMoment := by
    unfold Value.writtenMoment
    split
    · exact reports_ok _
    · exact .ite (reports_foreign _) (reports_ok _)
  refine .ite ?_ (.ite ?_ (reports_ok _))
  · exact (reports_referredName shown).bind fun _ => reports_ok _
  · exact hmoment.bind fun _ => reports_ok _

theorem reports_lacking :
    Reports allowed (.error (v.lacking name) : Except Failure α) := by
  unfold Value.lacking
  split <;> exact reports_foreign _

theorem reports_carryOut (arguments : List Value) :
    Reports allowed (v.carryOut name arguments) := by
  unfold Value.carryOut
  split
  · rename_i k fields _
    split
    · exact reports_lacking _ _
    · dsimp only
      split
      · exact reports_foreign _
      · unfold Value.perform
        split
        · exact (reports_property _ _).map _
        · exact ((reports_property _ _).bind fun _ => reports_ok _).map _
        · exact ((reports_read _ _).bind fun properties => reports_entry properties _).map _
        · exact (reports_link _ _).map _
        · exact (reports_summary _ k).map _
  · exact reports_lacking _ _

end Values

section Lookups

variable {allowed : ServiceProblem → Prop}

theorem reports_firstWith (field : String) (wanted : Value) (entries : List Value) :
    Reports allowed (Lookup.firstWith? field wanted entries) := by
  induction entries with
  | nil => exact reports_ok _
  | cons entry rest ih => exact (reports_read entry field).bind fun _ => .ite (reports_ok _) ih

theorem reports_withId (catalog id : Value) : Reports allowed (Lookup.withId? catalog id) :=
  (reports_members catalog).bind fun entries => reports_firstWith _ id entries

theorem reports_idsAmong (catalog names : Value) :
    Reports allowed (Lookup.idsAmong catalog names) := by
  have hnamed (wanted entries : List Value) : Reports allowed (Lookup.idsNamed wanted entries) := by
    induction entries with
    | nil => exact reports_ok _
    | cons entry rest ih =>
        refine (reports_read entry _).bind fun name => (reports_demandFixed name).bind fun _ => ?_
        exact .ite ((reports_read entry _).bind fun _ => ih.bind fun _ => reports_ok _) ih
  refine (reports_members names).bind fun wanted => ?_
  split
  · exact reports_foreign _
  · exact (reports_members catalog).bind fun entries => hnamed wanted entries

/-- A name that has to be there is reported if it is not. -/
theorem reports_require (catalog name kind : Value) (h : allowed (.noSuchStatus name kind)) :
    Reports allowed (Lookup.require catalog name kind) := by
  refine ((reports_members catalog).bind fun entries => reports_firstWith _ name entries).bind ?_
  intro found
  split
  · exact reports_ok _
  · exact reports_failure h

end Lookups

section Filters

variable {allowed : ServiceProblem → Prop}

theorem reports_acting (roleIds : List Value) (projectId property userId : Value) :
    Reports allowed (Filter.acting? roleIds projectId property userId) := by
  unfold Filter.acting? Filter.inRoles?
  refine Reports.bind ?_ fun roles => (reports_asText userId).bind fun _ => reports_ok _
  unfold Filter.any?
  split
  · exact reports_store _
  · exact reports_ok _

variable (record : Value)

theorem reports_attributeEquals (field value : Value) :
    Reports allowed (record.attributeEquals field value) := by
  unfold Value.attributeEquals
  split
  · exact reports_foreign _
  · split <;> exact reports_ok _

mutual

theorem reports_filterHolds : ∀ f : Filter, Reports allowed (f.holds record)
  | .equal field value => by
      rw [Filter.holds]
      exact reports_attributeEquals record field value
  | .all parts => by
      rw [Filter.holds]
      exact reports_holdAll parts
  | .any parts => by
      rw [Filter.holds]
      exact reports_holdAny parts
  | .hasProperty name => by
      rw [Filter.holds]
      exact reports_holds _ name
  | .propertyIs name value => by
      rw [Filter.holds]
      exact (reports_entry _ name).map _

theorem reports_holdAll : ∀ parts : List Filter, Reports allowed (Filter.holdAll record parts)
  | [] => by
      rw [Filter.holdAll]
      exact reports_ok _
  | f :: rest => by
      rw [Filter.holdAll]
      exact (reports_filterHolds f).bind fun _ => .ite (reports_holdAll rest) (reports_ok _)

theorem reports_holdAny : ∀ parts : List Filter, Reports allowed (Filter.holdAny record parts)
  | [] => by
      rw [Filter.holdAny]
      exact reports_ok _
  | f :: rest => by
      rw [Filter.holdAny]
      exact (reports_filterHolds f).bind fun _ => .ite (reports_ok _) (reports_holdAny rest)

end

theorem reports_select (sought : Value) (records : List Value) :
    Reports allowed (Filter.select sought records) := by
  have hadmits (record : Value) : Reports allowed (Filter.admits sought record) := by
    unfold Filter.admits
    split
    · exact reports_filterHolds record _
    · exact reports_lacking _ _
  induction records with
  | nil => exact reports_ok _
  | cons record rest ih => exact (hadmits record).bind fun _ => ih.bind fun _ => reports_ok _

end Filters

section Services

variable {allowed : ServiceProblem → Prop}

theorem reports_gating (names : Value) (phases : List Value) :
    Reports allowed (Reception.gating? names phases) := by
  induction phases with
  | nil => exact reports_ok _
  | cons phase rest ih =>
      refine (reports_read phase _).bind fun type => ?_
      split
      · exact ih
      · exact (reports_holds names type).bind fun accepted => .ite (reports_ok _) ih

theorem reports_supersedes (settings : Settings) (project : Value) (rule : Rule) :
    Reports allowed (Reception.supersedes settings project rule) :=
  .ite (reports_ok true) ((reports_carryOut project _ _).map _)

/-- A move that the table does not list is reported. -/
theorem reports_checkMove (submission status : Value)
    (h : ∀ current target listed, allowed (.illegalTransition current target listed)) :
    Reports allowed (Reception.checkMove submission status) := by
  refine (reports_read submission _).bind fun current => (reports_referredName current).bind ?_
  intro current
  refine (reports_read status _).bind fun target => ?_
  have hmay : Reports allowed (StatusTable.mayMove current target) :=
    .ite (reports_ok true) ((reports_demandFixed current).map _)
  refine hmay.bind fun may => ?_
  split
  · exact reports_ok ()
  exact reports_failure (h _ _ _)

/-- Arguments that make no request are reported as such. -/
theorem reports_uploadRequest (fields : Fields)
    (h : ∀ words field, allowed (.invalidArgument words field)) :
    Reports allowed (UploadRequest.ofFields fields) := by
  intro e p he hp
  obtain ⟨words, field, hproblem⟩ := UploadRequest.problem_of_ofFields_eq_error he
  obtain rfl := Problem.service.inj (hproblem.symm.trans hp)
  exact h words field

theorem reports_statusRequest (fields : Fields)
    (h : ∀ words field, allowed (.invalidArgument words field)) :
    Reports allowed (StatusRequest.ofFields fields) := by
  intro e p he hp
  obtain ⟨words, field, hproblem⟩ := StatusRequest.problem_of_ofFields_eq_error he
  obtain rfl := Problem.service.inj (hproblem.symm.trans hp)
  exact h words field

end Services

section Stores

variable {allowed : ServiceProblem → Prop}

theorem reports_find (r : Register α) (id : Value) : Reports allowed (r.find id) :=
  (reports_demandFixed id).bind fun _ => reports_ok _

theorem reports_written (c : Memory.Catalog) (clock : Clock)
    {result : Except Failure (Value × Memory.Catalog)} (h : Reports allowed result) :
    Reports allowed (c.written clock result).reply := by
  cases result with
  | error e => exact reports_error fun p hp => h e p rfl hp
  | ok a => exact reports_ok a.1

theorem reports_catalog (call : CatalogCall) (c : Memory.Catalog) (clock : Clock) :
    Reports allowed (Memory.Catalog.answer call (c, clock)).reply := by
  cases call with
  | uploadStatuses => exact reports_ok _
  | uploadTypes => exact reports_ok _
  | submissionStatuses => exact reports_ok _
  | createUpload u operator =>
      unfold Memory.Catalog.answer
      have hwrite : Reports allowed (u.write "upload_id" (.int c.nextUpload)) :=
        reports_write u _ _
      dsimp only
      rcases hresult : u.write "upload_id" (.int c.nextUpload) with e | stored
      · exact reports_error fun p hp => hwrite e p hresult hp
      · exact reports_written _ _ ((reports_writeAll stored _).bind fun _ => reports_ok _)
  | createSubmission s operator =>
      unfold Memory.Catalog.answer
      have hwrite : Reports allowed (s.write "submission_id" (.int c.nextSubmission)) :=
        reports_write s _ _
      dsimp only
      rcases hresult : s.write "submission_id" (.int c.nextSubmission) with e | stored
      · exact reports_error fun p hp => hwrite e p hresult hp
      · refine reports_written _ _ ((reports_write stored _ _).bind fun numbered => ?_)
        exact (reports_writeAll numbered _).bind fun _ => reports_ok _
  | updateSubmission s operator =>
      unfold Memory.Catalog.answer
      have hid : Reports allowed (c.storedId s) :=
        (reports_read s _).bind fun id => (reports_demandFixed id).bind fun _ =>
          .ite (reports_ok id) (reports_mentioning id _)
      dsimp only
      rcases hresult : c.storedId s with e | id
      · exact reports_error fun p hp => hid e p hresult hp
      · exact reports_written _ _ ((reports_writeAll s _).bind fun _ => reports_ok _)
  | getSubmission id => exact (reports_find _ id).map _
  | searchSubmissions filter => exact (reports_select filter _).map _

/-- What the stores in memory reply reports nothing to callers. -/
theorem reports_platform (call : Call) (p : Platform Memory.Catalog) :
    Reports allowed (Platform.answer call p).reply := by
  cases call with
  | project id => exact (reports_find _ id).map _
  | phases projectId =>
      exact ((reports_demandFixed projectId).bind fun _ => reports_ok _).map _
  | resourceRoles => exact reports_ok _
  | searchResources filter => exact (reports_select filter _).map _
  | updateResource r operator =>
      unfold Platform.answer Platform.updateResource
      have hid : Reports allowed (p.directory.storedId r) :=
        (reports_read r _).bind fun id => (reports_demandFixed id).bind fun _ =>
          .ite (reports_ok id) (reports_mentioning id _)
      dsimp only
      rcases hresult : p.directory.storedId r with e | id
      · exact reports_error fun q hq => hid e q hresult hq
      · have hupdate : Reports allowed (p.directory.update r id operator p.clock.tick.1) :=
          (reports_writeAll r _).bind fun _ => reports_ok _
        dsimp only
        rcases hresult : p.directory.update r id operator p.clock.tick.1 with e | directory
        · exact reports_error fun q hq => hupdate e q hresult hq
        · exact reports_ok _
  | catalog call => exact reports_catalog call p.catalog p.clock
  | initiateScreening submission operator =>
      rw [Platform.answer, Platform.initiateScreening]
      split
      · exact reports_storeFailure _
      · exact reports_ok _

end Stores

end ContestUploads
