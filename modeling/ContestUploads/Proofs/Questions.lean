import ContestUploads.Proofs.Numerals
import ContestUploads.Proofs.Outcome
import ContestUploads.Proofs.World

/-!
# Asking the stores of a world

Calls that only read leave a world as it is, and what they answer is plain: a project is looked up
by its number, phases come in the order of the tracker, and a search keeps the records that its
filter holds of.  Every answer below is one lemma, `answer_project` and its like; the services are
followed through these alone.

The search for the resource of a user is the only one with a filter of some size.
`Resource.actsFor` is what it comes to for any resource, and `StoredResource.actsFor` for those of
a world.
-/

namespace ContestUploads

theorem lookup_map_text (properties : List (String × String)) (name : String) :
    List.lookup name (properties.map fun e => (e.1, Value.text e.2)) =
      (properties.lookup name).map Value.text := by
  induction properties with
  | nil => rfl
  | cons e rest ih =>
      obtain ⟨n, v⟩ := e
      cases h : name == n <;> simp [List.lookup_cons, h, ih]

namespace Filter

/-- The filter for the resources through which a user acts on a project. -/
def acting (roleIds : List Int) (projectId : Int) (reference : String) (userId : Int) : Filter :=
  .all
    [.any (roleIds.map fun id => .equal (.text "role_id") (.int id)), ofProject (.int projectId),
      .hasProperty (.text reference), .propertyIs (.text reference) (.text (toString userId))]

section Acting

variable {roleIds : List Int} (hsome : roleIds ≠ []) (projectId : Int) (reference : String)
  {userId : Int}
include hsome

theorem acting?_ofInts (huser : Text.writable userId) :
    acting? (roleIds.map .int) (.int projectId) (.text reference) (.int userId) =
      .ok (acting roleIds projectId reference userId) := by
  have hnumeral : (Value.int userId).asText = .ok (toString userId) := by
    rw [Value.asText_of_writable (by simpa using huser), Value.display_int]
  cases roleIds with
  | nil => contradiction
  | cons id rest =>
      simp [acting?, acting, inRoles?, any?, all?, hnumeral, Bind.bind, Except.bind]

/-- There is no filter for a user whose number cannot be written out. -/
theorem acting?_of_unwritable (huser : Text.writable userId = false) :
    acting? (roleIds.map .int) (.int projectId) (.text reference) (.int userId) =
      .error (.foreign .tooManyDigits) := by
  have hnumeral : (Value.int userId).asText = .error (.foreign .tooManyDigits) :=
    Value.asText_of_unwritable (by simpa using huser)
  cases roleIds with
  | nil => contradiction
  | cons id rest =>
      simp [acting?, inRoles?, any?, hnumeral, Bind.bind, Except.bind]

end Acting

end Filter

/-- What equals the numeral of an integer is that text: no category has a numeral for its text. -/
theorem Value.equals_numeral (v : Value) (n : Int) :
    v.equals (.text (toString n)) = (v == .text (toString n)) := by
  cases v with
  | text s =>
      rw [equals_text_text]
      by_cases hsame : s = toString n <;> simp [hsame]
  | category c =>
      have hnone : Sql.integerText? c.text = none := by
        cases c <;> decide
      have hother : c.text ≠ toString n := by
        intro hsame
        cases (hsame ▸ hnone).symm.trans (Sql.integerText?_toString n)
      show (c.text == toString n) = _
      simpa using hother
  | _ =>
      symm
      exact beq_eq_false_iff_ne.2 Value.noConfusion

namespace Resource

/-- Whether a user acts through a resource on a project, in one of some roles: the resource has such
a role, belongs to the project, and has the numeral of the user in one of its properties. -/
def actsFor (r : Resource) (roleIds : List Int) (projectId : Int) (reference : String)
    (userId : Int) : Bool :=
  (roleIds.any fun id => r.roleId.equals (.int id)) && r.projectId.equals (.int projectId) &&
    r.extensionProperties.lookup reference == some (.text (toString userId))

theorem holds_inRoles (r : Resource) (roleIds : List Int) :
    Filter.holds r.value (.any (roleIds.map fun id => .equal (.text "role_id") (.int id))) =
      .ok (roleIds.any fun id => r.roleId.equals (.int id)) := by
  have hrole (id : Int) :
      Filter.holds r.value (.equal (.text "role_id") (.int id)) =
        .ok (r.roleId.equals (.int id)) := rfl
  rw [Filter.holds]
  induction roleIds with
  | nil => rfl
  | cons id rest ih =>
      rw [List.map_cons, Filter.holdAny, hrole, List.any_cons]
      cases r.roleId.equals (.int id)
      · exact ih
      · rfl

/-- The filter for the resources of a user holds of those through which the user acts. -/
theorem holds_acting (r : Resource) (roleIds : List Int) (projectId : Int)
    (reference : String) (userId : Int) :
    Filter.holds r.value (.acting roleIds projectId reference userId) =
      .ok (r.actsFor roleIds projectId reference userId) := by
  have hproject : Filter.holds r.value (.ofProject (.int projectId)) =
      .ok (r.projectId.equals (.int projectId)) := rfl
  have hproperties : r.value.extensionProperties = .dict r.extensionProperties := rfl
  have hhas : Filter.holds r.value (.hasProperty (.text reference)) =
      .ok (r.extensionProperties.lookup reference).isSome := by
    rw [Filter.holds, hproperties]
    simp [Value.holds, Value.textual?, Bind.bind, Except.bind, Pure.pure, Except.pure]
  have his : Filter.holds r.value (.propertyIs (.text reference) (.text (toString userId))) =
      .ok (r.extensionProperties.lookup reference == some (.text (toString userId))) := by
    rw [Filter.holds, hproperties, Value.entry_text]
    cases r.extensionProperties.lookup reference with
    | none => rfl
    | some v => exact congrArg Except.ok (Value.equals_numeral v userId)
  rw [Filter.acting, Filter.holds]
  simp only [Filter.holdAll, holds_inRoles, hproject, hhas, his, actsFor]
  cases roleIds.any fun id => r.roleId.equals (.int id)
  · rfl
  cases r.projectId.equals (.int projectId)
  · rfl
  cases r.extensionProperties.lookup reference with
  | none => rfl
  | some v => cases some v == some (Value.text (toString userId)) <;> rfl

end Resource

namespace StoredResource

/-- Whether a user acts through a resource on a project, in one of some roles. -/
def actsFor (r : StoredResource) (roleIds : List Int) (projectId : Int) (reference : String)
    (userId : Int) : Bool :=
  roleIds.contains r.roleId && r.projectId == projectId &&
    r.extensionProperties.lookup reference == some (toString userId)

/-- A resource is handed out to the users who act through it. -/
theorem actsFor_record (r : StoredResource) (roleIds : List Int) (projectId : Int)
    (reference : String) (userId : Int) :
    r.record.actsFor roleIds projectId reference userId =
      r.actsFor roleIds projectId reference userId := by
  have hroles : (roleIds.any fun id => r.roleId == id) = roleIds.contains r.roleId :=
    List.contains_eq_any_beq.symm
  have hproperty : ((r.extensionProperties.lookup reference).map Value.text ==
      some (.text (toString userId))) =
        (r.extensionProperties.lookup reference == some (toString userId)) := by
    cases r.extensionProperties.lookup reference <;> simp
  simp only [Resource.actsFor, record, lookup_map_text, Value.equals_int_int, hroles, hproperty,
    actsFor]

end StoredResource

/-- What submissions are searched for: conjunctions and disjunctions of what they refer to, each
either a number or nothing. -/
inductive Sought
  | ofUpload (id : Option Int)
  | ofResource (id : Option Int)
  | all (parts : List Sought)
  | any (parts : List Sought)

namespace Sought

mutual

/-- The filter of a search. -/
def filter : Sought → Filter
  | ofUpload id => .equal (.text "upload_id") ((id.map .int).getD .null)
  | ofResource id => .equal (.text "resource_id") ((id.map .int).getD .null)
  | all parts => .all (filters parts)
  | any parts => .any (filters parts)

/-- The filters of the parts of a search. -/
def filters : List Sought → List Filter
  | [] => []
  | x :: rest => filter x :: filters rest

end

mutual

/-- Whether a submission is searched for. -/
def picks (s : StoredSubmission) : Sought → Bool
  | ofUpload id => s.uploadId == id
  | ofResource id => s.resourceId == id
  | all parts => picksAll s parts
  | any parts => picksAny s parts

/-- Whether all parts of a search pick a submission. -/
def picksAll (s : StoredSubmission) : List Sought → Bool
  | [] => true
  | x :: rest => picks s x && picksAll s rest

/-- Whether some part of a search picks a submission. -/
def picksAny (s : StoredSubmission) : List Sought → Bool
  | [] => false
  | x :: rest => picks s x || picksAny s rest

end

mutual

/-- All numbers that a search asks for have a property. -/
def Within (reach : Int → Prop) : Sought → Prop
  | ofUpload id => ∀ n ∈ id, reach n
  | ofResource id => ∀ n ∈ id, reach n
  | all parts => AllWithin reach parts
  | any parts => AllWithin reach parts

/-- All numbers that the parts of a search ask for have a property. -/
def AllWithin (reach : Int → Prop) : List Sought → Prop
  | [] => True
  | x :: rest => Within reach x ∧ AllWithin reach rest

end

mutual

/-- More may be within reach of a search. -/
theorem Within.imp {reach reach' : Int → Prop} (hreach : ∀ n, reach n → reach' n) :
    ∀ x : Sought, x.Within reach → x.Within reach'
  | ofUpload _, hid | ofResource _, hid => fun n hn => hreach n (hid n hn)
  | all parts, hparts | any parts, hparts => AllWithin.imp hreach parts hparts

theorem AllWithin.imp {reach reach' : Int → Prop} (hreach : ∀ n, reach n → reach' n) :
    ∀ parts : List Sought, AllWithin reach parts → AllWithin reach' parts
  | [], _ => trivial
  | x :: rest, hparts => ⟨Within.imp hreach x hparts.1, AllWithin.imp hreach rest hparts.2⟩

end

/-- A reference equals a number or nothing. -/
theorem equals_optional (x y : Option Int) :
    Value.equals ((x.map Value.int).getD .null) ((y.map .int).getD .null) = (x == y) := by
  rcases x with _ | m <;> rcases y with _ | n <;> simp

mutual

/-- The filter of a search holds of the submissions that it picks. -/
theorem holds_filter (s : StoredSubmission) :
    ∀ x : Sought, Filter.holds s.value x.filter = .ok (x.picks s)
  | ofUpload id => congrArg Except.ok (equals_optional s.uploadId id)
  | ofResource id => congrArg Except.ok (equals_optional s.resourceId id)
  | all parts => by
      rw [filter, Filter.holds, picks]
      exact holdAll_filters s parts
  | any parts => by
      rw [filter, Filter.holds, picks]
      exact holdAny_filters s parts

theorem holdAll_filters (s : StoredSubmission) :
    ∀ parts : List Sought, Filter.holdAll s.value (filters parts) = .ok (picksAll s parts)
  | [] => rfl
  | x :: rest => by
      rw [filters, Filter.holdAll, holds_filter s x, picksAll]
      cases picks s x
      · rfl
      · exact holdAll_filters s rest

theorem holdAny_filters (s : StoredSubmission) :
    ∀ parts : List Sought, Filter.holdAny s.value (filters parts) = .ok (picksAny s parts)
  | [] => rfl
  | x :: rest => by
      rw [filters, Filter.holdAny, holds_filter s x, picksAny]
      cases picks s x
      · exact holdAny_filters s rest
      · rfl

end

end Sought

/-- A search among records of one kind keeps those that its filter holds of, in order. -/
theorem select_map {α : Type} {value : α → Value} {f : Filter} {chosen : α → Bool}
    (h : ∀ x, f.holds (value x) = .ok (chosen x)) (xs : List α) :
    Filter.select (.filter f) (xs.map value) = .ok ((xs.filter chosen).map value) := by
  induction xs with
  | nil => rfl
  | cons x rest ih =>
      rw [List.map_cons, Filter.select, Filter.admits, h, ih, List.filter_cons]
      cases chosen x <;> rfl

/-- A search for resources keeps those that its filter holds of, in order. -/
theorem Platform.answer_searchResources {κ : Type} [UploadCatalog κ] {p : Platform κ}
    {resources : List Resource}
    (hresources : p.directory.resources.records = resources.map Resource.value) {f : Filter}
    {chosen : Resource → Bool} (h : ∀ r : Resource, f.holds r.value = .ok (chosen r)) :
    answer (.searchResources (.filter f)) p =
      ⟨.ok (.list ((resources.filter chosen).map Resource.value)), p, []⟩ := by
  simp [answer, hresources, select_map h, Except.map]

namespace World

variable (w : World)

theorem phasesOf_board (id : Int) :
    w.board.phasesOf (.int id) = (w.phasesOf id).map StoredPhase.value := by
  rw [Memory.PhaseBoard.phasesOf, board, Register.get?_filed, phasesOf]
  cases w.phases.find? (·.1 == id) <;> rfl

section AnyCatalog

variable {κ : Type} [UploadCatalog κ] (c : κ)

@[simp] theorem answer_project (id : Int) :
    Platform.answer (.project (.int id)) (w.platformWith c) =
      ⟨.ok (((w.project? id).map StoredProject.value).getD .null), w.platformWith c, []⟩ := by
  simp [Platform.answer, platformWith, project?, Except.map]

@[simp] theorem answer_phases (id : Int) :
    Platform.answer (.phases (.int id)) (w.platformWith c) =
      ⟨.ok (.list ((w.phasesOf id).map StoredPhase.value)), w.platformWith c, []⟩ := by
  simp [Platform.answer, Memory.PhaseBoard.find, platformWith, w.phasesOf_board, Bind.bind,
    Except.bind, Pure.pure, Except.pure, Except.map]

end AnyCatalog

theorem answer_getSubmission (id : Int) :
    Platform.answer (.catalog (.getSubmission (.int id))) w.platform =
      ⟨.ok (((w.submission? id).map StoredSubmission.value).getD .null), w.platform, []⟩ := by
  show (⟨(w.catalog.submissions.find (.int id)).map (·.getD .null), w.platform, []⟩ :
    Answer (Platform Memory.Catalog)) = _
  rw [catalog, Register.find_filed]
  rfl

/-- A search finds the submissions that it picks, in order. -/
theorem answer_searchSubmissions (x : Sought) :
    Platform.answer (.catalog (.searchSubmissions (.filter x.filter))) w.platform =
      ⟨.ok (.list ((w.submissions.filter (x.picks ·)).map StoredSubmission.value)), w.platform,
        []⟩ := by
  show (⟨(Filter.select _ w.catalog.submissions.records).map .list, w.platform, []⟩ :
    Answer (Platform Memory.Catalog)) = _
  rw [catalog, Register.records_filed, select_map (Sought.holds_filter · x)]
  rfl

end World

end ContestUploads
