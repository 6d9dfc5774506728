import ContestUploads.Proofs.Questions

/-!
# The one resource that a user acts through

A user is let in through a resource that has one of the roles asked for, belongs to the project and
carries the numeral of the user.  There must be exactly one.  `Resource.ActsFor` says this of a
resource without any filter, `Resource.authorised` is what a search of a whole directory comes to,
and `outcome_authorised` that the services come to this, whatever else is on the platform.

The numeral is the only thing that ties a resource to its user.  As different users have different
numerals, and a resource belongs to one project, no resource is ever handed out to two users or for
two projects (`authorises_only_resource`).
-/

namespace ContestUploads

open Program Reception

namespace ServiceProblem

theorem failure_noSuchRole {userId : Int} (huser : Text.writable userId) (names : List String) :
    (noSuchRole (.ofTexts names) (.int userId)).failure =
      .service (.noSuchRole (.ofTexts names) (.int userId)) :=
  failure_of_told (by simp [obstacle?, ForeignProblem.ofJoining?_ofTexts, huser])

theorem failure_ambiguousOrMissingUser {userId projectId : Int} {found : Nat}
    (huser : Text.writable userId) (hproject : Text.writable projectId)
    (hfound : Text.writable found) :
    (ambiguousOrMissingUser (.int userId) (.int projectId) (.int found)).failure =
      .service (.ambiguousOrMissingUser (.int userId) (.int projectId) (.int found)) :=
  failure_of_told (by simp [obstacle?, huser, hproject, hfound])

end ServiceProblem

namespace StoredLookup

/-- The numbers of the entries with one of some names. -/
def idsNamed (catalog : List StoredLookup) (names : List String) : List Int :=
  (catalog.filter fun l => names.contains l.name).map id

theorem mem_idsNamed {catalog : List StoredLookup} {names : List String} {n : Int} :
    n ∈ idsNamed catalog names ↔ ∃ l ∈ catalog, l.name ∈ names ∧ l.id = n := by
  simp [idsNamed, and_assoc]

theorem idsNamed_eq_nil_iff {catalog : List StoredLookup} {names : List String} :
    idsNamed catalog names = [] ↔ ∀ l ∈ catalog, l.name ∉ names := by
  simp [idsNamed, List.filter_eq_nil_iff]

theorem idsAmong_texts (catalog : List StoredLookup) (names : List String) :
    Lookup.idsAmong (.list (catalog.map value)) (.ofTexts names) =
      .ok ((idsNamed catalog names).map .int) := by
  have hfixed : ∀ l ∈ catalog.map record, l.name.demandFixed = .ok () := by
    simp [record]
  have h := Lookup.idsAmong_map_value names hfixed
  have hname : (fun l : Lookup => Value.contains (names.map .text) l.name) ∘ record =
      fun l => names.contains l.name := by
    funext l
    simp [record, Value.contains_ofTexts]
  rw [List.map_map, List.filter_map, hname, List.map_map] at h
  rw [idsNamed, List.map_map]
  exact h

end StoredLookup

/-- A directory holds roles and resources. -/
structure Memory.Directory.Holds (d : Memory.Directory) (roles : List StoredLookup)
    (resources : List Resource) : Prop where
  roles : d.roles = roles.map StoredLookup.value
  resources : d.resources.records = resources.map Resource.value

namespace Resource

/-- A user acts through a resource on a project: the resource has one of the named roles, belongs
to the project, and has the numeral of the user as its reference. -/
def ActsFor (r : Resource) (roles : List StoredLookup) (names : List String) (projectId : Int)
    (reference : String) (userId : Int) : Prop :=
  (∃ role ∈ roles, role.name ∈ names ∧ r.roleId.equals (.int role.id) = true) ∧
    r.projectId.equals (.int projectId) = true ∧
    r.extensionProperties.lookup reference = some (.text (toString userId))

instance (r : Resource) (roles : List StoredLookup) (names : List String) (projectId : Int)
    (reference : String) (userId : Int) :
    Decidable (r.ActsFor roles names projectId reference userId) :=
  inferInstanceAs (Decidable (_ ∧ _ ∧ _))

theorem actsFor_iff {r : Resource} {roles : List StoredLookup} {names : List String}
    {projectId : Int} {reference : String} {userId : Int} :
    r.actsFor (StoredLookup.idsNamed roles names) projectId reference userId = true ↔
      r.ActsFor roles names projectId reference userId := by
  simp only [actsFor, ActsFor, Bool.and_eq_true, List.any_eq_true, beq_iff_eq, and_assoc]
  refine and_congr ⟨?_, ?_⟩ Iff.rfl
  · rintro ⟨n, hn, hequal⟩
    obtain ⟨role, hrole, hname, rfl⟩ := StoredLookup.mem_idsNamed.1 hn
    exact ⟨role, hrole, hname, hequal⟩
  · rintro ⟨role, hrole, hname, hequal⟩
    exact ⟨role.id, StoredLookup.mem_idsNamed.2 ⟨role, hrole, hname, rfl⟩, hequal⟩

/-- Nobody acts through one resource for two projects or as two users. -/
theorem ActsFor.unique {r : Resource} {roles roles' : List StoredLookup}
    {names names' : List String} {projectId projectId' : Int} {reference : String}
    {userId userId' : Int} (h : r.ActsFor roles names projectId reference userId)
    (h' : r.ActsFor roles' names' projectId' reference userId') :
    projectId = projectId' ∧ userId = userId' := by
  obtain ⟨-, hproject, huser⟩ := h
  obtain ⟨-, hproject', huser'⟩ := h'
  rw [Value.equals_int_iff] at hproject hproject'
  exact ⟨Option.some.inj (hproject.symm.trans hproject'),
    Text.toString_injective (Value.text.inj (Option.some.inj (huser.symm.trans huser')))⟩

/-- What is handed out of a resource tells all of it. -/
theorem value_injective : Function.Injective value := by
  intro r r' h
  cases r
  cases r'
  simpa [value] using h

/-- The failure of the search for the resource of a user whose number cannot be written out. -/
def notSearched : Failure :=
  .raisedFrom (.service (.persistenceFailure (.text "Failed to search resources") .null))
    (.foreign .tooManyDigits)

/-- The resource among some through which a user with one of the named roles acts on a project.
There must be such a role and exactly one such resource. -/
def authorised (resources : List Resource) (roles : List StoredLookup) (names : List String)
    (projectId : Int) (reference : String) (userId : Int) : Except Failure Resource :=
  if StoredLookup.idsNamed roles names = [] then
    .error (ServiceProblem.noSuchRole (.ofTexts names) (.int userId)).failure
  else if Text.writable userId then
    match resources.filter
        (·.actsFor (StoredLookup.idsNamed roles names) projectId reference userId) with
    | [r] => .ok r
    | found =>
        .error (ServiceProblem.ambiguousOrMissingUser (.int userId) (.int projectId)
          (.int found.length)).failure
  else .error notSearched

section Authorised

variable {resources resources' : List Resource} {roles : List StoredLookup} {names : List String}
  {projectId : Int} {reference : String} {userId : Int}

theorem filter_actsFor (resources : List Resource) (roles : List StoredLookup)
    (names : List String) (projectId : Int) (reference : String) (userId : Int) :
    resources.filter (·.actsFor (StoredLookup.idsNamed roles names) projectId reference userId) =
      resources.filter (·.ActsFor roles names projectId reference userId) := by
  refine List.filter_congr fun r _ => ?_
  rw [Bool.eq_iff_iff, decide_eq_true_iff]
  exact actsFor_iff

/-- Where nobody has a role of one of the names, nobody acts through a resource. -/
theorem exists_role_of_filter {r : Resource} {rest : List Resource}
    (h : resources.filter (·.ActsFor roles names projectId reference userId) = r :: rest) :
    StoredLookup.idsNamed roles names ≠ [] := by
  have hr : r ∈ resources.filter (·.ActsFor roles names projectId reference userId) := by
    rw [h]
    exact List.mem_cons_self
  have hacts := of_decide_eq_true (List.mem_filter.1 hr).2
  obtain ⟨role, hrole, hname, -⟩ := hacts.1
  intro hnone
  exact StoredLookup.idsNamed_eq_nil_iff.1 hnone role hrole hname

theorem authorised_eq_ok_iff {r : Resource} :
    authorised resources roles names projectId reference userId = .ok r ↔
      Text.writable userId ∧
        resources.filter (·.ActsFor roles names projectId reference userId) = [r] := by
  rw [authorised, filter_actsFor]
  constructor
  · intro h
    split at h
    · cases h
    · split at h
      next huser =>
        split at h
        next hfound =>
          obtain rfl := Except.ok.inj h
          exact ⟨huser, hfound⟩
        next => cases h
      next => cases h
  · rintro ⟨huser, hfound⟩
    rw [if_neg (exists_role_of_filter hfound), if_pos huser, hfound]

theorem authorised_eq_error_iff (hmany : Text.writable resources.length)
    (hproject : Text.writable projectId) (huser : Text.writable userId) {e : Failure} :
    authorised resources roles names projectId reference userId = .error e ↔
      ((∀ role ∈ roles, role.name ∉ names) ∧
        e = .service (.noSuchRole (.ofTexts names) (.int userId))) ∨
      ((∃ role ∈ roles, role.name ∈ names) ∧
        resources.countP (·.ActsFor roles names projectId reference userId) ≠ 1 ∧
        e = .service (.ambiguousOrMissingUser (.int userId) (.int projectId)
          (.int (resources.countP (·.ActsFor roles names projectId reference userId))))) := by
  have hsome : (∃ role ∈ roles, role.name ∈ names) ↔ ¬∀ role ∈ roles, role.name ∉ names := by
    simp
  rw [authorised, filter_actsFor, hsome, ← StoredLookup.idsNamed_eq_nil_iff,
    List.countP_eq_length_filter, if_pos huser, ServiceProblem.failure_noSuchRole huser]
  by_cases hnone : StoredLookup.idsNamed roles names = []
  · simp [hnone, eq_comm]
  · have hfound := ServiceProblem.failure_ambiguousOrMissingUser huser hproject
      (Text.writable_of_le (List.length_filter_le
        (fun r => decide (r.ActsFor roles names projectId reference userId)) resources) hmany)
    revert hfound
    generalize resources.filter (fun r => decide (r.ActsFor roles names projectId reference
      userId)) = found
    intro hfound
    rcases found with _ | ⟨r, _ | ⟨r', rest⟩⟩
    · rw [if_neg hnone]
      dsimp only
      rw [hfound]
      simp [hnone, eq_comm]
    · simp [hnone]
    · rw [if_neg hnone]
      dsimp only
      rw [hfound]
      simp [hnone, eq_comm]

/-- Only the resources through which the user acts make a difference. -/
theorem authorised_congr
    (h : resources.filter (·.ActsFor roles names projectId reference userId) =
      resources'.filter (·.ActsFor roles names projectId reference userId)) :
    authorised resources roles names projectId reference userId =
      authorised resources' roles names projectId reference userId := by
  rw [authorised, authorised, filter_actsFor, filter_actsFor, h]

end Authorised

end Resource

namespace Platform

variable {κ : Type} [UploadCatalog κ] {p : Platform κ} {roles : List StoredLookup}
  {resources : List Resource}

theorem outcome_roleIds (h : p.directory.Holds roles resources) (names : List String) :
    (Reception.roleIds (.ofTexts names)).outcome answer p =
      (.ok ((StoredLookup.idsNamed roles names).map .int), p) := by
  have hanswer : answer .resourceRoles p = ⟨.ok (.list (roles.map StoredLookup.value)), p, []⟩ := by
    rw [answer, h.roles]
  unfold Reception.roleIds
  rw [outcome_bind_ok (outcome_askGuarded_ok rfl (by rw [hanswer])), hanswer,
    StoredLookup.idsAmong_texts]
  rfl

/-- The search for the resources of a user finds all through which the user acts, if there is a
text for the user at all. -/
theorem outcome_searchActing (h : p.directory.Holds roles resources) {ids : List Int}
    (hsome : ids ≠ []) (projectId : Int) (reference : String) (userId : Int) :
    (guarded (.text "search resources")
      [("project_id", .int projectId), ("user_id", .int userId)] do
        let filter ← ofExcept (Filter.acting? (ids.map .int) (.int projectId)
          (.text reference) (.int userId))
        call (.searchResources (.filter filter))).outcome answer p =
      (if Text.writable userId then
        .ok (.list ((resources.filter (·.actsFor ids projectId reference userId)).map
          Resource.value))
      else .error Resource.notSearched, p) := by
  cases huser : Text.writable userId with
  | false =>
      rw [guarded_eq rfl, outcome_recover, Filter.acting?_of_unwritable hsome _ _ huser]
      rfl
  | true =>
      have hanswer := answer_searchResources h.resources
        (Resource.holds_acting · ids projectId reference userId)
      refine outcome_guarded_ok rfl ?_
      rw [Filter.acting?_ofInts hsome _ _ huser, outcome_bind_ok (outcome_ofExcept_ok _ _ _),
        outcome_call_ok (by rw [hanswer]), hanswer]

theorem outcome_onlyResource (p : Platform κ) (projectId userId : Int) (found : List Resource) :
    (onlyResource (.int projectId) (.int userId) (.list (found.map Resource.value))).outcome
        answer p =
      ((match found with
        | [r] => .ok r
        | found => .error (ServiceProblem.ambiguousOrMissingUser (.int userId) (.int projectId)
            (.int found.length)).failure : Except Failure Resource).map Resource.value, p) := by
  unfold onlyResource
  rcases found with _ | ⟨r, _ | ⟨r', rest⟩⟩
  · simp [Value.size, Value.members?, Value.textual?, outcome_bind, Except.map]
  · simp [Value.size, Value.members?, Value.textual?, outcome_bind, Value.front, Except.map]
  · simp [Value.size, Value.members?, Value.textual?, outcome_bind, Except.map]

/-- The services come to the one resource through which the user acts, and only look. -/
theorem outcome_authorised (h : p.directory.Holds roles resources) (settings : Settings)
    (projectId userId : Int) (names : List String) :
    (actingResource settings (.int projectId) (.int userId) (.ofTexts names)).outcome answer p =
      ((Resource.authorised resources roles names projectId settings.externalReference
        userId).map Resource.value, p) := by
  unfold actingResource Resource.authorised
  rw [outcome_bind_ok (outcome_roleIds h names)]
  by_cases hids : StoredLookup.idsNamed roles names = []
  · simp only [hids, List.map_nil, List.isEmpty_nil, if_true]
    rw [outcome_bind_ok (outcome_note _ _ _ _ _)]
    rfl
  · have hmany : ((StoredLookup.idsNamed roles names).map Value.int).isEmpty = false := by
      simpa using hids
    have hsearched := outcome_searchActing h hids projectId settings.externalReference userId
    rw [hmany, if_neg hids]
    cases huser : Text.writable userId with
    | false =>
        rw [huser] at hsearched
        exact outcome_bind_error hsearched
    | true =>
        rw [huser] at hsearched
        exact (outcome_bind_ok hsearched).trans (outcome_onlyResource p projectId userId _)

end Platform

/-- **Exactly the resource of the user.**  Whatever roles and resources the directory holds, a user,
whose number can be written out like that of the project, is let in through `r` exactly if the user
acts through `r` and through no other resource there, is refused for the missing role exactly if no
role has one of the names, and is otherwise refused with the number of resources through which the
user acts.  One resource never lets in two users or for
two projects, in whatever directories, and resources through which the user does not act make no
difference. -/
theorem authorises_only_resource {κ : Type} [UploadCatalog κ] {p : Platform κ}
    {roles : List StoredLookup} {resources : List Resource}
    (h : p.directory.Holds roles resources) (hmany : Text.writable resources.length)
    (settings : Settings) {projectId userId : Int} (hproject : Text.writable projectId)
    (huser : Text.writable userId) (names : List String) :
    let acts (r : Resource) := r.ActsFor roles names projectId settings.externalReference userId
    let asked := actingResource settings (.int projectId) (.int userId) (.ofTexts names)
    (asked.outcome Platform.answer p).2 = p ∧
    (∀ v, (asked.outcome Platform.answer p).1 = .ok v ↔
      ∃ before r after, resources = before ++ r :: after ∧ v = r.value ∧ acts r ∧
        ∀ r' ∈ before ++ after, ¬acts r') ∧
    (∀ e, (asked.outcome Platform.answer p).1 = .error e ↔
      ((∀ role ∈ roles, role.name ∉ names) ∧
        e = .service (.noSuchRole (.ofTexts names) (.int userId))) ∨
      ((∃ role ∈ roles, role.name ∈ names) ∧ resources.countP (acts ·) ≠ 1 ∧
        e = .service (.ambiguousOrMissingUser (.int userId) (.int projectId)
          (.int (resources.countP (acts ·)))))) ∧
    (∀ {p' : Platform κ} {roles' : List StoredLookup} {resources' : List Resource},
      p'.directory.Holds roles' resources' → ∀ projectId' userId' names' v,
        (asked.outcome Platform.answer p).1 = .ok v →
        ((actingResource settings (.int projectId') (.int userId') (.ofTexts names')).outcome
          Platform.answer p').1 = .ok v →
        projectId = projectId' ∧ userId = userId') ∧
    (∀ {p' : Platform κ} {resources' : List Resource}, p'.directory.Holds roles resources' →
      resources.filter (acts ·) = resources'.filter (acts ·) →
        (asked.outcome Platform.answer p').1 = (asked.outcome Platform.answer p).1) := by
  intro acts asked
  have houtcome : asked.outcome Platform.answer p = _ :=
    Platform.outcome_authorised h settings projectId userId names
  have hreturned {p : Platform κ} {roles : List StoredLookup} {resources : List Resource}
      (h : p.directory.Holds roles resources) {projectId userId : Int} {names : List String}
      {v : Value} :
      ((actingResource settings (.int projectId) (.int userId) (.ofTexts names)).outcome
        Platform.answer p).1 = .ok v ↔ ∃ r : Resource, v = r.value ∧ Text.writable userId ∧
          resources.filter (·.ActsFor roles names projectId settings.externalReference userId) =
            [r] := by
    rw [Platform.outcome_authorised h]
    simp only [← Resource.authorised_eq_ok_iff]
    cases Resource.authorised resources roles names projectId settings.externalReference userId <;>
      simp [Except.map, eq_comm]
  refine ⟨by rw [houtcome], fun v => ?_, fun e => ?_, ?_, ?_⟩
  · rw [hreturned h]
    constructor
    · rintro ⟨r, rfl, -, hfound⟩
      obtain ⟨before, after, hsplit, hbefore, hr, hafter⟩ := List.filter_eq_cons_iff.1 hfound
      refine ⟨before, r, after, hsplit, rfl, of_decide_eq_true hr, fun r' hr' => ?_⟩
      rcases List.mem_append.1 hr' with hr' | hr'
      · simpa using hbefore r' hr'
      · simpa using List.filter_eq_nil_iff.1 hafter r' hr'
    · rintro ⟨before, r, after, hsplit, rfl, hr, hothers⟩
      rw [List.forall_mem_append] at hothers
      refine ⟨r, rfl, huser, List.filter_eq_cons_iff.2
        ⟨before, after, hsplit, ?_, decide_eq_true hr, ?_⟩⟩
      · simpa using hothers.1
      · simpa [List.filter_eq_nil_iff] using hothers.2
  · rw [houtcome]
    refine Iff.trans ?_ (Resource.authorised_eq_error_iff hmany hproject huser)
    cases Resource.authorised resources roles names projectId settings.externalReference userId <;>
      simp [Except.map]
  · intro p' roles' resources' h' projectId' userId' names' v hv hv'
    obtain ⟨r, rfl, -, hr⟩ := (hreturned h).1 hv
    obtain ⟨r', hsame, -, hr'⟩ := (hreturned h').1 hv'
    obtain rfl := Resource.value_injective hsame
    have hacts : r ∈ resources.filter (acts ·) := hr ▸ List.mem_cons_self
    have hacts' := List.mem_cons_self (a := r) (l := [])
    rw [← hr'] at hacts'
    exact Resource.ActsFor.unique (of_decide_eq_true (List.mem_filter.1 hacts).2)
      (of_decide_eq_true (List.mem_filter.1 hacts').2)
  · intro p' resources' h' hsame
    rw [houtcome, Platform.outcome_authorised h']
    exact congrArg (Except.map Resource.value) (Resource.authorised_congr hsame.symm)

/-- Three resources of one project, of which only the first lets user 10 in as a submitter: the
reference of the second is a number and no numeral, and the third has another role. -/
def Resource.alike : List Resource :=
  let resource (id roleId : Int) (reference : Value) : Resource :=
    { id := .int id, projectId := .int 1, roleId := .int roleId
      extensionProperties := [("Rating", .int 7), ("External Reference ID", reference)] }
  [resource 1 1 (.text "10"), resource 2 1 (.int 10), resource 3 2 (.text "10")]

theorem authorises_only_resource_alike :
    let roles : List StoredLookup := [⟨1, "Submitter", ""⟩, ⟨2, "Manager", ""⟩]
    let p : Platform Memory.Catalog :=
      { catalog := { uploadStatuses := [], uploadTypes := [], submissionStatuses := [] }
        directory :=
          { roles := roles.map StoredLookup.value
            resources := ⟨Resource.alike.map fun r => (r.id, r.value)⟩ } }
    let asked (userId : Int) := actingResource {} (.int 1) (.int userId) (.ofTexts ["Submitter"])
    p.directory.Holds roles Resource.alike ∧
      ((asked 10).outcome Platform.answer p).1 = .ok Resource.alike[0].value ∧
      ((asked 11).outcome Platform.answer p).1 =
        .error (.service (.ambiguousOrMissingUser (.int 11) (.int 1) (.int 0))) := by
  intro roles p asked
  have hholds : p.directory.Holds roles Resource.alike := ⟨rfl, rfl⟩
  have hmany : Text.writable Resource.alike.length := by decide
  obtain ⟨-, hreturned, -⟩ := authorises_only_resource hholds hmany {}
    (by decide : Text.writable 1) (by decide : Text.writable 10) ["Submitter"]
  obtain ⟨-, -, hrefused, -⟩ := authorises_only_resource hholds hmany {}
    (by decide : Text.writable 1) (by decide : Text.writable 11) ["Submitter"]
  refine ⟨hholds, (hreturned _).2 ⟨[], _, _, rfl, rfl, ?_, ?_⟩, (hrefused _).2 (.inr ⟨?_, ?_, ?_⟩)⟩
  · decide +kernel
  · decide +kernel
  · exact ⟨_, List.mem_cons_self, by decide⟩
  · decide +kernel
  · decide +kernel

end ContestUploads
