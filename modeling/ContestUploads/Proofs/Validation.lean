import ContestUploads.Proofs.Requests
import ContestUploads.Value.Equality

/-!
# Requests are checked as their fields are declared

A kind of request declares the names of its fields, each with what it holds: a category, an id or
a text.  What a field holds comes with demands that a value has to meet, and `FieldKind.Takes` says
which values meet all of them (`refusal?_eq_none_iff`).  A field *complains* if no value is given
for it, or with the first demand that its value does not meet.

The checks of a request are read off this in three steps.  Each check of one field answers with the
complaint of the field (`Applies`); the checks in their order then answer with the first complaint
(`Answers`); and with the names of the arguments looked at before, arguments ask for a request as
its fields are declared (`Parses`, for both kinds of requests `requests_parse_as_declared`).

One name is not free: an argument cannot be called `model`, since the kind of request is given
under that name (`model_argument_refused`).
-/

namespace ContestUploads

open Request

/-- What goes wrong under another name went wrong under its own. -/
theorem mapError_eq_error_iff {ε ε' α : Type} {x : Except ε α} {f : ε → ε'} {e : ε'} :
    x.mapError f = .error e ↔ ∃ e₀, x = .error e₀ ∧ e = f e₀ := by
  cases x with
  | error e₀ =>
      show Except.error (f e₀) = Except.error e ↔ _
      simp [eq_comm]
  | ok a =>
      show Except.ok a = Except.error e ↔ _
      simp

/-- What a field of a request holds. -/
inductive FieldKind
  | category
  | id
  | text
  deriving DecidableEq, Repr

/-- A demand on a value, with the reason for which a value is refused that does not meet it. -/
structure Demand where
  reason : Reason
  meets : Value → Bool

namespace FieldKind

/-- The values that a field takes.  Booleans are no integers, and a category counts as a text too;
a text needs a character that trimming does not remove. -/
def Takes : FieldKind → Value → Prop
  | .category, v => ∃ c, v = .category c
  | .id, v => ∃ n : Int, v = .int n ∧ 0 ≤ n
  | .text, v => ∃ s, v.textual? = some s ∧ ∃ c ∈ s.toList, Text.isBlank c = false

/-- What is demanded of a value, in the order in which it is looked at: the type first, then the
lower bound or the least length, and that it is not blank last. -/
def demands : FieldKind → List Demand
  | .category => [⟨.notCategory, fun | .category _ => true | _ => false⟩]
  | .id =>
      [⟨.notInteger, fun | .int _ => true | _ => false⟩,
       ⟨.negative, fun | .int n => decide (0 ≤ n) | _ => false⟩]
  | .text =>
      [⟨.notText, fun v => v.textual?.isSome⟩,
       ⟨.empty, fun v => v.textual?.any fun s => decide (1 ≤ s.length)⟩,
       ⟨.blank, fun v => v.textual?.any fun s => !(Text.trim s.toList).isEmpty⟩]

/-- Why a value is refused: for the first demand that it does not meet. -/
def refusal? (k : FieldKind) (v : Value) : Option Reason :=
  (k.demands.find? fun d => !d.meets v).map (·.reason)

theorem refusal?_text {v : Value} {s : String} (h : v.textual? = some s) :
    refusal? .text v =
      if s = "" then some .empty else if Text.allBlank s = true then some .blank else none := by
  have hlength : (decide (1 ≤ s.length) = true) ↔ s ≠ "" := by
    rw [decide_eq_true_iff, ne_eq, ← String.length_eq_zero_iff]
    omega
  have htrim : (Text.trim s.toList).isEmpty = Text.allBlank s := by
    rw [Bool.eq_iff_iff, List.isEmpty_iff, Text.trim_eq_nil_iff, Text.allBlank]
  by_cases hempty : s = ""
  · simp [refusal?, demands, h, hempty]
  · have hlong : decide (1 ≤ s.length) = true := hlength.2 hempty
    cases hblank : Text.allBlank s <;>
      simp [refusal?, demands, h, hlong, hempty, htrim, hblank]

theorem refusal?_text_of_none {v : Value} (h : v.textual? = none) :
    refusal? .text v = some .notText := by
  simp [refusal?, demands, h]

/-- The values that meet every demand are those that the field takes. -/
theorem refusal?_eq_none_iff {k : FieldKind} {v : Value} : k.refusal? v = none ↔ k.Takes v := by
  cases k with
  | category => cases v <;> simp [refusal?, demands, Takes]
  | id =>
      cases v with
      | int n => by_cases h : 0 ≤ n <;> simp [refusal?, demands, Takes, h]
      | _ => simp [refusal?, demands, Takes]
  | text =>
      rcases h : v.textual? with _ | s
      · simp [refusal?_text_of_none h, Takes, h]
      · have hempty : Text.allBlank "" = true := by decide
        have hkept : Text.allBlank s = false ↔ ∃ c ∈ s.toList, Text.isBlank c = false := by
          rw [Text.allBlank, List.all_eq_false]
          simp
        simp only [refusal?_text h, Takes, h, Option.some.injEq, exists_eq_left', ← hkept]
        by_cases hs : s = ""
        · simp [hs, hempty]
        · cases Text.allBlank s <;> simp [hs]

end FieldKind

/-- A declared field of a request. -/
structure DeclaredField where
  name : String
  kind : FieldKind
  deriving DecidableEq, Repr

/-- What is wrong with the argument for a declared field, if anything is. -/
def DeclaredField.complaint? (arguments : Fields) (d : DeclaredField) : Option Rejection :=
  match arguments.lookup d.name with
  | none => some ⟨d.name, .missing⟩
  | some v => (d.kind.refusal? v).map (⟨d.name, ·⟩)

theorem DeclaredField.complaint?_eq_none_iff {arguments : Fields} {d : DeclaredField} :
    d.complaint? arguments = none ↔ ∃ v, arguments.lookup d.name = some v ∧ d.kind.Takes v := by
  rw [complaint?]
  split
  next h => simp [h]
  next v h => simp [h, FieldKind.refusal?_eq_none_iff]

/-- A check of one field answers with the complaint of the field. -/
structure Applies {α : Type} (k : FieldKind) (test : Option Value → Except Reason α) : Prop where
  missing : test none = .error .missing
  refused : ∀ {v r}, k.refusal? v = some r → test (some v) = .error r
  taken : ∀ {v}, k.refusal? v = none → ∃ x, test (some v) = .ok x

namespace Request

theorem applies_checkCategory : Applies .category checkCategory where
  missing := rfl
  refused {v r} h := by
    cases v <;> simp_all [FieldKind.refusal?, FieldKind.demands, checkCategory]
  taken {v} h := by
    obtain ⟨c, rfl⟩ := FieldKind.refusal?_eq_none_iff.1 h
    exact ⟨c, rfl⟩

theorem applies_checkId : Applies .id checkId where
  missing := rfl
  refused {v r} h := by
    cases v with
    | int n =>
        by_cases hn : 0 ≤ n <;>
          simp_all [FieldKind.refusal?, FieldKind.demands, checkId]
    | _ => simp_all [FieldKind.refusal?, FieldKind.demands, checkId]
  taken {v} h := by
    obtain ⟨n, rfl, hn⟩ := FieldKind.refusal?_eq_none_iff.1 h
    exact ⟨n, checkId_eq_ok_iff.2 ⟨rfl, hn⟩⟩

/-- The check of a text, by the text that a value stands for. -/
theorem checkText_some (v : Value) :
    checkText (some v) =
      match v.textual? with
      | none => .error .notText
      | some s =>
          if s = "" then .error .empty
          else if Text.allBlank s = true then .error .blank
          else .ok s := by
  cases v <;> rfl

theorem applies_checkText : Applies .text checkText where
  missing := rfl
  refused {v r} h := by
    rw [checkText_some]
    rcases ht : v.textual? with _ | s
    · rw [FieldKind.refusal?_text_of_none ht] at h
      obtain rfl := Option.some.inj h
      rfl
    · rw [FieldKind.refusal?_text ht] at h
      by_cases hempty : s = ""
      · simp_all
      · cases hblank : Text.allBlank s <;> simp_all
  taken {v} h := by
    obtain ⟨s, ht, -⟩ := FieldKind.refusal?_eq_none_iff.1 h
    rw [FieldKind.refusal?_text ht] at h
    rw [checkText_some, ht]
    by_cases hempty : s = ""
    · simp [hempty] at h
    · cases hblank : Text.allBlank s
      · simp [hempty, hblank]
      · simp [hempty, hblank] at h

variable {α : Type} {k : FieldKind} {test : Option Value → Except Reason α}

/-- A checked field is refused with its complaint, and taken if it has none. -/
theorem check_cases (h : Applies k test) (field : String) (arguments : Fields) :
    (∃ r, DeclaredField.complaint? arguments ⟨field, k⟩ = some r ∧
        check field test arguments = .error r) ∨
      DeclaredField.complaint? arguments ⟨field, k⟩ = none ∧
        ∃ x, check field test arguments = .ok x := by
  rw [check, DeclaredField.complaint?]
  rcases arguments.lookup field with _ | v
  · exact .inl ⟨_, rfl, by rw [h.missing]; rfl⟩
  · rcases hr : k.refusal? v with _ | r
    · obtain ⟨x, hx⟩ := h.taken hr
      exact .inr ⟨by simp [hr], x, by rw [hx]; rfl⟩
    · exact .inl ⟨⟨field, r⟩, by simp [hr], by rw [h.refused hr]; rfl⟩

end Request

/-- An answer to declared fields in their order: the first complaint, if there is one, and a result
otherwise. -/
def Answers {α : Type} (arguments : Fields) (declared : List DeclaredField)
    (x : Except Rejection α) : Prop :=
  match declared.findSome? (DeclaredField.complaint? arguments) with
  | none => ∃ a, x = .ok a
  | some first => x = .error first

namespace Answers

variable {α β : Type} {arguments : Fields} {declared rest : List DeclaredField}

/-- Nothing is wrong with no fields at all. -/
theorem nil (a : α) : Answers arguments [] (.ok a) :=
  ⟨a, rfl⟩

/-- The check of one field before the checks of those that are declared after it. -/
theorem check_bind {k : FieldKind} {test : Option Value → Except Reason α}
    {f : α → Except Rejection β} (h : Applies k test) (field : String)
    (hrest : ∀ a, Answers arguments rest (f a)) :
    Answers arguments (⟨field, k⟩ :: rest) (check field test arguments >>= f) := by
  rw [Answers, List.findSome?_cons]
  rcases check_cases h field arguments with ⟨r, hr, hx⟩ | ⟨hnone, a, ha⟩
  · rw [hr, hx]
    rfl
  · rw [hnone, ha]
    exact hrest a

theorem ok_iff {x : Except Rejection α} (h : Answers arguments declared x) :
    (∃ a, x = .ok a) ↔
      ∀ d ∈ declared, ∃ v, arguments.lookup d.name = some v ∧ d.kind.Takes v := by
  simp only [← DeclaredField.complaint?_eq_none_iff, ← List.findSome?_eq_none_iff]
  unfold Answers at h
  split at h
  next hnone => simpa [hnone] using h
  next first hfirst => simp [hfirst, h]

theorem error_iff {x : Except Rejection α} (h : Answers arguments declared x) {r : Rejection} :
    x = .error r ↔ declared.findSome? (DeclaredField.complaint? arguments) = some r := by
  unfold Answers at h
  split at h
  next hnone =>
    obtain ⟨a, rfl⟩ := h
    simp [hnone]
  next first hfirst => simp [hfirst, h]

end Answers

/-- What is wrong with the arguments for declared fields, in the order of the fields. -/
def complaints (declared : List DeclaredField) (arguments : Fields) : List Rejection :=
  declared.filterMap (DeclaredField.complaint? arguments)

theorem complaints_nil (arguments : Fields) : complaints [] arguments = [] := rfl

theorem complaints_cons (d : DeclaredField) (rest : List DeclaredField) (arguments : Fields) :
    complaints (d :: rest) arguments =
      (d.complaint? arguments).toList ++ complaints rest arguments := by
  rw [complaints, List.filterMap_cons]
  cases d.complaint? arguments <;> rfl

theorem rejected_check {α : Type} {k : FieldKind} {test : Option Value → Except Reason α}
    (h : Applies k test) (field : String) (arguments : Fields) :
    rejected (check field test arguments) =
      (DeclaredField.complaint? arguments ⟨field, k⟩).toList := by
  rcases check_cases h field arguments with ⟨r, hr, hx⟩ | ⟨hnone, a, ha⟩
  · rw [hr, hx]
    rfl
  · rw [hnone, ha]
    rfl

/-- A value is taken over as it is; a category that is given as a text becomes its text, which it
equals. -/
def Value.TakenOverAs (v w : Value) : Prop :=
  v.equals w = true ∧ (w = v ∨ ∃ c : Category, v = .category c ∧ w = .text c.text)

namespace Request

variable {o : Option Value}

theorem takenOver_of_checkCategory {c : Category} (h : checkCategory o = .ok c) :
    ∃ v, o = some v ∧ v.TakenOverAs (.category c) := by
  rcases o with _ | v
  · cases h
  · obtain rfl := checkCategory_eq_ok_iff.1 h
    exact ⟨_, rfl, beq_self_eq_true c.text, .inl rfl⟩

theorem takenOver_of_checkId {n : Int} (h : checkId o = .ok n) :
    ∃ v, o = some v ∧ v.TakenOverAs (.int n) := by
  rcases o with _ | v
  · cases h
  · obtain ⟨rfl, -⟩ := checkId_eq_ok_iff.1 h
    exact ⟨_, rfl, beq_self_eq_true n, .inl rfl⟩

theorem takenOver_of_checkText {s : String} (h : checkText o = .ok s) :
    ∃ v, o = some v ∧ v.TakenOverAs (.text s) := by
  rcases o with _ | v
  · cases h
  · obtain ⟨rfl | ⟨c, rfl, rfl⟩, -⟩ := checkText_eq_ok_iff.1 h
    · exact ⟨_, rfl, beq_self_eq_true s, .inl rfl⟩
    · exact ⟨_, rfl, beq_self_eq_true c.text, .inr ⟨c, rfl, rfl⟩⟩

end Request

/-- What it means that arguments ask for a request as its fields are declared.  `shown` gives the
fields of a request that is there. -/
structure Parses {ρ : Type} (declared : List DeclaredField) (shown : ρ → Fields)
    (parse : Fields → Except Failure ρ) : Prop where
  /-- A request is there exactly if every declared field is given with a value that it takes. -/
  accepts : ∀ arguments, arguments.lookup "model" = none →
    ((∃ r, parse arguments = .ok r) ↔
      ∀ d ∈ declared, ∃ v, arguments.lookup d.name = some v ∧ d.kind.Takes v)
  /-- Its fields are the given values. -/
  keeps : ∀ arguments r, parse arguments = .ok r → ∀ d ∈ declared,
    ∃ v w, arguments.lookup d.name = some v ∧ (shown r).lookup d.name = some w ∧ v.TakenOverAs w
  /-- Otherwise the field that complains first is named, with the reason of its complaint; all
  complaints stand behind it. -/
  refuses : ∀ arguments, arguments.lookup "model" = none → ∀ e, parse arguments = .error e ↔
    ∃ first, declared.findSome? (DeclaredField.complaint? arguments) = some first ∧
      e = .raisedFrom
        (.service (.invalidArgument (.text ("Invalid " ++ first.field ++ ": " ++ first.words))
          (.text first.field)))
        (.plain (.validation ((complaints declared arguments).map Rejection.fieldError)))
  /-- No argument can have the name under which the kind of request is given. -/
  taken : ∀ arguments v, arguments.lookup "model" = some v →
    parse arguments = .error (.foreign (.repeatedArgument "parse_request" "model"))

/-- The checks of declared fields, with the names of the arguments looked at before, parse what is
declared. -/
theorem Parses.of_answers {ρ : Type} {declared : List DeclaredField} {shown : ρ → Fields}
    {checked : Fields → Except Rejection ρ} {parse : Fields → Except Failure ρ}
    (hparse : ∀ arguments, parse arguments = (do
      demandNames arguments
      (checked arguments).mapError (·.failure (complaints declared arguments))))
    (hanswers : ∀ arguments, Answers arguments declared (checked arguments))
    (hkept : ∀ arguments r, checked arguments = .ok r → ∀ d ∈ declared,
      ∃ v w, arguments.lookup d.name = some v ∧ (shown r).lookup d.name = some w ∧
        v.TakenOverAs w) :
    Parses declared shown parse := by
  have hfree {arguments : Fields} (h : arguments.lookup "model" = none) :
      parse arguments =
        (checked arguments).mapError (·.failure (complaints declared arguments)) := by
    rw [hparse, demandNames, h]
    rfl
  have hnamed {arguments : Fields} {v : Value} (h : arguments.lookup "model" = some v) :
      parse arguments = .error (.foreign (.repeatedArgument "parse_request" "model")) := by
    rw [hparse, demandNames, h]
    rfl
  constructor
  case accepts =>
    intro arguments h
    simp only [hfree h, mapError_eq_ok_iff]
    exact (hanswers arguments).ok_iff
  case keeps =>
    intro arguments r h
    rcases hmodel : arguments.lookup "model" with _ | v
    · rw [hfree hmodel, mapError_eq_ok_iff] at h
      exact hkept arguments r h
    · rw [hnamed hmodel] at h
      cases h
  case refuses =>
    intro arguments h e
    simp only [hfree h, mapError_eq_error_iff, (hanswers arguments).error_iff]
    rfl
  case taken => exact fun _ _ => hnamed

/-- The fields of a request to upload. -/
def UploadRequest.declared : List DeclaredField :=
  [⟨"category", .category⟩, ⟨"project_id", .id⟩, ⟨"user_id", .id⟩, ⟨"filename", .text⟩]

/-- The fields of a request for another status. -/
def StatusRequest.declared : List DeclaredField :=
  [⟨"submission_id", .id⟩, ⟨"status_id", .id⟩, ⟨"operator", .text⟩]

theorem UploadRequest.rejections_eq (arguments : Fields) :
    rejections arguments = complaints declared arguments := by
  simp only [rejections, rejected_check applies_checkCategory, rejected_check applies_checkId,
    rejected_check applies_checkText, declared, complaints_cons, complaints_nil,
    List.append_assoc, List.append_nil]

theorem StatusRequest.rejections_eq (arguments : Fields) :
    rejections arguments = complaints declared arguments := by
  simp only [rejections, rejected_check applies_checkId, rejected_check applies_checkText,
    declared, complaints_cons, complaints_nil, List.append_assoc, List.append_nil]

theorem UploadRequest.answers_checked (arguments : Fields) :
    Answers arguments declared (checked arguments) :=
  .check_bind applies_checkCategory "category" fun _ =>
    .check_bind applies_checkId "project_id" fun _ =>
      .check_bind applies_checkId "user_id" fun _ =>
        .check_bind applies_checkText "filename" fun _ => .nil _

theorem StatusRequest.answers_checked (arguments : Fields) :
    Answers arguments declared (checked arguments) :=
  .check_bind applies_checkId "submission_id" fun _ =>
    .check_bind applies_checkId "status_id" fun _ =>
      .check_bind applies_checkText "operator" fun _ => .nil _

theorem UploadRequest.takenOver_of_checked {arguments : Fields} {r : UploadRequest}
    (h : checked arguments = .ok r) {d : DeclaredField} (hd : d ∈ declared) :
    ∃ v w, arguments.lookup d.name = some v ∧ r.fields.lookup d.name = some w ∧
      v.TakenOverAs w := by
  simp only [checked, bind_eq_ok_iff, check_eq_ok_iff] at h
  obtain ⟨c, hcategory, p, hproject, u, huser, f, hfilename, hr⟩ := h
  obtain rfl := Except.ok.inj hr
  simp only [declared, List.mem_cons, List.not_mem_nil, or_false] at hd
  rcases hd with rfl | rfl | rfl | rfl
  · obtain ⟨v, hv, htaken⟩ := takenOver_of_checkCategory hcategory
    exact ⟨v, _, hv, rfl, htaken⟩
  · obtain ⟨v, hv, htaken⟩ := takenOver_of_checkId hproject
    exact ⟨v, _, hv, rfl, htaken⟩
  · obtain ⟨v, hv, htaken⟩ := takenOver_of_checkId huser
    exact ⟨v, _, hv, rfl, htaken⟩
  · obtain ⟨v, hv, htaken⟩ := takenOver_of_checkText hfilename
    exact ⟨v, _, hv, rfl, htaken⟩

theorem StatusRequest.takenOver_of_checked {arguments : Fields} {r : StatusRequest}
    (h : checked arguments = .ok r) {d : DeclaredField} (hd : d ∈ declared) :
    ∃ v w, arguments.lookup d.name = some v ∧ r.fields.lookup d.name = some w ∧
      v.TakenOverAs w := by
  simp only [checked, bind_eq_ok_iff, check_eq_ok_iff] at h
  obtain ⟨n, hsubmission, l, hstatus, o, hoperator, hr⟩ := h
  obtain rfl := Except.ok.inj hr
  simp only [declared, List.mem_cons, List.not_mem_nil, or_false] at hd
  rcases hd with rfl | rfl | rfl
  · obtain ⟨v, hv, htaken⟩ := takenOver_of_checkId hsubmission
    exact ⟨v, _, hv, rfl, htaken⟩
  · obtain ⟨v, hv, htaken⟩ := takenOver_of_checkId hstatus
    exact ⟨v, _, hv, rfl, htaken⟩
  · obtain ⟨v, hv, htaken⟩ := takenOver_of_checkText hoperator
    exact ⟨v, _, hv, rfl, htaken⟩

/-- **Requests are there for exactly the arguments that their declared fields take.**  Each field is
taken over as it was given; otherwise the first field that complains is named, with the first demand
that its value does not meet. -/
theorem requests_parse_as_declared :
    Parses UploadRequest.declared UploadRequest.fields UploadRequest.ofArguments ∧
      Parses StatusRequest.declared StatusRequest.fields StatusRequest.ofArguments := by
  constructor
  · refine .of_answers (fun arguments => ?_) UploadRequest.answers_checked
      fun _ _ h _ => UploadRequest.takenOver_of_checked h
    rw [UploadRequest.ofArguments, UploadRequest.ofFields, UploadRequest.rejections_eq]
  · refine .of_answers (fun arguments => ?_) StatusRequest.answers_checked
      fun _ _ h _ => StatusRequest.takenOver_of_checked h
    rw [StatusRequest.ofArguments, StatusRequest.ofFields, StatusRequest.rejections_eq]

/-- Arguments that every declared field takes, with one more that is called `model`, make no
request. -/
theorem model_argument_refused :
    (∀ d ∈ StatusRequest.declared,
      ∃ v, List.lookup d.name [("submission_id", .int 1), ("status_id", .int 1),
        ("operator", .text "op"), ("model", .text "x")] = some v ∧ d.kind.Takes v) ∧
      StatusRequest.ofArguments [("submission_id", .int 1), ("status_id", .int 1),
          ("operator", .text "op"), ("model", .text "x")] =
        .error (.foreign (.repeatedArgument "parse_request" "model")) := by
  refine ⟨fun d hd => ?_, rfl⟩
  simp only [StatusRequest.declared, List.mem_cons, List.not_mem_nil, or_false] at hd
  rcases hd with rfl | rfl | rfl
  · exact ⟨_, rfl, 1, rfl, by decide⟩
  · exact ⟨_, rfl, 1, rfl, by decide⟩
  · exact ⟨_, rfl, "op", rfl, 'o', by decide, by decide⟩

end ContestUploads
