import ContestUploads.Request

/-!
# Which arguments make a request

Each check of a field passes for exactly the values of its kind, and hands them on as they are; so
a request is there exactly if all its arguments are of their kinds (`ofFields_eq_ok_iff`).  What is
refused is refused as an invalid argument, whichever field it was (`problem_of_ofFields_eq_error`).

The operator that a retirement runs under is the number of a user, written out.  It is no blank
text (`allBlank_toString`), so a retirement is never refused for its operator.
-/

namespace ContestUploads

namespace Text

/-- A digit is not blank. -/
theorem isBlank_eq_false_of_isDigit {c : Char} (h : c.isDigit = true) : isBlank c = false := by
  obtain ⟨hlow, hhigh⟩ := Char.isDigit_iff_toNat.1 h
  rw [show '0'.toNat = 48 from rfl] at hlow
  rw [show '9'.toNat = 57 from rfl] at hhigh
  simp only [isBlank, Bool.or_eq_false_iff, Bool.and_eq_false_iff, decide_eq_false_iff_not,
    beq_eq_false_iff_ne]
  omega

theorem allBlank_repr (n : Nat) : allBlank n.repr = false := by
  obtain ⟨c, hc⟩ := List.exists_mem_of_ne_nil _ (Nat.toDigits_ne_nil (n := n) (b := 10))
  have hdigit : c.isDigit = true := Nat.isDigit_of_mem_toDigits (by decide) (by decide) hc
  rw [allBlank, Nat.toList_repr, List.all_eq_false]
  exact ⟨c, hc, by simp [isBlank_eq_false_of_isDigit hdigit]⟩

/-- A number that is written out is not blank. -/
theorem allBlank_toString (n : Int) : allBlank (toString n) = false := by
  cases n with
  | ofNat m => exact allBlank_repr m
  | negSucc m =>
      show allBlank ("-" ++ (m + 1).repr) = false
      rw [allBlank, String.toList_append, List.all_append]
      exact Bool.and_eq_false_imp.2 fun _ => allBlank_repr (m + 1)

end Text

section Except

variable {ε ε' α β : Type}

/-- Naming what went wrong in another way does not make it succeed. -/
theorem mapError_eq_ok_iff {x : Except ε α} {f : ε → ε'} {a : α} :
    x.mapError f = .ok a ↔ x = .ok a := by
  cases x with
  | error e => exact ⟨nofun, nofun⟩
  | ok b => exact ⟨fun h => congrArg _ (Except.ok.inj h), fun h => congrArg _ (Except.ok.inj h)⟩

/-- Two steps succeed exactly if each does. -/
theorem bind_eq_ok_iff {x : Except ε α} {f : α → Except ε β} {b : β} :
    (x >>= f) = .ok b ↔ ∃ a, x = .ok a ∧ f a = .ok b := by
  cases x <;> simp [Bind.bind, Except.bind]

/-- Two steps fail if the first does, or the second after it. -/
theorem bind_eq_error_iff {x : Except ε α} {f : α → Except ε β} {e : ε} :
    (x >>= f) = .error e ↔ x = .error e ∨ ∃ a, x = .ok a ∧ f a = .error e := by
  cases x <;> simp [Bind.bind, Except.bind]

end Except

namespace Request

theorem checkCategory_eq_ok_iff {v : Value} {c : Category} :
    checkCategory (some v) = .ok c ↔ v = .category c := by
  cases v <;> simp [checkCategory]

theorem checkId_eq_ok_iff {v : Value} {n : Int} :
    checkId (some v) = .ok n ↔ v = .int n ∧ 0 ≤ n := by
  cases v with
  | int m =>
      by_cases h : 0 ≤ m
      · simp only [checkId, h, if_true, Except.ok.injEq, Value.int.injEq]
        exact ⟨fun e => ⟨e, e ▸ h⟩, fun e => e.1⟩
      · simp only [checkId, h, if_false, reduceCtorEq, Value.int.injEq, false_iff, not_and]
        exact fun e hn => h (e ▸ hn)
  | _ => simp [checkId]

/-- A text is handed on, and so is the text of a category, unless it is blank. -/
theorem checkText_eq_ok_iff {v : Value} {s : String} :
    checkText (some v) = .ok s ↔
      (v = .text s ∨ ∃ c : Category, v = .category c ∧ c.text = s) ∧ Text.allBlank s = false := by
  have hkept (t : String) :
      ((if t = "" then Except.error Reason.empty
        else if Text.allBlank t = true then .error .blank else .ok t) = .ok s) ↔
        t = s ∧ Text.allBlank s = false := by
    by_cases hempty : t = ""
    · subst hempty
      simp only [if_true, reduceCtorEq, false_iff, not_and]
      rintro rfl
      decide
    · by_cases hblank : Text.allBlank t = true
      · simp only [hempty, hblank, if_false, if_true, reduceCtorEq, false_iff, not_and]
        rintro rfl
        simp [hblank]
      · rw [if_neg hempty, if_neg hblank, Except.ok.injEq]
        constructor
        · rintro rfl
          exact ⟨rfl, by simpa using hblank⟩
        · exact fun e => e.1
  cases v with
  | text t => simpa [checkText] using hkept t
  | category c => simpa [checkText] using hkept c.text
  | _ => simp [checkText]

theorem check_eq_ok_iff {α : Type} {field : String} {test : Option Value → Except Reason α}
    {fields : Fields} {a : α} :
    check field test fields = .ok a ↔ test (fields.lookup field) = .ok a :=
  mapError_eq_ok_iff

end Request

namespace Rejection

theorem problem_failure (first : Rejection) (rejections : List Rejection) :
    (first.failure rejections).problem =
      .service (.invalidArgument (.text ("Invalid " ++ first.field ++ ": " ++ first.words))
        (.text first.field)) := rfl

end Rejection

open Request

namespace UploadRequest

variable {category projectId userId filename : Value}

/-- The arguments that make a request, and which request they make. -/
theorem ofFields_eq_ok_iff {r : UploadRequest} :
    ofFields [("category", category), ("project_id", projectId), ("user_id", userId),
        ("filename", filename)] = .ok r ↔
      category = .category r.category ∧
        (projectId = .int r.projectId ∧ 0 ≤ r.projectId) ∧
        (userId = .int r.userId ∧ 0 ≤ r.userId) ∧
        (filename = .text r.filename ∨ ∃ c : Category, filename = .category c ∧
          c.text = r.filename) ∧ Text.allBlank r.filename = false := by
  obtain ⟨c, p, u, f⟩ := r
  simp only [ofFields, checked, mapError_eq_ok_iff, bind_eq_ok_iff, check_eq_ok_iff,
    List.lookup_cons, String.reduceBEq, checkCategory_eq_ok_iff, checkId_eq_ok_iff,
    checkText_eq_ok_iff, Pure.pure, Except.pure, Except.ok.injEq, UploadRequest.mk.injEq]
  constructor
  · rintro ⟨_, hcategory, _, hproject, _, huser, _, hfilename, rfl, rfl, rfl, rfl⟩
    exact ⟨hcategory, hproject, huser, hfilename⟩
  · rintro ⟨hcategory, hproject, huser, hfilename⟩
    exact ⟨c, hcategory, p, hproject, u, huser, f, hfilename, rfl, rfl, rfl, rfl⟩

/-- Arguments that make no request are refused as an invalid argument. -/
theorem problem_of_ofFields_eq_error {fields : Fields} {e : Failure}
    (h : ofFields fields = .error e) :
    ∃ words field, e.problem = .service (.invalidArgument words field) := by
  unfold ofFields at h
  rcases hchecked : checked fields with first | r
  · rw [hchecked] at h
    obtain rfl := Except.error.inj h
    exact ⟨_, _, first.problem_failure _⟩
  · rw [hchecked] at h
    cases h

end UploadRequest

namespace StatusRequest

variable {submissionId statusId operator : Value}

/-- The arguments that make a request for another status, and which request they make. -/
theorem ofFields_eq_ok_iff {r : StatusRequest} :
    ofFields [("submission_id", submissionId), ("status_id", statusId), ("operator", operator)] =
        .ok r ↔
      (submissionId = .int r.submissionId ∧ 0 ≤ r.submissionId) ∧
        (statusId = .int r.statusId ∧ 0 ≤ r.statusId) ∧
        (operator = .text r.operator ∨ ∃ c : Category, operator = .category c ∧
          c.text = r.operator) ∧ Text.allBlank r.operator = false := by
  obtain ⟨n, l, o⟩ := r
  simp only [ofFields, checked, mapError_eq_ok_iff, bind_eq_ok_iff, check_eq_ok_iff,
    List.lookup_cons, String.reduceBEq, checkId_eq_ok_iff, checkText_eq_ok_iff, Pure.pure,
    Except.pure, Except.ok.injEq, StatusRequest.mk.injEq]
  constructor
  · rintro ⟨_, hsubmission, _, hstatus, _, hoperator, rfl, rfl, rfl⟩
    exact ⟨hsubmission, hstatus, hoperator⟩
  · rintro ⟨hsubmission, hstatus, hoperator⟩
    exact ⟨n, hsubmission, l, hstatus, o, hoperator, rfl, rfl, rfl⟩

/-- Arguments that make no request are refused as an invalid argument. -/
theorem problem_of_ofFields_eq_error {fields : Fields} {e : Failure}
    (h : ofFields fields = .error e) :
    ∃ words field, e.problem = .service (.invalidArgument words field) := by
  unfold ofFields at h
  rcases hchecked : checked fields with first | r
  · rw [hchecked] at h
    obtain rfl := Except.error.inj h
    exact ⟨_, _, first.problem_failure _⟩
  · rw [hchecked] at h
    cases h

/-- The arguments with which a submission is retired make a request if both ids are not
negative. -/
theorem ofFields_of_ints {submissionId statusId : Int} (hsubmission : 0 ≤ submissionId)
    (hstatus : 0 ≤ statusId) (n : Int) :
    ofFields [("submission_id", .int submissionId), ("status_id", .int statusId),
        ("operator", .text (toString n))] = .ok ⟨submissionId, statusId, toString n⟩ :=
  ofFields_eq_ok_iff.2
    ⟨⟨rfl, hsubmission⟩, ⟨rfl, hstatus⟩, .inl rfl, Text.allBlank_toString n⟩

end StatusRequest

end ContestUploads
