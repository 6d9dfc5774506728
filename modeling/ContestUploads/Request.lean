import ContestUploads.Record.Access
import ContestUploads.Text.Blank

/-!
# Requests and the checks on their fields

A request arrives as named values of any kind.  Each field has one check, and the checks run in
the order in which the fields are declared; values are taken over as they are, nothing is
converted or trimmed.  A refused request names its first bad field and the reason.

* `Reason`: why a field is refused, with its words;
* `checkCategory`, `checkId`, `checkText`: the checks;
* `UploadRequest.ofFields`, `StatusRequest.ofFields`: the requests.
-/

namespace ContestUploads

/-- Why a field of a request is refused. -/
inductive Reason
  | missing
  | notCategory
  | notInteger
  | negative
  | notText
  | empty
  | blank
  deriving DecidableEq, Repr

/-- A field of a request with the reason why it is refused. -/
structure Rejection where
  field : String
  reason : Reason
  deriving DecidableEq, Repr

namespace Rejection

/-- The words of a refusal, without the name of the field. -/
def words (r : Rejection) : String :=
  match r.reason with
  | .missing => "Field required"
  | .notCategory => "Input should be an instance of SubmissionCategory"
  | .notInteger => "Input should be a valid integer"
  | .negative => "Input should be greater than or equal to 0"
  | .notText => "Input should be a valid string"
  | .empty => "String should have at least 1 character"
  | .blank => "Value error, " ++ r.field ++ " must not be blank"

/-- The code of a reason. -/
def code (r : Rejection) : String :=
  match r.reason with
  | .missing => "missing"
  | .notCategory => "is_instance_of"
  | .notInteger => "int_type"
  | .negative => "greater_than_equal"
  | .notText => "string_type"
  | .empty => "string_too_short"
  | .blank => "value_error"

/-- The rejected field as part of a validation problem. -/
def fieldError (r : Rejection) : FieldError :=
  ⟨r.field, r.code, r.words⟩

/-- What callers see of a refused request: its first bad field.  All rejections stand behind
it. -/
def failure (first : Rejection) (rejections : List Rejection) : Failure :=
  .raisedFrom
    (.service (.invalidArgument (.text ("Invalid " ++ first.field ++ ": " ++ first.words))
      (.text first.field)))
    (.plain (.validation (rejections.map fieldError)))

end Rejection

namespace Request

/-- A category must be given as a category; its text is not enough. -/
def checkCategory : Option Value → Except Reason Category
  | none => .error .missing
  | some (.category c) => .ok c
  | some _ => .error .notCategory

/-- An id must be an integer that is not negative; booleans are no integers. -/
def checkId : Option Value → Except Reason Int
  | none => .error .missing
  | some (.int n) => if 0 ≤ n then .ok n else .error .negative
  | some _ => .error .notInteger

/-- A text must hold a character that is not blank; a category counts as its text. -/
def checkText : Option Value → Except Reason String
  | none => .error .missing
  | some v =>
      let text :=
        match v with
        | .text s => some s
        | .category c => some c.text
        | _ => none
      match text with
      | none => .error .notText
      | some s =>
          if s = "" then .error .empty
          else if Text.allBlank s then .error .blank
          else .ok s

/-- Apply the check of a field. -/
def check {α : Type} (field : String) (test : Option Value → Except Reason α) (fields : Fields) :
    Except Rejection α :=
  (test (fields.lookup field)).mapError (⟨field, ·⟩)

/-- Refuse arguments of which one has the name under which the kind of request itself is given. -/
def demandNames (arguments : Fields) : Except Failure Unit :=
  if (arguments.lookup "model").isSome then
    .error (.foreign (.repeatedArgument "parse_request" "model"))
  else .ok ()

/-- The rejection of a checked field, if there is one. -/
def rejected {α : Type} : Except Rejection α → List Rejection
  | .ok _ => []
  | .error r => [r]

end Request

open Request

/-- A request to upload. -/
structure UploadRequest where
  category : Category
  projectId : Int
  userId : Int
  filename : String
  deriving DecidableEq, Repr

namespace UploadRequest

/-- The user as the operator of what the request writes. -/
def operator (r : UploadRequest) : String :=
  toString r.userId

/-- The fields of a request, with its operator. -/
def fields (r : UploadRequest) : Fields :=
  [("category", .category r.category), ("project_id", .int r.projectId),
   ("user_id", .int r.userId), ("filename", .text r.filename), ("operator", .text r.operator)]

/-- Check the fields in the order of their declaration; the first bad one is the answer. -/
def checked (fields : Fields) : Except Rejection UploadRequest := do
  let category ← check "category" checkCategory fields
  let projectId ← check "project_id" checkId fields
  let userId ← check "user_id" checkId fields
  let filename ← check "filename" checkText fields
  return { category, projectId, userId, filename }

/-- All rejections. -/
def rejections (fields : Fields) : List Rejection :=
  rejected (check "category" checkCategory fields) ++
    rejected (check "project_id" checkId fields) ++
    rejected (check "user_id" checkId fields) ++
    rejected (check "filename" checkText fields)

/-- The request with the given fields; fields of other names are ignored. -/
def ofFields (fields : Fields) : Except Failure UploadRequest :=
  (checked fields).mapError (·.failure (rejections fields))

/-- The request that arguments by name ask for. -/
def ofArguments (arguments : Fields) : Except Failure UploadRequest := do
  demandNames arguments
  ofFields arguments

end UploadRequest

/-- A request to move a submission to another status. -/
structure StatusRequest where
  submissionId : Int
  statusId : Int
  operator : String
  deriving DecidableEq, Repr

namespace StatusRequest

/-- The fields of a request. -/
def fields (r : StatusRequest) : Fields :=
  [("submission_id", .int r.submissionId), ("status_id", .int r.statusId),
   ("operator", .text r.operator)]

/-- Check the fields in the order of their declaration; the first bad one is the answer. -/
def checked (fields : Fields) : Except Rejection StatusRequest := do
  let submissionId ← check "submission_id" checkId fields
  let statusId ← check "status_id" checkId fields
  let operator ← check "operator" checkText fields
  return { submissionId, statusId, operator }

/-- All rejections. -/
def rejections (fields : Fields) : List Rejection :=
  rejected (check "submission_id" checkId fields) ++
    rejected (check "status_id" checkId fields) ++
    rejected (check "operator" checkText fields)

/-- The request with the given fields; fields of other names are ignored. -/
def ofFields (fields : Fields) : Except Failure StatusRequest :=
  (checked fields).mapError (·.failure (rejections fields))

/-- The request that arguments by name ask for. -/
def ofArguments (arguments : Fields) : Except Failure StatusRequest := do
  demandNames arguments
  ofFields arguments

end StatusRequest

/-- The refusal of a change to a request, which is fixed once it is built. -/
def Request.changeRefused (field : String) : Failure :=
  .plain (.validation [⟨field, "frozen_instance", "Instance is frozen"⟩])

/-- Give an attribute of a request another value.  Names that begin with an underscore stand for no
fields and are free, unless every object keeps them for itself. -/
def Request.assign (kind : String) (name v : Value) : Except Failure Unit :=
  match name.textual? with
  | none => .error (.foreign (.misnamed name))
  | some s =>
      match s.toList.head?, Value.ownName? kind s v with
      | some '_', some obstacle => .error (.foreign obstacle)
      | some '_', none => .ok ()
      | _, _ => .error (changeRefused s)

/-- The word for requests to upload. -/
def UploadRequest.kind : String := "UploadRequest"

/-- The word for requests to change a status. -/
def StatusRequest.kind : String := "StatusChangeRequest"

end ContestUploads
