/-!
# Categories of uploads and their rules

Each category has a rule that says which phases gate the upload, which roles may upload, and
what is recorded and retired.  The default catalogs of names stand at the end.
-/

namespace ContestUploads

/-- The kinds of artifact a participant can upload. -/
inductive Category
  | submission
  | finalFix
  | testCases
  deriving DecidableEq, Repr, Inhabited

namespace Category

/-- All categories, in the order in which rules are listed. -/
def all : List Category := [.submission, .finalFix, .testCases]

/-- The text of a category. -/
def text : Category → String
  | .submission => "submission"
  | .finalFix => "final_fix"
  | .testCases => "test_cases"

/-- The name of the member that stands for a category. -/
def memberName : Category → String
  | .submission => "SUBMISSION"
  | .finalFix => "FINAL_FIX"
  | .testCases => "TEST_CASES"

/-- The category with a text. -/
def ofText? (s : String) : Option Category :=
  all.find? (·.text == s)

theorem ofText?_text (c : Category) : ofText? c.text = some c := by
  cases c <;> decide

end Category

/-- How one category is gated, authorised, recorded and retired. -/
structure Rule where
  /-- Phase types that gate the upload; the first phase of such a type decides. -/
  phaseNames : List String
  /-- Resource roles that may upload. -/
  roleNames : List String
  /-- The upload type put on the upload. -/
  uploadTypeName : String
  /-- Whether a submission is created, linked to the resource and sent to screening. -/
  createsSubmission : Bool := false
  /-- Whether only the winner of the project may upload. -/
  requiresWinner : Bool := false
  /-- Whether earlier submissions are retired even where the project allows several. -/
  alwaysRetire : Bool := true
  deriving DecidableEq, Repr

/-- The rule of a category. -/
def Category.rule : Category → Rule
  | .submission =>
      { phaseNames := ["Submission", "Screening"]
        roleNames := ["Submitter"]
        uploadTypeName := "Submission"
        createsSubmission := true
        alwaysRetire := false }
  | .finalFix =>
      { phaseNames := ["Final Fix"]
        roleNames := ["Submitter"]
        uploadTypeName := "Final Fix"
        requiresWinner := true }
  | .testCases =>
      { phaseNames := ["Review"]
        roleNames := ["Accuracy Reviewer", "Failure Reviewer", "Stress Reviewer"]
        uploadTypeName := "Review" }

namespace Defaults

/-- The submission statuses of a fresh catalog. -/
def submissionStatuses : List String :=
  ["Active", "Failed Screening", "Failed Review", "Completed Without Win", "Deleted"]

/-- The upload statuses of a fresh catalog. -/
def uploadStatuses : List String :=
  ["Active", "Deleted"]

/-- The upload types of a fresh catalog. -/
def uploadTypes : List String :=
  ["Submission", "Test Case", "Final Fix", "Review"]

/-- The resource roles of a fresh directory. -/
def resourceRoles : List String :=
  ["Submitter", "Primary Screener", "Screener", "Reviewer", "Accuracy Reviewer",
   "Failure Reviewer", "Stress Reviewer", "Aggregator", "Final Reviewer", "Approver", "Designer",
   "Observer", "Manager"]

end Defaults

end ContestUploads
