/-!
# Several texts as one

A listing has a comma and a blank between its items.  It may stand in square brackets, or in round
ones after the name of what its items are parts of.  In a sentence, "and" comes before the last
item.
-/

namespace ContestUploads.Text

/-- Items with a comma between them. -/
def listed (items : List String) : String :=
  ", ".intercalate items

/-- A listing in square brackets. -/
def bracketed (items : List String) : String :=
  "[" ++ listed items ++ "]"

/-- Something named, with its parts. -/
def composed (name : String) (parts : List String) : String :=
  name ++ "(" ++ listed parts ++ ")"

/-- Items as a sentence enumerates them. -/
def enumerated (items : List String) : String :=
  match items with
  | [first, second] => first ++ " and " ++ second
  | first :: second :: third :: rest =>
      listed ((first :: second :: third :: rest).dropLast) ++ ", and " ++ (third :: rest).getLastD ""
  | items => listed items

example : composed "Pair" ["1", bracketed ["2", "3"]] = "Pair(1, [2, 3])" := by decide +kernel

example : enumerated ["a", "b", "c"] = "a, b, and c" := by decide +kernel

end ContestUploads.Text
