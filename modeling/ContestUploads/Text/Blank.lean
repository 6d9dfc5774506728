/-!
# Blank characters

A text is *blank* when nothing is left of it after trimming.  The blank characters are the
horizontal spaces and line separators of Unicode together with the four information
separators U+001C to U+001F.  Zero-width characters (U+200B, U+FEFF) and U+180E are not blank.

* `isBlank_of_isWhitespace`: every character that core calls whitespace is blank;
* `trim_eq_nil_iff`: trimming leaves nothing exactly when every character is blank.
-/

namespace ContestUploads.Text

/-- The characters removed at both ends of a text by `trim`. -/
def isBlank (c : Char) : Bool :=
  let n := c.toNat
  (9 ≤ n && n ≤ 13) || (28 ≤ n && n ≤ 32) || n == 0x85 || n == 0xA0 || n == 0x1680 ||
    (0x2000 ≤ n && n ≤ 0x200A) || n == 0x2028 || n == 0x2029 || n == 0x202F || n == 0x205F ||
    n == 0x3000

/-- Drop the blank characters at both ends. -/
def trim (cs : List Char) : List Char :=
  ((cs.dropWhile isBlank).reverse.dropWhile isBlank).reverse

/-- A text without its leading and trailing blank characters. -/
def trimmed (s : String) : String :=
  String.ofList (trim s.toList)

/-- Whether a text consists of blank characters only; the empty text does. -/
def allBlank (s : String) : Bool :=
  s.toList.all isBlank

theorem isBlank_of_isWhitespace {c : Char} (h : c.isWhitespace = true) : isBlank c = true := by
  simp only [Char.isWhitespace, Bool.or_eq_true, decide_eq_true_eq] at h
  rcases h with ((rfl | rfl) | rfl) | rfl <;> decide

theorem trim_eq_nil_iff {cs : List Char} : trim cs = [] ↔ cs.all isBlank = true := by
  induction cs with
  | nil => simp [trim]
  | cons c rest ih =>
      cases hc : isBlank c with
      | true =>
          have step : trim (c :: rest) = trim rest := by simp [trim, hc]
          rw [step, ih]
          simp [hc]
      | false =>
          have kept : (rest.reverse ++ [c]).dropWhile isBlank ≠ [] := by
            rw [List.dropWhile_append]
            split <;> simp_all
          simp [trim, hc, kept]

end ContestUploads.Text
