/-!
# Line breaks

The characters that end a line: line feed, carriage return, line and form feed, the separators of
files, groups and records, the next-line control, and the line and paragraph separators of
Unicode.  A carriage return and the line feed after it end one line together.

* `breaks_append_of_visible`: a character that ends no line keeps what is before it apart from
  what is after it.
-/

namespace ContestUploads.Text

/-- Whether a character ends a line. -/
def isBreak (c : Char) : Bool :=
  let n := c.toNat
  (10 ≤ n && n ≤ 13) || (28 ≤ n && n ≤ 30) || n == 0x85 || n == 0x2028 || n == 0x2029

/-- How many lines end within a text. -/
def breaks : List Char → Nat
  | '\r' :: '\n' :: rest => breaks rest + 1
  | c :: rest => breaks rest + (if isBreak c then 1 else 0)
  | [] => 0

theorem breaks_append_of_visible {c : Char} (h : isBreak c = false) (before after : List Char) :
    breaks (before ++ c :: after) = breaks before + breaks after := by
  have feed : c ≠ '\n' := by
    rintro rfl
    exact absurd h (by decide)
  fun_induction breaks before with
  | case1 rest ih =>
      simp only [List.cons_append, breaks, ih]
      omega
  | case2 d rest other ih =>
      cases rest with
      | nil =>
          have step : breaks ([d] ++ c :: after) = breaks (c :: after) + if isBreak d then 1 else 0 := by
            rw [List.singleton_append, breaks]
            rintro tail rfl same
            exact feed (List.cons.inj same).1
          have last : breaks (c :: after) = breaks after := by
            rw [breaks]
            · simp [h]
            · rintro tail rfl
              exact absurd h (by decide)
          rw [step, last]
          simp only [breaks]
          omega
      | cons e more =>
          have step : breaks (d :: e :: more ++ c :: after) =
              breaks (e :: more ++ c :: after) + if isBreak d then 1 else 0 := by
            rw [List.cons_append, List.cons_append, breaks]
            intro tail first same
            exact other more first (by rw [(List.cons.inj same).1])
          rw [step, ih]
          omega
  | case3 =>
      rw [List.nil_append, breaks]
      · simp [h]
      · rintro tail rfl
        exact absurd h (by decide)

end ContestUploads.Text
