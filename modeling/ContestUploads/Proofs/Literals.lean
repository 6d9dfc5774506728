import ContestUploads.Text.IntegerLiteral
import Mathlib.Data.Nat.Digits.Defs

/-!
# Which texts are integer literals

`Literal` is the grammar of an integer, read off without a parser: a sign that may be missing, then
a run of decimal digits of any script with single underscores between them, of which there are at
most `digitLimit`.  A text spells an integer if nothing but blanks stands around a literal of it.

The bridge is `integer?_eq_some_iff`: reading a text finds exactly the integer that it spells.  A
run is read digit by digit (`digits?_eq_some_iff`), the fold over the digits is positional notation
(`numeral_eq_ofDigits`), and since neither a sign nor a digit is blank, trimming stops where the
literal begins and ends (`trim_around`).  The last part writes an integer down: its own digits,
behind any number of zeros, are a run for it (`digitRun_padded`).
-/

namespace ContestUploads.Text

/-- Decimal digits with single underscores between them, and their values, most significant
first. -/
inductive DigitRun : List Char → List Nat → Prop
  | last {c : Char} {d : Nat} (hdigit : digitValue? c = some d) : DigitRun [c] [d]
  | next {c : Char} {d : Nat} {cs : List Char} {ds : List Nat} (hdigit : digitValue? c = some d)
      (hrest : DigitRun cs ds) : DigitRun (c :: cs) (d :: ds)
  | gap {c : Char} {d : Nat} {cs : List Char} {ds : List Nat} (hdigit : digitValue? c = some d)
      (hrest : DigitRun cs ds) : DigitRun (c :: '_' :: cs) (d :: ds)

/-- How a sign may be written, and by what it multiplies the number behind it. -/
inductive Sign : List Char → Int → Prop
  | absent : Sign [] 1
  | plus : Sign ['+'] 1
  | minus : Sign ['-'] (-1)

/-- The integer literals with their values. -/
inductive Literal : List Char → Int → Prop
  | signed {sign body : List Char} {factor : Int} {ds : List Nat} (hsign : Sign sign factor)
      (hrun : DigitRun body ds) (hshort : ds.length ≤ digitLimit) :
      Literal (sign ++ body) (factor * (Nat.ofDigits 10 ds.reverse : Nat))

/-- A text spells an integer if it is a literal of it between blanks. -/
def Spells (s : String) (n : Int) : Prop :=
  ∃ left core right, s.toList = left ++ core ++ right ∧ left.all isBlank = true ∧
    right.all isBlank = true ∧ Literal core n

/-! ## Runs of digits -/

theorem digitValue?_underscore : digitValue? '_' = none := by decide

/-- A run begins with a digit. -/
theorem DigitRun.exists_cons {cs : List Char} {ds : List Nat} (h : DigitRun cs ds) :
    ∃ c d rest, cs = c :: rest ∧ digitValue? c = some d := by
  cases h with
  | last hdigit => exact ⟨_, _, _, rfl, hdigit⟩
  | next hdigit _ => exact ⟨_, _, _, rfl, hdigit⟩
  | gap hdigit _ => exact ⟨_, _, _, rfl, hdigit⟩

/-- A run ends with a digit. -/
theorem DigitRun.exists_getLast {cs : List Char} {ds : List Nat} (h : DigitRun cs ds) :
    ∃ c d, cs.getLast? = some c ∧ digitValue? c = some d := by
  induction h with
  | last hdigit => exact ⟨_, _, rfl, hdigit⟩
  | next _ _ ih =>
      obtain ⟨c, d, hlast, hdigit⟩ := ih
      exact ⟨c, d, by simp [List.getLast?_cons, hlast], hdigit⟩
  | gap _ _ ih =>
      obtain ⟨c, d, hlast, hdigit⟩ := ih
      exact ⟨c, d, by simp [List.getLast?_cons, hlast], hdigit⟩

/-- Whatever is read as digits is a run of them. -/
theorem digitRun_of_digits? {cs : List Char} {ds : List Nat} (h : digits? cs = some ds) :
    DigitRun cs ds := by
  induction cs using digits?.induct generalizing ds with
  | case1 => simp [digits?] at h
  | case2 c =>
      simp only [digits?, Option.map_eq_some_iff] at h
      obtain ⟨d, hdigit, rfl⟩ := h
      exact .last hdigit
  | case3 c rest ih =>
      simp only [digits?, Option.bind_eq_bind, Option.bind_eq_some_iff] at h
      obtain ⟨d, hdigit, es, hrest, heq⟩ := h
      obtain rfl := Option.some.inj heq
      exact .gap hdigit (ih hrest)
  | case4 c rest hsome hgap ih =>
      rw [digits?.eq_4 c rest hsome hgap] at h
      simp only [Option.bind_eq_bind, Option.bind_eq_some_iff] at h
      obtain ⟨d, hdigit, es, hrest, heq⟩ := h
      obtain rfl := Option.some.inj heq
      exact .next hdigit (ih hrest)

/-- A run is read digit by digit. -/
theorem DigitRun.digits?_eq {cs : List Char} {ds : List Nat} (h : DigitRun cs ds) :
    digits? cs = some ds := by
  induction h with
  | last hdigit => simp [digits?, hdigit]
  | next hdigit hrest ih =>
      obtain ⟨c, d, rest, rfl, hfirst⟩ := hrest.exists_cons
      -- What follows is a digit, so neither the end nor an underscore comes next.
      have hgap : ∀ tail, c :: rest = '_' :: tail → False := by
        intro tail heq
        rw [(List.cons.inj heq).1, digitValue?_underscore] at hfirst
        cases hfirst
      rw [digits?.eq_4 _ _ (by simp) hgap]
      simp [hdigit, ih]
  | gap hdigit _ ih => simp [digits?, hdigit, ih]

theorem digits?_eq_some_iff {cs : List Char} {ds : List Nat} :
    digits? cs = some ds ↔ DigitRun cs ds :=
  ⟨digitRun_of_digits?, DigitRun.digits?_eq⟩

/-- A numeral is positional notation. -/
theorem numeral_eq_ofDigits (ds : List Nat) : numeral ds = Nat.ofDigits 10 ds.reverse := by
  simp only [numeral, Nat.ofDigits_eq_foldr, List.foldr_reverse, Nat.cast_id, Nat.add_comm]

/-- A number without sign is a run that is not too long. -/
theorem natural?_eq_some_iff {cs : List Char} {n : Nat} :
    natural? cs = some n ↔
      ∃ ds, DigitRun cs ds ∧ ds.length ≤ digitLimit ∧ Nat.ofDigits 10 ds.reverse = n := by
  simp only [natural?]
  cases hread : digits? cs with
  | none =>
      have hnone : ∀ ds, ¬ DigitRun cs ds := fun ds hrun => by
        rw [hrun.digits?_eq] at hread
        cases hread
      simp [hnone]
  | some ds =>
      have hrun := digitRun_of_digits? hread
      have honly : ∀ es, DigitRun cs es ↔ es = ds := fun es => by
        rw [← digits?_eq_some_iff, hread, Option.some.injEq, eq_comm]
      by_cases hshort : ds.length ≤ digitLimit
      · simp [honly, hshort, numeral_eq_ofDigits]
      · simp [honly, hshort]

/-! ## Blanks around a literal -/

/-- No digit of any script is a blank character. -/
theorem isBlank_of_digitValue? {c : Char} {d : Nat} (h : digitValue? c = some d) :
    isBlank c = false := by
  have hscripts : ∀ first ∈ zeros, ∀ k < 10, isBlank (Char.ofNat (first + k)) = false := by
    decide +kernel
  simp only [digitValue?, Option.map_eq_some_iff] at h
  obtain ⟨first, hfound, rfl⟩ := h
  have hwithin := List.find?_some hfound
  simp only [Bool.and_eq_true, decide_eq_true_eq] at hwithin
  have hc := hscripts first (List.mem_of_find?_eq_some hfound) (c.toNat - first) (by omega)
  rwa [Nat.add_sub_cancel' hwithin.1, Char.ofNat_toNat] at hc

/-- A literal has no blank at its beginning. -/
theorem Literal.exists_cons {cs : List Char} {n : Int} (h : Literal cs n) :
    ∃ c rest, cs = c :: rest ∧ isBlank c = false := by
  obtain ⟨hsign, hrun, -⟩ := h
  cases hsign with
  | absent =>
      obtain ⟨c, d, rest, rfl, hdigit⟩ := hrun.exists_cons
      exact ⟨c, rest, rfl, isBlank_of_digitValue? hdigit⟩
  | plus => exact ⟨'+', _, rfl, by decide⟩
  | minus => exact ⟨'-', _, rfl, by decide⟩

/-- A literal has no blank at its end. -/
theorem Literal.exists_getLast {cs : List Char} {n : Int} (h : Literal cs n) :
    ∃ c, cs.getLast? = some c ∧ isBlank c = false := by
  obtain ⟨-, hrun, -⟩ := h
  obtain ⟨c, d, hlast, hdigit⟩ := hrun.exists_getLast
  exact ⟨c, by simp [List.getLast?_append, hlast], isBlank_of_digitValue? hdigit⟩

/-- Trimming takes away the blanks around a literal and nothing of the literal. -/
theorem trim_around {left core right : List Char} {n : Int} (hleft : left.all isBlank = true)
    (hright : right.all isBlank = true) (hcore : Literal core n) :
    trim (left ++ core ++ right) = core := by
  obtain ⟨first, rest, hfirst, hopen⟩ := hcore.exists_cons
  obtain ⟨last, hlast, hclose⟩ := hcore.exists_getLast
  have hfront : (left ++ core ++ right).dropWhile isBlank = core ++ right := by
    rw [List.append_assoc, List.dropWhile_append_of_pos (List.all_eq_true.1 hleft), hfirst,
      List.cons_append, List.dropWhile_cons_of_neg (by simp [hopen])]
  have hback : (core ++ right).reverse.dropWhile isBlank = core.reverse := by
    obtain ⟨init, rfl⟩ := List.getLast?_eq_some_iff.1 hlast
    have hblank : ∀ c ∈ right.reverse, isBlank c = true := fun c hc =>
      List.all_eq_true.1 hright c (List.mem_reverse.1 hc)
    rw [List.reverse_append, List.dropWhile_append_of_pos hblank, List.reverse_append,
      List.reverse_singleton, List.singleton_append, List.dropWhile_cons_of_neg (by simp [hclose])]
  rw [trim, hfront, hback, List.reverse_reverse]

/-- What trimming takes away is blank. -/
theorem exists_around_trim (cs : List Char) :
    ∃ left right, cs = left ++ trim cs ++ right ∧ left.all isBlank = true ∧
      right.all isBlank = true := by
  refine ⟨cs.takeWhile isBlank, ((cs.dropWhile isBlank).reverse.takeWhile isBlank).reverse, ?_,
    List.all_takeWhile, by rw [List.all_reverse, List.all_takeWhile]⟩
  rw [trim, List.append_assoc, ← List.reverse_append, List.takeWhile_append_dropWhile,
    List.reverse_reverse, List.takeWhile_append_dropWhile]

/-- A literal is a sign and a number. -/
theorem literal_iff {cs : List Char} {n : Int} :
    Literal cs n ↔ ∃ sign factor body m, Sign sign factor ∧ cs = sign ++ body ∧
      natural? body = some m ∧ n = factor * m := by
  constructor
  · rintro ⟨hsign, hrun, hshort⟩
    exact ⟨_, _, _, _, hsign, rfl, natural?_eq_some_iff.2 ⟨_, hrun, hshort, rfl⟩, rfl⟩
  · rintro ⟨sign, factor, body, m, hsign, rfl, hnumber, rfl⟩
    obtain ⟨ds, hrun, hshort, rfl⟩ := natural?_eq_some_iff.1 hnumber
    exact .signed hsign hrun hshort

/-- What is left of a text that is read as an integer is a literal. -/
theorem integer?_eq_some_iff_literal {s : String} {n : Int} :
    integer? s = some n ↔ Literal (trim s.toList) n := by
  rw [literal_iff, integer?]
  generalize trim s.toList = cs
  constructor
  · intro hread
    split at hread
    · obtain ⟨m, hnumber, rfl⟩ := Option.map_eq_some_iff.1 hread
      exact ⟨_, _, _, m, .plus, rfl, hnumber, by simp⟩
    · obtain ⟨m, hnumber, rfl⟩ := Option.map_eq_some_iff.1 hread
      exact ⟨_, _, _, m, .minus, rfl, hnumber, by simp⟩
    · obtain ⟨m, hnumber, rfl⟩ := Option.map_eq_some_iff.1 hread
      exact ⟨_, _, _, m, .absent, rfl, hnumber, by simp⟩
  · rintro ⟨sign, factor, body, m, hsign, rfl, hnumber, rfl⟩
    cases hsign with
    | plus => simp [hnumber]
    | minus => simp [hnumber]
    | absent =>
        obtain ⟨ds, hrun, -, -⟩ := natural?_eq_some_iff.1 hnumber
        obtain ⟨c, d, rest, rfl, hdigit⟩ := hrun.exists_cons
        -- A digit is no sign, so the number is read from its first character on.
        have hsolid : c ≠ '+' ∧ c ≠ '-' := by
          constructor
          · rintro rfl
            cases hdigit.symm.trans (show digitValue? '+' = none by decide)
          · rintro rfl
            cases hdigit.symm.trans (show digitValue? '-' = none by decide)
        simp only [List.nil_append]
        split
        · next heq => exact absurd (List.cons.inj heq).1 hsolid.1
        · next heq => exact absurd (List.cons.inj heq).1 hsolid.2
        · simp [hnumber]

/-- **Reading an integer.**  A text is read as an integer exactly if it spells it. -/
theorem integer?_eq_some_iff {s : String} {n : Int} : integer? s = some n ↔ Spells s n := by
  rw [integer?_eq_some_iff_literal]
  constructor
  · intro hliteral
    obtain ⟨left, right, htext, hleft, hright⟩ := exists_around_trim s.toList
    exact ⟨left, _, right, htext, hleft, hright, hliteral⟩
  · rintro ⟨left, core, right, htext, hleft, hright, hliteral⟩
    rwa [htext, trim_around hleft hright hliteral]

example : integer? "\t-1_٣ " = some (-13) := by decide +kernel

/-- A text spells one integer at most. -/
theorem Spells.unique {s : String} {m n : Int} (hm : Spells s m) (hn : Spells s n) : m = n :=
  Option.some.inj ((integer?_eq_some_iff.2 hm).symm.trans (integer?_eq_some_iff.2 hn))

/-! ## Writing an integer down -/

/-- Each of the ten usual digits has its value. -/
theorem digitValue?_of_isDigit {c : Char} (h : c.isDigit = true) :
    digitValue? c = some (c.toNat - '0'.toNat) := by
  obtain ⟨hlow, hhigh⟩ := Char.isDigit_iff_toNat.1 h
  have hfound : zeros.find? (fun first => first ≤ c.toNat && c.toNat < first + 10) = some 0x30 := by
    rw [show '0'.toNat = 48 from rfl] at hlow
    rw [show '9'.toNat = 57 from rfl] at hhigh
    exact List.find?_cons_of_pos (by simp only [Bool.and_eq_true, decide_eq_true_eq]; omega)
  rw [digitValue?, hfound]
  rfl

/-- Usual digits, at least one, are a run. -/
theorem digitRun_of_isDigit {cs : List Char} (hne : cs ≠ [])
    (h : ∀ c ∈ cs, c.isDigit = true) : DigitRun cs (cs.map fun c => c.toNat - '0'.toNat) := by
  induction cs with
  | nil => exact absurd rfl hne
  | cons c rest ih =>
      have hdigit := digitValue?_of_isDigit (h c List.mem_cons_self)
      rcases eq_or_ne rest [] with rfl | hrest
      · exact .last hdigit
      · exact .next hdigit (ih hrest fun c' hc' => h c' (List.mem_cons_of_mem _ hc'))

/-- The digits of a number behind any zeros stand for that number. -/
theorem numeral_padded (zeros n : Nat) :
    numeral ((List.replicate zeros '0' ++ Nat.toDigits 10 n).map fun c => c.toNat - '0'.toNat) =
      n := by
  have hfold (cs : List Char) :
      numeral (cs.map fun c => c.toNat - '0'.toNat) = Nat.ofDigitChars 10 cs 0 := by
    rw [numeral, List.foldl_map, Nat.ofDigitChars]
  rw [hfold, Nat.ofDigitChars_append, Nat.ofDigitChars_replicate_zero, Nat.mul_zero,
    Nat.ofDigitChars_ten_toDigits]

/-- **Writing an integer down.**  A natural number is spelled by its digits behind any zeros, with
or without a plus and between any blanks, as long as there are not too many digits. -/
theorem spells_padded {left sign right : List Char} (zeros n : Nat)
    (hleft : left.all isBlank = true) (hright : right.all isBlank = true) (hsign : Sign sign 1)
    (hshort : zeros + (Nat.toDigits 10 n).length ≤ digitLimit) :
    Spells (String.ofList
      (left ++ (sign ++ (List.replicate zeros '0' ++ Nat.toDigits 10 n)) ++ right)) n := by
  have husual : ∀ c ∈ List.replicate zeros '0' ++ Nat.toDigits 10 n, c.isDigit = true := by
    intro c hc
    rcases List.mem_append.1 hc with hzero | hown
    · rw [List.eq_of_mem_replicate hzero]
      decide
    · exact Nat.isDigit_of_mem_toDigits (by decide) (by decide) hown
  have hrun := digitRun_of_isDigit (by simp) husual
  have hliteral := Literal.signed hsign hrun (by simpa using hshort)
  rw [← numeral_eq_ofDigits, numeral_padded, one_mul] at hliteral
  exact ⟨left, _, right, String.toList_ofList, hleft, hright, hliteral⟩

end ContestUploads.Text
