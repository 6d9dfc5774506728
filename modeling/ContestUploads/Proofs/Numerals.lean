import ContestUploads.Sql.Parameter

/-!
# Decimal numerals

An integer is written in decimal digits, behind a sign if it is negative.  A column of integers
reads its numeral as that integer again (`integerText?_toString`), so different integers are written
differently (`toString_injective`).  There is room for the numeral up to a power of ten
(`writable_iff`).
-/

namespace ContestUploads

namespace Sql

/-- A text of digits has no blanks around it to be taken away. -/
theorem numberText_eq_toList {s : String} {sign : List Char} {n : Nat}
    (hsign : ∀ c ∈ sign, c = '-') (hs : s.toList = sign ++ Nat.toDigits 10 n) :
    numberText s = s.toList := by
  have hsolid : ∀ c ∈ s.toList, ¬(c = ' ' || (9 ≤ c.toNat && c.toNat ≤ 13)) = true := by
    intro c hc
    rcases List.mem_append.1 (hs ▸ hc) with hc | hc
    · obtain rfl := hsign c hc
      decide
    · have hdigit := Nat.isDigit_of_mem_toDigits (by decide) (by decide) hc
      intro hblank
      simp only [Char.isDigit, Char.toNat, Bool.and_eq_true, Bool.or_eq_true, decide_eq_true_eq,
        UInt32.le_iff_toNat_le] at hdigit hblank
      rcases hblank with rfl | hblank
      · simp at hdigit
      · have h48 : (48 : Nat) ≤ c.val.toNat := hdigit.1
        omega
  have hkept : ∀ cs : List Char, (∀ c ∈ cs, c ∈ s.toList) →
      cs.dropWhile (fun c => c = ' ' || (9 ≤ c.toNat && c.toNat ≤ 13)) = cs := by
    intro cs hcs
    cases cs with
    | nil => rfl
    | cons c rest => rw [List.dropWhile_cons, if_neg (hsolid c (hcs c List.mem_cons_self))]
  simp only [numberText]
  rw [hkept _ fun _ h => h, hkept _ fun _ h => List.mem_reverse.1 h, List.reverse_reverse]

/-- The digits of a natural number stand for it. -/
theorem asciiNumeral_toDigits (n : Nat) : Binary64.asciiNumeral (Nat.toDigits 10 n) = n :=
  Nat.ofDigitChars_ten_toDigits

/-- **Reading a numeral.**  The numeral of an integer is read as that integer. -/
theorem integerText?_toString (n : Int) : integerText? (toString n) = some n := by
  have hdigits (m : Nat) : (Nat.toDigits 10 m).all Char.isDigit = true :=
    List.all_eq_true.2 fun c hc => Nat.isDigit_of_mem_toDigits (by decide) (by decide) hc
  have hnonempty (m : Nat) : (Nat.toDigits 10 m).isEmpty = false := by
    simp
  rw [Int.toString_eq_repr, Int.repr_eq_if]
  split
  · next hnonneg =>
    have htext : n.toNat.repr.toList = [] ++ Nat.toDigits 10 n.toNat := Nat.toList_repr
    rw [integerText?, numberText_eq_toList (by simp) htext, htext, List.nil_append]
    have hfirst : ∀ c ∈ Nat.toDigits 10 n.toNat, c ≠ '-' ∧ c ≠ '+' := by
      intro c hc
      have hdigit := Nat.isDigit_of_mem_toDigits (by decide) (by decide) hc
      constructor <;> rintro rfl <;> exact absurd hdigit (by decide)
    split
    · next ds heq => exact absurd rfl (hfirst '-' (heq ▸ List.mem_cons_self)).1
    · next ds heq => exact absurd rfl (hfirst '+' (heq ▸ List.mem_cons_self)).2
    · simp [hnonempty, hdigits, asciiNumeral_toDigits]
      omega
  · next hnegative =>
    have htext : ("-" ++ (-n).toNat.repr).toList = ['-'] ++ Nat.toDigits 10 (-n).toNat := by
      rw [String.toList_append, Nat.toList_repr]
      rfl
    rw [integerText?, numberText_eq_toList (by simp) htext, htext]
    simp only [List.cons_append, List.nil_append, hnonempty, hdigits, asciiNumeral_toDigits]
    simp
    omega

end Sql

/-- Different integers are written differently. -/
theorem Text.toString_injective : Function.Injective (toString : Int → String) := by
  intro a b h
  have hread := Sql.integerText?_toString a
  rw [h, Sql.integerText?_toString] at hread
  exact (Option.some.inj hread).symm

theorem Text.writable_iff {n : Int} :
    Text.writable n ↔ n.natAbs < Nat.pow 10 Text.digitLimit := by
  rw [Text.writable, decide_eq_true_iff]
  have hsome : 0 < Text.digitLimit := by decide
  generalize Text.digitLimit = limit at hsome ⊢
  exact Nat.length_toDigits_le_iff (by decide) hsome

/-- A smaller count can be written out, too. -/
theorem Text.writable_of_le {m n : Nat} (hle : m ≤ n) (hn : Text.writable n) :
    Text.writable m :=
  Text.writable_iff.2 (Nat.lt_of_le_of_lt hle (Text.writable_iff.1 hn))

/-- What the database takes can be written out. -/
theorem Text.writable_of_fits {n : Int} (h : Sql.fits n = true) : Text.writable n := by
  simp only [Sql.fits, Bool.and_eq_true, decide_eq_true_eq] at h
  have hpow : Int.pow 2 63 < Nat.pow 10 19 := by decide
  have hbelow : n.natAbs < Nat.pow 10 19 := by omega
  have hroom (k : Nat) (hk : 19 ≤ k) : Nat.pow 10 19 ≤ Nat.pow 10 k :=
    Nat.pow_le_pow_right (by decide) hk
  exact Text.writable_iff.2 (Nat.lt_of_lt_of_le hbelow (hroom Text.digitLimit (by decide)))

end ContestUploads
