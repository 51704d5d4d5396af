/-!
# Decimal digits

How numbers are spelled, and where the spelling of a number ends in a text.
-/

namespace TypeEquations.Text

def EndsNumber (text : List Char) : Prop :=
  ∀ c ∈ text.head?, c.isDigit = false

variable {rest rest' : List Char}

theorem endsNumber_nil : EndsNumber [] := by
  simp [EndsNumber]

theorem endsNumber_cons {c : Char} (hc : c.isDigit = false) : EndsNumber (c :: rest) := by
  simpa [EndsNumber] using hc

theorem isDigit_of_mem_toDigits {n : Nat} {c : Char} (hmem : c ∈ Nat.toDigits 10 n) : c.isDigit = true :=
  Nat.isDigit_of_mem_toDigits (by decide) (by decide) hmem

theorem EndsNumber.takeWhile_isDigit (hends : EndsNumber rest) : rest.takeWhile Char.isDigit = [] := by
  cases rest with
  | nil => rfl
  | cons c rest => rw [List.takeWhile_cons_of_neg (by simp [hends c rfl])]

theorem EndsNumber.dropWhile_isDigit (hends : EndsNumber rest) : rest.dropWhile Char.isDigit = rest := by
  cases rest with
  | nil => rfl
  | cons c rest => rw [List.dropWhile_cons_of_neg (by simp [hends c rfl])]

theorem takeWhile_isDigit_toDigits_append (n : Nat) (hends : EndsNumber rest) :
    (Nat.toDigits 10 n ++ rest).takeWhile Char.isDigit = Nat.toDigits 10 n := by
  rw [List.takeWhile_append_of_pos fun c => isDigit_of_mem_toDigits, hends.takeWhile_isDigit, List.append_nil]

theorem dropWhile_isDigit_toDigits_append (n : Nat) (hends : EndsNumber rest) :
    (Nat.toDigits 10 n ++ rest).dropWhile Char.isDigit = rest := by
  rw [List.dropWhile_append_of_pos fun c => isDigit_of_mem_toDigits, hends.dropWhile_isDigit]

/-- In front of anything but a digit, a number ends where its text says. -/
theorem toDigits_append_inj {m n : Nat} (hends : EndsNumber rest) (hends' : EndsNumber rest')
    (heq : Nat.toDigits 10 m ++ rest = Nat.toDigits 10 n ++ rest') : m = n ∧ rest = rest' := by
  have hdigits := congrArg (List.takeWhile Char.isDigit) heq
  rw [takeWhile_isDigit_toDigits_append m hends, takeWhile_isDigit_toDigits_append n hends'] at hdigits
  have hvalue := congrArg (Nat.ofDigitChars 10 · 0) hdigits
  simp only [Nat.ofDigitChars_ten_toDigits] at hvalue
  exact ⟨hvalue, List.append_cancel_left (hdigits ▸ heq)⟩

theorem exists_toDigits_eq_cons (n : Nat) : ∃ c digits, Nat.toDigits 10 n = c :: digits ∧ c.isDigit = true := by
  obtain ⟨c, digits, hdigits⟩ := List.exists_cons_of_ne_nil (Nat.toDigits_ne_nil (n := n) (b := 10))
  exact ⟨c, digits, hdigits, isDigit_of_mem_toDigits (n := n) (by simp [hdigits])⟩

theorem toDigits_append_ne_minus {n : Nat} : Nat.toDigits 10 n ++ rest ≠ '-' :: rest' := by
  obtain ⟨c, digits, hdigits, hdigit⟩ := exists_toDigits_eq_cons n
  rw [hdigits, List.cons_append]
  intro heq
  cases (List.cons.inj heq).1
  cases hdigit

/-- Only zero is spelled with a zero in front. -/
theorem eq_zero_of_head?_toDigits {n : Nat} (hhead : (Nat.toDigits 10 n).head? = some '0') : n = 0 := by
  induction n using Nat.strongRecOn with
  | ind n ih =>
    by_cases hlt : n < 10
    · rw [Nat.toDigits_of_lt_base hlt, List.head?_cons, Option.some.injEq] at hhead
      exact Nat.digitChar_eq_zero.mp hhead
    · have hle : 10 ≤ n := Nat.le_of_not_lt hlt
      rw [Nat.toDigits_of_base_le (by decide) hle, List.head?_append,
        List.head?_eq_some_head Nat.toDigits_ne_nil, Option.some_or, ← List.head?_eq_some_head] at hhead
      have hzero : n / 10 = 0 := ih (n / 10) (Nat.div_lt_self (by omega) (by decide)) hhead
      omega

theorem lt_length_toDigits_pow {k : Nat} (hpos : 0 < k) : k < (Nat.toDigits 10 (Nat.pow 10 k)).length :=
  Nat.lt_of_not_le fun hle => Nat.lt_irrefl _ ((Nat.length_toDigits_le_iff (by decide) hpos).mp hle)

theorem toList_toString_natCast (n : Nat) : (toString (n : Int)).toList = Nat.toDigits 10 n := by
  rw [Int.toString_eq_repr, Int.repr_eq_if, if_pos (Int.natCast_nonneg n), Int.toNat_natCast,
    Nat.repr_eq_ofList_toDigits, String.toList_ofList]

theorem toList_toString_negSucc (n : Nat) :
    (toString (Int.negSucc n)).toList = '-' :: Nat.toDigits 10 (n + 1) := by
  have hneg : toString (Int.negSucc n) = "-" ++ (n + 1).repr := rfl
  simp [hneg, Nat.repr_eq_ofList_toDigits]

/-- The spelling of an integer ends before the first character behind it that is no digit. -/
theorem toString_append_inj {a b : Int} (hends : EndsNumber rest) (hends' : EndsNumber rest')
    (heq : (toString a).toList ++ rest = (toString b).toList ++ rest') : a = b ∧ rest = rest' := by
  cases a with
  | ofNat m =>
    rw [Int.ofNat_eq_natCast, toList_toString_natCast] at heq
    cases b with
    | ofNat n =>
      rw [Int.ofNat_eq_natCast, toList_toString_natCast] at heq
      obtain ⟨rfl, hrest⟩ := toDigits_append_inj hends hends' heq
      exact ⟨rfl, hrest⟩
    | negSucc n =>
      rw [toList_toString_negSucc] at heq
      exact absurd heq toDigits_append_ne_minus
  | negSucc m =>
    rw [toList_toString_negSucc] at heq
    cases b with
    | ofNat n =>
      rw [Int.ofNat_eq_natCast, toList_toString_natCast] at heq
      exact absurd heq.symm toDigits_append_ne_minus
    | negSucc n =>
      rw [toList_toString_negSucc, List.cons_append, List.cons_append, List.cons.injEq] at heq
      obtain ⟨hsucc, hrest⟩ := toDigits_append_inj hends hends' heq.2
      exact ⟨congrArg Int.negSucc (Nat.succ.inj hsucc), hrest⟩

end TypeEquations.Text
