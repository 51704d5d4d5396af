import Mathlib.Data.List.DropRight
import TypeEquations.Text.Blank
import TypeEquations.Text.Letters

/-!
# Trimmed and split texts

How splitting, trimming, cutting and the case maps see a text that was put together from parts: marks stand
between the parts, blanks around them, and the letters of a word come in any case.
-/

namespace TypeEquations.Text

variable {blank : Char → Bool} {mark c : Char} {text before behind : List Char}

/-! ### Splitting and cutting -/

theorem split_of_not_mem (hmark : mark ∉ text) : split mark text = [text] := by
  induction text with
  | nil => rfl
  | cons c text ih =>
    rw [List.mem_cons, not_or] at hmark
    rw [split, if_neg (Ne.symm hmark.1), ih hmark.2]

/-- Parts that hold no marks are found again between the marks. -/
theorem split_intercalate {texts : List (List Char)} (hne : texts ≠ []) (hmark : ∀ text ∈ texts, mark ∉ text) :
    split mark ([mark].intercalate texts) = texts := by
  induction texts with
  | nil => exact absurd rfl hne
  | cons text rest ih =>
    obtain ⟨htext, hrest⟩ := List.forall_mem_cons.mp hmark
    cases rest with
    | nil => rw [List.intercalate_singleton, split_of_not_mem htext]
    | cons next rest =>
      calc
        split mark ([mark].intercalate (text :: next :: rest)) =
            split mark (text ++ mark :: [mark].intercalate (next :: rest)) := by
          rw [List.intercalate_cons_cons, List.append_assoc, List.singleton_append]
        _ = split mark text ++ split mark ([mark].intercalate (next :: rest)) := split_append ..
        _ = text :: next :: rest := by
          rw [split_of_not_mem htext, ih (List.cons_ne_nil _ _) hrest, List.singleton_append]

theorem cut?_eq_none_iff : cut? mark text = none ↔ mark ∉ text := by
  induction text with
  | nil => simp [cut?]
  | cons c text ih =>
    rw [cut?]
    by_cases heq : c = mark
    · simp [heq]
    · simp [heq, Ne.symm heq, ih]

theorem cut?_append (hmark : mark ∉ before) : cut? mark (before ++ mark :: behind) = some (before, behind) := by
  induction before with
  | nil => rw [List.nil_append, cut?, if_pos rfl]
  | cons c before ih =>
    rw [List.mem_cons, not_or] at hmark
    rw [List.cons_append, cut?, if_neg (Ne.symm hmark.1), ih hmark.2, Option.map_some]

/-! ### Trimming -/

theorem trimEnd_append_of_blank (hbehind : ∀ c ∈ behind, blank c = true) :
    trimEnd blank (text ++ behind) = trimEnd blank text := by
  have hreversed : ∀ c ∈ behind.reverse, blank c = true := fun c hc => hbehind c (List.mem_reverse.mp hc)
  rw [trimEnd, trimEnd, List.reverse_append, List.dropWhile_append_of_pos hreversed]

theorem trim_append_left_of_blank (hbefore : ∀ c ∈ before, blank c = true) :
    trim blank (before ++ text) = trim blank text := by
  rw [trim, trim, List.dropWhile_append_of_pos hbefore]

theorem trim_append_right_of_blank (hbehind : ∀ c ∈ behind, blank c = true) :
    trim blank (text ++ behind) = trim blank text := by
  rw [trim, trim, List.dropWhile_append]
  split
  · rename_i hempty
    rw [List.isEmpty_iff.mp hempty, List.dropWhile_eq_nil_iff.mpr hbehind]
  · exact trimEnd_append_of_blank hbehind

def Padded (blank : Char → Bool) (text padded : List Char) : Prop :=
  ∃ before behind, (∀ c ∈ before, blank c = true) ∧ (∀ c ∈ behind, blank c = true) ∧
    padded = before ++ text ++ behind

theorem Padded.trim_eq {padded : List Char} (hpadded : Padded blank text padded) :
    trim blank padded = trim blank text := by
  obtain ⟨before, behind, hbefore, hbehind, rfl⟩ := hpadded
  rw [trim_append_right_of_blank hbehind, trim_append_left_of_blank hbefore]

/-- Padding adds blanks and nothing else. -/
theorem Padded.mem_iff {padded : List Char} (hpadded : Padded blank text padded) (hc : blank c = false) :
    c ∈ padded ↔ c ∈ text := by
  obtain ⟨before, behind, hbefore, hbehind, rfl⟩ := hpadded
  have hblank {blanks : List Char} (hblanks : ∀ c ∈ blanks, blank c = true) : c ∉ blanks := by
    intro hmem
    simp [hblanks c hmem] at hc
  simp [hblank hbefore, hblank hbehind]

/-- A text with no blanks at its ends is trimmed already. -/
theorem trim_eq_self (hhead : ∀ c ∈ text.head?, blank c = false)
    (hlast : ∀ c ∈ text.getLast?, blank c = false) :
    trim blank text = text := by
  have hstart : text.dropWhile blank = text := by
    cases text with
    | nil => rfl
    | cons c text => rw [List.dropWhile_cons_of_neg (by simp [hhead c rfl])]
  have hend : text.rdropWhile blank = text := by
    rw [List.rdropWhile_eq_self_iff]
    intro hne
    simp [hlast _ (List.getLast?_eq_some_getLast hne)]
  rw [trim, hstart]
  exact hend

theorem trimEnd_append_cons (hmark : blank mark = false) (before behind : List Char) :
    trimEnd blank (before ++ mark :: behind) = before ++ mark :: trimEnd blank behind := by
  have hstop (text : List Char) : (mark :: text).dropWhile blank = mark :: text :=
    List.dropWhile_cons_of_neg (by simp [hmark])
  have hreversed : (before ++ mark :: behind).reverse.dropWhile blank =
      behind.reverse.dropWhile blank ++ mark :: before.reverse := by
    rw [List.reverse_append, List.reverse_cons, List.append_assoc, List.singleton_append,
      List.dropWhile_append, hstop]
    split
    · rename_i hempty
      rw [List.isEmpty_iff.mp hempty, List.nil_append]
    · rfl
  rw [trimEnd, hreversed, trimEnd]
  simp

/-- Around a mark that is no blank a text is trimmed on either side of it. -/
theorem trim_append_cons (hmark : blank mark = false) (before behind : List Char) :
    trim blank (before ++ mark :: behind) =
      before.dropWhile blank ++ mark :: trimEnd blank behind := by
  have hstart : (before ++ mark :: behind).dropWhile blank = before.dropWhile blank ++ mark :: behind := by
    rw [List.dropWhile_append]
    split
    · rename_i hempty
      rw [List.dropWhile_cons_of_neg (by simp [hmark]), List.isEmpty_iff.mp hempty, List.nil_append]
    · rfl
  rw [trim, hstart, trimEnd_append_cons hmark]

theorem trim_dropWhile (blank : Char → Bool) (text : List Char) :
    trim blank (text.dropWhile blank) = trim blank text := by
  have hblank : ∀ c ∈ text.takeWhile blank, blank c = true := fun c hc => List.mem_takeWhile_imp hc
  calc
    trim blank (text.dropWhile blank) = trim blank (text.takeWhile blank ++ text.dropWhile blank) :=
      (trim_append_left_of_blank hblank).symm
    _ = trim blank text := by rw [List.takeWhile_append_dropWhile]

theorem trim_trimEnd (blank : Char → Bool) (text : List Char) :
    trim blank (trimEnd blank text) = trim blank text := by
  have hblank : ∀ c ∈ text.rtakeWhile blank, blank c = true := fun c hc => List.mem_rtakeWhile_imp hc
  calc
    trim blank (trimEnd blank text) = trim blank (text.rdropWhile blank ++ text.rtakeWhile blank) :=
      (trim_append_right_of_blank hblank).symm
    _ = trim blank text := by rw [List.rdropWhile_append_rtakeWhile]

theorem mem_dropWhile_iff (hc : blank c = false) : c ∈ text.dropWhile blank ↔ c ∈ text := by
  have hdropped : c ∉ text.takeWhile blank := by
    intro hmem
    simp [List.mem_takeWhile_imp hmem] at hc
  calc
    c ∈ text.dropWhile blank ↔ c ∈ text.takeWhile blank ++ text.dropWhile blank := by
      rw [List.mem_append, or_iff_right hdropped]
    _ ↔ c ∈ text := by rw [List.takeWhile_append_dropWhile]

/-- Only blanks are trimmed. -/
theorem mem_trim_iff (hc : blank c = false) : c ∈ trim blank text ↔ c ∈ text := by
  rw [trim, trimEnd, List.mem_reverse, mem_dropWhile_iff hc, List.mem_reverse, mem_dropWhile_iff hc]

theorem trim_eq_nil_iff : trim blank text = [] ↔ ∀ c ∈ text, blank c = true := by
  constructor
  · intro hnil c hc
    by_contra hblank
    have hmem : c ∈ trim blank text := (mem_trim_iff (by simpa using hblank)).mpr hc
    rw [hnil] at hmem
    exact List.not_mem_nil hmem
  · intro hblank
    have hnil : trim blank (text ++ []) = [] := trim_append_left_of_blank hblank
    rwa [List.append_nil] at hnil

/-! ### Letters in any case -/

def SameLetters (text word : List Char) : Prop :=
  lower text = lower word

instance (text word : List Char) : Decidable (SameLetters text word) :=
  inferInstanceAs (Decidable (lower text = lower word))

theorem toNat_of_isLower_toLower (hlower : c.toLower.isLower = true) : 65 ≤ c.toNat ∧ c.toNat ≤ 122 := by
  delta Char.toLower Char.isLower at hlower
  split at hlower
  · rename_i hupper
    simp only [ge_iff_le, UInt32.le_iff_toNat_le] at hupper
    have hbounds : 65 ≤ c.toNat ∧ c.toNat ≤ 90 := hupper
    omega
  · simp only [ge_iff_le, Bool.and_eq_true, decide_eq_true_eq, UInt32.le_iff_toNat_le] at hlower
    have hbounds : 97 ≤ c.toNat ∧ c.toNat ≤ 122 := hlower
    omega

theorem capital_of_isLower_toLower (hlower : c.toLower.isLower = true) : capital c = [c.toLower.toUpper] := by
  obtain ⟨-, hle⟩ := toNat_of_isLower_toLower hlower
  have hascii : ∀ n < 123, capital (Char.ofNat n) = [(Char.ofNat n).toLower.toUpper] := by
    decide
  have hchar := hascii c.toNat (by omega)
  rwa [Char.ofNat_toNat] at hchar

def IsWord (text : List Char) : Prop :=
  ∀ c ∈ text, c.toLower.isLower = true

instance (text : List Char) : Decidable (IsWord text) :=
  decidable_of_iff (text.all (·.toLower.isLower) = true) List.all_eq_true

theorem capitals_of_isWord (hword : IsWord text) : capitals text = (lower text).map Char.toUpper := by
  induction text with
  | nil => rfl
  | cons c text ih =>
    obtain ⟨hc, htext⟩ := List.forall_mem_cons.mp hword
    rw [capitals, List.flatMap_cons, capital_of_isLower_toLower hc]
    exact congrArg _ (ih htext)

variable {word : List Char}

theorem SameLetters.isWord (hsame : SameLetters text word) (hword : IsWord word) : IsWord text := by
  intro c hc
  have hmem : c.toLower ∈ lower word := hsame ▸ List.mem_map_of_mem hc
  obtain ⟨d, hd, heq⟩ := List.mem_map.mp hmem
  rw [← heq]
  exact hword d hd

/-- Capitals do not show in which case the letters were. -/
theorem SameLetters.capitals_eq (hsame : SameLetters text word) (hword : IsWord word) :
    capitals text = capitals word := by
  rw [capitals_of_isWord (hsame.isWord hword), capitals_of_isWord hword, hsame]

theorem IsWord.isBlank_eq_false (hword : IsWord text) (hc : c ∈ text) : isBlank c = false := by
  obtain ⟨hge, hle⟩ := toNat_of_isLower_toLower (hword c hc)
  simp only [isBlank, isWhiteSpace, Bool.or_eq_false_iff, Bool.and_eq_false_iff, decide_eq_false_iff_not]
  omega

theorem IsWord.not_mem (hword : IsWord text) (hmark : c.toNat < 65) : c ∉ text := by
  intro hc
  obtain ⟨hge, -⟩ := toNat_of_isLower_toLower (hword c hc)
  omega

theorem IsWord.trim_eq (hword : IsWord text) : trim isBlank text = text := by
  apply trim_eq_self
  · intro c hc
    exact hword.isBlank_eq_false (List.mem_of_head? hc)
  · intro c hc
    exact hword.isBlank_eq_false (List.mem_of_getLast? hc)

end TypeEquations.Text
