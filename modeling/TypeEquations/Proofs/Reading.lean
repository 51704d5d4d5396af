import TypeEquations.Json.Printer
import TypeEquations.Json.Reader
import TypeEquations.Proofs.Decimal

/-!
# Reading back what was printed

The reader gives back a printed value just when its arrays and objects lie inside one another no deeper than the
reader goes. The values are those whose numbers are integers of not too many digits and whose strings need no
escapes.
-/

namespace TypeEquations.Json

open Text

variable {fuel limit : Nat} {rest : List Char} {c : Char}

def isPlain (c : Char) : Bool :=
  0x20 ≤ c.toNat && c.toNat ≤ 0x7E && c ≠ '"' && c ≠ '\\'

def IsPlain (text : String) : Prop :=
  text.toList.all isPlain = true

instance (text : String) : Decidable (IsPlain text) :=
  inferInstanceAs (Decidable (_ = true))

mutual

def depth : Json → Nat
  | arr items => if items.isEmpty then 0 else depthOfItems items + 1
  | obj members => if members.isEmpty then 0 else depthOfMembers members + 1
  | _ => 0

def depthOfItems : List Json → Nat
  | [] => 0
  | item :: rest => max item.depth (depthOfItems rest)

def depthOfMembers : List (String × Json) → Nat
  | [] => 0
  | (_, value) :: rest => max value.depth (depthOfMembers rest)

end

theorem depthOfItems_le_iff {items : List Json} :
    depthOfItems items ≤ limit ↔ ∀ item ∈ items, item.depth ≤ limit := by
  induction items with
  | nil => simp [depthOfItems]
  | cons item items ih => rw [depthOfItems, Nat.max_le, ih, List.forall_mem_cons]

def FewDigits (n : Nat) : Prop :=
  (Nat.toDigits 10 n).length ≤ digitLimit

instance (n : Nat) : Decidable (FewDigits n) :=
  Nat.decLe _ _

/-- Values whose texts the reader takes, if they are not too deep. -/
inductive Legible : Json → Prop
  | null : Legible null
  | bool (value : Bool) : Legible (bool value)
  | int {value : Int} (hsize : FewDigits value.natAbs) : Legible (int value)
  | str {text : String} (hplain : IsPlain text) : Legible (str text)
  | arr {items : List Json} (hitems : ∀ item ∈ items, Legible item) : Legible (arr items)
  | obj {members : List (String × Json)} (hkeys : ∀ member ∈ members, IsPlain member.1)
      (hnodup : (members.map (·.1)).Nodup) (hmembers : ∀ member ∈ members, Legible member.2) : Legible (obj members)

def Delimits (text : List Char) : Prop :=
  ∀ c ∈ text.head?, c = ',' ∨ c = ']' ∨ c = '}'

theorem delimits_cons (hc : c = ',' ∨ c = ']' ∨ c = '}') : Delimits (c :: rest) := by
  simpa [Delimits] using hc

theorem Delimits.endsNumber (hdelimits : Delimits rest) : EndsNumber rest := by
  intro c hc
  rcases hdelimits c hc with rfl | rfl | rfl <;> rfl

theorem skipBlanks_cons (hvisible : isBlank c = false) : skipBlanks (c :: rest) = c :: rest := by
  rw [skipBlanks, List.dropWhile_cons_of_neg (by simp [hvisible])]

theorem skipBlanks_append {text tail : List Char} (htext : text = c :: tail) (hvisible : isBlank c = false) :
    skipBlanks (text ++ rest) = text ++ rest := by
  rw [htext, List.cons_append, skipBlanks_cons hvisible]

theorem skipBlanks_blank : skipBlanks (' ' :: rest) = skipBlanks rest :=
  List.dropWhile_cons_of_pos rfl

/-! ## Strings -/

theorem isPlain_iff :
    isPlain c = true ↔ 0x20 ≤ c.toNat ∧ c.toNat ≤ 0x7E ∧ c ≠ '"' ∧ c ≠ '\\' := by
  simp [isPlain, and_assoc]

theorem printChar_of_isPlain (hplain : isPlain c = true) : printChar c = [c] := by
  obtain ⟨hlow, hhigh, hquote, hslash⟩ := isPlain_iff.mp hplain
  have hle : ' ' ≤ c := Char.le_def.mpr (UInt32.le_iff_toNat_le.mpr hlow)
  have hle' : c ≤ '~' := Char.le_def.mpr (UInt32.le_iff_toNat_le.mpr hhigh)
  have hne {control : Char} (hcontrol : control.toNat < 0x20) : c ≠ control := by
    rintro rfl
    exact absurd hlow (Nat.not_le.mpr hcontrol)
  rw [printChar, if_neg (by simp [hquote, hslash]), if_neg (hne (by decide)), if_neg (hne (by decide)),
    if_neg (hne (by decide)), if_neg (hne (by decide)), if_neg (hne (by decide)), if_pos ⟨hle, hle'⟩]

theorem IsPlain.forall_mem {text : String} (hplain : IsPlain text) : ∀ c ∈ text.toList, isPlain c = true :=
  List.all_eq_true.mp hplain

theorem toList_printString {text : String} (hplain : IsPlain text) :
    (printString text).toList = '"' :: (text.toList ++ ['"']) := by
  have hchars : text.toList.flatMap printChar = text.toList := by
    rw [List.flatMap_def, List.map_congr_left fun c hc => printChar_of_isPlain (hplain.forall_mem c hc),
      ← List.flatMap_def, List.flatMap_singleton']
  simp [printString, hchars]

theorem readUnits_plain {chars : List Char} (hplain : ∀ c ∈ chars, isPlain c = true) :
    readUnits (chars ++ '"' :: rest) = some (chars.map Char.toNat, rest) := by
  induction chars with
  | nil => simp [readUnits]
  | cons c chars ih =>
    obtain ⟨hlow, -, hquote, hslash⟩ := isPlain_iff.mp (hplain c List.mem_cons_self)
    rw [List.cons_append, readUnits, if_neg (Nat.not_lt.mpr hlow), ih fun c hc => hplain c (List.mem_cons_of_mem _ hc)]
    · rfl
    all_goals simp [hquote, hslash]

theorem joinUnits_plain {chars : List Char} (hplain : ∀ c ∈ chars, isPlain c = true) :
    joinUnits (chars.map Char.toNat) = some chars := by
  induction chars with
  | nil => simp [joinUnits]
  | cons c chars ih =>
    obtain ⟨-, hhigh, -, -⟩ := isPlain_iff.mp (hplain c List.mem_cons_self)
    rw [List.map_cons, joinUnits.eq_def]
    simp only
    rw [if_neg (by omega), if_neg (by omega), ih fun c hc => hplain c (List.mem_cons_of_mem _ hc),
      Option.map_some, Char.ofNat_toNat]

/-- A string without escapes is read as it stands. -/
theorem readString_plain {text : String} (hplain : IsPlain text) :
    readString (text.toList ++ '"' :: rest) = some (text, rest) := by
  rw [readString, readUnits_plain hplain.forall_mem]
  simp [joinUnits_plain hplain.forall_mem]

/-! ## Numbers -/

theorem readWhole_toDigits (n : Nat) (hends : EndsNumber rest) :
    readWhole (Nat.toDigits 10 n ++ rest) = some (Nat.toDigits 10 n, rest) := by
  have hdigits : readDigits (Nat.toDigits 10 n ++ rest) = some (Nat.toDigits 10 n, rest) := by
    rw [readDigits, takeWhile_isDigit_toDigits_append n hends, dropWhile_isDigit_toDigits_append n hends]
    simp
  have hzero : ¬((Nat.toDigits 10 n).head? = some '0' ∧ (Nat.toDigits 10 n).length ≠ 1) := by
    rintro ⟨hhead, hlength⟩
    rw [eq_zero_of_head?_toDigits hhead] at hlength
    exact hlength rfl
  simp [readWhole, hdigits, hzero]

theorem readFraction_of_delimits (hdelimits : Delimits rest) : readFraction rest = some ([], rest) := by
  cases rest with
  | nil => rfl
  | cons c rest => rcases hdelimits c rfl with rfl | rfl | rfl <;> rfl

theorem readExponent_of_delimits (hdelimits : Delimits rest) : readExponent rest = some (none, rest) := by
  cases rest with
  | nil => rfl
  | cons c rest => rcases hdelimits c rfl with rfl | rfl | rfl <;> rfl

theorem readUnsigned_toDigits (negative : Bool) (n : Nat) (hdelimits : Delimits rest) :
    readUnsigned negative (Nat.toDigits 10 n ++ rest) =
      if FewDigits n then some (int (if negative then -n else n), rest) else none := by
  rw [readUnsigned, readWhole_toDigits n hdelimits.endsNumber]
  by_cases hfew : FewDigits n
  · have hlimit : ¬digitLimit < (Nat.toDigits 10 n).length := Nat.not_lt.mpr hfew
    simp [hlimit, readFraction_of_delimits hdelimits, readExponent_of_delimits hdelimits, if_pos hfew]
  · have hlimit : digitLimit < (Nat.toDigits 10 n).length := Nat.lt_of_not_le hfew
    simp [hlimit, if_neg hfew]

theorem afterWord?_eq_none (word : String) {d : Char} {tail : List Char} (hword : word.toList = d :: tail)
    (hne : d ≠ c) : afterWord? word (c :: rest) = none := by
  simp [afterWord?, hword, List.isPrefixOf, hne]

theorem readNumber_natCast (n : Nat) (hdelimits : Delimits rest) :
    readNumber (Nat.toDigits 10 n ++ rest) = if FewDigits n then some (int n, rest) else none := by
  rw [readNumber, readUnsigned_toDigits false n hdelimits]
  · rfl
  · exact fun tail => toDigits_append_ne_minus

theorem readNumber_negSucc (n : Nat) (hdelimits : Delimits rest) :
    readNumber ('-' :: (Nat.toDigits 10 (n + 1) ++ rest)) =
      if FewDigits (n + 1) then some (int (.negSucc n), rest) else none := by
  have hword : afterWord? "Infinity" (Nat.toDigits 10 (n + 1) ++ rest) = none := by
    obtain ⟨c, digits, hdigits, hdigit⟩ := exists_toDigits_eq_cons (n + 1)
    rw [hdigits, List.cons_append]
    refine afterWord?_eq_none "Infinity" rfl ?_
    rintro rfl
    cases hdigit
  rw [readNumber, hword]
  exact readUnsigned_toDigits true (n + 1) hdelimits

theorem ne_of_numeric {d : Char} (hnumeric : c.isDigit = true ∨ c = '-') (hother : d.isDigit = false ∧ d ≠ '-') :
    c ≠ d := by
  rintro rfl
  simp [hother] at hnumeric

theorem isBlank_of_numeric (hnumeric : c.isDigit = true ∨ c = '-') : isBlank c = false := by
  have hspace : c ≠ ' ' := ne_of_numeric hnumeric (by decide)
  have htab : c ≠ '\t' := ne_of_numeric hnumeric (by decide)
  have hnewline : c ≠ '\n' := ne_of_numeric hnumeric (by decide)
  have hreturn : c ≠ '\r' := ne_of_numeric hnumeric (by decide)
  simp [isBlank, hspace, htab, hnewline, hreturn]

theorem readWord_of_numeric (hnumeric : c.isDigit = true ∨ c = '-') : readWord (c :: rest) = none := by
  have hne {d : Char} (hother : d.isDigit = false ∧ d ≠ '-') : d ≠ c := (ne_of_numeric hnumeric hother).symm
  rw [readWord, List.findSome?_eq_none_iff]
  intro entry hmem
  rw [Option.map_eq_none_iff]
  simp only [words, List.mem_cons, List.not_mem_nil, or_false] at hmem
  rcases hmem with rfl | rfl | rfl | rfl | rfl <;> exact afterWord?_eq_none _ rfl (hne (by decide))

theorem readValue_of_numeric (hnumeric : c.isDigit = true ∨ c = '-') :
    readValue (fuel + 1) limit (c :: rest) = readNumber (c :: rest) := by
  rw [readValue, skipBlanks_cons (isBlank_of_numeric hnumeric)]
  split
  · rename_i heq
    exact absurd (List.cons.inj heq).1 (ne_of_numeric hnumeric (by decide))
  · rename_i heq
    exact absurd (List.cons.inj heq).1 (ne_of_numeric hnumeric (by decide))
  · rename_i heq
    exact absurd (List.cons.inj heq).1 (ne_of_numeric hnumeric (by decide))
  · rw [readWord_of_numeric hnumeric]
    rfl

/-! ## Values -/

theorem readValue_blank : readValue fuel limit (' ' :: rest) = readValue fuel limit rest := by
  cases fuel with
  | zero => rw [readValue, readValue]
  | succ fuel => rw [readValue, readValue, skipBlanks_blank]

theorem readItems_blank : readItems fuel limit (' ' :: rest) = readItems fuel limit rest := by
  cases fuel with
  | zero => rw [readItems, readItems]
  | succ fuel => rw [readItems, readItems, readValue_blank]

theorem readMembers_blank : readMembers fuel limit (' ' :: rest) = readMembers fuel limit rest := by
  cases fuel with
  | zero => rw [readMembers, readMembers]
  | succ fuel => rw [readMembers, readMembers, skipBlanks_blank]

/-- The printed value is read, with enough fuel and before a delimiter, just when it is not too deep. -/
def ReadBack (json : Json) : Prop :=
  ∀ ⦃fuel limit rest⦄, 2 * json.print.toList.length ≤ fuel → Delimits rest →
    readValue (fuel + 1) limit (json.print.toList ++ rest) =
      if json.depth ≤ limit then some (json, rest) else none

theorem printItems_eq_map (items : List Json) : printItems items = items.map print := by
  induction items with
  | nil => rfl
  | cons item items ih => rw [printItems, ih, List.map_cons]

theorem printMembers_eq_map (members : List (String × Json)) :
    printMembers members = members.map fun member => printString member.1 ++ ": " ++ member.2.print := by
  induction members with
  | nil => rfl
  | cons member members ih => rw [printMembers, ih, List.map_cons]

theorem toList_print_arr (items : List Json) :
    (arr items).print.toList = '[' :: ((", ".intercalate (printItems items)).toList ++ [']']) := by
  simp [print]

theorem toList_print_obj (members : List (String × Json)) :
    (obj members).print.toList = '\x7b' :: ((", ".intercalate (printMembers members)).toList ++ ['\x7d']) := by
  simp [print]

theorem toList_print_int (value : Int) :
    ∃ c tail, (int value).print.toList = c :: tail ∧ (c.isDigit = true ∨ c = '-') := by
  rw [print]
  cases value with
  | ofNat n =>
    obtain ⟨c, digits, hdigits, hdigit⟩ := exists_toDigits_eq_cons n
    exact ⟨c, digits, by rw [Int.ofNat_eq_natCast, toList_toString_natCast, hdigits], .inl hdigit⟩
  | negSucc n => exact ⟨'-', _, toList_toString_negSucc n, .inr rfl⟩

/-- No printed value can be taken for a blank or for the end of an array. -/
theorem exists_print_eq_cons {json : Json} (hlegible : json.Legible) :
    ∃ c tail, json.print.toList = c :: tail ∧ isBlank c = false ∧ c ≠ ']' := by
  cases hlegible with
  | null => exact ⟨'n', _, rfl, rfl, by decide⟩
  | bool value => cases value <;> exact ⟨_, _, rfl, rfl, by decide⟩
  | @int value hsize =>
    obtain ⟨c, tail, hprint, hnumeric⟩ := toList_print_int value
    exact ⟨c, tail, hprint, isBlank_of_numeric hnumeric, ne_of_numeric hnumeric (by decide)⟩
  | @str text hplain => exact ⟨_, _, toList_printString hplain, rfl, by decide⟩
  | @arr items hitems => exact ⟨_, _, toList_print_arr items, rfl, by decide⟩
  | @obj members hkeys hnodup hmembers => exact ⟨_, _, toList_print_obj members, rfl, by decide⟩

theorem readBack_null : ReadBack null := by
  intro fuel limit rest _ _
  have hdepth : null.depth ≤ limit := by simp [depth]
  rw [if_pos hdepth]
  rfl

theorem readBack_bool (value : Bool) : ReadBack (bool value) := by
  intro fuel limit rest _ _
  have hdepth : (bool value).depth ≤ limit := by simp [depth]
  rw [if_pos hdepth]
  cases value <;> rfl

/-- An integer is read unless it has too many digits. -/
theorem readValue_int (value : Int) (hdelimits : Delimits rest) :
    readValue (fuel + 1) limit ((int value).print.toList ++ rest) =
      if FewDigits value.natAbs then some (int value, rest) else none := by
  obtain ⟨c, tail, hprint, hnumeric⟩ := toList_print_int value
  rw [hprint, List.cons_append, readValue_of_numeric hnumeric, ← List.cons_append, ← hprint, print]
  cases value with
  | ofNat n =>
    rw [Int.ofNat_eq_natCast, toList_toString_natCast, readNumber_natCast n hdelimits]
    rfl
  | negSucc n =>
    rw [toList_toString_negSucc, List.cons_append, readNumber_negSucc n hdelimits]
    rfl

theorem readValue_int_eq_none {value : Int} (hsize : ¬FewDigits value.natAbs) (hdelimits : Delimits rest) :
    readValue fuel limit ((int value).print.toList ++ rest) = none := by
  cases fuel with
  | zero => rw [readValue]
  | succ fuel => rw [readValue_int value hdelimits, if_neg hsize]

theorem readBack_int {value : Int} (hsize : FewDigits value.natAbs) : ReadBack (int value) := by
  intro fuel limit rest _ hdelimits
  have hdepth : (int value).depth ≤ limit := by simp [depth]
  rw [readValue_int value hdelimits, if_pos hsize, if_pos hdepth]

theorem readBack_str {text : String} (hplain : IsPlain text) : ReadBack (str text) := by
  intro fuel limit rest _ _
  have hdepth : (str text).depth ≤ limit := by simp [depth]
  rw [print, toList_printString hplain, List.cons_append, List.append_assoc, List.singleton_append, readValue,
    skipBlanks_cons rfl, if_pos hdepth]
  simp only [readString_plain hplain, Option.map_some]

theorem toList_intercalate_cons {text : String} {texts : List String} (hne : texts ≠ []) :
    (", ".intercalate (text :: texts)).toList =
      text.toList ++ ',' :: ' ' :: (", ".intercalate texts).toList := by
  rw [String.intercalate_cons_of_ne_nil hne]
  simp

/-- A first value and the values behind it are read if neither is too deep. -/
theorem ite_map_ite_le {α β : Type} {m n limit : Nat} (f : α → β) (a : α) :
    (if m ≤ limit then (if n ≤ limit then some a else none).map f else none) =
      if max m n ≤ limit then some (f a) else none := by
  by_cases hm : m ≤ limit
  · by_cases hn : n ≤ limit
    · rw [if_pos hm, if_pos hn, if_pos (Nat.max_le.mpr ⟨hm, hn⟩)]
      rfl
    · rw [if_pos hm, if_neg hn, if_neg fun h => hn (Nat.max_le.mp h).2]
      rfl
  · rw [if_neg hm, if_neg fun h => hm (Nat.max_le.mp h).1]

section Items

variable {item : Json} {items : List Json}

theorem readItems_last (hitem : ReadBack item) (hfuel : 2 * item.print.toList.length ≤ fuel) :
    readItems (fuel + 2) limit (item.print.toList ++ ']' :: rest) =
      if item.depth ≤ limit then some ([item], rest) else none := by
  rw [readItems, hitem hfuel (delimits_cons (by simp))]
  split
  · simp [skipBlanks_cons (c := ']') rfl]
  · rfl

theorem readItems_next (hitem : ReadBack item) (hfuel : 2 * item.print.toList.length ≤ fuel) :
    readItems (fuel + 2) limit (item.print.toList ++ ',' :: ' ' :: rest) =
      if item.depth ≤ limit then (readItems (fuel + 1) limit rest).map fun (items, rest) => (item :: items, rest)
      else none := by
  rw [readItems, hitem hfuel (delimits_cons (by simp))]
  split
  · simp only [Option.bind_eq_bind, Option.bind_some, skipBlanks_cons (c := ',') rfl, readItems_blank,
      Option.map_eq_bind]
    rfl
  · rfl

/-- The items of an array are read back up to its end. -/
theorem readItems_print (hne : items ≠ []) (hitems : ∀ item ∈ items, ReadBack item)
    (hfuel : 2 * (", ".intercalate (printItems items)).toList.length ≤ fuel) :
    readItems (fuel + 2) limit ((", ".intercalate (printItems items)).toList ++ ']' :: rest) =
      if depthOfItems items ≤ limit then some (items, rest) else none := by
  induction items generalizing fuel with
  | nil => exact absurd rfl hne
  | cons item items ih =>
    obtain ⟨hitem, hitems⟩ := List.forall_mem_cons.mp hitems
    rw [printItems] at hfuel ⊢
    by_cases hlast : items = []
    · subst hlast
      simp only [printItems, String.intercalate_singleton] at hfuel ⊢
      rw [readItems_last hitem hfuel, depthOfItems, depthOfItems, Nat.max_zero]
    · have hprints : printItems items ≠ [] := by simpa [printItems_eq_map] using hlast
      rw [toList_intercalate_cons hprints] at hfuel ⊢
      simp only [List.length_append, List.length_cons] at hfuel
      obtain ⟨fuel, rfl⟩ : ∃ previous, fuel = previous + 1 := ⟨fuel - 1, by omega⟩
      rw [List.append_assoc, List.cons_append, List.cons_append, readItems_next hitem (by omega),
        ih hlast hitems (by omega), depthOfItems]
      exact ite_map_ite_le ..

end Items

section Members

variable {key : String} {value : Json} {members : List (String × Json)}

theorem toList_printMember (hkey : IsPlain key) :
    (printString key ++ ": " ++ value.print).toList =
      '"' :: (key.toList ++ '"' :: ':' :: ' ' :: value.print.toList) := by
  simp [toList_printString hkey]

theorem readMembers_key (hkey : IsPlain key) {text : List Char} :
    readMembers (fuel + 1) limit ('"' :: (key.toList ++ '"' :: ':' :: ' ' :: text)) =
      (readValue fuel limit text).bind fun (value, rest) =>
        match skipBlanks rest with
        | ',' :: rest =>
          (readMembers fuel limit rest).map fun (members, rest) => ((key, value) :: members, rest)
        | '\x7d' :: rest => some ([(key, value)], rest)
        | _ => none := by
  rw [readMembers, skipBlanks_cons rfl]
  simp only [readString_plain hkey, Option.bind_eq_bind, Option.bind_some, skipBlanks_cons (c := ':') rfl,
    readValue_blank, Option.map_eq_bind, Function.comp_def]
  rfl

theorem readMembers_last (hkey : IsPlain key) (hvalue : ReadBack value)
    (hfuel : 2 * value.print.toList.length ≤ fuel) :
    readMembers (fuel + 2) limit
        ('"' :: (key.toList ++ '"' :: ':' :: ' ' :: (value.print.toList ++ '\x7d' :: rest))) =
      if value.depth ≤ limit then some ([(key, value)], rest) else none := by
  rw [readMembers_key hkey, hvalue hfuel (delimits_cons (.inr (.inr rfl)))]
  split
  · simp [skipBlanks_cons (c := '\x7d') rfl]
  · rfl

theorem readMembers_next (hkey : IsPlain key) (hvalue : ReadBack value)
    (hfuel : 2 * value.print.toList.length ≤ fuel) :
    readMembers (fuel + 2) limit
        ('"' :: (key.toList ++ '"' :: ':' :: ' ' :: (value.print.toList ++ ',' :: ' ' :: rest))) =
      if value.depth ≤ limit then
        (readMembers (fuel + 1) limit rest).map fun (members, rest) => ((key, value) :: members, rest)
      else none := by
  rw [readMembers_key hkey, hvalue hfuel (delimits_cons (.inl rfl))]
  split
  · simp [skipBlanks_cons (c := ',') rfl, readMembers_blank]
  · rfl

/-- The members of an object are read back up to its end. -/
theorem readMembers_print (hne : members ≠ [])
    (hkeys : ∀ member ∈ members, IsPlain member.1) (hmembers : ∀ member ∈ members, ReadBack member.2)
    (hfuel : 2 * (", ".intercalate (printMembers members)).toList.length ≤ fuel) :
    readMembers (fuel + 2) limit ((", ".intercalate (printMembers members)).toList ++ '\x7d' :: rest) =
      if depthOfMembers members ≤ limit then some (members, rest) else none := by
  induction members generalizing fuel with
  | nil => exact absurd rfl hne
  | cons member members ih =>
    obtain ⟨key, value⟩ := member
    obtain ⟨hkey, hkeys⟩ := List.forall_mem_cons.mp hkeys
    obtain ⟨hvalue, hmembers⟩ := List.forall_mem_cons.mp hmembers
    replace hvalue : ReadBack value := hvalue
    rw [printMembers] at hfuel ⊢
    by_cases hlast : members = []
    · subst hlast
      simp only [printMembers, String.intercalate_singleton, toList_printMember hkey, List.length_cons,
        List.length_append] at hfuel ⊢
      simp only [List.cons_append, List.append_assoc]
      rw [readMembers_last hkey hvalue (by omega), depthOfMembers, depthOfMembers, Nat.max_zero]
    · have hprints : printMembers members ≠ [] := by simpa [printMembers_eq_map] using hlast
      simp only [toList_intercalate_cons hprints, toList_printMember hkey, List.length_cons,
        List.length_append] at hfuel ⊢
      simp only [List.cons_append, List.append_assoc]
      obtain ⟨fuel, rfl⟩ : ∃ previous, fuel = previous + 1 := ⟨fuel - 1, by omega⟩
      rw [readMembers_next hkey hvalue (by omega), ih hlast hkeys hmembers (by omega), depthOfMembers]
      exact ite_map_ite_le ..

end Members

theorem exists_intercalate_eq_cons {text : String} {texts : List String} {tail : List Char}
    (htext : text.toList = c :: tail) : ∃ tail, (", ".intercalate (text :: texts)).toList = c :: tail := by
  by_cases hlast : texts = []
  · exact ⟨tail, by rw [hlast, String.intercalate_singleton, htext]⟩
  · exact ⟨_, by rw [toList_intercalate_cons hlast, htext, List.cons_append]⟩

theorem readBack_arr {items : List Json} (hlegible : ∀ item ∈ items, Legible item)
    (hitems : ∀ item ∈ items, ReadBack item) : ReadBack (arr items) := by
  intro fuel limit rest hfuel _
  rw [toList_print_arr] at hfuel ⊢
  simp only [List.length_cons, List.length_append] at hfuel
  rw [List.cons_append, List.append_assoc, List.singleton_append, readValue, skipBlanks_cons rfl]
  cases items with
  | nil => simp [printItems, skipBlanks_cons (c := ']') rfl, depth]
  | cons item items =>
    obtain ⟨c, _, hprint, hvisible, hne⟩ := exists_print_eq_cons (hlegible item List.mem_cons_self)
    obtain ⟨tail, htext⟩ : ∃ tail, (", ".intercalate (printItems (item :: items))).toList = c :: tail :=
      exists_intercalate_eq_cons hprint
    have hclose (text : List Char) :
        (", ".intercalate (printItems (item :: items))).toList ++ ']' :: rest ≠ ']' :: text := by
      rw [htext]
      exact fun heq => hne (List.cons.inj heq).1
    obtain ⟨fuel, rfl⟩ : ∃ previous, fuel = previous + 2 := ⟨fuel - 2, by omega⟩
    simp only [skipBlanks_append htext hvisible, depth, List.isEmpty_cons, Bool.false_eq_true, if_false]
    split
    · rename_i heq
      exact absurd heq (hclose _)
    · rw [if_neg (Nat.not_succ_le_zero _)]
    · rw [readItems_print (List.cons_ne_nil item items) hitems (by omega)]
      simp only [Nat.succ_eq_add_one, Nat.add_le_add_iff_right]
      split <;> rfl

theorem readBack_obj {members : List (String × Json)} (hkeys : ∀ member ∈ members, IsPlain member.1)
    (hnodup : (members.map (·.1)).Nodup) (hmembers : ∀ member ∈ members, ReadBack member.2) :
    ReadBack (obj members) := by
  intro fuel limit rest hfuel _
  rw [toList_print_obj] at hfuel ⊢
  simp only [List.length_cons, List.length_append] at hfuel
  rw [List.cons_append, List.append_assoc, List.singleton_append, readValue, skipBlanks_cons rfl]
  cases members with
  | nil => simp [printMembers, skipBlanks_cons (c := '\x7d') rfl, depth]
  | cons member members =>
    obtain ⟨tail, htext⟩ : ∃ tail, (", ".intercalate (printMembers (member :: members))).toList = '"' :: tail :=
      exists_intercalate_eq_cons (toList_printMember (hkeys member List.mem_cons_self))
    have hclose (text : List Char) :
        (", ".intercalate (printMembers (member :: members))).toList ++ '\x7d' :: rest ≠ '\x7d' :: text := by
      rw [htext]
      simp
    obtain ⟨fuel, rfl⟩ : ∃ previous, fuel = previous + 2 := ⟨fuel - 2, by omega⟩
    simp only [skipBlanks_append htext rfl, depth, List.isEmpty_cons, Bool.false_eq_true, if_false]
    split
    · rename_i heq
      exact absurd heq (hclose _)
    · rw [if_neg (Nat.not_succ_le_zero _)]
    · rw [readMembers_print (List.cons_ne_nil member members) hkeys hmembers (by omega)]
      simp only [Nat.succ_eq_add_one, Nat.add_le_add_iff_right]
      split
      · simp only [Option.map_some, putAll_of_nodup hnodup]
      · rfl

/-- An object is refused with the value of its only member. -/
theorem readValue_member_eq_none {key : String} {value : Json} (hkey : IsPlain key)
    (hvalue : readValue fuel limit (value.print.toList ++ '\x7d' :: rest) = none) :
    readValue (fuel + 2) (limit + 1) ((obj [(key, value)]).print.toList ++ rest) = none := by
  rw [toList_print_obj, printMembers, printMembers, String.intercalate_singleton, toList_printMember hkey]
  simp only [List.cons_append, List.append_assoc, List.nil_append]
  have hmembers : readMembers (fuel + 1) limit
      ('"' :: (key.toList ++ '"' :: ':' :: ' ' :: (value.print.toList ++ '\x7d' :: rest))) = none := by
    rw [readMembers_key hkey, hvalue, Option.bind_none]
  rw [readValue, skipBlanks_cons rfl]
  exact Option.map_eq_none_iff.mpr hmembers

/-- By induction on the value, every legible value is read back. -/
theorem Legible.readBack {json : Json} (hlegible : json.Legible) : ReadBack json := by
  induction hlegible with
  | null => exact readBack_null
  | bool value => exact readBack_bool value
  | int hsize => exact readBack_int hsize
  | str hplain => exact readBack_str hplain
  | arr hitems ih => exact readBack_arr hitems ih
  | obj hkeys hnodup hmembers ih => exact readBack_obj hkeys hnodup ih

/-- A printed value is read back just when it is not too deep. -/
theorem read_print {json : Json} (hlegible : json.Legible) :
    read json.print = if json.depth ≤ nestingLimit then some json else none := by
  have hread : readValue (2 * json.print.length + 1 + 1) nestingLimit (json.print.toList ++ []) = _ :=
    hlegible.readBack (by rw [String.length_toList]; omega) (by simp [Delimits])
  rw [List.append_nil] at hread
  rw [read, readWithin, hread]
  by_cases hdepth : json.depth ≤ nestingLimit
  · simp [if_pos hdepth, skipBlanks]
  · simp [if_neg hdepth]

end TypeEquations.Json
