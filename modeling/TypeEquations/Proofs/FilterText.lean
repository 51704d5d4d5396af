import TypeEquations.Log.Filter
import TypeEquations.Proofs.Trimming

/-!
# Filter texts

The text of a filter is a list of edits, one for each part that is not blank. Texts put together with a comma
make their edits one after the other; what a filter says is read back from any text in which its parts stand in
any order, with blanks around them.
-/

namespace TypeEquations.Log

inductive Edit where
  | forAll (level : Level)
  | forModule (module : String) (threshold : Threshold)
deriving DecidableEq

namespace Edit

def ofPart (part : List Char) : Except UnknownLevel Edit :=
  match Text.cut? '=' part with
  | none => (Level.ofText part).map forAll
  | some (module, threshold) =>
    (Filter.readThreshold (Filter.trim threshold)).map (forModule (String.ofList (Filter.trim module)))

def level? : Edit → Option Level
  | forAll level => some level
  | forModule _ _ => none

def binding? : Edit → Option (String × Threshold)
  | forAll _ => none
  | forModule module threshold => some (module, threshold)

theorem level?_forAll (level : Level) : (forAll level).level? = some level := rfl

theorem level?_forModule (module : String) (threshold : Threshold) : (forModule module threshold).level? = none := rfl

theorem binding?_forAll (level : Level) : (forAll level).binding? = none := rfl

theorem binding?_forModule (module : String) (threshold : Threshold) :
    (forModule module threshold).binding? = some (module, threshold) := rfl

end Edit

namespace Filter

def apply (filter : Filter) : Edit → Filter
  | .forAll level => { filter with level }
  | .forModule module threshold => filter.setThreshold module threshold

def applyAll (filter : Filter) (edits : List Edit) : Filter :=
  edits.foldl apply filter

def edits (text : String) : Except UnknownLevel (List Edit) :=
  (parts text.toList).mapM Edit.ofPart

variable {filter : Filter} {error : UnknownLevel} {text module : String}

theorem addPart_eq_map (filter : Filter) (part : List Char) :
    filter.addPart part = (Edit.ofPart part).map filter.apply := by
  rw [addPart, Edit.ofPart]
  cases Text.cut? '=' part with
  | none => cases Level.ofText part <;> rfl
  | some both =>
    obtain ⟨module, threshold⟩ := both
    cases hread : readThreshold (trim threshold) <;> simp [hread, Except.map, apply]

/-- Reading part after part is reading all of them first, and then applying what they say. -/
theorem foldlM_addPart (filter : Filter) (texts : List (List Char)) :
    texts.foldlM addPart filter = (texts.mapM Edit.ofPart).map filter.applyAll := by
  induction texts generalizing filter with
  | nil => rfl
  | cons part rest ih =>
    rw [List.foldlM_cons, List.mapM_cons, addPart_eq_map]
    cases Edit.ofPart part with
    | error error => rfl
    | ok edit =>
      refine (ih (filter.apply edit)).trans ?_
      cases rest.mapM Edit.ofPart <;> rfl

theorem parse_eq_map_edits (text : String) : parse text = (edits text).map default.applyAll :=
  foldlM_addPart ..

theorem parse_eq_ok_iff :
    parse text = .ok filter ↔ ∃ list, edits text = .ok list ∧ default.applyAll list = filter := by
  rw [parse_eq_map_edits]
  cases edits text <;> simp [Except.map]

theorem parse_eq_error_iff : parse text = .error error ↔ edits text = .error error := by
  rw [parse_eq_map_edits]
  cases edits text <;> simp [Except.map]

/-- A comma between two texts joins what they say. -/
theorem edits_comma (a b : String) :
    edits (a ++ "," ++ b) = (do
      let first ← edits a
      let second ← edits b
      return first ++ second) := by
  have hparts : parts (a ++ "," ++ b).toList = parts a.toList ++ parts b.toList := by
    have htext : (a ++ "," ++ b).toList = a.toList ++ ',' :: b.toList := by simp
    simp only [parts, htext, Text.split_append, List.map_append, List.filter_append]
  rw [edits, hparts, List.mapM_append]
  rfl

/-! ### Edits one after the other -/

theorem applyAll_append (filter : Filter) (first second : List Edit) :
    filter.applyAll (first ++ second) = (filter.applyAll first).applyAll second :=
  List.foldl_append

/-- The last level counts. -/
theorem level_applyAll (filter : Filter) (edits : List Edit) :
    (filter.applyAll edits).level = ((edits.filterMap Edit.level?).getLast?).getD filter.level := by
  induction edits generalizing filter with
  | nil => rfl
  | cons edit rest ih =>
    refine (ih (filter.apply edit)).trans ?_
    cases edit with
    | forAll level =>
      rw [List.filterMap_cons_some (Edit.level?_forAll level), List.getLast?_cons]
      rfl
    | forModule module threshold =>
      rw [List.filterMap_cons_none (Edit.level?_forModule module threshold)]
      rfl

/-- Thresholds that an edit does not set are those from before. -/
theorem threshold?_applyAll (filter : Filter) (edits : List Edit) (module : String) :
    (filter.applyAll edits).threshold? module =
      ((default.applyAll edits).threshold? module).or (filter.threshold? module) := by
  induction edits using List.reverseRecOn with
  | nil => rfl
  | append_singleton edits edit ih =>
    rw [applyAll_append, applyAll_append]
    cases edit with
    | forAll level => exact ih
    | forModule name threshold =>
      simp only [applyAll, List.foldl_cons, List.foldl_nil, apply, threshold?_setThreshold] at ih ⊢
      split
      · rfl
      · exact ih

end Filter

namespace Edit

theorem level?_eq_none_iff {part : List Char} {edit : Edit} (hpart : ofPart part = .ok edit) :
    edit.level? = none ↔ '=' ∈ part := by
  rw [ofPart] at hpart
  cases hcut : Text.cut? '=' part with
  | none =>
    have hnot : '=' ∉ part := Text.cut?_eq_none_iff.mp hcut
    rw [hcut] at hpart
    cases hlevel : Level.ofText part <;> simp only [hlevel, Except.map] at hpart
    · cases hpart
    · cases hpart
      simp [level?, hnot]
  | some both =>
    have hmem : '=' ∈ part := by
      by_contra hnot
      rw [Text.cut?_eq_none_iff.mpr hnot] at hcut
      cases hcut
    rw [hcut] at hpart
    cases hread : Filter.readThreshold (Filter.trim both.2) <;> simp only [hread, Except.map] at hpart
    · cases hpart
    · cases hpart
      simp [level?, hmem]

theorem filterMap_level?_eq_nil_iff {texts : List (List Char)} {edits : List Edit}
    (hedits : texts.mapM ofPart = .ok edits) :
    edits.filterMap level? = [] ↔ ∀ part ∈ texts, '=' ∈ part := by
  induction texts generalizing edits with
  | nil =>
    cases hedits
    simp
  | cons part rest ih =>
    rw [List.mapM_cons] at hedits
    cases hpart : ofPart part with
    | error error =>
      rw [hpart] at hedits
      cases hedits
    | ok edit =>
      cases hrest : rest.mapM ofPart with
      | error error =>
        rw [hpart, hrest] at hedits
        cases hedits
      | ok others =>
        rw [hpart, hrest] at hedits
        cases hedits
        rw [List.forall_mem_cons, ← level?_eq_none_iff hpart, ← ih hrest]
        cases hlevel : edit.level? <;> simp [hlevel]

end Edit

namespace Filter

/-- Some part that is not blank has no equals sign. -/
def SetsLevel (text : String) : Prop :=
  ∃ part ∈ Text.split ',' text.toList, (∃ c ∈ part, Text.isBlank c = false) ∧ '=' ∉ part

theorem mem_parts_iff {text part : List Char} :
    part ∈ parts text ↔
      ∃ raw ∈ Text.split ',' text, (∃ c ∈ raw, Text.isBlank c = false) ∧ trim raw = part := by
  have hblank (raw : List Char) : trim raw ≠ [] ↔ ∃ c ∈ raw, Text.isBlank c = false := by
    rw [trim, ne_eq, Text.trim_eq_nil_iff]
    simp
  simp only [parts, List.mem_filter, List.mem_map, ← hblank]
  constructor
  · rintro ⟨⟨raw, hraw, rfl⟩, hne⟩
    exact ⟨raw, hraw, by simpa using hne, rfl⟩
  · rintro ⟨raw, hraw, hne, rfl⟩
    exact ⟨⟨raw, hraw, rfl⟩, by simpa using hne⟩

theorem setsLevel_iff {text : String} {list : List Edit} (hedits : edits text = .ok list) :
    SetsLevel text ↔ list.filterMap Edit.level? ≠ [] := by
  rw [ne_eq, Edit.filterMap_level?_eq_nil_iff hedits]
  simp only [SetsLevel, not_forall, mem_parts_iff]
  constructor
  · rintro ⟨raw, hraw, hblank, hnot⟩
    exact ⟨trim raw, ⟨raw, hraw, hblank, rfl⟩, mt (Text.mem_trim_iff rfl).mp hnot⟩
  · rintro ⟨_, ⟨raw, hraw, hblank, rfl⟩, hnot⟩
    exact ⟨raw, hraw, hblank, mt (Text.mem_trim_iff rfl).mpr hnot⟩

/-- What two texts with a comma between them say. -/
structure Combines (first second both : Filter) (text : String) : Prop where
  level_of_setsLevel : SetsLevel text → both.level = second.level
  level_of_not_setsLevel : ¬ SetsLevel text → both.level = first.level
  threshold?_eq : ∀ module, both.threshold? module = (second.threshold? module).or (first.threshold? module)

/-- **The comma law.** Where both texts set something, the second one has the last word. -/
theorem parse_comma {a b : String} {first second : Filter} (hfirst : parse a = .ok first)
    (hsecond : parse b = .ok second) :
    ∃ both, parse (a ++ "," ++ b) = .ok both ∧ Combines first second both b := by
  obtain ⟨firsts, hfirsts, rfl⟩ := parse_eq_ok_iff.mp hfirst
  obtain ⟨seconds, hseconds, rfl⟩ := parse_eq_ok_iff.mp hsecond
  have hedits : edits (a ++ "," ++ b) = .ok (firsts ++ seconds) := by
    rw [edits_comma, hfirsts, hseconds]
    rfl
  refine ⟨_, parse_eq_ok_iff.mpr ⟨_, hedits, applyAll_append ..⟩, ?_, ?_, ?_⟩
  · intro hsets
    obtain ⟨level, rest, hlevels⟩ := List.exists_cons_of_ne_nil ((setsLevel_iff hseconds).mp hsets)
    have hlast (filter : Filter) : (filter.applyAll seconds).level = rest.getLast?.getD level := by
      rw [level_applyAll, hlevels, List.getLast?_cons]
      rfl
    rw [hlast, hlast]
  · intro hkeeps
    have hlevels : seconds.filterMap Edit.level? = [] := by
      by_contra hne
      exact hkeeps ((setsLevel_iff hseconds).mpr hne)
    rw [level_applyAll, hlevels]
    rfl
  · exact fun module => threshold?_applyAll ..

/-- An unknown level in the first text hides those in the second. -/
theorem parse_comma_of_error_left {a : String} (b : String) {error : UnknownLevel}
    (ha : parse a = .error error) : parse (a ++ "," ++ b) = .error error := by
  rw [parse_eq_error_iff, edits_comma, parse_eq_error_iff.mp ha]
  rfl

theorem parse_comma_of_error_right {a b : String} {first : Filter} {error : UnknownLevel}
    (ha : parse a = .ok first) (hb : parse b = .error error) : parse (a ++ "," ++ b) = .error error := by
  obtain ⟨firsts, hfirsts, -⟩ := parse_eq_ok_iff.mp ha
  rw [parse_eq_error_iff, edits_comma, hfirsts, parse_eq_error_iff.mp hb]
  rfl

end Filter

/-! ### Written filters -/

namespace Level

theorem isWord_name (level : Level) : Text.IsWord level.name.toList := by
  cases level <;> decide

theorem capitals_name (level : Level) : Text.capitals level.name.toList = level.name.toList := by
  cases level <;> decide

/-- The name of a level is read in any case. -/
theorem ofText_of_sameLetters {level : Level} {text : List Char}
    (hsame : Text.SameLetters text level.name.toList) : ofText text = .ok level := by
  rw [ofText, hsame.capitals_eq level.isWord_name, capitals_name]
  cases level <;> rfl

theorem not_sameLetters_false (level : Level) : ¬ Text.SameLetters level.name.toList "false".toList := by
  cases level <;> decide

end Level

inductive Threshold.WrittenAs : Threshold → List Char → Prop where
  | silent {text : List Char} (hsame : Text.SameLetters text "false".toList) : WrittenAs .silent text
  | atLeast {level : Level} {text : List Char} (hsame : Text.SameLetters text level.name.toList) :
    WrittenAs (.atLeast level) text

namespace Threshold.WrittenAs

variable {threshold : Threshold} {text : List Char}

theorem isWord (h : threshold.WrittenAs text) : Text.IsWord text := by
  cases h with
  | silent hsame =>
    apply hsame.isWord
    decide
  | @atLeast level _ hsame => exact hsame.isWord level.isWord_name

theorem readThreshold_eq (h : threshold.WrittenAs text) : Filter.readThreshold text = .ok threshold := by
  cases h with
  | silent hsame =>
    have hlower : Text.lower text = "false".toList := hsame
    rw [Filter.readThreshold, if_pos hlower]
  | @atLeast level _ hsame =>
    have hlower : Text.lower text ≠ "false".toList := by
      intro hfalse
      exact level.not_sameLetters_false (hsame.symm.trans hfalse)
    rw [Filter.readThreshold, if_neg hlower, Level.ofText_of_sameLetters hsame]
    rfl

end Threshold.WrittenAs

structure IsModuleName (module : String) : Prop where
  comma : ',' ∉ module.toList
  equals : '=' ∉ module.toList
  head : ∀ c ∈ module.toList.head?, Text.isBlank c = false
  last : ∀ c ∈ module.toList.getLast?, Text.isBlank c = false

instance (module : String) : Decidable (IsModuleName module) :=
  decidable_of_iff
    ((',' ∉ module.toList ∧ '=' ∉ module.toList) ∧
      module.toList.head?.all (!Text.isBlank ·) = true ∧ module.toList.getLast?.all (!Text.isBlank ·) = true) (by
    simp only [Option.all_eq_true, Bool.not_eq_true']
    exact ⟨fun h => ⟨h.1.1, h.1.2, h.2.1, h.2.2⟩, fun h => ⟨⟨h.comma, h.equals⟩, h.head, h.last⟩⟩)

/-- The ways to write an edit, with blanks around all that it is made of. -/
inductive Edit.WrittenAs : Edit → List Char → Prop where
  | forAll {level : Level} {text padded : List Char} (hsame : Text.SameLetters text level.name.toList)
    (hpadded : Text.Padded Text.isBlank text padded) : WrittenAs (.forAll level) padded
  | forModule {module : String} {threshold : Threshold} {name text padded : List Char}
    (hname : Text.Padded Text.isBlank module.toList name) (htext : threshold.WrittenAs text)
    (hpadded : Text.Padded Text.isBlank text padded) :
    WrittenAs (.forModule module threshold) (name ++ '=' :: padded)

namespace Edit.WrittenAs

variable {edit : Edit} {text : List Char}

theorem comma_not_mem (h : edit.WrittenAs text) (hname : ∀ entry ∈ edit.binding?, IsModuleName entry.1) :
    ',' ∉ text := by
  cases h with
  | @forAll level _ _ hsame hpadded =>
    rw [hpadded.mem_iff (by decide)]
    exact (hsame.isWord level.isWord_name).not_mem (by decide)
  | forModule hmodule htext hpadded =>
    simp only [List.mem_append, List.mem_cons, hmodule.mem_iff (c := ',') (by decide),
      hpadded.mem_iff (c := ',') (by decide), not_or]
    exact ⟨(hname _ rfl).comma, by decide, htext.isWord.not_mem (by decide)⟩

theorem trim_ne_nil (h : edit.WrittenAs text) : Filter.trim text ≠ [] := by
  rw [Filter.trim]
  cases h with
  | @forAll level text _ hsame hpadded =>
    rw [hpadded.trim_eq, (hsame.isWord level.isWord_name).trim_eq]
    rintro rfl
    unfold Text.SameLetters at hsame
    cases level <;> cases hsame
  | forModule hmodule htext hpadded =>
    rw [Text.trim_append_cons (by decide)]
    simp

/-- Blanks and the case of the letters do not count. -/
theorem ofPart_trim (h : edit.WrittenAs text) (hname : ∀ entry ∈ edit.binding?, IsModuleName entry.1) :
    ofPart (Filter.trim text) = .ok edit := by
  rw [Filter.trim]
  cases h with
  | @forAll level text _ hsame hpadded =>
    have hword : Text.IsWord text := hsame.isWord level.isWord_name
    rw [hpadded.trim_eq, hword.trim_eq, ofPart, Text.cut?_eq_none_iff.mpr (hword.not_mem (by decide)),
      Level.ofText_of_sameLetters hsame]
    rfl
  | @forModule module threshold name text padded hmodule htext hpadded =>
    obtain ⟨-, hequals, hhead, hlast⟩ := hname _ rfl
    have hcut : '=' ∉ name.dropWhile Text.isBlank := by
      rwa [Text.mem_dropWhile_iff (by decide), hmodule.mem_iff (by decide)]
    have hleft : Filter.trim (name.dropWhile Text.isBlank) = module.toList := by
      rw [Filter.trim, Text.trim_dropWhile, hmodule.trim_eq, Text.trim_eq_self hhead hlast]
    have hright : Filter.trim (Text.trimEnd Text.isBlank padded) = text := by
      rw [Filter.trim, Text.trim_trimEnd, hpadded.trim_eq, htext.isWord.trim_eq]
    rw [Text.trim_append_cons (by decide), ofPart, Text.cut?_append hcut]
    simp only [hleft, hright, htext.readThreshold_eq, Except.map, String.ofList_toList]

end Edit.WrittenAs

namespace Filter

theorem modules_applyAll (filter : Filter) (edits : List Edit) :
    (filter.applyAll edits).modules =
      (edits.filterMap Edit.binding?).foldl (fun entries entry => put entry.1 entry.2 entries) filter.modules := by
  induction edits generalizing filter with
  | nil => rfl
  | cons edit rest ih =>
    refine (ih (filter.apply edit)).trans ?_
    cases edit with
    | forAll level =>
      rw [List.filterMap_cons_none (Edit.binding?_forAll level)]
      rfl
    | forModule module threshold =>
      rw [List.filterMap_cons_some (Edit.binding?_forModule module threshold)]
      rfl

theorem map_forModule_filterMap_binding? (modules : List (String × Threshold)) :
    (modules.map fun entry => Edit.forModule entry.1 entry.2).filterMap Edit.binding? = modules := by
  rw [List.filterMap_map]
  exact List.filterMap_some

theorem map_forModule_filterMap_level? (modules : List (String × Threshold)) :
    (modules.map fun entry => Edit.forModule entry.1 entry.2).filterMap Edit.level? = [] := by
  rw [List.filterMap_map, List.filterMap_eq_nil_iff]
  exact fun entry _ => rfl

variable {list : List Edit} {texts : List (List Char)}

theorem forall_of_writtenAs {motive : List Char → Prop} (htexts : List.Forall₂ Edit.WrittenAs list texts)
    (hone : ∀ edit ∈ list, ∀ text, edit.WrittenAs text → motive text) : ∀ text ∈ texts, motive text := by
  induction htexts with
  | nil => exact List.forall_mem_nil _
  | cons hwritten hrest ih =>
    obtain ⟨hfirst, hothers⟩ := List.forall_mem_cons.mp hone
    exact List.forall_mem_cons.mpr ⟨hfirst _ hwritten, ih hothers⟩

/-- Written edits are read as what they were written for. -/
theorem mapM_ofPart_trim (htexts : List.Forall₂ Edit.WrittenAs list texts)
    (hnames : ∀ edit ∈ list, ∀ entry ∈ edit.binding?, IsModuleName entry.1) :
    (texts.map trim).mapM Edit.ofPart = .ok list := by
  induction htexts with
  | nil => rfl
  | cons hwritten hrest ih =>
    obtain ⟨hname, hnames⟩ := List.forall_mem_cons.mp hnames
    rw [List.map_cons, List.mapM_cons, hwritten.ofPart_trim hname, ih hnames]
    rfl

/-- The text of written edits with commas between them says these edits. -/
theorem edits_intercalate (hne : texts ≠ []) (htexts : List.Forall₂ Edit.WrittenAs list texts)
    (hnames : ∀ edit ∈ list, ∀ entry ∈ edit.binding?, IsModuleName entry.1) :
    edits (String.ofList ([','].intercalate texts)) = .ok list := by
  have hcomma : ∀ text ∈ texts, ',' ∉ text :=
    forall_of_writtenAs htexts fun edit hedit text hwritten => hwritten.comma_not_mem (hnames edit hedit)
  have htrim : ∀ text ∈ texts.map trim, (!text.isEmpty) = true := by
    have hne : ∀ text ∈ texts, trim text ≠ [] :=
      forall_of_writtenAs htexts fun edit hedit text hwritten => hwritten.trim_ne_nil
    simpa using hne
  rw [edits, parts, String.toList_ofList, Text.split_intercalate hne hcomma, List.filter_eq_self.mpr htrim]
  exact mapM_ofPart_trim htexts hnames

/-- The parts of a filter come in any order. -/
theorem parse_intercalate {level : Level} {modules : List (String × Threshold)}
    (hnodup : (modules.map Prod.fst).Nodup) (hnames : ∀ entry ∈ modules, IsModuleName entry.1)
    (hlist : list.Perm (.forAll level :: modules.map fun entry => .forModule entry.1 entry.2))
    (htexts : List.Forall₂ Edit.WrittenAs list texts) :
    ∃ entries, parse (String.ofList ([','].intercalate texts)) = .ok ⟨level, entries⟩ ∧
      entries.Perm modules := by
  have hlevels : list.filterMap Edit.level? = [level] := by
    rw [← List.perm_singleton]
    refine (hlist.filterMap Edit.level?).trans ?_
    rw [List.filterMap_cons_some (Edit.level?_forAll level), map_forModule_filterMap_level?]
  have hentries : (list.filterMap Edit.binding?).Perm modules := by
    refine (hlist.filterMap Edit.binding?).trans ?_
    rw [List.filterMap_cons_none (Edit.binding?_forAll level), map_forModule_filterMap_binding?]
  have hproper : ∀ edit ∈ list, ∀ entry ∈ edit.binding?, IsModuleName entry.1 := by
    intro edit hedit entry hentry
    exact hnames entry (hentries.mem_iff.mp (List.mem_filterMap.mpr ⟨edit, hedit, hentry⟩))
  have hne : texts ≠ [] := by
    rintro rfl
    cases htexts
    cases hlevels
  have hlevel : (default.applyAll list).level = level := by
    rw [level_applyAll, hlevels]
    rfl
  have hmodules : (default.applyAll list).modules = list.filterMap Edit.binding? := by
    rw [modules_applyAll]
    exact putAll_of_nodup ((hentries.map Prod.fst).nodup_iff.mpr hnodup)
  refine ⟨list.filterMap Edit.binding?, ?_, hentries⟩
  rw [parse_eq_ok_iff]
  refine ⟨list, edits_intercalate hne htexts hproper, ?_⟩
  rw [← hlevel, ← hmodules]

/-- Texts with a comma between them are read one after the other, and a filter is read back from each text
that says it. -/
theorem parse_lawful :
    (∀ a b error, parse a = .error error → parse (a ++ "," ++ b) = .error error) ∧
    (∀ a b first error, parse a = .ok first → parse b = .error error →
      parse (a ++ "," ++ b) = .error error) ∧
    (∀ a b first second, parse a = .ok first → parse b = .ok second →
      ∃ both, parse (a ++ "," ++ b) = .ok both ∧ Combines first second both b) ∧
    ∀ (level : Level) (modules : List (String × Threshold)), (modules.map Prod.fst).Nodup →
      (∀ entry ∈ modules, IsModuleName entry.1) →
      ∀ (list : List Edit) (texts : List (List Char)),
        list.Perm (.forAll level :: modules.map fun entry => .forModule entry.1 entry.2) →
        List.Forall₂ Edit.WrittenAs list texts →
        ∃ entries, parse (String.ofList ([','].intercalate texts)) = .ok ⟨level, entries⟩ ∧
          entries.Perm modules := by
  refine ⟨?_, ?_, ?_, ?_⟩
  · intro a b error ha
    exact parse_comma_of_error_left b ha
  · intro a b first error ha hb
    exact parse_comma_of_error_right ha hb
  · intro a b first second ha hb
    exact parse_comma ha hb
  · intro level modules hnodup hnames list texts hlist htexts
    exact parse_intercalate hnodup hnames hlist htexts

/-- Unknown levels on either side, blank parts, and entries in another order, another case and with blanks. -/
theorem parse_lawful_of_mixed_parts :
    parse ("loud" ++ "," ++ "info") = .error ⟨"loud"⟩ ∧
    parse ("info" ++ "," ++ "core=loud") = .error ⟨"loud"⟩ ∧
    (∃ both, parse ("debug,core=info" ++ "," ++ " ,core=false,=trace") = .ok both ∧
      Combines ⟨.debug, [("core", .atLeast .info)]⟩ ⟨.info, [("core", .silent), ("", .atLeast .trace)]⟩ both
        " ,core=false,=trace") ∧
    ∃ entries,
      parse (String.ofList ([','].intercalate
        [" core.types ".toList ++ '=' :: "FALSE".toList, "Warning ".toList, "core".toList ++ '=' :: " dEbug".toList])) =
          .ok ⟨.warning, entries⟩ ∧
      entries.Perm [("core", .atLeast .debug), ("core.types", .silent)] := by
  obtain ⟨hleft, hright, hboth, hwritten⟩ := parse_lawful
  have hcoreName : IsModuleName "core" := by decide
  have htypesName : IsModuleName "core.types" := by decide
  have hnames : ∀ entry ∈ [("core", Threshold.atLeast .debug), ("core.types", .silent)], IsModuleName entry.1 := by
    simp [hcoreName, htypesName]
  have hblank : ∀ c ∈ [' '], Text.isBlank c = true := List.forall_mem_singleton.mpr (by decide)
  have hnone : ∀ c ∈ [], Text.isBlank c = true := List.forall_mem_nil _
  have hsilent : Threshold.WrittenAs .silent "FALSE".toList := .silent (by decide)
  have hdebug : Threshold.WrittenAs (.atLeast .debug) "dEbug".toList := .atLeast (by decide)
  have hletters : Text.SameLetters "Warning".toList Level.warning.name.toList := by decide
  have htypes : Edit.WrittenAs (.forModule "core.types" .silent) (" core.types ".toList ++ '=' :: "FALSE".toList) :=
    .forModule ⟨[' '], [' '], hblank, hblank, rfl⟩ hsilent ⟨[], [], hnone, hnone, rfl⟩
  have hwarning : Edit.WrittenAs (.forAll .warning) "Warning ".toList :=
    .forAll hletters ⟨[], [' '], hnone, hblank, rfl⟩
  have hcore : Edit.WrittenAs (.forModule "core" (.atLeast .debug)) ("core".toList ++ '=' :: " dEbug".toList) :=
    .forModule ⟨[], [], hnone, hnone, rfl⟩ hdebug ⟨[' '], [], hblank, hnone, rfl⟩
  have hloud : parse "loud" = .error ⟨"loud"⟩ := rfl
  have hinfo : parse "info" = .ok ⟨.info, []⟩ := rfl
  have hcoreLoud : parse "core=loud" = .error ⟨"loud"⟩ := rfl
  have hfirst : parse "debug,core=info" = .ok ⟨.debug, [("core", .atLeast .info)]⟩ := rfl
  have hsecond : parse " ,core=false,=trace" = .ok ⟨.info, [("core", .silent), ("", .atLeast .trace)]⟩ :=
    rfl
  refine ⟨hleft "loud" "info" _ hloud, hright "info" "core=loud" _ _ hinfo hcoreLoud, ?_, ?_⟩
  · exact hboth "debug,core=info" " ,core=false,=trace" _ _ hfirst hsecond
  · exact hwritten .warning _ (by decide) hnames _ _ (by decide) (.cons htypes (.cons hwarning (.cons hcore .nil)))

end Filter

end TypeEquations.Log
