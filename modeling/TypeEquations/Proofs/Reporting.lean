import TypeEquations.CommandLine.Report
import TypeEquations.Proofs.Configuring
import TypeEquations.Proofs.Listening
import TypeEquations.Proofs.RoundTrip

/-!
# Reporting

What a process prints and how it ends, once its arguments, its settings and its log filter are accepted. The
lines and the exit code are an account of the texts and the limit alone, in which equating and normalizing are
told as they went; the style is only how the lines are spelled.
-/

namespace TypeEquations

namespace Settings

/-- Settings are loaded where each of them can be read. -/
theorem load_eq_ok_iff {settings : Settings} {sources : Sources} :
    load sources = .ok settings ↔
      sources.read .maxSteps readCount 1000 = some settings.maxSteps ∧
      sources.read .mathjax readStyle .plain = some settings.style ∧
      sources.read .logProfile readProfile .default = some settings.profile := by
  rw [load]
  cases sources.read .maxSteps readCount 1000 <;> cases sources.read .mathjax readStyle .plain <;>
    cases sources.read .logProfile readProfile .default <;> cases settings <;> simp

/-- A reading depends on the overrides only through what they have under the name. -/
theorem Sources.read_congr {name : Name} {overrides overrides' : List (String × Json)}
    (hlookup : overrides'.lookup name.text = overrides.lookup name.text) (environment : List (String × String))
    (envFile : Option String) (ofJson? : Json → Option α) (default : α) :
    Sources.read ⟨overrides', environment, envFile⟩ name ofJson? default =
      Sources.read ⟨overrides, environment, envFile⟩ name ofJson? default := by
  simp only [Sources.read, Sources.value?, Sources.file, hlookup]

theorem Sources.read_of_override {name : Name} {value : Json} {overrides : List (String × Json)}
    (hlookup : overrides.lookup name.text = some value) (hvalue : value ≠ .null)
    (environment : List (String × String)) (envFile : Option String) (ofJson? : Json → Option α) (default : α) :
    Sources.read ⟨overrides, environment, envFile⟩ name ofJson? default = ofJson? value := by
  have hsome : Sources.value? ⟨overrides, environment, envFile⟩ name = some value := by
    rw [Sources.value?, hlookup]
    cases value with
    | null => exact absurd rfl hvalue
    | _ => rfl
  rw [Sources.read, hsome]

end Settings

theorem Equations.endOf_eq_getLast? (type : Ty) (steps : List Step) :
    endOf type steps = (steps.getLast?.map (·.after)).getD type := by
  induction steps generalizing type with
  | nil => rfl
  | cons step rest ih =>
    rw [endOf, ih, List.getLast?_cons]
    cases rest.getLast? <;> rfl

namespace CommandLine

/-! ### Lines -/

inductive Line where
  | type (type : Ty)
  | equation (equation : Equation)
  | step (step : Step)
  | result (type : Ty)
  | listing (label : String) (ids : List Int)

def Line.render (style : Style) : Line → String
  | type t => t.render style
  | equation e => e.render style
  | step s => s.equation.render style ++ ": " ++ s.after.render style
  | result t => "result: " ++ t.render style
  | listing label ids => label ++ variableNames ids

def Event.printed? : Event → Option String
  | line text => some text
  | message _ => none

structure Run.Prints (run : Run) (style : Style) (lines : List Line) (exit : Nat) : Prop where
  printed : run.events.filterMap Event.printed? = lines.map (Line.render style)
  exit : run.exit = exit

structure Report.Prints (report : Report) (style : Style) (lines : List Line) (exit : Nat) : Prop where
  output : report.output = lines.map (Line.render style)
  exit : report.exit = exit

variable {environment : Environment} {arguments : List String} {invocation : Invocation} {settings : Settings}
  {style : Style} {limit : Nat} {command : Command} {lines : List Line} {exit : Nat}
  {left right type result : Ty} {equations : List Equation}

/-- Under the default profile messages stay out of the output, and the log filter has no say in the lines. -/
theorem output_report (run : Run) (setup : Log.Setup) (complaints : List String) :
    (run.report setup .default complaints).output = run.events.filterMap Event.printed? := by
  change (run.events.filter (·.isShown setup)).flatMap (·.outputLines .default) = _
  induction run.events with
  | nil => rfl
  | cons event rest ih =>
    cases event with
    | line text =>
      rw [List.filter_cons_of_pos rfl, List.flatMap_cons, ih]
      rfl
    | message m =>
      rw [List.filterMap_cons_none rfl, ← ih, List.filter_cons]
      split
      · rfl
      · rfl

theorem Run.Prints.report {run : Run} (h : run.Prints style lines exit) (setup : Log.Setup)
    (complaints : List String) : (run.report setup .default complaints).Prints style lines exit :=
  ⟨(output_report run setup complaints).trans h.printed, h.exit⟩

/-! ### Runs of the commands -/

theorem printed?_stepEvents (style : Style) (steps : List Step) :
    (steps.flatMap (stepEvents style)).filterMap Event.printed? = (steps.map Line.step).map (Line.render style) := by
  induction steps with
  | nil => rfl
  | cons step rest ih =>
    rw [List.flatMap_cons, List.filterMap_append, ih]
    rfl

theorem prints_unifyTypes_of_ok (style : Style) (hequate : left.equate right = .ok equations) :
    (unifyTypes style left right).Prints style (equations.map Line.equation) 0 := by
  rw [unifyTypes, hequate]
  refine ⟨?_, rfl⟩
  simp [Run.completed, note, List.filterMap_cons, Event.printed?, Line.render, Function.comp_def]

theorem prints_unifyTypes_of_error (style : Style) {mismatch : Mismatch}
    (hequate : left.equate right = .error mismatch) : (unifyTypes style left right).Prints style [] 1 := by
  rw [unifyTypes, hequate]
  exact ⟨rfl, rfl⟩

/-! ### Normalizing while steps are printed -/

theorem quiet_solving (limit : Nat) (equations : List Equation) : (solving limit equations).Quiet := by
  rintro listener ⟨⟩ heard
  rfl

theorem equations_solving (limit : Nat) (equations : List Equation) :
    (solving limit equations).equations = equations :=
  (Elimination.equations_start ..).trans (Registry.select_addAll ..)

/-- The listener of a command never objects, so that normalizing goes on as if nobody listened. -/
theorem normalize_solving (limit : Nat) (equations : List Equation) (type : Ty) :
    (solving limit equations).normalize type =
      let steps := Equations.run equations limit type
      let last := Equations.endOf type steps
      ((solving limit equations).replay steps,
        if Equations.isResolved equations last then .ok last else .error (.limitExceeded limit last)) := by
  have hlimit : (solving limit equations).limit = limit := rfl
  have hrun := Elimination.normalizeWithin_of_quiet (quiet_solving limit equations) type limit
  simp only [Elimination.isResolved, equations_solving, hlimit] at hrun
  exact hrun

theorem steps_normalize_solving (limit : Nat) (equations : List Equation) (type : Ty) :
    ((solving limit equations).normalize type).1.steps = Equations.run equations limit type := by
  rw [normalize_solving]
  exact (Elimination.steps_replay ..).trans (List.nil_append _)

/-- What is heard is what stands in the history. -/
theorem heard_normalize_solving (limit : Nat) (equations : List Equation) (type : Ty) :
    ((solving limit equations).normalize type).1.heard.toList =
      ((solving limit equations).normalize type).1.steps := by
  have hheard := (solving limit equations).heard_replay (Equations.run equations limit type)
  rw [steps_normalize_solving, normalize_solving]
  exact congrArg Array.toList (hheard.trans Array.empty_append)

/-- Normalizing ends with the type to which its last step led, in which nothing is left to replace, or at the
limit. -/
theorem normalize_solving_cases (limit : Nat) (equations : List Equation) (type : Ty) :
    (∃ state result, (solving limit equations).normalize type = (state, .ok result) ∧
      result = (state.steps.getLast?.map (·.after)).getD type ∧
      ∀ x ∈ result.occurrences, ∀ equation ∈ equations, equation.var ≠ x) ∨
    ∃ state last, (solving limit equations).normalize type = (state, .error (.limitExceeded limit last)) ∧
      state.steps.length = limit := by
  have hsteps := steps_normalize_solving limit equations type
  have houtcome := congrArg Prod.snd (normalize_solving limit equations type)
  by_cases hresolved : Equations.isResolved equations
      (Equations.endOf type (Equations.run equations limit type)) = true
  · refine .inl ⟨_, _, Prod.ext rfl (houtcome.trans (if_pos hresolved)), ?_, ?_⟩
    · rw [hsteps]
      exact Equations.endOf_eq_getLast? ..
    · intro x hx
      exact Equations.lookup?_eq_none_iff.mp (Equations.isResolved_iff.mp hresolved x hx)
  · refine .inr ⟨_, _, Prod.ext rfl (houtcome.trans (if_neg hresolved)), ?_⟩
    rw [hsteps]
    exact Equations.length_run_of_not_isResolved hresolved

theorem prints_solveType_of_ok (style : Style) {state : Elimination}
    (hok : (solving limit equations).normalize type = (state, .ok result)) :
    (solveType style limit type equations).Prints style
      (.type type :: state.steps.map Line.step ++ [.result result]) 0 := by
  have hheard := heard_normalize_solving limit equations type
  simp only [hok] at hheard
  simp only [solveType, hok, hheard]
  refine ⟨?_, rfl⟩
  simp only [Run.completed, List.filterMap_cons, List.filterMap_append, List.cons_append, printed?_stepEvents]
  simp [Event.printed?, note, Line.render]

/-- At the limit all steps have been printed, and no result is. -/
theorem prints_solveType_of_exceeded (style : Style) {state : Elimination} {last : Ty}
    (herror : (solving limit equations).normalize type = (state, .error (.limitExceeded limit last))) :
    (solveType style limit type equations).Prints style (.type type :: state.steps.map Line.step) 1 := by
  have hheard := heard_normalize_solving limit equations type
  simp only [herror] at hheard
  simp only [solveType, herror, hheard]
  refine ⟨?_, rfl⟩
  simp only [Run.stopped, List.filterMap_cons, List.filterMap_append, List.cons_append, printed?_stepEvents]
  simp [Event.printed?, note, Line.render]

/-! ### Accounts of the commands -/

def Command.Readable : Command → Prop
  | .unify left right =>
    (∃ type, Wire.readType (.text left) = .ok type) ∧ ∃ type, Wire.readType (.text right) = .ok type
  | .solve target equations =>
    (∃ type, Wire.readType (.text target) = .ok type) ∧ ∃ list, Wire.readEquations (.text equations) = .ok list
  | .vars equations => ∃ list, Wire.readEquations (.text equations) = .ok list

/-- The lines and the exit code of a command, in whatever style. -/
inductive Command.Tells (limit : Nat) : Command → List Line → Nat → Prop
  | unreadable {command : Command} (hunreadable : ¬ command.Readable) : Tells limit command [] 2
  | equated {a b : String} {left right : Ty} {equations : List Equation}
    (hleft : Wire.readType (.text a) = .ok left) (hright : Wire.readType (.text b) = .ok right)
    (hequate : left.equate right = .ok equations) :
    Tells limit (.unify a b) (equations.map .equation) 0
  | mismatched {a b : String} {left right : Ty} {mismatch : Mismatch}
    (hleft : Wire.readType (.text a) = .ok left) (hright : Wire.readType (.text b) = .ok right)
    (hequate : left.equate right = .error mismatch) :
    Tells limit (.unify a b) [] 1
  | normalized {a b : String} {type result : Ty} {equations : List Equation} {state : Elimination}
    (htype : Wire.readType (.text a) = .ok type) (hequations : Wire.readEquations (.text b) = .ok equations)
    (hok : (solving limit equations).normalize type = (state, .ok result))
    (hlast : result = (state.steps.getLast?.map (·.after)).getD type)
    (hfree : ∀ x ∈ result.occurrences, ∀ equation ∈ equations, equation.var ≠ x) :
    Tells limit (.solve a b) (.type type :: state.steps.map .step ++ [.result result]) 0
  | exceeded {a b : String} {type last : Ty} {equations : List Equation} {state : Elimination}
    (htype : Wire.readType (.text a) = .ok type) (hequations : Wire.readEquations (.text b) = .ok equations)
    (herror : (solving limit equations).normalize type = (state, .error (.limitExceeded limit last)))
    (hlength : state.steps.length = limit) :
    Tells limit (.solve a b) (.type type :: state.steps.map .step) 1
  | listed {a : String} {equations : Equations} (hequations : Wire.readEquations (.text a) = .ok equations) :
    Tells limit (.vars a)
      [.listing "lhs: " equations.leftVars, .listing "rhs: " (equations.rightVars.map Int.ofNat)] 0

/-- Texts that cannot be read are refused before anything is printed. -/
theorem exists_run_eq_refused (hunreadable : ¬ command.Readable) (style : Style) (limit : Nat) :
    ∃ message, command.run style limit = .refused message := by
  cases command with
  | unify a b =>
    cases hleft : Wire.readType (.text a) with
    | error error => exact ⟨error.message, by simp only [Command.run, hleft]⟩
    | ok left =>
      cases hright : Wire.readType (.text b) with
      | error error => exact ⟨error.message, by simp only [Command.run, hleft, hright]⟩
      | ok right => exact absurd ⟨⟨left, hleft⟩, ⟨right, hright⟩⟩ hunreadable
  | solve a b =>
    cases htype : Wire.readType (.text a) with
    | error error => exact ⟨error.message, by simp only [Command.run, htype]⟩
    | ok type =>
      cases hequations : Wire.readEquations (.text b) with
      | error error => exact ⟨error.message, by simp only [Command.run, htype, hequations]⟩
      | ok equations => exact absurd ⟨⟨type, htype⟩, ⟨equations, hequations⟩⟩ hunreadable
  | vars a =>
    cases hequations : Wire.readEquations (.text a) with
    | error error => exact ⟨error.message, by simp only [Command.run, hequations]⟩
    | ok equations => exact absurd ⟨equations, hequations⟩ hunreadable

/-- Each command gives an account, and prints it in every style. -/
theorem exists_tells (limit : Nat) (command : Command) :
    ∃ lines exit, command.Tells limit lines exit ∧ ∀ style, (command.run style limit).Prints style lines exit := by
  by_cases hreadable : command.Readable
  · cases command with
    | unify a b =>
      obtain ⟨⟨left, hleft⟩, right, hright⟩ := hreadable
      simp only [Command.run, hleft, hright]
      cases hequate : left.equate right with
      | ok equations => exact ⟨_, _, .equated hleft hright hequate, (prints_unifyTypes_of_ok · hequate)⟩
      | error mismatch => exact ⟨_, _, .mismatched hleft hright hequate, (prints_unifyTypes_of_error · hequate)⟩
    | solve a b =>
      obtain ⟨⟨type, htype⟩, equations, hequations⟩ := hreadable
      simp only [Command.run, htype, hequations]
      obtain ⟨state, result, hok, hlast, hfree⟩ | ⟨state, last, herror, hlength⟩ :=
        normalize_solving_cases limit equations type
      · exact ⟨_, _, .normalized htype hequations hok hlast hfree, (prints_solveType_of_ok · hok)⟩
      · exact ⟨_, _, .exceeded htype hequations herror hlength, (prints_solveType_of_exceeded · herror)⟩
    | vars a =>
      obtain ⟨equations, hequations⟩ := hreadable
      simp only [Command.run, hequations]
      exact ⟨_, _, .listed hequations, fun style => ⟨rfl, rfl⟩⟩
  · refine ⟨[], 2, .unreadable hreadable, fun style => ?_⟩
    obtain ⟨message, hrun⟩ := exists_run_eq_refused hreadable style limit
    rw [hrun]
    exact ⟨rfl, rfl⟩

/-! ### Accepted processes -/

/-- The arguments, the settings and the log filter of a process are accepted, and its log has the default profile. -/
structure Accepted (environment : Environment) (arguments : List String) (invocation : Invocation)
    (settings : Settings) : Prop where
  reads : readArguments arguments = .ok invocation
  loads : Settings.load ⟨overrides invocation, environment.assigned, environment.envFile⟩ = .ok settings
  profile_eq : settings.profile = .default
  parses : ∃ filter, Log.Filter.parse (Log.filterText environment.assigned) = .ok filter

theorem lookup_overrides (invocation : Invocation) (name : Settings.Name) :
    (overrides invocation).lookup name.text =
      match name with
      | .maxSteps => invocation.maxSteps.map fun count => Json.int count
      | .mathjax => if invocation.mathjax then some (.bool true) else none
      | .logProfile => none := by
  obtain ⟨_, mathjax, maxSteps⟩ := invocation
  cases mathjax <;> cases maxSteps <;> cases name <;> rfl

namespace Accepted

/-- An accepted process reports the run of its command. -/
theorem exists_execute_eq (h : Accepted environment arguments invocation settings) :
    ∃ setup complaints, execute environment arguments =
      .report ((invocation.command.run settings.style settings.maxSteps).report setup .default complaints) := by
  obtain ⟨filter, hfilter⟩ := h.parses
  have hprofile : Log.Setup.initial.profile ≠ some .default := nofun
  simp only [execute, h.reads, h.loads, h.profile_eq, Log.Setup.configure_of_ok hprofile hfilter]
  exact ⟨_, _, rfl⟩

/-- A limit among the arguments is the one that counts. -/
theorem maxSteps_eq (h : Accepted environment arguments invocation settings) {count : Nat}
    (hcount : invocation.maxSteps = some count) : settings.maxSteps = count := by
  have hread := (Settings.load_eq_ok_iff.mp h.loads).1
  have hlookup : (overrides invocation).lookup Settings.Name.maxSteps.text = some (.int count) := by
    rw [lookup_overrides, hcount]
    rfl
  rw [Settings.Sources.read_of_override hlookup (by simp)] at hread
  have hcounted : (some count).filter (0 < ·) = some settings.maxSteps := hread
  exact (Option.some.inj (Option.filter_eq_some_iff.mp hcounted).1).symm

/-- The option for typesetting changes the style and no other setting. -/
theorem mathjax (h : Accepted environment arguments invocation settings) {arguments' : List String}
    (hread : readArguments arguments' = .ok { invocation with mathjax := true }) :
    Accepted environment arguments' { invocation with mathjax := true } { settings with style := .typeset } := by
  obtain ⟨hmaxSteps, hstyle, hprofile⟩ := Settings.load_eq_ok_iff.mp h.loads
  refine ⟨hread, Settings.load_eq_ok_iff.mpr ⟨?_, ?_, ?_⟩, h.profile_eq, h.parses⟩
  · rw [← hmaxSteps]
    apply Settings.Sources.read_congr
    simp only [lookup_overrides]
  · have hlookup : (overrides { invocation with mathjax := true }).lookup Settings.Name.mathjax.text =
        some (.bool true) := lookup_overrides ..
    exact Settings.Sources.read_of_override hlookup (by simp) ..
  · rw [← hprofile]
    apply Settings.Sources.read_congr
    simp only [lookup_overrides]

end Accepted

/-! ### Exit codes -/

namespace Command.Tells

variable {a b : String}

theorem exit_eq_two_iff (h : command.Tells limit lines exit) : exit = 2 ↔ ¬ command.Readable := by
  cases h with
  | unreadable hunreadable => simp [hunreadable]
  | equated hleft hright => simp [Readable, hleft, hright]
  | mismatched hleft hright => simp [Readable, hleft, hright]
  | normalized htype hequations => simp [Readable, htype, hequations]
  | exceeded htype hequations => simp [Readable, htype, hequations]
  | listed hequations => simp [Readable, hequations]

theorem lines_eq_nil (h : command.Tells limit lines exit) (hexit : exit = 2) : lines = [] := by
  cases h with
  | unreadable => rfl
  | mismatched => rfl
  | _ => cases hexit

theorem exit_eq_one_iff_of_unify (h : (Command.unify a b).Tells limit lines exit)
    (hleft : Wire.readType (.text a) = .ok left) (hright : Wire.readType (.text b) = .ok right) :
    exit = 1 ∧ lines = [] ↔ ∃ mismatch, left.equate right = .error mismatch := by
  cases h with
  | unreadable hunreadable => exact absurd ⟨⟨_, hleft⟩, ⟨_, hright⟩⟩ hunreadable
  | equated hleft' hright' hequate =>
    obtain rfl := Except.ok.inj (hleft.symm.trans hleft')
    obtain rfl := Except.ok.inj (hright.symm.trans hright')
    simp [hequate]
  | mismatched hleft' hright' hequate =>
    obtain rfl := Except.ok.inj (hleft.symm.trans hleft')
    obtain rfl := Except.ok.inj (hright.symm.trans hright')
    simp [hequate]

theorem exit_eq_one_iff_of_solve (h : (Command.solve a b).Tells limit lines exit)
    (htype : Wire.readType (.text a) = .ok type) (hequations : Wire.readEquations (.text b) = .ok equations) :
    exit = 1 ↔ ∃ last, ((solving limit equations).normalize type).2 = .error (.limitExceeded limit last) := by
  cases h with
  | unreadable hunreadable => exact absurd ⟨⟨_, htype⟩, ⟨_, hequations⟩⟩ hunreadable
  | normalized htype' hequations' hok =>
    obtain rfl := Except.ok.inj (htype.symm.trans htype')
    obtain rfl := Except.ok.inj (hequations.symm.trans hequations')
    simp [hok]
  | exceeded htype' hequations' herror =>
    obtain rfl := Except.ok.inj (htype.symm.trans htype')
    obtain rfl := Except.ok.inj (hequations.symm.trans hequations')
    simp [herror]

end Command.Tells

/-- **Reports tell what was done.** A process whose arguments, settings and log filter are accepted prints the
account of its command: it ends with `2` and no output if a text cannot be decoded, with `1` where two types
clash or normalizing exceeds the limit, and else with `0`. In any process with the same command and limit, and so
with the option for typesetting, the exit code is the same and the same lines are spelled in its style. -/
theorem execute_tells (haccepted : Accepted environment arguments invocation settings) :
    ∃ report lines, execute environment arguments = .report report ∧
      report.Prints settings.style lines report.exit ∧
      invocation.command.Tells settings.maxSteps lines report.exit ∧
      (report.exit = 2 ∧ report.output = [] ↔ ¬ invocation.command.Readable) ∧
      (∀ a b left right, invocation.command = .unify a b →
        Wire.readType (.text a) = .ok left → Wire.readType (.text b) = .ok right →
        (report.exit = 1 ∧ report.output = [] ↔ ∃ mismatch, left.equate right = .error mismatch)) ∧
      (∀ a b type equations, invocation.command = .solve a b →
        Wire.readType (.text a) = .ok type → Wire.readEquations (.text b) = .ok equations →
        (report.exit = 1 ↔ ∃ last, ((solving settings.maxSteps equations).normalize type).2 =
          .error (.limitExceeded settings.maxSteps last))) ∧
      (∀ count, invocation.maxSteps = some count → settings.maxSteps = count) ∧
      (∀ environment' arguments' invocation' settings', Accepted environment' arguments' invocation' settings' →
        invocation'.command = invocation.command → settings'.maxSteps = settings.maxSteps →
        ∃ report', execute environment' arguments' = .report report' ∧
          report'.Prints settings'.style lines report.exit) ∧
      ∀ arguments', readArguments arguments' = .ok { invocation with mathjax := true } →
        ∃ report', execute environment arguments' = .report report' ∧
          report'.Prints .typeset lines report.exit := by
  obtain ⟨lines, exit, htells, hprints⟩ := exists_tells settings.maxSteps invocation.command
  -- every accepted process with the command and the limit prints these lines
  have hreport {environment' arguments' invocation' settings'}
      (h : Accepted environment' arguments' invocation' settings')
      (hcommand : invocation'.command = invocation.command) (hlimit : settings'.maxSteps = settings.maxSteps) :
      ∃ report, execute environment' arguments' = .report report ∧ report.Prints settings'.style lines exit := by
    obtain ⟨setup, complaints, hexecute⟩ := h.exists_execute_eq
    rw [hcommand, hlimit] at hexecute
    exact ⟨_, hexecute, (hprints settings'.style).report setup complaints⟩
  obtain ⟨report, hexecute, hprinted⟩ := hreport haccepted rfl rfl
  have hempty : report.output = [] ↔ lines = [] := by rw [hprinted.output, List.map_eq_nil_iff]
  obtain rfl := hprinted.exit
  refine ⟨report, lines, hexecute, hprinted, htells, ?_, ?_, ?_, fun _ => haccepted.maxSteps_eq,
    fun _ _ _ _ => hreport, fun _ hread => hreport (haccepted.mathjax hread) rfl rfl⟩
  · rw [hempty, ← htells.exit_eq_two_iff]
    exact ⟨And.left, fun hexit => ⟨hexit, htells.lines_eq_nil hexit⟩⟩
  · intro a b left right hcommand hleft hright
    rw [hcommand] at htells
    rw [hempty]
    exact htells.exit_eq_one_iff_of_unify hleft hright
  · intro a b type equations hcommand htype hequations
    rw [hcommand] at htells
    exact htells.exit_eq_one_iff_of_solve htype hequations

/-- A variable on both sides of its equation uses up a limit of two, with as many lines in either style. -/
theorem execute_tells_of_cycle :
    let environment : Environment := ⟨[("TYPEUNIFY_LOG_FILTER", "warning")], none⟩
    let target := "\x7b\"Var\": 0\x7d"
    let equations := "[\x7b\"var\": 0, \"rhs\": \x7b\"Tuple\": [\x7b\"Var\": 0\x7d, \"Int\"]\x7d\x7d]"
    ∃ report report',
      execute environment ["solve", "--max-steps", "2", target, equations] = .report report ∧
      execute environment ["solve", "--mathjax", "--max-steps", "2", target, equations] = .report report' ∧
      report.exit = 1 ∧ report'.exit = 1 ∧ report.output.length = 3 ∧ report'.output.length = 3 := by
  intro environment target equations
  have hids : Ty.Legible (.var 0) := fun id hmem => List.mem_singleton.mp hmem ▸ by decide
  have htarget : Wire.readType (.text target) = .ok (.var 0) := by
    rw [show target = Wire.writeType (.var 0) from rfl, Wire.readType_writeType hids]
    rfl
  have hequations : Wire.readEquations (.text equations) = .ok [⟨0, .pair (.var 0) .int⟩] := by
    have hlegible : ∀ equation ∈ [⟨0, .pair (.var 0) .int⟩], Equation.Legible equation := by
      intro equation hmem
      obtain rfl := List.mem_singleton.mp hmem
      exact ⟨by decide, hids⟩
    rw [show equations = Wire.writeEquations [⟨0, .pair (.var 0) .int⟩] from rfl,
      Wire.readEquations_writeEquations hlegible]
    rfl
  have haccepted : Accepted environment ["solve", "--max-steps", "2", target, equations]
      ⟨.solve target equations, false, some 2⟩ ⟨2, .plain, .default⟩ := by
    dsimp only [environment, target, equations]
    exact ⟨rfl, rfl, rfl, ⟨.warning, []⟩, rfl⟩
  obtain ⟨report, lines, hexecute, hprints, htells, _, _, hsolve, _, _, hmathjax⟩ := execute_tells haccepted
  have hexceeded : ((solving 2 [⟨0, .pair (.var 0) .int⟩]).normalize (.var 0)).2 =
      .error (.limitExceeded 2 (.pair (.pair (.var 0) .int) .int)) := rfl
  have hexit : report.exit = 1 := (hsolve _ _ _ _ rfl htarget hequations).mpr ⟨_, hexceeded⟩
  have htypeset : readArguments ["solve", "--mathjax", "--max-steps", "2", target, equations] =
      .ok ⟨.solve target equations, true, some 2⟩ := by
    dsimp only [target, equations]
    rfl
  obtain ⟨report', hexecute', hprints'⟩ := hmathjax _ htypeset
  have hlength : lines.length = 3 := by
    rw [hexit] at htells
    cases htells with
    | exceeded _ _ _ hlength => simp [hlength]
  refine ⟨report, report', hexecute, hexecute', hexit, hprints'.exit.trans hexit, ?_, ?_⟩
  · rw [hprints.output, List.length_map, hlength]
  · rw [hprints'.output, List.length_map, hlength]

end CommandLine

end TypeEquations
