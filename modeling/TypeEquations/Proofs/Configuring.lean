import Mathlib.Data.List.Induction
import TypeEquations.Log.Setup

/-!
# Configuring

A process that sets up its log again and again, under an environment that may change in between. A call is
effective if its filter can be read and its profile is not that of the last effective call; after any calls the
log is as the last effective one asks for it.
-/

namespace TypeEquations.Log.Setup

structure Call where
  profile : Profile
  environment : List (String × String)

namespace Call

def filter (call : Call) : Except UnknownLevel Filter :=
  Filter.parse (filterText call.environment)

def isEffective (last : Option Call) (call : Call) : Bool :=
  call.filter.isOk && last.all (·.profile ≠ call.profile)

end Call

def lastEffective? (calls : List Call) : Option Call :=
  calls.foldl (fun last call => if call.isEffective last then some call else last) none

def call (setup : Setup) (call : Call) : Setup × Except UnknownLevel Unit :=
  setup.configure call.profile (filterText call.environment)

def callAll (setup : Setup) (calls : List Call) : Setup :=
  calls.foldl (fun setup call => (setup.call call).1) setup

structure Obeys (setup : Setup) (call : Call) : Prop where
  profile : setup.profile = some call.profile
  sinks : ∃ filter, call.filter = .ok filter ∧ setup.sinks = [⟨call.profile, filter⟩]
  enabled : setup.enabled = true
  forwarders : setup.forwarders = 1

/-- The log is as the last effective call asks for it, and where there is none it is as it was at first. -/
def ObeysLast (setup first : Setup) : Option Call → Prop
  | none => setup = first
  | some call => setup.Obeys call

variable {setup first : Setup} {call : Call} {calls : List Call} {last : Option Call} {filter : Filter}
  {error : UnknownLevel} {sinks : List Sink}

/-! ### One call -/

theorem call_of_profile_eq (hprofile : setup.profile = some call.profile) :
    setup.call call = (setup, .ok ()) := by
  rw [Setup.call, configure, if_pos hprofile]

/-- An unreadable filter changes nothing. -/
theorem call_of_error (hprofile : setup.profile ≠ some call.profile) (hfilter : call.filter = .error error) :
    setup.call call = (setup, .error error) := by
  rw [Call.filter] at hfilter
  rw [Setup.call, configure, if_neg hprofile, hfilter]

/-- Asking for a forwarder again adds none. -/
theorem forwarders_withForwarder (hle : setup.forwarders ≤ 1) : setup.withForwarder.forwarders = 1 := by
  unfold withForwarder
  split
  · simp [*]
  · omega

@[simp]
theorem sinks_withForwarder (setup : Setup) : setup.withForwarder.sinks = setup.sinks := by
  unfold withForwarder
  split <;> rfl

@[simp]
theorem enabled_withForwarder (setup : Setup) : setup.withForwarder.enabled = setup.enabled := by
  unfold withForwarder
  split <;> rfl

theorem configure_of_ok {profile : Profile} {text : String} (hprofile : setup.profile ≠ some profile)
    (hparse : Filter.parse text = .ok filter) :
    setup.configure profile text =
      ({ (setup.removeSinks.enable.addSink ⟨profile, filter⟩).withForwarder with profile := some profile },
        .ok ()) := by
  rw [configure, if_neg hprofile, hparse]

/-- A call with another profile and a readable filter is carried out, whatever was set up before. -/
theorem call_of_ok (hle : setup.forwarders ≤ 1) (hprofile : setup.profile ≠ some call.profile)
    (hfilter : call.filter = .ok filter) : (setup.call call).2 = .ok () ∧ (setup.call call).1.Obeys call := by
  have hreplaced : (setup.removeSinks.enable.addSink ⟨call.profile, filter⟩).forwarders ≤ 1 := hle
  rw [Setup.call, configure_of_ok hprofile hfilter]
  refine ⟨rfl, rfl, ⟨filter, hfilter, ?_⟩, ?_, ?_⟩
  · simp [removeSinks, enable, addSink]
  · simp [removeSinks, enable, addSink]
  · exact forwarders_withForwarder hreplaced

/-! ### Any calls -/

theorem callAll_concat (first : Setup) (calls : List Call) (call : Call) :
    first.callAll (calls ++ [call]) = ((first.callAll calls).call call).1 := by
  rw [callAll, List.foldl_append]
  rfl

theorem lastEffective?_concat (calls : List Call) (call : Call) :
    lastEffective? (calls ++ [call]) =
      if call.isEffective (lastEffective? calls) then some call else lastEffective? calls := by
  rw [lastEffective?, List.foldl_append]
  rfl

theorem Call.isEffective_iff :
    call.isEffective last = true ↔
      (∃ filter, call.filter = .ok filter) ∧ last.map (·.profile) ≠ some call.profile := by
  rw [isEffective, Bool.and_eq_true]
  refine and_congr ?_ ?_
  · cases call.filter <;> simp [Except.isOk, Except.toBool]
  · cases last <;> simp

theorem not_isEffective_of_error (hfilter : call.filter = .error error) :
    ¬ call.isEffective last = true := by
  rw [Call.isEffective_iff]
  rintro ⟨⟨filter, hok⟩, _⟩
  rw [hfilter] at hok
  cases hok

theorem lastEffective?_concat_of_not (hnot : ¬ call.isEffective (lastEffective? calls) = true) :
    lastEffective? (calls ++ [call]) = lastEffective? calls := by
  rw [lastEffective?_concat, if_neg hnot]

namespace ObeysLast

theorem profile_eq (h : setup.ObeysLast (unconfigured sinks) last) :
    setup.profile = last.map (·.profile) := by
  cases last with
  | none =>
    rw [show setup = unconfigured sinks from h]
    rfl
  | some call => exact h.profile

theorem forwarders_le (h : setup.ObeysLast (unconfigured sinks) last) : setup.forwarders ≤ 1 := by
  cases last with
  | none =>
    rw [show setup = unconfigured sinks from h]
    exact Nat.zero_le 1
  | some call => exact Nat.le_of_eq h.forwarders

/-- The log has the profile of the last effective call, so that it is the guard of a call that tells whether
the call is effective. -/
theorem obeysLast_call (h : setup.ObeysLast (unconfigured sinks) last) (call : Call) :
    (setup.call call).1.ObeysLast (unconfigured sinks) (if call.isEffective last then some call else last) := by
  by_cases hprofile : setup.profile = some call.profile
  · have hnot : ¬ call.isEffective last = true := fun heffective =>
      (Call.isEffective_iff.mp heffective).2 (h.profile_eq ▸ hprofile)
    rw [call_of_profile_eq hprofile, if_neg hnot]
    exact h
  · cases hfilter : call.filter with
    | error error =>
      rw [call_of_error hprofile hfilter, if_neg (not_isEffective_of_error hfilter)]
      exact h
    | ok filter =>
      have heffective : call.isEffective last = true :=
        Call.isEffective_iff.mpr ⟨⟨filter, hfilter⟩, h.profile_eq ▸ hprofile⟩
      rw [if_pos heffective]
      exact (call_of_ok h.forwarders_le hprofile hfilter).2

end ObeysLast

/-- What each call keeps, all calls keep. -/
theorem obeysLast_callAll (sinks : List Sink) (calls : List Call) :
    ((unconfigured sinks).callAll calls).ObeysLast (unconfigured sinks) (lastEffective? calls) := by
  induction calls using List.reverseRecOn with
  | nil => exact rfl
  | append_singleton calls call ih =>
    rw [callAll_concat, lastEffective?_concat]
    exact ih.obeysLast_call call

/-- **Setting up a log again and again.** After any calls the log is as the last effective one asks for it, and
untouched where there is none. The next call does nothing under the profile last set up; under another profile
it fails and changes nothing if its filter cannot be read, so that a readable one can still be set up later. -/
theorem callAll_obeysLast (sinks : List Sink) (calls : List Call) :
    let first := unconfigured sinks
    let setup := first.callAll calls
    setup.ObeysLast first (lastEffective? calls) ∧
    ∀ call,
      (setup.profile = some call.profile →
        setup.call call = (setup, .ok ()) ∧ lastEffective? (calls ++ [call]) = lastEffective? calls) ∧
      (setup.profile ≠ some call.profile → ∀ error, call.filter = .error error →
        setup.call call = (setup, .error error) ∧ lastEffective? (calls ++ [call]) = lastEffective? calls ∧
        ∀ later again filter, lastEffective? (calls ++ call :: later) = lastEffective? calls →
          again.profile = call.profile → again.filter = .ok filter →
          ((first.callAll (calls ++ call :: later)).call again).2 = .ok () ∧
          ((first.callAll (calls ++ call :: later)).call again).1.Obeys again) ∧
      (setup.profile ≠ some call.profile → ∀ filter, call.filter = .ok filter →
        (setup.call call).2 = .ok () ∧ (setup.call call).1.Obeys call ∧
        lastEffective? (calls ++ [call]) = some call) := by
  intro first setup
  have hobeys : setup.ObeysLast first (lastEffective? calls) := obeysLast_callAll sinks calls
  have hprofile_eq : setup.profile = (lastEffective? calls).map (·.profile) := hobeys.profile_eq
  refine ⟨hobeys, fun call => ⟨fun hprofile => ?_, fun hprofile error hfilter => ?_,
    fun hprofile filter hfilter => ?_⟩⟩
  · refine ⟨call_of_profile_eq hprofile, lastEffective?_concat_of_not fun heffective => ?_⟩
    exact (Call.isEffective_iff.mp heffective).2 (hprofile_eq ▸ hprofile)
  · refine ⟨call_of_error hprofile hfilter, lastEffective?_concat_of_not (not_isEffective_of_error hfilter), ?_⟩
    intro later again filter hlater hagain hreadable
    have hobeys' := obeysLast_callAll sinks (calls ++ call :: later)
    have hprofile' : (first.callAll (calls ++ call :: later)).profile ≠ some again.profile := by
      rw [hobeys'.profile_eq, hlater, hagain, ← hprofile_eq]
      exact hprofile
    exact call_of_ok hobeys'.forwarders_le hprofile' hreadable
  · obtain ⟨hok, hobeys'⟩ := call_of_ok hobeys.forwarders_le hprofile hfilter
    refine ⟨hok, hobeys', ?_⟩
    rw [lastEffective?_concat, if_pos (Call.isEffective_iff.mpr ⟨⟨filter, hfilter⟩, hprofile_eq ▸ hprofile⟩)]

/-- The second filter comes under the profile of the first and is not even read, the third cannot be read, and
the fourth replaces the first. -/
theorem callAll_obeysLast_of_retry :
    let environment := fun text => [("TYPEUNIFY_LOG_FILTER", text)]
    let first := unconfigured [⟨.default, ⟨.debug, []⟩⟩]
    let chosen : Call := ⟨.default, environment "warning"⟩
    let calls : List Call := [chosen, ⟨.default, environment "verbose"⟩]
    let failed : Call := ⟨.rich, environment "info,typeunify.core=loud"⟩
    let again : Call := ⟨.rich, environment "debug, typeunify.solver=false"⟩
    (first.callAll calls).Obeys chosen ∧
      (first.callAll calls).call failed = (first.callAll calls, .error ⟨"loud"⟩) ∧
      ((first.callAll (calls ++ [failed])).call again).2 = .ok () ∧
      ((first.callAll (calls ++ [failed])).call again).1.Obeys again := by
  intro environment first chosen calls failed again
  obtain ⟨hobeys, hnext⟩ := callAll_obeysLast [⟨.default, ⟨.debug, []⟩⟩] calls
  have hlast : lastEffective? calls = some chosen := by
    dsimp only [calls, chosen, environment]
    rfl
  have herror : failed.filter = .error ⟨"loud"⟩ := by
    dsimp only [failed, environment]
    rfl
  have hlater : lastEffective? (calls ++ [failed]) = lastEffective? calls := by
    dsimp only [calls, chosen, failed, environment]
    rfl
  have hok : again.filter = .ok ⟨.debug, [("typeunify.solver", .silent)]⟩ := by
    dsimp only [again, environment]
    rfl
  rw [hlast] at hobeys
  have hprofile : (first.callAll calls).profile ≠ some failed.profile := by
    rw [hobeys.profile]
    decide
  obtain ⟨hfailed, _, hagain⟩ := (hnext failed).2.1 hprofile _ herror
  exact ⟨hobeys, hfailed, hagain [] again _ hlater rfl hok⟩

end TypeEquations.Log.Setup
