import TypeEquations.Log.Filter

/-!
# Setting up the log

Until a log is set up the messages of the package are held back. Setting up another profile than the last one,
with a readable filter, lets them pass and puts one sink in the place of all that there are.
-/

namespace TypeEquations.Log

inductive Profile where
  | default
  | rich
deriving DecidableEq

def Profile.name : Profile → String
  | default => "default"
  | rich => "rich"

def Profile.ofName? (name : String) : Option Profile :=
  [default, rich].find? (·.name = name)

structure Sink where
  profile : Profile
  filter : Filter
deriving DecidableEq

/-- The logging of a process: the profile last set up, the sinks for messages, whether messages of the package
pass, and how many handlers forward the messages of other libraries. -/
structure Setup where
  profile : Option Profile
  sinks : List Sink
  enabled : Bool
  forwarders : Nat
deriving DecidableEq

namespace Setup

/-- A process that has not set up its log, but may have sinks from elsewhere. -/
def unconfigured (sinks : List Sink) : Setup :=
  ⟨none, sinks, false, 0⟩

def initial : Setup :=
  unconfigured []

def removeSinks (setup : Setup) : Setup :=
  { setup with sinks := [] }

def enable (setup : Setup) : Setup :=
  { setup with enabled := true }

def addSink (setup : Setup) (sink : Sink) : Setup :=
  { setup with sinks := setup.sinks ++ [sink] }

def withForwarder (setup : Setup) : Setup :=
  -- one handler forwards the messages of other libraries, however often this is asked for
  if setup.forwarders = 0 then { setup with forwarders := setup.forwarders + 1 } else setup

/-- Sets up a profile, unless it is the one last set up. An unreadable filter changes nothing. -/
def configure (setup : Setup) (profile : Profile) (filterText : String) :
    Setup × Except UnknownLevel Unit :=
  if setup.profile = some profile then (setup, .ok ())
  else
    match Filter.parse filterText with
    | .error error => (setup, .error error)
    | .ok filter =>
      let replaced := setup.removeSinks.enable.addSink ⟨profile, filter⟩
      ({ replaced.withForwarder with profile := some profile }, .ok ())

def isOwn (module : String) : Bool :=
  "typeunify.".toList.isPrefixOf (module.toList ++ ['.'])

def shows (setup : Setup) (module : String) (level : Level) : Bool :=
  (setup.enabled || !isOwn module) && setup.sinks.any (·.filter.admits module level)

/-- Messages of other libraries are forwarded from `warning` on. -/
def showsForwarded (setup : Setup) (module : String) (level : Level) : Bool :=
  setup.forwarders ≠ 0 && Level.warning.severity ≤ level.severity && setup.shows module level

end Setup

end TypeEquations.Log
