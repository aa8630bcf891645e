import HistoryTrim.Command.Arguments
import HistoryTrim.Config
import HistoryTrim.Config.Load

/-! # Runs of the program

What a command writes, what it tells about its run, how it ends, and what it leaves in the
directory. A service runs one opportunity at once and then waits to be ended.
-/

namespace HistoryTrim

/-- What a run of the program leaves. -/
structure Execution where
  output : List String := []
  events : List Event := []
  failure : Option Report := none
  directory : Directory

namespace Execution

/-- The number that tells the system how a run ended. -/
def exitCode (o : Execution) : Nat := if o.failure.isSome then 1 else 0

/-- The events from a level on. -/
def told (o : Execution) (threshold : Level) : List Event :=
  o.events.filter fun e => threshold.rank ≤ e.level.rank

def afterEvents (events : List Event) (o : Execution) : Execution :=
  { o with events := events ++ o.events }

end Execution

def Config.LoadError.report (e : Config.LoadError) : Report :=
  let cause := match e with
    | .unreadable => "the configuration file is not valid TOML"
    | .misfit m => s!"{m.fault.message} for key {m.place}"
  ⟨"Failed to load configuration", [cause]⟩

namespace Command

/-- The version of the parts that all programs share. -/
def versionLine : String := "common 0.1.0 (1.85.0)"

def programVersionLine : String := "ledgerdb-trimmer 0.1.0"

def runValidate (directory : Directory) (c : Config) : Execution :=
  match c.trim.check with
  | .error e => { failure := some (StartError.options e).report, directory }
  | .ok () =>
    { events := Event.ofCheck c, directory
      failure := match c.check with
        | .ok () => none
        | .error e => some ⟨e.message, []⟩ }

def withService (directory : Directory) (c : Config) (run : Service → Execution) : Execution :=
  match Service.start directory c with
  | .error e => { events := Event.ofStartError e, failure := some e.report, directory }
  | .ok s => (run s).afterEvents (Event.ofService s)

def runOnce (directory : Directory) (c : Config) (runName : String) (height : Option Height) :
    Execution :=
  withService directory c fun s =>
    match s.trim height with
    | .error e =>
      { failure := some (e.report.because "Failed to read current height")
        directory := s.directory }
    | .ok (run, s) =>
      { events := Event.ofNamedRun runName run ++ [.metrics s.trimmer.metrics]
        failure :=
          if run.isSuccess then none
          else some ⟨s!"{run.failures.length} tables failed to trim", []⟩
        directory := s.directory }

def probeLine (table : String) : ScanOrder → String
  | .available index => s!"{table}: ordered (index {index})"
  | .unavailable m => s!"{table}: fallback ({m.message})"

def runProbe (directory : Directory) (c : Config) : Execution :=
  withService directory c fun s =>
    { output := s.trimmer.tables.map fun t => probeLine t.1 t.2, directory := s.directory }

/-- The first opportunity of a service: its events, and the service afterwards. -/
def firstCycle (runName : String) (s : Service) : List Event × Service :=
  match s.trim none with
  | .error e => ([.cycleStarted, .cycleFailed e], s)
  | .ok (run, s) => (.cycleStarted :: Event.ofNamedRun runName run, s)

/-- Run as a service until a signal comes. -/
def runService (directory : Directory) (c : Config) (runName : String) (signal : Signal) :
    Execution :=
  if !c.trim.enabled then { events := [.trimDisabled, .trimDisabledHint], directory }
  else
    (withService directory c fun s =>
      let (cycle, after) := firstCycle runName s
      { events := [.serviceReady c.trim.tickInterval, .serviceWaiting] ++ cycle ++
          [.signalReceived signal, .serviceStopping, .metrics after.trimmer.metrics,
           .serviceStopped]
        directory := after.directory }).afterEvents [.serviceStarting]

def run (directory : Directory) (c : Config) (runName : String) (signal : Signal) :
    Command → Execution
  | start => runService directory c runName signal
  | config true => { output := [c.toJson.render], directory }
  | config false => { output := c.summary, directory }
  | validate => runValidate directory c
  | version => { output := [versionLine], directory }
  | once height => runOnce directory c runName height
  | probe => runProbe directory c

end Command

/-- Run an invocation, given what loading its configuration resulted in. -/
def Invocation.run (i : Invocation) (loaded : Except Config.LoadError Config)
    (directory : Directory) (runName : String) (signal : Signal) : Execution :=
  let loading := i.configFile.toList.map Event.loadingConfig
  match loaded with
  | .error e => { events := loading, failure := some e.report, directory }
  | .ok c => (i.command.run directory c runName signal).afterEvents loading

end HistoryTrim
