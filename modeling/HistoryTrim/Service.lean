import HistoryTrim.Config
import HistoryTrim.Connection
import HistoryTrim.Database.HeightQuery
import HistoryTrim.Database.Store
import HistoryTrim.Trimmer

/-! # Services and reports

How a configured service starts, and how an error is reported when it does not.
-/

/-! ## Error reports

An error is reported with the errors that caused it, from the outermost to the innermost.
-/

namespace HistoryTrim

/-- The wordings of an error and of what caused it. -/
structure Report where
  message : String
  causes : List String := []
  deriving Repr, DecidableEq

namespace Report

/-- An error that was caused by the one of a report. -/
def because (message : String) (r : Report) : Report := ⟨message, r.message :: r.causes⟩

/-- The lines of a text, with a blank margin before all but the first one. -/
def indented (margin : String) (text : String) : String :=
  ("\n" ++ margin).intercalate ((text.toList.splitOn '\n').map String.ofList)

/-- A cause with its number, if it has one. -/
def causeLine (number : Option Nat) (text : String) : String :=
  match number with
  | none => "    " ++ indented "    " text
  | some n =>
    let digits := toString n
    String.ofList (List.replicate (5 - digits.length) ' ') ++ digits ++ ": " ++
      indented "       " text

/-- The causes, one after the other; numbered from zero if there are several. -/
def causeLines : List String → List String
  | [cause] => [causeLine none cause]
  | causes => causes.zipIdx.map fun c => causeLine (some c.2) c.1

def render (r : Report) : String :=
  if r.causes.isEmpty then s!"Error: {r.message}"
  else s!"Error: {r.message}\n\nCaused by:\n" ++ "\n".intercalate (causeLines r.causes)

end Report

def DefinitionError.report (e : DefinitionError) : Report := ⟨e.message, []⟩

def OptionsError.report (e : OptionsError) : Report :=
  match e with
  | invalidTable _ cause => cause.report.because e.message
  | _ => ⟨e.message, []⟩

def Database.EngineError.report (e : Database.EngineError) : Report := ⟨e.message, [e.numbered]⟩

def Database.DatabaseError.report (e : Database.DatabaseError) : Report :=
  match e with
  | .engine cause => cause.report
  | .mismatch _ wanted found => ⟨e.message, [mismatchText wanted found]⟩
  | .noRow => ⟨e.message, []⟩

def StoreError.report (e : StoreError) : Report :=
  match e with
  | database cause => cause.report.because e.message
  | invalidTable cause => cause.report.because e.message
  | _ => ⟨e.message, []⟩

def TrimError.report (e : TrimError) : Report :=
  match e with
  | unknownTable _ => ⟨e.message, []⟩
  | invalidTable cause => cause.report.because e.message
  | store cause => cause.report.because e.message

def ConnectionError.report (e : ConnectionError) : Report :=
  match e with
  | address cause => ⟨e.message, [cause.message]⟩
  | nulInName => ⟨e.message, [nulText]⟩
  | engine cause => cause.report

/-! ## Services

A service is an open database with a trimmer that has all configured tables registered.
-/

/-- Register tables one after the other, and say how each can be trimmed. -/
def Trimmer.registerAll (catalog : Catalog) :
    List Table → Trimmer → Except (Table × TrimError) (List (String × ScanOrder) × Trimmer)
  | [], t => .ok ([], t)
  | table :: tables, t =>
    match t.register catalog table with
    | .error e => .error (table, e)
    | .ok (order, t) => do
      let (orders, t) ← registerAll catalog tables t
      return ((table.name, order) :: orders, t)

structure Service where
  config : Config
  connection : Connection
  trimmer : Trimmer
  /-- How each registration found that its table can be trimmed. -/
  registrations : List (String × ScanOrder)
  /-- The directory with the file of the database. -/
  directory : Directory

inductive StartError where
  | options (cause : OptionsError)
  | connection (dsn : String) (cause : ConnectionError)
  | registration (table : String) (cause : TrimError)
  deriving Repr, DecidableEq

namespace StartError

def report : StartError → Report
  | options e => e.report.because "Invalid trim configuration"
  | connection dsn e => e.report.because s!"Failed to connect to database {dsn}"
  | registration table e => e.report.because s!"Failed to register table {table}"

end StartError

namespace Service

/-- Start a service: check the options, open the database, register the tables. -/
def start (directory : Directory) (config : Config) : Except StartError Service := do
  let settings ← config.trim.settings.mapError .options
  let (connection, directory) ←
    (Connection.connect directory config.dsn).mapError (.connection config.dsn)
  let (registrations, trimmer) ←
    ((Trimmer.new settings).registerAll connection.database.catalog config.trim.tables).mapError
      fun e => .registration e.1.name e.2
  return { config, connection, trimmer, registrations, directory }

/-- Where the service reads the current height. -/
def heightSource (s : Service) : HeightSource :=
  s.connection.database.heightSource s.config.trim.heightQuery s.config.trim.maxRollback

/-- The service after a trim. -/
def after (s : Service) (trimmer : Trimmer) (database : Database) : Service :=
  { s with
    trimmer
    connection := { s.connection with database }
    directory := s.connection.save database s.directory }

/-- One opportunity at a given height, or at the one that the height query answers. -/
def trim (s : Service) (height : Option Height) : Except TrimError (TrimRun × Service) :=
  match height with
  | some h =>
    let (run, trimmer, database) := s.trimmer.trim s.connection.database h
    .ok (run, s.after trimmer database)
  | none => do
    let (run, trimmer, database) ← s.trimmer.trimFrom s.connection.database s.heightSource
    return (run, s.after trimmer database)

end Service

end HistoryTrim
