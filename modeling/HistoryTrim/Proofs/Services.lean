import HistoryTrim.Command.Run
import HistoryTrim.Proofs.Database.OrderedPath
import HistoryTrim.Proofs.Dictionaries
import HistoryTrim.Proofs.Options
import HistoryTrim.Proofs.Registrations

/-! # Services that start

The checks of a configuration are spread over its options and the rest of it. Together they leave
tables that are usable and have names of their own, and such tables are all registered, in their order,
whatever the catalog of the database holds.
-/

namespace HistoryTrim

namespace TrimOptions

theorem multiplier_eq (o : TrimOptions) (due : ∀ e ∈ o.frequency.entries, 1 ≤ e.2)
    (name : String) :
    (Scheduler.ofMultipliers o.frequency).multiplier name = o.frequencyFor name := by
  cases given : o.frequency.get? name with
  | none => simp only [Scheduler.multiplier, Scheduler.ofMultipliers, frequencyFor, given,
      Option.getD_none]
  | some m =>
      have least : 1 ≤ m := due (name, m) (Dictionary.mem_entries_of_get? given)
      have positive : m ≠ 0 := fun zero => absurd (zero ▸ least) (by decide)
      simp only [Scheduler.multiplier, Scheduler.ofMultipliers, frequencyFor, given, positive,
        if_false, Option.getD_some]

end TrimOptions

namespace Config

theorem checkTables_eq_ok_iff (seen : List String) (tables : List Table) :
    checkTables seen tables = .ok () ↔
      (∀ t ∈ tables, t.keys ≠ [] ∧ t.name ∉ seen) ∧ (tables.map Table.name).Nodup := by
  induction tables generalizing seen with
  | nil => simp [checkTables]
  | cons t tables ih =>
      by_cases keyless : t.keys = []
      · simp [checkTables, keyless]
      · by_cases known : t.name ∈ seen
        · simp [checkTables, keyless, known]
        · simp only [checkTables, keyless, known, List.isEmpty_iff, if_false, ih, List.mem_cons,
            List.map_cons, List.nodup_cons, List.mem_map]
          grind

theorem nodup_of_check {c : Config} (checked : c.check = .ok ()) :
    (c.trim.tables.map Table.name).Nodup := by
  unfold check at checked
  split at checked
  · cases checked
  · split at checked
    · cases checked
    · exact ((checkTables_eq_ok_iff [] c.trim.tables).1 checked).2

end Config

theorem Command.failure_validate_iff (directory : Directory) (c : Config) (runName : String)
    (signal : Signal) :
    (Command.validate.run directory c runName signal).failure = none ↔
      c.trim.check = .ok () ∧ c.check = .ok () := by
  simp only [run, runValidate]
  cases c.trim.check with
  | error e => simp
  | ok => cases c.check <;> simp

/-- A table with what a catalog says of it, and with a lock. -/
def Entry.ofCatalog (catalog : Catalog) (table : Table × Nat) : Entry :=
  ⟨table.1, table.1.scanOrder catalog, table.2⟩

namespace Trimmer

theorem install_new {table : Table} {es : List Entry} (new : table.name ∉ names es)
    (order : ScanOrder) (lock : Nat) :
    install table order lock es = es ++ [⟨table, order, lock⟩] := by
  induction es with
  | nil => rfl
  | cons e es ih =>
      have other : e.table.name ≠ table.name := fun same =>
        new (same ▸ List.mem_cons_self)
      have rest : table.name ∉ names es := fun later => new (List.mem_cons_of_mem _ later)
      simp only [install, other, if_false, ih rest, List.cons_append]

/-- Usable tables of new names are all registered, in their order, each with a lock of its own. -/
theorem registerAll_eq_ok (catalog : Catalog) (tables : List Table) (t : Trimmer)
    (valid : ∀ table ∈ tables, table.validate = .ok ())
    (distinct : (names t.entries ++ tables.map Table.name).Nodup) :
    t.registerAll catalog tables =
      .ok (tables.map fun table => (table.name, table.scanOrder catalog),
        { t with entries :=
            t.entries ++ (tables.zipIdx t.entries.length).map (Entry.ofCatalog catalog) }) := by
  induction tables generalizing t with
  | nil => simp [registerAll]
  | cons table tables ih =>
      obtain ⟨first, others⟩ := List.forall_mem_cons.1 valid
      have new : table.name ∉ names t.entries := fun known =>
        (List.nodup_append.1 distinct).2.2 _ known _ List.mem_cons_self rfl
      let entry : Entry := .ofCatalog catalog (table, t.entries.length)
      let u : Trimmer := { t with entries := t.entries ++ [entry] }
      have registered : t.register catalog table = .ok (entry.order, u) := by
        simp only [register, first, install_new new]
        rfl
      have names_u : names u.entries = names t.entries ++ [table.name] := List.map_append
      have rest := ih u others (by rw [names_u]; simpa using distinct)
      have longer : u.entries.length = t.entries.length + 1 := List.length_append
      have behind : u.entries ++ (tables.zipIdx u.entries.length).map (Entry.ofCatalog catalog) =
          t.entries ++ ((table :: tables).zipIdx t.entries.length).map (Entry.ofCatalog catalog) := by
        rw [longer, List.zipIdx_cons, List.map_cons, List.append_assoc, List.singleton_append]
      simp only [registerAll, registered, rest, behind]
      rfl

theorem registrations_ofCatalog (catalog : Catalog) (tables : List Table) (lock : Nat) :
    ((tables.zipIdx lock).map (Entry.ofCatalog catalog)).map Entry.registration =
      tables.map fun t => (t, t.scanOrder catalog) := by
  induction tables generalizing lock with
  | nil => rfl
  | cons t tables ih => simp only [List.zipIdx_cons, List.map_cons, ih, Entry.ofCatalog,
      Entry.registration]

theorem tables_eq (t : Trimmer) :
    t.tables = (t.entries.map Entry.registration).map fun r => (r.1.name, r.2) := by
  rw [List.map_map]
  rfl

end Trimmer

namespace Service

theorem start_eq_ok {directory directory' : Directory} {config : Config} {settings : TrimSettings}
    {connection : Connection} {registrations : List (String × ScanOrder)} {trimmer : Trimmer}
    (derived : config.trim.settings = .ok settings)
    (connected : Connection.connect directory config.dsn = .ok (connection, directory'))
    (registered : (Trimmer.new settings).registerAll connection.database.catalog
      config.trim.tables = .ok (registrations, trimmer)) :
    start directory config =
      .ok ⟨config, connection, trimmer, registrations, directory'⟩ := by
  simp only [start, derived, connected, Except.mapError, bind, Except.bind, registered]
  rfl

section Ledger

open MemoryStore (accounts)

/-- A ledger with accounts, and with holdings that are trimmed at every fourth opportunity. -/
def ledgerConfig : Config where
  dsn := "sqlite://ledger.db"
  trim := {
    frequency := .ofPairs [("holding", 4)]
    tables :=
      [{ name := "holding", keys := [⟨"account", .integer⟩, ⟨"asset", .text⟩] }, accounts] }

theorem read_ledger : Address.read (Address.creating "sqlite://ledger.db") =
    .ok { file := "ledger.db", createIfMissing := true } := by
  have bare : "sqlite://ledger.db".contains '?' = false := by simp
  have silent : (Address.mentionsMemory "sqlite://ledger.db" ||
      Text.occursIn "mode=".toList "sqlite://ledger.db".toList) = false := by decide
  have creating : Address.creating "sqlite://ledger.db" = "sqlite://ledger.db?mode=rwc" := by
    simp only [Address.creating, silent, bare]
    decide
  rw [creating]
  decide +kernel

end Ledger

end Service

end HistoryTrim
