import HistoryTrim.Proofs.Database.LatestRows
import HistoryTrim.Proofs.Registrations
import HistoryTrim.Proofs.ScanOrders

/-! # The ordered path of registered tables

A table is put on the ordered path by what the catalog says about its columns. A batch asks its
definition instead: it deletes nothing where that does not call the leading key an integer. Where the
two agree, nothing but the database can make a trim fail; where they do not, every trim of the table
fails, and none of them falls back.
-/

namespace HistoryTrim

open VersionStore Database

namespace Database

variable {db : Database} {t : Table} {leading : KeyColumn} {further : List KeyColumn}

theorem batch_error (valid : t.validate = .ok ()) (keys : t.keys = leading :: further)
    (integer : leading.type = .integer) {selector : RowSelector} {limit : Option Nat}
    {e : StoreError} (failed : (db.batch t selector limit).outcome = .error e) :
    ∃ cause, e = .database cause := by
  cases db.batch_ends t selector limit with
  | refused refused ends =>
      rw [ends] at failed
      cases failed
      cases refused with
      | invalid invalid => cases invalid.symm.trans valid
      | keyless _ keyless =>
          rw [keys] at keyless
          cases keyless
      | leading _ first other =>
          rw [keys] at first
          cases first
          exact absurd integer other
      | missing | unnumbered => exact ⟨_, rfl⟩
  | unread _ _ ends | readOnly _ _ _ _ ends =>
      rw [ends] at failed
      cases failed
      exact ⟨_, rfl⟩
  | done _ _ _ ends =>
      rw [ends] at failed
      cases failed

theorem runBatches_error (valid : t.validate = .ok ()) (keys : t.keys = leading :: further)
    (integer : leading.type = .integer) {size : Option BatchSize} {selector : RowSelector}
    {e : StoreError} (failed : (runBatches t size db selector).failure = some e) :
    ∃ cause, e = .database cause := by
  induction db, selector using runBatches_induct (σ := Database) t size with
  | failed db selector e' refused run =>
      rw [run] at failed
      cases failed
      exact batch_error valid keys integer refused
  | last db selector deleted done few run =>
      rw [run] at failed
      cases failed
  | full db selector n deleted sized done enough run ih =>
      rw [run] at failed
      exact ih failed

end Database

theorem Table.leading_of_available {t : Table} {catalog : Catalog} {index : String}
    (available : t.scanOrder catalog = .available index) :
    ∃ leading further, t.keys = leading :: further ∧
      catalog.columnType t.name leading.name = .ok (some .integer) := by
  cases keys : t.keys with
  | nil =>
      simp only [scanOrder, checkScanOrder, keyNames, keys, List.map_nil] at available
      cases available
  | cons leading further =>
      obtain ⟨i, gives, -⟩ := (scanOrder_eq_available_iff keys).1 available
      exact ⟨leading, further, rfl, gives.candidate.integer⟩

namespace Trimmer

variable {u : Trimmer} {db : Database} {e : Entry} {trimHeight : Height} {leading : KeyColumn}
  {further : List KeyColumn}

/-- Work on the ordered path fails by the database, if the definition calls its leading key an
    integer. -/
theorem work_error (ordered : e.order.path = .ordered) (valid : e.table.validate = .ok ())
    (keys : e.table.keys = leading :: further) (integer : leading.type = .integer)
    {cause : StoreError} (failed : (u.work db e trimHeight).1.failure? = some cause) :
    ∃ c, cause = .database c := by
  simp only [work, ordered] at failed
  exact runBatches_error valid keys integer failed

/-- Otherwise it always fails, before the first batch. -/
theorem work_refused (ordered : e.order.path = .ordered) (valid : e.table.validate = .ok ())
    (keys : e.table.keys = leading :: further) (other : leading.type ≠ .integer) :
    u.work db e trimHeight =
      (.ordered [] (some (.nonIntegerLeadingKey e.table.name leading.name)), db) := by
  let selector := RowSelector.start (u.rule trimHeight)
  have batch : VersionStore.deleteBatch db e.table selector.restartGroup
      (u.batchSize.map BatchSize.rows) = _ := batch_refused valid keys other db _ _
  have run : trimOrdered db e.table u.batchSize (u.rule trimHeight) = _ :=
    runBatches_failed (congrArg Batch.outcome batch)
  rw [batch] at run
  simp only [work, ordered]
  rw [← rule, run]

end Trimmer

/-- Of a table that was found fit for the ordered path the store shows an integer as the leading key.
    Until its name is registered anew, all its attempts take that path. If the definition calls the
    leading key an integer too, nothing but the database makes one fail; otherwise every one of them
    fails, since the batches refuse it. -/
theorem registered_for_ordered_path (settings : TrimSettings) (metrics : Metrics) (db : Database)
    (before : List (Call Database)) {table : Table} {index : String} {x : Session Database}
    (registered : ((⟨.withMetrics settings metrics, db⟩ : Session Database).run before).2.answer
      (.register table) = (.registered (.ok (.available index)), x))
    (calls : List (Call Database)) (keeps : ∀ call ∈ calls, ¬ call.Renews table.name) :
    ∃ leading further, table.keys = leading :: further ∧
      (VersionStore.catalog x.store).columnType table.name leading.name = .ok (some .integer) ∧
      ∀ a : Attempt, .attempted a ∈ Exchange.outcomes (x.run calls).1 → a.table = table.name →
        a.work.path = .ordered ∧
        (leading.type = .integer →
          ∀ e, a.work.failure? = some e → ∃ cause, e = .database cause) ∧
        (leading.type ≠ .integer →
          a.work = .ordered [] (some (.nonIntegerLeadingKey table.name leading.name))) := by
  let start : Session Database := ⟨.withMetrics settings metrics, db⟩
  have fresh : (Trimmer.names start.trimmer.entries).Nodup := .nil
  obtain ⟨only, valid, order⟩ :=
    Session.registrations_register (Session.names_run fresh before) registered
  obtain ⟨leading, further, keys, shown⟩ := Table.leading_of_available order.symm
  refine ⟨leading, further, keys, shown, fun a met own => ?_⟩
  obtain ⟨e, u, db', trimHeight, rfl, available, work⟩ :=
    Session.exists_work_of_run only calls keeps met own
  have ordered : e.order.path = .ordered := by
    rw [available]
    rfl
  rw [work]
  refine ⟨(u.path_work db' e trimHeight).trans ordered, fun integer cause failed => ?_, fun other => ?_⟩
  · exact Trimmer.work_error ordered valid keys integer failed
  · exact congrArg Prod.fst (Trimmer.work_refused ordered valid keys other)

section Accounts

open MemoryStore (accounts)

/-- The table of accounts, as it is created. -/
def accountsDatabase : Database := (createVersioned {} accounts).2

/-- The same table under a definition that takes the leading key for a text. -/
def textAccounts : Table := { accounts with keys := [⟨"id", .text⟩] }

theorem registered_for_ordered_path_accounts :
    let start : Session Database := ⟨.withMetrics {} {}, accountsDatabase⟩
    let calls : List (Call Database) := [.trim 10, .trimTable "account" 6]
    ∃ x : Session Database,
      (start.run []).2.answer (.register accounts) =
        (.registered (.ok (.available "account_trim_idx")), x) ∧
      (∀ call ∈ calls, ¬ call.Renews accounts.name) ∧
      (∃ a : Attempt, .attempted a ∈ Exchange.outcomes (x.run calls).1 ∧ a.table = "account") ∧
      ∀ a : Attempt, .attempted a ∈ Exchange.outcomes (x.run calls).1 → a.table = "account" →
        ∀ e, a.work.failure? = some e → ∃ cause, e = .database cause := by
  intro start calls
  have valid : accounts.validate = .ok () := by decide +kernel
  have available : accounts.scanOrder (VersionStore.catalog accountsDatabase) =
      .available "account_trim_idx" := by decide +kernel
  have registered := start.answer_register valid
  simp only [start, available] at registered
  have keeps : ∀ call ∈ calls, ¬ call.Renews accounts.name := by
    simp [calls, Call.Renews]
  obtain ⟨leading, further, keys, -, attempts⟩ :=
    registered_for_ordered_path {} {} accountsDatabase [] registered calls keeps
  cases keys
  refine ⟨_, registered, keeps, ⟨_, .head _, rfl⟩, fun a met own => ?_⟩
  exact (attempts a met own).2.1 rfl

/-- The table is registered for the ordered path, and no trim of it succeeds. -/
theorem registered_and_refused :
    let start : Session Database := ⟨.new {}, accountsDatabase⟩
    textAccounts.validate = .ok () ∧ ∃ x : Session Database,
      start.answer (.register textAccounts) =
        (.registered (.ok (.available "account_trim_idx")), x) ∧
      ∀ trimHeight, (x.answer (.trimTable "account" trimHeight)).1 =
        .single ⟨"account", .ordered [] (some (.nonIntegerLeadingKey "account" "id"))⟩ := by
  intro start
  have valid : textAccounts.validate = .ok () := by decide +kernel
  have available : textAccounts.scanOrder (VersionStore.catalog accountsDatabase) =
      .available "account_trim_idx" := by decide +kernel
  have registered := start.answer_register valid
  simp only [start, available] at registered
  refine ⟨valid, _, registered, fun trimHeight => ?_⟩
  let e : Entry := ⟨textAccounts, .available "account_trim_idx", 0⟩
  let u : Trimmer := { start.trimmer with entries := [e] }
  have text : (⟨"id", .text⟩ : KeyColumn).type ≠ .integer := by decide
  have refused : u.work accountsDatabase e trimHeight =
      (.ordered [] (some (.nonIntegerLeadingKey "account" "id")), accountsDatabase) :=
    Trimmer.work_refused rfl valid rfl text
  exact congrArg (fun work : Work × Database => Answer.single ⟨"account", work.1⟩) refused

end Accounts

end HistoryTrim
