import HistoryTrim.Table.Schema

/-! # Usable definitions

A definition is checked in three rounds: that there is a key, that the names are plain, that no column is
named twice. A later round comes only if the earlier ones have found nothing, and each reports the first
thing that it finds.
-/

namespace HistoryTrim

namespace Text

def IsLetter (c : Char) : Prop := 'A' ≤ c ∧ c ≤ 'Z' ∨ 'a' ≤ c ∧ c ≤ 'z'

def IsDigit (c : Char) : Prop := '0' ≤ c ∧ c ≤ '9'

instance (c : Char) : Decidable (IsLetter c) := inferInstanceAs (Decidable (_ ∨ _))

instance (c : Char) : Decidable (IsDigit c) := inferInstanceAs (Decidable (_ ∧ _))

/-- A name that the pattern `[A-Za-z_][A-Za-z0-9_]*` matches. -/
def IsPlainName (name : String) : Prop :=
  ∃ first rest, name.toList = first :: rest ∧ (IsLetter first ∨ first = '_') ∧
    ∀ c ∈ rest, IsLetter c ∨ IsDigit c ∨ c = '_'

theorem isAlpha_iff (c : Char) : c.isAlpha = true ↔ IsLetter c := by
  have upper : c.isUpper = true ↔ 'A' ≤ c ∧ c ≤ 'Z' := decide_eq_true_iff
  have lower : c.isLower = true ↔ 'a' ≤ c ∧ c ≤ 'z' :=
    (Bool.and_eq_true ..).to_iff.trans (and_congr decide_eq_true_iff decide_eq_true_iff)
  exact (Bool.or_eq_true ..).to_iff.trans (or_congr upper lower)

theorem isDigit_iff (c : Char) : c.isDigit = true ↔ IsDigit c :=
  (Bool.and_eq_true ..).to_iff.trans (and_congr decide_eq_true_iff decide_eq_true_iff)

theorem isNameStart_iff (c : Char) : isNameStart c = true ↔ IsLetter c ∨ c = '_' := by
  rw [isNameStart, Bool.or_eq_true, isAlpha_iff, beq_iff_eq]

theorem isNameRest_iff (c : Char) : isNameRest c = true ↔ IsLetter c ∨ IsDigit c ∨ c = '_' := by
  have letterOrDigit : c.isAlphanum = true ↔ IsLetter c ∨ IsDigit c :=
    (Bool.or_eq_true ..).to_iff.trans (or_congr (isAlpha_iff c) (isDigit_iff c))
  rw [isNameRest, Bool.or_eq_true, letterOrDigit, beq_iff_eq, or_assoc]

theorem isIdentifier_iff (name : String) : isIdentifier name = true ↔ IsPlainName name := by
  unfold isIdentifier IsPlainName
  cases name.toList with
  | nil => simp
  | cons first rest =>
      simp only [Bool.and_eq_true, isNameStart_iff, List.all_eq_true, isNameRest_iff]
      constructor
      · rintro ⟨start, others⟩
        exact ⟨first, rest, rfl, start, others⟩
      · rintro ⟨_, _, same, start, others⟩
        cases same
        exact ⟨start, others⟩

end Text

theorem firstRepeated?_eq_none_iff {seen names : List String} :
    firstRepeated? seen names = none ↔ names.Nodup ∧ ∀ name ∈ names, name ∉ seen := by
  induction names generalizing seen with
  | nil => simp [firstRepeated?]
  | cons n ns ih =>
      by_cases known : n ∈ seen
      · simp [firstRepeated?, known]
      · simp only [firstRepeated?, known, if_false, ih, List.nodup_cons, List.mem_cons, not_or]
        grind

theorem firstRepeated?_eq_some_iff {seen names : List String} {name : String} :
    firstRepeated? seen names = some name ↔
      ∃ before after, names = before ++ name :: after ∧ firstRepeated? seen before = none ∧
        (name ∈ seen ∨ name ∈ before) := by
  induction names generalizing seen with
  | nil => simp [firstRepeated?]
  | cons n ns ih =>
      by_cases known : n ∈ seen
      · simp only [firstRepeated?, known, if_true, Option.some.injEq]
        constructor
        · rintro rfl
          exact ⟨[], ns, rfl, rfl, .inl known⟩
        · rintro ⟨before, after, names, fresh, -⟩
          cases before with
          | nil => exact (List.cons.inj names).1
          | cons b bs =>
              obtain ⟨rfl, -⟩ := List.cons.inj names
              simp [firstRepeated?, known] at fresh
      · simp only [firstRepeated?, known, if_false, ih]
        constructor
        · rintro ⟨before, after, rfl, fresh, again⟩
          refine ⟨n :: before, after, rfl, by simp [firstRepeated?, known, fresh], ?_⟩
          simpa [or_assoc, or_comm, or_left_comm] using again
        · rintro ⟨before, after, names, fresh, again⟩
          cases before with
          | nil =>
              obtain ⟨rfl, -⟩ := List.cons.inj names
              simp [known] at again
          | cons b bs =>
              obtain ⟨rfl, rfl⟩ := List.cons.inj names
              refine ⟨bs, after, rfl, by simpa [firstRepeated?, known] using fresh, ?_⟩
              simpa [or_assoc, or_comm, or_left_comm] using again

namespace Table

/-- There is a key, the names are plain, and no column is named twice. -/
structure Usable (t : Table) : Prop where
  keyed : t.keys ≠ []
  plain : ∀ name ∈ t.name :: t.columnNames, Text.IsPlainName name
  distinct : t.columnNames.Nodup

/-- What a definition lacks first. The names come in the order of the table, its keys, the height and
    the latest flag; a column counts as repeated where it comes for the second time. -/
inductive FirstDefect (t : Table) : DefinitionError → Prop where
  | keyless (bare : t.keys = []) : FirstDefect t (.noKeyColumns t.name)
  | unplain {before after : List String} {name : String} (keyed : t.keys ≠ [])
      (names : t.name :: t.columnNames = before ++ name :: after)
      (earlier : ∀ n ∈ before, Text.IsPlainName n) (wrong : ¬ Text.IsPlainName name) :
      FirstDefect t (.invalidIdentifier name)
  | repeated {before after : List String} {column : String} (keyed : t.keys ≠ [])
      (plain : ∀ name ∈ t.name :: t.columnNames, Text.IsPlainName name)
      (columns : t.columnNames = before ++ column :: after) (distinct : before.Nodup)
      (again : column ∈ before) :
      FirstDefect t (.duplicateColumn t.name column)

variable {t : Table}

theorem find?_unplain_eq_none_iff {names : List String} :
    names.find? (fun n => !Text.isIdentifier n) = none ↔ ∀ n ∈ names, Text.IsPlainName n := by
  simp only [List.find?_eq_none, Bool.not_eq_true', Bool.not_eq_false, Text.isIdentifier_iff]

theorem find?_unplain_eq_some_iff {names : List String} {name : String} :
    names.find? (fun n => !Text.isIdentifier n) = some name ↔ ¬ Text.IsPlainName name ∧
      ∃ before after, names = before ++ name :: after ∧ ∀ n ∈ before, Text.IsPlainName n := by
  simp only [List.find?_eq_some_iff_append, Bool.not_not, Bool.not_eq_true', ← Bool.not_eq_true,
    Text.isIdentifier_iff]

theorem validate_of_usable (usable : t.Usable) : t.validate = .ok () := by
  have plain := find?_unplain_eq_none_iff.2 usable.plain
  have distinct : firstRepeated? [] t.columnNames = none :=
    firstRepeated?_eq_none_iff.2 ⟨usable.distinct, fun _ _ => List.not_mem_nil⟩
  simp only [validate, List.isEmpty_iff, usable.keyed, if_false, plain, distinct]

theorem validate_of_firstDefect {e : DefinitionError} (first : t.FirstDefect e) :
    t.validate = .error e := by
  cases first with
  | keyless bare => simp only [validate, bare, List.isEmpty_nil, if_true]
  | unplain keyed names earlier wrong =>
      have found := find?_unplain_eq_some_iff.2 ⟨wrong, _, _, names, earlier⟩
      simp only [validate, List.isEmpty_iff, keyed, if_false, found]
  | repeated keyed plain columns distinct again =>
      have found : firstRepeated? [] t.columnNames = some _ :=
        firstRepeated?_eq_some_iff.2 ⟨_, _, columns,
          firstRepeated?_eq_none_iff.2 ⟨distinct, fun _ _ => List.not_mem_nil⟩, .inr again⟩
      simp only [validate, List.isEmpty_iff, keyed, if_false, find?_unplain_eq_none_iff.2 plain,
        found]

theorem usable_or_firstDefect (t : Table) : t.Usable ∨ ∃ e, t.FirstDefect e := by
  by_cases keyed : t.keys = []
  · exact .inr ⟨_, .keyless keyed⟩
  cases unplain : (t.name :: t.columnNames).find? fun n => !Text.isIdentifier n with
  | some name =>
      obtain ⟨wrong, before, after, names, earlier⟩ := find?_unplain_eq_some_iff.1 unplain
      exact .inr ⟨_, .unplain keyed names earlier wrong⟩
  | none =>
      have plain := find?_unplain_eq_none_iff.1 unplain
      cases repeated : firstRepeated? [] t.columnNames with
      | some column =>
          obtain ⟨before, after, columns, fresh, again⟩ := firstRepeated?_eq_some_iff.1 repeated
          exact .inr ⟨_, .repeated keyed plain columns (firstRepeated?_eq_none_iff.1 fresh).1
            (again.resolve_left List.not_mem_nil)⟩
      | none => exact .inl ⟨keyed, plain, (firstRepeated?_eq_none_iff.1 repeated).1⟩

theorem validate_eq_ok_iff : t.validate = .ok () ↔ t.Usable := by
  refine ⟨fun valid => t.usable_or_firstDefect.resolve_right ?_, validate_of_usable⟩
  rintro ⟨e, first⟩
  rw [validate_of_firstDefect first] at valid
  cases valid

theorem validate_eq_error_iff {e : DefinitionError} : t.validate = .error e ↔ t.FirstDefect e := by
  refine ⟨fun refused => ?_, validate_of_firstDefect⟩
  rcases t.usable_or_firstDefect with usable | ⟨e', first⟩
  · rw [validate_of_usable usable] at refused
    cases refused
  · rw [validate_of_firstDefect first] at refused
    cases refused
    exact first

theorem validate_eq (keys : t.keys ≠ [])
    (plain : ∀ name ∈ t.name :: t.columnNames, Text.isIdentifier name = true)
    (nodup : t.columnNames.Nodup) : t.validate = .ok () :=
  validate_of_usable ⟨keys, fun name hn => (Text.isIdentifier_iff name).1 (plain name hn), nodup⟩

theorem nodup_of_validate (valid : t.validate = .ok ()) : t.columnNames.Nodup :=
  (validate_eq_ok_iff.1 valid).distinct

end Table

end HistoryTrim
