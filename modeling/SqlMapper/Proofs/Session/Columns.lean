import Mathlib.Data.List.Pairwise
import SqlMapper.Proofs.Association
import SqlMapper.Proofs.Text.LetterCase
import SqlMapper.Session.Rows

/-!
# Which column a name stands for

A column is looked up by its exact name first, and then by its name in any
case of the ASCII letters. Where no two columns of a row differ only in that
case, a name stands for at most one column, and the values say nothing about
which.

Two questions are asked about the columns of a row and the explicit mappings
of a result map: which value a mapping reads, and which columns are left to
the automatic mapping. They compare names differently, the first one up to the
case of ASCII letters and the second one up to the case of all letters. A
column that a mapping reads is never left to the automatic mapping. But a
column whose name meets that of a mapping only in the case of another letter is
withheld from the automatic mapping and read by no mapping.

## Main definitions

* `ColumnsDiffer` — no two names differ only in the case of ASCII letters.
* `Selects` — a name stands for a column, whatever the columns hold.

## Main results

* `Row.column_of_mem`, `Row.column_of_forall_not` — what is looked up.
* `selects_iff` — which column a name stands for.
* `ResultMap.isMappedColumn_iff_selects_iff` — when the two questions agree
  about a column.
-/

namespace SqlMapper

open Text (sameIgnoringAsciiCase)

/-! ## Names in any case -/

/-- No two columns have names that differ only in the case of ASCII letters. -/
def ColumnsDiffer (columns : List String) : Prop :=
  columns.Pairwise fun a b => ¬ sameIgnoringAsciiCase a b = true

instance (columns : List String) : Decidable (ColumnsDiffer columns) :=
  inferInstanceAs (Decidable (List.Pairwise _ columns))

/-- Columns that differ in upper case differ in more than the case of ASCII
letters. -/
theorem columnsDiffer_of_upper {columns : List String} (h : (columns.map Text.upper).Nodup) :
    ColumnsDiffer columns :=
  (List.pairwise_map.mp h).imp fun hne hsame =>
    hne (Text.SameLetters.upper_eq (Text.sameIgnoringAsciiCase_iff.mp hsame))

/-! ## Looking a column up -/

namespace Row

variable {row : Row} {name column : String} {value : Value}

/-- A name in any case is the name of one column at most. -/
theorem eq_of_named {entry other : String × Value} (hdiffer : ColumnsDiffer row.keys)
    (hentry : entry ∈ row) (hother : other ∈ row)
    (hnamed : sameIgnoringAsciiCase entry.1 name = true)
    (hothernamed : sameIgnoringAsciiCase other.1 name = true) : entry = other := by
  have hpairs : row.Pairwise fun a b => sameIgnoringAsciiCase a.1 b.1 = true → a = b :=
    (List.pairwise_map.mp hdiffer).imp fun hnot h => absurd h hnot
  have : Std.Symm fun a b : String × Value => sameIgnoringAsciiCase a.1 b.1 = true → a = b :=
    ⟨fun _ _ h hsame => (h (Text.sameIgnoringAsciiCase_symm hsame)).symm⟩
  exact hpairs.forall_of_forall (fun _ _ _ => rfl) hentry hother
    (Text.sameIgnoringAsciiCase_trans hnamed (Text.sameIgnoringAsciiCase_symm hothernamed))

/-- A name in any case stands for the column of that name. -/
theorem column_of_mem (hdiffer : ColumnsDiffer row.keys) (hmem : (column, value) ∈ row)
    (hnamed : sameIgnoringAsciiCase column name = true) : row.column name = value := by
  unfold Row.column
  split
  · next found hfound =>
      have heq := eq_of_named hdiffer hmem (Entries.mem_of_find? hfound) hnamed
        (Text.sameIgnoringAsciiCase_refl name)
      exact (Prod.mk.inj heq).2.symm
  · split
    · next other found hfind =>
        have hother := List.find?_some hfind
        have heq := eq_of_named hdiffer hmem (List.mem_of_find?_eq_some hfind) hnamed hother
        exact (Prod.mk.inj heq).2.symm
    · next hnone => exact absurd hnamed (List.find?_eq_none.mp hnone _ hmem)

/-- A name that no column has in any case stands for an absent value. -/
theorem column_of_forall_not (h : ∀ entry ∈ row, ¬ sameIgnoringAsciiCase entry.1 name = true) :
    row.column name = .null := by
  unfold Row.column
  split
  · next found hfound =>
      exact absurd (Text.sameIgnoringAsciiCase_refl name) (h _ (Entries.mem_of_find? hfound))
  · rw [List.find?_eq_none.mpr h]

end Row

/-! ## What a name stands for -/

/-- In rows with these columns the name stands for the column, whatever the
columns hold. -/
def Selects (columns : List String) (name column : String) : Prop :=
  ∀ row : Row, row.keys = columns → row.find? column = some (row.column name)

/-- A row in which one column holds something. -/
def probe (columns : List String) (column : String) : Row :=
  columns.map fun name => (name, if name = column then .bool true else .null)

theorem keys_probe (columns : List String) (column : String) :
    Entries.keys (probe columns column) = columns := by
  simp [Entries.keys, probe, Function.comp_def]

theorem mem_probe_iff {columns : List String} {column : String} {entry : String × Value} :
    entry ∈ probe columns column ↔
      entry.1 ∈ columns ∧ entry.2 = if entry.1 = column then .bool true else .null := by
  obtain ⟨name, value⟩ := entry
  simp only [probe, List.mem_map, Prod.mk.injEq]
  constructor
  · rintro ⟨_, hmem, rfl, rfl⟩
    exact ⟨hmem, rfl⟩
  · rintro ⟨hmem, hvalue⟩
    exact ⟨name, hmem, rfl, hvalue.symm⟩

/-- A name stands for the column whose name it is in some case. -/
theorem selects_iff {columns : List String} {name column : String}
    (hdiffer : ColumnsDiffer columns) (hcolumn : column ∈ columns) :
    Selects columns name column ↔ sameIgnoringAsciiCase column name = true := by
  constructor
  · intro hselects
    have hkeys := keys_probe columns column
    have hprobe : ColumnsDiffer (Entries.keys (probe columns column)) := by rwa [hkeys]
    have hread := Entries.mem_of_find? (hselects (probe columns column) hkeys)
    have hheld : Row.column (probe columns column) name = .bool true :=
      (mem_probe_iff.mp hread).2.trans (if_pos rfl)
    by_cases hfound : ∃ entry ∈ probe columns column, sameIgnoringAsciiCase entry.1 name = true
    · obtain ⟨⟨other, value⟩, hmem, hsame⟩ := hfound
      have hvalue : value = if other = column then .bool true else .null :=
        (mem_probe_iff.mp hmem).2
      rw [Row.column_of_mem hprobe hmem hsame] at hheld
      by_cases hother : other = column
      · exact hother ▸ hsame
      · rw [if_neg hother, hheld] at hvalue
        cases hvalue
    · rw [Row.column_of_forall_not fun entry hmem hsame => hfound ⟨entry, hmem, hsame⟩] at hheld
      cases hheld
  · rintro hsame row rfl
    obtain ⟨value, hvalue⟩ := Option.isSome_iff_exists.mp (Entries.find?_isSome_iff.mpr hcolumn)
    rw [hvalue, Row.column_of_mem hdiffer (Entries.mem_of_find? hvalue) hsame]

/-! ## The columns of the explicit mappings -/

namespace ResultMap

variable {resultMap : ResultMap} {columns : List String} {column : String}

/-- Some explicit mapping reads the column. -/
def Selects (resultMap : ResultMap) (columns : List String) (column : String) : Prop :=
  ∃ mapping ∈ resultMap.mappings, SqlMapper.Selects columns mapping.column column

theorem isMappedColumn_iff : resultMap.isMappedColumn column = true ↔
    ∃ mapping ∈ resultMap.mappings, Text.upper mapping.column = Text.upper column := by
  simp [isMappedColumn]

/-- An explicit mapping reads the columns that have its name in some case of the
ASCII letters. -/
theorem selects_iff (hdiffer : ColumnsDiffer columns) (hcolumn : column ∈ columns) :
    resultMap.Selects columns column ↔
      ∃ mapping ∈ resultMap.mappings, sameIgnoringAsciiCase column mapping.column = true :=
  exists_congr fun _ => and_congr_right fun _ => SqlMapper.selects_iff hdiffer hcolumn

/-- A column that an explicit mapping reads is never left to the automatic
mapping. A column is withheld from it exactly if a mapping reads it, as long as
no mapping means the column in the case of other letters only. -/
theorem isMappedColumn_iff_selects_iff {row : Row}
    (hdistinct : (row.keys.map Text.upper).Nodup) (hcolumn : column ∈ row.keys) :
    (resultMap.Selects row.keys column → resultMap.isMappedColumn column = true) ∧
      ((resultMap.isMappedColumn column = true ↔ resultMap.Selects row.keys column) ↔
        ∀ mapping ∈ resultMap.mappings, Text.upper mapping.column = Text.upper column →
          ∃ other ∈ resultMap.mappings, sameIgnoringAsciiCase column other.column = true) := by
  have hselects : resultMap.Selects row.keys column ↔ _ :=
    selects_iff (columnsDiffer_of_upper hdistinct) hcolumn
  have hmapped : resultMap.Selects row.keys column → resultMap.isMappedColumn column = true := by
    intro h
    obtain ⟨mapping, hmem, hsame⟩ := hselects.mp h
    have hletters := Text.sameIgnoringAsciiCase_iff.mp hsame
    exact isMappedColumn_iff.mpr ⟨mapping, hmem, hletters.upper_eq.symm⟩
  refine ⟨hmapped, ?_⟩
  rw [← hselects]
  constructor
  · intro hagree mapping hmem hupper
    exact hagree.mp (isMappedColumn_iff.mpr ⟨mapping, hmem, hupper⟩)
  · intro hnamed
    refine ⟨fun h => ?_, hmapped⟩
    obtain ⟨mapping, hmem, hupper⟩ := isMappedColumn_iff.mp h
    exact hnamed mapping hmem hupper

/-! ## Names with other letters -/

/-- A result map of one column, which fills the property `name`. -/
def ofColumn (column : String) : ResultMap where
  id := "person"
  type := .map
  mappings := [{ property := "name", column, type := .string, handler := .string }]

/-- A row whose columns have letters outside ASCII. -/
def accented : Row := [("PRÉNOM", .string "A"), ("âge", .int 1)]

/-- A mapping that spells these letters as the column does reads it. -/
theorem isMappedColumn_iff_selects_accented :
    (accented.keys.map Text.upper).Nodup ∧ "PRÉNOM" ∈ accented.keys ∧
      ((ofColumn "prÉnom").isMappedColumn "PRÉNOM" = true ↔
        (ofColumn "prÉnom").Selects accented.keys "PRÉNOM") := by
  have hdistinct : (accented.keys.map Text.upper).Nodup := by decide +kernel
  have hcolumn : "PRÉNOM" ∈ accented.keys := by decide +kernel
  refine ⟨hdistinct, hcolumn, (isMappedColumn_iff_selects_iff hdistinct hcolumn).2.mpr ?_⟩
  intro mapping hmem _
  obtain rfl := List.mem_singleton.mp hmem
  exact ⟨_, hmem, by decide +kernel⟩

/-- A mapping that spells such a letter in the other case withholds the column
from the automatic mapping and does not read it: its value is lost. -/
theorem accented_withheld_unread :
    (accented.keys.map Text.upper).Nodup ∧ "PRÉNOM" ∈ accented.keys ∧
      (ofColumn "prénom").isMappedColumn "PRÉNOM" = true ∧
      ¬ (ofColumn "prénom").Selects accented.keys "PRÉNOM" ∧
      ({} : Configuration).rowValue (ofColumn "prénom") accented =
        .ok (.map [("name", .null), ("âge", .int 1)]) := by
  refine ⟨by decide +kernel, by decide +kernel, by decide +kernel, ?_, ?_⟩
  · rw [selects_iff (by decide +kernel) (by decide +kernel)]
    decide +kernel
  · rfl

end ResultMap

end SqlMapper
