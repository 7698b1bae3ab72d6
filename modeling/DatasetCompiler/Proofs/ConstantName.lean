import DatasetCompiler.Naming
import DatasetCompiler.Proofs.NameEquation
import Mathlib.Data.List.Nodup

/-!
# Names of constants

The constants of columns and of tables and the guards of the headers share one space of names.  Each
kind has a suffix of its own, and none of these ends with another, so no two kinds meet.

The constant of a column joins the names of its table and its field at an underscore, and both names
can have underscores themselves.  Then the name does not say where the table ends: field `C` of
table `A_B` and field `B_C` of table `A` have the same constant.  These are all the clashes there
are.
-/

namespace DatasetCompiler

/-! ### Kinds of constants -/

theorem ConstantKind.suffixFree : SuffixFree ConstantKind.suffix := by
  intro kind other
  cases kind <;> cases other <;> decide

/-- A constant of the generated code, with what it is named after. -/
inductive GeneratedConstant where
  | column (m : Model) (f : Field)
  | tableCreate (m : Model)
  | typesGuard (d : Dataset)
  | accessorGuard (d : Dataset)

namespace GeneratedConstant

def name : GeneratedConstant → String
  | .column m f => m.columnConstant f
  | .tableCreate m => m.tableCreateConstant
  | .typesGuard d => d.typesHeaderGuard
  | .accessorGuard d => d.accessorHeaderGuard

def kind : GeneratedConstant → ConstantKind
  | .column _ _ => .column
  | .tableCreate _ => .tableCreate
  | .typesGuard _ => .typesGuard
  | .accessorGuard _ => .accessorGuard

/-- What stands before the suffix. -/
def base : GeneratedConstant → String
  | .column m f => Text.upper m.tableName ++ "_" ++ Text.upper f.name
  | .tableCreate m => Text.upper m.tableName
  | .typesGuard d => Text.upper d.name
  | .accessorGuard d => Text.upper d.name

theorem name_eq (c : GeneratedConstant) : c.name = c.base ++ c.kind.suffix := by
  cases c <;> rfl

theorem name_eq_iff {c e : GeneratedConstant} :
    c.name = e.name ↔ c.kind = e.kind ∧ c.base = e.base := by
  rw [c.name_eq, e.name_eq, ConstantKind.suffixFree.append_eq_iff]

end GeneratedConstant

/-! ### Columns -/

theorem Model.columnConstant_eq_columnConstant_iff {m₁ m₂ : Model} {f₁ f₂ : Field} :
    m₁.columnConstant f₁ = m₂.columnConstant f₂ ↔
      (Text.upper m₁.tableName = Text.upper m₂.tableName ∧
        Text.upper f₁.name = Text.upper f₂.name) ∨
      (∃ s, Text.upper m₁.tableName = Text.upper m₂.tableName ++ "_" ++ s ∧
        Text.upper f₂.name = s ++ "_" ++ Text.upper f₁.name) ∨
      ∃ s, Text.upper m₂.tableName = Text.upper m₁.tableName ++ "_" ++ s ∧
        Text.upper f₁.name = s ++ "_" ++ Text.upper f₂.name := by
  have hbases : m₁.columnConstant f₁ = m₂.columnConstant f₂ ↔
      Text.upper m₁.tableName ++ "_" ++ Text.upper f₁.name =
        Text.upper m₂.tableName ++ "_" ++ Text.upper f₂.name :=
    String.append_left_inj _
  rw [hbases, joined_eq_iff]

theorem Model.upper_eq_of_columnConstant_eq {m₁ m₂ : Model} {f₁ f₂ : Field}
    (h₁ : '_' ∉ (Text.upper m₁.tableName).toList) (h₂ : '_' ∉ (Text.upper m₂.tableName).toList)
    (heq : m₁.columnConstant f₁ = m₂.columnConstant f₂) :
    Text.upper m₁.tableName = Text.upper m₂.tableName ∧
      Text.upper f₁.name = Text.upper f₂.name := by
  rcases columnConstant_eq_columnConstant_iff.1 heq with hsame | ⟨s, htable, -⟩ | ⟨s, htable, -⟩
  · exact hsame
  · exact absurd (by rw [htable]; simp) h₁
  · exact absurd (by rw [htable]; simp) h₂

namespace Dataset

/-- The columns of all tables. -/
def columns (d : Dataset) : List (Model × Field) :=
  d.models.flatMap fun m => m.fields.map fun f => (m, f)

theorem mem_models_of_mem_columns {d : Dataset} {column : Model × Field}
    (h : column ∈ d.columns) : column.1 ∈ d.models := by
  obtain ⟨m, hm, hcolumn⟩ := List.mem_flatMap.1 h
  obtain ⟨f, -, rfl⟩ := List.mem_map.1 hcolumn
  exact hm

theorem nodup_columnConstant {d : Dataset}
    (htables : ∀ m ∈ d.models, '_' ∉ (Text.upper m.tableName).toList)
    (hnames : (d.columns.map fun c => (Text.upper c.1.tableName, Text.upper c.2.name)).Nodup) :
    (d.columns.map fun c => c.1.columnConstant c.2).Nodup := by
  rw [List.Nodup, List.pairwise_map] at hnames ⊢
  refine hnames.imp_of_mem ?_
  intro column other hcolumn hother hne heq
  have hleft := htables _ (mem_models_of_mem_columns hcolumn)
  have hright := htables _ (mem_models_of_mem_columns hother)
  obtain ⟨htable, hfield⟩ := Model.upper_eq_of_columnConstant_eq hleft hright heq
  exact hne (Prod.ext htable hfield)

end Dataset

/-- When two constants of the generated code have the same name.  Two columns do if tables and
fields are called the same in upper case, or if one table is called like the other with an
underscore and a word behind it, and that word with an underscore begins the name of the other
field.  Two tables do if they are called the same in upper case, and constants of different kinds
never do.  So all columns of a dataset have different constants if no table has an underscore in its
name and no two columns are called the same. -/
theorem GeneratedConstant.name_collisions :
    (∀ (m₁ m₂ : Model) (f₁ f₂ : Field), m₁.columnConstant f₁ = m₂.columnConstant f₂ ↔
      (Text.upper m₁.tableName = Text.upper m₂.tableName ∧
        Text.upper f₁.name = Text.upper f₂.name) ∨
      (∃ s, Text.upper m₁.tableName = Text.upper m₂.tableName ++ "_" ++ s ∧
        Text.upper f₂.name = s ++ "_" ++ Text.upper f₁.name) ∨
      ∃ s, Text.upper m₂.tableName = Text.upper m₁.tableName ++ "_" ++ s ∧
        Text.upper f₁.name = s ++ "_" ++ Text.upper f₂.name) ∧
    (∀ c e : GeneratedConstant, c.kind ≠ e.kind → c.name ≠ e.name) ∧
    (∀ m₁ m₂ : Model, m₁.tableCreateConstant = m₂.tableCreateConstant ↔
      Text.upper m₁.tableName = Text.upper m₂.tableName) ∧
    ∀ d : Dataset, (∀ m ∈ d.models, '_' ∉ (Text.upper m.tableName).toList) →
      (d.columns.map fun c => (Text.upper c.1.tableName, Text.upper c.2.name)).Nodup →
      (d.columns.map fun c => c.1.columnConstant c.2).Nodup := by
  refine ⟨?_, ?_, ?_, ?_⟩
  · intro m₁ m₂ f₁ f₂
    exact Model.columnConstant_eq_columnConstant_iff
  · intro c e hkind heq
    exact hkind (name_eq_iff.1 heq).1
  · intro m₁ m₂
    exact String.append_left_inj _
  · intro d htables hnames
    exact d.nodup_columnConstant htables hnames

/-- Tables `a_b` and `A` clash in their columns `c` and `b_C`; tables without underscore do not,
even if a field is called like the columns of another table. -/
theorem GeneratedConstant.name_collisions_underscore :
    let long : Model := ⟨"a_b", [⟨"c", .text, 0⟩], [], none, none⟩
    let short : Model := ⟨"Tag", [⟨"b_C", .text, 0⟩], [], none, some "A"⟩
    let plain : Dataset := ⟨"a",
      [⟨"User", [⟨"id", .primaryKey, 0⟩, ⟨"tag_id", .foreignKey, 0⟩], [], none, none⟩,
       ⟨"Tag", [⟨"id", .primaryKey, 0⟩, ⟨"user_id", .foreignKey, 0⟩], [], none, none⟩]⟩
    long.columnConstant ⟨"c", .text, 0⟩ = short.columnConstant ⟨"b_C", .text, 0⟩ ∧
    short.tableCreateConstant ≠ plain.typesHeaderGuard ∧
    long.tableCreateConstant ≠ short.tableCreateConstant ∧
    (∀ m ∈ plain.models, '_' ∉ (Text.upper m.tableName).toList) ∧
    (plain.columns.map fun c => (Text.upper c.1.tableName, Text.upper c.2.name)).Nodup ∧
    (plain.columns.map fun c => c.1.columnConstant c.2).Nodup := by
  intro long short plain
  obtain ⟨hcolumns, hkinds, htables, hdataset⟩ := name_collisions
  have hplain : ∀ m ∈ plain.models, '_' ∉ (Text.upper m.tableName).toList := by decide +kernel
  have hnames : (plain.columns.map fun c =>
      (Text.upper c.1.tableName, Text.upper c.2.name)).Nodup := by decide +kernel
  refine ⟨?_, ?_, ?_, hplain, hnames, hdataset plain hplain hnames⟩
  · refine (hcolumns long short _ _).2 (Or.inr (Or.inl ⟨"B", ?_, ?_⟩))
    · decide +kernel
    · decide +kernel
  · exact hkinds (.tableCreate short) (.typesGuard plain) (by decide)
  · intro heq
    have hupper := (htables long short).1 heq
    revert hupper
    decide +kernel

end DatasetCompiler
