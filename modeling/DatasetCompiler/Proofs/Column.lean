import DatasetCompiler.Proofs.Marker
import Mathlib.Data.List.Nodup

/-!
# Columns and slots

Four texts have to agree on the number of a column: the marks of the insert statement, the column
definitions of the table, the slots that binding a row fills and the columns that reading a row
asks for.  The first two list the fields in order.  The last two go through the constant of the
column, whose value is left to whoever declares it: if every constant has the place of its field as
value, which is possible exactly if no two fields have the same name in upper case, all four agree.
-/

namespace DatasetCompiler

/-! ### Constants -/

/-- The column constants of a call, each with its offset. -/
def Call.columns (call : Call) : List (String × Nat) :=
  call.args.filterMap fun
    | .column constant offset => some (constant, offset)
    | _ => none

/-- The numbers that the columns of a call stand for if the constants have these values. -/
def Call.columnsAt (value : String → Nat) (call : Call) : List Nat :=
  call.columns.map fun column => value column.1 + column.2

namespace Model

theorem columns_bindField (m : Model) (f : Field) (query row : String) :
    (m.bindField f query row).columns = [(m.columnConstant f, 1)] := by
  cases h : f.type <;>
    simp [Call.columns, bindField, FieldType.bindExtras, FieldType.isPrimitive, h]

theorem columns_readField (m : Model) (f : Field) (query row success : String) :
    (m.readField f query row success).call.columns = [(m.columnConstant f, 0)] := by
  unfold readField
  cases f.allocation <;> simp [Call.columns, Read.call]

theorem columnConstant_eq_iff (m : Model) (f g : Field) :
    m.columnConstant f = m.columnConstant g ↔ Text.upper f.name = Text.upper g.name := by
  simp only [columnConstant, ← String.toList_inj, String.toList_append, List.append_assoc,
    List.append_cancel_left_eq, List.append_cancel_right_eq]

/-- The constant of the column of every field has the place of the field as value. -/
def NumbersColumns (m : Model) (value : String → Nat) : Prop :=
  m.fields.map (fun f => value (m.columnConstant f)) = List.range m.fields.length

theorem nodup_columnConstant_iff (m : Model) :
    (m.fields.map m.columnConstant).Nodup ↔ (m.fields.map fun f => Text.upper f.name).Nodup := by
  simp only [List.Nodup, List.pairwise_map, ne_eq, columnConstant_eq_iff]

theorem exists_numbersColumns_iff (m : Model) :
    (∃ value, m.NumbersColumns value) ↔ (m.fields.map fun f => Text.upper f.name).Nodup := by
  rw [← nodup_columnConstant_iff]
  constructor
  · rintro ⟨value, hvalue⟩
    have hnumbers : ((m.fields.map m.columnConstant).map value).Nodup := by
      rw [List.map_map]
      exact hvalue ▸ List.nodup_range
    exact hnumbers.of_map
  · intro hnodup
    -- a constant is numbered by where it stands first, which is its only place
    refine ⟨(m.fields.map m.columnConstant).idxOf, ?_⟩
    apply List.ext_getElem (by simp)
    intro i hleft hright
    have hi : i < (m.fields.map m.columnConstant).length := by simpa using hleft
    have hindex := hnodup.idxOf_getElem i hi
    simpa using hindex

theorem NumbersColumns.value_eq {m : Model} {value : String → Nat} (h : m.NumbersColumns value)
    {i : Nat} {f : Field} (hf : m.fields[i]? = some f) : value (m.columnConstant f) = i := by
  obtain ⟨hi, rfl⟩ := List.getElem?_eq_some_iff.1 hf
  have hget := congrArg (·[i]?) h
  simpa [hi] using hget

theorem NumbersColumns.slots_eq {m : Model} {value : String → Nat} (h : m.NumbersColumns value)
    (query row : String) :
    m.fields.flatMap (fun f => (m.bindField f query row).columnsAt value) =
      List.range' 1 m.fields.length := by
  have hsingle : ∀ f, (m.bindField f query row).columnsAt value =
      [value (m.columnConstant f) + 1] := by
    intro f
    rw [Call.columnsAt, columns_bindField]
    rfl
  simp only [hsingle]
  calc
    m.fields.flatMap (fun f => [value (m.columnConstant f) + 1]) =
        (m.fields.map fun f => value (m.columnConstant f)).map (1 + ·) := by
      rw [← List.map_eq_flatMap, List.map_map]
      simp only [Function.comp_def, Nat.add_comm]
    _ = (List.range m.fields.length).map (1 + ·) := by rw [h]
    _ = List.range' 1 m.fields.length := (List.range'_eq_map_range ..).symm

end Model

/-! ### The marks of the insert statement -/

/-- The characters of a list of `n` marks. -/
def marks (n : Nat) : List Char := [',', ' '].intercalate (List.replicate n ['?'])

theorem marks_succ_succ (n : Nat) : marks (n + 2) = '?' :: ',' :: ' ' :: marks (n + 1) := by
  simp [marks, List.replicate_succ, List.intercalate]

theorem count_marks (n : Nat) : (marks n).count '?' = n := by
  induction n using Nat.twoStepInduction with
  | zero => rfl
  | one => rfl
  | more n _ ih => rw [marks_succ_succ]; simp [ih]

/-- Before mark `i` stand the marks with smaller numbers, each with a comma behind it. -/
theorem exists_marks_eq {n i : Nat} (h : i < n) :
    ∃ before after, marks n = before ++ '?' :: after ∧
      before.count '?' = i ∧ before.count ',' = i := by
  induction n using Nat.twoStepInduction generalizing i with
  | zero => omega
  | one =>
    obtain rfl : i = 0 := by omega
    exact ⟨[], [], rfl, rfl, rfl⟩
  | more n _ ih =>
    rw [marks_succ_succ]
    cases i with
    | zero => exact ⟨[], _, rfl, rfl, rfl⟩
    | succ i =>
      obtain ⟨before, after, hmarks, hcount, hcommas⟩ := ih (Nat.lt_of_succ_lt_succ h)
      refine ⟨'?' :: ',' :: ' ' :: before, after, by rw [hmarks]; rfl, ?_, ?_⟩
      · simp [hcount]
      · simp [hcommas]

/-! ### The definitions of the columns -/

/-- The parts of a text between its commas. -/
def commaParts (text : String) : List String := (text.toList.splitOn ',').map String.ofList

theorem commaParts_intercalate {parts : List String} (h : ∀ part ∈ parts, ',' ∉ part.toList)
    (hne : parts ≠ []) : commaParts (",".intercalate parts) = parts := by
  have hlists : ∀ chars ∈ parts.map String.toList, ',' ∉ chars := by
    intro chars hchars
    obtain ⟨part, hpart, rfl⟩ := List.mem_map.1 hchars
    exact h part hpart
  have htext : (",".intercalate parts).toList = [','].intercalate (parts.map String.toList) :=
    String.toList_intercalate
  rw [commaParts, htext, List.splitOn_intercalate ',' hlists (by simpa using hne), List.map_map]
  simp [Function.comp_def]

theorem FieldType.comma_notMem_columnType (type : FieldType) : ',' ∉ type.columnType.toList := by
  cases type <;> decide

namespace Model

/-! ### The lists of the two statements -/

/-- The list of values of the insert statement. -/
def valueList (m : Model) : String := ", ".intercalate (m.fields.map fun _ => "?")

/-- The list of columns of the statement that creates the table. -/
def columnList (m : Model) : String := ",".intercalate (m.fields.map columnDefinition)

theorem toList_valueList (m : Model) : m.valueList.toList = marks m.fields.length := by
  rw [valueList, String.toList_intercalate, List.map_map, marks]
  simp [Function.comp_def]

/-- The mark with number `i` is the `i`-th of the insert statement, and `i` commas stand before it
in the list of values. -/
theorem exists_valueList_eq {m : Model} (htable : '?' ∉ m.tableName.toList) {i : Nat}
    (hi : i < m.fields.length) :
    ∃ before after, m.valueList = before ++ "?" ++ after ∧ before.toList.count ',' = i ∧
      IsMark m.insertStatement (i + 1)
        (("INSERT OR REPLACE INTO " ++ m.tableName ++ " VALUES (").length + before.length) := by
  obtain ⟨before, after, hmarks, hcount, hcommas⟩ := exists_marks_eq hi
  have hvalues : m.valueList = String.ofList before ++ "?" ++ String.ofList after := by
    rw [← String.toList_inj, toList_valueList, hmarks]
    simp
  refine ⟨String.ofList before, String.ofList after, hvalues, by simpa using hcommas, ?_⟩
  have hmark : IsMark m.valueList (i + 1) (String.ofList before).length := by
    have hbetween := isMark_between (String.ofList before) (String.ofList after)
    rw [← hvalues, markCount, String.toList_ofList, hcount] at hbetween
    exact hbetween
  have hfront : '?' ∉ ("INSERT OR REPLACE INTO " ++ m.tableName ++ " VALUES (").toList := by
    simp [htable]
  exact hmark.wrap hfront ");"

theorem commaParts_columnList {m : Model} (hnames : ∀ f ∈ m.fields, ',' ∉ f.name.toList)
    (hne : m.fields ≠ []) :
    commaParts m.columnList = m.fields.map fun f => f.name ++ " " ++ f.type.columnType := by
  apply commaParts_intercalate
  · intro part hpart
    obtain ⟨f, hf, rfl⟩ := List.mem_map.1 hpart
    change ',' ∉ (f.name ++ " " ++ f.type.columnType).toList
    simp [hnames f hf, f.type.comma_notMem_columnType]
  · simpa using hne

/-! ### Agreement -/

/-- The columns of a model have one numbering.  The insert statement has one mark and the table has
one column definition for each field, in order; binding and reading a field go through the same
constant, one further when binding.  Two fields share their constant exactly if their names are
equal in upper case.  If no names are, the constants can be declared as the places of the fields,
and then the field at place `i` is bound to mark `i`, which is the value for column `i`, and is read
from column `i`. -/
theorem columns_agree {m : Model} (htable : '?' ∉ m.tableName.toList)
    (hnames : ∀ f ∈ m.fields, ',' ∉ f.name.toList) :
    ∃ values columns : String,
      (m.insertStatement =
          "INSERT OR REPLACE INTO " ++ m.tableName ++ " VALUES (" ++ values ++ ");" ∧
        markCount values = m.fields.length) ∧
      (m.createTableStatement =
          "CREATE TABLE IF NOT EXISTS " ++ m.tableName ++ "(" ++ columns ++ ");" ∧
        (m.fields = [] → columns = "") ∧
        (m.fields ≠ [] → commaParts columns =
          m.fields.map fun f => f.name ++ " " ++ f.type.columnType)) ∧
      (∀ f ∈ m.fields, ∀ query row success,
        (m.bindField f query row).columns = [(m.columnConstant f, 1)] ∧
        (m.readField f query row success).call.columns = [(m.columnConstant f, 0)]) ∧
      (∀ f ∈ m.fields, ∀ g ∈ m.fields,
        m.columnConstant f = m.columnConstant g ↔ Text.upper f.name = Text.upper g.name) ∧
      ((m.fields.map fun f => Text.upper f.name).Nodup →
        (∃ value, m.NumbersColumns value) ∧
        ∀ value, m.NumbersColumns value → ∀ query row success,
          m.fields.flatMap (fun f => (m.bindField f query row).columnsAt value) =
            List.range' 1 m.fields.length ∧
          ∀ i f, m.fields[i]? = some f →
            (m.bindField f query row).columnsAt value = [i + 1] ∧
            (∃ before after, values = before ++ "?" ++ after ∧ before.toList.count ',' = i ∧
              IsMark m.insertStatement (i + 1)
                (("INSERT OR REPLACE INTO " ++ m.tableName ++ " VALUES (").length +
                  before.length)) ∧
            (commaParts columns)[i]? = some (f.name ++ " " ++ f.type.columnType) ∧
            (m.readField f query row success).call.columnsAt value = [i]) := by
  refine ⟨m.valueList, m.columnList, ⟨rfl, ?_⟩, ⟨rfl, ?_, commaParts_columnList hnames⟩, ?_, ?_, ?_⟩
  · rw [markCount, toList_valueList, count_marks]
  · intro hempty
    rw [columnList, hempty]
    rfl
  · intro f _ query row success
    exact ⟨m.columns_bindField f query row, m.columns_readField f query row success⟩
  · intro f _ g _
    exact m.columnConstant_eq_iff f g
  · intro hnodup
    refine ⟨m.exists_numbersColumns_iff.2 hnodup, ?_⟩
    intro value hvalue query row success
    refine ⟨hvalue.slots_eq query row, ?_⟩
    intro i f hf
    have hi : i < m.fields.length := (List.getElem?_eq_some_iff.1 hf).1
    have hne : m.fields ≠ [] := List.ne_nil_of_length_pos (Nat.zero_lt_of_lt hi)
    refine ⟨?_, exists_valueList_eq htable hi, ?_, ?_⟩
    · rw [Call.columnsAt, columns_bindField, List.map_singleton, hvalue.value_eq hf]
    · rw [commaParts_columnList hnames hne, List.getElem?_map, hf]
      rfl
    · rw [Call.columnsAt, columns_readField, List.map_singleton, hvalue.value_eq hf, Nat.add_zero]

/-- Of three fields the last is bound to the third mark and read from column two. -/
theorem columns_agree_three :
    let m : Model := ⟨"User",
      [⟨"id", .primaryKey, 0⟩, ⟨"email", .text, 0⟩, ⟨"bio", .text, 256⟩], [], none, some "users"⟩
    '?' ∉ m.tableName.toList ∧ (∀ f ∈ m.fields, ',' ∉ f.name.toList) ∧
    (m.fields.map fun f => Text.upper f.name).Nodup ∧
    (∃ position, IsMark m.insertStatement 3 position) ∧
    ∃ value : String → Nat,
      (m.bindField ⟨"bio", .text, 256⟩ "query" "row").columnsAt value = [3] ∧
      (m.readField ⟨"bio", .text, 256⟩ "query" "row" "ok").call.columnsAt value = [2] := by
  intro m
  have htable : '?' ∉ m.tableName.toList := by decide +kernel
  have hnames : ∀ f ∈ m.fields, ',' ∉ f.name.toList := by decide +kernel
  have hnodup : (m.fields.map fun f => Text.upper f.name).Nodup := by decide +kernel
  obtain ⟨values, columns, -, -, -, -, hagree⟩ := columns_agree htable hnames
  obtain ⟨⟨value, hvalue⟩, hplaces⟩ := hagree hnodup
  obtain ⟨-, hplace⟩ := hplaces value hvalue "query" "row" "ok"
  obtain ⟨hbind, ⟨_, _, -, -, hmark⟩, -, hread⟩ := hplace 2 ⟨"bio", .text, 256⟩ rfl
  exact ⟨htable, hnames, hnodup, ⟨_, hmark⟩, value, hbind, hread⟩

end Model

end DatasetCompiler
