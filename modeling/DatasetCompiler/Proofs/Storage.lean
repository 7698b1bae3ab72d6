import DatasetCompiler.Access
import DatasetCompiler.Declaration
import DatasetCompiler.Proofs.Provenance

/-!
# How fields are stored

Whether a field is a scalar, a pointer or an array in a row structure is decided four times over:
where the type of the member is declared, where its name is declared, where a row is read and where
it is bound.  If two of these disagreed, the generated code would take the size of a pointer or the
address of an array.

Here the decision is made once, by what a definition says about the field, and everything generated
for a compiled field follows it.
-/

namespace DatasetCompiler

/-- How a field is kept in a row structure. -/
inductive Storage where
  /-- As a value of this C type. -/
  | scalar (type : String)
  /-- As a pointer to characters. -/
  | pointer
  /-- As an array of this many characters. -/
  | array (length : Nat)
deriving DecidableEq, Repr

namespace Storage

/-- What a definition decides by the type name of a field and the value under `maxLength`, if
any. -/
inductive Declared : String → Option Json → Storage → Prop where
  | scalar {typeName type : String}
      (h : (typeName, type) ∈ [("PrimaryKey", "sqlite3_int64"), ("ForeignKey", "sqlite3_int64"),
        ("Integer", "int"), ("Real", "double")]) :
      Declared typeName none (.scalar type)
  | pointer {typeName : String} (h : typeName = "Text" ∨ typeName = "Blob") :
      Declared typeName none .pointer
  | array {typeName : String} {length : Nat} (h : typeName = "Text" ∨ typeName = "Blob")
      (hpositive : 1 ≤ length) (hrange : length ≤ 9223372036854775807) :
      Declared typeName (some (.number (.integer length))) (.array length)

def maxLength : Storage → Nat
  | .scalar _ | .pointer => 0
  | .array length => length

def typeDeclaration : Storage → String
  | .scalar type => type
  | .pointer => "char*"
  | .array _ => "char"

def nameDeclaration (name : String) : Storage → String
  | .scalar _ | .pointer => name
  | .array length => name ++ "[ " ++ toString length ++ " ]"

/-- The operations that can read a value into a member that is stored so. -/
def readOperations : Storage → List String
  | .scalar _ => ["sqlite3_column_int64", "sqlite3_column_int", "sqlite3_column_double"]
  | .pointer => ["cqlite_dynamic_string_read", "cqlite_dynamic_blob_read"]
  | .array _ => ["cqlite_fixed_length_string_read", "cqlite_fixed_length_blob_read"]

/-- A scalar is the result of the read.  A pointer is set through its address, and an array is
filled up to its size. -/
def read (operation query column row name success : String) : Storage → Read
  | .scalar _ => .assign (.member row name) ⟨operation, [.var query, .column column 0]⟩
  | .pointer =>
    .accumulate success ⟨operation, [.var query, .column column 0, .memberAddress row name]⟩
  | .array _ =>
    .accumulate success
      ⟨operation, [.var query, .column column 0, .member row name, .sizeOf row name]⟩

/-- The arguments of a binding call: the member itself, with length and lifetime if it is a text. -/
def bindArgs (query column row name : String) : Storage → List Argument
  | .scalar _ => [.var query, .column column 1, .member row name]
  | .pointer | .array _ =>
    [.var query, .column column 1, .member row name, .lengthSentinel, .transient]

/-- The same arguments as they are written. -/
def bindTexts (query column row name : String) : Storage → List String
  | .scalar _ => [query, "(" ++ column ++ " + " ++ "1" ++ ")", row ++ "->" ++ name]
  | .pointer | .array _ =>
    [query, "(" ++ column ++ " + " ++ "1" ++ ")", row ++ "->" ++ name, "-1", "SQLITE_TRANSIENT"]

end Storage

/-- All that is generated for the field takes it to be stored in this way. -/
structure Model.StoresAs (m : Model) (f : Field) (storage : Storage) : Prop where
  maxLength : f.maxLength = storage.maxLength
  type : f.typeDeclaration = storage.typeDeclaration
  name : f.nameDeclaration = storage.nameDeclaration f.name
  read : ∀ query row success, ∃ operation ∈ storage.readOperations,
    m.readField f query row success =
      storage.read operation query (m.columnConstant f) row f.name success
  bind : ∀ query row,
    (m.bindField f query row).args = storage.bindArgs query (m.columnConstant f) row f.name
  bindText : ∀ query row, (m.bindField f query row).args.map Argument.text =
    storage.bindTexts query (m.columnConstant f) row f.name

/-! ### The storage of a field -/

theorem FieldType.physicalType_of_text {type : FieldType} (h : type.isPrimitive = false) :
    type.physicalType = "char" := by
  revert h
  cases type <;> decide

namespace Field

/-- The storage that the type and the maximal length of a field ask for. -/
def storage (f : Field) : Storage :=
  if f.type.isPrimitive then .scalar f.type.physicalType
  else if f.maxLength = 0 then .pointer
  else .array f.maxLength

theorem storage_cases (f : Field) :
    (f.type.isPrimitive = true ∧ f.allocation = .primitive ∧
        f.storage = .scalar f.type.physicalType) ∨
      (f.type.isPrimitive = false ∧ f.maxLength = 0 ∧ f.allocation = .dynamic ∧
        f.storage = .pointer) ∨
      f.type.isPrimitive = false ∧ f.maxLength ≠ 0 ∧ f.allocation = .fixed ∧
        f.storage = .array f.maxLength := by
  cases hprimitive : f.type.isPrimitive with
  | true => simp [allocation, FieldType.allocation, storage, hprimitive]
  | false =>
    by_cases hlength : f.maxLength = 0
    · simp [allocation, FieldType.allocation, storage, hprimitive, hlength]
    · simp [allocation, FieldType.allocation, storage, hprimitive, hlength]

theorem typeDeclaration_eq (f : Field) : f.typeDeclaration = f.storage.typeDeclaration := by
  rcases f.storage_cases with ⟨-, hallocation, hstorage⟩ | ⟨htext, -, hallocation, hstorage⟩ |
    ⟨htext, -, hallocation, hstorage⟩
  · simp only [typeDeclaration, hallocation, hstorage, Storage.typeDeclaration]
  · simp only [typeDeclaration, hallocation, hstorage, FieldType.physicalType_of_text htext]
    rfl
  · simp only [typeDeclaration, hallocation, hstorage, FieldType.physicalType_of_text htext,
      Storage.typeDeclaration]

theorem nameDeclaration_eq (f : Field) :
    f.nameDeclaration = f.storage.nameDeclaration f.name := by
  rcases f.storage_cases with ⟨-, hallocation, hstorage⟩ | ⟨-, -, hallocation, hstorage⟩ |
    ⟨-, -, hallocation, hstorage⟩ <;>
  simp only [nameDeclaration, hallocation, hstorage, Storage.nameDeclaration]

theorem readOperation_mem (f : Field) :
    f.type.readOperation f.allocation ∈ f.storage.readOperations := by
  rcases f.storage_cases with ⟨hscalar, hallocation, hstorage⟩ | ⟨htext, -, hallocation, hstorage⟩ |
    ⟨htext, -, hallocation, hstorage⟩
  · rw [hallocation, hstorage]
    revert hscalar
    cases f.type <;> decide
  · rw [hallocation, hstorage]
    revert htext
    cases f.type <;> decide
  · rw [hallocation, hstorage, Storage.readOperations]
    revert htext
    cases f.type <;> decide

end Field

theorem Storage.map_text_bindArgs (storage : Storage) (query column row name : String) :
    (storage.bindArgs query column row name).map Argument.text =
      storage.bindTexts query column row name := by
  cases storage <;> rfl

namespace Model

theorem readField_eq (m : Model) (f : Field) (query row success : String) :
    m.readField f query row success =
      f.storage.read (f.type.readOperation f.allocation) query (m.columnConstant f) row f.name
        success := by
  rcases f.storage_cases with ⟨-, hallocation, hstorage⟩ | ⟨-, -, hallocation, hstorage⟩ |
    ⟨-, -, hallocation, hstorage⟩ <;>
  simp only [readField, hallocation, hstorage, Storage.read, List.cons_append, List.nil_append]

theorem args_bindField (m : Model) (f : Field) (query row : String) :
    (m.bindField f query row).args =
      f.storage.bindArgs query (m.columnConstant f) row f.name := by
  rcases f.storage_cases with ⟨hscalar, -, hstorage⟩ | ⟨htext, -, -, hstorage⟩ |
    ⟨htext, -, -, hstorage⟩
  · simp [bindField, FieldType.bindExtras, hscalar, hstorage, Storage.bindArgs]
  · simp [bindField, FieldType.bindExtras, htext, hstorage, Storage.bindArgs]
  · simp [bindField, FieldType.bindExtras, htext, hstorage, Storage.bindArgs]

/-- Only a length that the type has no use for keeps a field from being stored as it asks. -/
theorem storesAs_storage (m : Model) {f : Field}
    (h : f.type.isPrimitive = true → f.maxLength = 0) : m.StoresAs f f.storage := by
  refine ⟨?_, f.typeDeclaration_eq, f.nameDeclaration_eq, ?_, m.args_bindField f, ?_⟩
  · rcases f.storage_cases with ⟨hscalar, -, hstorage⟩ | ⟨-, hlength, -, hstorage⟩ |
      ⟨-, -, -, hstorage⟩
    · rw [hstorage, h hscalar]
      rfl
    · rw [hstorage, hlength]
      rfl
    · rw [hstorage]
      rfl
  · intro query row success
    exact ⟨_, f.readOperation_mem, m.readField_eq f query row success⟩
  · intro query row
    rw [m.args_bindField, Storage.map_text_bindArgs]

end Model

/-! ### What the document decides -/

theorem FieldType.isPrimitive_eq_false_iff {type : FieldType} :
    type.isPrimitive = false ↔ type.name = "Text" ∨ type.name = "Blob" := by
  cases type <;> decide

theorem FieldType.mem_scalars {type : FieldType} (h : type.isPrimitive = true) :
    (type.name, type.physicalType) ∈ [("PrimaryKey", "sqlite3_int64"),
      ("ForeignKey", "sqlite3_int64"), ("Integer", "int"), ("Real", "double")] := by
  revert h
  cases type <;> decide

namespace FieldDraft

/-- A length in a draft without faults belongs to a text or a blob, and is positive. -/
theorem bounds_of_faults {draft : FieldDraft} {f : Field} {length : Int64}
    (hfaults : draft.faults = []) (hmirrors : draft.Mirrors f)
    (hlength : draft.maxLength = some length) :
    f.type.isPrimitive = false ∧ 0 < length.toInt ∧ (f.maxLength : Int) = length.toInt := by
  have htype : FieldType.ofName? draft.typeName = some f.type :=
    FieldType.ofName?_eq_some_iff.2 hmirrors.type
  have hvalue : (f.maxLength : Int) = length.toInt := by simpa [hlength] using hmirrors.maxLength
  simp only [faults, htype, hlength] at hfaults
  split at hfaults
  · cases hfaults
  · rename_i htext
    split at hfaults
    · cases hfaults
    · rename_i hpositive
      refine ⟨?_, by omega, hvalue⟩
      revert htext
      cases f.type <;> decide

theorem declared_storage {draft : FieldDraft} {f : Field} (hfaults : draft.faults = [])
    (hmirrors : draft.Mirrors f) :
    (f.type.isPrimitive = true → f.maxLength = 0) ∧
      f.storage.Declared draft.typeName
        (draft.maxLength.map fun length => .number (.integer length.toInt)) := by
  cases hlength : draft.maxLength with
  | none =>
    have hzero : f.maxLength = 0 := by
      have hvalue := hmirrors.maxLength
      rw [hlength] at hvalue
      simpa using hvalue
    refine ⟨fun _ => hzero, ?_⟩
    rw [← hmirrors.type]
    rcases f.storage_cases with ⟨hscalar, -, hstorage⟩ | ⟨htext, -, -, hstorage⟩ |
      ⟨-, hne, -, -⟩
    · rw [hstorage]
      exact .scalar (FieldType.mem_scalars hscalar)
    · rw [hstorage]
      exact .pointer (FieldType.isPrimitive_eq_false_iff.1 htext)
    · exact absurd hzero hne
  | some length =>
    obtain ⟨htext, hpositive, hvalue⟩ := bounds_of_faults hfaults hmirrors hlength
    refine ⟨fun hscalar => by simp [htext] at hscalar, ?_⟩
    have hrange : length.toInt < 9223372036854775808 := Int64.toInt_lt length
    have hstorage : f.storage = .array f.maxLength := by
      rcases f.storage_cases with ⟨hscalar, -⟩ | ⟨-, hzero, -⟩ | ⟨-, -, -, hstorage⟩
      · simp [htext] at hscalar
      · omega
      · exact hstorage
    rw [hstorage, ← hmirrors.type, Option.map_some, ← hvalue]
    exact .array (FieldType.isPrimitive_eq_false_iff.1 htext) (by omega) (by omega)

end FieldDraft

/-! ### Compiled fields -/

theorem Storage.eq_array_of_sizeOf {storage : Storage}
    {operation query column row name success owner field : String}
    (h : .sizeOf owner field ∈ (storage.read operation query column row name success).call.args) :
    ∃ length, storage = .array length := by
  cases storage with
  | scalar type => simp [Storage.read, Read.call] at h
  | pointer => simp [Storage.read, Read.call] at h
  | array length => exact ⟨length, rfl⟩

theorem Storage.Declared.maxLength_ne_zero_iff {storage : Storage} {typeName : String}
    {given : Option Json} (h : storage.Declared typeName given) :
    storage.maxLength ≠ 0 ↔ ∃ length, given = some length := by
  cases h with
  | scalar _ => simp [Storage.maxLength]
  | pointer _ => simp [Storage.maxLength]
  | array _ hpositive _ =>
    refine ⟨fun _ => ⟨_, rfl⟩, fun _ => ?_⟩
    exact Nat.ne_of_gt hpositive

theorem Field.hasMaxLength_iff (f : Field) : f.hasMaxLength = true ↔ f.maxLength ≠ 0 := by
  simp [Field.hasMaxLength]

theorem Field.isFixed_iff {f : Field} (h : f.type.isPrimitive = true → f.maxLength = 0) :
    f.isFixed = true ↔ f.maxLength ≠ 0 := by
  rcases f.storage_cases with ⟨hscalar, hallocation, -⟩ | ⟨-, hzero, hallocation, -⟩ |
    ⟨-, hne, hallocation, -⟩
  · simp [Field.isFixed, hallocation, h hscalar]
  · simp [Field.isFixed, hallocation, hzero]
  · simp [Field.isFixed, hallocation, hne]

/-- Every field of a compiled dataset is stored as the document decides at the place of the field:
its declaration, reading and binding all follow the same storage.  It has a maximal length exactly
if the document gives one, and exactly if it is an array; and no size is taken of a pointer. -/
theorem Definition.compile_storage {options : Options} {doc : Json} {dataset : Dataset}
    (h : Definition.compile options doc = .ok dataset) (i j : Nat) (m : Model) (f : Field)
    (hmodel : dataset.models[i]? = some m) (hfield : m.fields[j]? = some f) :
    ∃ (members : List (String × Json)) (typeName : String) (storage : Storage),
      doc.at? (fieldPlace i j) = some (.object members) ∧
      members.lookup "name" = some (.string f.name) ∧
      members.lookup "type" = some (.string typeName) ∧
      storage.Declared typeName (members.lookup "maxLength") ∧
      m.StoresAs f storage ∧
      (f.hasMaxLength = true ↔ ∃ length, members.lookup "maxLength" = some length) ∧
      (f.hasMaxLength = true ↔ f.isFixed = true) ∧
      ∀ query row success owner name,
        .sizeOf owner name ∈ (m.readField f query row success).call.args →
          '*' ∉ f.typeDeclaration.toList := by
  obtain ⟨draft, value, hplace, hwritten, hfaults, hmirrors⟩ :=
    exists_field_draft h hmodel hfield
  obtain ⟨members, rfl, hname, htype, hlength⟩ := hwritten
  obtain ⟨hscalar, hdeclared⟩ := FieldDraft.declared_storage hfaults hmirrors
  have hstores : m.StoresAs f f.storage := m.storesAs_storage hscalar
  rw [← hlength] at hdeclared
  rw [← hmirrors.name] at hname
  refine ⟨members, draft.typeName, f.storage, hplace, hname, htype, hdeclared, hstores, ?_, ?_, ?_⟩
  · rw [f.hasMaxLength_iff, hstores.maxLength]
    exact hdeclared.maxLength_ne_zero_iff
  · rw [f.hasMaxLength_iff, Field.isFixed_iff hscalar]
  · intro query row success owner name hsize
    rw [m.readField_eq] at hsize
    obtain ⟨length, harray⟩ := Storage.eq_array_of_sizeOf hsize
    rw [hstores.type, harray]
    exact (by decide : '*' ∉ "char".toList)

/-- A text with a length, behind one without. -/
theorem Definition.compile_storage_bounded :
    let doc : Json := .object [("datasetName", .string "app"), ("models", .array [.object
      [("name", .string "User"), ("fields", .array
        [.object [("name", .string "id"), ("type", .string "PrimaryKey")],
         .object [("name", .string "email"), ("type", .string "Text")],
         .object [("maxLength", .number (.integer 256)), ("name", .string "bio"),
           ("type", .string "Text")]])]])]
    let bio : Field := ⟨"bio", .text, 256⟩
    let user : Model :=
      ⟨"User", [⟨"id", .primaryKey, 0⟩, ⟨"email", .text, 0⟩, bio], [], none, none⟩
    Definition.compile .default doc = .ok ⟨"app", [user]⟩ ∧
    user.StoresAs bio (.array 256) ∧
    bio.nameDeclaration = "bio[ 256 ]" := by
  intro doc bio user
  have hcompile : Definition.compile .default doc = .ok ⟨"app", [user]⟩ := by decide +kernel
  obtain ⟨members, typeName, storage, hplace, -, htype, hdeclared, hstores, -⟩ :=
    Definition.compile_storage hcompile 0 2 user bio rfl rfl
  obtain rfl : _ = members := Json.object.inj (Option.some.inj hplace)
  obtain rfl : "Text" = typeName := Json.string.inj (Option.some.inj htype)
  obtain rfl : storage = .array 256 := by
    rw [show List.lookup "maxLength" _ = some (Json.number (.integer 256)) from rfl] at hdeclared
    cases hdeclared
    rfl
  exact ⟨hcompile, hstores, hstores.name⟩

end DatasetCompiler
