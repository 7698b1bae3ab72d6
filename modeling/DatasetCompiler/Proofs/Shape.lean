import DatasetCompiler.Schema
import DatasetCompiler.Proofs.UniqueKey
import Mathlib.Data.List.Forall2

/-!
# The shape of a definition document

Two descriptions of the format stand side by side in the program: the walk of `Schema.check` and
the reader `DatasetDraft.ofJson?` behind it.  Here the documented shape is a predicate,
`IsDefinition`, and what a document of that shape says is a relation, `DatasetDraft.WrittenAs`.
The walk accepts exactly the documents of the shape; the reader, which asks for less, takes out of
them exactly what they say.  So the reader never fails behind the walk, and writing a draft down and
reading it again gives the draft back.
-/

namespace DatasetCompiler

open Json (Path)

namespace Schema

/-! ### The documented shape -/

/-- Not empty, and of ASCII letters, digits and underscores only. -/
def IsIdentifier (name : String) : Prop :=
  name ≠ "" ∧ ∀ c ∈ name.toList,
    ('a' ≤ c ∧ c ≤ 'z') ∨ ('A' ≤ c ∧ c ≤ 'Z') ∨ ('0' ≤ c ∧ c ≤ '9') ∨ c = '_'

def IsString (value : Json) : Prop := ∃ text, value = .string text

/-- An integer in the range of a machine word of 64 bits with sign. -/
def IsInteger (value : Json) : Prop :=
  ∃ n : Int, value = .number (.integer n) ∧
    -9223372036854775808 ≤ n ∧ n ≤ 9223372036854775807

def IsArrayOf (shape : Json → Prop) (value : Json) : Prop :=
  ∃ items, value = .array items ∧ ∀ item ∈ items, shape item

def IsObjectWith (shape : List (String × Json) → Prop) (value : Json) : Prop :=
  ∃ members, value = .object members ∧ shape members

/-- The key is there, and its value has the shape. -/
def Has (members : List (String × Json)) (key : String) (shape : Json → Prop) : Prop :=
  ∃ value, members.lookup key = some value ∧ shape value

/-- The key is not there, or its value has the shape. -/
def MayHave (members : List (String × Json)) (key : String) (shape : Json → Prop) : Prop :=
  ∀ value, members.lookup key = some value → shape value

def IsField : Json → Prop :=
  IsObjectWith fun members =>
    Has members "name" IsString ∧
    Has members "type" IsString ∧
    MayHave members "maxLength" IsInteger

def IsQuery : Json → Prop :=
  IsObjectWith fun members => Has members "name" IsString ∧ Has members "query" IsString

def IsQueries : Json → Prop :=
  IsObjectWith fun groups => ∀ group ∈ groups, IsArrayOf IsQuery group.2

def IsModel : Json → Prop :=
  IsObjectWith fun members =>
    Has members "name" IsString ∧
    MayHave members "typeName" IsString ∧
    MayHave members "tableName" IsString ∧
    Has members "fields" (IsArrayOf IsField) ∧
    MayHave members "queries" IsQueries

/-- The shape of a whole document.  Keys that are not mentioned may be there, with any values. -/
def IsDefinition : Json → Prop :=
  IsObjectWith fun members =>
    Has members "datasetName" (fun value => ∃ name, value = .string name ∧ IsIdentifier name) ∧
    Has members "models" (IsArrayOf IsModel)

end Schema

/-! ### What a document says -/

open Schema (IsObjectWith)

def FieldDraft.WrittenAs (draft : FieldDraft) : Json → Prop :=
  IsObjectWith fun members =>
    members.lookup "name" = some (.string draft.name) ∧
    members.lookup "type" = some (.string draft.typeName) ∧
    members.lookup "maxLength" = draft.maxLength.map fun n => .number (.integer n.toInt)

def QueryDraft.WrittenAs (draft : QueryDraft) : Json → Prop :=
  IsObjectWith fun members =>
    members.lookup "name" = some (.string draft.name) ∧
    members.lookup "query" = some (.string draft.text)

def QueryGroup.WrittenAs (group : QueryGroup) (member : String × Json) : Prop :=
  member.1 = group.key ∧
    ∃ items, member.2 = .array items ∧ List.Forall₂ QueryDraft.WrittenAs group.entries items

def ModelDraft.WrittenAs (draft : ModelDraft) : Json → Prop :=
  IsObjectWith fun members =>
    members.lookup "name" = some (.string draft.name) ∧
    members.lookup "typeName" = draft.typeName.map .string ∧
    members.lookup "tableName" = draft.tableName.map .string ∧
    (∃ items, members.lookup "fields" = some (.array items) ∧
      List.Forall₂ FieldDraft.WrittenAs draft.fields items) ∧
    (members.lookup "queries" = none ∧ draft.groups = [] ∨
      ∃ groups, members.lookup "queries" = some (.object groups) ∧
        List.Forall₂ QueryGroup.WrittenAs draft.groups groups)

/-- The document says what the draft says: the same strings and integers, nothing where the draft
leaves something out, and lists and query groups in the same order. -/
def DatasetDraft.WrittenAs (draft : DatasetDraft) : Json → Prop :=
  IsObjectWith fun members =>
    members.lookup "datasetName" = some (.string draft.name) ∧
    ∃ items, members.lookup "models" = some (.array items) ∧
      List.Forall₂ ModelDraft.WrittenAs draft.models items

/-! ### A document for every draft -/

/-- A member for a value that may be left out. -/
def Json.optionalMember (key : String) (value : Option Json) : List (String × Json) :=
  (value.map fun found => (key, found)).toList

def FieldDraft.toJson (draft : FieldDraft) : Json :=
  .object ([("name", .string draft.name), ("type", .string draft.typeName)] ++
    Json.optionalMember "maxLength" (draft.maxLength.map fun n => .number (.integer n.toInt)))

def QueryDraft.toJson (draft : QueryDraft) : Json :=
  .object [("name", .string draft.name), ("query", .string draft.text)]

def QueryGroup.toMember (group : QueryGroup) : String × Json :=
  (group.key, .array (group.entries.map QueryDraft.toJson))

def ModelDraft.toJson (draft : ModelDraft) : Json :=
  .object ([("name", .string draft.name)] ++
    Json.optionalMember "typeName" (draft.typeName.map .string) ++
    Json.optionalMember "tableName" (draft.tableName.map .string) ++
    [("fields", .array (draft.fields.map FieldDraft.toJson)),
      ("queries", .object (draft.groups.map QueryGroup.toMember))])

/-- The document that mirrors a draft. -/
def DatasetDraft.toJson (draft : DatasetDraft) : Json :=
  .object [("datasetName", .string draft.name),
    ("models", .array (draft.models.map ModelDraft.toJson))]

namespace Schema

/-! ### What the walk accepts -/

theorem isIdentifierFragment_iff {name : String} :
    isIdentifierFragment name = true ↔ IsIdentifier name := by
  have hchar : ∀ c : Char, isIdentifierChar c = true ↔
      ('a' ≤ c ∧ c ≤ 'z') ∨ ('A' ≤ c ∧ c ≤ 'Z') ∨ ('0' ≤ c ∧ c ≤ '9') ∨ c = '_' := by
    intro c
    delta isIdentifierChar Char.isAlphanum Char.isAlpha Char.isUpper Char.isLower Char.isDigit
    simp only [Bool.or_eq_true, Bool.and_eq_true, decide_eq_true_eq, beq_iff_eq, Char.le_def]
    tauto
  simp only [isIdentifierFragment, IsIdentifier, Bool.and_eq_true, Bool.not_eq_true',
    List.all_eq_true, hchar]
  constructor
  · rintro ⟨hne, hall⟩
    exact ⟨by rintro rfl; simp at hne, hall⟩
  · rintro ⟨hne, hall⟩
    exact ⟨by simpa using hne, hall⟩

section Accepts

variable {α β : Type}

/-- The check succeeds exactly on the values of this shape, wherever they stand. -/
def Accepts (check : Path → Json → Check α) (shape : Json → Prop) : Prop :=
  ∀ path value, (∃ result, check path value = .ok result) ↔ shape value

theorem exists_bind_eq_ok_iff {first : Check α} {next : α → Check β} :
    (∃ result, first >>= next = .ok result) ↔
      ∃ value, first = .ok value ∧ ∃ result, next value = .ok result := by
  cases first with
  | error violation =>
    constructor
    · rintro ⟨_, ⟨⟩⟩
    · rintro ⟨_, ⟨⟩, _⟩
  | ok value =>
    constructor
    · rintro ⟨result, h⟩
      exact ⟨value, rfl, result, h⟩
    · rintro ⟨_, ⟨rfl⟩, result, h⟩
      exact ⟨result, h⟩

theorem exists_seq_eq_ok_iff {first : Check α} {next : Check β} :
    (∃ result, (do let _ ← first; next) = .ok result) ↔
      (∃ value, first = .ok value) ∧ ∃ result, next = .ok result := by
  rw [exists_bind_eq_ok_iff]
  simp only [exists_and_right]

theorem object_bind_accepts_iff {path : Path} {value : Json}
    {next : List (String × Json) → Check β} :
    (∃ result, object path value >>= next = .ok result) ↔
      IsObjectWith (fun members => ∃ result, next members = .ok result) value := by
  rw [exists_bind_eq_ok_iff, IsObjectWith]
  refine exists_congr fun members => and_congr_left fun _ => ?_
  cases value <;> simp [object, mismatch]

theorem array_eq_ok_iff {path : Path} {value : Json} {items : List Json} :
    array path value = .ok items ↔ value = .array items := by
  cases value <;> simp [array, mismatch]

theorem string_eq_ok_iff {path : Path} {value : Json} {text : String} :
    string path value = .ok text ↔ value = .string text := by
  cases value <;> simp [string, mismatch]

theorem accepts_string : Accepts string IsString := by
  intro path value
  simp only [string_eq_ok_iff, IsString]

/-- The values of shape `IsInteger` are the machine words. -/
theorem isInteger_iff {value : Json} :
    IsInteger value ↔ ∃ n : Int64, value = .number (.integer n.toInt) := by
  constructor
  · rintro ⟨n, rfl, hlow, hhigh⟩
    exact ⟨Int64.ofInt n, by rw [Int64.toInt_ofInt_of_le (by omega) (by omega)]⟩
  · rintro ⟨n, rfl⟩
    have hlow := Int64.le_toInt n
    have hhigh := Int64.toInt_lt n
    exact ⟨n.toInt, rfl, by omega, by omega⟩

theorem int64?_eq_some_iff {value : Json} {n : Int64} :
    value.int64? = some n ↔ value = .number (.integer n.toInt) := by
  constructor
  · intro h
    unfold Json.int64? at h
    split at h
    · rename_i m
      split at h
      · rename_i hrange
        obtain ⟨hlow, hhigh⟩ := hrange
        rw [Int64.toInt_minValue] at hlow
        rw [Int64.toInt_maxValue] at hhigh
        rw [← Option.some.inj h, Int64.toInt_ofInt_of_le (by omega) (by omega)]
      · cases h
    · cases h
  · rintro rfl
    have hrange : Int64.minValue.toInt ≤ n.toInt ∧ n.toInt ≤ Int64.maxValue.toInt := by
      refine ⟨?_, Int64.toInt_le n⟩
      rw [Int64.toInt_minValue]
      exact Int64.le_toInt n
    rw [Json.int64?, if_pos hrange, Int64.ofInt_toInt]

theorem accepts_integer : Accepts integer IsInteger := by
  intro path value
  rw [isInteger_iff]
  simp only [← int64?_eq_some_iff, integer]
  cases value.int64? <;> simp [mismatch]

theorem accepts_checkName :
    Accepts checkName fun value => ∃ name, value = .string name ∧ IsIdentifier name := by
  intro path value
  simp only [checkName, exists_bind_eq_ok_iff, string_eq_ok_iff, ← isIdentifierFragment_iff]
  refine exists_congr fun name => and_congr_right fun _ => ?_
  cases isIdentifierFragment name <;> simp [pure, Except.pure]

theorem requiredWith_accepts_iff {check : Path → Json → Check α} {shape : Json → Prop}
    (h : Accepts check shape) {path : Path} {members : List (String × Json)} {key : String} :
    (∃ result, requiredWith check path members key = .ok result) ↔ Has members key shape := by
  simp only [requiredWith, exists_bind_eq_ok_iff, h _ _, Has]
  refine exists_congr fun value => and_congr_left fun _ => ?_
  unfold required Json.member?
  cases members.lookup key <;> simp

theorem optionalWith_accepts_iff {check : Path → Json → Check α} {shape : Json → Prop}
    (h : Accepts check shape) {path : Path} {members : List (String × Json)} {key : String} :
    (∃ result, optionalWith check path members key = .ok result) ↔ MayHave members key shape := by
  unfold optionalWith Json.member? MayHave
  cases members.lookup key with
  | none => simp
  | some value =>
    simp only [exists_seq_eq_ok_iff, h _ _, Option.some.injEq, forall_eq']
    exact and_iff_left ⟨(), rfl⟩

theorem accepts_arrayOf {check : Path → Json → Check Unit} {shape : Json → Prop}
    (h : Accepts check shape) : Accepts (arrayOf check) (IsArrayOf shape) := by
  have hitems : ∀ (path : Path) (items : List Json) (i : Nat),
      (∃ result, itemsFrom check path i items = .ok result) ↔ ∀ item ∈ items, shape item := by
    intro path items
    induction items with
    | nil => simp [itemsFrom]
    | cons item items ih =>
      intro i
      rw [itemsFrom, exists_seq_eq_ok_iff, h, ih, List.forall_mem_cons]
  intro path value
  simp only [arrayOf, exists_bind_eq_ok_iff, array_eq_ok_iff, hitems, IsArrayOf]

theorem accepts_checkField : Accepts checkField IsField := by
  intro path value
  simp only [checkField, object_bind_accepts_iff, exists_seq_eq_ok_iff,
    requiredWith_accepts_iff accepts_string,
    optionalWith_accepts_iff accepts_integer]
  rfl

theorem accepts_checkQuery : Accepts checkQuery IsQuery := by
  intro path value
  have hdone : ∃ result : Unit, (pure () : Check Unit) = .ok result := ⟨(), rfl⟩
  simp only [checkQuery, object_bind_accepts_iff, exists_seq_eq_ok_iff,
    requiredWith_accepts_iff accepts_string, and_iff_left hdone]
  rfl

theorem accepts_checkQueries : Accepts checkQueries IsQueries := by
  have hgroups : ∀ (path : Path) (groups : List (String × Json)),
      (∃ result, checkGroups path groups = .ok result) ↔
        ∀ group ∈ groups, IsArrayOf IsQuery group.2 := by
    intro path groups
    induction groups with
    | nil => simp [checkGroups]
    | cons group groups ih =>
      rw [checkGroups, exists_seq_eq_ok_iff, accepts_arrayOf accepts_checkQuery, ih,
        List.forall_mem_cons]
  intro path value
  simp only [checkQueries, object_bind_accepts_iff, hgroups]
  rfl

theorem accepts_checkModel : Accepts checkModel IsModel := by
  intro path value
  simp only [checkModel, object_bind_accepts_iff, exists_seq_eq_ok_iff,
    requiredWith_accepts_iff accepts_string,
    optionalWith_accepts_iff accepts_string,
    requiredWith_accepts_iff (accepts_arrayOf accepts_checkField),
    optionalWith_accepts_iff accepts_checkQueries]
  rfl

end Accepts

theorem check_eq_ok_iff {value : Json} : check value = .ok () ↔ IsDefinition value := by
  have hunit : check value = .ok () ↔ ∃ result, check value = .ok result :=
    ⟨fun h => ⟨(), h⟩, fun ⟨_, h⟩ => h⟩
  rw [hunit]
  simp only [check, object_bind_accepts_iff, exists_seq_eq_ok_iff,
    requiredWith_accepts_iff accepts_checkName,
    requiredWith_accepts_iff (accepts_arrayOf accepts_checkModel)]
  rfl

/-! ### A document of the shape says one thing -/

section Means

variable {δ : Type} {members : List (String × Json)} {key : String} {shape : Json → Prop}

theorem isObjectWith_iff_exists {parts : List (String × Json) → Prop}
    {means : δ → List (String × Json) → Prop} (h : ∀ members, parts members ↔ ∃ d, means d members)
    {value : Json} : IsObjectWith parts value ↔ ∃ d, IsObjectWith (means d) value := by
  simp only [IsObjectWith, h]
  constructor
  · rintro ⟨members, rfl, d, hmeans⟩
    exact ⟨d, members, rfl, hmeans⟩
  · rintro ⟨d, members, rfl, hmeans⟩
    exact ⟨members, rfl, d, hmeans⟩

theorem has_string_iff :
    Has members key IsString ↔ ∃ text, members.lookup key = some (.string text) := by
  constructor
  · rintro ⟨_, hlookup, text, rfl⟩
    exact ⟨text, hlookup⟩
  · rintro ⟨text, hlookup⟩
    exact ⟨_, hlookup, text, rfl⟩

theorem mayHave_iff {encode : δ → Json} (h : ∀ value, shape value ↔ ∃ d, value = encode d) :
    MayHave members key shape ↔ ∃ found : Option δ, members.lookup key = found.map encode := by
  constructor
  · intro hmay
    cases hlookup : members.lookup key with
    | none => exact ⟨none, rfl⟩
    | some value =>
      obtain ⟨d, rfl⟩ := (h value).1 (hmay value hlookup)
      exact ⟨some d, rfl⟩
  · rintro ⟨found, hlookup⟩ value hvalue
    rw [hlookup] at hvalue
    obtain ⟨d, -, rfl⟩ := Option.map_eq_some_iff.1 hvalue
    exact (h _).2 ⟨d, rfl⟩

theorem forall_mem_exists_iff {β : Type} {means : δ → β → Prop} {items : List β} :
    (∀ item ∈ items, ∃ d, means d item) ↔ ∃ ds, List.Forall₂ means ds items := by
  induction items with
  | nil => simp
  | cons item items ih =>
    rw [List.forall_mem_cons, ih]
    constructor
    · rintro ⟨⟨d, hd⟩, ds, hds⟩
      exact ⟨d :: ds, .cons hd hds⟩
    · rintro ⟨_, hall⟩
      cases hall with
      | cons hd hds => exact ⟨⟨_, hd⟩, _, hds⟩

theorem isArrayOf_iff {means : δ → Json → Prop} (h : ∀ value, shape value ↔ ∃ d, means d value)
    {value : Json} :
    IsArrayOf shape value ↔ ∃ ds items, value = .array items ∧ List.Forall₂ means ds items := by
  simp only [IsArrayOf, h, forall_mem_exists_iff]
  constructor
  · rintro ⟨items, rfl, ds, hall⟩
    exact ⟨ds, items, rfl, hall⟩
  · rintro ⟨ds, items, rfl, hall⟩
    exact ⟨items, rfl, ds, hall⟩

theorem has_arrayOf_iff {means : δ → Json → Prop} (h : ∀ value, shape value ↔ ∃ d, means d value) :
    Has members key (IsArrayOf shape) ↔
      ∃ ds items, members.lookup key = some (.array items) ∧ List.Forall₂ means ds items := by
  simp only [Has, isArrayOf_iff h]
  constructor
  · rintro ⟨_, hlookup, ds, items, rfl, hall⟩
    exact ⟨ds, items, hlookup, hall⟩
  · rintro ⟨ds, items, hlookup, hall⟩
    exact ⟨_, hlookup, ds, items, rfl, hall⟩

theorem isField_iff (value : Json) :
    IsField value ↔ ∃ draft : FieldDraft, draft.WrittenAs value := by
  apply isObjectWith_iff_exists
  intro members
  rw [has_string_iff, has_string_iff, mayHave_iff fun _ => isInteger_iff]
  constructor
  · rintro ⟨⟨name, hname⟩, ⟨typeName, htype⟩, maxLength, hlength⟩
    exact ⟨⟨name, typeName, maxLength⟩, hname, htype, hlength⟩
  · rintro ⟨draft, hname, htype, hlength⟩
    exact ⟨⟨_, hname⟩, ⟨_, htype⟩, _, hlength⟩

theorem isQuery_iff (value : Json) :
    IsQuery value ↔ ∃ draft : QueryDraft, draft.WrittenAs value := by
  apply isObjectWith_iff_exists
  intro members
  rw [has_string_iff, has_string_iff]
  constructor
  · rintro ⟨⟨name, hname⟩, text, htext⟩
    exact ⟨⟨name, text⟩, hname, htext⟩
  · rintro ⟨draft, hname, htext⟩
    exact ⟨⟨_, hname⟩, _, htext⟩

theorem isQueries_iff {value : Json} :
    IsQueries value ↔ ∃ (groups : List QueryGroup) (parts : List (String × Json)),
      value = .object parts ∧ List.Forall₂ QueryGroup.WrittenAs groups parts := by
  have hgroup : ∀ part : String × Json,
      IsArrayOf IsQuery part.2 ↔ ∃ group : QueryGroup, group.WrittenAs part := by
    intro part
    rw [isArrayOf_iff isQuery_iff]
    constructor
    · rintro ⟨entries, items, hvalue, hall⟩
      exact ⟨⟨part.1, entries⟩, rfl, items, hvalue, hall⟩
    · rintro ⟨group, -, items, hvalue, hall⟩
      exact ⟨group.entries, items, hvalue, hall⟩
  simp only [IsQueries, IsObjectWith, hgroup, forall_mem_exists_iff]
  constructor
  · rintro ⟨parts, rfl, groups, hall⟩
    exact ⟨groups, parts, rfl, hall⟩
  · rintro ⟨groups, parts, rfl, hall⟩
    exact ⟨parts, rfl, groups, hall⟩

theorem mayHave_queries_iff :
    MayHave members key IsQueries ↔ ∃ groups : List QueryGroup,
      members.lookup key = none ∧ groups = [] ∨
        ∃ parts, members.lookup key = some (.object parts) ∧
          List.Forall₂ QueryGroup.WrittenAs groups parts := by
  constructor
  · intro hmay
    cases hlookup : members.lookup key with
    | none => exact ⟨[], Or.inl ⟨rfl, rfl⟩⟩
    | some value =>
      obtain ⟨groups, parts, rfl, hall⟩ := isQueries_iff.1 (hmay value hlookup)
      exact ⟨groups, Or.inr ⟨parts, rfl, hall⟩⟩
  · rintro ⟨groups, ⟨hnone, -⟩ | ⟨parts, hlookup, hall⟩⟩ value hvalue
    · rw [hnone] at hvalue
      cases hvalue
    · rw [hlookup] at hvalue
      exact isQueries_iff.2 ⟨groups, parts, (Option.some.inj hvalue).symm, hall⟩

theorem isModel_iff (value : Json) :
    IsModel value ↔ ∃ draft : ModelDraft, draft.WrittenAs value := by
  have hstring : ∀ value, IsString value ↔ ∃ text, value = .string text := fun _ => Iff.rfl
  apply isObjectWith_iff_exists
  intro members
  rw [has_string_iff, mayHave_iff hstring, mayHave_iff hstring, has_arrayOf_iff isField_iff,
    mayHave_queries_iff]
  constructor
  · rintro ⟨⟨name, hname⟩, ⟨typeName, htype⟩, ⟨tableName, htable⟩, ⟨fields, hfields⟩,
      groups, hgroups⟩
    exact ⟨⟨name, typeName, tableName, fields, groups⟩, hname, htype, htable, hfields, hgroups⟩
  · rintro ⟨draft, hname, htype, htable, hfields, hgroups⟩
    exact ⟨⟨_, hname⟩, ⟨_, htype⟩, ⟨_, htable⟩, ⟨_, hfields⟩, _, hgroups⟩

theorem isDefinition_iff {value : Json} :
    IsDefinition value ↔
      ∃ draft : DatasetDraft, IsIdentifier draft.name ∧ draft.WrittenAs value := by
  simp only [IsDefinition, IsObjectWith, has_arrayOf_iff isModel_iff]
  constructor
  · rintro ⟨members, rfl, ⟨_, hlookup, name, rfl, hidentifier⟩, models, hmodels⟩
    exact ⟨⟨name, models⟩, hidentifier, members, rfl, hlookup, hmodels⟩
  · rintro ⟨draft, hidentifier, members, rfl, hlookup, hmodels⟩
    exact ⟨members, rfl, ⟨_, hlookup, _, rfl, hidentifier⟩, _, hmodels⟩

end Means

end Schema

/-! ### What the reader takes out -/

section Taken

variable {δ : Type} {read : Json → Option δ} {members : List (String × Json)} {key : String}

theorem Json.required?_eq_some {value : Json} {d : δ} (hlookup : members.lookup key = some value)
    (hread : read value = some d) : Json.required? read members key = some d := by
  rw [Json.required?, Json.member?, hlookup]
  exact hread

theorem Json.optional?_eq_some {encode : δ → Json} (hread : ∀ d, read (encode d) = some d)
    (hnull : ∀ d, encode d ≠ .null) {found : Option δ}
    (hlookup : members.lookup key = found.map encode) :
    Json.optional? read members key = some found := by
  cases found with
  | none => simp [Json.optional?, Json.member?, hlookup]
  | some d =>
    -- null is taken for a value that is not there, so no value may be encoded as null
    simp only [Json.optional?, Json.member?, hlookup, Option.map_some]
    split
    · rename_i heq
      cases heq
    · rename_i heq
      exact absurd (Option.some.inj heq) (hnull d)
    · rename_i heq
      rw [← Option.some.inj heq, hread]
      rfl

theorem Json.required?_string {text : String} (h : members.lookup key = some (.string text)) :
    Json.required? Json.string? members key = some text :=
  Json.required?_eq_some h rfl

theorem Json.optional?_string {found : Option String}
    (h : members.lookup key = found.map .string) :
    Json.optional? Json.string? members key = some found := by
  have hread : ∀ text, Json.string? (.string text) = some text := fun _ => rfl
  exact Json.optional?_eq_some hread (by simp) h

theorem mapM_eq_some_of_forall₂ {β : Type} {take : β → Option δ} {means : δ → β → Prop}
    (h : ∀ d item, means d item → take item = some d) {ds : List δ} {items : List β}
    (hall : List.Forall₂ means ds items) : items.mapM take = some ds := by
  induction hall with
  | nil => rfl
  | cons hd _ ih =>
    rw [List.mapM_cons, h _ _ hd, ih]
    rfl

theorem Json.arrayOf?_eq_some {means : δ → Json → Prop}
    (h : ∀ d value, means d value → read value = some d) {ds : List δ} {items : List Json}
    (hall : List.Forall₂ means ds items) : Json.arrayOf? read (.array items) = some ds :=
  mapM_eq_some_of_forall₂ h hall

end Taken

theorem FieldDraft.ofJson?_of_writtenAs (draft : FieldDraft) (value : Json)
    (h : draft.WrittenAs value) : FieldDraft.ofJson? value = some draft := by
  obtain ⟨members, rfl, hname, htype, hlength⟩ := h
  have hread : ∀ n : Int64, Json.int64? (.number (.integer n.toInt)) = some n :=
    fun n => Schema.int64?_eq_some_iff.2 rfl
  have hlength := Json.optional?_eq_some hread (by simp) hlength
  rw [FieldDraft.ofJson?, Json.record?, Option.bind_eq_bind, Option.bind_some,
    Json.required?_string hname, Json.required?_string htype, hlength]
  rfl

theorem QueryDraft.ofJson?_of_writtenAs (draft : QueryDraft) (value : Json)
    (h : draft.WrittenAs value) : QueryDraft.ofJson? value = some draft := by
  obtain ⟨members, rfl, hname, htext⟩ := h
  rw [QueryDraft.ofJson?, Json.record?, Option.bind_eq_bind, Option.bind_some,
    Json.required?_string hname, Json.required?_string htext]
  rfl

theorem QueryGroup.ofMember?_of_writtenAs (group : QueryGroup) (member : String × Json)
    (h : group.WrittenAs member) : QueryGroup.ofMember? member = some group := by
  obtain ⟨key, value⟩ := member
  obtain ⟨rfl, items, rfl, hentries⟩ := h
  rw [QueryGroup.ofMember?, Json.arrayOf?_eq_some QueryDraft.ofJson?_of_writtenAs hentries]
  rfl

theorem ModelDraft.ofJson?_of_writtenAs (draft : ModelDraft) (value : Json)
    (h : draft.WrittenAs value) : ModelDraft.ofJson? value = some draft := by
  obtain ⟨members, rfl, hname, htype, htable, ⟨items, hitems, hfields⟩, hgroups⟩ := h
  have hfields := Json.arrayOf?_eq_some FieldDraft.ofJson?_of_writtenAs hfields
  have hgroups : Json.defaulted? QueryGroup.listOfJson? [] members "queries" =
      some draft.groups := by
    rcases hgroups with ⟨hnone, hempty⟩ | ⟨parts, hparts, hall⟩
    · rw [Json.defaulted?, Json.member?, hnone, hempty]
    · rw [Json.defaulted?, Json.member?, hparts]
      exact mapM_eq_some_of_forall₂ QueryGroup.ofMember?_of_writtenAs hall
  rw [ModelDraft.ofJson?, Json.record?, Option.bind_eq_bind, Option.bind_some,
    Json.required?_string hname, Json.optional?_string htype, Json.optional?_string htable,
    Json.required?_eq_some hitems hfields, hgroups]
  rfl

theorem DatasetDraft.ofJson?_of_writtenAs {draft : DatasetDraft} {value : Json}
    (h : draft.WrittenAs value) : DatasetDraft.ofJson? value = some draft := by
  obtain ⟨members, rfl, hname, items, hitems, hmodels⟩ := h
  have hmodels := Json.arrayOf?_eq_some ModelDraft.ofJson?_of_writtenAs hmodels
  rw [DatasetDraft.ofJson?, Json.record?, Option.bind_eq_bind, Option.bind_some,
    Json.required?_string hname, Json.required?_eq_some hitems hmodels]
  rfl

/-! ### Writing a draft down -/

theorem forall₂_map_right {α β : Type} {means : α → β → Prop} {write : α → β}
    (h : ∀ a, means a (write a)) (as : List α) : List.Forall₂ means as (as.map write) := by
  rw [List.forall₂_map_right_iff, List.forall₂_same]
  exact fun a _ => h a

theorem FieldDraft.writtenAs_toJson (draft : FieldDraft) : draft.WrittenAs draft.toJson := by
  refine ⟨_, rfl, rfl, rfl, ?_⟩
  cases draft.maxLength <;> rfl

theorem QueryDraft.writtenAs_toJson (draft : QueryDraft) : draft.WrittenAs draft.toJson :=
  ⟨_, rfl, rfl, rfl⟩

theorem QueryGroup.writtenAs_toMember (group : QueryGroup) : group.WrittenAs group.toMember :=
  ⟨rfl, _, rfl, forall₂_map_right QueryDraft.writtenAs_toJson group.entries⟩

theorem ModelDraft.writtenAs_toJson (draft : ModelDraft) : draft.WrittenAs draft.toJson := by
  have hfields := forall₂_map_right FieldDraft.writtenAs_toJson draft.fields
  have hgroups := forall₂_map_right QueryGroup.writtenAs_toMember draft.groups
  refine ⟨_, rfl, ?_⟩
  -- which members there are depends on the two optional names only
  cases htype : draft.typeName <;> cases htable : draft.tableName <;>
    exact ⟨rfl, rfl, rfl, ⟨_, rfl, hfields⟩, Or.inr ⟨_, rfl, hgroups⟩⟩

theorem DatasetDraft.writtenAs_toJson (draft : DatasetDraft) : draft.WrittenAs draft.toJson :=
  ⟨_, rfl, rfl, _, rfl, forall₂_map_right ModelDraft.writtenAs_toJson draft.models⟩

theorem FieldDraft.uniqueKeys_toJson (draft : FieldDraft) : draft.toJson.UniqueKeys := by
  refine .object ?_ ?_
  · cases draft.maxLength <;> simp [Json.optionalMember]
  · cases draft.maxLength <;>
      simp [Json.optionalMember, Json.UniqueKeys.string, Json.UniqueKeys.number]

theorem QueryDraft.uniqueKeys_toJson (draft : QueryDraft) : draft.toJson.UniqueKeys :=
  .object (by simp) (by simp [Json.UniqueKeys.string])

theorem QueryGroup.uniqueKeys_toMember (group : QueryGroup) : group.toMember.2.UniqueKeys :=
  .array (by simpa using fun entry _ => QueryDraft.uniqueKeys_toJson entry)

theorem ModelDraft.uniqueKeys_toJson {draft : ModelDraft}
    (h : (draft.groups.map (·.key)).Nodup) : draft.toJson.UniqueKeys := by
  have hfields : (Json.array (draft.fields.map FieldDraft.toJson)).UniqueKeys :=
    .array (by simpa using fun field _ => FieldDraft.uniqueKeys_toJson field)
  have hgroups : (Json.object (draft.groups.map QueryGroup.toMember)).UniqueKeys := by
    refine .object ?_ (by simpa using fun group _ => QueryGroup.uniqueKeys_toMember group)
    rw [List.map_map]
    exact h
  refine .object ?_ ?_
  · cases draft.typeName <;> cases draft.tableName <;> simp [Json.optionalMember]
  · cases draft.typeName <;> cases draft.tableName <;>
      simp [Json.optionalMember, Json.UniqueKeys.string, hfields, hgroups]

/-- If no model repeats the key of a query group, the written document repeats no key. -/
theorem DatasetDraft.uniqueKeys_toJson {draft : DatasetDraft}
    (h : ∀ model ∈ draft.models, (model.groups.map (·.key)).Nodup) : draft.toJson.UniqueKeys := by
  have hmodels : (Json.array (draft.models.map ModelDraft.toJson)).UniqueKeys :=
    .array (by simpa using fun model hmodel => ModelDraft.uniqueKeys_toJson (h model hmodel))
  exact .object (by simp) (by simp [Json.UniqueKeys.string, hmodels])

/-! ### Reading -/

namespace Schema

theorem read_of_writtenAs {draft : DatasetDraft} {value : Json}
    (hidentifier : IsIdentifier draft.name) (h : draft.WrittenAs value) :
    read value = .ok draft := by
  have hcheck : check value = .ok () :=
    check_eq_ok_iff.2 (isDefinition_iff.2 ⟨draft, hidentifier, h⟩)
  rw [read, hcheck]
  simp only [DatasetDraft.ofJson?_of_writtenAs h]
  rfl

theorem ofJson?_of_check {value : Json} (h : check value = .ok ()) :
    ∃ draft, IsIdentifier draft.name ∧ draft.WrittenAs value ∧
      DatasetDraft.ofJson? value = some draft := by
  obtain ⟨draft, hidentifier, hwritten⟩ := isDefinition_iff.1 (check_eq_ok_iff.1 h)
  exact ⟨draft, hidentifier, hwritten, DatasetDraft.ofJson?_of_writtenAs hwritten⟩

/-- A reading that fails has failed in the walk. -/
theorem read_eq_error_iff {value : Json} {violation : Violation} :
    read value = .error violation ↔ check value = .error violation := by
  cases hcheck : check value with
  | error found =>
    have hread : read value = .error found := by
      rw [read, hcheck]
      rfl
    simp [hread]
  | ok _ =>
    obtain ⟨draft, hidentifier, hwritten, -⟩ := ofJson?_of_check hcheck
    simp [read_of_writtenAs hidentifier hwritten]

theorem read_eq_ok_iff {value : Json} {draft : DatasetDraft} :
    read value = .ok draft ↔ IsIdentifier draft.name ∧ draft.WrittenAs value := by
  constructor
  · intro h
    cases hcheck : check value with
    | error found =>
      rw [read_eq_error_iff.2 hcheck] at h
      cases h
    | ok _ =>
      obtain ⟨found, hidentifier, hwritten, -⟩ := ofJson?_of_check hcheck
      rw [read_of_writtenAs hidentifier hwritten] at h
      obtain rfl := Except.ok.inj h
      exact ⟨hidentifier, hwritten⟩
  · rintro ⟨hidentifier, hwritten⟩
    exact read_of_writtenAs hidentifier hwritten

/-- Reading succeeds exactly on the documents of the documented shape, and with the draft that the
document says.  Once the walk has accepted a document the reader takes a draft out of it, so every
violation comes from the walk.  A draft whose name is an identifier is read back from the document
that mirrors it, and that document repeats no key if the draft repeats no query group. -/
theorem read_iff_shape :
    (∀ value : Json,
      ((∃ draft, read value = .ok draft) ↔ IsDefinition value) ∧
      (∀ draft, read value = .ok draft ↔ IsIdentifier draft.name ∧ draft.WrittenAs value) ∧
      (check value = .ok () → ∃ draft, DatasetDraft.ofJson? value = some draft) ∧
      ∀ violation, read value = .error violation ↔ check value = .error violation) ∧
    ∀ draft : DatasetDraft, IsIdentifier draft.name →
      read draft.toJson = .ok draft ∧
      ((∀ model ∈ draft.models, (model.groups.map (·.key)).Nodup) → draft.toJson.UniqueKeys) := by
  refine ⟨fun value => ⟨?_, fun draft => read_eq_ok_iff, ?_, fun violation => read_eq_error_iff⟩,
    fun draft hidentifier => ⟨?_, ?_⟩⟩
  · simp only [read_eq_ok_iff, isDefinition_iff]
  · intro hcheck
    obtain ⟨draft, -, -, hdraft⟩ := ofJson?_of_check hcheck
    exact ⟨draft, hdraft⟩
  · exact read_of_writtenAs hidentifier draft.writtenAs_toJson
  · exact DatasetDraft.uniqueKeys_toJson

/-- A draft with both kinds of optional values, a length at the end of the range and an empty query
group comes back; null in the place of an optional name is refused, although the reader alone would
take it. -/
theorem read_iff_shape_optional :
    let draft : DatasetDraft := ⟨"shop_2", [⟨"Item", none, some "items",
      [⟨"id", "PrimaryKey", none⟩, ⟨"label", "Text", some Int64.minValue⟩], [⟨"find", []⟩]⟩]⟩
    let nulled : Json := .object [("datasetName", .string "shop_2"), ("models", .array
      [.object [("name", .string "Item"), ("typeName", .null), ("fields", .array [])]])]
    read draft.toJson = .ok draft ∧ draft.toJson.UniqueKeys ∧
    DatasetDraft.ofJson? nulled = some ⟨"shop_2", [⟨"Item", none, none, [], []⟩]⟩ ∧
    ¬ ∃ found, read nulled = .ok found := by
  intro draft nulled
  have hidentifier : IsIdentifier draft.name := isIdentifierFragment_iff.1 (by decide)
  obtain ⟨hread, hunique⟩ := read_iff_shape.2 draft hidentifier
  refine ⟨hread, hunique (by decide), rfl, ?_⟩
  rw [(read_iff_shape.1 nulled).1, ← check_eq_ok_iff]
  exact fun h => nomatch h

end Schema

end DatasetCompiler
