import DatasetCompiler.Filter
import DatasetCompiler.Proofs.Provenance

/-!
# Statements that look up a key

Two statements of a model compare its primary key, and two filters write them down for all models of
a dataset.  All four ask for the key anew.  They find the one field whose column the table declares
as `INTEGER PRIMARY KEY`, and fail where there is no such field or more than one.

After an eager compilation this never happens.  After a lazy one, a filter fails over the first
model without exactly one key, whatever it would have written for the others.
-/

namespace DatasetCompiler

/-! ### The key of a model -/

theorem FieldType.columnType_eq_iff {type : FieldType} :
    type.columnType = "INTEGER PRIMARY KEY" ↔ type = .primaryKey := by
  cases type <;> decide

namespace Model

/-- How many fields of a model are declared as primary keys. -/
def keyFields (m : Model) : Nat := m.fields.countP fun f => f.type = .primaryKey

theorem primaryKeyCount_eq (m : Model) : m.primaryKeyCount = m.keyFields := rfl

/-- The table declares this field as its key, and no other, and both statements compare it. -/
structure KeyedBy (m : Model) (key : Field) : Prop where
  column : ∃ before after : List Field, m.fields = before ++ key :: after ∧
    key.type.columnType = "INTEGER PRIMARY KEY" ∧
    (∀ f ∈ before ++ after, f.type.columnType ≠ "INTEGER PRIMARY KEY") ∧
    m.createTableStatement = "CREATE TABLE IF NOT EXISTS " ++ m.tableName ++ "(" ++
      ",".intercalate (before.map (fun f => f.name ++ " " ++ f.type.columnType) ++
        (key.name ++ " " ++ "INTEGER PRIMARY KEY") ::
          after.map fun f => f.name ++ " " ++ f.type.columnType) ++ ");"
  find : m.findByIdStatement =
    .ok ("SELECT * FROM " ++ m.tableName ++ " WHERE " ++ key.name ++ " = ?;")
  delete : m.deleteByIdStatement =
    .ok ("DELETE FROM " ++ m.tableName ++ " WHERE " ++ key.name ++ " = ?;")

theorem filter_isPrimaryKey_of_primaryKey {m : Model} {key : Field} (h : m.primaryKey = .ok key) :
    m.fields.filter (·.isPrimaryKey) = [key] := by
  unfold primaryKey at h
  split at h
  · rename_i found hfound
    rw [hfound, Except.ok.inj h]
  · cases h

theorem keyedBy_of_primaryKey {m : Model} {key : Field} (h : m.primaryKey = .ok key) :
    m.KeyedBy key := by
  refine ⟨?_, ?_, ?_⟩
  · obtain ⟨before, after, hfields, hbefore, hkey, hafter⟩ :=
      List.filter_eq_cons_iff.1 (filter_isPrimaryKey_of_primaryKey h)
    have htype : key.type.columnType = "INTEGER PRIMARY KEY" :=
      FieldType.columnType_eq_iff.2 (by simpa [Field.isPrimaryKey] using hkey)
    refine ⟨before, after, hfields, htype, ?_, ?_⟩
    · intro f hf
      rw [Ne, FieldType.columnType_eq_iff]
      intro hother
      rcases List.mem_append.1 hf with hmem | hmem
      · exact hbefore f hmem (by simp [Field.isPrimaryKey, hother])
      · exact List.filter_eq_nil_iff.1 hafter f hmem (by simp [Field.isPrimaryKey, hother])
    · have hcolumns : m.fields.map columnDefinition =
          before.map (fun f => f.name ++ " " ++ f.type.columnType) ++
            (key.name ++ " " ++ key.type.columnType) ::
              after.map fun f => f.name ++ " " ++ f.type.columnType := by
        rw [hfields, List.map_append, List.map_cons]
        rfl
      rw [← htype, ← hcolumns]
      rfl
  · change (m.primaryKey >>= _) = _
    rw [h]
    rfl
  · change (m.primaryKey >>= _) = _
    rw [h]
    rfl

/-! ### Everything that asks for the key -/

/-- The violations that looking up the key can report: at most one. -/
def keyViolations (m : Model) : List KeyViolation :=
  if m.keyFields = 1 then [] else [⟨m.name, m.keyFields⟩]

theorem reports_primaryKey (m : Model) :
    Reports m.keyViolations m.primaryKey fun key => m.KeyedBy key := by
  rw [keyViolations, ← m.primaryKeyCount_eq]
  by_cases hone : m.primaryKeyCount = 1
  · obtain ⟨key, hkey⟩ := m.exists_primaryKey_iff.2 hone
    rw [if_pos hone]
    exact ⟨key, hkey, keyedBy_of_primaryKey hkey⟩
  · rw [if_neg hone]
    exact primaryKey_eq_error hone

/-- The text is made of the model and its key, so there is none where looking up the key fails. -/
def WritesKey (apply : Model → Except KeyViolation String) : Prop :=
  ∃ write : Model → Field → String, ∀ m : Model, apply m = m.primaryKey.map (write m)

theorem writesKey_findById :
    WritesKey fun m => m.findByIdStatement.map CLiteral.ofText := by
  refine ⟨fun m key => CLiteral.ofText
    ("SELECT * FROM " ++ m.tableName ++ " WHERE " ++ key.name ++ " = ?;"), ?_⟩
  intro m
  change (m.primaryKey >>= _).map _ = _
  cases m.primaryKey <;> rfl

theorem writesKey_deleteById :
    WritesKey fun m => m.deleteByIdStatement.map CLiteral.ofText := by
  refine ⟨fun m key => CLiteral.ofText
    ("DELETE FROM " ++ m.tableName ++ " WHERE " ++ key.name ++ " = ?;"), ?_⟩
  intro m
  change (m.primaryKey >>= _).map _ = _
  cases m.primaryKey <;> rfl

theorem WritesKey.reports {apply : Model → Except KeyViolation String} (h : WritesKey apply)
    (m : Model) : Reports m.keyViolations (apply m) fun _ => True := by
  obtain ⟨write, hwrite⟩ := h
  have hmap : apply m = (do let key ← m.primaryKey; return write m key) := by
    rw [hwrite m]
    cases m.primaryKey <;> rfl
  rw [hmap]
  exact m.reports_primaryKey.map fun _ _ => trivial

end Model

/-! ### Filters -/

theorem Filter.reports_values {apply : Model → Except KeyViolation String}
    (h : Model.WritesKey apply) (vars : Variables) (d : Dataset) :
    Reports (d.models.flatMap Model.keyViolations) ((Filter.checkedModel apply).values vars d)
      fun _ => True :=
  (Reports.mapM fun m (_ : m ∈ d.models) => h.reports m).imp fun _ _ => trivial

theorem Model.head?_keyViolations_eq_some_iff {m : Model} {violation : KeyViolation} :
    m.keyViolations.head? = some violation ↔
      m.keyFields ≠ 1 ∧ violation = ⟨m.name, m.keyFields⟩ := by
  unfold keyViolations
  by_cases hone : m.keyFields = 1
  · simp [hone]
  · simp [hone, eq_comm]

theorem Model.keyViolations_eq_nil_iff {m : Model} : m.keyViolations = [] ↔ m.keyFields = 1 := by
  unfold keyViolations
  by_cases hone : m.keyFields = 1 <;> simp [hone]

theorem Filter.exists_keyed {name : String}
    (h : name ∈ ["model_find_by_id_query_string", "model_delete_by_id_query_string"]) :
    ∃ apply, Template.accessorSource.filter? name = some (.checkedModel apply) ∧
      Model.WritesKey apply := by
  rcases List.mem_cons.1 h with rfl | h
  · exact ⟨_, rfl, Model.writesKey_findById⟩
  · obtain rfl := List.mem_singleton.1 h
    exact ⟨_, rfl, Model.writesKey_deleteById⟩

theorem Filter.exists_values_of_keyFields {apply : Model → Except KeyViolation String}
    (h : Model.WritesKey apply) {d : Dataset} (hkeys : ∀ m ∈ d.models, m.keyFields = 1)
    (vars : Variables) : ∃ values, (Filter.checkedModel apply).values vars d = .ok values := by
  have hreports := Filter.reports_values h vars d
  have hnone : d.models.flatMap Model.keyViolations = [] := by
    rw [List.flatMap_eq_nil_iff]
    intro m hm
    exact Model.keyViolations_eq_nil_iff.2 (hkeys m hm)
  rw [hnone] at hreports
  obtain ⟨values, hvalues, -⟩ := hreports
  exact ⟨values, hvalues⟩

theorem Filter.values_eq_error_iff {apply : Model → Except KeyViolation String}
    (h : Model.WritesKey apply) (vars : Variables) (d : Dataset) (violation : KeyViolation) :
    (Filter.checkedModel apply).values vars d = .error violation ↔
      ∃ (i : Nat) (m : Model), d.models[i]? = some m ∧ m.keyFields ≠ 1 ∧
        (∀ j < i, ∀ earlier, d.models[j]? = some earlier → earlier.keyFields = 1) ∧
        violation = ⟨m.name, m.keyFields⟩ := by
  rw [(Filter.reports_values h vars d).error_iff, head?_flatMap_eq_some_iff]
  simp only [Model.head?_keyViolations_eq_some_iff, Model.keyViolations_eq_nil_iff]
  constructor
  · rintro ⟨i, m, hm, ⟨hne, hviolation⟩, hearlier⟩
    exact ⟨i, m, hm, hne, hearlier, hviolation⟩
  · rintro ⟨i, m, hm, hne, hearlier, hviolation⟩
    exact ⟨i, m, hm, ⟨hne, hviolation⟩, hearlier⟩

theorem Filter.exists_error_iff {apply : Model → Except KeyViolation String}
    (h : Model.WritesKey apply) (vars : Variables) (d : Dataset) :
    (∃ violation, (Filter.checkedModel apply).values vars d = .error violation) ↔
      ∃ m ∈ d.models, m.keyFields ≠ 1 := by
  constructor
  · rintro ⟨violation, herror⟩
    obtain ⟨i, m, hm, hne, -⟩ := (Filter.values_eq_error_iff h vars d violation).1 herror
    exact ⟨m, List.mem_of_getElem? hm, hne⟩
  · rintro ⟨m, hm, hne⟩
    have hreports := Filter.reports_values h vars d
    cases hviolations : d.models.flatMap Model.keyViolations with
    | nil =>
      have hnil := List.flatMap_eq_nil_iff.1 hviolations m hm
      exact absurd (Model.keyViolations_eq_nil_iff.1 hnil) hne
    | cons violation violations =>
      rw [hviolations] at hreports
      exact ⟨violation, hreports⟩

/-- What a compilation promises about keys.  If it is eager, every model has a field that is its
key, in its table and in the statements that look up rows, and the filters that write these
statements never fail.  If it is lazy, such a filter fails exactly if some model does not have one
key, and it reports the first of these models with the number of its keys. -/
theorem Definition.compile_keyed {options : Options} {doc : Json} {dataset : Dataset}
    (h : Definition.compile options doc = .ok dataset) :
    (options.keyCheck = .eager →
      (∀ m ∈ dataset.models, m.fields ≠ [] ∧ ∃ key, m.KeyedBy key) ∧
      ∀ name ∈ ["model_find_by_id_query_string", "model_delete_by_id_query_string"],
        ∃ apply, Template.accessorSource.filter? name = some (.checkedModel apply) ∧
          ∀ vars, ∃ values, (Filter.checkedModel apply).values vars dataset = .ok values) ∧
    (options.keyCheck = .lazy →
      ∀ name ∈ ["model_find_by_id_query_string", "model_delete_by_id_query_string"],
        ∃ apply, Template.accessorSource.filter? name = some (.checkedModel apply) ∧
          ∀ vars,
            ((∃ violation, (Filter.checkedModel apply).values vars dataset = .error violation) ↔
              ∃ m ∈ dataset.models, m.keyFields ≠ 1) ∧
            ∀ violation, (Filter.checkedModel apply).values vars dataset = .error violation ↔
              ∃ (i : Nat) (m : Model), dataset.models[i]? = some m ∧ m.keyFields ≠ 1 ∧
                (∀ j < i, ∀ earlier, dataset.models[j]? = some earlier →
                  earlier.keyFields = 1) ∧
                violation = ⟨m.name, m.keyFields⟩) := by
  constructor
  · intro heager
    obtain ⟨draft, -, hcompile⟩ := Definition.compile_eq_ok_iff.1 h
    have hself : options.withKeyCheck .eager = options := by
      rw [← heager]
      rfl
    rw [← hself] at hcompile
    obtain ⟨-, hkeys⟩ := DatasetDraft.compile_lazy_of_eager hcompile
    refine ⟨?_, ?_⟩
    · intro m hm
      obtain ⟨key, hkey⟩ := hkeys m hm
      have hkeyed := Model.keyedBy_of_primaryKey hkey
      obtain ⟨before, after, hfields, -⟩ := hkeyed.column
      exact ⟨by simp [hfields], key, hkeyed⟩
    · intro name hname
      obtain ⟨apply, hfilter, hwrites⟩ := Filter.exists_keyed hname
      refine ⟨apply, hfilter, Filter.exists_values_of_keyFields hwrites ?_⟩
      intro m hm
      rw [← m.primaryKeyCount_eq]
      exact m.exists_primaryKey_iff.1 (hkeys m hm)
  · rintro - name hname
    obtain ⟨apply, hfilter, hwrites⟩ := Filter.exists_keyed hname
    refine ⟨apply, hfilter, fun vars => ⟨Filter.exists_error_iff hwrites vars dataset, ?_⟩⟩
    exact Filter.values_eq_error_iff hwrites vars dataset

/-- A model with its key behind another field, alone under the eager check and before a model
without a key under the lazy one. -/
theorem Definition.compile_keyed_behind :
    let userJson : Json := .object [("name", .string "User"), ("fields", .array
      [.object [("name", .string "email"), ("type", .string "Text")],
       .object [("name", .string "id"), ("type", .string "PrimaryKey")]])]
    let tagJson : Json := .object [("name", .string "Tag"), ("fields", .array [])]
    let doc (models : List Json) : Json :=
      .object [("datasetName", .string "app"), ("models", .array models)]
    let user : Model :=
      ⟨"User", [⟨"email", .text, 0⟩, ⟨"id", .primaryKey, 0⟩], [], none, none⟩
    let tag : Model := ⟨"Tag", [], [], none, none⟩
    (Definition.compile ⟨.eager, []⟩ (doc [userJson]) = .ok ⟨"app", [user]⟩ ∧
      ∃ key, user.KeyedBy key) ∧
    (Definition.compile ⟨.lazy, []⟩ (doc [userJson, tagJson]) = .ok ⟨"app", [user, tag]⟩ ∧
      ∃ apply, Template.accessorSource.filter? "model_delete_by_id_query_string" =
          some (.checkedModel apply) ∧
        (Filter.checkedModel apply).values .default ⟨"app", [user, tag]⟩ =
          .error ⟨"Tag", 0⟩) := by
  intro userJson tagJson doc user tag
  have heager : Definition.compile ⟨.eager, []⟩ (doc [userJson]) = .ok ⟨"app", [user]⟩ := by
    decide +kernel
  have hlazy : Definition.compile ⟨.lazy, []⟩ (doc [userJson, tagJson]) =
      .ok ⟨"app", [user, tag]⟩ := by
    decide +kernel
  obtain ⟨hkeyed, -⟩ := (Definition.compile_keyed heager).1 rfl
  obtain ⟨apply, hfilter, hvalues⟩ :=
    (Definition.compile_keyed hlazy).2 rfl "model_delete_by_id_query_string" (by simp)
  refine ⟨⟨heager, (hkeyed user List.mem_cons_self).2⟩, hlazy, apply, hfilter, ?_⟩
  refine ((hvalues .default).2 ⟨"Tag", 0⟩).2 ⟨1, tag, rfl, by decide, ?_, rfl⟩
  intro j hj earlier hget
  obtain rfl : j = 0 := by omega
  obtain rfl := Option.some.inj hget
  decide

end DatasetCompiler
