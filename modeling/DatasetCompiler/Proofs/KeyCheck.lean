import DatasetCompiler.Proofs.Fault

/-!
# Eager and lazy key checks

The two checks see the same faults, and the eager one sees the key violations of the models besides.
A key violation stands between the faults of the fields and the faults of the queries of its model,
so it takes the place of a later fault but never of an earlier one.  Where the lazy check finds
nothing, the violation that the eager check reports is the one that looking up the key would give.
-/

namespace DatasetCompiler

/-! ### Looking up the key -/

theorem Model.exists_primaryKey_iff (m : Model) :
    (∃ key, m.primaryKey = .ok key) ↔ m.primaryKeyCount = 1 := by
  rw [Model.primaryKey, Model.primaryKeyCount, List.countP_eq_length_filter]
  cases m.fields.filter (·.isPrimaryKey) with
  | nil => simp
  | cons key keys =>
    cases keys with
    | nil => simp
    | cons key' keys => simp

theorem Model.primaryKey_eq_error {m : Model} (h : m.primaryKeyCount ≠ 1) :
    m.primaryKey = .error ⟨m.name, m.primaryKeyCount⟩ := by
  have hnone : ¬ ∃ key, m.primaryKey = .ok key := mt m.exists_primaryKey_iff.1 h
  unfold Model.primaryKey at hnone ⊢
  split
  · rename_i key hkeys
    simp [hkeys] at hnone
  · rfl

/-! ### The first fault of a list of models -/

theorem head?_flatMap_eq_some_iff {α β : Type} {part : α → List β} {items : List α} {first : β} :
    (items.flatMap part).head? = some first ↔
      ∃ (i : Nat) (item : α), items[i]? = some item ∧ (part item).head? = some first ∧
        ∀ j < i, ∀ earlier, items[j]? = some earlier → part earlier = [] := by
  induction items with
  | nil => simp
  | cons item items ih =>
    rw [List.flatMap_cons]
    constructor
    · intro h
      cases hpart : part item with
      | nil =>
        rw [hpart, List.nil_append, ih] at h
        obtain ⟨i, found, hfound, hfirst, hearlier⟩ := h
        refine ⟨i + 1, found, hfound, hfirst, ?_⟩
        intro j hj earlier hget
        cases j with
        | zero =>
          obtain rfl : item = earlier := by simpa using hget
          exact hpart
        | succ j => exact hearlier j (by omega) earlier (by simpa using hget)
      | cons head tail =>
        refine ⟨0, item, rfl, ?_, by simp⟩
        rw [hpart] at h ⊢
        exact h
    · rintro ⟨i, found, hfound, hfirst, hearlier⟩
      cases i with
      | zero =>
        obtain rfl : item = found := by simpa using hfound
        rw [List.head?_append, hfirst]
        rfl
      | succ i =>
        have hpart : part item = [] := hearlier 0 (by omega) item rfl
        rw [hpart, List.nil_append, ih]
        refine ⟨i, found, by simpa using hfound, hfirst, ?_⟩
        intro j hj earlier hget
        exact hearlier (j + 1) (by omega) earlier (by simpa using hget)

/-- Whether the fault is one of a query or of a query group. -/
def CompileError.inQueries : CompileError → Bool
  | .definition ⟨_, _, some (.query _)⟩ => true
  | .definition ⟨_, _, some (.queryGroup _)⟩ => true
  | _ => false

namespace ModelDraft

theorem inQueries_of_mem_fieldFaults {draft : ModelDraft} {e : CompileError}
    (h : e ∈ draft.fieldFaults) : e.inQueries = false := by
  obtain ⟨field, -, hmem⟩ := List.mem_flatMap.1 h
  obtain ⟨kind, -, rfl⟩ := List.mem_map.1 hmem
  rfl

theorem inQueries_of_mem_queryFaults {draft : ModelDraft} {e : CompileError}
    (h : e ∈ draft.queryFaults) : e.inQueries = true := by
  obtain ⟨group, -, hmem⟩ := List.mem_flatMap.1 h
  rcases List.mem_append.1 hmem with hmem | hmem
  · obtain ⟨kind, -, rfl⟩ := List.mem_map.1 hmem
    rfl
  · obtain ⟨entry, -, hmem⟩ := List.mem_flatMap.1 hmem
    obtain ⟨kind, -, rfl⟩ := List.mem_map.1 hmem
    rfl

theorem faults_lazy (draft : ModelDraft) :
    draft.faults .lazy = draft.fieldFaults ++ draft.queryFaults := rfl

theorem faults_eager_of_keyCount {draft : ModelDraft} (h : draft.keyCount = 1) :
    draft.faults .eager = draft.faults .lazy := by
  simp [faults, keyFaults, h]

theorem head?_faults_eager_of_keyCount {draft : ModelDraft} (hfields : draft.fieldFaults = [])
    (h : draft.keyCount ≠ 1) :
    (draft.faults .eager).head? = some (.primaryKey ⟨draft.name, draft.keyCount⟩) := by
  simp [faults, keyFaults, hfields, h]

/-- The first lazy fault is one of the queries exactly if the fields have none. -/
theorem inQueries_head?_faults_lazy {draft : ModelDraft} {e : CompileError}
    (h : (draft.faults .lazy).head? = some e) :
    e.inQueries = true ↔ draft.fieldFaults = [] := by
  rw [faults_lazy] at h
  cases hfields : draft.fieldFaults with
  | nil =>
    rw [hfields, List.nil_append] at h
    simp [inQueries_of_mem_queryFaults (List.mem_of_mem_head? h)]
  | cons fault faults =>
    rw [hfields] at h
    obtain rfl : fault = e := by simpa using h
    have hmem : fault ∈ draft.fieldFaults := by simp [hfields]
    simp [inQueries_of_mem_fieldFaults hmem]

/-- A fault of a field comes before the key check. -/
theorem head?_faults_eager_of_field {draft : ModelDraft} {e : CompileError}
    (h : (draft.faults .lazy).head? = some e) (hfield : e.inQueries = false) :
    (draft.faults .eager).head? = some e := by
  have hfields : draft.fieldFaults ≠ [] := by
    rw [Ne, ← inQueries_head?_faults_lazy h, hfield]
    simp
  obtain ⟨fault, faults, heq⟩ := List.exists_cons_of_ne_nil hfields
  rw [faults_lazy, heq] at h
  rw [ModelDraft.faults, heq]
  exact h

end ModelDraft

theorem ModelDraft.faults_eager_eq_nil_iff {draft : ModelDraft} :
    draft.faults .eager = [] ↔ draft.faults .lazy = [] ∧ draft.keyCount = 1 := by
  by_cases hone : draft.keyCount = 1
  · rw [faults_eager_of_keyCount hone]
    simp [hone]
  · simp [faults, keyFaults, hone]

theorem ModelDraft.Mirrors.primaryKeyCount_eq {draft : ModelDraft} {model : Model}
    (h : draft.Mirrors model) : model.primaryKeyCount = draft.keyCount :=
  countP_isPrimaryKey h.fields

theorem forall₂_getElem? {α β : Type} {good : α → β → Prop} {items : List α} {results : List β}
    (h : List.Forall₂ good items results) {i : Nat} {result : β}
    (hresult : results[i]? = some result) :
    ∃ item, items[i]? = some item ∧ good item result := by
  induction h generalizing i with
  | nil => simp at hresult
  | @cons item found items results hgood _ ih =>
    cases i with
    | zero =>
      obtain rfl : found = result := by simpa using hresult
      exact ⟨item, rfl, hgood⟩
    | succ i => exact ih (by simpa using hresult)

/-! ### Two runs -/

/-- The lazy run fails with this fault, in the model at this index. -/
def DatasetDraft.FailsAt (draft : DatasetDraft) (index : Nat) (e : CompileError) : Prop :=
  ∃ model, draft.models[index]? = some model ∧ model.compile .lazy = .error e ∧
    ∀ j < index, ∀ earlier, draft.models[j]? = some earlier →
      ∃ compiled, earlier.compile .lazy = .ok compiled

theorem ModelDraft.exists_compile_eq_ok_iff {check : KeyCheck} {draft : ModelDraft} :
    (∃ model, draft.compile check = .ok model) ↔ draft.faults check = [] := by
  constructor
  · rintro ⟨model, hmodel⟩
    exact (compile_eq_ok_iff.1 hmodel).1
  · intro hfaults
    have hreports := draft.reports_compile check
    rw [hfaults] at hreports
    obtain ⟨model, hmodel, -⟩ := hreports
    exact ⟨model, hmodel⟩

namespace DatasetDraft

theorem failsAt_iff {draft : DatasetDraft} {index : Nat} {e : CompileError} :
    draft.FailsAt index e ↔
      ∃ model, draft.models[index]? = some model ∧ (model.faults .lazy).head? = some e ∧
        ∀ j < index, ∀ earlier, draft.models[j]? = some earlier → earlier.faults .lazy = [] := by
  simp only [FailsAt, ModelDraft.compile_eq_error_iff, ModelDraft.exists_compile_eq_ok_iff]

theorem faults_eq_nil_iff {check : KeyCheck} {draft : DatasetDraft} :
    draft.faults check = [] ↔ ∀ model ∈ draft.models, model.faults check = [] := by
  simp [faults]

/-- The first key violation is reported if no earlier model has a fault and the fields of its own
model have none. -/
theorem head?_faults_eager {draft : DatasetDraft} {index : Nat} {model : ModelDraft}
    (hmodel : draft.models[index]? = some model) (hfields : model.fieldFaults = [])
    (hkey : model.keyCount ≠ 1)
    (hearlier : ∀ j < index, ∀ earlier, draft.models[j]? = some earlier →
      earlier.faults .lazy = [] ∧ earlier.keyCount = 1) :
    (draft.faults .eager).head? = some (.primaryKey ⟨model.name, model.keyCount⟩) := by
  refine head?_flatMap_eq_some_iff.2
    ⟨index, model, hmodel, ModelDraft.head?_faults_eager_of_keyCount hfields hkey, ?_⟩
  intro j hj earlier hget
  obtain ⟨hfaults, hone⟩ := hearlier j hj earlier hget
  rw [ModelDraft.faults_eager_of_keyCount hone, hfaults]

/-- The models have the names and the keys that their drafts declare, index by index. -/
theorem Mirrors.exists_original {draft : DatasetDraft} {dataset : Dataset}
    (h : draft.Mirrors dataset) {index : Nat} {model : Model}
    (hmodel : dataset.models[index]? = some model) :
    ∃ original, draft.models[index]? = some original ∧ model.name = original.name ∧
      model.primaryKeyCount = original.keyCount := by
  obtain ⟨original, horiginal, hmirrors⟩ := forall₂_getElem? h.models hmodel
  exact ⟨original, horiginal, hmirrors.name, hmirrors.primaryKeyCount_eq⟩

theorem Mirrors.exists_model {draft : DatasetDraft} {dataset : Dataset}
    (h : draft.Mirrors dataset) {index : Nat} {original : ModelDraft}
    (horiginal : draft.models[index]? = some original) :
    ∃ model, dataset.models[index]? = some model ∧ model.primaryKeyCount = original.keyCount := by
  obtain ⟨model, hmodel, hmirrors⟩ := forall₂_getElem? h.models.flip horiginal
  exact ⟨model, hmodel, hmirrors.primaryKeyCount_eq⟩

theorem faults_eager_eq_nil_iff {draft : DatasetDraft} :
    draft.faults .eager = [] ↔
      draft.faults .lazy = [] ∧ ∀ model ∈ draft.models, model.keyCount = 1 := by
  simp only [faults_eq_nil_iff, ModelDraft.faults_eager_eq_nil_iff]
  exact forall₂_and

theorem primaryKey_notMem_faults_lazy (draft : DatasetDraft) (violation : KeyViolation) :
    .primaryKey violation ∉ draft.faults .lazy := by
  intro hmem
  obtain ⟨model, -, hmem⟩ := List.mem_flatMap.1 hmem
  rcases List.mem_append.1 hmem with hmem | hmem
  · obtain ⟨field, -, hmem⟩ := List.mem_flatMap.1 hmem
    obtain ⟨kind, -, heq⟩ := List.mem_map.1 hmem
    cases heq
  · cases ModelDraft.inQueries_of_mem_queryFaults hmem

section Runs

variable {options : Options} {draft : DatasetDraft}

theorem compile_lazy_of_eager {dataset : Dataset}
    (h : draft.compile (options.withKeyCheck .eager) = .ok dataset) :
    draft.compile (options.withKeyCheck .lazy) = .ok dataset ∧
      ∀ model ∈ dataset.models, ∃ key, model.primaryKey = .ok key := by
  obtain ⟨hfaults, hmirrors⟩ := compile_eq_ok_iff.1 h
  obtain ⟨hlazy, hkeys⟩ := faults_eager_eq_nil_iff.1 hfaults
  refine ⟨compile_eq_ok_iff.2 ⟨hlazy, hmirrors⟩, ?_⟩
  intro model hmodel
  obtain ⟨index, hget⟩ := List.mem_iff_getElem?.1 hmodel
  obtain ⟨original, horiginal, -, hcount⟩ := hmirrors.exists_original hget
  rw [Model.exists_primaryKey_iff, hcount]
  exact hkeys original (List.mem_of_getElem? horiginal)

theorem compile_eager_of_lazy {dataset : Dataset}
    (h : draft.compile (options.withKeyCheck .lazy) = .ok dataset)
    (hkeys : ∀ model ∈ dataset.models, model.primaryKeyCount = 1) :
    draft.compile (options.withKeyCheck .eager) = .ok dataset := by
  obtain ⟨hlazy, hmirrors⟩ := compile_eq_ok_iff.1 h
  refine compile_eq_ok_iff.2 ⟨faults_eager_eq_nil_iff.2 ⟨hlazy, ?_⟩, hmirrors⟩
  intro original horiginal
  obtain ⟨index, hget⟩ := List.mem_iff_getElem?.1 horiginal
  obtain ⟨model, hmodel, hcount⟩ := hmirrors.exists_model hget
  rw [← hcount]
  exact hkeys model (List.mem_of_getElem? hmodel)

/-- If the lazy run succeeds, the eager one fails as looking up the key of the first model without
exactly one would. -/
theorem compile_eager_of_lookup {dataset : Dataset}
    (h : draft.compile (options.withKeyCheck .lazy) = .ok dataset) {index : Nat} {model : Model}
    (hmodel : dataset.models[index]? = some model) (hkey : model.primaryKeyCount ≠ 1)
    (hearlier : ∀ j < index, ∀ earlier, dataset.models[j]? = some earlier →
      earlier.primaryKeyCount = 1) :
    ∃ violation, model.primaryKey = .error violation ∧
      draft.compile (options.withKeyCheck .eager) = .error (.primaryKey violation) := by
  obtain ⟨hlazy, hmirrors⟩ := compile_eq_ok_iff.1 h
  have hclean := faults_eq_nil_iff.1 hlazy
  obtain ⟨original, horiginal, hname, hcount⟩ := hmirrors.exists_original hmodel
  have hfields : original.fieldFaults = [] :=
    (List.append_eq_nil_iff.1 (hclean original (List.mem_of_getElem? horiginal))).1
  refine ⟨_, Model.primaryKey_eq_error hkey, ?_⟩
  rw [compile_eq_error_iff, hname, hcount]
  apply head?_faults_eager horiginal hfields (hcount ▸ hkey)
  intro j hj earlier hget
  obtain ⟨compiled, hcompiled, hcount'⟩ := hmirrors.exists_model hget
  refine ⟨hclean earlier (List.mem_of_getElem? hget), ?_⟩
  rw [← hcount']
  exact hearlier j hj compiled hcompiled

theorem compile_lazy_eq_error_iff {e : CompileError} :
    draft.compile (options.withKeyCheck .lazy) = .error e ↔ ∃ index, draft.FailsAt index e := by
  rw [compile_eq_error_iff]
  simp only [failsAt_iff]
  exact head?_flatMap_eq_some_iff

/-- A key violation wins over a lazy fault of a later model, and over one of its own queries. -/
theorem compile_eager_of_preempted {index : Nat} {e : CompileError} (h : draft.FailsAt index e)
    {j : Nat} {model : ModelDraft} (hmodel : draft.models[j]? = some model)
    (hkey : model.keyCount ≠ 1) (hplace : j < index ∨ j = index ∧ e.inQueries)
    (hone : ∀ k < j, ∀ earlier, draft.models[k]? = some earlier → earlier.keyCount = 1) :
    draft.compile (options.withKeyCheck .eager) =
      .error (.primaryKey ⟨model.name, model.keyCount⟩) := by
  obtain ⟨failing, hfailing, hfirst, hclean⟩ := failsAt_iff.1 h
  have hfields : model.fieldFaults = [] := by
    rcases hplace with hj | ⟨rfl, hqueries⟩
    · exact (List.append_eq_nil_iff.1 (hclean j hj model hmodel)).1
    · obtain rfl : failing = model := Option.some.inj (hfailing.symm.trans hmodel)
      exact (ModelDraft.inQueries_head?_faults_lazy hfirst).1 hqueries
  rw [compile_eq_error_iff]
  apply head?_faults_eager hmodel hfields hkey
  intro k hk earlier hget
  exact ⟨hclean k (by omega) earlier hget, hone k hk earlier hget⟩

/-- Without a key violation in front of it, the lazy fault is the eager one. -/
theorem compile_eager_of_failsAt {index : Nat} {e : CompileError} (h : draft.FailsAt index e)
    (hone : ∀ (j : Nat) (model : ModelDraft), draft.models[j]? = some model →
      j < index ∨ j = index ∧ e.inQueries → model.keyCount = 1) :
    draft.compile (options.withKeyCheck .eager) = .error e := by
  obtain ⟨failing, hfailing, hfirst, hclean⟩ := failsAt_iff.1 h
  rw [compile_eq_error_iff]
  change (draft.faults .eager).head? = some e
  refine head?_flatMap_eq_some_iff.2 ⟨index, failing, hfailing, ?_, ?_⟩
  · -- in the failing model, the key only matters to the faults behind its check
    cases hqueries : e.inQueries with
    | true =>
      have hkey := hone index failing hfailing (Or.inr ⟨rfl, hqueries⟩)
      rw [ModelDraft.faults_eager_of_keyCount hkey]
      exact hfirst
    | false => exact ModelDraft.head?_faults_eager_of_field hfirst hqueries
  · intro j hj earlier hget
    have hkey := hone j earlier hget (Or.inl hj)
    exact ModelDraft.faults_eager_eq_nil_iff.2 ⟨hclean j hj earlier hget, hkey⟩

end Runs

/-- The eager and the lazy run of one draft.  The lazy run never fails over a key; where it
succeeds, the eager run gives the same dataset or the violation that looking up keys would find
first; and where it fails, the eager run fails too, with a key violation if one comes first and else
in the same way. -/
theorem compile_eager_lazy (options : Options) (draft : DatasetDraft) :
    (∀ violation, draft.compile (options.withKeyCheck .lazy) ≠ .error (.primaryKey violation)) ∧
    (∀ dataset, draft.compile (options.withKeyCheck .eager) = .ok dataset →
      draft.compile (options.withKeyCheck .lazy) = .ok dataset ∧
      ∀ model ∈ dataset.models, ∃ key, model.primaryKey = .ok key) ∧
    (∀ dataset, draft.compile (options.withKeyCheck .lazy) = .ok dataset →
      ((∀ model ∈ dataset.models, model.primaryKeyCount = 1) →
        draft.compile (options.withKeyCheck .eager) = .ok dataset) ∧
      ∀ (index : Nat) (model : Model), dataset.models[index]? = some model →
        model.primaryKeyCount ≠ 1 →
        (∀ j < index, ∀ earlier, dataset.models[j]? = some earlier →
          earlier.primaryKeyCount = 1) →
        ∃ violation, model.primaryKey = .error violation ∧
          draft.compile (options.withKeyCheck .eager) = .error (.primaryKey violation)) ∧
    (∀ e, draft.compile (options.withKeyCheck .lazy) = .error e ↔ ∃ index, draft.FailsAt index e) ∧
    ∀ index e, draft.FailsAt index e →
      (∀ (j : Nat) (model : ModelDraft), draft.models[j]? = some model → model.keyCount ≠ 1 →
        j < index ∨ j = index ∧ e.inQueries →
        (∀ k < j, ∀ earlier, draft.models[k]? = some earlier → earlier.keyCount = 1) →
        draft.compile (options.withKeyCheck .eager) =
          .error (.primaryKey ⟨model.name, model.keyCount⟩)) ∧
      ((∀ (j : Nat) (model : ModelDraft), draft.models[j]? = some model →
          j < index ∨ j = index ∧ e.inQueries → model.keyCount = 1) →
        draft.compile (options.withKeyCheck .eager) = .error e) := by
  refine ⟨?_, fun dataset => compile_lazy_of_eager, ?_, fun e => compile_lazy_eq_error_iff, ?_⟩
  · intro violation h
    have hfirst := compile_eq_error_iff.1 h
    exact draft.primaryKey_notMem_faults_lazy violation (List.mem_of_mem_head? hfirst)
  · intro dataset h
    exact ⟨compile_eager_of_lazy h, fun index model => compile_eager_of_lookup h⟩
  · intro index e h
    exact ⟨fun j model => compile_eager_of_preempted h, compile_eager_of_failsAt h⟩

/-- A model without a key before one with an unknown query group. -/
theorem compile_eager_lazy_preempted :
    FailsAt ⟨"app", [⟨"Tag", none, none, [], []⟩,
      ⟨"User", none, none, [⟨"id", "PrimaryKey", none⟩], [⟨"upsert", []⟩]⟩]⟩ 1
      (.definition ⟨.unknownQueryType "upsert", some "User", some (.queryGroup "upsert")⟩) ∧
    compile ⟨.eager, []⟩ ⟨"app", [⟨"Tag", none, none, [], []⟩,
      ⟨"User", none, none, [⟨"id", "PrimaryKey", none⟩], [⟨"upsert", []⟩]⟩]⟩ =
      .error (.primaryKey ⟨"Tag", 0⟩) := by
  have hfails : FailsAt ⟨"app", [⟨"Tag", none, none, [], []⟩,
      ⟨"User", none, none, [⟨"id", "PrimaryKey", none⟩], [⟨"upsert", []⟩]⟩]⟩ 1
      (.definition ⟨.unknownQueryType "upsert", some "User", some (.queryGroup "upsert")⟩) := by
    refine ⟨_, rfl, by decide, ?_⟩
    intro j hj earlier hget
    obtain rfl : j = 0 := by omega
    obtain rfl := Option.some.inj hget
    exact ⟨⟨"Tag", [], [], none, none⟩, by decide⟩
  refine ⟨hfails, ?_⟩
  obtain ⟨-, -, -, -, hruns⟩ := compile_eager_lazy .default ⟨"app", [⟨"Tag", none, none, [], []⟩,
    ⟨"User", none, none, [⟨"id", "PrimaryKey", none⟩], [⟨"upsert", []⟩]⟩]⟩
  exact (hruns 1 _ hfails).1 0 ⟨"Tag", none, none, [], []⟩ rfl (by decide) (Or.inl (by decide))
    (by simp)

end DatasetDraft

end DatasetCompiler
