import DatasetCompiler.Definition
import DatasetCompiler.Proofs.Marker
import Mathlib.Data.List.Forall2

/-!
# The first fault of a draft

Compiling a draft is a walk through checks, and the first check that fails decides.  Here all the
checks that fail are listed in the order of the walk, each with its full place, without regard to
which of them would ever be reached.  The result of the walk is the head of that list; if the list
is empty, the result is the one dataset that mirrors the draft.

The connection is `Reports`: a result reports a list of faults if it is the first of them, and a
good value if there are none.  It goes through sequencing, through lists and through the placing of
faults, so each level of a draft is settled by the level below it.

Main definitions: `DatasetDraft.faults` and `DatasetDraft.Mirrors`.
-/

namespace DatasetCompiler

/-! ### Reporting the first of several faults -/

section Reports

variable {ε ε' α β : Type}

/-- The result is the first of these faults, or a good value if there are none. -/
def Reports (faults : List ε) (result : Except ε α) (good : α → Prop) : Prop :=
  match faults with
  | [] => ∃ value, result = .ok value ∧ good value
  | fault :: _ => result = .error fault

theorem Reports.mapError {faults : List ε} {result : Except ε α} {good : α → Prop}
    (h : Reports faults result good) (place : ε → ε') :
    Reports (faults.map place) (result.mapError place) good := by
  cases faults with
  | nil =>
    obtain ⟨value, rfl, hvalue⟩ := h
    exact ⟨value, rfl, hvalue⟩
  | cons fault faults =>
    rw [show result = .error fault from h]
    rfl

theorem Reports.bind {faults more : List ε} {result : Except ε α} {next : α → Except ε β}
    {good : α → Prop} {good' : β → Prop} (h : Reports faults result good)
    (hnext : ∀ value, good value → Reports more (next value) good') :
    Reports (faults ++ more) (result >>= next) good' := by
  cases faults with
  | nil =>
    obtain ⟨value, rfl, hvalue⟩ := h
    exact hnext value hvalue
  | cons fault faults =>
    rw [show result = .error fault from h]
    rfl

theorem Reports.map {faults : List ε} {result : Except ε α} {good : α → Prop} {good' : β → Prop}
    (h : Reports faults result good) {convert : α → β}
    (hgood : ∀ value, good value → good' (convert value)) :
    Reports faults (do let value ← result; return convert value) good' := by
  have hbind := h.bind fun value hvalue =>
    show Reports [] (pure (convert value)) good' from ⟨_, rfl, hgood value hvalue⟩
  rwa [List.append_nil] at hbind

theorem Reports.imp {faults : List ε} {result : Except ε α} {good good' : α → Prop}
    (h : Reports faults result good) (hgood : ∀ value, good value → good' value) :
    Reports faults result good' := by
  cases faults with
  | nil =>
    obtain ⟨value, hvalue, hgoodValue⟩ := h
    exact ⟨value, hvalue, hgood value hgoodValue⟩
  | cons fault faults => exact h

theorem Reports.mapM {faults : α → List ε} {step : α → Except ε β} {good : α → β → Prop}
    {items : List α} (h : ∀ item ∈ items, Reports (faults item) (step item) (good item)) :
    Reports (items.flatMap faults) (items.mapM step) (List.Forall₂ good items) := by
  induction items with
  | nil => exact ⟨[], rfl, .nil⟩
  | cons item items ih =>
    rw [List.flatMap_cons, List.mapM_cons]
    apply (h item (by simp)).bind
    intro value hvalue
    apply (ih fun other hother => h other (by simp [hother])).map
    intro values hvalues
    exact .cons hvalue hvalues

theorem Reports.error_iff {faults : List ε} {result : Except ε α} {good : α → Prop}
    (h : Reports faults result good) {fault : ε} :
    result = .error fault ↔ faults.head? = some fault := by
  cases faults with
  | nil =>
    obtain ⟨value, rfl, -⟩ := h
    simp
  | cons first faults =>
    rw [show result = .error first from h]
    simp

theorem Reports.good_of_ok {faults : List ε} {result : Except ε α} {good : α → Prop}
    (h : Reports faults result good) {value : α} (hok : result = .ok value) : good value := by
  subst hok
  cases faults with
  | nil =>
    obtain ⟨found, hfound, hgood⟩ := h
    obtain rfl := Except.ok.inj hfound
    exact hgood
  | cons first faults => cases h

/-- If only one value is good, it is what a walk without faults gives. -/
theorem Reports.ok_iff {faults : List ε} {result : Except ε α} {good : α → Prop}
    (h : Reports faults result good)
    (hunique : ∀ value value', good value → good value' → value = value') {value : α} :
    result = .ok value ↔ faults = [] ∧ good value := by
  cases faults with
  | nil =>
    obtain ⟨found, rfl, hfound⟩ := h
    constructor
    · rintro ⟨rfl⟩
      exact ⟨rfl, hfound⟩
    · rintro ⟨-, hvalue⟩
      rw [hunique found value hfound hvalue]
  | cons first faults =>
    rw [show result = .error first from h]
    simp

end Reports

/-! ### The faults of a draft -/

/-- What is wrong with a field.  An unknown type hides everything else, and a length that the type
does not allow hides that it is not positive. -/
def FieldDraft.faults (draft : FieldDraft) : List DefinitionError.Kind :=
  match FieldType.ofName? draft.typeName, draft.maxLength with
  | none, _ => [.unknownFieldType draft.typeName]
  | some _, none => []
  | some type, some length =>
    if type ≠ .text ∧ type ≠ .blob then [.maxLengthNotAllowed type]
    else if length.toInt ≤ 0 then [.invalidMaxLength length]
    else []

/-- What is wrong with a query: the placeholders with an unknown type. -/
def QueryDraft.faults (draft : QueryDraft) : List DefinitionError.Kind :=
  (((Occurrence.list draft.text).map (·.typeName)).filter
    fun typeName => FieldType.ofName? typeName = none).map .unknownFieldType

/-- What is wrong with the key of a query group. -/
def QueryGroup.keyFaults (group : QueryGroup) : List DefinitionError.Kind :=
  if QueryType.ofKey? group.key = none then [.unknownQueryType group.key] else []

namespace ModelDraft

/-- A fault of an entry of a model, with its place. -/
def located (draft : ModelDraft) (entry : DefinitionError.Entry) (kind : DefinitionError.Kind) :
    CompileError :=
  .definition ⟨kind, some draft.name, some entry⟩

/-- How many fields are declared as primary keys. -/
def keyCount (draft : ModelDraft) : Nat := draft.fields.countP (·.typeName = "PrimaryKey")

def fieldFaults (draft : ModelDraft) : List CompileError :=
  draft.fields.flatMap fun field => field.faults.map (draft.located (.field field.name))

def keyFaults (draft : ModelDraft) : KeyCheck → List CompileError
  | .eager => if draft.keyCount = 1 then [] else [.primaryKey ⟨draft.name, draft.keyCount⟩]
  | .lazy => []

def queryFaults (draft : ModelDraft) : List CompileError :=
  draft.groups.flatMap fun group =>
    group.keyFaults.map (draft.located (.queryGroup group.key)) ++
      group.entries.flatMap fun entry => entry.faults.map (draft.located (.query entry.name))

def faults (check : KeyCheck) (draft : ModelDraft) : List CompileError :=
  draft.fieldFaults ++ (draft.keyFaults check ++ draft.queryFaults)

end ModelDraft

/-- Every check that a draft fails, in the order in which they are made. -/
def DatasetDraft.faults (check : KeyCheck) (draft : DatasetDraft) : List CompileError :=
  draft.models.flatMap (ModelDraft.faults check)

/-! ### What a draft says -/

/-- The field has the name, the type and the maximal length of the draft, zero if it gives none. -/
structure FieldDraft.Mirrors (draft : FieldDraft) (field : Field) : Prop where
  name : field.name = draft.name
  type : field.type.name = draft.typeName
  maxLength : (field.maxLength : Int) = (draft.maxLength.map Int64.toInt).getD 0

/-- The query has the type of its group, the name of the draft and its text with markers, and its
parameters are the placeholders of the text, numbered from one. -/
structure QueryDraft.Mirrors (key : String) (draft : QueryDraft) (query : Query) : Prop where
  type : query.type.key = key
  name : query.name = draft.name
  text : QueryText.Marks draft.text query.text
  params : query.params.map (fun p => ((p.name, p.type.name), p.position)) =
    ((Occurrence.list draft.text).map fun o => (o.name, o.typeName)).zipIdx 1

/-- The entries of a model's query groups with the keys of their groups, in order. -/
def ModelDraft.entries (draft : ModelDraft) : List (String × QueryDraft) :=
  draft.groups.flatMap fun group => group.entries.map fun entry => (group.key, entry)

/-- The model has the names of the draft, its fields and its queries, in order. -/
structure ModelDraft.Mirrors (draft : ModelDraft) (model : Model) : Prop where
  name : model.name = draft.name
  typeOverride : model.typeOverride = draft.typeName
  tableOverride : model.tableOverride = draft.tableName
  fields : List.Forall₂ FieldDraft.Mirrors draft.fields model.fields
  queries : List.Forall₂ (fun entry query => entry.2.Mirrors entry.1 query) draft.entries
    model.queries

/-- The dataset has the name of the draft and its models, in order. -/
structure DatasetDraft.Mirrors (draft : DatasetDraft) (dataset : Dataset) : Prop where
  name : dataset.name = draft.name
  models : List.Forall₂ ModelDraft.Mirrors draft.models dataset.models

/-! ### Only one dataset mirrors a draft -/

theorem QueryType.ofKey?_eq_some_iff {key : String} {type : QueryType} :
    QueryType.ofKey? key = some type ↔ type.key = key := by
  constructor
  · intro h
    simpa using List.find?_some h
  · rintro rfl
    cases type <;> decide

theorem QueryType.ofKey?_eq_none_iff {key : String} :
    QueryType.ofKey? key = none ↔ key ∉ ["select", "find", "count", "delete", "update"] := by
  rw [QueryType.ofKey?, List.find?_eq_none]
  simp [QueryType.all, QueryType.key, eq_comm]

theorem QueryType.key_injective : Function.Injective QueryType.key :=
  Function.IsPartialInv.injective fun _ _ => QueryType.ofKey?_eq_some_iff

theorem FieldDraft.mirrors_rightUnique : Relator.RightUnique FieldDraft.Mirrors := by
  rintro draft ⟨name, type, maxLength⟩ ⟨name', type', maxLength'⟩ h h'
  have hname : name = name' := h.name.trans h'.name.symm
  have htype : type = type' := FieldType.name_injective (h.type.trans h'.type.symm)
  have hlength : maxLength = maxLength' := by
    have hint := h.maxLength.trans h'.maxLength.symm
    exact Int.ofNat.inj hint
  rw [hname, htype, hlength]

theorem QueryDraft.mirrors_rightUnique (key : String) :
    Relator.RightUnique (QueryDraft.Mirrors key) := by
  rintro draft ⟨type, name, text, params⟩ ⟨type', name', text', params'⟩ h h'
  have htype : type = type' := QueryType.key_injective (h.type.trans h'.type.symm)
  have hname : name = name' := h.name.trans h'.name.symm
  have htext : text = text' :=
    (QueryText.marks_iff.1 h.text).trans (QueryText.marks_iff.1 h'.text).symm
  have hparams : params = params' :=
    List.map_injective_iff.2 QueryParam.described_injective (h.params.trans h'.params.symm)
  rw [htype, hname, htext, hparams]

theorem ModelDraft.mirrors_rightUnique : Relator.RightUnique ModelDraft.Mirrors := by
  rintro draft ⟨name, fields, queries, typeOverride, tableOverride⟩
    ⟨name', fields', queries', typeOverride', tableOverride'⟩ h h'
  have hname : name = name' := h.name.trans h'.name.symm
  have htype : typeOverride = typeOverride' := h.typeOverride.trans h'.typeOverride.symm
  have htable : tableOverride = tableOverride' := h.tableOverride.trans h'.tableOverride.symm
  have hfields : fields = fields' :=
    List.right_unique_forall₂' FieldDraft.mirrors_rightUnique h.fields h'.fields
  have hentries : Relator.RightUnique
      fun (entry : String × QueryDraft) query => entry.2.Mirrors entry.1 query :=
    fun entry _ _ hquery hquery' => QueryDraft.mirrors_rightUnique entry.1 hquery hquery'
  have hqueries : queries = queries' :=
    List.right_unique_forall₂' hentries h.queries h'.queries
  rw [hname, hfields, hqueries, htype, htable]

theorem DatasetDraft.mirrors_rightUnique : Relator.RightUnique DatasetDraft.Mirrors := by
  rintro draft ⟨name, models⟩ ⟨name', models'⟩ h h'
  have hname : name = name' := h.name.trans h'.name.symm
  have hmodels : models = models' :=
    List.right_unique_forall₂' ModelDraft.mirrors_rightUnique h.models h'.models
  rw [hname, hmodels]

/-! ### Each level reports its faults -/

/-- Faults keep their order when the entry they are in is noted. -/
theorem Reports.onEntry {α : Type} {kinds : List DefinitionError.Kind}
    {result : Except DefinitionError α} {good : α → Prop}
    (h : Reports (kinds.map .ofKind) result good) (entry : DefinitionError.Entry) :
    Reports (kinds.map fun kind => ⟨kind, none, some entry⟩) (result.mapError (·.onEntry entry))
      good := by
  have hplaced := h.mapError (·.onEntry entry)
  rw [List.map_map] at hplaced
  exact hplaced

theorem FieldType.canHaveMaxLength_iff {type : FieldType} :
    type.canHaveMaxLength = true ↔ type = .text ∨ type = .blob := by
  cases type <;> decide

theorem FieldDraft.reports_resolve (draft : FieldDraft) :
    Reports (draft.faults.map .ofKind) draft.resolve draft.Mirrors := by
  obtain ⟨name, typeName, maxLength⟩ := draft
  cases htype : FieldType.ofName? typeName with
  | none =>
    simp only [FieldDraft.faults, FieldDraft.resolve, htype, FieldType.named_eq_error htype]
    rfl
  | some type =>
    have hname := FieldType.ofName?_eq_some_iff.1 htype
    have hnamed := FieldType.named_eq_ok_iff.2 hname
    cases maxLength with
    | none =>
      simp only [FieldDraft.faults, FieldDraft.resolve, htype, hnamed]
      exact ⟨Field.unbounded name type, rfl, rfl, hname, rfl⟩
    | some length =>
      have hresolve : FieldDraft.resolve ⟨name, typeName, some length⟩ =
          Field.bounded name type length := by
        simp only [FieldDraft.resolve, hnamed]
        rfl
      rw [hresolve, Field.bounded]
      by_cases hallowed : type = .text ∨ type = .blob
      · have hkind : ¬ (type ≠ .text ∧ type ≠ .blob) := by tauto
        simp only [FieldDraft.faults, htype, if_neg hkind,
          FieldType.canHaveMaxLength_iff.2 hallowed]
        by_cases hlength : length.toInt ≤ 0
        · simp only [hlength, if_true]
          rfl
        · simp only [hlength, if_false]
          refine ⟨_, rfl, rfl, hname, ?_⟩
          simp only [Option.map_some, Option.getD_some]
          omega
      · have hkind : type ≠ .text ∧ type ≠ .blob := by tauto
        have hprimitive : type.canHaveMaxLength = false :=
          Bool.eq_false_iff.2 (mt FieldType.canHaveMaxLength_iff.1 hallowed)
        simp only [FieldDraft.faults, htype, if_pos hkind, hprimitive]
        rfl

theorem FieldDraft.reports_compile (draft : FieldDraft) :
    Reports (draft.faults.map fun kind => ⟨kind, none, some (.field draft.name)⟩) draft.compile
      draft.Mirrors :=
  draft.reports_resolve.onEntry (.field draft.name)

theorem QueryDraft.faults_eq (draft : QueryDraft) :
    draft.faults = (QueryText.unknownTypes (QueryText.segments draft.text)).map
      .unknownFieldType := by
  rw [QueryDraft.faults, QueryText.unknownTypes, ← Occurrence.map_list, List.map_map]
  rfl

theorem QueryDraft.reports_compile (type : QueryType) (draft : QueryDraft) :
    Reports (draft.faults.map fun kind => ⟨kind, none, some (.query draft.name)⟩)
      (draft.compile type) (draft.Mirrors type.key) := by
  have h : Reports (draft.faults.map .ofKind) (Query.compile type draft.name draft.text)
      (draft.Mirrors type.key) := by
    rw [draft.faults_eq]
    cases hunknown : QueryText.unknownTypes (QueryText.segments draft.text) with
    | nil =>
      obtain ⟨params, hcompile, hparams⟩ := Query.compile_eq_ok hunknown type draft.name
      refine ⟨_, hcompile, rfl, rfl, QueryText.marks_marked draft.text, ?_⟩
      rw [Occurrence.map_list]
      exact hparams
    | cons typeName later => exact Query.compile_eq_error hunknown type draft.name
  exact h.onEntry (.query draft.name)

theorem QueryGroup.reports_type (group : QueryGroup) :
    Reports (group.keyFaults.map fun kind => ⟨kind, none, some (.queryGroup group.key)⟩) group.type
      (·.key = group.key) := by
  have h : Reports (group.keyFaults.map .ofKind) (QueryType.keyed group.key)
      (·.key = group.key) := by
    cases htype : QueryType.ofKey? group.key with
    | none =>
      simp only [QueryGroup.keyFaults, QueryType.keyed, htype, if_true]
      rfl
    | some type =>
      simp only [QueryGroup.keyFaults, QueryType.keyed, htype]
      exact ⟨type, rfl, QueryType.ofKey?_eq_some_iff.1 htype⟩
  exact h.onEntry (.queryGroup group.key)

theorem QueryGroup.reports_compile (group : QueryGroup) :
    Reports
      (group.keyFaults.map (fun kind => ⟨kind, none, some (.queryGroup group.key)⟩) ++
        group.entries.flatMap fun entry =>
          entry.faults.map fun kind => ⟨kind, none, some (.query entry.name)⟩)
      group.compile (List.Forall₂ (QueryDraft.Mirrors group.key) group.entries) := by
  apply group.reports_type.bind
  intro type htype
  rw [← htype]
  apply Reports.mapM
  intro entry _
  exact entry.reports_compile type

theorem forall₂_flatten {α β γ : Type} {good : β → γ → Prop} {part : α → List β} {items : List α}
    {results : List (List γ)}
    (h : List.Forall₂ (fun item result => List.Forall₂ good (part item) result) items results) :
    List.Forall₂ good (items.flatMap part) results.flatten := by
  induction h with
  | nil => exact .nil
  | cons hitem _ ih => exact List.rel_append hitem ih

namespace ModelDraft

theorem reports_compileFields (draft : ModelDraft) :
    Reports draft.fieldFaults (DefinitionError.placed draft.name draft.compileFields)
      (List.Forall₂ FieldDraft.Mirrors draft.fields) := by
  have hfields := Reports.mapM fun field (_ : field ∈ draft.fields) => field.reports_compile
  have hplaced := hfields.mapError fun e => CompileError.definition (e.inModel draft.name)
  rw [List.map_flatMap] at hplaced
  simp only [List.map_map] at hplaced
  exact hplaced

theorem reports_compileQueries (draft : ModelDraft) :
    Reports draft.queryFaults (DefinitionError.placed draft.name draft.compileQueries)
      (List.Forall₂ (fun entry query => entry.2.Mirrors entry.1 query) draft.entries) := by
  have hgroups := Reports.mapM fun group (_ : group ∈ draft.groups) => group.reports_compile
  have hqueries : Reports _ draft.compileQueries
      (List.Forall₂ (fun entry query => entry.2.Mirrors entry.1 query) draft.entries) :=
    hgroups.map fun results hresults => forall₂_flatten (by simpa using hresults)
  have hplaced := hqueries.mapError fun e => CompileError.definition (e.inModel draft.name)
  rw [List.map_flatMap] at hplaced
  simp only [List.map_append, List.map_flatMap, List.map_map] at hplaced
  exact hplaced

/-- The keys of a model can be counted before its types are resolved. -/
theorem countP_isPrimaryKey {drafts : List FieldDraft} {fields : List Field}
    (h : List.Forall₂ FieldDraft.Mirrors drafts fields) :
    fields.countP (·.isPrimaryKey) = drafts.countP (·.typeName = "PrimaryKey") := by
  induction h with
  | nil => rfl
  | @cons draft field drafts fields hfield _ ih =>
    have hkey : field.isPrimaryKey = decide (draft.typeName = "PrimaryKey") := by
      rw [Field.isPrimaryKey, ← hfield.type]
      cases field.type <;> decide
    rw [List.countP_cons, List.countP_cons, ih, hkey]

theorem reports_checkKey {draft : ModelDraft} {model : Model} (hname : model.name = draft.name)
    (hfields : List.Forall₂ FieldDraft.Mirrors draft.fields model.fields) (check : KeyCheck) :
    Reports (draft.keyFaults check) (model.checkKey check) fun _ => True := by
  have hcount : model.primaryKeyCount = draft.keyCount := countP_isPrimaryKey hfields
  rw [Model.checkKey, hname, hcount]
  cases check with
  | lazy => exact ⟨(), rfl, trivial⟩
  | eager =>
    by_cases hone : draft.keyCount = 1
    · simp only [keyFaults, hone, if_true]
      exact ⟨(), rfl, trivial⟩
    · simp only [keyFaults, hone, if_false]
      exact if_pos ⟨trivial, hone⟩

theorem reports_compile (check : KeyCheck) (draft : ModelDraft) :
    Reports (draft.faults check) (draft.compile check) draft.Mirrors := by
  apply draft.reports_compileFields.bind
  intro fields hfields
  apply (reports_checkKey rfl hfields check).bind
  rintro - -
  apply draft.reports_compileQueries.map
  intro queries hqueries
  exact ⟨rfl, rfl, rfl, hfields, hqueries⟩

end ModelDraft

theorem DatasetDraft.reports_compile (options : Options) (draft : DatasetDraft) :
    Reports (draft.faults options.keyCheck) (draft.compile options) draft.Mirrors := by
  have hmodels := Reports.mapM fun model (_ : model ∈ draft.models) =>
    model.reports_compile options.keyCheck
  exact hmodels.map fun models hmodels => ⟨rfl, hmodels⟩

/-! ### The outcome of compiling -/

theorem ModelDraft.compile_eq_error_iff {check : KeyCheck} {draft : ModelDraft}
    {e : CompileError} :
    draft.compile check = .error e ↔ (draft.faults check).head? = some e :=
  (draft.reports_compile check).error_iff

theorem ModelDraft.compile_eq_ok_iff {check : KeyCheck} {draft : ModelDraft} {model : Model} :
    draft.compile check = .ok model ↔ draft.faults check = [] ∧ draft.Mirrors model :=
  (draft.reports_compile check).ok_iff fun _ _ h h' => ModelDraft.mirrors_rightUnique h h'

theorem DatasetDraft.compile_eq_error_iff {options : Options} {draft : DatasetDraft}
    {e : CompileError} :
    draft.compile options = .error e ↔ (draft.faults options.keyCheck).head? = some e :=
  (draft.reports_compile options).error_iff

theorem DatasetDraft.compile_eq_ok_iff {options : Options} {draft : DatasetDraft}
    {dataset : Dataset} :
    draft.compile options = .ok dataset ↔
      draft.faults options.keyCheck = [] ∧ draft.Mirrors dataset :=
  (draft.reports_compile options).ok_iff fun _ _ h h' => DatasetDraft.mirrors_rightUnique h h'

theorem ModelDraft.mem_map_located {draft : ModelDraft} {entry : DefinitionError.Entry}
    {kinds : List DefinitionError.Kind} {e : DefinitionError}
    (h : .definition e ∈ kinds.map (draft.located entry)) :
    e.model = some draft.name ∧ e.entry = some entry ∧ e.kind ∈ kinds := by
  obtain ⟨kind, hkind, heq⟩ := List.mem_map.1 h
  obtain rfl := CompileError.definition.inj heq
  exact ⟨rfl, rfl, hkind⟩

theorem ModelDraft.mem_faults {check : KeyCheck} {draft : ModelDraft} {e : DefinitionError}
    (h : .definition e ∈ draft.faults check) :
    e.model = some draft.name ∧
      ((∃ field ∈ draft.fields,
          e.entry = some (.field field.name) ∧ e.kind ∈ field.faults) ∨
        (∃ group ∈ draft.groups,
          e.entry = some (.queryGroup group.key) ∧ e.kind ∈ group.keyFaults) ∨
        ∃ group ∈ draft.groups, ∃ entry ∈ group.entries,
          e.entry = some (.query entry.name) ∧ e.kind ∈ entry.faults) := by
  rw [ModelDraft.faults, List.mem_append, List.mem_append] at h
  rcases h with hfields | hkey | hquery
  · obtain ⟨field, hfield, hmem⟩ := List.mem_flatMap.1 hfields
    obtain ⟨hmodel, hentry, hkind⟩ := mem_map_located hmem
    exact ⟨hmodel, Or.inl ⟨field, hfield, hentry, hkind⟩⟩
  · cases check with
    | lazy => simp [ModelDraft.keyFaults] at hkey
    | eager =>
      simp only [ModelDraft.keyFaults] at hkey
      split at hkey <;> simp at hkey
  · obtain ⟨group, hgroup, hmem⟩ := List.mem_flatMap.1 hquery
    rcases List.mem_append.1 hmem with hmem | hmem
    · obtain ⟨hmodel, hentry, hkind⟩ := mem_map_located hmem
      exact ⟨hmodel, Or.inr (Or.inl ⟨group, hgroup, hentry, hkind⟩)⟩
    · obtain ⟨entry, hmember, hmem⟩ := List.mem_flatMap.1 hmem
      obtain ⟨hmodel, hentry, hkind⟩ := mem_map_located hmem
      exact ⟨hmodel, Or.inr (Or.inr ⟨group, hgroup, entry, hmember, hentry, hkind⟩)⟩

/-- Compiling fails with the first fault of the draft, and succeeds with the dataset that mirrors
the draft exactly if there is none.  A fault that is not about keys names the model and the entry
it is in.  There are six names of types and five keys of query groups, and all others are
unknown. -/
theorem DatasetDraft.compile_first_fault (options : Options) (draft : DatasetDraft) :
    ((∀ typeName, FieldType.ofName? typeName = none ↔
        typeName ∉ ["PrimaryKey", "ForeignKey", "Integer", "Real", "Text", "Blob"]) ∧
      ∀ key, QueryType.ofKey? key = none ↔
        key ∉ ["select", "find", "count", "delete", "update"]) ∧
    (∀ e, draft.compile options = .error e ↔
      (draft.faults options.keyCheck).head? = some e) ∧
    (∀ dataset, draft.compile options = .ok dataset ↔
      draft.faults options.keyCheck = [] ∧ draft.Mirrors dataset) ∧
    ∀ e, draft.compile options = .error (.definition e) →
      ∃ model ∈ draft.models, e.model = some model.name ∧
        ((∃ field ∈ model.fields,
            e.entry = some (.field field.name) ∧ e.kind ∈ field.faults) ∨
          (∃ group ∈ model.groups,
            e.entry = some (.queryGroup group.key) ∧ e.kind ∈ group.keyFaults) ∨
          ∃ group ∈ model.groups, ∃ entry ∈ group.entries,
            e.entry = some (.query entry.name) ∧ e.kind ∈ entry.faults) := by
  refine ⟨⟨fun typeName => FieldType.ofName?_eq_none_iff, fun key => QueryType.ofKey?_eq_none_iff⟩,
    fun e => compile_eq_error_iff, fun dataset => compile_eq_ok_iff, ?_⟩
  intro e he
  have hmem := List.mem_of_mem_head? (compile_eq_error_iff.1 he)
  obtain ⟨model, hmodel, hfault⟩ := List.mem_flatMap.1 hmem
  exact ⟨model, hmodel, ModelDraft.mem_faults hfault⟩

/-- A model without a key and with an unknown query group: the eager check comes first.  A field of
an unknown type comes before both, and before a field with a length that its type does not allow.  A
model that is right gives what it says. -/
theorem DatasetDraft.compile_first_fault_competing :
    let keyless : DatasetDraft := ⟨"app", [⟨"Tag", none, none, [], [⟨"upsert", []⟩]⟩]⟩
    let mistyped : DatasetDraft := ⟨"app", [⟨"Tag", none, none,
      [⟨"label", "Txt", none⟩, ⟨"size", "Real", some 3⟩], [⟨"upsert", []⟩]⟩]⟩
    let sound : DatasetDraft := ⟨"app", [⟨"Tag", none, some "tags",
      [⟨"id", "PrimaryKey", none⟩, ⟨"label", "Text", some 20⟩],
      [⟨"find", [⟨"labelled", "WHERE label = \x7bl:Text\x7d"⟩]⟩]⟩]⟩
    let dataset : Dataset := ⟨"app", [⟨"Tag", [⟨"id", .primaryKey, 0⟩, ⟨"label", .text, 20⟩],
      [⟨.find, "labelled", "WHERE label = ?", [⟨1, "l", .text⟩]⟩], none, some "tags"⟩]⟩
    keyless.compile ⟨.eager, []⟩ = .error (.primaryKey ⟨"Tag", 0⟩) ∧
    keyless.compile ⟨.lazy, []⟩ =
      .error (.definition ⟨.unknownQueryType "upsert", some "Tag", some (.queryGroup "upsert")⟩) ∧
    mistyped.compile ⟨.eager, []⟩ =
      .error (.definition ⟨.unknownFieldType "Txt", some "Tag", some (.field "label")⟩) ∧
    (∃ model ∈ mistyped.models, some "Tag" = some model.name) ∧
    sound.compile ⟨.eager, []⟩ = .ok dataset ∧ sound.Mirrors dataset := by
  intro keyless mistyped sound dataset
  obtain ⟨-, hfield, -, hplace⟩ := DatasetDraft.compile_first_fault ⟨.eager, []⟩ mistyped
  obtain ⟨-, -, hsound, -⟩ := DatasetDraft.compile_first_fault ⟨.eager, []⟩ sound
  have herror := (hfield (.definition
    ⟨.unknownFieldType "Txt", some "Tag", some (.field "label")⟩)).2 (by decide)
  obtain ⟨model, hmodel, hname, -⟩ := hplace _ herror
  have hok : sound.compile ⟨.eager, []⟩ = .ok dataset := by decide +kernel
  refine ⟨?_, ?_, herror, ⟨model, hmodel, hname⟩, hok, ((hsound dataset).1 hok).2⟩
  · exact ((DatasetDraft.compile_first_fault ⟨.eager, []⟩ keyless).2.1 _).2 (by decide)
  · exact ((DatasetDraft.compile_first_fault ⟨.lazy, []⟩ keyless).2.1 _).2 (by decide)

end DatasetCompiler
