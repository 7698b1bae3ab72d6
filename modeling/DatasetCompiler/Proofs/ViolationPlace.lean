import DatasetCompiler.Proofs.Violation

/-!
# The place that a report names

A path is written without any escapes, so its text says which place is meant only if the keys on it
cannot be mistaken for more than one step.  A key can, if it has a dot or an opening bracket.  Paths
whose keys have neither are determined by their text (`render_injective`).

The places at which a document can be faulty are listed by `Place`: each is the place of some
violation, and every violation is at one of them.  Their keys are fixed, but for the keys of query
groups, so only the places in a query group can share their text with another place.

Main statement: `violation_place_written`, about the paths that the reports of documents have.
-/

namespace DatasetCompiler

namespace Json.Path

/-! ### Texts of paths -/

/-- The key holds no character that begins a step. -/
def IsPlainKey (name : String) : Prop := '.' ∉ name.toList ∧ '[' ∉ name.toList

instance (name : String) : Decidable (IsPlainKey name) :=
  inferInstanceAs (Decidable (_ ∧ _))

/-- Two texts that agree, cut where a run of characters of a class ends, agree in both parts. -/
theorem eq_and_eq_of_append_eq {class? : Char → Bool} {run run' rest rest' : List Char}
    (hrun : ∀ c ∈ run, class? c = true) (hrun' : ∀ c ∈ run', class? c = true)
    (hrest : ∀ c ∈ rest.head?, class? c = false) (hrest' : ∀ c ∈ rest'.head?, class? c = false)
    (h : run ++ rest = run' ++ rest') : run = run' ∧ rest = rest' := by
  have htake : ∀ {run rest : List Char}, (∀ c ∈ run, class? c = true) →
      (∀ c ∈ rest.head?, class? c = false) → (run ++ rest).takeWhile class? = run := by
    intro run rest hrun hrest
    rw [List.takeWhile_append_of_pos hrun]
    cases rest with
    | nil => simp
    | cons c rest => simp [hrest c rfl]
  have heq : run = run' := by rw [← htake hrun hrest, h, htake hrun' hrest']
  subst heq
  exact ⟨rfl, List.append_cancel_left h⟩

/-- Whether a character begins a step. -/
def beginsStep (c : Char) : Bool := c == '.' || c == '['

theorem IsPlainKey.beginsStep {name : String} (h : IsPlainKey name) :
    ∀ c ∈ name.toList, (!beginsStep c) = true := by
  intro c hc
  have hdot : c ≠ '.' := fun heq => h.1 (heq ▸ hc)
  have hbracket : c ≠ '[' := fun heq => h.2 (heq ▸ hc)
  simp [Path.beginsStep, hdot, hbracket]

theorem toList_renderSteps_key (name : String) (rest : Path) :
    (renderSteps (.key name :: rest)).toList =
      '.' :: (name.toList ++ (renderSteps rest).toList) := by
  simp [renderSteps]

theorem toList_renderSteps_index (i : Nat) (rest : Path) :
    (renderSteps (.index i :: rest)).toList =
      '[' :: (Nat.toDigits 10 i ++ ']' :: (renderSteps rest).toList) := by
  simp [renderSteps, Nat.toString_eq_repr, Nat.toList_repr]

theorem head?_renderSteps (path : Path) :
    ∀ c ∈ (renderSteps path).toList.head?, (!beginsStep c) = false := by
  intro c hc
  cases path with
  | nil => cases hc
  | cons step rest =>
    cases step with
    | key name =>
      rw [toList_renderSteps_key] at hc
      obtain rfl : '.' = c := Option.some.inj hc
      rfl
    | index i =>
      rw [toList_renderSteps_index] at hc
      obtain rfl : '[' = c := Option.some.inj hc
      rfl

/-- A plain key ends where the next step begins. -/
theorem eq_and_eq_of_key_append_eq {name name' : String} {rest rest' : Path}
    (hname : IsPlainKey name) (hname' : IsPlainKey name')
    (h : name.toList ++ (renderSteps rest).toList = name'.toList ++ (renderSteps rest').toList) :
    name = name' ∧ renderSteps rest = renderSteps rest' := by
  obtain ⟨hkey, hsteps⟩ := eq_and_eq_of_append_eq hname.beginsStep hname'.beginsStep
    (head?_renderSteps rest) (head?_renderSteps rest') h
  exact ⟨String.toList_inj.1 hkey, String.toList_inj.1 hsteps⟩

/-- An index ends at its closing bracket. -/
theorem eq_and_eq_of_index_append_eq {i j : Nat} {rest rest' : List Char}
    (h : Nat.toDigits 10 i ++ ']' :: rest = Nat.toDigits 10 j ++ ']' :: rest') :
    i = j ∧ rest = rest' := by
  have hdigits : ∀ n : Nat, ∀ c ∈ Nat.toDigits 10 n, c.isDigit = true := fun n c hc =>
    Nat.isDigit_of_mem_toDigits (by decide) (by decide) hc
  have hclose : ∀ rest : List Char, ∀ c ∈ (']' :: rest).head?, c.isDigit = false := by
    intro rest c hc
    cases hc
    rfl
  obtain ⟨hnumber, hrest⟩ :=
    eq_and_eq_of_append_eq (hdigits i) (hdigits j) (hclose rest) (hclose rest') h
  refine ⟨?_, (List.cons.inj hrest).2⟩
  calc i = Nat.ofDigitChars 10 (Nat.toDigits 10 i) 0 := Nat.ofDigitChars_ten_toDigits.symm
    _ = Nat.ofDigitChars 10 (Nat.toDigits 10 j) 0 := by rw [hnumber]
    _ = j := Nat.ofDigitChars_ten_toDigits

/-- Every key on the path is plain. -/
def Plain (path : Path) : Prop := ∀ name, PathStep.key name ∈ path → IsPlainKey name

theorem plain_nil : Plain [] := nofun

theorem plain_key_cons {name : String} {path : Path} (hname : IsPlainKey name) (h : path.Plain) :
    Plain (.key name :: path) := by
  intro other hother
  rcases List.mem_cons.1 hother with heq | hmem
  · cases heq
    exact hname
  · exact h other hmem

theorem plain_index_cons (i : Nat) {path : Path} (h : path.Plain) : Plain (.index i :: path) := by
  intro other hother
  rcases List.mem_cons.1 hother with heq | hmem
  · cases heq
  · exact h other hmem

theorem Plain.tail {step : PathStep} {path : Path} (h : Plain (step :: path)) : path.Plain :=
  fun name hname => h name (List.mem_cons_of_mem step hname)

theorem renderSteps_injective {path path' : Path} (h : path.Plain) (h' : path'.Plain)
    (htext : renderSteps path = renderSteps path') : path = path' := by
  have hlists := congrArg String.toList htext
  -- both texts show by their first character what the first step is
  induction path generalizing path' with
  | nil =>
    cases path' with
    | nil => rfl
    | cons step' rest' => cases step' <;> simp [renderSteps] at hlists
  | cons step rest ih =>
    cases path' with
    | nil => cases step <;> simp [renderSteps] at hlists
    | cons step' rest' =>
      cases step with
      | key name =>
        rw [toList_renderSteps_key] at hlists
        cases step' with
        | key name' =>
          rw [toList_renderSteps_key] at hlists
          obtain ⟨rfl, hrest⟩ := eq_and_eq_of_key_append_eq (h name List.mem_cons_self)
            (h' name' List.mem_cons_self) (List.cons.inj hlists).2
          rw [ih h.tail h'.tail hrest (congrArg String.toList hrest)]
        | index j => simp [toList_renderSteps_index] at hlists
      | index i =>
        rw [toList_renderSteps_index] at hlists
        cases step' with
        | key name' => simp [toList_renderSteps_key] at hlists
        | index j =>
          rw [toList_renderSteps_index] at hlists
          obtain ⟨rfl, hrest⟩ := eq_and_eq_of_index_append_eq (List.cons.inj hlists).2
          rw [ih h.tail h'.tail (String.toList_inj.1 hrest) hrest]

/-- The path is the root, or begins with a key that is not written like the root. -/
inductive Anchored : Path → Prop where
  | root : Anchored root
  | key {name : String} (hname : name ≠ "$") (rest : Path) : Anchored (.key name :: rest)

theorem render_cons_injective {name name' : String} {rest rest' : Path}
    (h : Plain (.key name :: rest)) (h' : Plain (.key name' :: rest'))
    (htext : render (.key name :: rest) = render (.key name' :: rest')) :
    name = name' ∧ rest = rest' := by
  have hlists : name.toList ++ (renderSteps rest).toList =
      name'.toList ++ (renderSteps rest').toList := by
    rw [← String.toList_append, ← String.toList_append]
    exact congrArg String.toList htext
  obtain ⟨hname, hrest⟩ := eq_and_eq_of_key_append_eq (h name List.mem_cons_self)
    (h' name' List.mem_cons_self) hlists
  exact ⟨hname, renderSteps_injective h.tail h'.tail hrest⟩

/-- No other anchored path is written like the root. -/
theorem render_cons_ne_root {name : String} {rest : Path} (hname : name ≠ "$")
    (h : Plain (.key name :: rest)) : render (.key name :: rest) ≠ render root := by
  have hroot : Plain [.key "$"] := by
    intro name hmem
    cases List.mem_singleton.1 hmem
    decide
  intro htext
  exact hname (render_cons_injective h hroot htext).1

/-- The text of an anchored path with plain keys determines the path. -/
theorem render_injective {path path' : Path} (h : path.Plain) (h' : path'.Plain)
    (ha : path.Anchored) (ha' : path'.Anchored) (htext : path.render = path'.render) :
    path = path' := by
  cases ha with
  | root =>
    cases ha' with
    | root => rfl
    | key hname' rest' => exact absurd htext.symm (render_cons_ne_root hname' h')
  | key hname rest =>
    cases ha' with
    | root => exact absurd htext (render_cons_ne_root hname h)
    | key hname' rest' =>
      obtain ⟨rfl, rfl⟩ := render_cons_injective h h' htext
      rfl

end Json.Path

open Json (Path)

namespace Schema

/-! ### Places -/

/-- The keys of a model. -/
inductive ModelKey where
  | name
  | typeName
  | tableName
  | fields
  | queries
deriving DecidableEq, Repr

def ModelKey.text : ModelKey → String
  | .name => "name"
  | .typeName => "typeName"
  | .tableName => "tableName"
  | .fields => "fields"
  | .queries => "queries"

/-- The keys of a field. -/
inductive FieldKey where
  | name
  | type
  | maxLength
deriving DecidableEq, Repr

def FieldKey.text : FieldKey → String
  | .name => "name"
  | .type => "type"
  | .maxLength => "maxLength"

/-- The keys of a query. -/
inductive QueryKey where
  | name
  | query
deriving DecidableEq, Repr

def QueryKey.text : QueryKey → String
  | .name => "name"
  | .query => "query"

/-- The places at which a document can be faulty. -/
inductive Place where
  | root
  | datasetName
  | models
  | model (i : Nat)
  | ofModel (i : Nat) (key : ModelKey)
  | field (i j : Nat)
  | ofField (i j : Nat) (key : FieldKey)
  | group (i : Nat) (name : String)
  | query (i : Nat) (group : String) (j : Nat)
  | ofQuery (i : Nat) (group : String) (j : Nat) (key : QueryKey)
deriving Repr

namespace Place

/-- How a place is reached from the root. -/
def path : Place → Path
  | .root => Path.root
  | .datasetName => [.key "datasetName"]
  | .models => [.key "models"]
  | .model i => [.key "models", .index i]
  | .ofModel i key => [.key "models", .index i, .key key.text]
  | .field i j => [.key "models", .index i, .key "fields", .index j]
  | .ofField i j key => [.key "models", .index i, .key "fields", .index j, .key key.text]
  | .group i name => [.key "models", .index i, .key "queries", .key name]
  | .query i name j => [.key "models", .index i, .key "queries", .key name, .index j]
  | .ofQuery i name j key =>
    [.key "models", .index i, .key "queries", .key name, .index j, .key key.text]

/-- The place at the end of a path. -/
def ofPath? : Path → Option Place
  | [] => some .root
  | [.key "datasetName"] => some .datasetName
  | [.key "models"] => some .models
  | [.key "models", .index i] => some (.model i)
  | [.key "models", .index i, .key "name"] => some (.ofModel i .name)
  | [.key "models", .index i, .key "typeName"] => some (.ofModel i .typeName)
  | [.key "models", .index i, .key "tableName"] => some (.ofModel i .tableName)
  | [.key "models", .index i, .key "fields"] => some (.ofModel i .fields)
  | [.key "models", .index i, .key "queries"] => some (.ofModel i .queries)
  | [.key "models", .index i, .key "fields", .index j] => some (.field i j)
  | [.key "models", .index i, .key "fields", .index j, .key "name"] => some (.ofField i j .name)
  | [.key "models", .index i, .key "fields", .index j, .key "type"] => some (.ofField i j .type)
  | [.key "models", .index i, .key "fields", .index j, .key "maxLength"] =>
    some (.ofField i j .maxLength)
  | [.key "models", .index i, .key "queries", .key name] => some (.group i name)
  | [.key "models", .index i, .key "queries", .key name, .index j] => some (.query i name j)
  | [.key "models", .index i, .key "queries", .key name, .index j, .key "name"] =>
    some (.ofQuery i name j .name)
  | [.key "models", .index i, .key "queries", .key name, .index j, .key "query"] =>
    some (.ofQuery i name j .query)
  | _ => none

theorem ofPath?_path (place : Place) : ofPath? place.path = some place := by
  cases place with
  | ofModel i key => cases key <;> rfl
  | ofField i j key => cases key <;> rfl
  | ofQuery i name j key => cases key <;> rfl
  | _ => rfl

theorem path_injective : Function.Injective path := by
  intro place other h
  have hsame := other.ofPath?_path
  rw [← h, place.ofPath?_path] at hsame
  exact Option.some.inj hsame

/-- The key of the query group that a place is or lies in. -/
def group? : Place → Option String
  | .group _ name => some name
  | .query _ name _ => some name
  | .ofQuery _ name _ _ => some name
  | _ => none

/-- The place is a query group, or lies in one, whose key has a dot or an opening bracket. -/
def Misleading (place : Place) : Prop :=
  ∃ name, place.group? = some name ∧ ('.' ∈ name.toList ∨ '[' ∈ name.toList)

theorem anchored_path (place : Place) : place.path.Anchored := by
  have hname : "datasetName" ≠ "$" := by decide
  have hmodels : "models" ≠ "$" := by decide
  cases place with
  | root => exact .root
  | datasetName => exact .key hname []
  | _ => exact .key hmodels _

theorem plain_path {place : Place} (h : ¬place.Misleading) : place.path.Plain := by
  have hgroup : ∀ name, place.group? = some name → Path.IsPlainKey name := by
    intro name hname
    constructor
    · exact fun hdot => h ⟨name, hname, Or.inl hdot⟩
    · exact fun hbracket => h ⟨name, hname, Or.inr hbracket⟩
  have hmodel : ∀ (i : Nat) {rest : Path},
      rest.Plain → Path.Plain (.key "models" :: .index i :: rest) :=
    fun i _ hrest => Path.plain_key_cons (by decide) (Path.plain_index_cons i hrest)
  have hfields : ∀ (j : Nat) {rest : Path},
      rest.Plain → Path.Plain (.key "fields" :: .index j :: rest) :=
    fun j _ hrest => Path.plain_key_cons (by decide) (Path.plain_index_cons j hrest)
  have hqueries : ∀ {name : String} {rest : Path}, place.group? = some name → rest.Plain →
      Path.Plain (.key "queries" :: .key name :: rest) := fun hname hrest =>
    Path.plain_key_cons (by decide) (Path.plain_key_cons (hgroup _ hname) hrest)
  cases place with
  | root => exact Path.plain_nil
  | datasetName => exact Path.plain_key_cons (by decide) Path.plain_nil
  | models => exact Path.plain_key_cons (by decide) Path.plain_nil
  | model i => exact hmodel i Path.plain_nil
  | ofModel i key => exact hmodel i (Path.plain_key_cons (by cases key <;> decide) Path.plain_nil)
  | field i j => exact hmodel i (hfields j Path.plain_nil)
  | ofField i j key =>
    exact hmodel i (hfields j (Path.plain_key_cons (by cases key <;> decide) Path.plain_nil))
  | group i name => exact hmodel i (hqueries rfl Path.plain_nil)
  | query i name j => exact hmodel i (hqueries rfl (Path.plain_index_cons j Path.plain_nil))
  | ofQuery i name j key =>
    exact hmodel i (hqueries rfl (Path.plain_index_cons j
      (Path.plain_key_cons (by cases key <;> decide) Path.plain_nil)))

end Place

/-! ### Violations are at places -/

/-- The place that a requirement is about. -/
def Requirement.path : Requirement → Path
  | .kind path _ => path
  | .key path _ => path
  | .identifier path => path

theorem Requirement.path_of_violation? {doc : Json} {requirement : Requirement}
    {violation : Violation} (h : requirement.violation? doc = some violation) :
    violation.path = requirement.path := by
  cases requirement with
  | kind path expected => grind [Requirement.violation?, Requirement.path]
  | key path name => grind [Requirement.violation?, Requirement.path]
  | identifier path => grind [Requirement.violation?, Requirement.path]

theorem exists_index_of_mem_itemPlaces {doc : Json} {path place : Path}
    (h : place ∈ itemPlaces doc path) : ∃ i, place = path.index i := by
  unfold itemPlaces at h
  split at h
  · obtain ⟨i, -, rfl⟩ := List.mem_map.1 h
    exact ⟨i, rfl⟩
  · cases h

theorem exists_key_of_mem_memberPlaces {doc : Json} {path place : Path}
    (h : place ∈ memberPlaces doc path) : ∃ name, place = path.key name := by
  unfold memberPlaces at h
  split at h
  · obtain ⟨member, -, rfl⟩ := List.mem_map.1 h
    exact ⟨member.1, rfl⟩
  · cases h

/-- The requirements are all about places. -/
def AboutPlaces (requirements : List Requirement) : Prop :=
  ∀ requirement ∈ requirements, ∃ place : Place, place.path = requirement.path

theorem aboutPlaces_field (i j : Nat) :
    AboutPlaces (fieldRequirements (Place.field i j).path) := by
  simp only [AboutPlaces, fieldRequirements, List.forall_mem_cons]
  exact ⟨⟨.field i j, rfl⟩, ⟨.field i j, rfl⟩, ⟨.ofField i j .name, rfl⟩, ⟨.field i j, rfl⟩,
    ⟨.ofField i j .type, rfl⟩, ⟨.ofField i j .maxLength, rfl⟩, List.forall_mem_nil _⟩

theorem aboutPlaces_query (i : Nat) (name : String) (j : Nat) :
    AboutPlaces (queryRequirements (Place.query i name j).path) := by
  simp only [AboutPlaces, queryRequirements, List.forall_mem_cons]
  exact ⟨⟨.query i name j, rfl⟩, ⟨.query i name j, rfl⟩, ⟨.ofQuery i name j .name, rfl⟩,
    ⟨.query i name j, rfl⟩, ⟨.ofQuery i name j .query, rfl⟩, List.forall_mem_nil _⟩

theorem aboutPlaces_group (doc : Json) (i : Nat) (name : String) :
    AboutPlaces (groupRequirements doc (Place.group i name).path) := by
  rw [AboutPlaces, groupRequirements, List.forall_mem_cons]
  refine ⟨⟨.group i name, rfl⟩, ?_⟩
  intro requirement hmem
  obtain ⟨path, hpath, hrequirement⟩ := List.mem_flatMap.1 hmem
  obtain ⟨j, rfl⟩ := exists_index_of_mem_itemPlaces hpath
  exact aboutPlaces_query i name j requirement hrequirement

theorem aboutPlaces_model (doc : Json) (i : Nat) :
    AboutPlaces (modelRequirements doc (Place.model i).path) := by
  simp only [AboutPlaces, modelRequirements, List.forall_mem_cons, List.forall_mem_append]
  refine ⟨⟨.model i, rfl⟩, ⟨.model i, rfl⟩, ⟨.ofModel i .name, rfl⟩, ⟨.ofModel i .typeName, rfl⟩,
    ⟨.ofModel i .tableName, rfl⟩, ⟨.model i, rfl⟩, ⟨.ofModel i .fields, rfl⟩, ?_,
    ⟨.ofModel i .queries, rfl⟩, ?_⟩
  · intro requirement hmem
    obtain ⟨path, hpath, hrequirement⟩ := List.mem_flatMap.1 hmem
    obtain ⟨j, rfl⟩ := exists_index_of_mem_itemPlaces hpath
    exact aboutPlaces_field i j requirement hrequirement
  · intro requirement hmem
    obtain ⟨path, hpath, hrequirement⟩ := List.mem_flatMap.1 hmem
    obtain ⟨name, rfl⟩ := exists_key_of_mem_memberPlaces hpath
    exact aboutPlaces_group doc i name requirement hrequirement

theorem aboutPlaces_requirements (doc : Json) : AboutPlaces (requirements doc) := by
  simp only [AboutPlaces, requirements, List.forall_mem_cons]
  refine ⟨⟨.root, rfl⟩, ⟨.root, rfl⟩, ⟨.datasetName, rfl⟩, ⟨.datasetName, rfl⟩, ⟨.root, rfl⟩,
    ⟨.models, rfl⟩, ?_⟩
  intro requirement hmem
  obtain ⟨path, hpath, hrequirement⟩ := List.mem_flatMap.1 hmem
  obtain ⟨i, rfl⟩ := exists_index_of_mem_itemPlaces hpath
  exact aboutPlaces_model doc i requirement hrequirement

theorem exists_place_of_read {doc : Json} (hdoc : doc.UniqueKeys) {violation : Violation}
    (h : read doc = .error violation) : ∃ place : Place, place.path = violation.path := by
  obtain ⟨before, requirement, after, hlist, hviolation, -⟩ :=
    (read_eq_error_iff_first hdoc violation).1 h
  have hmem : requirement ∈ requirements doc := by simp [hlist]
  obtain ⟨place, hplace⟩ := aboutPlaces_requirements doc requirement hmem
  exact ⟨place, hplace.trans (requirement.path_of_violation? hviolation).symm⟩

/-! ### Places of violations -/

def soundModel : Json := .object [("name", .string "Item"), ("fields", .array [])]

def soundField : Json := .object [("name", .string "id"), ("type", .string "Text")]

def soundQuery : Json := .object [("name", .string "all"), ("query", .string "")]

/-- A document with a model behind some models that are right. -/
def documentWith (i : Nat) (model : Json) : Json :=
  .object [("datasetName", .string "shop"),
    ("models", .array (List.replicate i soundModel ++ [model]))]

/-- A model with a field behind some fields that are right. -/
def modelWithField (j : Nat) (field : Json) : Json :=
  .object [("name", .string "Item"), ("fields", .array (List.replicate j soundField ++ [field]))]

/-- A model with one query group. -/
def modelWithGroup (name : String) (group : Json) : Json :=
  .object [("name", .string "Item"), ("fields", .array []), ("queries", .object [(name, group)])]

/-- A query group with a query behind some queries that are right. -/
def groupWithQuery (j : Nat) (query : Json) : Json :=
  .array (List.replicate j soundQuery ++ [query])

/-- A document that has `null` at a place and is right up to there. -/
def Place.spoiled : Place → Json
  | .root => .null
  | .datasetName => .object [("datasetName", .null)]
  | .models => .object [("datasetName", .string "shop"), ("models", .null)]
  | .model i => documentWith i .null
  | .ofModel i .name => documentWith i (.object [("name", .null)])
  | .ofModel i .typeName =>
    documentWith i (.object [("name", .string "Item"), ("typeName", .null)])
  | .ofModel i .tableName =>
    documentWith i (.object [("name", .string "Item"), ("tableName", .null)])
  | .ofModel i .fields => documentWith i (.object [("name", .string "Item"), ("fields", .null)])
  | .ofModel i .queries =>
    documentWith i (.object [("name", .string "Item"), ("fields", .array []), ("queries", .null)])
  | .field i j => documentWith i (modelWithField j .null)
  | .ofField i j .name => documentWith i (modelWithField j (.object [("name", .null)]))
  | .ofField i j .type =>
    documentWith i (modelWithField j (.object [("name", .string "id"), ("type", .null)]))
  | .ofField i j .maxLength =>
    documentWith i (modelWithField j
      (.object [("name", .string "id"), ("type", .string "Text"), ("maxLength", .null)]))
  | .group i name => documentWith i (modelWithGroup name .null)
  | .query i name j => documentWith i (modelWithGroup name (groupWithQuery j .null))
  | .ofQuery i name j .name =>
    documentWith i (modelWithGroup name (groupWithQuery j (.object [("name", .null)])))
  | .ofQuery i name j .query =>
    documentWith i (modelWithGroup name
      (groupWithQuery j (.object [("name", .string "all"), ("query", .null)])))

theorem itemsFrom_replicate_append {check : Path → Json → Check Unit} {path : Path}
    {good bad : Json} {violation : Violation} (hgood : ∀ place, check place good = .ok ())
    {n i : Nat} (hbad : check (path.index (i + n)) bad = .error violation) :
    itemsFrom check path i (List.replicate n good ++ [bad]) = .error violation := by
  induction n generalizing i with
  | zero =>
    rw [List.replicate_zero, List.nil_append, itemsFrom]
    rw [Nat.add_zero] at hbad
    rw [hbad]
    rfl
  | succ n ih =>
    rw [List.replicate_succ, List.cons_append, itemsFrom, hgood]
    exact ih (by rwa [Nat.add_right_comm])

/-- Items that are right do not hide what is wrong with the item behind them. -/
theorem arrayOf_replicate_append {check : Path → Json → Check Unit} {path : Path}
    {good bad : Json} {violation : Violation} (hgood : ∀ place, check place good = .ok ())
    {n : Nat} (hbad : check (path.index n) bad = .error violation) :
    arrayOf check path (.array (List.replicate n good ++ [bad])) = .error violation :=
  itemsFrom_replicate_append hgood (by rwa [Nat.zero_add])

theorem check_documentWith {i : Nat} {model : Json} {violation : Violation}
    (h : checkModel (Place.model i).path model = .error violation) :
    check (documentWith i model) = .error violation := by
  change arrayOf checkModel Place.models.path (.array (List.replicate i soundModel ++ [model])) = _
  exact arrayOf_replicate_append (fun _ => rfl) h

theorem checkModel_modelWithField {path : Path} {j : Nat} {field : Json} {violation : Violation}
    (h : checkField ((path.key "fields").index j) field = .error violation) :
    checkModel path (modelWithField j field) = .error violation := by
  have hfields : arrayOf checkField (path.key "fields")
      (.array (List.replicate j soundField ++ [field])) = .error violation :=
    arrayOf_replicate_append (fun _ => rfl) h
  change (arrayOf checkField (path.key "fields")
    (.array (List.replicate j soundField ++ [field])) >>= fun _ => .ok ()) = _
  rw [hfields]
  rfl

theorem checkModel_modelWithGroup {path : Path} {name : String} {group : Json}
    {violation : Violation}
    (h : arrayOf checkQuery ((path.key "queries").key name) group = .error violation) :
    checkModel path (modelWithGroup name group) = .error violation := by
  have hgroups : checkQueries (path.key "queries") (.object [(name, group)]) =
      .error violation := by
    change (arrayOf checkQuery ((path.key "queries").key name) group >>= fun _ => .ok ()) = _
    rw [h]
    rfl
  change (checkQueries (path.key "queries") (.object [(name, group)]) >>= fun _ => .ok ()) = _
  rw [hgroups]
  rfl

/-- What a place must hold. -/
def Place.expected : Place → Expected
  | .models | .ofModel _ .fields | .group _ _ => .array
  | .root | .model _ | .ofModel _ .queries | .field _ _ | .query _ _ _ => .object
  | .ofField _ _ .maxLength => .integer
  | _ => .string

theorem read_spoiled (place : Place) :
    read place.spoiled = .error ⟨place.path, .mismatch place.expected .null⟩ := by
  rw [read_eq_error_iff]
  cases place with
  | root => rfl
  | datasetName => rfl
  | models => rfl
  | model i => exact check_documentWith rfl
  | ofModel i key => cases key <;> exact check_documentWith rfl
  | field i j => exact check_documentWith (checkModel_modelWithField rfl)
  | ofField i j key => cases key <;> exact check_documentWith (checkModel_modelWithField rfl)
  | group i name => exact check_documentWith (checkModel_modelWithGroup rfl)
  | query i name j =>
    refine check_documentWith (checkModel_modelWithGroup ?_)
    exact arrayOf_replicate_append (fun _ => rfl) rfl
  | ofQuery i name j key =>
    cases key <;> refine check_documentWith (checkModel_modelWithGroup ?_)
    · exact arrayOf_replicate_append (fun _ => rfl) rfl
    · exact arrayOf_replicate_append (fun _ => rfl) rfl

theorem uniqueKeys_of_merged {value : Json} (h : value.merged = value) : value.UniqueKeys :=
  h ▸ Json.uniqueKeys_merged value

theorem uniqueKeys_replicate_append {good bad : Json} (hgood : good.UniqueKeys)
    (hbad : bad.UniqueKeys) (n : Nat) :
    (Json.array (List.replicate n good ++ [bad])).UniqueKeys := by
  refine .array fun item hitem => ?_
  rcases List.mem_append.1 hitem with hmem | hmem
  · rwa [List.eq_of_mem_replicate hmem]
  · rwa [List.mem_singleton.1 hmem]

theorem uniqueKeys_documentWith (i : Nat) {model : Json} (h : model.UniqueKeys) :
    (documentWith i model).UniqueKeys := by
  refine .object (by simp) ?_
  simp only [List.forall_mem_cons]
  exact ⟨.string _, uniqueKeys_replicate_append (uniqueKeys_of_merged rfl) h i, nofun⟩

theorem uniqueKeys_modelWithField (j : Nat) {field : Json} (h : field.UniqueKeys) :
    (modelWithField j field).UniqueKeys := by
  refine .object (by simp) ?_
  simp only [List.forall_mem_cons]
  exact ⟨.string _, uniqueKeys_replicate_append (uniqueKeys_of_merged rfl) h j, nofun⟩

theorem uniqueKeys_modelWithGroup (name : String) {group : Json} (h : group.UniqueKeys) :
    (modelWithGroup name group).UniqueKeys := by
  have hgroups : (Json.object [(name, group)]).UniqueKeys :=
    .object (List.nodup_singleton name) (List.forall_mem_singleton.2 h)
  refine .object (by simp) ?_
  simp only [List.forall_mem_cons]
  exact ⟨.string _, .array nofun, hgroups, nofun⟩

theorem uniqueKeys_spoiled (place : Place) : place.spoiled.UniqueKeys := by
  cases place with
  | root | datasetName | models => exact uniqueKeys_of_merged rfl
  | model i => exact uniqueKeys_documentWith i .null
  | ofModel i key => cases key <;> exact uniqueKeys_documentWith i (uniqueKeys_of_merged rfl)
  | field i j => exact uniqueKeys_documentWith i (uniqueKeys_modelWithField j .null)
  | ofField i j key =>
    cases key <;>
      exact uniqueKeys_documentWith i (uniqueKeys_modelWithField j (uniqueKeys_of_merged rfl))
  | group i name => exact uniqueKeys_documentWith i (uniqueKeys_modelWithGroup name .null)
  | query i name j =>
    refine uniqueKeys_documentWith i (uniqueKeys_modelWithGroup name ?_)
    exact uniqueKeys_replicate_append (uniqueKeys_of_merged rfl) .null j
  | ofQuery i name j key =>
    cases key <;> refine uniqueKeys_documentWith i (uniqueKeys_modelWithGroup name ?_) <;>
      exact uniqueKeys_replicate_append (uniqueKeys_of_merged rfl) (uniqueKeys_of_merged rfl) j

/-! ### Reports -/

/-- The first requirement that the document does not meet is about the place. -/
def FaultyAt (doc : Json) (place : Place) : Prop :=
  ∃ before requirement after, requirements doc = before ++ requirement :: after ∧
    requirement.path = place.path ∧ requirement.violation? doc ≠ none ∧
    ∀ earlier ∈ before, earlier.violation? doc = none

theorem faultyAt_iff {doc : Json} (hdoc : doc.UniqueKeys) {place : Place} :
    FaultyAt doc place ↔
      ∃ violation, read doc = .error violation ∧ violation.path = place.path := by
  constructor
  · rintro ⟨before, requirement, after, hlist, hpath, hunmet, hbefore⟩
    obtain ⟨violation, hviolation⟩ := Option.ne_none_iff_exists'.1 hunmet
    refine ⟨violation, ?_, (requirement.path_of_violation? hviolation).trans hpath⟩
    exact (read_eq_error_iff_first hdoc violation).2
      ⟨before, requirement, after, hlist, hviolation, hbefore⟩
  · rintro ⟨violation, hread, hpath⟩
    obtain ⟨before, requirement, after, hlist, hviolation, hbefore⟩ :=
      (read_eq_error_iff_first hdoc violation).1 hread
    refine ⟨before, requirement, after, hlist, ?_, ?_, hbefore⟩
    · exact (requirement.path_of_violation? hviolation).symm.trans hpath
    · rw [hviolation]
      exact Option.some_ne_none violation

theorem faultyAt_unique {doc : Json} (hdoc : doc.UniqueKeys) {place other : Place}
    (h : FaultyAt doc place) (hother : FaultyAt doc other) : place = other := by
  obtain ⟨violation, hread, hpath⟩ := (faultyAt_iff hdoc).1 h
  obtain ⟨violation', hread', hpath'⟩ := (faultyAt_iff hdoc).1 hother
  obtain rfl := Except.error.inj (hread.symm.trans hread')
  exact Place.path_injective (hpath.symm.trans hpath')

theorem faultyAt_spoiled (place : Place) : FaultyAt place.spoiled place :=
  (faultyAt_iff (uniqueKeys_spoiled place)).2 ⟨_, read_spoiled place, rfl⟩

theorem ofJson_eq_error_iff {doc : Json} {report : Report} :
    Definition.ofJson doc = .error (.schema report) ↔
      ∃ violation, read doc = .error violation ∧ violation.report = report := by
  rw [Definition.ofJson]
  rcases read doc with violation | draft
  · simp [Except.mapError]
  · simp [Except.mapError]

theorem exists_faultyAt {doc : Json} (hdoc : doc.UniqueKeys) {report : Report}
    (h : Definition.ofJson doc = .error (.schema report)) : ∃ place, FaultyAt doc place := by
  obtain ⟨violation, hread, -⟩ := ofJson_eq_error_iff.1 h
  obtain ⟨place, hplace⟩ := exists_place_of_read hdoc hread
  exact ⟨place, (faultyAt_iff hdoc).2 ⟨violation, hread, hplace.symm⟩⟩

theorem path_of_faultyAt {doc : Json} (hdoc : doc.UniqueKeys) {report : Report} {place : Place}
    (h : Definition.ofJson doc = .error (.schema report)) (hplace : FaultyAt doc place) :
    report.path = place.path.render := by
  obtain ⟨violation, hread, rfl⟩ := ofJson_eq_error_iff.1 h
  obtain ⟨violation', hread', hpath⟩ := (faultyAt_iff hdoc).1 hplace
  obtain rfl := Except.error.inj (hread.symm.trans hread')
  rw [← hpath]
  rfl

/-- What the path in a report is good for.  A document that is refused is faulty at one place, and
the report has the path of this place as places are written; every place is the faulty one of some
document.  If two documents are faulty at different places, their reports have different paths,
unless one of the places is in a query group whose key can be mistaken for further steps. -/
theorem violation_place_written :
    (∀ (doc : Json) (report : Report), doc.UniqueKeys →
      Definition.ofJson doc = .error (.schema report) →
      (∃! place, FaultyAt doc place) ∧
      ∀ place, FaultyAt doc place → place.path.Written report.path) ∧
    (∀ place, ∃ (doc : Json) (report : Report), doc.UniqueKeys ∧ FaultyAt doc place ∧
      Definition.ofJson doc = .error (.schema report)) ∧
    ∀ (doc other : Json) (report otherReport : Report) (place otherPlace : Place),
      doc.UniqueKeys → other.UniqueKeys →
      Definition.ofJson doc = .error (.schema report) →
      Definition.ofJson other = .error (.schema otherReport) →
      FaultyAt doc place → FaultyAt other otherPlace → place ≠ otherPlace →
      ¬place.Misleading → ¬otherPlace.Misleading → report.path ≠ otherReport.path := by
  refine ⟨?_, ?_, ?_⟩
  · intro doc report hdoc hreport
    obtain ⟨place, hplace⟩ := exists_faultyAt hdoc hreport
    refine ⟨⟨place, hplace, fun other hother => faultyAt_unique hdoc hother hplace⟩, ?_⟩
    intro other hother
    rw [path_of_faultyAt hdoc hreport hother]
    exact Path.written_render other.path
  · intro place
    exact ⟨place.spoiled, _, uniqueKeys_spoiled place, faultyAt_spoiled place,
      ofJson_eq_error_iff.2 ⟨_, read_spoiled place, rfl⟩⟩
  · intro doc other report otherReport place otherPlace hdoc hother hreport hotherReport hplace
      hotherPlace hne hclear hotherClear htext
    rw [path_of_faultyAt hdoc hreport hplace, path_of_faultyAt hother hotherReport hotherPlace]
      at htext
    apply hne
    apply Place.path_injective
    exact Path.render_injective (Place.plain_path hclear) (Place.plain_path hotherClear)
      place.anchored_path otherPlace.anchored_path htext

/-- Two queries in a group that has a closing bracket in its key. -/
theorem violation_place_written_bracket :
    let place := Place.ofQuery 0 "1]" 1 .name
    let other := Place.ofQuery 0 "1]" 11 .name
    Definition.ofJson place.spoiled = .error (.schema
      ⟨"models[0].queries.1][1].name", "expected a string, found null"⟩) ∧
    Definition.ofJson other.spoiled = .error (.schema
      ⟨"models[0].queries.1][11].name", "expected a string, found null"⟩) ∧
    "models[0].queries.1][1].name" ≠ "models[0].queries.1][11].name" := by
  intro place other
  have hclear : ∀ j, ¬(Place.ofQuery 0 "1]" j .name).Misleading := by
    rintro j ⟨name, hname, hchar⟩
    obtain rfl := Option.some.inj hname
    revert hchar
    decide
  have hreport : Definition.ofJson place.spoiled = .error (.schema
      ⟨"models[0].queries.1][1].name", "expected a string, found null"⟩) := by decide +kernel
  have hother : Definition.ofJson other.spoiled = .error (.schema
      ⟨"models[0].queries.1][11].name", "expected a string, found null"⟩) := by decide +kernel
  exact ⟨hreport, hother, violation_place_written.2.2 _ _ _ _ place other (uniqueKeys_spoiled place)
    (uniqueKeys_spoiled other) hreport hother (faultyAt_spoiled place) (faultyAt_spoiled other)
    (by simp [place, other]) (hclear 1) (hclear 11)⟩

/-- A query, and a query group whose key looks like the query. -/
example : (Place.query 0 "find" 2).path.render = (Place.group 0 "find[2]").path.render := by
  decide +kernel

end Schema

end DatasetCompiler
