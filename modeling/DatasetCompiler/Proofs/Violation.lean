import DatasetCompiler.Proofs.Fault
import DatasetCompiler.Proofs.Shape

/-!
# The first violation of a document

A document has to meet a list of requirements, each about one place in it: that the value there is
of some kind, that the object there has some key, that the name there is an identifier.  The list
only depends on how many items the arrays have and on which query groups there are.  A requirement
is judged by looking at its place in the document, and asks for nothing if there is no such place.

The walk of `Schema.check` reports the violation of the first requirement in the list that is not
met.  So the place that a report names is a place of the document, and what stands there is what the
message says.
-/

namespace DatasetCompiler

namespace Json

/-! ### Places -/

/-- The value at a place of a document. -/
def at? : Json → Path → Option Json
  | value, [] => some value
  | .object members, .key name :: rest => (members.lookup name).bind (at? · rest)
  | .array items, .index i :: rest => items[i]?.bind (at? · rest)
  | _, _ :: _ => none

@[simp] theorem at?_root (doc : Json) : doc.at? Path.root = some doc := by
  cases doc <;> rfl

theorem at?_append (doc : Json) (path rest : Path) :
    doc.at? (path ++ rest) = (doc.at? path).bind (at? · rest) := by
  fun_induction at? doc path with
  | case1 doc => rfl
  | case2 members name path ih =>
    rw [List.cons_append, at?]
    cases members.lookup name with
    | none => rfl
    | some value => exact ih value
  | case3 items i path ih =>
    rw [List.cons_append, at?]
    cases items[i]? with
    | none => rfl
    | some value => exact ih value
  | case4 doc step path hobject harray =>
    rw [List.cons_append, at?]
    · rfl
    · simpa using hobject
    · simpa using harray

theorem at?_key {doc : Json} {path : Path} {members : List (String × Json)}
    (h : doc.at? path = some (.object members)) (name : String) :
    doc.at? (path.key name) = members.lookup name := by
  rw [Path.key, at?_append, h, Option.bind_some, at?]
  cases members.lookup name with
  | none => rfl
  | some value => exact at?_root value

theorem at?_index {doc : Json} {path : Path} {items : List Json}
    (h : doc.at? path = some (.array items)) (i : Nat) : doc.at? (path.index i) = items[i]? := by
  rw [Path.index, at?_append, h, Option.bind_some, at?]
  cases items[i]? with
  | none => rfl
  | some value => exact at?_root value

/-- Every part of a document without repeated keys is such a document. -/
theorem UniqueKeys.at? {doc value : Json} {path : Path} (hdoc : doc.UniqueKeys)
    (h : doc.at? path = some value) : value.UniqueKeys := by
  fun_induction Json.at? doc path with
  | case1 doc => exact Option.some.inj h ▸ hdoc
  | case2 members name path ih =>
    obtain ⟨child, hchild, hrest⟩ := Option.bind_eq_some_iff.1 h
    cases hdoc with
    | object _ hvalues => exact ih child (hvalues _ (mem_of_lookup_eq_some hchild)) hrest
  | case3 items i path ih =>
    obtain ⟨child, hchild, hrest⟩ := Option.bind_eq_some_iff.1 h
    cases hdoc with
    | array hitems => exact ih child (hitems _ (List.mem_of_getElem? hchild)) hrest
  | case4 doc step path => cases h

/-! ### Written paths -/

namespace Path

/-- How a place is written: the root as `$`, keys with dots between them, indexes in brackets. -/
inductive Written : Path → String → Prop where
  | root : Written root "$"
  | top (name : String) : Written (root.key name) name
  | key {path : Path} {text : String} (name : String) (hinner : path ≠ root)
      (hpath : Written path text) : Written (path.key name) (text ++ "." ++ name)
  | index {path : Path} {text : String} (i : Nat) (hpath : Written path text) :
      Written (path.index i) (text ++ "[" ++ toString i ++ "]")

theorem renderSteps_append (path rest : Path) :
    renderSteps (path ++ rest) = renderSteps path ++ renderSteps rest := by
  induction path with
  | nil => exact String.empty_append.symm
  | cons step path ih =>
    cases step with
    | key name => simp only [List.cons_append, renderSteps, ih, String.append_assoc]
    | index i => simp only [List.cons_append, renderSteps, ih, String.append_assoc]

theorem render_append {path : Path} (h : path ≠ root) (rest : Path) :
    render (path ++ rest) = render path ++ renderSteps rest := by
  cases path with
  | nil => exact absurd rfl h
  | cons step path =>
    cases step with
    | key name => simp only [List.cons_append, render, renderSteps_append, String.append_assoc]
    | index i =>
      rw [List.cons_append, render, render, ← List.cons_append, renderSteps_append,
        String.append_assoc]

theorem render_key {path : Path} (h : path ≠ root) (name : String) :
    (path.key name).render = path.render ++ "." ++ name := by
  rw [key, render_append h, renderSteps, renderSteps, String.append_empty, String.append_assoc]

theorem render_index (path : Path) (i : Nat) :
    (path.index i).render = path.render ++ "[" ++ toString i ++ "]" := by
  by_cases h : path = root
  · rw [h]
    simp only [index, root, List.nil_append, render, renderSteps, String.append_empty,
      String.append_assoc]
  · rw [index, render_append h, renderSteps, renderSteps, String.append_empty]
    simp only [String.append_assoc]

theorem written_render (path : Path) : path.Written path.render := by
  induction path using List.reverseRecOn with
  | nil => exact .root
  | append_singleton path step ih =>
    cases step with
    | key name =>
      change Written (Path.key path name) (render (Path.key path name))
      by_cases hroot : path = root
      · have htext : render (root.key name) = name := String.append_empty
        rw [hroot, htext]
        exact .top name
      · rw [render_key hroot]
        exact .key name hroot ih
    | index i =>
      change Written (Path.index path i) (render (Path.index path i))
      rw [render_index]
      exact .index i ih

end Path

end Json

open Json (Path)

namespace Schema

/-! ### Requirements -/

/-- What a document must satisfy at one of its places. -/
inductive Requirement where
  /-- The value there is what is expected. -/
  | kind (path : Path) (expected : Expected)
  /-- The object there has a key. -/
  | key (path : Path) (name : String)
  /-- The string there is an identifier. -/
  | identifier (path : Path)
deriving DecidableEq, Repr

/-- Whether a value is what is expected. -/
def Expected.admits : Expected → Json → Bool
  | .object, .object _ => true
  | .array, .array _ => true
  | .string, .string _ => true
  | .integer, .number (.integer n) => -9223372036854775808 ≤ n && n ≤ 9223372036854775807
  | _, _ => false

instance (name : String) : Decidable (IsIdentifier name) :=
  decidable_of_iff _ isIdentifierFragment_iff

/-- The violation of a requirement in a document.  Nothing is asked of a place that is not there,
or of the members and the text of a value that has none. -/
def Requirement.violation? (doc : Json) : Requirement → Option Violation
  | .kind path expected =>
    match doc.at? path with
    | some value =>
      if expected.admits value then none else some ⟨path, .mismatch expected value.kind⟩
    | none => none
  | .key path name =>
    match doc.at? path with
    | some (.object members) =>
      if name ∈ members.map Prod.fst then none else some ⟨path, .missingKey name⟩
    | _ => none
  | .identifier path =>
    match doc.at? path with
    | some (.string name) => if IsIdentifier name then none else some ⟨path, .notIdentifier name⟩
    | _ => none

/-- The places of the items of the array at a place. -/
def itemPlaces (doc : Json) (path : Path) : List Path :=
  match doc.at? path with
  | some (.array items) => (List.range items.length).map path.index
  | _ => []

/-- The places of the members of the object at a place. -/
def memberPlaces (doc : Json) (path : Path) : List Path :=
  match doc.at? path with
  | some (.object members) => members.map fun member => path.key member.1
  | _ => []

def fieldRequirements (path : Path) : List Requirement :=
  [.kind path .object,
    .key path "name", .kind (path.key "name") .string,
    .key path "type", .kind (path.key "type") .string,
    .kind (path.key "maxLength") .integer]

def queryRequirements (path : Path) : List Requirement :=
  [.kind path .object,
    .key path "name", .kind (path.key "name") .string,
    .key path "query", .kind (path.key "query") .string]

def groupRequirements (doc : Json) (path : Path) : List Requirement :=
  .kind path .array :: (itemPlaces doc path).flatMap queryRequirements

def modelRequirements (doc : Json) (path : Path) : List Requirement :=
  .kind path .object ::
  .key path "name" :: .kind (path.key "name") .string ::
  .kind (path.key "typeName") .string ::
  .kind (path.key "tableName") .string ::
  .key path "fields" :: .kind (path.key "fields") .array ::
    ((itemPlaces doc (path.key "fields")).flatMap fieldRequirements ++
  .kind (path.key "queries") .object ::
    (memberPlaces doc (path.key "queries")).flatMap (groupRequirements doc))

/-- Everything that a document must satisfy, in the order in which it is checked. -/
def requirements (doc : Json) : List Requirement :=
  .kind Path.root .object ::
  .key Path.root "datasetName" :: .kind (Path.root.key "datasetName") .string ::
  .identifier (Path.root.key "datasetName") ::
  .key Path.root "models" :: .kind (Path.root.key "models") .array ::
    (itemPlaces doc (Path.root.key "models")).flatMap (modelRequirements doc)

/-- The violations of some requirements, in order. -/
def violations (doc : Json) (requirements : List Requirement) : List Violation :=
  requirements.filterMap (·.violation? doc)

/-! ### What a report says -/

/-- The words that messages have for a value.  Every number is called a number; only machine words
are called integers. -/
inductive Called : Json → String → Prop where
  | null : Called .null "null"
  | boolean (value : Bool) : Called (.bool value) "a boolean"
  | number (value : Json.Number) : Called (.number value) "a number"
  | integer {value : Json} (h : IsInteger value) : Called value "an integer"
  | string (text : String) : Called (.string text) "a string"
  | array (items : List Json) : Called (.array items) "an array"
  | object (members : List (String × Json)) : Called (.object members) "an object"

/-- The document has at the place of a violation what the detail of its report says.  The words for
what was expected are those for exactly the values that would have done. -/
inductive Explains (doc : Json) : Violation → String → Prop where
  | missingKey {path : Path} {members : List (String × Json)} {key : String}
      (hplace : doc.at? path = some (.object members)) (hkey : key ∉ members.map Prod.fst) :
      Explains doc ⟨path, .missingKey key⟩ ("missing required key `" ++ key ++ "`")
  | mismatch {path : Path} {value : Json} {expected : Expected} {wanted found : String}
      (hplace : doc.at? path = some value) (hvalue : expected.admits value = false)
      (hwanted : ∀ other, expected.admits other = true ↔ Called other wanted)
      (hfound : Called value found) :
      Explains doc ⟨path, .mismatch expected value.kind⟩
        ("expected " ++ wanted ++ ", found " ++ found)
  | notIdentifier {name : String}
      (hplace : doc.at? (Path.root.key "datasetName") = some (.string name))
      (hname : ¬ IsIdentifier name) :
      Explains doc ⟨Path.root.key "datasetName", .notIdentifier name⟩
        ("`" ++ name ++ "` is not an identifier (letters, digits and `_` only)")

/-! ### Single requirements -/

section Reports

variable {α β : Type} {doc value : Json} {path : Path} {members : List (String × Json)}
  {key : String}

theorem violations_append (doc : Json) (first rest : List Requirement) :
    violations doc (first ++ rest) = violations doc first ++ violations doc rest :=
  List.filterMap_append

theorem reports_bind {first rest : List Requirement} {result : Check α} {next : α → Check β}
    {good : α → Prop} {good' : β → Prop} (h : Reports (violations doc first) result good)
    (hnext : ∀ found, good found → Reports (violations doc rest) (next found) good') :
    Reports (violations doc (first ++ rest)) (result >>= next) good' := by
  rw [violations_append]
  exact h.bind hnext

/-- A check of a kind reports whether the value is of that kind. -/
theorem reports_kind {expected : Expected} {result : Check α} {good : α → Prop}
    (hplace : doc.at? path = some value)
    (hok : expected.admits value = true → ∃ found, result = .ok found ∧ good found)
    (herror : expected.admits value = false → result = mismatch path expected value) :
    Reports (violations doc [.kind path expected]) result good := by
  cases hadmits : expected.admits value with
  | true =>
    have hnone : violations doc [.kind path expected] = [] := by
      simp [violations, Requirement.violation?, hplace, hadmits]
    rw [hnone]
    exact hok hadmits
  | false =>
    have hsome : violations doc [.kind path expected] =
        [⟨path, .mismatch expected value.kind⟩] := by
      simp [violations, Requirement.violation?, hplace, hadmits]
    rw [hsome]
    exact herror hadmits

theorem reports_object (hplace : doc.at? path = some value) :
    Reports (violations doc [.kind path .object]) (object path value)
      fun members => value = .object members := by
  cases value with
  | object members => exact reports_kind hplace (fun _ => ⟨members, rfl, rfl⟩) (fun h => nomatch h)
  | null | bool _ | number _ | string _ | array _ =>
    exact reports_kind hplace (fun h => nomatch h) (fun _ => rfl)

theorem reports_array (hplace : doc.at? path = some value) :
    Reports (violations doc [.kind path .array]) (array path value)
      fun items => value = .array items := by
  cases value with
  | array items => exact reports_kind hplace (fun _ => ⟨items, rfl, rfl⟩) (fun h => nomatch h)
  | null | bool _ | number _ | string _ | object _ =>
    exact reports_kind hplace (fun h => nomatch h) (fun _ => rfl)

theorem reports_string (hplace : doc.at? path = some value) :
    Reports (violations doc [.kind path .string]) (string path value)
      fun text => value = .string text := by
  cases value with
  | string text => exact reports_kind hplace (fun _ => ⟨text, rfl, rfl⟩) (fun h => nomatch h)
  | null | bool _ | number _ | array _ | object _ =>
    exact reports_kind hplace (fun h => nomatch h) (fun _ => rfl)

theorem admits_integer_iff : Expected.integer.admits value = true ↔ IsInteger value := by
  constructor
  · intro h
    cases value with
    | number number =>
      cases number with
      | integer n =>
        obtain ⟨hlow, hhigh⟩ := Bool.and_eq_true_iff.1 h
        exact ⟨n, rfl, of_decide_eq_true hlow, of_decide_eq_true hhigh⟩
      | float _ _ => cases h
    | null | bool _ | string _ | array _ | object _ => cases h
  · rintro ⟨n, rfl, hlow, hhigh⟩
    exact Bool.and_eq_true_iff.2 ⟨decide_eq_true hlow, decide_eq_true hhigh⟩

theorem reports_integer (hplace : doc.at? path = some value) :
    Reports (violations doc [.kind path .integer]) (integer path value) fun _ => True := by
  apply reports_kind hplace
  · intro hadmits
    obtain ⟨n, hn⟩ := (accepts_integer path value).2 (admits_integer_iff.1 hadmits)
    exact ⟨n, hn, trivial⟩
  · intro hadmits
    have hnone : value.int64? = none := by
      rw [Option.eq_none_iff_forall_ne_some]
      intro n hn
      have hinteger := isInteger_iff.2 ⟨n, int64?_eq_some_iff.1 hn⟩
      rw [admits_integer_iff.2 hinteger] at hadmits
      cases hadmits
    rw [integer, hnone]

theorem reports_checkName (hplace : doc.at? path = some value) :
    Reports (violations doc [.kind path .string, .identifier path]) (checkName path value)
      fun _ => True := by
  refine reports_bind (reports_string hplace) ?_
  rintro name rfl
  by_cases hname : IsIdentifier name
  · have hnone : violations doc [.identifier path] = [] := by
      simp [violations, Requirement.violation?, hplace, hname]
    rw [hnone, isIdentifierFragment_iff.2 hname]
    exact ⟨(), rfl, trivial⟩
  · have hsome : violations doc [.identifier path] = [⟨path, .notIdentifier name⟩] := by
      simp [violations, Requirement.violation?, hplace, hname]
    rw [hsome, Bool.eq_false_iff.2 (mt isIdentifierFragment_iff.1 hname)]
    rfl

/-! ### Members and items -/

theorem reports_requiredWith {check : Path → Json → Check α} {rest : List Requirement}
    {good : Json → α → Prop} (hplace : doc.at? path = some (.object members))
    (hcheck : ∀ value, doc.at? (path.key key) = some value →
      Reports (violations doc rest) (check (path.key key) value) (good value)) :
    Reports (violations doc (.key path key :: rest)) (requiredWith check path members key)
      fun _ => True := by
  have hrequired : Reports (violations doc [.key path key]) (required path members key)
      fun value => doc.at? (path.key key) = some value := by
    cases hlookup : members.lookup key with
    | none =>
      have hsome : violations doc [.key path key] = [⟨path, .missingKey key⟩] := by
        have hkey := Json.lookup_eq_none_iff_notMem.1 hlookup
        simp only [violations, Requirement.violation?, hplace, List.filterMap_cons, if_neg hkey,
          List.filterMap_nil]
      rw [hsome, required, Json.member?, hlookup]
      rfl
    | some value =>
      have hnone : violations doc [.key path key] = [] := by
        have hkey := List.mem_map_of_mem (f := Prod.fst) (Json.mem_of_lookup_eq_some hlookup)
        simp only [violations, Requirement.violation?, hplace, List.filterMap_cons, if_pos hkey,
          List.filterMap_nil]
      rw [hnone, required, Json.member?, hlookup, Json.at?_key hplace, hlookup]
      exact ⟨value, rfl, rfl⟩
  exact reports_bind hrequired fun value hvalue => (hcheck value hvalue).imp fun _ _ => trivial

theorem reports_optionalWith {check : Path → Json → Check α} {rest : List Requirement}
    {good : Json → α → Prop} (hplace : doc.at? path = some (.object members))
    (habsent : doc.at? (path.key key) = none → violations doc rest = [])
    (hcheck : ∀ value, doc.at? (path.key key) = some value →
      Reports (violations doc rest) (check (path.key key) value) (good value)) :
    Reports (violations doc rest) (optionalWith check path members key) fun _ => True := by
  have hkey := Json.at?_key hplace key
  unfold optionalWith Json.member?
  cases hlookup : members.lookup key with
  | none =>
    rw [habsent (hkey.trans hlookup)]
    exact ⟨(), rfl, trivial⟩
  | some value =>
    exact (hcheck value (hkey.trans hlookup)).map fun _ _ => trivial

theorem violations_kind_of_absent (h : doc.at? path = none) (expected : Expected) :
    violations doc [.kind path expected] = [] := by
  simp [violations, Requirement.violation?, h]

theorem reports_itemsFrom {check : Path → Json → Check Unit} {parts : Path → List Requirement}
    (hcheck : ∀ place value, doc.at? place = some value →
      Reports (violations doc (parts place)) (check place value) fun _ => True)
    {items : List Json} (i : Nat)
    (hitems : ∀ j, doc.at? (path.index (i + j)) = items[j]?) :
    Reports (violations doc (((List.range' i items.length).map path.index).flatMap parts))
      (itemsFrom check path i items) fun _ => True := by
  -- the items that are left stand at the places from `i` on
  induction items generalizing i with
  | nil => exact ⟨(), rfl, trivial⟩
  | cons item items ih =>
    rw [List.length_cons, List.range'_succ, List.map_cons, List.flatMap_cons, itemsFrom]
    refine reports_bind (hcheck (path.index i) item (hitems 0)) fun _ _ => ?_
    refine ih (i + 1) fun j => ?_
    rw [Nat.add_right_comm, Nat.add_assoc, hitems (j + 1), List.getElem?_cons_succ]

theorem reports_arrayOf {check : Path → Json → Check Unit} {parts : Path → List Requirement}
    (hcheck : ∀ place value, doc.at? place = some value →
      Reports (violations doc (parts place)) (check place value) fun _ => True)
    (hplace : doc.at? path = some value) :
    Reports (violations doc (.kind path .array :: (itemPlaces doc path).flatMap parts))
      (arrayOf check path value) fun _ => True := by
  refine reports_bind (reports_array hplace) ?_
  rintro items rfl
  have hplaces : itemPlaces doc path = (List.range' 0 items.length).map path.index := by
    simp only [itemPlaces, hplace, List.range_eq_range']
  rw [hplaces]
  refine reports_itemsFrom hcheck 0 fun j => ?_
  rw [Nat.zero_add, Json.at?_index hplace]

/-! ### The parts of a definition -/

theorem reports_checkField (path : Path) (value : Json) (hplace : doc.at? path = some value) :
    Reports (violations doc (fieldRequirements path)) (checkField path value) fun _ => True := by
  refine reports_bind (reports_object hplace) ?_
  rintro members rfl
  refine reports_bind (reports_requiredWith hplace fun _ => reports_string) fun _ _ => ?_
  refine reports_bind (reports_requiredWith hplace fun _ => reports_string) fun _ _ => ?_
  exact reports_optionalWith hplace (violations_kind_of_absent · _) fun _ => reports_integer

theorem reports_checkQuery (path : Path) (value : Json) (hplace : doc.at? path = some value) :
    Reports (violations doc (queryRequirements path)) (checkQuery path value) fun _ => True := by
  refine reports_bind (reports_object hplace) ?_
  rintro members rfl
  refine reports_bind (reports_requiredWith hplace fun _ => reports_string) fun _ _ => ?_
  exact (reports_requiredWith hplace fun _ => reports_string).map fun _ _ => trivial

theorem reports_checkGroups {groups : List (String × Json)}
    (hgroups : ∀ group ∈ groups, doc.at? (path.key group.1) = some group.2) :
    Reports (violations doc
        ((groups.map fun group => path.key group.1).flatMap (groupRequirements doc)))
      (checkGroups path groups) fun _ => True := by
  induction groups with
  | nil => exact ⟨(), rfl, trivial⟩
  | cons group groups ih =>
    rw [List.map_cons, List.flatMap_cons, checkGroups]
    have hgroup := hgroups group List.mem_cons_self
    refine reports_bind (reports_arrayOf reports_checkQuery hgroup) fun _ _ => ?_
    exact ih fun other hother => hgroups other (List.mem_cons_of_mem _ hother)

theorem reports_checkQueries (hdoc : doc.UniqueKeys) (hplace : doc.at? path = some value) :
    Reports (violations doc
        (.kind path .object :: (memberPlaces doc path).flatMap (groupRequirements doc)))
      (checkQueries path value) fun _ => True := by
  refine reports_bind (reports_object hplace) ?_
  rintro groups rfl
  have hplaces : memberPlaces doc path = groups.map fun group => path.key group.1 := by
    rw [memberPlaces, hplace]
  rw [hplaces]
  apply reports_checkGroups
  intro group hgroup
  -- a group is what stands at its key because no other group has that key
  rw [Json.at?_key hplace]
  cases hdoc.at? hplace with
  | object hkeys _ => exact Json.lookup_eq_some_of_mem hkeys hgroup

theorem reports_checkModel (hdoc : doc.UniqueKeys) (path : Path) (value : Json)
    (hplace : doc.at? path = some value) :
    Reports (violations doc (modelRequirements doc path)) (checkModel path value)
      fun _ => True := by
  refine reports_bind (reports_object hplace) ?_
  rintro members rfl
  refine reports_bind (reports_requiredWith hplace fun _ => reports_string) fun _ _ => ?_
  refine reports_bind (reports_optionalWith hplace (violations_kind_of_absent · _)
    fun _ => reports_string) fun _ _ => ?_
  refine reports_bind (reports_optionalWith hplace (violations_kind_of_absent · _)
    fun _ => reports_string) fun _ _ => ?_
  refine reports_bind (reports_requiredWith hplace fun _ => reports_arrayOf reports_checkField)
    fun _ _ => ?_
  refine reports_optionalWith hplace ?_ fun _ => reports_checkQueries hdoc
  intro habsent
  have hplaces : memberPlaces doc (path.key "queries") = [] := by rw [memberPlaces, habsent]
  rw [hplaces]
  exact violations_kind_of_absent habsent _

theorem reports_check (hdoc : doc.UniqueKeys) :
    Reports (violations doc (requirements doc)) (check doc) fun _ => True := by
  have hplace := Json.at?_root doc
  refine reports_bind (reports_object hplace) ?_
  rintro members rfl
  refine reports_bind (reports_requiredWith hplace fun _ => reports_checkName) fun _ _ => ?_
  exact reports_requiredWith hplace fun _ => reports_arrayOf (reports_checkModel hdoc)

end Reports

/-! ### The first violation -/

theorem eq_of_identifier_mem_requirements {doc : Json} {path : Path}
    (h : .identifier path ∈ requirements doc) : path = Path.root.key "datasetName" := by
  simpa [requirements, modelRequirements, groupRequirements, fieldRequirements,
    queryRequirements] using h

theorem called_kind (value : Json) : Called value value.kind.description := by
  cases value with
  | null => exact .null
  | bool value => exact .boolean value
  | number value => exact .number value
  | string text => exact .string text
  | array items => exact .array items
  | object members => exact .object members

theorem called_iff {value : Json} {words : String} :
    Called value words ↔
      words = value.kind.description ∨ words = "an integer" ∧ IsInteger value := by
  constructor
  · intro h
    cases h with
    | integer hinteger => exact Or.inr ⟨rfl, hinteger⟩
    | null | boolean _ | number _ | string _ | array _ | object _ => exact Or.inl rfl
  · rintro (rfl | ⟨rfl, hinteger⟩)
    · exact called_kind value
    · exact .integer hinteger

theorem admits_iff_called (expected : Expected) (value : Json) :
    expected.admits value = true ↔ Called value expected.description := by
  rw [called_iff]
  cases expected with
  | integer =>
    -- no kind is called an integer, so the words can only come from the value itself
    have hkind : "an integer" ≠ value.kind.description := by cases value.kind <;> decide
    simp [Expected.description, hkind, admits_integer_iff]
  | object | array | string =>
    cases value <;> simp [Expected.admits, Expected.description, Json.kind, Json.Kind.description]

theorem explains_of_violation? {doc : Json} {requirement : Requirement} {violation : Violation}
    (hmem : requirement ∈ requirements doc)
    (h : requirement.violation? doc = some violation) :
    Explains doc violation violation.cause.message := by
  cases requirement with
  | kind path expected =>
    rw [Requirement.violation?] at h
    split at h
    · rename_i value hplace
      cases hadmits : expected.admits value with
      | true => simp [hadmits] at h
      | false =>
        obtain rfl : _ = violation := by simpa [hadmits] using h
        exact .mismatch hplace hadmits (admits_iff_called expected) (called_kind value)
    · cases h
  | key path name =>
    rw [Requirement.violation?] at h
    split at h
    · rename_i members hplace
      by_cases hname : name ∈ members.map Prod.fst
      · rw [if_pos hname] at h
        cases h
      · rw [if_neg hname] at h
        obtain rfl := Option.some.inj h
        exact .missingKey hplace hname
    · cases h
  | identifier path =>
    obtain rfl := eq_of_identifier_mem_requirements hmem
    rw [Requirement.violation?] at h
    split at h
    · rename_i name hplace
      by_cases hname : IsIdentifier name
      · rw [if_pos hname] at h
        cases h
      · rw [if_neg hname] at h
        obtain rfl := Option.some.inj h
        exact .notIdentifier hplace hname
    · cases h

/-- Reading fails with the violation of the first requirement that is not met, and only if there
is one. -/
theorem read_eq_error_iff_first {doc : Json} (hdoc : doc.UniqueKeys) (violation : Violation) :
    read doc = .error violation ↔
      ∃ before requirement after, requirements doc = before ++ requirement :: after ∧
        requirement.violation? doc = some violation ∧
        ∀ earlier ∈ before, earlier.violation? doc = none := by
  rw [read_eq_error_iff, (reports_check hdoc).error_iff, violations, List.head?_filterMap,
    List.findSome?_eq_some_iff]

/-- The first requirement that is not met decides.  The report names its place as places are
written, the document has this place, and what stands there is what the report says. -/
theorem read_first_violation {doc : Json} (hdoc : doc.UniqueKeys) :
    (∀ violation, read doc = .error violation ↔
      ∃ before requirement after, requirements doc = before ++ requirement :: after ∧
        requirement.violation? doc = some violation ∧
        ∀ earlier ∈ before, earlier.violation? doc = none) ∧
    ∀ violation, read doc = .error violation →
      ∃ report, Definition.ofJson doc = .error (.schema report) ∧
        violation.path.Written report.path ∧ Explains doc violation report.detail := by
  refine ⟨read_eq_error_iff_first hdoc, ?_⟩
  intro violation h
  obtain ⟨before, requirement, after, hlist, hviolation, -⟩ :=
    (read_eq_error_iff_first hdoc violation).1 h
  refine ⟨violation.report, ?_, Json.Path.written_render _, ?_⟩
  · rw [Definition.ofJson, h]
    rfl
  · exact explains_of_violation? (by simp [hlist]) hviolation

/-- Of four violations the one of a field's type wins: it comes before that of the field's length,
of the queries of its model and of the next model, wherever the keys stand in the document. -/
theorem read_first_violation_nested :
    let doc : Json := .object [("models", .array [.object [("queries", .null),
      ("fields", .array [.object
        [("maxLength", .null), ("type", .bool true), ("name", .string "id")]]),
      ("name", .string "A")], .null]), ("datasetName", .string "shop")]
    let violation : Violation :=
      ⟨[.key "models", .index 0, .key "fields", .index 0, .key "type"], .mismatch .string .boolean⟩
    doc.UniqueKeys ∧ read doc = .error violation ∧
    Definition.ofJson doc = .error (.schema
      ⟨"models[0].fields[0].type", "expected a string, found a boolean"⟩) ∧
    Explains doc violation "expected a string, found a boolean" := by
  intro doc violation
  have hdoc : doc.UniqueKeys := Json.uniqueKeys_merged doc
  have hread : read doc = .error violation := rfl
  have hreport : Definition.ofJson doc = .error (.schema
      ⟨"models[0].fields[0].type", "expected a string, found a boolean"⟩) := by decide +kernel
  obtain ⟨report, hfound, -, hexplains⟩ := (read_first_violation hdoc).2 violation hread
  obtain rfl : report = ⟨"models[0].fields[0].type", "expected a string, found a boolean"⟩ := by
    simpa [hreport, eq_comm] using hfound
  exact ⟨hdoc, hread, hreport, hexplains⟩

end Schema

end DatasetCompiler
