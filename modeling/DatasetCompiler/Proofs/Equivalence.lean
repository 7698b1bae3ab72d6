import DatasetCompiler.Definition
import DatasetCompiler.Proofs.UniqueKey
import Mathlib.Data.List.Forall2

/-!
# Documents that say the same

Two documents say the same if they differ only in keys that a definition does not know, with
whatever values, and in the order of the keys of datasets, models, fields and queries.  The order of
query groups and of the items of arrays does count.  Such documents are read and compiled with the
same result, be it a dataset or a report: every look-up that the walk and the reader make goes by
the name of a key, and a key that is there once is found wherever it stands.
-/

namespace DatasetCompiler

namespace Schema

/-! ### Equivalent documents -/

/-- Without the keys that are not listed, the second list of members is a reordering of the first,
up to the values: those of one key are related by `same`. -/
def SameMembers (keys : List String) (same : String → Json → Json → Prop)
    (left right : List (String × Json)) : Prop :=
  ∃ reordered, reordered.Perm (right.filter (·.1 ∈ keys)) ∧
    List.Forall₂ (fun a b => a.1 = b.1 ∧ same a.1 a.2 b.2) (left.filter (·.1 ∈ keys)) reordered

/-- Two equal values, or two objects with the same members. -/
inductive SameRecord (keys : List String) (same : String → Json → Json → Prop) :
    Json → Json → Prop where
  | refl (value : Json) : SameRecord keys same value value
  | object {left right : List (String × Json)} (h : SameMembers keys same left right) :
      SameRecord keys same (.object left) (.object right)

/-- Two equal values, or two arrays with the same items in the same order. -/
inductive SameItems (same : Json → Json → Prop) : Json → Json → Prop where
  | refl (value : Json) : SameItems same value value
  | array {left right : List Json} (h : List.Forall₂ same left right) :
      SameItems same (.array left) (.array right)

def SameField : Json → Json → Prop :=
  SameRecord ["name", "type", "maxLength"] fun _ => Eq

def SameQuery : Json → Json → Prop :=
  SameRecord ["name", "query"] fun _ => Eq

/-- Two equal values, or two objects with the same query groups in the same order. -/
inductive SameQueries : Json → Json → Prop where
  | refl (value : Json) : SameQueries value value
  | object {left right : List (String × Json)}
      (h : List.Forall₂ (fun a b => a.1 = b.1 ∧ SameItems SameQuery a.2 b.2) left right) :
      SameQueries (.object left) (.object right)

def SameModel : Json → Json → Prop :=
  SameRecord ["name", "typeName", "tableName", "fields", "queries"] fun
    | "fields" => SameItems SameField
    | "queries" => SameQueries
    | _ => Eq

/-- The two documents differ only in unknown keys and in the order of known ones. -/
def SameDocument : Json → Json → Prop :=
  SameRecord ["datasetName", "models"] fun
    | "models" => SameItems SameModel
    | _ => Eq

/-! ### Looking keys up -/

theorem lookup_filter {keys : List String} {key : String} (hkey : key ∈ keys)
    (members : List (String × Json)) :
    (members.filter (·.1 ∈ keys)).lookup key = members.lookup key := by
  induction members with
  | nil => rfl
  | cons member members ih =>
    obtain ⟨name, value⟩ := member
    by_cases hname : name ∈ keys
    · rw [List.filter_cons_of_pos (by simpa using hname), List.lookup_cons, List.lookup_cons, ih]
    · have hne : (key == name) = false := by
        rw [beq_eq_false_iff_ne]
        rintro rfl
        exact hname hkey
      rw [List.filter_cons_of_neg (by simpa using hname), List.lookup_cons, hne, ih]

theorem lookup_perm {left right : List (String × Json)} (hperm : left.Perm right)
    (hkeys : (right.map Prod.fst).Nodup) (key : String) : left.lookup key = right.lookup key := by
  have hkeys' : (left.map Prod.fst).Nodup := (hperm.map Prod.fst).nodup_iff.2 hkeys
  cases hlookup : right.lookup key with
  | none =>
    rw [Json.lookup_eq_none_iff_notMem] at hlookup ⊢
    intro hmem
    exact hlookup ((hperm.map Prod.fst).mem_iff.1 hmem)
  | some value =>
    have hmem := hperm.mem_iff.2 (Json.mem_of_lookup_eq_some hlookup)
    exact Json.lookup_eq_some_of_mem hkeys' hmem

theorem lookup_forall₂ {same : String → Json → Json → Prop} {left right : List (String × Json)}
    (h : List.Forall₂ (fun a b => a.1 = b.1 ∧ same a.1 a.2 b.2) left right) (key : String) :
    Option.Rel (same key) (left.lookup key) (right.lookup key) := by
  induction h with
  | nil => exact .none
  | @cons a b left right hab _ ih =>
    obtain ⟨name, value⟩ := a
    obtain ⟨name', value'⟩ := b
    obtain ⟨rfl, hvalue⟩ := hab
    rw [List.lookup_cons, List.lookup_cons]
    by_cases hname : key = name
    · subst hname
      simpa using Option.Rel.some hvalue
    · have hne : (key == name) = false := beq_eq_false_iff_ne.2 hname
      simpa [hne] using ih

/-- Members that are the same have the same values under every key that is listed. -/
theorem SameMembers.lookup {keys : List String} {same : String → Json → Json → Prop}
    {left right : List (String × Json)} (h : SameMembers keys same left right)
    (hkeys : (right.map Prod.fst).Nodup) {key : String} (hkey : key ∈ keys) :
    Option.Rel (same key) (left.lookup key) (right.lookup key) := by
  obtain ⟨reordered, hperm, hall⟩ := h
  have hsub : ((right.filter (·.1 ∈ keys)).map Prod.fst).Nodup :=
    hkeys.sublist (List.filter_sublist.map Prod.fst)
  have hlookup := lookup_forall₂ hall key
  -- neither the order of the members nor those that are not listed matter to a listed key
  rwa [lookup_perm hperm hsub, lookup_filter hkey, lookup_filter hkey] at hlookup

/-! ### Functions that cannot tell such documents apart -/

section Respects

variable {α β : Type}

/-- The function has the same result on values that are the same. -/
def Respects (same : Json → Json → Prop) (f : Json → β) : Prop :=
  ∀ left right, same left right → right.UniqueKeys → f left = f right

theorem respects_eq (f : Json → β) : Respects Eq f := by
  rintro value _ rfl _
  rfl

theorem respects_record {keys : List String} {same : String → Json → Json → Prop} {f : Json → β}
    (h : ∀ left right : List (String × Json),
      (∀ key ∈ keys, Option.Rel (same key) (left.lookup key) (right.lookup key)) →
      (Json.object right).UniqueKeys → f (.object left) = f (.object right)) :
    Respects (SameRecord keys same) f := by
  intro left right hsame hright
  cases hsame with
  | refl => rfl
  | object hmembers =>
    apply h _ _ _ hright
    intro key hkey
    cases hright with
    | object hkeys _ => exact hmembers.lookup hkeys hkey

variable {same : Json → Json → Prop} {left right : List (String × Json)} {key : String}

theorem lookup_cases (hrel : Option.Rel same (left.lookup key) (right.lookup key))
    (hright : (Json.object right).UniqueKeys) :
    (left.lookup key = none ∧ right.lookup key = none) ∨
      ∃ a b, left.lookup key = some a ∧ right.lookup key = some b ∧ same a b ∧ b.UniqueKeys := by
  cases hleft : left.lookup key with
  | none =>
    rw [hleft] at hrel
    cases hfound : right.lookup key with
    | none => exact Or.inl ⟨rfl, rfl⟩
    | some b =>
      rw [hfound] at hrel
      cases hrel
  | some a =>
    rw [hleft] at hrel
    cases hfound : right.lookup key with
    | none =>
      rw [hfound] at hrel
      cases hrel
    | some b =>
      rw [hfound] at hrel
      cases hrel with
      | some hsame =>
        cases hright with
        | object _ hvalues =>
          exact Or.inr ⟨a, b, rfl, rfl, hsame, hvalues _ (Json.mem_of_lookup_eq_some hfound)⟩

theorem requiredWith_congr {check : Json.Path → Json → Check α} {path : Json.Path}
    (hrel : Option.Rel same (left.lookup key) (right.lookup key))
    (hright : (Json.object right).UniqueKeys) (hcheck : Respects same (check (path.key key))) :
    requiredWith check path left key = requiredWith check path right key := by
  rcases lookup_cases hrel hright with ⟨hleft, hfound⟩ | ⟨a, b, hleft, hfound, hsame, hb⟩
  · simp only [requiredWith, required, Json.member?, hleft, hfound]
  · simp only [requiredWith, required, Json.member?, hleft, hfound]
    exact hcheck a b hsame hb

theorem optionalWith_congr {check : Json.Path → Json → Check α} {path : Json.Path}
    (hrel : Option.Rel same (left.lookup key) (right.lookup key))
    (hright : (Json.object right).UniqueKeys) (hcheck : Respects same (check (path.key key))) :
    optionalWith check path left key = optionalWith check path right key := by
  rcases lookup_cases hrel hright with ⟨hleft, hfound⟩ | ⟨a, b, hleft, hfound, hsame, hb⟩
  · simp only [optionalWith, Json.member?, hleft, hfound]
  · simp only [optionalWith, Json.member?, hleft, hfound, hcheck a b hsame hb]

theorem required?_congr {read : Json → Option α}
    (hrel : Option.Rel same (left.lookup key) (right.lookup key))
    (hright : (Json.object right).UniqueKeys) (hread : Respects same read) :
    Json.required? read left key = Json.required? read right key := by
  rcases lookup_cases hrel hright with ⟨hleft, hfound⟩ | ⟨a, b, hleft, hfound, hsame, hb⟩
  · simp only [Json.required?, Json.member?, hleft, hfound]
  · simp only [Json.required?, Json.member?, hleft, hfound, Option.bind_some, hread a b hsame hb]

theorem defaulted?_congr {read : Json → Option α} {absent : α}
    (hrel : Option.Rel same (left.lookup key) (right.lookup key))
    (hright : (Json.object right).UniqueKeys) (hread : Respects same read) :
    Json.defaulted? read absent left key = Json.defaulted? read absent right key := by
  rcases lookup_cases hrel hright with ⟨hleft, hfound⟩ | ⟨a, b, hleft, hfound, hsame, hb⟩
  · simp only [Json.defaulted?, Json.member?, hleft, hfound]
  · simp only [Json.defaulted?, Json.member?, hleft, hfound, hread a b hsame hb]

theorem optional?_congr {read : Json → Option α}
    (hrel : Option.Rel Eq (left.lookup key) (right.lookup key))
    (hright : (Json.object right).UniqueKeys) :
    Json.optional? read left key = Json.optional? read right key := by
  rcases lookup_cases hrel hright with ⟨hleft, hfound⟩ | ⟨a, b, hleft, hfound, rfl, -⟩
  · simp only [Json.optional?, Json.member?, hleft, hfound]
  · simp only [Json.optional?, Json.member?, hleft, hfound]

theorem respects_arrayOf {check : Json.Path → Json → Check Unit}
    (hcheck : ∀ path, Respects same (check path)) (path : Json.Path) :
    Respects (SameItems same) (arrayOf check path) := by
  have hitems : ∀ {left right : List Json}, List.Forall₂ same left right →
      (∀ item ∈ right, item.UniqueKeys) → ∀ i,
      itemsFrom check path i left = itemsFrom check path i right := by
    intro left right h
    induction h with
    | nil => intros; rfl
    | cons hsame _ ih =>
      intro hright i
      rw [itemsFrom, itemsFrom, hcheck _ _ _ hsame (hright _ List.mem_cons_self),
        ih fun item hitem => hright item (List.mem_cons_of_mem _ hitem)]
  intro left right hsame hright
  cases hsame with
  | refl => rfl
  | array h =>
    cases hright with
    | array hvalues => exact hitems h hvalues 0

theorem mapM_congr {γ : Type} {same : γ → γ → Prop} {unique : γ → Prop} {take : γ → Option α}
    (htake : ∀ a b, same a b → unique b → take a = take b) {left right : List γ}
    (h : List.Forall₂ same left right) (hright : ∀ item ∈ right, unique item) :
    left.mapM take = right.mapM take := by
  induction h with
  | nil => rfl
  | cons hsame _ ih =>
    rw [List.mapM_cons, List.mapM_cons, htake _ _ hsame (hright _ List.mem_cons_self),
      ih fun item hitem => hright item (List.mem_cons_of_mem _ hitem)]

theorem respects_arrayOf? {read : Json → Option α} (hread : Respects same read) :
    Respects (SameItems same) (Json.arrayOf? read) := by
  intro left right hsame hright
  cases hsame with
  | refl => rfl
  | array h =>
    cases hright with
    | array hvalues => exact mapM_congr hread h hvalues

/-! ### The walk -/

theorem respects_checkField (path : Json.Path) : Respects SameField (checkField path) := by
  apply respects_record
  intro left right hrel hright
  have hname := requiredWith_congr (hrel "name" (by simp)) hright
    (respects_eq (string (path.key _)))
  have htype := requiredWith_congr (hrel "type" (by simp)) hright
    (respects_eq (string (path.key _)))
  have hlength := optionalWith_congr (hrel "maxLength" (by simp)) hright
    (respects_eq (integer (path.key _)))
  simp only [checkField, object, bind, Except.bind, hname, htype, hlength]

theorem respects_checkQuery (path : Json.Path) : Respects SameQuery (checkQuery path) := by
  apply respects_record
  intro left right hrel hright
  have hname := requiredWith_congr (hrel "name" (by simp)) hright
    (respects_eq (string (path.key _)))
  have htext := requiredWith_congr (hrel "query" (by simp)) hright
    (respects_eq (string (path.key _)))
  simp only [checkQuery, object, bind, Except.bind, hname, htext]

theorem respects_checkQueries (path : Json.Path) : Respects SameQueries (checkQueries path) := by
  have hgroups : ∀ {left right : List (String × Json)},
      List.Forall₂ (fun a b => a.1 = b.1 ∧ SameItems SameQuery a.2 b.2) left right →
      (∀ member ∈ right, member.2.UniqueKeys) → checkGroups path left = checkGroups path right := by
    intro left right h
    induction h with
    | nil => intros; rfl
    | @cons a b _ _ hsame _ ih =>
      intro hright
      obtain ⟨hkey, hitems⟩ := hsame
      have hgroup := respects_arrayOf respects_checkQuery (path.key b.1) _ _ hitems
        (hright b List.mem_cons_self)
      rw [checkGroups, checkGroups, hkey, hgroup,
        ih fun member hmember => hright member (List.mem_cons_of_mem _ hmember)]
  intro left right hsame hright
  cases hsame with
  | refl => rfl
  | object h =>
    cases hright with
    | object _ hvalues => exact hgroups h hvalues

theorem respects_checkModel (path : Json.Path) : Respects SameModel (checkModel path) := by
  apply respects_record
  intro left right hrel hright
  have hname := requiredWith_congr (hrel "name" (by simp)) hright
    (respects_eq (string (path.key _)))
  have htype := optionalWith_congr (hrel "typeName" (by simp)) hright
    (respects_eq (string (path.key _)))
  have htable := optionalWith_congr (hrel "tableName" (by simp)) hright
    (respects_eq (string (path.key _)))
  have hfields := requiredWith_congr (hrel "fields" (by simp)) hright
    (respects_arrayOf respects_checkField (path.key _))
  have hqueries := optionalWith_congr (hrel "queries" (by simp)) hright
    (respects_checkQueries (path.key _))
  simp only [checkModel, object, bind, Except.bind, hname, htype, htable, hfields, hqueries]

theorem respects_check : Respects SameDocument check := by
  apply respects_record
  intro left right hrel hright
  have hname := requiredWith_congr (hrel "datasetName" (by simp)) hright
    (respects_eq (checkName (Json.Path.root.key _)))
  have hmodels := requiredWith_congr (hrel "models" (by simp)) hright
    (respects_arrayOf respects_checkModel (Json.Path.root.key _))
  simp only [check, object, bind, Except.bind, hname, hmodels]

/-! ### The reader -/

theorem respects_fieldDraft : Respects SameField FieldDraft.ofJson? := by
  apply respects_record
  intro left right hrel hright
  have hname := required?_congr (hrel "name" (by simp)) hright (respects_eq Json.string?)
  have htype := required?_congr (hrel "type" (by simp)) hright (respects_eq Json.string?)
  have hlength : Json.optional? Json.int64? left _ = _ :=
    optional?_congr (hrel "maxLength" (by simp)) hright
  simp only [FieldDraft.ofJson?, Json.record?, bind, Option.bind, hname, htype, hlength]

theorem respects_queryDraft : Respects SameQuery QueryDraft.ofJson? := by
  apply respects_record
  intro left right hrel hright
  have hname := required?_congr (hrel "name" (by simp)) hright (respects_eq Json.string?)
  have htext := required?_congr (hrel "query" (by simp)) hright (respects_eq Json.string?)
  simp only [QueryDraft.ofJson?, Json.record?, bind, Option.bind, hname, htext]

theorem respects_queryGroups : Respects SameQueries QueryGroup.listOfJson? := by
  intro left right hsame hright
  cases hsame with
  | refl => rfl
  | object h =>
    cases hright with
    | object _ hvalues =>
      refine mapM_congr ?_ h hvalues
      rintro ⟨key, a⟩ ⟨_, b⟩ ⟨rfl, hitems⟩ hb
      rw [QueryGroup.ofMember?, QueryGroup.ofMember?,
        respects_arrayOf? respects_queryDraft a b hitems hb]

theorem respects_modelDraft : Respects SameModel ModelDraft.ofJson? := by
  apply respects_record
  intro left right hrel hright
  have hname := required?_congr (hrel "name" (by simp)) hright (respects_eq Json.string?)
  have htype : Json.optional? Json.string? left _ = _ :=
    optional?_congr (hrel "typeName" (by simp)) hright
  have htable : Json.optional? Json.string? left _ = _ :=
    optional?_congr (hrel "tableName" (by simp)) hright
  have hfields := required?_congr (hrel "fields" (by simp)) hright
    (respects_arrayOf? respects_fieldDraft)
  have hgroups : Json.defaulted? QueryGroup.listOfJson? [] left _ = _ :=
    defaulted?_congr (hrel "queries" (by simp)) hright respects_queryGroups
  simp only [ModelDraft.ofJson?, Json.record?, bind, Option.bind, hname, htype, htable, hfields,
    hgroups]

theorem respects_datasetDraft : Respects SameDocument DatasetDraft.ofJson? := by
  apply respects_record
  intro left right hrel hright
  have hname := required?_congr (hrel "datasetName" (by simp)) hright (respects_eq Json.string?)
  have hmodels := required?_congr (hrel "models" (by simp)) hright
    (respects_arrayOf? respects_modelDraft)
  simp only [DatasetDraft.ofJson?, Json.record?, bind, Option.bind, hname, hmodels]

theorem respects_read : Respects SameDocument read := by
  intro left right hsame hright
  rw [read, read, respects_check left right hsame hright,
    respects_datasetDraft left right hsame hright]

end Respects

/-! ### Results -/

theorem respects_definition : Respects SameDocument Definition.ofJson := by
  intro left right hsame hright
  rw [Definition.ofJson, Definition.ofJson, respects_read left right hsame hright]

theorem respects_compile (options : Options) :
    Respects SameDocument (Definition.compile options) := by
  intro left right hsame hright
  rw [Definition.compile, Definition.compile, respects_definition left right hsame hright]

/-- In values that come from a text every key is there once, so nothing is asked of the texts. -/
theorem compileText_eq_of_sameDocument (options : Options) {text other : String} {left right : Json}
    (htext : Json.ofText text = .ok left) (hother : Json.ofText other = .ok right)
    (hsame : SameDocument left right) :
    Definition.compileText options text = Definition.compileText options other := by
  have hread := respects_definition left right hsame (Json.uniqueKeys_of_ofLexed hother)
  simp only [Definition.compileText, Definition.ofText, htext, hother, Definition.ofRead, hread]

/-- Documents that differ only in unknown keys and in the order of known ones give the same draft or
the same report, and the same dataset or the same error under every choice of options.  It is enough
that one of the two has each key once.  What is to be included has no part in a compilation. -/
theorem sameDocument_results :
    (∀ left right, SameDocument left right → right.UniqueKeys →
      read left = read right ∧ Definition.ofJson left = Definition.ofJson right ∧
      ∀ options, Definition.compile options left = Definition.compile options right) ∧
    ∀ (options : Options) (includes : List String) (document : Json),
      Definition.compile { options with includes := includes } document =
        Definition.compile options document := by
  constructor
  · intro left right hsame hright
    exact ⟨respects_read left right hsame hright, respects_definition left right hsame hright,
      fun options => respects_compile options left right hsame hright⟩
  · -- of the options only the check of keys is handed on to the models
    intro options includes document
    rfl

/-- The first document has the keys in another order, and unknown ones that are known elsewhere. -/
theorem sameDocument_results_annotated :
    let annotated : Json := .object
      [("name", .string "not it"),
       ("models", .array [.object
         [("queries", .object [("find", .array [.object
            [("query", .string "SELECT 1"), ("type", .null), ("name", .string "one")]])]),
          ("fields", .array [.object
            [("type", .string "PrimaryKey"), ("query", .object [("name", .null)]),
             ("name", .string "id")]]),
          ("models", .array [.null]),
          ("name", .string "Item")]]),
       ("datasetName", .string "shop")]
    let plain : Json := .object
      [("datasetName", .string "shop"),
       ("models", .array [.object
         [("name", .string "Item"),
          ("fields", .array [.object [("name", .string "id"), ("type", .string "PrimaryKey")]]),
          ("queries", .object [("find", .array [.object
            [("name", .string "one"), ("query", .string "SELECT 1")]])])]])]
    SameDocument annotated plain ∧ plain.UniqueKeys ∧
    read annotated = .ok ⟨"shop", [⟨"Item", none, none, [⟨"id", "PrimaryKey", none⟩],
      [⟨"find", [⟨"one", "SELECT 1"⟩]⟩]⟩]⟩ ∧
    ∀ includes, Definition.compile ⟨.lazy, includes⟩ annotated =
      Definition.compile ⟨.lazy, []⟩ plain := by
  intro annotated plain
  have hfield : SameField
      (.object [("type", .string "PrimaryKey"), ("query", .object [("name", .null)]),
        ("name", .string "id")])
      (.object [("name", .string "id"), ("type", .string "PrimaryKey")]) :=
    .object ⟨_, .swap _ _ [], .cons ⟨rfl, rfl⟩ (.cons ⟨rfl, rfl⟩ .nil)⟩
  have hquery : SameQuery
      (.object [("query", .string "SELECT 1"), ("type", .null), ("name", .string "one")])
      (.object [("name", .string "one"), ("query", .string "SELECT 1")]) :=
    .object ⟨_, .swap _ _ [], .cons ⟨rfl, rfl⟩ (.cons ⟨rfl, rfl⟩ .nil)⟩
  have hsame : SameDocument annotated plain := by
    refine .object ⟨_, .swap _ _ [], .cons ⟨rfl, .array (.cons ?_ .nil)⟩ (.cons ⟨rfl, rfl⟩ .nil)⟩
    exact .object ⟨_, List.reverse_perm _,
      .cons ⟨rfl, .object (.cons ⟨rfl, .array (.cons hquery .nil)⟩ .nil)⟩
        (.cons ⟨rfl, .array (.cons hfield .nil)⟩ (.cons ⟨rfl, rfl⟩ .nil))⟩
  have hplain : plain.UniqueKeys := Json.uniqueKeys_merged plain
  obtain ⟨hread, -, hcompile⟩ := sameDocument_results.1 annotated plain hsame hplain
  refine ⟨hsame, hplain, hread.trans rfl, ?_⟩
  intro includes
  rw [hcompile, ← sameDocument_results.2 ⟨.lazy, []⟩ includes plain]

end Schema

end DatasetCompiler
