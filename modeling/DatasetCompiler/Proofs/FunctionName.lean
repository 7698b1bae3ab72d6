import DatasetCompiler.Naming
import DatasetCompiler.Proofs.NameEquation

/-!
# Names of functions

Seventeen rules name the functions of the generated code.  Each puts a suffix of its own behind the
name of a dataset, of a table or of a model, and these names can be anything, also a name that ends
like a suffix.  Two rules can give the same name only if one suffix ends with the other.  That is so
for two pairs of rules: the suffixes for lists of rows end with those for single rows, and what is
left of them is `_list`.
-/

namespace DatasetCompiler

/-! ### Rules -/

/-- The rules by which functions are named. -/
inductive NamingRule where
  | database (f : DatabaseFunction)
  | table (f : TableFunction)
  | row (f : RowFunction)
deriving DecidableEq, Repr

namespace NamingRule

def suffix : NamingRule → String
  | .database f => f.suffix
  | .table f => f.suffix
  | .row f => f.suffix

def all : List NamingRule :=
  [.database .prepare, .database .deleteAllData] ++ TableFunction.all.map .table ++
    RowFunction.all.map .row

theorem mem_all (rule : NamingRule) : rule ∈ all := by
  rcases rule with f | f | f <;> cases f <;> decide

/-- The rules for single rows, each with the rule for lists of rows. -/
def listed : List (NamingRule × NamingRule) :=
  [(.row .free, .row .listFree), (.row .init, .row .listInit)]

theorem mem_listed_iff {rule list : NamingRule} :
    (rule, list) ∈ listed ↔
      (rule = .row .free ∧ list = .row .listFree) ∨
      (rule = .row .init ∧ list = .row .listInit) := by
  simp [listed]

theorem suffix_of_listed {rule list : NamingRule} (h : (rule, list) ∈ listed) :
    list.suffix = "_list" ++ rule.suffix := by
  rcases mem_listed_iff.1 h with ⟨rfl, rfl⟩ | ⟨rfl, rfl⟩
  · rfl
  · rfl

/-- Of all pairs of different rules, only the listed ones have suffixes that end alike. -/
theorem listed_of_isSuffix {rule other : NamingRule}
    (h : rule.suffix.toList <:+ other.suffix.toList) :
    rule = other ∨ (rule, other) ∈ listed := by
  have hpairs : ∀ rule ∈ all, ∀ other ∈ all,
      rule.suffix.toList <:+ other.suffix.toList → rule = other ∨ (rule, other) ∈ listed := by
    decide +kernel
  exact hpairs rule rule.mem_all other other.mem_all h

theorem base_of_isSuffix {rule other : NamingRule} {base otherBase : String}
    (heq : base ++ rule.suffix = otherBase ++ other.suffix)
    (hsuffix : rule.suffix.toList <:+ other.suffix.toList) :
    (rule = other ∧ base = otherBase) ∨
      ((rule, other) ∈ listed ∧ base = otherBase ++ "_list") := by
  rcases listed_of_isSuffix hsuffix with rfl | hlisted
  · exact Or.inl ⟨rfl, (String.append_left_inj _).1 heq⟩
  · rw [suffix_of_listed hlisted, ← String.append_assoc] at heq
    exact Or.inr ⟨hlisted, (String.append_left_inj _).1 heq⟩

/-- Two rules give one name exactly if they are the same rule on the same base, or if one is listed
with the other and its base ends with `_list`. -/
theorem append_suffix_eq_iff {rule other : NamingRule} {base otherBase : String} :
    base ++ rule.suffix = otherBase ++ other.suffix ↔
      (rule = other ∧ base = otherBase) ∨
      ((rule, other) ∈ listed ∧ base = otherBase ++ "_list") ∨
      ((other, rule) ∈ listed ∧ otherBase = base ++ "_list") := by
  constructor
  · intro heq
    -- both suffixes end the same name, so the longer one ends with the shorter one
    rcases isSuffix_or_isSuffix_of_append_eq heq with hsuffix | hsuffix
    · rcases base_of_isSuffix heq hsuffix with hsame | hlisted
      · exact Or.inl hsame
      · exact Or.inr (Or.inl hlisted)
    · rcases base_of_isSuffix heq.symm hsuffix with ⟨hrule, hbase⟩ | hlisted
      · exact Or.inl ⟨hrule.symm, hbase.symm⟩
      · exact Or.inr (Or.inr hlisted)
  · rintro (⟨rfl, rfl⟩ | ⟨hlisted, rfl⟩ | ⟨hlisted, rfl⟩)
    · rfl
    · rw [suffix_of_listed hlisted, String.append_assoc]
    · rw [suffix_of_listed hlisted, String.append_assoc]

end NamingRule

/-! ### Functions -/

/-- A function of the generated code, with what it is named after. -/
inductive GeneratedFunction where
  | database (d : Dataset) (f : DatabaseFunction)
  | table (m : Model) (f : TableFunction)
  | row (m : Model) (f : RowFunction)

namespace GeneratedFunction

def name : GeneratedFunction → String
  | .database d f => d.databaseFunction f
  | .table m f => m.tableFunction f
  | .row m f => m.rowFunction f

def rule : GeneratedFunction → NamingRule
  | .database _ f => .database f
  | .table _ f => .table f
  | .row _ f => .row f

/-- The string that the rule is applied to.  A table has the name that the user gave it, or else
that of its model. -/
def base : GeneratedFunction → String
  | .database d _ => d.name
  | .table m _ => m.tableOverride.getD m.name
  | .row m _ => m.name

theorem name_eq (g : GeneratedFunction) : g.name = g.base ++ g.rule.suffix := by
  cases g <;> rfl

/-- The first function is for rows of one model and the second for lists of rows of another, and the
first model is called like the second with `_list` behind it. -/
inductive ListClash : GeneratedFunction → GeneratedFunction → Prop where
  | free {m other : Model} (h : m.name = other.name ++ "_list") :
      ListClash (.row m .free) (.row other .listFree)
  | init {m other : Model} (h : m.name = other.name ++ "_list") :
      ListClash (.row m .init) (.row other .listInit)

theorem eq_row_of_rule {g : GeneratedFunction} {f : RowFunction} (h : g.rule = .row f) :
    ∃ m, g = .row m f := by
  cases g with
  | database d found => cases h
  | table m found => cases h
  | row m found => exact ⟨m, by rw [NamingRule.row.inj h]⟩

theorem listClash_iff {g h : GeneratedFunction} :
    ListClash g h ↔ (g.rule, h.rule) ∈ NamingRule.listed ∧ g.base = h.base ++ "_list" := by
  rw [NamingRule.mem_listed_iff]
  constructor
  · intro hclash
    cases hclash with
    | free hname => exact ⟨Or.inl ⟨rfl, rfl⟩, hname⟩
    | init hname => exact ⟨Or.inr ⟨rfl, rfl⟩, hname⟩
  · rintro ⟨⟨hrow, hlist⟩ | ⟨hrow, hlist⟩, hbase⟩
    · obtain ⟨m, rfl⟩ := eq_row_of_rule hrow
      obtain ⟨other, rfl⟩ := eq_row_of_rule hlist
      exact .free hbase
    · obtain ⟨m, rfl⟩ := eq_row_of_rule hrow
      obtain ⟨other, rfl⟩ := eq_row_of_rule hlist
      exact .init hbase

theorem name_eq_iff (g h : GeneratedFunction) :
    g.name = h.name ↔
      (g.rule = h.rule ∧ g.base = h.base) ∨ ListClash g h ∨ ListClash h g := by
  rw [g.name_eq, h.name_eq, NamingRule.append_suffix_eq_iff, listClash_iff, listClash_iff]

end GeneratedFunction

/-! ### The functions of one model and of two -/

namespace Model

/-- All functions of a model. -/
def functions (m : Model) : List GeneratedFunction :=
  TableFunction.all.map (.table m) ++ RowFunction.all.map (.row m)

theorem nodup_rule_functions (m : Model) : (m.functions.map (·.rule)).Nodup := by
  have hrules : m.functions.map (·.rule) =
      TableFunction.all.map .table ++ RowFunction.all.map .row := by
    simp [functions, GeneratedFunction.rule, Function.comp_def]
  rw [hrules]
  decide

theorem eq_of_row_mem_functions {m other : Model} {f : RowFunction}
    (h : .row other f ∈ m.functions) : other = m := by
  simp only [functions, List.mem_append, List.mem_map] at h
  rcases h with ⟨found, -, heq⟩ | ⟨found, -, heq⟩
  · cases heq
  · cases heq
    rfl

theorem name_of_listClash {m other : Model} {g h : GeneratedFunction} (hg : g ∈ m.functions)
    (hh : h ∈ other.functions) (hclash : g.ListClash h) : m.name = other.name ++ "_list" := by
  cases hclash with
  | free hname =>
    rw [← eq_of_row_mem_functions hg, ← eq_of_row_mem_functions hh]
    exact hname
  | init hname =>
    rw [← eq_of_row_mem_functions hg, ← eq_of_row_mem_functions hh]
    exact hname

theorem name_eq_of_clash {m other : Model} {g h : GeneratedFunction} (hg : g ∈ m.functions)
    (hh : h ∈ other.functions) (hrule : g.rule ≠ h.rule) (heq : g.name = h.name) :
    m.name = other.name ++ "_list" ∨ other.name = m.name ++ "_list" := by
  rcases (g.name_eq_iff h).1 heq with ⟨hsame, -⟩ | hclash | hclash
  · exact absurd hsame hrule
  · exact Or.inl (name_of_listClash hg hh hclash)
  · exact Or.inr (name_of_listClash hh hg hclash)

theorem nodup_name_functions (m : Model) : (m.functions.map (·.name)).Nodup := by
  have hrules := m.nodup_rule_functions
  rw [List.Nodup, List.pairwise_map] at hrules ⊢
  refine hrules.imp_of_mem ?_
  intro g h hg hh hrule heq
  -- a name is not its own continuation
  have hself : m.name ≠ m.name ++ "_list" := by
    intro hname
    have hlength := congrArg String.length hname
    simp at hlength
  rcases name_eq_of_clash hg hh hrule heq with hname | hname
  · exact hself hname
  · exact hself hname

end Model

/-- When two functions of the generated code have the same name: if one rule is applied to one
string twice, or if a model is called like another with `_list` behind it and a function for its
rows meets one for the other's lists of rows.  So the fifteen functions of a model have different
names, whatever the model and its table are called, and between different functions of two models
there is only that clash. -/
theorem GeneratedFunction.name_clashes :
    (∀ g h : GeneratedFunction, g.name = h.name ↔
      (g.rule = h.rule ∧ g.base = h.base) ∨ ListClash g h ∨ ListClash h g) ∧
    (∀ m : Model, m.functions.length = 15 ∧ (m.functions.map (·.name)).Nodup) ∧
    ∀ m other : Model, ∀ g ∈ m.functions, ∀ h ∈ other.functions, g.rule ≠ h.rule →
      g.name = h.name → m.name = other.name ++ "_list" ∨ other.name = m.name ++ "_list" := by
  refine ⟨name_eq_iff, fun m => ⟨rfl, m.nodup_name_functions⟩, ?_⟩
  intro m other g hg h hh hrule heq
  exact Model.name_eq_of_clash hg hh hrule heq

/-- The models `User` and `User_list`, with tables of their own. -/
theorem GeneratedFunction.name_clashes_list :
    let user : Model := ⟨"User", [], [], none, some "users"⟩
    let list : Model := ⟨"User_list", [], [], none, some "lists"⟩
    .row list .free ∈ list.functions ∧ .row user .listFree ∈ user.functions ∧
    list.rowFunction .free = user.rowFunction .listFree ∧
    (list.name = user.name ++ "_list" ∨ user.name = list.name ++ "_list") ∧
    list.rowFunction .init ≠ user.tableFunction .insertNew := by
  intro user list
  have hfree : .row list .free ∈ list.functions := by simp [Model.functions, RowFunction.all]
  have hlistFree : .row user .listFree ∈ user.functions := by
    simp [Model.functions, RowFunction.all]
  have hname : list.rowFunction .free = user.rowFunction .listFree :=
    (name_clashes.1 (.row list .free) (.row user .listFree)).2 (Or.inr (Or.inl (.free rfl)))
  refine ⟨hfree, hlistFree, hname, ?_, ?_⟩
  · exact name_clashes.2.2 list user _ hfree _ hlistFree (by simp [rule]) hname
  · intro heq
    rcases (name_clashes.1 (.row list .init) (.table user .insertNew)).1 heq with
      ⟨hrule, -⟩ | hclash | hclash
    · cases hrule
    · cases hclash
    · cases hclash

end DatasetCompiler
