import DatasetCompiler.Proofs.Fault
import Mathlib.Data.List.Nodup

/-!
# Query groups

Compiling a model puts the queries of all its groups into one list, and the queries of one type are
later found by filtering that list.  Nothing in the list marks where a group ends.  The filter gives
back exactly one group because a compiled query has the type of its group, because different types
have different keys, and because no two groups of a model share a key.

The list is taken apart into blocks, each of queries of one type.
-/

namespace DatasetCompiler

/-! ### Successful runs -/

section Runs

variable {ε ε' α β : Type}

theorem bind_eq_ok_iff {first : Except ε α} {next : α → Except ε β} {result : β} :
    (first >>= next) = .ok result ↔ ∃ value, first = .ok value ∧ next value = .ok result := by
  cases first with
  | error e =>
    constructor
    · intro h
      cases h
    · rintro ⟨value, hvalue, -⟩
      cases hvalue
  | ok value =>
    constructor
    · intro h
      exact ⟨value, rfl, h⟩
    · rintro ⟨found, hfound, hnext⟩
      obtain rfl := Except.ok.inj hfound
      exact hnext

theorem mapError_eq_ok_iff {result : Except ε α} {place : ε → ε'} {value : α} :
    result.mapError place = .ok value ↔ result = .ok value := by
  cases result <;> simp [Except.mapError]

theorem mapM_eq_ok_iff {step : α → Except ε β} {items : List α} {results : List β} :
    items.mapM step = .ok results ↔
      List.Forall₂ (fun item result => step item = .ok result) items results := by
  induction items generalizing results with
  | nil =>
    rw [List.mapM_nil, List.forall₂_nil_left_iff]
    constructor
    · intro h
      exact (Except.ok.inj h).symm
    · rintro rfl
      rfl
  | cons item items ih =>
    rw [List.mapM_cons, bind_eq_ok_iff]
    simp only [bind_eq_ok_iff, ih]
    constructor
    · rintro ⟨value, hvalue, values, hvalues, hresults⟩
      obtain rfl := Except.ok.inj hresults
      exact .cons hvalue hvalues
    · intro h
      cases h with
      | cons hvalue hvalues => exact ⟨_, hvalue, _, hvalues, rfl⟩

theorem forall₂_exists_of_mem {good : α → β → Prop} {items : List α} {results : List β}
    (h : List.Forall₂ good items results) {item : α} (hitem : item ∈ items) :
    ∃ result ∈ results, good item result := by
  induction h with
  | nil => cases hitem
  | @cons first result items results hgood _ ih =>
    rcases List.mem_cons.1 hitem with rfl | hmem
    · exact ⟨result, List.mem_cons_self, hgood⟩
    · obtain ⟨found, hfound, hgood⟩ := ih hmem
      exact ⟨found, List.mem_cons_of_mem _ hfound, hgood⟩

end Runs

/-! ### Blocks -/

/-- Queries of one type that stand together. -/
structure QueryBlock where
  type : QueryType
  queries : List Query
  uniform : ∀ query ∈ queries, query.type = type

namespace QueryBlock

def flatten (blocks : List QueryBlock) : List Query := blocks.flatMap (·.queries)

theorem filter_queries_self (block : QueryBlock) :
    block.queries.filter (·.type == block.type) = block.queries := by
  apply List.filter_eq_self.2
  intro query hquery
  simp [block.uniform query hquery]

theorem filter_queries_of_ne {block : QueryBlock} {type : QueryType} (h : block.type ≠ type) :
    block.queries.filter (·.type == type) = [] := by
  apply List.filter_eq_nil_iff.2
  intro query hquery
  simp [block.uniform query hquery, h]

theorem filter_flatten_of_notMem {blocks : List QueryBlock} {type : QueryType}
    (h : type ∉ blocks.map (·.type)) : (flatten blocks).filter (·.type == type) = [] := by
  rw [flatten, List.filter_flatMap, List.flatMap_eq_nil_iff]
  intro block hblock
  apply filter_queries_of_ne
  rintro rfl
  exact h (List.mem_map_of_mem hblock)

/-- With one block for each type, filtering by a type gives its block. -/
theorem filter_flatten_of_mem {blocks : List QueryBlock} (hnodup : (blocks.map (·.type)).Nodup)
    {block : QueryBlock} (h : block ∈ blocks) :
    (flatten blocks).filter (·.type == block.type) = block.queries := by
  obtain ⟨before, after, rfl⟩ := List.append_of_mem h
  rw [List.map_append, List.map_cons, List.nodup_middle, List.nodup_cons] at hnodup
  have hbefore : block.type ∉ before.map (·.type) := fun hmem =>
    hnodup.1 (List.mem_append_left _ hmem)
  have hafter : block.type ∉ after.map (·.type) := fun hmem =>
    hnodup.1 (List.mem_append_right _ hmem)
  have hsplit : flatten (before ++ block :: after) =
      flatten before ++ (block.queries ++ flatten after) := by
    simp [flatten]
  rw [hsplit, List.filter_append, List.filter_append, filter_flatten_of_notMem hbefore,
    filter_flatten_of_notMem hafter, filter_queries_self, List.nil_append, List.append_nil]

theorem flatten_eq_flatMap_filter {blocks : List QueryBlock}
    (hnodup : (blocks.map (·.type)).Nodup) :
    flatten blocks =
      (blocks.map (·.type)).flatMap fun type => (flatten blocks).filter (·.type == type) := by
  rw [List.flatMap_map]
  apply List.flatMap_congr
  intro block hblock
  exact (filter_flatten_of_mem hnodup hblock).symm

theorem queries_infix_flatten {blocks : List QueryBlock} {block : QueryBlock} (h : block ∈ blocks) :
    block.queries <:+: flatten blocks := by
  obtain ⟨before, after, rfl⟩ := List.append_of_mem h
  refine ⟨flatten before, flatten after, ?_⟩
  simp [flatten]

end QueryBlock

/-! ### Groups become blocks -/

/-- The entries of the group, compiled one by one under the type that has its key. -/
def QueryGroup.CompiledAs (group : QueryGroup) (block : QueryBlock) : Prop :=
  block.type.key = group.key ∧
    List.Forall₂ (fun entry query => Query.compile block.type entry.name entry.text = .ok query)
      group.entries block.queries

theorem QueryGroup.exists_block {group : QueryGroup} {queries : List Query}
    (h : group.compile = .ok queries) :
    ∃ block : QueryBlock, group.CompiledAs block ∧ block.queries = queries := by
  obtain ⟨type, htype, hentries⟩ := bind_eq_ok_iff.1 h
  have hkey : type.key = group.key := group.reports_type.good_of_ok htype
  have hqueries : List.Forall₂
      (fun entry query => Query.compile type entry.name entry.text = .ok query)
      group.entries queries := by
    refine (mapM_eq_ok_iff.1 hentries).imp ?_
    intro entry query hquery
    exact mapError_eq_ok_iff.1 hquery
  have huniform : ∀ query ∈ queries, query.type = type := by
    intro query hquery
    obtain ⟨entry, -, hcompiled⟩ := forall₂_exists_of_mem hqueries.flip hquery
    exact (Query.eq_of_compile_eq_ok hcompiled).1
  exact ⟨⟨type, queries, huniform⟩, ⟨hkey, hqueries⟩, rfl⟩

theorem exists_blocks_of_parts {groups : List QueryGroup} {parts : List (List Query)}
    (h : List.Forall₂ (fun group part => group.compile = .ok part) groups parts) :
    ∃ blocks, List.Forall₂ QueryGroup.CompiledAs groups blocks ∧
      QueryBlock.flatten blocks = parts.flatten := by
  induction h with
  | nil => exact ⟨[], .nil, rfl⟩
  | cons hgroup _ ih =>
    obtain ⟨block, hblock, rfl⟩ := QueryGroup.exists_block hgroup
    obtain ⟨blocks, hblocks, hflatten⟩ := ih
    refine ⟨block :: blocks, .cons hblock hblocks, ?_⟩
    rw [List.flatten_cons, ← hflatten]
    rfl

namespace ModelDraft

theorem exists_blocks {check : KeyCheck} {draft : ModelDraft} {model : Model}
    (h : draft.compile check = .ok model) :
    ∃ blocks, List.Forall₂ QueryGroup.CompiledAs draft.groups blocks ∧
      model.queries = QueryBlock.flatten blocks := by
  obtain ⟨fields, -, hrest⟩ := bind_eq_ok_iff.1 h
  obtain ⟨-, -, hrest⟩ := bind_eq_ok_iff.1 hrest
  obtain ⟨queries, hqueries, hmodel⟩ := bind_eq_ok_iff.1 hrest
  obtain ⟨parts, hparts, hflatten⟩ := bind_eq_ok_iff.1 (mapError_eq_ok_iff.1 hqueries)
  obtain ⟨blocks, hblocks, hsame⟩ := exists_blocks_of_parts (mapM_eq_ok_iff.1 hparts)
  refine ⟨blocks, hblocks, ?_⟩
  obtain rfl := Except.ok.inj hmodel
  obtain rfl := Except.ok.inj hflatten
  exact hsame.symm

theorem map_key_blocks {groups : List QueryGroup} {blocks : List QueryBlock}
    (h : List.Forall₂ QueryGroup.CompiledAs groups blocks) :
    (blocks.map (·.type)).map (·.key) = groups.map (·.key) := by
  induction h with
  | nil => rfl
  | cons hblock _ ih =>
    rw [List.map_cons, List.map_cons, List.map_cons, ih, hblock.1]

end ModelDraft

/-! ### All types together -/

theorem Model.perm_flatMap_queriesOf (m : Model) :
    m.queries.Perm (QueryType.all.flatMap m.queriesOf) := by
  apply List.perm_iff_count.2
  intro query
  rw [List.count_flatMap]
  -- of the five lists only the one of the query's own type can hold it
  have hown : (m.queriesOf query.type).count query = m.queries.count query :=
    List.count_filter (by simp)
  have hother : ∀ type, query.type ≠ type → (m.queriesOf type).count query = 0 := by
    intro type hne
    apply List.count_eq_zero.2
    intro hmem
    have htype := (List.mem_filter.1 hmem).2
    exact hne (by simpa using htype)
  cases htype : query.type <;> rw [htype] at hown hother <;>
    simp [QueryType.all, hown, hother]

namespace ModelDraft

/-- The queries of a compiled model, by type.  Those of one type are the compiled entries of the
group with the key of the type, in order, and stand together; there are none if there is no such
group.  All queries are these lists one after the other, as the groups stand in the definition, and
so the same queries as the lists of all types together. -/
theorem queriesOf_compile {check : KeyCheck} {draft : ModelDraft} {model : Model}
    (hkeys : (draft.groups.map (·.key)).Nodup) (hcompile : draft.compile check = .ok model) :
    (∀ type : QueryType,
      (∀ group ∈ draft.groups, group.key = type.key →
        List.Forall₂ (fun entry query => Query.compile type entry.name entry.text = .ok query)
          group.entries (model.queriesOf type)) ∧
      ((∀ group ∈ draft.groups, group.key ≠ type.key) → model.queriesOf type = []) ∧
      model.queriesOf type <:+: model.queries) ∧
    (∃ types : List QueryType, types.map (·.key) = draft.groups.map (·.key) ∧
      model.queries = types.flatMap model.queriesOf) ∧
    model.queries.Perm (QueryType.all.flatMap model.queriesOf) := by
  obtain ⟨blocks, hblocks, hqueries⟩ := exists_blocks hcompile
  have htypes : (blocks.map (·.type)).map (·.key) = draft.groups.map (·.key) :=
    map_key_blocks hblocks
  have hnodup : (blocks.map (·.type)).Nodup := by
    rw [← htypes] at hkeys
    exact hkeys.of_map
  have hblock : ∀ block ∈ blocks, model.queriesOf block.type = block.queries := by
    intro block hmem
    rw [Model.queriesOf, hqueries]
    exact QueryBlock.filter_flatten_of_mem hnodup hmem
  have habsent : ∀ type, type ∉ blocks.map (·.type) → model.queriesOf type = [] := by
    intro type hmem
    rw [Model.queriesOf, hqueries]
    exact QueryBlock.filter_flatten_of_notMem hmem
  refine ⟨fun type => ⟨?_, ?_, ?_⟩, ⟨blocks.map (·.type), htypes, ?_⟩,
    model.perm_flatMap_queriesOf⟩
  · intro group hgroup hkey
    obtain ⟨block, hmem, hcompiled⟩ := forall₂_exists_of_mem hblocks hgroup
    obtain rfl : block.type = type := QueryType.key_injective (hcompiled.1.trans hkey)
    rw [hblock block hmem]
    exact hcompiled.2
  · intro hnone
    apply habsent
    intro hmem
    have hkey : type.key ∈ draft.groups.map (·.key) := htypes ▸ List.mem_map_of_mem hmem
    obtain ⟨group, hgroup, heq⟩ := List.mem_map.1 hkey
    exact hnone group hgroup heq
  · by_cases htype : type ∈ blocks.map (·.type)
    · obtain ⟨block, hmem, rfl⟩ := List.mem_map.1 htype
      rw [hblock block hmem, hqueries]
      exact QueryBlock.queries_infix_flatten hmem
    · rw [habsent type htype]
      exact List.nil_infix
  · rw [hqueries]
    refine (QueryBlock.flatten_eq_flatMap_filter hnodup).trans ?_
    rw [← hqueries]
    rfl

/-- Groups in another order than the types, one of them empty. -/
theorem queriesOf_compile_reordered :
    let draft : ModelDraft := ⟨"Tag", none, none, [⟨"id", "PrimaryKey", none⟩],
      [⟨"update", [⟨"rename", "SET label = \x7bl:Text\x7d"⟩]⟩, ⟨"count", []⟩,
        ⟨"find", [⟨"first", ""⟩, ⟨"last", "ORDER BY id"⟩]⟩]⟩
    let rename : Query := ⟨.update, "rename", "SET label = ?", [⟨1, "l", .text⟩]⟩
    let first : Query := ⟨.find, "first", "", []⟩
    let last : Query := ⟨.find, "last", "ORDER BY id", []⟩
    let model : Model := ⟨"Tag", [⟨"id", .primaryKey, 0⟩], [rename, first, last], none, none⟩
    (draft.groups.map (·.key)).Nodup ∧ draft.compile .eager = .ok model ∧
    List.Forall₂
      (fun (entry : QueryDraft) query => Query.compile .find entry.name entry.text = .ok query)
      [⟨"first", ""⟩, ⟨"last", "ORDER BY id"⟩] [first, last] ∧
    model.queriesOf .select = [] ∧
    [rename, first, last].Perm (QueryType.all.flatMap model.queriesOf) := by
  intro draft rename first last model
  have hkeys : (draft.groups.map (·.key)).Nodup := by decide
  have hcompile : draft.compile .eager = .ok model := by decide +kernel
  obtain ⟨htypes, -, hperm⟩ := queriesOf_compile hkeys hcompile
  refine ⟨hkeys, hcompile, ?_, (htypes .select).2.1 (by decide), hperm⟩
  exact (htypes .find).1 ⟨"find", [⟨"first", ""⟩, ⟨"last", "ORDER BY id"⟩]⟩ (by decide) rfl

end ModelDraft

end DatasetCompiler
