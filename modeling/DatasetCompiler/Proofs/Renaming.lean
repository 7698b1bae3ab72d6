import DatasetCompiler.Proofs.Marker

/-!
# Renaming placeholders

The names of placeholders end up as the names of parameters and nowhere else.  Renaming is said of
texts alone, without cutting them: the first placeholder gets a new name, and the text behind it is
renamed in the same way.  Since a placeholder cuts its text in two wherever it stands, the renamed
text has its placeholders between the same literals, with the same types, so it has the same
compiled text, the same positions and the same first unknown type.
-/

namespace DatasetCompiler

open QueryText

/-- The second text is the first one with the names of its placeholders, from left to right,
replaced by the names given. -/
inductive Renamed : String → List String → String → Prop
  | free {raw : String} (hfree : ¬ HasPlaceholder raw) : Renamed raw [] raw
  | placeholder {raw : String} (o : Occurrence raw) (hfirst : ¬ HasPlaceholder o.before)
      {new : String} (hnew : Text.IsWordText new) {names : List String} {after : String}
      (hafter : Renamed o.after names after) :
      Renamed raw (new :: names)
        (o.before ++ (Segment.placeholder new o.typeName).source ++ after)

namespace Occurrence

theorem placeholders_eq {raw : String} (o : Occurrence raw) :
    placeholders (segments raw) =
      placeholders (segments o.before) ++
        (o.name, o.typeName) :: placeholders (segments o.after) := by
  rw [o.segments_eq, placeholders_append]
  rfl

theorem rank_eq_zero_iff {raw : String} {o : Occurrence raw} :
    o.rank = 0 ↔ ¬ HasPlaceholder o.before := by
  rw [rank, List.length_eq_zero_iff, placeholders_eq_nil_iff]

/-- A text has only one placeholder with none before it. -/
theorem eq_of_first {raw : String} {o o' : Occurrence raw} (h : ¬ HasPlaceholder o.before)
    (h' : ¬ HasPlaceholder o'.before) : o = o' := by
  obtain ⟨k, hk⟩ := List.mem_iff_getElem?.1 o.mem_list
  obtain ⟨k', hk'⟩ := List.mem_iff_getElem?.1 o'.mem_list
  have hzero : k = 0 := (rank_of_getElem?_list hk).symm.trans (rank_eq_zero_iff.2 h)
  have hzero' : k' = 0 := (rank_of_getElem?_list hk').symm.trans (rank_eq_zero_iff.2 h')
  rw [hzero] at hk
  rw [hzero', hk] at hk'
  exact Option.some.inj hk'

theorem exists_first {raw : String} (h : HasPlaceholder raw) :
    ∃ o : Occurrence raw, ¬ HasPlaceholder o.before := by
  have hne : list raw ≠ [] := fun hnil => list_eq_nil_iff.1 hnil h
  obtain ⟨o, later, hlist⟩ := List.exists_cons_of_ne_nil hne
  have hrank : o.rank = 0 := rank_of_getElem?_list (by rw [hlist]; rfl)
  exact ⟨o, rank_eq_zero_iff.1 hrank⟩

/-- The placeholder under a new name, with another text behind it. -/
def renamed {raw : String} (o : Occurrence raw) {new : String} (hnew : Text.IsWordText new)
    (after : String) :
    Occurrence (o.before ++ (Segment.placeholder new o.typeName).source ++ after) :=
  ⟨o.before, new, o.typeName, after, hnew, o.typeName_word, rfl⟩

end Occurrence

namespace Renamed

variable {raw raw' raw'' : String} {names : List String}

/-! ### What a renaming keeps -/

theorem marked_eq (h : Renamed raw names raw') : marked raw' = marked raw := by
  induction h with
  | free hfree => rfl
  | placeholder o hfirst hnew hafter ih =>
    rw [o.marked_eq, (o.renamed hnew _).marked_eq, ← ih]
    rfl

theorem typeNames_eq (h : Renamed raw names raw') :
    (placeholders (segments raw')).map Prod.snd = (placeholders (segments raw)).map Prod.snd := by
  induction h with
  | free hfree => rfl
  | placeholder o hfirst hnew hafter ih =>
    rw [o.placeholders_eq, (o.renamed hnew _).placeholders_eq, List.map_append, List.map_append,
      List.map_cons, List.map_cons, ← ih]
    rfl

theorem names_eq (h : Renamed raw names raw') :
    (placeholders (segments raw')).map Prod.fst = names := by
  induction h with
  | free hfree => rw [Occurrence.placeholders_eq_nil_iff.2 hfree, List.map_nil]
  | placeholder o hfirst hnew hafter ih =>
    have hbefore : placeholders (segments o.before) = [] :=
      Occurrence.placeholders_eq_nil_iff.2 hfirst
    rw [(o.renamed hnew _).placeholders_eq, Occurrence.renamed, hbefore, List.nil_append,
      List.map_cons, ih]

theorem length_list_eq (h : Renamed raw names raw') :
    (Occurrence.list raw').length = (Occurrence.list raw).length := by
  have hlength := congrArg List.length h.typeNames_eq
  rw [Occurrence.length_list, Occurrence.length_list]
  simpa using hlength

theorem unknownTypes_eq (h : Renamed raw names raw') :
    unknownTypes (segments raw') = unknownTypes (segments raw) := by
  rw [unknownTypes, h.typeNames_eq, unknownTypes]

/-! ### Every choice of names is a renaming -/

theorem length_eq (h : Renamed raw names raw') : names.length = (Occurrence.list raw).length := by
  rw [← h.length_list_eq, Occurrence.length_list, ← h.names_eq, List.length_map]

theorem isWordText (h : Renamed raw names raw') : ∀ new ∈ names, Text.IsWordText new := by
  induction h with
  | free hfree => simp
  | placeholder o hfirst hnew hafter ih =>
    intro new hmem
    rcases List.mem_cons.1 hmem with rfl | hmem
    · exact hnew
    · exact ih new hmem

theorem unique (h : Renamed raw names raw') (h' : Renamed raw names raw'') : raw' = raw'' := by
  induction h generalizing raw'' with
  | free hfree =>
    cases h' with
    | free _ => rfl
  | placeholder o hfirst hnew hafter ih =>
    cases h' with
    | placeholder o' hfirst' _ hafter' =>
      obtain rfl := Occurrence.eq_of_first hfirst hfirst'
      rw [ih hafter']

theorem exists_of_length (hlength : names.length = (Occurrence.list raw).length)
    (hwords : ∀ new ∈ names, Text.IsWordText new) : ∃ raw', Renamed raw names raw' := by
  induction names generalizing raw with
  | nil =>
    have hnil : Occurrence.list raw = [] := List.eq_nil_of_length_eq_zero hlength.symm
    exact ⟨raw, .free (Occurrence.list_eq_nil_iff.1 hnil)⟩
  | cons new names ih =>
    have hsome : HasPlaceholder raw := by
      by_contra hfree
      rw [Occurrence.list_eq_nil_iff.2 hfree] at hlength
      cases hlength
    obtain ⟨o, hfirst⟩ := Occurrence.exists_first hsome
    have hafter : names.length = (Occurrence.list o.after).length := by
      rw [Occurrence.length_list] at hlength ⊢
      rw [o.placeholders_eq, Occurrence.placeholders_eq_nil_iff.2 hfirst] at hlength
      simpa using hlength
    obtain ⟨after, hrenamed⟩ := ih hafter fun n hn => hwords n (List.mem_cons_of_mem _ hn)
    exact ⟨_, .placeholder o hfirst (hwords new List.mem_cons_self) hrenamed⟩

end Renamed

namespace Query

variable {type : QueryType} {name raw : String} {q : Query}

theorem map_placeholder_of_compile (h : compile type name raw = .ok q) :
    q.params.map (fun p => (p.name, p.type.name)) = placeholders (segments raw) := by
  obtain ⟨-, -, -, hparams⟩ := eq_of_compile_eq_ok h
  have hfirst := congrArg (List.map Prod.fst) hparams
  rw [List.map_map, List.zipIdx_map_fst] at hfirst
  exact hfirst

theorem map_name_of_compile (h : compile type name raw = .ok q) :
    q.params.map (·.name) = (placeholders (segments raw)).map Prod.fst := by
  rw [← map_placeholder_of_compile h, List.map_map]
  rfl

theorem map_typeName_of_compile (h : compile type name raw = .ok q) :
    (q.params.map (·.type)).map FieldType.name = (placeholders (segments raw)).map Prod.snd := by
  rw [← map_placeholder_of_compile h, List.map_map, List.map_map]
  rfl

/-- Names of placeholders only name parameters. -/
theorem compile_renamed (raw : String) (names : List String) :
    ((∃! raw', Renamed raw names raw') ↔
      names.length = (Occurrence.list raw).length ∧ ∀ new ∈ names, Text.IsWordText new) ∧
    ∀ raw', Renamed raw names raw' → ∀ type name,
      ((∃ q', compile type name raw' = .ok q') ↔ ∃ q, compile type name raw = .ok q) ∧
      (∀ q q', compile type name raw = .ok q → compile type name raw' = .ok q' →
        q'.text = q.text ∧ q'.params.length = q.params.length ∧
        q'.params.map (·.position) = q.params.map (·.position) ∧
        q'.params.map (·.type) = q.params.map (·.type) ∧
        q'.params.map (·.name) = names) ∧
      ∀ e, compile type name raw' = .error e ↔ compile type name raw = .error e := by
  constructor
  · constructor
    · rintro ⟨raw', h, -⟩
      exact ⟨h.length_eq, h.isWordText⟩
    · rintro ⟨hlength, hwords⟩
      obtain ⟨raw', h⟩ := Renamed.exists_of_length hlength hwords
      exact ⟨raw', h, fun other hother => hother.unique h⟩
  · intro raw' h type name
    refine ⟨?_, ?_, ?_⟩
    · rw [exists_compile_eq_ok_iff, exists_compile_eq_ok_iff, h.unknownTypes_eq]
    · intro q q' hq hq'
      obtain ⟨-, -, htext, -⟩ := eq_of_compile_eq_ok hq
      obtain ⟨-, -, htext', -⟩ := eq_of_compile_eq_ok hq'
      have hposition : q'.params.map (·.position) = q.params.map (·.position) := by
        rw [map_position_of_compile hq', map_position_of_compile hq, h.length_list_eq]
      have htype : (q'.params.map (·.type)).map FieldType.name =
          (q.params.map (·.type)).map FieldType.name := by
        rw [map_typeName_of_compile hq', map_typeName_of_compile hq, h.typeNames_eq]
      refine ⟨?_, ?_, hposition, List.map_injective_iff.2 FieldType.name_injective htype, ?_⟩
      · rw [htext, htext']
        exact h.marked_eq
      · rw [length_params_of_compile hq', length_params_of_compile hq, h.length_list_eq]
      · rw [map_name_of_compile hq', h.names_eq]
    · intro e
      rw [compile_eq_error_iff, compile_eq_error_iff, h.unknownTypes_eq]

/-- Both placeholders get the name of a type, one of them inside of what looks like a third. -/
theorem compile_renamed_nested :
    Renamed "\x7ba\x7bb:Text\x7d:Text\x7d \x7bc:Real\x7d" ["Text", "Text"]
      "\x7ba\x7bText:Text\x7d:Text\x7d \x7bText:Real\x7d" ∧
    compile .select "q" "\x7ba\x7bb:Text\x7d:Text\x7d \x7bc:Real\x7d" =
      .ok ⟨.select, "q", "\x7ba?:Text\x7d ?", [⟨1, "b", .text⟩, ⟨2, "c", .real⟩]⟩ ∧
    ∃ q, compile .select "q" "\x7ba\x7bText:Text\x7d:Text\x7d \x7bText:Real\x7d" = .ok q ∧
      q.text = "\x7ba?:Text\x7d ?" ∧ q.params.map (·.name) = ["Text", "Text"] ∧
      q.params.map (·.type) = [.text, .real] := by
  let o : Occurrence "\x7ba\x7bb:Text\x7d:Text\x7d \x7bc:Real\x7d" :=
    ⟨"\x7ba", "b", "Text", ":Text\x7d \x7bc:Real\x7d", by decide +kernel, by decide +kernel, rfl⟩
  let o' : Occurrence ":Text\x7d \x7bc:Real\x7d" :=
    ⟨":Text\x7d ", "c", "Real", "", by decide +kernel, by decide +kernel, rfl⟩
  have hword : Text.IsWordText "Text" := by decide +kernel
  have hrest : Renamed o.after ["Text"] (":Text\x7d " ++ "\x7bText:Real\x7d" ++ "") :=
    .placeholder o' (by decide +kernel) hword (.free (by decide +kernel))
  have hrenamed : Renamed "\x7ba\x7bb:Text\x7d:Text\x7d \x7bc:Real\x7d" ["Text", "Text"]
      "\x7ba\x7bText:Text\x7d:Text\x7d \x7bText:Real\x7d" :=
    .placeholder o (by decide +kernel) hword hrest
  have hcompile : compile .select "q" "\x7ba\x7bb:Text\x7d:Text\x7d \x7bc:Real\x7d" =
      .ok ⟨.select, "q", "\x7ba?:Text\x7d ?", [⟨1, "b", .text⟩, ⟨2, "c", .real⟩]⟩ := by
    decide +kernel
  obtain ⟨hok, hquery, -⟩ := (compile_renamed _ _).2 _ hrenamed .select "q"
  obtain ⟨q, hq⟩ := hok.2 ⟨_, hcompile⟩
  obtain ⟨htext, -, -, htype, hname⟩ := hquery _ q hcompile hq
  exact ⟨hrenamed, hcompile, q, hq, htext, hname, htype⟩

end Query

end DatasetCompiler
