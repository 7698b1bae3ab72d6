import DatasetCompiler.Access
import DatasetCompiler.Statement
import DatasetCompiler.Proofs.Parameter

/-!
# Markers and slots

A statement binds its values by the number of a `?` in it, so the position of a parameter is only
right if it is the ordinal of the marker that replaced its placeholder.  Question marks of the raw
text stay where they are and are counted too: the marker of a placeholder comes later by as many
as stand before the placeholder.  Wrapping the compiled text into a statement changes nothing, as
long as no question mark comes in front.
-/

namespace DatasetCompiler

/-! ### The question marks of a text -/

/-- How many question marks a text has. -/
def markCount (text : String) : Nat := text.toList.count '?'

/-- At this position of a text stands a question mark, the `ordinal`-th one counted from one. -/
def IsMark (text : String) (ordinal position : Nat) : Prop :=
  text.toList[position]? = some '?' ∧ (text.toList.take position).count '?' + 1 = ordinal

@[simp] theorem markCount_append (s t : String) :
    markCount (s ++ t) = markCount s + markCount t := by
  simp [markCount]

theorem markCount_eq_zero_iff {text : String} : markCount text = 0 ↔ '?' ∉ text.toList :=
  List.count_eq_zero

theorem isMark_between (before after : String) :
    IsMark (before ++ "?" ++ after) (markCount before + 1) before.length := by
  have hlength : before.length = before.toList.length := String.length_toList.symm
  constructor
  · simp [hlength]
  · rw [hlength, String.append_assoc, String.toList_append, List.take_left, markCount]

theorem IsMark.ordinal_unique {text : String} {ordinal ordinal' position : Nat}
    (h : IsMark text ordinal position) (h' : IsMark text ordinal' position) :
    ordinal = ordinal' :=
  h.2.symm.trans h'.2

/-- Text around it moves a mark but does not change its ordinal, if no mark comes in front. -/
theorem IsMark.wrap {front text : String} (hfront : '?' ∉ front.toList) {ordinal position : Nat}
    (h : IsMark text ordinal position) (back : String) :
    IsMark (front ++ text ++ back) ordinal (front.length + position) := by
  obtain ⟨hmark, hordinal⟩ := h
  have hlength : front.length = front.toList.length := String.length_toList.symm
  have hposition : position < text.toList.length := (List.getElem?_eq_some_iff.1 hmark).1
  constructor
  · simp only [String.toList_append, List.append_assoc, hlength]
    rw [List.getElem?_append_right (by omega), Nat.add_sub_cancel_left,
      List.getElem?_append_left hposition, hmark]
  · have htake : (front ++ text ++ back).toList.take (front.length + position) =
        front.toList ++ text.toList.take position := by
      simp only [String.toList_append, List.append_assoc, hlength]
      rw [List.take_length_add_append, List.take_append_of_le_length (by omega)]
    rw [htake, List.count_append, List.count_eq_zero.2 hfront, Nat.zero_add, hordinal]

namespace QueryText

/-! ### The compiled text -/

/-- The text with a marker in the place of every placeholder. -/
def marked (raw : String) : String := substitute (segments raw)

@[simp] theorem substitute_nil : substitute [] = "" := rfl

@[simp] theorem substitute_cons (seg : Segment) (segs : List Segment) :
    substitute (seg :: segs) = substituteSegment seg ++ substitute segs := by
  simp [substitute]

@[simp] theorem substitute_append (left right : List Segment) :
    substitute (left ++ right) = substitute left ++ substitute right := by
  simp [substitute]

theorem markCount_placeholder_source {name typeName : String} (hname : Text.IsWordText name)
    (htype : Text.IsWordText typeName) :
    markCount (Segment.placeholder name typeName).source = 0 := by
  rw [markCount_eq_zero_iff, toList_placeholder_source]
  simp [hname.not_mem Text.isWord_questionMark, htype.not_mem Text.isWord_questionMark]

/-- The compiled text has the question marks of the raw text and one more for each placeholder. -/
theorem markCount_substitute {segs : List Segment} (h : ∀ seg ∈ segs, seg.WellFormed) :
    markCount (substitute segs) = (placeholders segs).length + markCount (source segs) := by
  induction segs with
  | nil => rfl
  | cons seg segs ih =>
    have hrest := ih fun s hs => h s (by simp [hs])
    have hseg := h seg (by simp)
    cases seg with
    | literal text =>
      simp only [substitute_cons, substituteSegment, source_cons, Segment.source, placeholders,
        markCount_append]
      omega
    | placeholder name typeName =>
      have hmark : markCount "?" = 1 := by decide
      simp only [substitute_cons, substituteSegment, source_cons, placeholders, markCount_append,
        markCount_placeholder_source hseg.1 hseg.2, List.length_cons]
      omega

/-- A text and its compiled form have the same literal text around placeholders and markers. -/
theorem exists_gaps (segs : List Segment) :
    ∃ (gaps : List String) (last : String), gaps.length = (placeholders segs).length ∧
      source segs = String.join (List.zipWith
          (fun gap p => gap ++ (Segment.placeholder p.1 p.2).source) gaps (placeholders segs)) ++
        last ∧
      substitute segs = String.join (gaps.map (· ++ "?")) ++ last := by
  induction segs with
  | nil => exact ⟨[], "", rfl, rfl, rfl⟩
  | cons seg segs ih =>
    obtain ⟨gaps, last, hlength, hsource, hsubstitute⟩ := ih
    cases seg with
    | placeholder name typeName =>
      refine ⟨"" :: gaps, last, by simp [placeholders, hlength], ?_, ?_⟩
      · simp [placeholders, hsource, String.append_assoc]
      · simp [substituteSegment, hsubstitute, String.append_assoc]
    | literal text =>
      -- the literal joins the first gap, or the end if there is none
      cases gaps with
      | nil =>
        have hnone : placeholders segs = [] := List.eq_nil_of_length_eq_zero hlength.symm
        refine ⟨[], text ++ last, by simp [placeholders, hnone], ?_, ?_⟩
        · simp [hsource, Segment.source]
        · simp [hsubstitute, substituteSegment]
      | cons gap gaps =>
        obtain ⟨p, ps, hps⟩ : ∃ p ps, placeholders segs = p :: ps :=
          List.exists_cons_of_length_pos (by rw [← hlength]; simp)
        refine ⟨(text ++ gap) :: gaps, last, by simpa [placeholders] using hlength, ?_, ?_⟩
        · simp [placeholders, hps, hsource, Segment.source, String.append_assoc]
        · simp [hsubstitute, substituteSegment, String.append_assoc]

theorem marked_eq_self {raw : String} (h : placeholders (segments raw) = []) :
    marked raw = raw := by
  obtain ⟨gaps, last, hlength, hsource, hsubstitute⟩ := exists_gaps (segments raw)
  rw [h, List.length_nil, List.length_eq_zero_iff] at hlength
  subst hlength
  rw [source_segments] at hsource
  exact hsubstitute.trans hsource.symm

end QueryText

namespace Occurrence

open QueryText

/-! ### The marker of a placeholder -/

/-- The placeholder as it is written. -/
def source {raw : String} (o : Occurrence raw) : String :=
  (Segment.placeholder o.name o.typeName).source

/-- Where the marker of the placeholder stands in the compiled text. -/
def markPosition {raw : String} (o : Occurrence raw) : Nat := (marked o.before).length

theorem marked_eq {raw : String} (o : Occurrence raw) :
    marked raw = marked o.before ++ "?" ++ marked o.after := by
  rw [marked, o.segments_eq]
  simp [marked, substituteSegment, String.append_assoc]

/-- Gaps around placeholders are compiled each on its own, and their placeholders count too. -/
theorem marked_join {raw : String} {os : List (Occurrence raw)} : ∀ {gaps : List String},
    gaps.length = os.length → ∀ last : String,
      let text := String.join (List.zipWith (fun gap o => gap ++ o.source) gaps os) ++ last
      marked text = String.join (gaps.map fun gap => marked gap ++ "?") ++ marked last ∧
      (placeholders (segments text)).length =
        (gaps.flatMap fun gap => placeholders (segments gap)).length + gaps.length +
          (placeholders (segments last)).length := by
  induction os with
  | nil =>
    intro gaps hlength last
    obtain rfl := List.length_eq_zero_iff.1 hlength
    simp
  | cons o os ih =>
    intro gaps hlength last
    rcases gaps with _ | ⟨gap, gaps⟩
    · cases hlength
    obtain ⟨hmarked, hcount⟩ := ih (Nat.succ.inj hlength) last
    intro text
    -- the first gap ends at an occurrence in the text that is put together
    have htext : text = gap ++ o.source ++
        (String.join (List.zipWith (fun gap o => gap ++ o.source) gaps os) ++ last) := by
      simp [text, String.append_assoc]
    let first : Occurrence text :=
      ⟨gap, o.name, o.typeName, _, o.name_word, o.typeName_word, htext⟩
    constructor
    · rw [first.marked_eq, hmarked]
      simp [first, String.append_assoc]
    · rw [first.segments_eq, placeholders_append]
      simp only [first, placeholders, List.length_append, List.length_cons, List.flatMap_cons]
      omega

/-- The ordinal of a marker counts the placeholders and the question marks before. -/
theorem isMark_marked {raw : String} (o : Occurrence raw) :
    IsMark (marked raw) (o.rank + 1 + markCount o.before) o.markPosition := by
  have hcount := markCount_substitute (normal_segments o.before).wellFormed
  have hordinal : markCount (marked o.before) + 1 = o.rank + 1 + markCount o.before := by
    rw [marked, hcount, source_segments, rank]
    omega
  rw [o.marked_eq, ← hordinal]
  exact isMark_between (marked o.before) (marked o.after)

theorem before_initial_of_length_le {raw : String} {o o' : Occurrence raw}
    (h : o.before.length ≤ o'.before.length) : o.before.toList <+: o'.before.toList := by
  have hprefix : o.before.toList <+: raw.toList := ⟨_, o.toList_raw.symm⟩
  have hprefix' : o'.before.toList <+: raw.toList := ⟨_, o'.toList_raw.symm⟩
  apply List.prefix_of_prefix_length_le hprefix hprefix'
  rwa [String.length_toList, String.length_toList]

/-- A question mark before some placeholder stands before the last one too. -/
theorem notMem_before_of_last {raw : String}
    (h : ∀ last ∈ (list raw).getLast?, '?' ∉ last.before.toList) (o : Occurrence raw) :
    '?' ∉ o.before.toList := by
  have hne : list raw ≠ [] := List.ne_nil_of_mem o.mem_list
  have hlast := h _ (List.getLast?_eq_some_getLast hne)
  have hsorted : (list raw).Pairwise fun o o' => o.before.length ≤ o'.before.length :=
    (pairwise_list raw).imp Nat.le_of_lt
  have hle : o.before.length ≤ ((list raw).getLast hne).before.length :=
    hsorted.rel_getLast_of_rel_getLast_getLast o.mem_list (Nat.le_refl _)
  intro hmem
  exact hlast ((before_initial_of_length_le hle).subset hmem)

end Occurrence

namespace QueryText

/-- The text has a marker for each placeholder of the raw text and is the raw text elsewhere. -/
def Marks (raw text : String) : Prop :=
  ∃ (gaps : List String) (last : String), gaps.length = (Occurrence.list raw).length ∧
    raw = String.join
      (List.zipWith (fun gap o => gap ++ o.source) gaps (Occurrence.list raw)) ++ last ∧
    text = String.join (gaps.map (· ++ "?")) ++ last

theorem marks_marked (raw : String) : Marks raw (marked raw) := by
  obtain ⟨gaps, last, hlength, hsource, hsubstitute⟩ := exists_gaps (segments raw)
  refine ⟨gaps, last, ?_, ?_, hsubstitute⟩
  · rw [hlength, Occurrence.length_list]
  · rw [source_segments, ← Occurrence.map_list, List.zipWith_map_right] at hsource
    exact hsource

theorem marks_iff {raw text : String} : Marks raw text ↔ text = marked raw := by
  constructor
  · rintro ⟨gaps, last, hlength, hraw, rfl⟩
    obtain ⟨hmarked, hcount⟩ := Occurrence.marked_join hlength last
    rw [← hraw] at hmarked hcount
    rw [← Occurrence.length_list, hlength] at hcount
    -- the raw text has no further placeholders, so the gaps and the end have none
    have hgaps : ∀ gap ∈ gaps, marked gap = gap := by
      intro gap hgap
      have hnone : (gaps.flatMap fun gap => placeholders (segments gap)).length = 0 := by omega
      exact marked_eq_self (List.flatMap_eq_nil_iff.1 (List.length_eq_zero_iff.1 hnone) gap hgap)
    have hlast : marked last = last := by
      have hnone : (placeholders (segments last)).length = 0 := by omega
      exact marked_eq_self (List.length_eq_zero_iff.1 hnone)
    rw [hmarked, hlast]
    congr 2
    apply List.map_congr_left
    intro gap hgap
    rw [hgaps gap hgap]
  · rintro rfl
    exact marks_marked raw

end QueryText

/-! ### Statements -/

/-- The beginning of the statement of a query, up to the table. -/
def QueryType.opening : QueryType → String
  | .select => "SELECT * FROM "
  | .find => "SELECT * FROM "
  | .count => "SELECT COUNT(*) FROM "
  | .delete => "DELETE FROM "
  | .update => "UPDATE "

/-- The end of the statement of a query. -/
def QueryType.closing : QueryType → String
  | .find => " LIMIT 1"
  | _ => ""

/-- What stands before the compiled text in a statement. -/
def Model.front (m : Model) (type : QueryType) : String := type.opening ++ m.tableName ++ " "

theorem Model.queryStatement_eq (m : Model) (q : Query) :
    m.queryStatement q = m.front q.type ++ q.text ++ q.type.closing := by
  obtain ⟨type, name, text, params⟩ := q
  cases type with
  | find => rfl
  | select | count | delete | update => exact String.append_empty.symm

theorem Model.selectCountStatement_eq (m : Model) (q : Query) :
    m.selectCountStatement q = m.front .count ++ q.text ++ QueryType.count.closing :=
  String.append_empty.symm

theorem Model.notMem_front {m : Model} (h : '?' ∉ m.tableName.toList) (type : QueryType) :
    '?' ∉ (m.front type).toList := by
  have hopening : '?' ∉ type.opening.toList := by cases type <;> simp [QueryType.opening]
  simp [Model.front, hopening, h]

/-! ### Slots -/

/-- The slots that a call fills. -/
def Call.slots (call : Call) : List Nat :=
  call.args.filterMap fun
    | .position n => some n
    | _ => none

theorem QueryParam.slots_bind (p : QueryParam) (var : String) :
    (p.bind var).slots = [p.position] := by
  cases h : p.type <;>
    simp [Call.slots, QueryParam.bind, FieldType.bindExtras, FieldType.isPrimitive, h]

namespace Query

open QueryText

theorem map_position_of_compile {type : QueryType} {name raw : String} {q : Query}
    (h : compile type name raw = .ok q) :
    q.params.map (·.position) = List.range' 1 (Occurrence.list raw).length := by
  obtain ⟨-, -, -, hparams⟩ := eq_of_compile_eq_ok h
  have hpositions := congrArg (List.map Prod.snd) hparams
  rw [List.zipIdx_map_snd, ← Occurrence.length_list] at hpositions
  simpa [Function.comp_def] using hpositions

theorem length_params_of_compile {type : QueryType} {name raw : String} {q : Query}
    (h : compile type name raw = .ok q) : q.params.length = (Occurrence.list raw).length := by
  have hlength := congrArg List.length (map_position_of_compile h)
  simpa using hlength

theorem position_of_compile {type : QueryType} {name raw : String} {q : Query}
    (h : compile type name raw = .ok q) {k : Nat} {p : QueryParam}
    (hp : q.params[k]? = some p) : p.position = k + 1 := by
  have hget : (q.params.map (·.position))[k]? = some p.position := by simp [hp]
  have hk : k < (Occurrence.list raw).length := by
    rw [← length_params_of_compile h]
    exact (List.getElem?_eq_some_iff.1 hp).1
  rw [map_position_of_compile h, List.getElem?_range' hk] at hget
  have heq := Option.some.inj hget
  omega

theorem isMark_of_compile {type : QueryType} {name raw : String} {q : Query}
    (h : compile type name raw = .ok q) {k : Nat} {o : Occurrence raw}
    (ho : (Occurrence.list raw)[k]? = some o) :
    IsMark q.text (k + 1 + markCount o.before) o.markPosition := by
  obtain ⟨-, -, htext, -⟩ := eq_of_compile_eq_ok h
  rw [htext, ← Occurrence.rank_of_getElem?_list ho]
  exact o.isMark_marked

/-- A parameter is bound to its own marker exactly if no question mark stands before its
placeholder. -/
theorem isMark_position_iff {type : QueryType} {name raw : String} {q : Query}
    (h : compile type name raw = .ok q) {k : Nat} {o : Occurrence raw} {p : QueryParam}
    (ho : (Occurrence.list raw)[k]? = some o) (hp : q.params[k]? = some p) :
    IsMark q.text p.position o.markPosition ↔ '?' ∉ o.before.toList := by
  have hmark := isMark_of_compile h ho
  rw [position_of_compile h hp, ← markCount_eq_zero_iff]
  constructor
  · intro hslot
    have hordinal := hslot.ordinal_unique hmark
    omega
  · intro hzero
    rw [hzero] at hmark
    exact hmark

/-- The slots fit the markers if and only if they fit the last one. -/
theorem aligned_iff {type : QueryType} {name raw : String} {q : Query}
    (h : compile type name raw = .ok q) :
    (∀ (k : Nat) (o : Occurrence raw) (p : QueryParam),
        (Occurrence.list raw)[k]? = some o → q.params[k]? = some p →
        IsMark q.text p.position o.markPosition) ↔
      ∀ last ∈ (Occurrence.list raw).getLast?, '?' ∉ last.before.toList := by
  constructor
  · intro haligned last _
    obtain ⟨k, ho⟩ := List.mem_iff_getElem?.1 last.mem_list
    have hk : k < q.params.length := by
      rw [length_params_of_compile h]
      exact (List.getElem?_eq_some_iff.1 ho).1
    have hp : q.params[k]? = some q.params[k] := List.getElem?_eq_getElem hk
    exact (isMark_position_iff h ho hp).1 (haligned k last _ ho hp)
  · intro hlast k o p ho hp
    exact (isMark_position_iff h ho hp).2 (Occurrence.notMem_before_of_last hlast o)

/-- What a compiled query promises to whoever binds its parameters.  The parameters are the
placeholders of the raw text from left to right, bound to the slots from one on; the compiled text
has one marker for each and is the raw text elsewhere.  The marker of a placeholder comes later than
its slot by the number of question marks before the placeholder, in the compiled text and in the
statements made of it. -/
theorem compile_markers {type : QueryType} {name raw : String} {q : Query}
    (h : compile type name raw = .ok q) :
    ((Occurrence.list raw).Pairwise (fun o o' => o.before.length < o'.before.length) ∧
      ∀ o : Occurrence raw, o ∈ Occurrence.list raw) ∧
    q.params.map (fun p => ((p.name, p.type.name), p.position)) =
      ((Occurrence.list raw).map fun o => (o.name, o.typeName)).zipIdx 1 ∧
    (∀ var, q.params.flatMap (fun p => (p.bind var).slots) =
      List.range' 1 (Occurrence.list raw).length) ∧
    (∃ (gaps : List String) (last : String), gaps.length = (Occurrence.list raw).length ∧
      raw = String.join
        (List.zipWith (fun gap o => gap ++ o.source) gaps (Occurrence.list raw)) ++ last ∧
      q.text = String.join (gaps.map (· ++ "?")) ++ last) ∧
    (∀ k o, (Occurrence.list raw)[k]? = some o →
      q.text = marked o.before ++ "?" ++ marked o.after ∧
      IsMark q.text (k + 1 + markCount o.before) o.markPosition) ∧
    ((∀ (k : Nat) (o : Occurrence raw) (p : QueryParam),
        (Occurrence.list raw)[k]? = some o → q.params[k]? = some p →
        IsMark q.text p.position o.markPosition) ↔
      ∀ last ∈ (Occurrence.list raw).getLast?, '?' ∉ last.before.toList) ∧
    ∀ m : Model, '?' ∉ m.tableName.toList → ∀ k o, (Occurrence.list raw)[k]? = some o →
      IsMark (m.queryStatement q) (k + 1 + markCount o.before)
        ((m.front type).length + o.markPosition) ∧
      IsMark (m.selectCountStatement q) (k + 1 + markCount o.before)
        ((m.front .count).length + o.markPosition) := by
  obtain ⟨htype, -, htext, hparams⟩ := eq_of_compile_eq_ok h
  refine ⟨⟨Occurrence.pairwise_list raw, Occurrence.mem_list⟩, ?_, ?_, ?_, ?_, aligned_iff h, ?_⟩
  · rw [hparams, Occurrence.map_list]
  · intro var
    simp only [QueryParam.slots_bind]
    rw [← List.map_eq_flatMap]
    exact map_position_of_compile h
  · rw [htext]
    exact marks_marked raw
  · intro k o ho
    exact ⟨htext.trans o.marked_eq, isMark_of_compile h ho⟩
  · intro m htable k o ho
    have hmark := isMark_of_compile h ho
    rw [m.queryStatement_eq, m.selectCountStatement_eq, htype]
    exact ⟨hmark.wrap (Model.notMem_front htable _) _, hmark.wrap (Model.notMem_front htable _) _⟩

/-- A question mark between two placeholders moves the second marker off its slot. -/
theorem compile_markers_shifted :
    compile .find "pair" "\x7bx:Text\x7d ? \x7by:Real\x7d" =
      .ok ⟨.find, "pair", "? ? ?", [⟨1, "x", .text⟩, ⟨2, "y", .real⟩]⟩ ∧
    '?' ∉ "users".toList ∧
    IsMark "SELECT * FROM users ? ? ? LIMIT 1" 3 24 := by
  have hcompile : compile .find "pair" "\x7bx:Text\x7d ? \x7by:Real\x7d" =
      .ok ⟨.find, "pair", "? ? ?", [⟨1, "x", .text⟩, ⟨2, "y", .real⟩]⟩ := by decide +kernel
  refine ⟨hcompile, by decide, ?_⟩
  obtain ⟨-, -, -, -, -, -, hstatement⟩ := compile_markers hcompile
  let o : Occurrence "\x7bx:Text\x7d ? \x7by:Real\x7d" :=
    ⟨"\x7bx:Text\x7d ? ", "y", "Real", "", by decide +kernel, by decide +kernel, rfl⟩
  let m : Model := ⟨"users", [], [], none, none⟩
  have hmark := (hstatement m (by decide) 1 o (by decide +kernel)).1
  have hordinal : 1 + 1 + markCount o.before = 3 := by decide +kernel
  have hposition : (m.front .find).length + o.markPosition = 24 := by decide +kernel
  rw [hordinal, hposition] at hmark
  exact hmark

end Query

end DatasetCompiler
