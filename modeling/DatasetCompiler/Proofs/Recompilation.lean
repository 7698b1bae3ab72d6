import DatasetCompiler.Proofs.Joining

/-!
# Compiling a compiled text

Replacing placeholders by markers puts text next to a marker that stood next to a brace before.  No
placeholder arises there: a marker is neither a word character nor one of the three characters that
hold a placeholder together, so nothing that goes across it is a placeholder, and the literals on
both sides had none inside.  Compiled texts are therefore exactly the texts without placeholders,
and compiling them again changes nothing.
-/

namespace DatasetCompiler

theorem Occurrence.getElem?_ne_mark {raw : String} (o : Occurrence raw) {place : Nat}
    (hbegin : o.before.length ≤ place) (hend : place < o.before.length + o.source.length) :
    raw.toList[place]? ≠ some '?' := by
  intro hmark
  simp only [Occurrence.source, ← String.length_toList] at hbegin hend
  rw [o.toList_raw, List.getElem?_append_right hbegin,
    List.getElem?_append_left (by omega)] at hmark
  have hcount := QueryText.markCount_placeholder_source o.name_word o.typeName_word
  exact markCount_eq_zero_iff.1 hcount (List.mem_of_getElem? hmark)

namespace QueryText

/-! ### Boundaries at a marker -/

theorem parted_empty (left : String) : Parted left "" := by
  rintro o ⟨-, hend⟩
  have hlength := congrArg String.length o.raw_eq
  simp only [String.length_append, String.length_empty] at hlength
  rw [Occurrence.source] at hend
  omega

theorem parted_mark_append (left right : String) : Parted left ("?" ++ right) := by
  rintro o ⟨hbegin, hend⟩
  apply o.getElem?_ne_mark (Nat.le_of_lt hbegin) hend
  rw [← String.length_toList]
  simp

theorem parted_mark (right : String) : Parted "?" right := by
  rintro o ⟨hbegin, hend⟩
  have hfront : o.before.length = 0 := Nat.lt_one_iff.1 hbegin
  have hwithin : 0 < o.before.length + o.source.length := Nat.zero_lt_of_lt hend
  apply o.getElem?_ne_mark (Nat.le_of_eq hfront) hwithin
  simp

theorem parted_substitute {seg : Segment} {segs : List Segment} (h : Normal (seg :: segs)) :
    Parted (substituteSegment seg) (substitute segs) := by
  rcases seg with text | ⟨name, typeName⟩
  · -- behind a literal comes the end or the marker of a placeholder
    obtain ⟨-, hnext, -⟩ := normal_literal_cons.1 h
    rcases segs with _ | ⟨next | ⟨name, typeName⟩, segs⟩
    · exact parted_empty text
    · simp [Segment.isLiteral] at hnext
    · rw [substitute_cons]
      exact parted_mark_append text (substitute segs)
  · exact parted_mark (substitute segs)

/-! ### Texts without placeholders -/

theorem not_hasPlaceholder_substitute {segs : List Segment} (h : Normal segs) :
    ¬ HasPlaceholder (substitute segs) := by
  induction segs with
  | nil => decide
  | cons seg segs ih =>
    obtain ⟨hseg, -, hrest⟩ := normal_cons.1 h
    rw [substitute_cons, (parted_substitute h).hasPlaceholder_append, not_or]
    refine ⟨?_, ih hrest⟩
    rcases seg with text | ⟨name, typeName⟩
    · exact hseg.2
    · have hmark : ¬ HasPlaceholder "?" := by decide
      exact hmark

theorem placeholders_eq_nil_iff_isLiteral {segs : List Segment} :
    placeholders segs = [] ↔ ∀ seg ∈ segs, seg.isLiteral = true := by
  induction segs with
  | nil => simp [placeholders]
  | cons seg segs ih =>
    rcases seg with text | ⟨name, typeName⟩
    · simp [placeholders, ih, Segment.isLiteral]
    · simp [placeholders, Segment.isLiteral]

theorem isLiteral_of_mem_segments {raw : String} (h : ¬ HasPlaceholder raw) :
    ∀ seg ∈ segments raw, seg.isLiteral = true :=
  placeholders_eq_nil_iff_isLiteral.1 (Occurrence.placeholders_eq_nil_iff.2 h)

theorem substitute_segments_eq_iff {raw : String} :
    substitute (segments raw) = raw ↔ ¬ HasPlaceholder raw := by
  constructor
  · intro heq
    rw [← heq]
    exact not_hasPlaceholder_substitute (normal_segments raw)
  · intro h
    exact marked_eq_self (Occurrence.placeholders_eq_nil_iff.2 h)

end QueryText

namespace Query

open QueryText

theorem compile_of_not_hasPlaceholder {raw : String} (h : ¬ HasPlaceholder raw) (type : QueryType)
    (name : String) : compile type name raw = .ok ⟨type, name, raw, []⟩ := by
  have hnone : placeholders (segments raw) = [] := Occurrence.placeholders_eq_nil_iff.2 h
  have hunknown : unknownTypes (segments raw) = [] := by rw [unknownTypes, hnone]; rfl
  obtain ⟨params, hcompile, hparams⟩ := compile_eq_ok hunknown type name
  rw [hnone, List.zipIdx_nil, List.map_eq_nil_iff] at hparams
  rw [hcompile, hparams, substitute_segments_eq_iff.2 h]

/-- A compiled text has no placeholders left.  It compiles again, to itself and without parameters,
and it differs from the raw text exactly if that had placeholders. -/
theorem compile_compiled (raw : String) :
    ((∀ seg ∈ segments (substitute (segments raw)), seg.isLiteral = true) ∧
      ¬ HasPlaceholder (substitute (segments raw))) ∧
    ∀ type name q, compile type name raw = .ok q →
      (∀ type' name', compile type' name' q.text = .ok ⟨type', name', q.text, []⟩) ∧
      (q.text = raw ↔ ¬ HasPlaceholder raw) := by
  have hfree := not_hasPlaceholder_substitute (normal_segments raw)
  refine ⟨⟨isLiteral_of_mem_segments hfree, hfree⟩, ?_⟩
  intro type name q hq
  obtain ⟨-, -, htext, -⟩ := eq_of_compile_eq_ok hq
  rw [htext]
  exact ⟨compile_of_not_hasPlaceholder hfree, substitute_segments_eq_iff⟩

/-- The marker stands in what looks like the name of a placeholder. -/
theorem compile_compiled_nested :
    compile .count "nested" "\x7ba\x7bb:Text\x7d:Text\x7d" =
      .ok ⟨.count, "nested", "\x7ba?:Text\x7d", [⟨1, "b", .text⟩]⟩ ∧
    compile .select "again" "\x7ba?:Text\x7d" = .ok ⟨.select, "again", "\x7ba?:Text\x7d", []⟩ := by
  have hcompile : compile .count "nested" "\x7ba\x7bb:Text\x7d:Text\x7d" =
      .ok ⟨.count, "nested", "\x7ba?:Text\x7d", [⟨1, "b", .text⟩]⟩ := by decide +kernel
  obtain ⟨hagain, -⟩ := (compile_compiled "\x7ba\x7bb:Text\x7d:Text\x7d").2 _ _ _ hcompile
  exact ⟨hcompile, hagain .select "again"⟩

end Query

end DatasetCompiler
