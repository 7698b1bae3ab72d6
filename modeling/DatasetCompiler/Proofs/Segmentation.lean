import DatasetCompiler.Proofs.Placeholder
import Mathlib.Data.List.Chain
import Mathlib.Data.Set.Function

/-!
# Segments and texts correspond

Cutting a text and writing segments down undo each other.  The segments of a text are normal: no
literal is empty, holds a placeholder or stands next to another literal, and names and types are
words.  Conversely every normal list of segments is what its own text is cut into.  The second
half rests on `match?_append_eq_none`: between a literal and what follows it no placeholder can
arise, since in a normal list only a placeholder can follow, and that begins with a brace.
-/

namespace DatasetCompiler

open Text

/-- Whether a segment is literal text. -/
def Segment.isLiteral : Segment → Bool
  | .literal _ => true
  | .placeholder _ _ => false

/-- A segment that can come out of a text: a nonempty literal without placeholders, or a
placeholder whose name and type are words. -/
def Segment.WellFormed : Segment → Prop
  | .literal text => text ≠ "" ∧ ¬ HasPlaceholder text
  | .placeholder name typeName => IsWordText name ∧ IsWordText typeName

namespace QueryText

/-- Well-formed segments of which no two adjacent ones are literals. -/
@[mk_iff]
structure Normal (segs : List Segment) : Prop where
  wellFormed : ∀ seg ∈ segs, seg.WellFormed
  apart : segs.IsChain fun seg next => ¬ (seg.isLiteral ∧ next.isLiteral)

instance : (seg : Segment) → Decidable seg.WellFormed
  | .literal text => inferInstanceAs (Decidable (text ≠ "" ∧ ¬ HasPlaceholder text))
  | .placeholder name typeName =>
    inferInstanceAs (Decidable (IsWordText name ∧ IsWordText typeName))

instance (segs : List Segment) : Decidable (Normal segs) :=
  decidable_of_iff
    ((segs.all fun seg => seg.WellFormed) = true ∧
      segs.IsChain fun seg next => ¬ (seg.isLiteral ∧ next.isLiteral))
    (by simp [normal_iff])

theorem normal_nil : Normal [] := ⟨by simp, .nil⟩

theorem normal_cons {seg : Segment} {segs : List Segment} :
    Normal (seg :: segs) ↔
      seg.WellFormed ∧ (∀ next ∈ segs.head?, ¬ (seg.isLiteral ∧ next.isLiteral)) ∧
        Normal segs := by
  constructor
  · rintro ⟨hwell, hapart⟩
    rw [List.isChain_cons] at hapart
    exact ⟨hwell seg (by simp), hapart.1, fun s hs => hwell s (by simp [hs]), hapart.2⟩
  · rintro ⟨hseg, hnext, hsegs⟩
    refine ⟨?_, List.isChain_cons.2 ⟨hnext, hsegs.apart⟩⟩
    intro s hs
    rcases List.mem_cons.1 hs with rfl | hs
    · exact hseg
    · exact hsegs.wellFormed s hs

theorem normal_placeholder_cons {name typeName : String} {segs : List Segment} :
    Normal (.placeholder name typeName :: segs) ↔
      (IsWordText name ∧ IsWordText typeName) ∧ Normal segs := by
  simp [normal_cons, Segment.WellFormed, Segment.isLiteral]

theorem normal_literal_cons {text : String} {segs : List Segment} :
    Normal (.literal text :: segs) ↔
      (text ≠ "" ∧ ¬ HasPlaceholder text) ∧ (∀ next ∈ segs.head?, next.isLiteral = false) ∧
        Normal segs := by
  simp [normal_cons, Segment.WellFormed, Segment.isLiteral]

theorem Normal.left {left right : List Segment} (h : Normal (left ++ right)) : Normal left :=
  ⟨fun seg hseg => h.wellFormed seg (by simp [hseg]), h.apart.left_of_append⟩

/-- Two normal lists with a placeholder between them form a normal list. -/
theorem Normal.append_placeholder {left right : List Segment} {name typeName : String}
    (hleft : Normal left) (hname : IsWordText name) (htype : IsWordText typeName)
    (hright : Normal right) : Normal (left ++ .placeholder name typeName :: right) := by
  induction left with
  | nil => exact normal_placeholder_cons.2 ⟨⟨hname, htype⟩, hright⟩
  | cons seg left ih =>
    obtain ⟨hseg, hnext, hrest⟩ := normal_cons.1 hleft
    refine normal_cons.2 ⟨hseg, ?_, ih hrest⟩
    cases left with
    | nil => simp [Segment.isLiteral]
    | cons next left => simpa using hnext

/-! ### Writing segments down -/

@[simp] theorem source_nil : source [] = "" := rfl

@[simp] theorem source_cons (seg : Segment) (segs : List Segment) :
    source (seg :: segs) = seg.source ++ source segs := by
  simp [source]

@[simp] theorem source_append (left right : List Segment) :
    source (left ++ right) = source left ++ source right := by
  simp [source]

@[simp] theorem source_consLiteral (c : Char) (segs : List Segment) :
    source (consLiteral c segs) = String.singleton c ++ source segs := by
  cases segs with
  | nil => simp [consLiteral, Segment.source]
  | cons seg segs =>
    cases seg with
    | literal text => simp [consLiteral, Segment.source, String.append_assoc]
    | placeholder name typeName => simp [consLiteral, Segment.source]

/-! ### Cutting a text -/

theorem cut_nil : cut [] = [] := by
  rw [cut]
  rfl

theorem cut_of_match? {cs : List Char} {m : Match} (h : match? cs = some m) :
    cut cs = .placeholder (String.ofList m.name) (String.ofList m.typeName) :: cut m.rest := by
  rw [cut]
  split
  · rename_i m' hm'
    obtain rfl : m = m' := Option.some.inj (h.symm.trans hm')
    rfl
  · rename_i hnone
    rw [h] at hnone
    cases hnone

theorem cut_cons_of_match?_eq_none {c : Char} {cs : List Char} (h : match? (c :: cs) = none) :
    cut (c :: cs) = consLiteral c (cut cs) := by
  rw [cut]
  split
  · rename_i m hm
    rw [h] at hm
    cases hm
  · rfl

theorem source_cut (cs : List Char) : source (cut cs) = String.ofList cs := by
  fun_induction cut cs with
  | case1 cs m hm ih =>
    obtain ⟨-, -, rfl⟩ := match?_eq_some_iff.1 hm
    apply String.toList_injective
    simp [ih, Segment.source]
  | case2 => rfl
  | case3 c cs hnone ih => simp [ih, String.ofList_cons]

/-! ### The segments of a text are normal -/

theorem match?_append_of_some {cs : List Char} {m : Match} (h : match? cs = some m)
    (rest : List Char) :
    match? (cs ++ rest) = some { m with rest := m.rest ++ rest } := by
  obtain ⟨hname, htype, rfl⟩ := match?_eq_some_iff.1 h
  rw [match?_eq_some_iff]
  exact ⟨hname, htype, by simp⟩

theorem match?_eq_none_of_append {cs rest : List Char} (h : match? (cs ++ rest) = none) :
    match? cs = none := by
  by_contra hsome
  obtain ⟨m, hm⟩ := Option.ne_none_iff_exists'.1 hsome
  rw [match?_append_of_some hm rest] at h
  cases h

theorem normal_consLiteral {c : Char} {segs : List Segment} (hsegs : Normal segs)
    (hnone : match? (c :: (source segs).toList) = none) : Normal (consLiteral c segs) := by
  cases segs with
  | nil =>
    have hfree : ¬ HasPlaceholder (String.singleton c) := by
      rw [not_hasPlaceholder_iff_free, String.toList_singleton, free_cons]
      exact ⟨by simpa using hnone, free_nil⟩
    exact normal_literal_cons.2 ⟨⟨by simp, hfree⟩, by simp, hsegs⟩
  | cons seg segs =>
    cases seg with
    | literal text =>
      -- the character joins the literal that stands there
      obtain ⟨⟨-, htext⟩, hnext, hrest⟩ := normal_literal_cons.1 hsegs
      have hwhole : match? ((c :: text.toList) ++ (source segs).toList) = none := by
        simpa [Segment.source] using hnone
      have hfront := match?_eq_none_of_append hwhole
      have hfree : ¬ HasPlaceholder (String.singleton c ++ text) := by
        rw [not_hasPlaceholder_iff_free, String.toList_append, String.toList_singleton]
        exact free_cons.2 ⟨hfront, not_hasPlaceholder_iff_free.1 htext⟩
      exact normal_literal_cons.2 ⟨⟨by simp, hfree⟩, hnext, hrest⟩
    | placeholder name typeName =>
      have hwhole : match? ([c] ++ (source (.placeholder name typeName :: segs)).toList) = none :=
        hnone
      have hfree : ¬ HasPlaceholder (String.singleton c) := by
        rw [not_hasPlaceholder_iff_free, String.toList_singleton, free_cons]
        exact ⟨match?_eq_none_of_append hwhole, free_nil⟩
      exact normal_literal_cons.2 ⟨⟨by simp, hfree⟩, by simp [Segment.isLiteral], hsegs⟩

theorem normal_cut (cs : List Char) : Normal (cut cs) := by
  fun_induction cut cs with
  | case1 cs m hm ih =>
    obtain ⟨hname, htype, -⟩ := match?_eq_some_iff.1 hm
    exact normal_placeholder_cons.2
      ⟨⟨isWordText_ofList.2 hname, isWordText_ofList.2 htype⟩, ih⟩
  | case2 => exact normal_nil
  | case3 c cs hnone ih =>
    apply normal_consLiteral ih
    rw [source_cut, String.toList_ofList]
    exact hnone

/-! ### A normal list is what its text is cut into -/

/-- A literal without placeholders is cut off whole, if no literal and no half of a placeholder
follows. -/
theorem cut_literal_append {text rest : List Char} (hne : text ≠ []) (hfree : Free text)
    (hrest : Opens rest) (hnext : ∀ next ∈ (cut rest).head?, next.isLiteral = false) :
    cut (text ++ rest) = .literal (String.ofList text) :: cut rest := by
  induction text with
  | nil => exact absurd rfl hne
  | cons c text ih =>
    obtain ⟨hfront, htext⟩ := free_cons.1 hfree
    have hne : c :: text ≠ [] := by simp
    have hnone : match? (c :: (text ++ rest)) = none := match?_append_eq_none hne hfront hrest
    rw [List.cons_append, cut_cons_of_match?_eq_none hnone]
    by_cases htextne : text = []
    · subst htextne
      rw [List.nil_append]
      cases hcut : cut rest with
      | nil => simp [consLiteral, String.ofList_cons]
      | cons next segs =>
        have hliteral : next.isLiteral = false := hnext next (by simp [hcut])
        cases next with
        | literal text => simp [Segment.isLiteral] at hliteral
        | placeholder name typeName => simp [consLiteral, String.ofList_cons]
    · rw [ih htextne htext]
      simp [consLiteral, String.ofList_cons]

theorem opens_source {segs : List Segment}
    (hnext : ∀ next ∈ segs.head?, next.isLiteral = false) : Opens (source segs).toList := by
  cases segs with
  | nil => exact Or.inl (by simp)
  | cons next segs =>
    cases next with
    | literal text => simp [Segment.isLiteral] at hnext
    | placeholder name typeName =>
      refine Or.inr ⟨name.toList ++ ':' :: (typeName.toList ++ '}' :: (source segs).toList), ?_⟩
      simp [toList_placeholder_source]

theorem cut_source {segs : List Segment} (h : Normal segs) :
    cut (source segs).toList = segs := by
  induction segs with
  | nil => exact cut_nil
  | cons seg segs ih =>
    rw [source_cons, String.toList_append]
    cases seg with
    | literal text =>
      obtain ⟨⟨hne, hfree⟩, hnext, hsegs⟩ := normal_literal_cons.1 h
      have hcut := ih hsegs
      rw [Segment.source, cut_literal_append (by simpa using hne)
        (not_hasPlaceholder_iff_free.1 hfree) (opens_source hnext) (by rw [hcut]; exact hnext),
        hcut, String.ofList_toList]
    | placeholder name typeName =>
      obtain ⟨⟨hname, htype⟩, hsegs⟩ := normal_placeholder_cons.1 h
      rw [cut_of_match? (match?_placeholder_append hname htype _), ih hsegs]
      simp

/-! ### Texts and normal lists -/

theorem normal_segments (raw : String) : Normal (segments raw) := normal_cut raw.toList

@[simp] theorem source_segments (raw : String) : source (segments raw) = raw := by
  rw [segments, source_cut, String.ofList_toList]

theorem segments_source {segs : List Segment} (h : Normal segs) :
    segments (source segs) = segs := cut_source h

end QueryText

namespace Occurrence

open QueryText

/-- A placeholder cuts its text in two, and each side is cut as if it stood alone. -/
theorem segments_eq {raw : String} (o : Occurrence raw) :
    segments raw =
      segments o.before ++ .placeholder o.name o.typeName :: segments o.after := by
  have hnormal := (normal_segments o.before).append_placeholder o.name_word o.typeName_word
    (normal_segments o.after)
  rw [← segments_source hnormal]
  simp [← String.append_assoc, ← o.raw_eq]

/-- Every placeholder segment stands for a placeholder of the text. -/
def ofSegments {raw name typeName : String} {left right : List Segment}
    (h : segments raw = left ++ .placeholder name typeName :: right) : Occurrence raw where
  before := source left
  name := name
  typeName := typeName
  after := source right
  name_word := ((normal_segments raw).wellFormed (.placeholder name typeName) (by simp [h])).1
  typeName_word :=
    ((normal_segments raw).wellFormed (.placeholder name typeName) (by simp [h])).2
  raw_eq := by
    rw [← source_segments raw, h]
    simp [String.append_assoc]

end Occurrence

namespace QueryText

/-- Cutting is a bijection between texts and normal lists of segments, with writing down as its
inverse, and the placeholders of a text are exactly its placeholder segments, each at its place. -/
theorem segments_bijection :
    (∀ raw, Normal (segments raw) ∧ source (segments raw) = raw) ∧
    (∀ segs, Normal segs → segments (source segs) = segs) ∧
    Set.BijOn segments Set.univ {segs | Normal segs} ∧
    ∀ raw before name typeName after,
      (IsWordText name ∧ IsWordText typeName ∧
        raw = before ++ (Segment.placeholder name typeName).source ++ after) ↔
      ∃ left right, segments raw = left ++ .placeholder name typeName :: right ∧
        source left = before ∧ source right = after := by
  refine ⟨fun raw => ⟨normal_segments raw, source_segments raw⟩, fun segs => segments_source,
    ⟨?_, ?_, ?_⟩, ?_⟩
  · intro raw _
    exact normal_segments raw
  · intro raw _ raw' _ heq
    have hsource := congrArg source heq
    simpa using hsource
  · intro segs hsegs
    exact ⟨source segs, trivial, segments_source hsegs⟩
  · intro raw before name typeName after
    constructor
    · rintro ⟨hname, htype, heq⟩
      have hcut := Occurrence.segments_eq ⟨before, name, typeName, after, hname, htype, heq⟩
      exact ⟨segments before, segments after, hcut, source_segments _, source_segments _⟩
    · rintro ⟨left, right, hcut, rfl, rfl⟩
      let o := Occurrence.ofSegments hcut
      exact ⟨o.name_word, o.typeName_word, o.raw_eq⟩

/-- A placeholder inside of what looks like another one. -/
theorem segments_bijection_nested :
    Normal [.literal "\x7ba", .placeholder "b" "Text", .literal ":Text\x7d"] ∧
    segments "\x7ba\x7bb:Text\x7d:Text\x7d" =
      [.literal "\x7ba", .placeholder "b" "Text", .literal ":Text\x7d"] :=
  ⟨by decide +kernel, segments_bijection.2.1
    [.literal "\x7ba", .placeholder "b" "Text", .literal ":Text\x7d"] (by decide +kernel)⟩

end QueryText

end DatasetCompiler
