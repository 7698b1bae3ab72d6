import DatasetCompiler.Proofs.Marker

/-!
# Texts put together

If no placeholder lies across the boundary of two texts, cutting the joined text is cutting both and
merging the results: where the first part ends and the second begins with literal text, two literals
become one.  Merged segments have the placeholders and the compiled text of the segments one behind
the other, so a query can be compiled in parts.  The parameters of the second part are moved up by
the number of those of the first, and the first unknown type of the first part goes before that of
the second.
-/

namespace DatasetCompiler

/-- The placeholder begins before a place of the text and ends behind it. -/
def Occurrence.Straddles {raw : String} (o : Occurrence raw) (place : Nat) : Prop :=
  o.before.length < place ∧ place < o.before.length + o.source.length

instance {raw : String} (o : Occurrence raw) (place : Nat) : Decidable (o.Straddles place) :=
  inferInstanceAs (Decidable (_ ∧ _))

/-- The parameter with its position increased. -/
def QueryParam.moved (count : Nat) (p : QueryParam) : QueryParam :=
  { p with position := p.position + count }

theorem QueryParam.map_moved (count : Nat) (params : List QueryParam) :
    (params.map (·.moved count)).map (fun p => ((p.name, p.type.name), p.position)) =
      (params.map fun p => ((p.name, p.type.name), p.position)).map
        (Prod.map id (· + count)) := by
  rw [List.map_map, List.map_map]
  rfl

namespace QueryText

/-- No placeholder of the joined text lies across the boundary. -/
def Parted (left right : String) : Prop :=
  ∀ o : Occurrence (left ++ right), ¬ o.Straddles left.length

instance (left right : String) : Decidable (Parted left right) :=
  decidable_of_iff (∀ o ∈ Occurrence.list (left ++ right), ¬ o.Straddles left.length)
    ⟨fun h o => h o o.mem_list, fun h o _ => h o⟩

/-! ### Merging segments -/

/-- Puts a segment in front of segments; a literal joins a literal that stands there. -/
def prepend : Segment → List Segment → List Segment
  | .literal text, .literal next :: segs => .literal (text ++ next) :: segs
  | seg, segs => seg :: segs

/-- Segments one behind the other, with literals that meet joined. -/
def merge (left right : List Segment) : List Segment := left.foldr prepend right

theorem merge_cons (seg : Segment) (left right : List Segment) :
    merge (seg :: left) right = prepend seg (merge left right) := rfl

theorem merge_consLiteral (c : Char) (left right : List Segment) :
    merge (consLiteral c left) right = consLiteral c (merge left right) := by
  rcases left with _ | ⟨text | ⟨name, typeName⟩, left⟩
  · rcases right with _ | ⟨text | ⟨name, typeName⟩, right⟩ <;> rfl
  · -- the literal that the character joined may itself join one behind it
    rw [consLiteral, merge_cons, merge_cons]
    rcases merge left right with _ | ⟨next | ⟨name, typeName⟩, segs⟩
    · rfl
    · simp [prepend, consLiteral, String.append_assoc]
    · rfl
  · rfl

theorem placeholders_prepend (seg : Segment) (segs : List Segment) :
    placeholders (prepend seg segs) = placeholders [seg] ++ placeholders segs := by
  rcases seg with text | ⟨name, typeName⟩
  · rcases segs with _ | ⟨next | ⟨name, typeName⟩, segs⟩ <;> rfl
  · rfl

theorem substitute_prepend (seg : Segment) (segs : List Segment) :
    substitute (prepend seg segs) = substituteSegment seg ++ substitute segs := by
  rcases seg with text | ⟨name, typeName⟩
  · rcases segs with _ | ⟨next | ⟨name, typeName⟩, segs⟩
    · simp [prepend]
    · simp [prepend, substituteSegment, String.append_assoc]
    · simp [prepend]
  · simp [prepend]

theorem placeholders_merge (left right : List Segment) :
    placeholders (merge left right) = placeholders left ++ placeholders right := by
  induction left with
  | nil => rfl
  | cons seg left ih =>
    rw [merge_cons, placeholders_prepend, ih, ← List.append_assoc, ← placeholders_append]
    rfl

theorem substitute_merge (left right : List Segment) :
    substitute (merge left right) = substitute left ++ substitute right := by
  induction left with
  | nil => simp [merge]
  | cons seg left ih =>
    rw [merge_cons, substitute_prepend, ih, substitute_cons, String.append_assoc]

/-! ### Cutting a joined text -/

namespace Parted

variable {left right : String}

/-- What begins in the first part and is no placeholder there is none in the joined text. -/
theorem match?_append_eq_none (h : Parted left right) {front rest : List Char}
    (hleft : left.toList = front ++ rest) (hne : rest ≠ []) (hnone : match? rest = none) :
    match? (rest ++ right.toList) = none := by
  by_contra hsome
  obtain ⟨m, hm⟩ := Option.ne_none_iff_exists'.1 hsome
  obtain ⟨hname, htype, heq⟩ := match?_eq_some_iff.1 hm
  let o : Occurrence (left ++ right) :=
    { before := String.ofList front
      name := String.ofList m.name
      typeName := String.ofList m.typeName
      after := String.ofList m.rest
      name_word := Text.isWordText_ofList.2 hname
      typeName_word := Text.isWordText_ofList.2 htype
      raw_eq := by
        apply String.toList_injective
        rw [String.toList_append, hleft, List.append_assoc, heq]
        simp [toList_placeholder_source] }
  obtain ⟨cover, hcover, hwritten, -⟩ := exists_cover_of_match?_append hnone hm
  have hsource : o.source.length = rest.length + cover.length := by
    rw [← String.length_toList, ← List.length_append, ← hwritten, Occurrence.source,
      toList_placeholder_source]
    simp [o]
  have hlength : left.length = front.length + rest.length := by
    rw [← String.length_toList, hleft, List.length_append]
  have hbefore : o.before.length = front.length := String.length_ofList
  have hrest : 0 < rest.length := List.length_pos_iff.2 hne
  have hcover : 0 < cover.length := List.length_pos_iff.2 hcover
  exact h o ⟨by omega, by omega⟩

/-- From any place of the first part on, the joined text is cut like the two parts. -/
theorem cut_append (h : Parted left right) (front rest : List Char)
    (hleft : left.toList = front ++ rest) :
    cut (rest ++ right.toList) = merge (cut rest) (cut right.toList) := by
  fun_induction cut rest generalizing front with
  | case1 rest m hm ih =>
    obtain ⟨-, -, hrest⟩ := match?_eq_some_iff.1 hm
    rw [cut_of_match? (match?_append_of_some hm right.toList)]
    have htail := ih (front ++ '{' :: (m.name ++ ':' :: (m.typeName ++ ['}'])))
      (by rw [hleft, hrest]; simp)
    rw [htail]
    rfl
  | case2 => rfl
  | case3 c rest hnone ih =>
    have hjoined : match? (c :: (rest ++ right.toList)) = none :=
      h.match?_append_eq_none hleft (List.cons_ne_nil c rest) hnone
    have htail := ih (front ++ [c]) (by rw [hleft]; simp)
    rw [List.cons_append, cut_cons_of_match?_eq_none hjoined, htail, merge_consLiteral]

theorem segments_append (h : Parted left right) :
    segments (left ++ right) = merge (segments left) (segments right) := by
  rw [segments, String.toList_append]
  exact h.cut_append [] left.toList rfl

theorem placeholders_append (h : Parted left right) :
    placeholders (segments (left ++ right)) =
      placeholders (segments left) ++ placeholders (segments right) := by
  rw [h.segments_append, placeholders_merge]

theorem hasPlaceholder_append (h : Parted left right) :
    HasPlaceholder (left ++ right) ↔ HasPlaceholder left ∨ HasPlaceholder right := by
  rw [← not_iff_not, not_or, ← Occurrence.placeholders_eq_nil_iff, h.placeholders_append,
    List.append_eq_nil_iff, Occurrence.placeholders_eq_nil_iff, Occurrence.placeholders_eq_nil_iff]

theorem unknownTypes_append (h : Parted left right) :
    unknownTypes (segments (left ++ right)) =
      unknownTypes (segments left) ++ unknownTypes (segments right) := by
  rw [unknownTypes, h.placeholders_append, List.map_append, List.filter_append]
  rfl

end Parted

end QueryText

namespace Query

open QueryText

/-- Two texts without a placeholder across their boundary compile together as they do apart. -/
theorem compile_append {left right : String} (h : Parted left right) (type : QueryType)
    (name : String) :
    ((∃ q, compile type name (left ++ right) = .ok q) ↔
      (∃ q, compile type name left = .ok q) ∧ ∃ q, compile type name right = .ok q) ∧
    (∀ q q₁ q₂, compile type name (left ++ right) = .ok q → compile type name left = .ok q₁ →
      compile type name right = .ok q₂ →
      q.text = q₁.text ++ q₂.text ∧
      q.params = q₁.params ++ q₂.params.map (·.moved q₁.params.length)) ∧
    ∀ e, compile type name (left ++ right) = .error e ↔
      compile type name left = .error e ∨
      (∃ q, compile type name left = .ok q) ∧ compile type name right = .error e := by
  refine ⟨?_, ?_, ?_⟩
  · rw [exists_compile_eq_ok_iff, exists_compile_eq_ok_iff, exists_compile_eq_ok_iff,
      h.unknownTypes_append, List.append_eq_nil_iff]
  · intro q q₁ q₂ hq hq₁ hq₂
    obtain ⟨-, -, htext, hparams⟩ := eq_of_compile_eq_ok hq
    obtain ⟨-, -, htext₁, hparams₁⟩ := eq_of_compile_eq_ok hq₁
    obtain ⟨-, -, htext₂, hparams₂⟩ := eq_of_compile_eq_ok hq₂
    constructor
    · rw [htext, htext₁, htext₂, h.segments_append, substitute_merge]
    · apply List.map_injective_iff.2 QueryParam.described_injective
      have hcount : q₁.params.length = (placeholders (segments left)).length := by
        rw [length_params_of_compile hq₁, Occurrence.length_list]
      rw [hparams, h.placeholders_append, List.zipIdx_append, List.map_append, hparams₁,
        QueryParam.map_moved, hparams₂, List.map_snd_add_zipIdx_eq_zipIdx, hcount, Nat.add_comm]
  · intro e
    rw [compile_eq_error_iff, h.unknownTypes_append, exists_compile_eq_ok_iff, compile_eq_error_iff,
      compile_eq_error_iff]
    rcases unknownTypes (segments left) with _ | ⟨typeName, later⟩
    · simp
    · simp

/-- The boundary lies behind a brace that opens nothing, and the literals on both sides become
one. -/
theorem compile_append_openBrace :
    Parted "\x7bx:Text\x7d\x7b" "y:\x7bz:Real\x7d\x7d" ∧
    compile .find "pair" "\x7bx:Text\x7d\x7b" =
      .ok ⟨.find, "pair", "?\x7b", [⟨1, "x", .text⟩]⟩ ∧
    compile .find "pair" "y:\x7bz:Real\x7d\x7d" =
      .ok ⟨.find, "pair", "y:?\x7d", [⟨1, "z", .real⟩]⟩ ∧
    ∃ q, compile .find "pair" ("\x7bx:Text\x7d\x7b" ++ "y:\x7bz:Real\x7d\x7d") = .ok q ∧
      q.text = "?\x7by:?\x7d" ∧ q.params = [⟨1, "x", .text⟩, ⟨2, "z", .real⟩] := by
  have hparted : Parted "\x7bx:Text\x7d\x7b" "y:\x7bz:Real\x7d\x7d" := by decide +kernel
  have hleft : compile .find "pair" "\x7bx:Text\x7d\x7b" =
      .ok ⟨.find, "pair", "?\x7b", [⟨1, "x", .text⟩]⟩ := by decide +kernel
  have hright : compile .find "pair" "y:\x7bz:Real\x7d\x7d" =
      .ok ⟨.find, "pair", "y:?\x7d", [⟨1, "z", .real⟩]⟩ := by decide +kernel
  obtain ⟨hok, hquery, -⟩ := compile_append hparted .find "pair"
  obtain ⟨q, hq⟩ := hok.2 ⟨⟨_, hleft⟩, ⟨_, hright⟩⟩
  obtain ⟨htext, hparams⟩ := hquery q _ _ hq hleft hright
  exact ⟨hparted, hleft, hright, q, hq, htext, hparams⟩

end Query

end DatasetCompiler
