import DatasetCompiler.Query
import DatasetCompiler.Proofs.Segmentation

/-!
# Placeholders become parameters

The placeholders of a text in order, once as the pairs of name and type among its segments and once
as occurrences with their surroundings.  Numbering fails at the first pair with an unknown type and
otherwise gives one parameter for each pair, with consecutive positions.

Main definitions: `QueryText.placeholders` and `Occurrence.list`.
-/

namespace DatasetCompiler

/-! ### Types by name -/

namespace FieldType

theorem ofName?_eq_some_iff {typeName : String} {type : FieldType} :
    ofName? typeName = some type ↔ type.name = typeName := by
  constructor
  · intro h
    simpa using List.find?_some h
  · rintro rfl
    cases type <;> decide

theorem ofName?_eq_none_iff {typeName : String} :
    ofName? typeName = none ↔
      typeName ∉ ["PrimaryKey", "ForeignKey", "Integer", "Real", "Text", "Blob"] := by
  rw [ofName?, List.find?_eq_none]
  simp [all, name, eq_comm]

theorem named_eq_ok_iff {typeName : String} {type : FieldType} :
    named typeName = .ok type ↔ type.name = typeName := by
  rw [← ofName?_eq_some_iff, named]
  cases ofName? typeName with
  | none => simp
  | some found => simp

theorem named_eq_error {typeName : String} (h : ofName? typeName = none) :
    named typeName = .error (.ofKind (.unknownFieldType typeName)) := by
  simp [named, h]

theorem name_injective : Function.Injective name :=
  Function.IsPartialInv.injective fun _ _ => ofName?_eq_some_iff

end FieldType

/-- A parameter is determined by its name, the name of its type and its position. -/
theorem QueryParam.described_injective :
    Function.Injective fun p : QueryParam => ((p.name, p.type.name), p.position) := by
  rintro ⟨position, name, type⟩ ⟨position', name', type'⟩ heq
  simp only [Prod.mk.injEq] at heq
  obtain ⟨⟨rfl, htypes⟩, rfl⟩ := heq
  rw [FieldType.name_injective htypes]

namespace QueryText

/-! ### Names and types -/

/-- The names and types of the placeholders among segments, in order. -/
def placeholders : List Segment → List (String × String)
  | [] => []
  | .literal _ :: segs => placeholders segs
  | .placeholder name typeName :: segs => (name, typeName) :: placeholders segs

@[simp] theorem placeholders_append (left right : List Segment) :
    placeholders (left ++ right) = placeholders left ++ placeholders right := by
  induction left with
  | nil => rfl
  | cons seg left ih =>
    cases seg with
    | literal text => simpa [placeholders] using ih
    | placeholder name typeName => simpa [placeholders] using ih

/-! ### Numbering -/

/-- The placeholders whose type is unknown, in order. -/
def unknownTypes (segs : List Segment) : List String :=
  ((placeholders segs).map Prod.snd).filter fun typeName => FieldType.ofName? typeName = none

theorem numberFrom_eq_ok {segs : List Segment} (h : unknownTypes segs = []) (position : Nat) :
    ∃ params, numberFrom position segs = .ok params ∧
      params.map (fun p => ((p.name, p.type.name), p.position)) =
        (placeholders segs).zipIdx position := by
  induction segs generalizing position with
  | nil => exact ⟨[], rfl, rfl⟩
  | cons seg segs ih =>
    cases seg with
    | literal text => exact ih h position
    | placeholder name typeName =>
      have hknown : FieldType.ofName? typeName ≠ none := by
        intro hnone
        simp [unknownTypes, placeholders, hnone] at h
      have hrest : unknownTypes segs = [] := by
        simpa [unknownTypes, placeholders, hknown] using h
      obtain ⟨type, htype⟩ := Option.ne_none_iff_exists'.1 hknown
      rw [FieldType.ofName?_eq_some_iff] at htype
      obtain ⟨params, hparams, hnumbered⟩ := ih hrest (position + 1)
      refine ⟨⟨position, name, type⟩ :: params, ?_, ?_⟩
      · rw [numberFrom, FieldType.named_eq_ok_iff.2 htype, hparams]
        rfl
      · simp [placeholders, List.zipIdx_cons, hnumbered, htype]

theorem numberFrom_eq_error {segs : List Segment} {typeName : String} {later : List String}
    (h : unknownTypes segs = typeName :: later) (position : Nat) :
    numberFrom position segs = .error (.ofKind (.unknownFieldType typeName)) := by
  induction segs generalizing position with
  | nil => simp [unknownTypes, placeholders] at h
  | cons seg segs ih =>
    cases seg with
    | literal text => exact ih h position
    | placeholder name firstType =>
      rw [numberFrom]
      cases hfirst : FieldType.ofName? firstType with
      | none =>
        obtain ⟨rfl, -⟩ : firstType = typeName ∧ _ := by
          simpa [unknownTypes, placeholders, hfirst] using h
        rw [FieldType.named_eq_error hfirst]
        rfl
      | some type =>
        have hrest : unknownTypes segs = typeName :: later := by
          simpa [unknownTypes, placeholders, hfirst] using h
        rw [FieldType.named_eq_ok_iff.2 (FieldType.ofName?_eq_some_iff.1 hfirst),
          ih hrest (position + 1)]
        rfl

end QueryText

namespace Query

open QueryText

theorem compile_eq_error {raw typeName : String} {later : List String}
    (h : unknownTypes (segments raw) = typeName :: later) (type : QueryType) (name : String) :
    compile type name raw = .error (.ofKind (.unknownFieldType typeName)) := by
  rw [compile, QueryText.params, numberFrom_eq_error h]
  rfl

/-- A text whose placeholders all have known types compiles; the parameters are the placeholders,
numbered from one. -/
theorem compile_eq_ok {raw : String} (h : unknownTypes (segments raw) = []) (type : QueryType)
    (name : String) :
    ∃ params, compile type name raw = .ok ⟨type, name, substitute (segments raw), params⟩ ∧
      params.map (fun p => ((p.name, p.type.name), p.position)) =
        (placeholders (segments raw)).zipIdx 1 := by
  obtain ⟨params, hparams, hnumbered⟩ := numberFrom_eq_ok h 1
  refine ⟨params, ?_, hnumbered⟩
  rw [compile, QueryText.params, hparams]
  rfl

theorem exists_compile_eq_ok_iff {type : QueryType} {name raw : String} :
    (∃ q, compile type name raw = .ok q) ↔ unknownTypes (segments raw) = [] := by
  constructor
  · rintro ⟨q, hq⟩
    by_contra hne
    obtain ⟨typeName, later, hunknown⟩ := List.exists_cons_of_ne_nil hne
    rw [compile_eq_error hunknown] at hq
    cases hq
  · intro h
    obtain ⟨params, hcompile, -⟩ := compile_eq_ok h type name
    exact ⟨_, hcompile⟩

/-- A text that does not compile fails at its first unknown type. -/
theorem compile_eq_error_iff {type : QueryType} {name raw : String} {e : DefinitionError} :
    compile type name raw = .error e ↔
      (unknownTypes (segments raw)).head?.map (fun t => .ofKind (.unknownFieldType t)) =
        some e := by
  cases hunknown : unknownTypes (segments raw) with
  | nil =>
    obtain ⟨params, hcompile, -⟩ := compile_eq_ok hunknown type name
    simp [hcompile]
  | cons typeName later => simp [compile_eq_error hunknown]

/-- What a compiled query says, whatever made it compile. -/
theorem eq_of_compile_eq_ok {type : QueryType} {name raw : String} {q : Query}
    (h : compile type name raw = .ok q) :
    q.type = type ∧ q.name = name ∧ q.text = substitute (segments raw) ∧
      q.params.map (fun p => ((p.name, p.type.name), p.position)) =
        (placeholders (segments raw)).zipIdx 1 := by
  cases hunknown : unknownTypes (segments raw) with
  | nil =>
    obtain ⟨params, hcompile, hnumbered⟩ := compile_eq_ok hunknown type name
    obtain rfl : _ = q := Except.ok.inj (hcompile.symm.trans h)
    exact ⟨rfl, rfl, rfl, hnumbered⟩
  | cons typeName later =>
    rw [compile_eq_error hunknown] at h
    cases h

end Query

namespace Occurrence

open QueryText

/-! ### Occurrences in order -/

/-- The occurrences of a text from some segment on. -/
def listFrom {raw : String} (left : List Segment) :
    (right : List Segment) → segments raw = left ++ right → List (Occurrence raw)
  | [], _ => []
  | .literal text :: right, h => listFrom (left ++ [.literal text]) right (by simp [h])
  | .placeholder name typeName :: right, h =>
    ofSegments h :: listFrom (left ++ [.placeholder name typeName]) right (by simp [h])

/-- All placeholders of a text, in order. -/
def list (raw : String) : List (Occurrence raw) := listFrom [] (segments raw) rfl

/-- How many placeholders come before this one. -/
def rank {raw : String} (o : Occurrence raw) : Nat := (placeholders (segments o.before)).length

theorem map_listFrom {raw : String} (left right : List Segment)
    (h : segments raw = left ++ right) :
    (listFrom left right h).map (fun o => (o.name, o.typeName)) = placeholders right := by
  induction right generalizing left with
  | nil => rfl
  | cons seg right ih =>
    cases seg with
    | literal text => exact ih _ _
    | placeholder name typeName => simp [listFrom, placeholders, ih, ofSegments]

theorem rank_ofSegments {raw name typeName : String} {left right : List Segment}
    (h : segments raw = left ++ .placeholder name typeName :: right) :
    (ofSegments h).rank = (placeholders left).length := by
  have hnormal : Normal (left ++ .placeholder name typeName :: right) := h ▸ normal_segments raw
  rw [rank, ofSegments, segments_source hnormal.left]

theorem map_rank_listFrom {raw : String} (left right : List Segment)
    (h : segments raw = left ++ right) :
    (listFrom left right h).map rank =
      List.range' (placeholders left).length (placeholders right).length := by
  induction right generalizing left with
  | nil => rfl
  | cons seg right ih =>
    cases seg with
    | literal text =>
      have htail := ih (left ++ [.literal text]) (by simp [h])
      simpa [listFrom, placeholders] using htail
    | placeholder name typeName =>
      have htail := ih (left ++ [.placeholder name typeName]) (by simp [h])
      simpa [listFrom, placeholders, List.range'_succ, rank_ofSegments] using htail

theorem length_le_of_mem_listFrom {raw : String} {left right : List Segment}
    (h : segments raw = left ++ right) {o : Occurrence raw} (ho : o ∈ listFrom left right h) :
    (source left).length ≤ o.before.length := by
  induction right generalizing left with
  | nil => cases ho
  | cons seg right ih =>
    cases seg with
    | literal text =>
      have hrest := ih _ ho
      simp only [source_append, String.length_append] at hrest
      omega
    | placeholder name typeName =>
      rcases List.mem_cons.1 ho with rfl | ho
      · exact Nat.le_refl _
      · have hrest := ih _ ho
        simp only [source_append, String.length_append] at hrest
        omega

theorem pairwise_listFrom {raw : String} (left right : List Segment)
    (h : segments raw = left ++ right) :
    (listFrom left right h).Pairwise fun o o' => o.before.length < o'.before.length := by
  induction right generalizing left with
  | nil => exact List.Pairwise.nil
  | cons seg right ih =>
    cases seg with
    | literal text => exact ih _ _
    | placeholder name typeName =>
      refine List.pairwise_cons.2 ⟨?_, ih _ _⟩
      intro o ho
      have hle := length_le_of_mem_listFrom _ ho
      have hpos : 0 < (Segment.placeholder name typeName).source.length := by
        rw [← String.length_toList, toList_placeholder_source]
        simp
      simp only [source_append, source_cons, source_nil, String.length_append] at hle
      show (source left).length < o.before.length
      omega

theorem mem_listFrom {raw : String} (o : Occurrence raw) {left middle right : List Segment}
    (hright : right = middle ++ .placeholder o.name o.typeName :: segments o.after)
    (hbefore : segments o.before = left ++ middle) (h : segments raw = left ++ right) :
    o ∈ listFrom left right h := by
  subst hright
  induction middle generalizing left with
  | nil =>
    have hleft : source left = o.before := by
      rw [← source_segments o.before, hbefore, List.append_nil]
    refine List.mem_cons.2 (Or.inl ?_)
    cases o
    simp_all [ofSegments]
  | cons seg middle ih =>
    have hrest := @ih (left ++ [seg]) (by simp [hbefore]) (by simp [h])
    cases seg with
    | literal text => exact hrest
    | placeholder name typeName => exact List.mem_cons.2 (Or.inr hrest)

theorem mem_list {raw : String} (o : Occurrence raw) : o ∈ list raw :=
  o.mem_listFrom o.segments_eq rfl rfl

/-- The list holds the placeholders from left to right. -/
theorem pairwise_list (raw : String) :
    (list raw).Pairwise fun o o' => o.before.length < o'.before.length :=
  pairwise_listFrom [] (segments raw) rfl

theorem map_list (raw : String) :
    (list raw).map (fun o => (o.name, o.typeName)) = placeholders (segments raw) :=
  map_listFrom [] (segments raw) rfl

theorem length_list (raw : String) :
    (list raw).length = (placeholders (segments raw)).length := by
  rw [← map_list, List.length_map]

theorem list_eq_nil_iff {raw : String} : list raw = [] ↔ ¬ HasPlaceholder raw := by
  constructor
  · rintro hnil ⟨o⟩
    have hmem := o.mem_list
    rw [hnil] at hmem
    cases hmem
  · intro hnot
    rw [List.eq_nil_iff_forall_not_mem]
    intro o _
    exact hnot ⟨o⟩

theorem placeholders_eq_nil_iff {raw : String} :
    placeholders (segments raw) = [] ↔ ¬ HasPlaceholder raw := by
  rw [← list_eq_nil_iff, ← map_list, List.map_eq_nil_iff]

theorem rank_of_getElem?_list {raw : String} {k : Nat} {o : Occurrence raw}
    (h : (list raw)[k]? = some o) : o.rank = k := by
  have hrank : (list raw).map rank = List.range' 0 (list raw).length := by
    rw [length_list]
    exact map_rank_listFrom [] (segments raw) rfl
  have hk : k < (list raw).length := (List.getElem?_eq_some_iff.1 h).1
  have hget : ((list raw).map rank)[k]? = some o.rank := by simp [h]
  rw [hrank, List.getElem?_range' hk] at hget
  simpa using hget.symm

end Occurrence

end DatasetCompiler
