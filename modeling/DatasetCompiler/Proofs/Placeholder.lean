import DatasetCompiler.Query.Segment
import Mathlib.Data.List.Infix
import Mathlib.Data.List.TakeWhile

/-!
# Placeholders in a text

What it means that a text has a placeholder somewhere, said without the functions that look for
one.  A placeholder at the front of a text is exactly what `match?` finds there, and the three
characters that hold a placeholder together are no word characters.  So a placeholder has one
reading only, and a text that breaks off inside one is not completed by a text that begins with a
brace.

Main definitions: `Occurrence`, a placeholder with the text on both sides of it, and
`HasPlaceholder`.
-/

namespace DatasetCompiler

namespace Text

theorem isWord_openBrace : isWord '{' = false := by decide

theorem isWord_colon : isWord ':' = false := by decide

theorem isWord_closeBrace : isWord '}' = false := by decide

theorem isWord_questionMark : isWord '?' = false := by decide

/-- A nonempty run of word characters. -/
def IsWordRun (cs : List Char) : Prop := cs ≠ [] ∧ ∀ c ∈ cs, isWord c = true

/-- A nonempty text of word characters. -/
def IsWordText (s : String) : Prop := IsWordRun s.toList

instance (s : String) : Decidable (IsWordText s) :=
  decidable_of_iff (s.toList ≠ [] ∧ s.toList.all isWord = true) (by simp [IsWordText, IsWordRun])

theorem isWordText_ofList {cs : List Char} : IsWordText (String.ofList cs) ↔ IsWordRun cs := by
  simp [IsWordText]

theorem IsWordRun.not_mem {cs : List Char} (h : IsWordRun cs) {c : Char}
    (hc : isWord c = false) : c ∉ cs := by
  intro hmem
  rw [h.2 c hmem] at hc
  cases hc

end Text

open Text

/-- A placeholder of `raw`, with the text before and after it. -/
structure Occurrence (raw : String) where
  before : String
  name : String
  typeName : String
  after : String
  name_word : IsWordText name
  typeName_word : IsWordText typeName
  raw_eq : raw = before ++ (Segment.placeholder name typeName).source ++ after
deriving DecidableEq

theorem Occurrence.toList_raw {raw : String} (o : Occurrence raw) :
    raw.toList = o.before.toList ++
      ((Segment.placeholder o.name o.typeName).source.toList ++ o.after.toList) := by
  have h := congrArg String.toList o.raw_eq
  simpa using h

/-- Whether a text has a placeholder anywhere. -/
def HasPlaceholder (raw : String) : Prop := Nonempty (Occurrence raw)

namespace QueryText

/-! ### The front of a text -/

theorem dropChar?_eq_some_iff {c : Char} {cs rest : List Char} :
    dropChar? c cs = some rest ↔ cs = c :: rest := by
  cases cs with
  | nil => simp [dropChar?]
  | cons d cs => simp [dropChar?]

theorem spanWord_append {word rest : List Char} {c : Char} (hword : ∀ d ∈ word, isWord d = true)
    (hc : isWord c = false) : spanWord (word ++ c :: rest) = (word, c :: rest) := by
  rw [spanWord, List.takeWhile_append_of_pos hword, List.dropWhile_append_of_pos hword]
  simp [hc]

theorem spanWord_fst_append_snd (cs : List Char) : (spanWord cs).1 ++ (spanWord cs).2 = cs :=
  List.takeWhile_append_dropWhile

theorem isWordRun_spanWord {cs : List Char} (h : (spanWord cs).1 ≠ []) :
    IsWordRun (spanWord cs).1 :=
  ⟨h, fun _ hc => List.mem_takeWhile_imp hc⟩

theorem matchBody?_eq_some_iff {cs : List Char} {m : Match} :
    matchBody? cs = some m ↔
      IsWordRun m.name ∧ IsWordRun m.typeName ∧
        cs = m.name ++ ':' :: (m.typeName ++ '}' :: m.rest) := by
  constructor
  · intro h
    simp only [matchBody?] at h
    split at h
    · cases h
    · rename_i hname
      split at h
      · cases h
      · rename_i afterColon hcolon
        split at h
        · cases h
        · rename_i htype
          obtain ⟨rest, hclose, rfl⟩ := Option.map_eq_some_iff.1 h
          rw [dropChar?_eq_some_iff] at hcolon hclose
          refine ⟨isWordRun_spanWord hname, isWordRun_spanWord htype, ?_⟩
          show cs = (spanWord cs).1 ++ ':' :: ((spanWord afterColon).1 ++ '}' :: rest)
          rw [← hclose, spanWord_fst_append_snd, ← hcolon, spanWord_fst_append_snd]
  · rintro ⟨hname, htype, rfl⟩
    simp [matchBody?, spanWord_append hname.2 isWord_colon,
      spanWord_append htype.2 isWord_closeBrace, dropChar?, hname.1, htype.1]

/-- A match at the front of a text is a placeholder written there, and the rest. -/
theorem match?_eq_some_iff {cs : List Char} {m : Match} :
    match? cs = some m ↔
      IsWordRun m.name ∧ IsWordRun m.typeName ∧
        cs = '{' :: (m.name ++ ':' :: (m.typeName ++ '}' :: m.rest)) := by
  rw [match?, Option.bind_eq_some_iff]
  constructor
  · rintro ⟨body, hbrace, hbody⟩
    obtain ⟨hname, htype, rfl⟩ := matchBody?_eq_some_iff.1 hbody
    exact ⟨hname, htype, dropChar?_eq_some_iff.1 hbrace⟩
  · rintro ⟨hname, htype, rfl⟩
    exact ⟨_, dropChar?_eq_some_iff.2 rfl, matchBody?_eq_some_iff.2 ⟨hname, htype, rfl⟩⟩

theorem toList_placeholder_source (name typeName : String) :
    (Segment.placeholder name typeName).source.toList =
      '{' :: (name.toList ++ ':' :: (typeName.toList ++ ['}'])) := by
  simp [Segment.source]

theorem match?_placeholder_append {name typeName : String} (hname : IsWordText name)
    (htype : IsWordText typeName) (rest : List Char) :
    match? ((Segment.placeholder name typeName).source.toList ++ rest) =
      some ⟨name.toList, typeName.toList, rest⟩ := by
  rw [match?_eq_some_iff]
  refine ⟨hname, htype, ?_⟩
  simp [toList_placeholder_source]

/-- Behind its first character a placeholder has no opening brace. -/
theorem openBrace_notMem_placeholder_tail {name typeName : List Char} (hname : IsWordRun name)
    (htype : IsWordRun typeName) : '{' ∉ name ++ ':' :: (typeName ++ ['}']) := by
  simp [hname.not_mem isWord_openBrace, htype.not_mem isWord_openBrace]

/-- What may follow a literal: the end, or something that begins with an opening brace. -/
def Opens (rest : List Char) : Prop := rest = [] ∨ ∃ tail, rest = '{' :: tail

/-- A placeholder at the front of a longer text that is not to be found in the beginning of it
reaches beyond that beginning. -/
theorem exists_cover_of_match?_append {text rest : List Char} {m : Match}
    (hnone : match? text = none) (hm : match? (text ++ rest) = some m) :
    ∃ cover, cover ≠ [] ∧ '{' :: (m.name ++ ':' :: (m.typeName ++ ['}'])) = text ++ cover ∧
      rest = cover ++ m.rest := by
  obtain ⟨hname, htype, heq⟩ := match?_eq_some_iff.1 hm
  have hsplit : text ++ rest = ('{' :: (m.name ++ ':' :: (m.typeName ++ ['}']))) ++ m.rest := by
    simpa using heq
  have hends : ∀ extra, text ≠ ('{' :: (m.name ++ ':' :: (m.typeName ++ ['}']))) ++ extra := by
    intro extra htext
    have hmatch : match? text = some ⟨m.name, m.typeName, extra⟩ := by
      rw [match?_eq_some_iff]
      exact ⟨hname, htype, by simpa using htext⟩
    rw [hnone] at hmatch
    cases hmatch
  rcases List.append_eq_append_iff.1 hsplit with ⟨cover, hwritten, hcover⟩ | ⟨extra, htext, _⟩
  · refine ⟨cover, ?_, hwritten, hcover⟩
    rintro rfl
    exact hends [] (by rw [hwritten]; simp)
  · exact absurd htext (hends extra)

/-- A nonempty text that does not begin with a placeholder still does not if something that opens
with a brace follows: a placeholder across the boundary would have that brace inside. -/
theorem match?_append_eq_none {text rest : List Char} (hne : text ≠ [])
    (hnone : match? text = none) (hrest : Opens rest) : match? (text ++ rest) = none := by
  by_contra hsome
  obtain ⟨m, hm⟩ := Option.ne_none_iff_exists'.1 hsome
  obtain ⟨hname, htype, -⟩ := match?_eq_some_iff.1 hm
  obtain ⟨cover, hcover, hwritten, hreach⟩ := exists_cover_of_match?_append hnone hm
  obtain ⟨c, cover, rfl⟩ := List.exists_cons_of_ne_nil hcover
  obtain ⟨d, text, rfl⟩ := List.exists_cons_of_ne_nil hne
  rcases hrest with rfl | ⟨tail, rfl⟩
  · simp at hreach
  · obtain ⟨rfl, -⟩ := List.cons.inj hreach
    have hmem : '{' ∈ m.name ++ ':' :: (m.typeName ++ ['}']) := by
      rw [(List.cons.inj hwritten).2]
      simp
    exact openBrace_notMem_placeholder_tail hname htype hmem

/-! ### Anywhere in a text -/

/-- No placeholder begins anywhere in these characters. -/
def Free (cs : List Char) : Prop := ∀ suffix ∈ cs.tails, match? suffix = none

instance (cs : List Char) : Decidable (Free cs) :=
  decidable_of_iff ((cs.tails.all fun suffix => match? suffix = none) = true) (by simp [Free])

theorem free_nil : Free [] := by decide

theorem free_cons {c : Char} {cs : List Char} :
    Free (c :: cs) ↔ match? (c :: cs) = none ∧ Free cs := by
  simp [Free]

/-- A text without placeholders is one in which none begins anywhere. -/
theorem not_hasPlaceholder_iff_free {raw : String} : ¬ HasPlaceholder raw ↔ Free raw.toList := by
  constructor
  · intro hnot suffix hsuffix
    obtain ⟨before, hbefore⟩ := (List.mem_tails _ _).1 hsuffix
    by_contra hsome
    obtain ⟨m, hm⟩ := Option.ne_none_iff_exists'.1 hsome
    obtain ⟨hname, htype, heq⟩ := match?_eq_some_iff.1 hm
    refine hnot ⟨⟨String.ofList before, String.ofList m.name, String.ofList m.typeName,
      String.ofList m.rest, isWordText_ofList.2 hname, isWordText_ofList.2 htype, ?_⟩⟩
    apply String.toList_injective
    rw [← hbefore, heq]
    simp [toList_placeholder_source]
  · rintro hfree ⟨o⟩
    have hsuffix : (Segment.placeholder o.name o.typeName).source.toList ++ o.after.toList ∈
        raw.toList.tails := by
      rw [List.mem_tails]
      exact ⟨o.before.toList, o.toList_raw.symm⟩
    have hnone := hfree _ hsuffix
    rw [match?_placeholder_append o.name_word o.typeName_word] at hnone
    cases hnone

instance (raw : String) : Decidable (HasPlaceholder raw) :=
  decidable_of_iff (¬ Free raw.toList) (by rw [← not_hasPlaceholder_iff_free, not_not])

end QueryText

end DatasetCompiler
