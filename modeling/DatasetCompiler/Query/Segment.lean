import DatasetCompiler.Text.WordChar

/-!
# Query text

The text of a query holds placeholders of the form `{name:Type}`, where the name and the type are
nonempty runs of word characters.  A text falls into segments, placeholders and the literal text
between them.  Nothing else is special: a brace that does not begin a placeholder is literal text.

Main definitions: `Segment` with its `source`, and `segments`, which cuts a text from left to right
at every placeholder.
-/

namespace DatasetCompiler

inductive Segment where
  | literal (text : String)
  | placeholder (name typeName : String)
deriving DecidableEq, Repr

def Segment.source : Segment → String
  | .literal text => text
  | .placeholder name typeName => "\x7b" ++ name ++ ":" ++ typeName ++ "\x7d"

namespace QueryText

def spanWord (cs : List Char) : List Char × List Char :=
  (cs.takeWhile Text.isWord, cs.dropWhile Text.isWord)

def dropChar? (c : Char) : List Char → Option (List Char)
  | [] => none
  | d :: cs => if d = c then some cs else none

structure Match where
  name : List Char
  typeName : List Char
  rest : List Char
deriving DecidableEq, Repr

/-- The placeholder behind an opening brace, if there is one.  The name is a longest run of word
characters, since the colon behind it is no word character, and so is the type. -/
def matchBody? (cs : List Char) : Option Match :=
  let (name, afterName) := spanWord cs
  if name = [] then none
  else
    match dropChar? ':' afterName with
    | none => none
    | some afterColon =>
      let (typeName, afterType) := spanWord afterColon
      if typeName = [] then none
      else (dropChar? '}' afterType).map (⟨name, typeName, ·⟩)

def match? (cs : List Char) : Option Match :=
  (dropChar? '{' cs).bind matchBody?

theorem length_lt_of_dropChar? {c : Char} {cs rest : List Char}
    (h : dropChar? c cs = some rest) : rest.length < cs.length := by
  cases cs with
  | nil => simp [dropChar?] at h
  | cons d cs =>
    simp only [dropChar?] at h
    split at h
    · obtain rfl := Option.some.inj h
      simp
    · cases h

theorem length_spanWord_le (cs : List Char) : (spanWord cs).2.length ≤ cs.length :=
  (List.dropWhile_sublist Text.isWord).length_le

theorem length_rest_lt_of_match? {cs : List Char} {m : Match} (h : match? cs = some m) :
    m.rest.length < cs.length := by
  simp only [match?, Option.bind_eq_some_iff] at h
  obtain ⟨body, hbody, hmatch⟩ := h
  have hbrace := length_lt_of_dropChar? hbody
  simp only [matchBody?] at hmatch
  split at hmatch
  · cases hmatch
  · split at hmatch
    · cases hmatch
    · rename_i afterColon hcolon
      split at hmatch
      · cases hmatch
      · obtain ⟨rest, hrest, rfl⟩ := Option.map_eq_some_iff.1 hmatch
        have hname := length_spanWord_le body
        have hcolon := length_lt_of_dropChar? hcolon
        have htype := length_spanWord_le afterColon
        have hclose := length_lt_of_dropChar? hrest
        simp only at *
        omega

/-- Puts a literal character in front of segments; it joins a literal that stands there. -/
def consLiteral (c : Char) : List Segment → List Segment
  | .literal text :: rest => .literal (String.singleton c ++ text) :: rest
  | rest => .literal (String.singleton c) :: rest

def cut (cs : List Char) : List Segment :=
  match _h : match? cs with
  | some m => .placeholder (String.ofList m.name) (String.ofList m.typeName) :: cut m.rest
  | none =>
    match cs with
    | [] => []
    | c :: rest => consLiteral c (cut rest)
termination_by cs.length
decreasing_by
  · exact length_rest_lt_of_match? _h
  · simp

def segments (raw : String) : List Segment :=
  cut raw.toList

/-- The text that segments were cut from. -/
def source (segs : List Segment) : String :=
  String.join (segs.map Segment.source)

end QueryText

end DatasetCompiler
