import DatasetCompiler.Filter
import Mathlib.Data.List.Forall2

/-!
# Reading literals back

A C compiler reads a literal from left to right and stops at the first quote that is not escaped, so
an escape that is left out, or one too many, would end the literal at another place.  `read?` is
such a reader, for the three escapes that are ever written; it refuses any other escape and a
literal that runs over the end of its line.

What is written for a text, with anything behind it, is read as this text with that behind it, and
nothing else is read so.  All statements go into the accessor source as literals, and every one of
them is read back as it was.
-/

namespace DatasetCompiler

namespace CLiteral

/-! ### The reader -/

/-- The character that an escape stands for, by the character behind the backslash. -/
def escaped? (code : Char) : Option Char :=
  if code = '\\' then some '\\'
  else if code = '"' then some '"'
  else if code = 'n' then some '\n'
  else none

/-- The text begins with one more character. -/
def push (c : Char) (read : Option (List Char × List Char)) : Option (List Char × List Char) :=
  read.map fun (text, rest) => (c :: text, rest)

/-- Reads inside a literal, perhaps behind a backslash: the text up to the closing quote, and what
is left. -/
def readBody : (escape : Bool) → List Char → Option (List Char × List Char)
  | _, [] => none
  | false, c :: cs =>
    if c = '"' then some ([], cs)
    else if c = '\n' then none
    else if c = '\\' then readBody true cs
    else push c (readBody false cs)
  | true, code :: cs =>
    match escaped? code with
    | some meant => push meant (readBody false cs)
    | none => none

/-- Reads a literal: its text, and what is left behind it. -/
def read? (source : String) : Option (String × String) :=
  match source.toList with
  | [] => none
  | c :: cs =>
    if c = '"' then
      (readBody false cs).map fun (text, rest) => (String.ofList text, String.ofList rest)
    else none

/-- Whatever follows the literal, it is read as the text and nothing of what follows. -/
def Quotes (literal text : String) : Prop :=
  ∀ rest, read? (literal ++ rest) = some (text, rest)

/-! ### Characters -/

theorem encodeChar_of_ne {c : Char} (hquote : c ≠ '"') (hslash : c ≠ '\\') (hline : c ≠ '\n') :
    encodeChar c = [c] := by
  unfold encodeChar
  split <;> simp_all

theorem readBody_encodeChar_append (c : Char) (cs : List Char) :
    readBody false (encodeChar c ++ cs) = push c (readBody false cs) := by
  by_cases hquote : c = '"'
  · subst hquote
    rfl
  by_cases hslash : c = '\\'
  · subst hslash
    rfl
  by_cases hline : c = '\n'
  · subst hline
    rfl
  rw [encodeChar_of_ne hquote hslash hline, List.singleton_append, readBody, if_neg hquote,
    if_neg hline, if_neg hslash]

theorem encodeChar_of_escaped? {code meant : Char} (h : escaped? code = some meant) :
    encodeChar meant = ['\\', code] := by
  unfold escaped? at h
  split at h
  · rename_i hcode
    obtain rfl := Option.some.inj h
    rw [hcode]
    rfl
  · split at h
    · rename_i hcode
      obtain rfl := Option.some.inj h
      rw [hcode]
      rfl
    · split at h
      · rename_i hcode
        obtain rfl := Option.some.inj h
        rw [hcode]
        rfl
      · cases h

theorem newline_notMem_encodeChar (c : Char) : '\n' ∉ encodeChar c := by
  by_cases hline : c = '\n'
  · subst hline
    decide
  · unfold encodeChar
    split <;> simp_all [eq_comm]

/-! ### Texts -/

theorem encode_cons (c : Char) (cs : List Char) : encode (c :: cs) = encodeChar c ++ encode cs :=
  List.flatMap_cons

theorem readBody_encode_append (text rest : List Char) :
    readBody false (encode text ++ '"' :: rest) = some (text, rest) := by
  induction text with
  | nil => rfl
  | cons c cs ih =>
    rw [encode_cons, List.append_assoc, readBody_encodeChar_append, ih]
    rfl

theorem push_eq_some_iff {c : Char} {read : Option (List Char × List Char)}
    {text rest : List Char} :
    push c read = some (text, rest) ↔ ∃ tail, text = c :: tail ∧ read = some (tail, rest) := by
  simp only [push, Option.map_eq_some_iff, Prod.exists, Prod.mk.injEq]
  constructor
  · rintro ⟨tail, left, hread, rfl, rfl⟩
    exact ⟨tail, rfl, hread⟩
  · rintro ⟨tail, rfl, hread⟩
    exact ⟨tail, rest, hread, rfl, rfl⟩

theorem eq_encode_append_of_readBody {cs text rest : List Char} :
    (readBody false cs = some (text, rest) → cs = encode text ++ '"' :: rest) ∧
    (readBody true cs = some (text, rest) → '\\' :: cs = encode text ++ '"' :: rest) := by
  induction cs generalizing text with
  | nil =>
    constructor
    · intro h
      cases h
    · intro h
      cases h
  | cons c cs ih =>
    constructor
    · intro h
      unfold readBody at h
      split at h
      · rename_i hquote
        obtain ⟨rfl, rfl⟩ := Prod.mk.inj (Option.some.inj h)
        rw [hquote]
        rfl
      · rename_i hquote
        split at h
        · cases h
        · rename_i hline
          split at h
          · rename_i hslash
            rw [hslash]
            exact ih.2 h
          · rename_i hslash
            obtain ⟨tail, rfl, htail⟩ := push_eq_some_iff.1 h
            rw [encode_cons, encodeChar_of_ne hquote hslash hline, ih.1 htail]
            rfl
    · intro h
      unfold readBody at h
      split at h
      · rename_i meant hmeant
        obtain ⟨tail, rfl, htail⟩ := push_eq_some_iff.1 h
        rw [encode_cons, encodeChar_of_escaped? hmeant, ih.1 htail]
        rfl
      · cases h

theorem toList_ofText_append (text rest : String) :
    (ofText text ++ rest).toList = '"' :: (encode text.toList ++ '"' :: rest.toList) := by
  simp [ofText]

theorem quotes_ofText (text : String) : Quotes (ofText text) text := by
  intro rest
  rw [read?, toList_ofText_append]
  simp only [if_true, readBody_encode_append, Option.map_some, String.ofList_toList]

theorem eq_ofText_append_of_read? {source text rest : String}
    (h : read? source = some (text, rest)) : source = ofText text ++ rest := by
  rw [← String.toList_inj, toList_ofText_append]
  unfold read? at h
  split at h
  · cases h
  · rename_i c cs hsource
    split at h
    · rename_i hquote
      obtain ⟨⟨chars, left⟩, hread, heq⟩ := Option.map_eq_some_iff.1 h
      obtain ⟨rfl, rfl⟩ := Prod.mk.inj heq
      rw [hsource, hquote, eq_encode_append_of_readBody.1 hread]
      simp
    · cases h

theorem ofText_injective : Function.Injective ofText := by
  intro text other heq
  have htext := quotes_ofText text ""
  rw [heq, quotes_ofText other ""] at htext
  exact (Prod.mk.inj (Option.some.inj htext)).1.symm

theorem newline_notMem_ofText (text : String) : '\n' ∉ (ofText text).toList := by
  intro hline
  simp only [ofText, String.toList_ofList, encode, List.mem_append, List.mem_cons,
    List.mem_flatMap, List.not_mem_nil, or_false] at hline
  rcases hline with (hquote | ⟨c, -, hc⟩) | hquote
  · exact absurd hquote (by decide)
  · exact newline_notMem_encodeChar c hc
  · exact absurd hquote (by decide)

end CLiteral

/-! ### Results that agree -/

section Agrees

variable {α β γ δ : Type}

/-- Both fail with the same violation, or both succeed with related values. -/
def Agrees (rel : α → β → Prop) : Except KeyViolation α → Except KeyViolation β → Prop
  | .ok a, .ok b => rel a b
  | .error v, .error w => v = w
  | _, _ => False

theorem agrees_map {rel : β → α → Prop} {f : α → β} (h : ∀ a, rel (f a) a)
    (result : Except KeyViolation α) : Agrees rel (result.map f) result := by
  cases result with
  | error v => rfl
  | ok a => exact h a

theorem Agrees.bind {rel : α → β → Prop} {next : γ → δ → Prop} {left : Except KeyViolation α}
    {right : Except KeyViolation β} {f : α → Except KeyViolation γ} {g : β → Except KeyViolation δ}
    (h : Agrees rel left right) (hnext : ∀ a b, rel a b → Agrees next (f a) (g b)) :
    Agrees next (left >>= f) (right >>= g) := by
  cases left with
  | error v =>
    cases right with
    | error w => exact h
    | ok b => exact h.elim
  | ok a =>
    cases right with
    | error w => exact h.elim
    | ok b => exact hnext a b h

theorem Agrees.mapM {rel : α → β → Prop} {f : γ → Except KeyViolation α}
    {g : γ → Except KeyViolation β} (h : ∀ item, Agrees rel (f item) (g item)) (items : List γ) :
    Agrees (List.Forall₂ rel) (items.mapM f) (items.mapM g) := by
  induction items with
  | nil => exact List.Forall₂.nil
  | cons item items ih =>
    rw [List.mapM_cons, List.mapM_cons]
    refine (h item).bind ?_
    intro a b hab
    refine ih.bind ?_
    intro as bs habs
    exact List.Forall₂.cons hab habs

end Agrees

/-! ### Filters for statements -/

open CLiteral (Quotes)

/-- The statements that a filter is about. -/
inductive Statements where
  | model (text : Model → String)
  | keyed (text : Model → Except KeyViolation String)
  | query (text : Model → Query → String)

namespace Statements

/-- The statements for all parts of a dataset, in order. -/
def texts (d : Dataset) : Statements → Except KeyViolation (List String)
  | .model text => .ok (d.models.map text)
  | .keyed text => d.models.mapM text
  | .query text => .ok (d.models.flatMap fun m => m.queries.map (text m))

/-- The filters for statements of the accessor source, each with the statements it is about. -/
def filters : List (String × Statements) := [
  ("model_insert_query_string", .model Model.insertStatement),
  ("model_create_table_query_string", .model Model.createTableStatement),
  ("models_get_all_query_string", .model Model.getAllStatement),
  ("models_count_all_query_string", .model Model.countAllStatement),
  ("models_delete_all_query_string", .model Model.deleteAllStatement),
  ("model_find_by_id_query_string", .keyed Model.findByIdStatement),
  ("model_delete_by_id_query_string", .keyed Model.deleteByIdStatement),
  ("query_get_full_string", .query Model.queryStatement),
  ("select_query_get_count_query_string", .query Model.selectCountStatement)]

/-- The filter gives literals of just these statements: it is about the same parts of a dataset, and
fails where the statement does. -/
inductive QuotedBy : Statements → Filter → Prop where
  | model {text apply : Model → String} (h : ∀ m, Quotes (apply m) (text m)) :
      QuotedBy (.model text) (.model apply)
  | keyed {text apply : Model → Except KeyViolation String}
      (h : ∀ m, Agrees Quotes (apply m) (text m)) : QuotedBy (.keyed text) (.checkedModel apply)
  | query {text apply : Model → Query → String} (h : ∀ m q, Quotes (apply m q) (text m q)) :
      QuotedBy (.query text) (.query apply)

theorem forall₂_map {α β γ : Type} {rel : β → γ → Prop} {f : α → β} {g : α → γ}
    (h : ∀ item, rel (f item) (g item)) (items : List α) :
    List.Forall₂ rel (items.map f) (items.map g) := by
  rw [List.forall₂_map_left_iff, List.forall₂_map_right_iff, List.forall₂_same]
  intro item _
  exact h item

theorem QuotedBy.values {statements : Statements} {filter : Filter} (h : QuotedBy statements filter)
    (vars : Variables) (d : Dataset) :
    Agrees (List.Forall₂ Quotes) (filter.values vars d) (statements.texts d) := by
  cases h with
  | model h => exact forall₂_map h d.models
  | keyed h => exact Agrees.mapM h d.models
  | query h =>
    change List.Forall₂ Quotes (d.models.flatMap _) (d.models.flatMap _)
    rw [List.flatMap_def, List.flatMap_def]
    exact List.rel_flatten (forall₂_map (fun m => forall₂_map (h m) m.queries) d.models)

theorem exists_filter_of_mem {name : String} {statements : Statements}
    (h : (name, statements) ∈ filters) :
    ∃ filter, Template.accessorSource.filter? name = some filter ∧ QuotedBy statements filter := by
  simp only [filters, List.mem_cons, List.not_mem_nil, or_false, Prod.mk.injEq] at h
  rcases h with ⟨rfl, rfl⟩ | ⟨rfl, rfl⟩ | ⟨rfl, rfl⟩ | ⟨rfl, rfl⟩ | ⟨rfl, rfl⟩ | ⟨rfl, rfl⟩ |
    ⟨rfl, rfl⟩ | ⟨rfl, rfl⟩ | ⟨rfl, rfl⟩
  · exact ⟨_, rfl, .model fun m => CLiteral.quotes_ofText _⟩
  · exact ⟨_, rfl, .model fun m => CLiteral.quotes_ofText _⟩
  · exact ⟨_, rfl, .model fun m => CLiteral.quotes_ofText _⟩
  · exact ⟨_, rfl, .model fun m => CLiteral.quotes_ofText _⟩
  · exact ⟨_, rfl, .model fun m => CLiteral.quotes_ofText _⟩
  · exact ⟨_, rfl, .keyed fun m => agrees_map CLiteral.quotes_ofText _⟩
  · exact ⟨_, rfl, .keyed fun m => agrees_map CLiteral.quotes_ofText _⟩
  · exact ⟨_, rfl, .query fun m q => CLiteral.quotes_ofText _⟩
  · exact ⟨_, rfl, .query fun m q => CLiteral.quotes_ofText _⟩

end Statements

/-- Literals are read back.  What is written for a text is read as that text, with all that follows
left over, and nothing else is read so; different texts have different literals, and a literal stays
on its line.  Every filter of the accessor source that writes statements gives the literals of these
statements, for every model or query of a dataset, and fails only if there is no statement. -/
theorem CLiteral.read_back :
    (∀ text rest, read? (ofText text ++ rest) = some (text, rest)) ∧
    (∀ source text rest, read? source = some (text, rest) → source = ofText text ++ rest) ∧
    Function.Injective ofText ∧
    (∀ text, '\n' ∉ (ofText text).toList) ∧
    ∀ name statements, (name, statements) ∈ Statements.filters →
      ∃ filter, Template.accessorSource.filter? name = some filter ∧
        Statements.QuotedBy statements filter ∧
        ∀ vars d, Agrees (List.Forall₂ Quotes) (filter.values vars d) (statements.texts d) := by
  refine ⟨quotes_ofText, fun _ _ _ => eq_ofText_append_of_read?, ofText_injective,
    newline_notMem_ofText, ?_⟩
  intro name statements hmem
  obtain ⟨filter, hfilter, hquoted⟩ := Statements.exists_filter_of_mem hmem
  exact ⟨filter, hfilter, hquoted, hquoted.values⟩

/-- A query with a quoted word that ends with a backslash, over two lines. -/
theorem CLiteral.read_back_query :
    let q : Query := ⟨.select, "named", "WHERE name = \"a\\\"\nOR name = 'n'", []⟩
    let m : Model := ⟨"User", [], [q], none, some "users"⟩
    ("query_get_full_string", .query Model.queryStatement) ∈ Statements.filters ∧
    m.queryStatement q = "SELECT * FROM users WHERE name = \"a\\\"\nOR name = 'n'" ∧
    ∃ filter, Template.accessorSource.filter? "query_get_full_string" = some filter ∧
      ∃ literal, filter.values .default ⟨"app", [m]⟩ = .ok [literal] ∧
        ∀ rest, read? (literal ++ rest) = some (m.queryStatement q, rest) := by
  intro q m
  have hmem : ("query_get_full_string", .query Model.queryStatement) ∈ Statements.filters := by
    simp [Statements.filters]
  obtain ⟨-, -, -, -, hfilters⟩ := read_back
  obtain ⟨filter, hfilter, -, hvalues⟩ := hfilters _ _ hmem
  refine ⟨hmem, by decide +kernel, filter, hfilter, ?_⟩
  have hagrees := hvalues .default ⟨"app", [m]⟩
  cases hfound : filter.values .default ⟨"app", [m]⟩ with
  | error v =>
    rw [hfound] at hagrees
    exact hagrees.elim
  | ok literals =>
    rw [hfound] at hagrees
    have hone : List.Forall₂ Quotes literals [m.queryStatement q] := hagrees
    cases hone with
    | cons hliteral hnil =>
      cases hnil
      exact ⟨_, rfl, hliteral⟩

end DatasetCompiler
