import DatasetCompiler.Definition.Error

/-!
# How a fault learns its place

On its way out a fault passes several layers, and each may tell it a model or an entry.  Model and
entry are learned independently of each other, and of each the first that the fault is told stays.
So the place depends on the models in their order and on the entries in theirs, and not on how the
two are interleaved.
-/

namespace DatasetCompiler.DefinitionError

/-- What a layer tells a fault about its place. -/
inductive Hint where
  | model (name : String)
  | entry (entry : Entry)
deriving DecidableEq, Repr

/-- The fault once it was told. -/
def tell (e : DefinitionError) : Hint → DefinitionError
  | .model name => e.inModel name
  | .entry entry => e.onEntry entry

/-- The fault after several layers, innermost layer first. -/
def tellAll (e : DefinitionError) (hints : List Hint) : DefinitionError :=
  hints.foldl tell e

/-- The model that is told. -/
def Hint.model? : Hint → Option String
  | .model name => some name
  | .entry _ => none

/-- The entry that is told. -/
def Hint.entry? : Hint → Option Entry
  | .model _ => none
  | .entry found => some found

/-! ### One hint -/

theorem tell_kind (e : DefinitionError) (hint : Hint) : (e.tell hint).kind = e.kind := by
  cases hint <;> rfl

theorem tell_model (e : DefinitionError) (hint : Hint) :
    (e.tell hint).model = e.model.or hint.model? := by
  cases hint with
  | model name => exact Option.orElse_eq_or
  | entry entry => exact Option.or_none.symm

theorem tell_entry (e : DefinitionError) (hint : Hint) :
    (e.tell hint).entry = e.entry.or hint.entry? := by
  cases hint with
  | model name => exact Option.or_none.symm
  | entry entry => exact Option.orElse_eq_or

/-- A fault is its kind with the two parts of its place. -/
theorem eq_of_parts {e e' : DefinitionError} (hkind : e.kind = e'.kind)
    (hmodel : e.model = e'.model) (hentry : e.entry = e'.entry) : e = e' := by
  obtain ⟨_, _, _⟩ := e
  obtain rfl : _ = e'.kind := hkind
  obtain rfl : _ = e'.model := hmodel
  obtain rfl : _ = e'.entry := hentry
  rfl

/-- A fault that knows its model and its entry learns nothing more. -/
theorem tell_of_known {e : DefinitionError} (hmodel : e.model.isSome) (hentry : e.entry.isSome)
    (hint : Hint) : e.tell hint = e := by
  apply eq_of_parts
  · exact e.tell_kind hint
  · rw [tell_model, Option.or_of_isSome hmodel]
  · rw [tell_entry, Option.or_of_isSome hentry]

/-! ### Several hints -/

theorem tellAll_kind (e : DefinitionError) (hints : List Hint) :
    (e.tellAll hints).kind = e.kind := by
  induction hints generalizing e with
  | nil => rfl
  | cons hint hints ih => exact (ih (e.tell hint)).trans (e.tell_kind hint)

/-- A part of a fault that each hint fills only if it is missing is filled by the first hint that
has it. -/
theorem tellAll_part {α : Type} {part : DefinitionError → Option α} {told? : Hint → Option α}
    (hstep : ∀ e hint, part (e.tell hint) = (part e).or (told? hint)) (e : DefinitionError)
    (hints : List Hint) : part (e.tellAll hints) = (part e).or (hints.filterMap told?).head? := by
  induction hints generalizing e with
  | nil => exact Option.or_none.symm
  | cons hint hints ih =>
    change part ((e.tell hint).tellAll hints) = _
    rw [ih, hstep, Option.or_assoc, List.filterMap_cons]
    cases told? hint with
    | none => rfl
    | some found => rfl

theorem tellAll_model (e : DefinitionError) (hints : List Hint) :
    (e.tellAll hints).model = e.model.or (hints.filterMap Hint.model?).head? :=
  tellAll_part tell_model e hints

theorem tellAll_entry (e : DefinitionError) (hints : List Hint) :
    (e.tellAll hints).entry = e.entry.or (hints.filterMap Hint.entry?).head? :=
  tellAll_part tell_entry e hints

theorem tellAll_of_known {e : DefinitionError} (hmodel : e.model.isSome) (hentry : e.entry.isSome)
    (hints : List Hint) : e.tellAll hints = e := by
  induction hints with
  | nil => rfl
  | cons hint hints ih =>
    change (e.tell hint).tellAll hints = e
    rw [tell_of_known hmodel hentry, ih]

/-- The innermost model and the innermost entry stay, the kind never changes, and nothing else of
the hints matters. -/
theorem tellAll_innermost (e : DefinitionError) (hints : List Hint) :
    (e.tellAll hints).kind = e.kind ∧
    (e.tellAll hints).model = e.model.or (hints.filterMap Hint.model?).head? ∧
    (e.tellAll hints).entry = e.entry.or (hints.filterMap Hint.entry?).head? ∧
    (∀ others : List Hint,
      others.filterMap Hint.model? = hints.filterMap Hint.model? →
      others.filterMap Hint.entry? = hints.filterMap Hint.entry? →
      e.tellAll others = e.tellAll hints ∧
        (e.tellAll others).message = (e.tellAll hints).message) ∧
    ((e.tellAll hints).model.isSome → (e.tellAll hints).entry.isSome →
      (∀ hint, (e.tellAll hints).tell hint = e.tellAll hints) ∧
      ∀ more, e.tellAll (hints ++ more) = e.tellAll hints) := by
  refine ⟨e.tellAll_kind hints, e.tellAll_model hints, e.tellAll_entry hints, ?_, ?_⟩
  · intro others hmodels hentries
    have hsame : e.tellAll others = e.tellAll hints := by
      apply eq_of_parts
      · rw [tellAll_kind, tellAll_kind]
      · rw [tellAll_model, tellAll_model, hmodels]
      · rw [tellAll_entry, tellAll_entry, hentries]
    exact ⟨hsame, congrArg message hsame⟩
  · intro hmodel hentry
    refine ⟨tell_of_known hmodel hentry, fun more => ?_⟩
    have happend : e.tellAll (hints ++ more) = (e.tellAll hints).tellAll more := List.foldl_append
    rw [happend, tellAll_of_known hmodel hentry]

/-- Two interleavings of the same hints, and a further hint for a place that is known. -/
theorem tellAll_innermost_interleaved :
    let e := ofKind (.invalidMaxLength 0)
    let hints : List Hint :=
      [.entry (.field "bio"), .entry (.queryGroup "select"), .model "User", .model "Other"]
    let others : List Hint :=
      [.model "User", .entry (.field "bio"), .model "Other", .entry (.queryGroup "select")]
    (e.tellAll others).message = (e.tellAll hints).message ∧
    (e.tellAll hints).message = "model `User`, field `bio`: invalid max length value: 0" ∧
    (e.tellAll hints).tell (.entry (.query "all")) = e.tellAll hints := by
  intro e hints others
  obtain ⟨-, -, -, hsame, hknown⟩ := tellAll_innermost e hints
  exact ⟨(hsame others rfl rfl).2, rfl, (hknown rfl rfl).1 _⟩

end DatasetCompiler.DefinitionError
