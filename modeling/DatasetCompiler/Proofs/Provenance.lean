import DatasetCompiler.Proofs.KeyCheck
import DatasetCompiler.Proofs.Violation

/-!
# Where the parts of a dataset come from

A document is read into a draft, and the draft is compiled into a dataset.  Neither step reorders or
drops models and fields, so a field stands at the same indexes in the dataset and in the document.
-/

namespace DatasetCompiler

open Json (Path)

namespace Definition

theorem compile_eq_ok_iff {options : Options} {doc : Json} {dataset : Dataset} :
    compile options doc = .ok dataset ↔
      ∃ draft, Schema.read doc = .ok draft ∧ draft.compile options = .ok dataset := by
  unfold compile build ofJson
  cases Schema.read doc with
  | error violation => simp [Except.mapError]
  | ok draft => cases hcompile : draft.compile options <;> simp [Except.mapError, hcompile]

def modelPlace (i : Nat) : Path := (Path.root.key "models").index i

def fieldPlace (i j : Nat) : Path := ((modelPlace i).key "fields").index j

theorem exists_model_at {doc : Json} {draft : DatasetDraft} (h : draft.WrittenAs doc) {i : Nat}
    {model : ModelDraft} (hmodel : draft.models[i]? = some model) :
    ∃ value, doc.at? (modelPlace i) = some value ∧ model.WrittenAs value := by
  obtain ⟨members, rfl, -, items, hitems, hmodels⟩ := h
  obtain ⟨value, hvalue, hwritten⟩ := forall₂_getElem? hmodels.flip hmodel
  have hplace : (Json.object members).at? (Path.root.key "models") = some (.array items) :=
    (Json.at?_key (Json.at?_root _) "models").trans hitems
  exact ⟨value, (Json.at?_index hplace i).trans hvalue, hwritten⟩

theorem exists_field_at {doc : Json} {draft : DatasetDraft} (h : draft.WrittenAs doc) {i j : Nat}
    {model : ModelDraft} {field : FieldDraft} (hmodel : draft.models[i]? = some model)
    (hfield : model.fields[j]? = some field) :
    ∃ value, doc.at? (fieldPlace i j) = some value ∧ field.WrittenAs value := by
  obtain ⟨value, hvalue, hwritten⟩ := exists_model_at h hmodel
  obtain ⟨members, rfl, -, -, -, ⟨items, hitems, hfields⟩, -⟩ := hwritten
  obtain ⟨found, hfound, hwritten⟩ := forall₂_getElem? hfields.flip hfield
  have hplace : doc.at? ((modelPlace i).key "fields") = some (.array items) :=
    (Json.at?_key hvalue "fields").trans hitems
  exact ⟨found, (Json.at?_index hplace j).trans hfound, hwritten⟩

/-- A field of a compiled dataset mirrors a draft without faults, and the draft is what the document
says at the place of the field. -/
theorem exists_field_draft {options : Options} {doc : Json} {dataset : Dataset}
    (h : compile options doc = .ok dataset) {i j : Nat} {model : Model} {field : Field}
    (hmodel : dataset.models[i]? = some model) (hfield : model.fields[j]? = some field) :
    ∃ (draft : FieldDraft) (value : Json), doc.at? (fieldPlace i j) = some value ∧
      draft.WrittenAs value ∧ draft.faults = [] ∧ draft.Mirrors field := by
  obtain ⟨draft, hread, hcompile⟩ := compile_eq_ok_iff.1 h
  obtain ⟨-, hwritten⟩ := Schema.read_eq_ok_iff.1 hread
  obtain ⟨hfaults, hmirrors⟩ := DatasetDraft.compile_eq_ok_iff.1 hcompile
  obtain ⟨original, horiginal, hmodels⟩ := forall₂_getElem? hmirrors.models hmodel
  obtain ⟨fieldDraft, hdraft, hfields⟩ := forall₂_getElem? hmodels.fields hfield
  obtain ⟨value, hvalue, hsaid⟩ := exists_field_at hwritten horiginal hdraft
  refine ⟨fieldDraft, value, hvalue, hsaid, ?_, hfields⟩
  have hclean := DatasetDraft.faults_eq_nil_iff.1 hfaults original (List.mem_of_getElem? horiginal)
  have hfieldFaults := (List.append_eq_nil_iff.1 hclean).1
  rw [ModelDraft.fieldFaults, List.flatMap_eq_nil_iff] at hfieldFaults
  exact List.map_eq_nil_iff.1 (hfieldFaults fieldDraft (List.mem_of_getElem? hdraft))

end Definition

end DatasetCompiler
