import DatasetCompiler.Artifact
import Mathlib.Data.List.Nodup

/-!
# Include targets of a types header

The list of targets grows while the further ones are looked at, and each is searched in what the
list has become by then.  Four facts hold of the list all the time and are kept by each addition: it
begins with the built-in target, nothing in it is repeated, it has the built-in target and what was
looked at so far, and behind the built-in target it is ordered by first occurrence.
-/

namespace DatasetCompiler

/-- The list of targets that belongs to the further ones looked at so far. -/
structure Collects (seen targets : List String) : Prop where
  head : targets.head? = some builtinInclude
  nodup : targets.Nodup
  mem_iff : ∀ t, t ∈ targets ↔ t = builtinInclude ∨ t ∈ seen
  ordered : targets.tail.Pairwise fun s t => seen.idxOf s < seen.idxOf t

theorem addInclude_of_mem {targets : List String} {target : String} (h : target ∈ targets) :
    addInclude targets target = targets := by
  simp [addInclude, h]

theorem addInclude_of_notMem {targets : List String} {target : String} (h : target ∉ targets) :
    addInclude targets target = targets ++ [target] := by
  simp [addInclude, h]

namespace Collects

variable {seen targets : List String}

theorem start : Collects [] [builtinInclude] :=
  ⟨rfl, List.nodup_singleton _, by simp, List.Pairwise.nil⟩

theorem eq_cons (h : Collects seen targets) : targets = builtinInclude :: targets.tail :=
  (List.cons_head?_tail h.head).symm

theorem mem_seen_of_mem_tail (h : Collects seen targets) {t : String} (ht : t ∈ targets.tail) :
    t ∈ seen := by
  have hnodup := h.nodup
  rw [h.eq_cons, List.nodup_cons] at hnodup
  rcases (h.mem_iff t).1 (List.mem_of_mem_tail ht) with rfl | hseen
  · exact absurd ht hnodup.1
  · exact hseen

/-- Looking at one more target does not change which of the earlier ones came first. -/
theorem ordered_append (h : Collects seen targets) (target : String) :
    targets.tail.Pairwise
      fun s t => (seen ++ [target]).idxOf s < (seen ++ [target]).idxOf t := by
  refine h.ordered.imp_of_mem ?_
  intro s t hs ht hlt
  rwa [List.idxOf_append_of_mem (h.mem_seen_of_mem_tail hs),
    List.idxOf_append_of_mem (h.mem_seen_of_mem_tail ht)]

theorem add (h : Collects seen targets) (target : String) :
    Collects (seen ++ [target]) (addInclude targets target) := by
  by_cases hmem : target ∈ targets
  · rw [addInclude_of_mem hmem]
    refine ⟨h.head, h.nodup, ?_, h.ordered_append target⟩
    intro t
    rw [h.mem_iff, List.mem_append, List.mem_singleton, ← or_assoc]
    refine ⟨Or.inl, ?_⟩
    rintro (hold | rfl)
    · exact hold
    · exact (h.mem_iff t).1 hmem
  · rw [addInclude_of_notMem hmem]
    have hseen : target ∉ seen := fun hin => hmem ((h.mem_iff target).2 (Or.inr hin))
    have htail : (targets ++ [target]).tail = targets.tail ++ [target] := by
      rw [h.eq_cons]
      rfl
    refine ⟨?_, ?_, ?_, ?_⟩
    · rw [h.eq_cons]
      rfl
    · rw [← List.concat_eq_append]
      exact h.nodup.concat hmem
    · intro t
      rw [List.mem_append, List.mem_append, h.mem_iff, or_assoc]
    · rw [htail, List.pairwise_append]
      refine ⟨h.ordered_append target, List.pairwise_singleton _ _, ?_⟩
      -- the new target comes last, since it was not among those looked at before
      intro s hs t ht
      obtain rfl := List.mem_singleton.1 ht
      have hs := h.mem_seen_of_mem_tail hs
      rw [List.idxOf_append_of_mem hs, List.idxOf_append_of_notMem hseen]
      exact Nat.lt_add_right _ (List.idxOf_lt_length_of_mem hs)

theorem foldl (h : Collects seen targets) (further : List String) :
    Collects (seen ++ further) (further.foldl addInclude targets) := by
  induction further generalizing seen targets with
  | nil => simpa using h
  | cons target further ih =>
    have hrest := ih (h.add target)
    simpa using hrest

end Collects

theorem collects_typesHeaderIncludes (further : List String) :
    Collects further (typesHeaderIncludes further) :=
  Collects.start.foldl further

/-- Targets that are new and not repeated are all appended. -/
theorem foldl_addInclude_of_nodup {targets further : List String}
    (h : (targets ++ further).Nodup) : further.foldl addInclude targets = targets ++ further := by
  induction further generalizing targets with
  | nil => simp
  | cons target further ih =>
    have hnew : target ∉ targets := by
      intro hmem
      exact (List.nodup_append.1 h).2.2 target hmem target List.mem_cons_self rfl
    rw [List.foldl_cons, addInclude_of_notMem hnew, ih (by simpa using h)]
    simp

theorem typesHeaderIncludes_self (further : List String) :
    typesHeaderIncludes (typesHeaderIncludes further) = typesHeaderIncludes further := by
  have h := collects_typesHeaderIncludes further
  have hnodup : ([builtinInclude] ++ (typesHeaderIncludes further).tail).Nodup := by
    rw [List.singleton_append, ← h.eq_cons]
    exact h.nodup
  calc typesHeaderIncludes (typesHeaderIncludes further)
      = (builtinInclude :: (typesHeaderIncludes further).tail).foldl addInclude
          [builtinInclude] := by rw [← h.eq_cons, typesHeaderIncludes]
    _ = (typesHeaderIncludes further).tail.foldl addInclude [builtinInclude] := by
        rw [List.foldl_cons, addInclude_of_mem (List.mem_singleton_self _)]
    _ = [builtinInclude] ++ (typesHeaderIncludes further).tail := foldl_addInclude_of_nodup hnodup
    _ = typesHeaderIncludes further := h.eq_cons.symm

theorem typesHeaderIncludes_append_of_mem {further : List String} {target : String}
    (h : target ∈ typesHeaderIncludes further) :
    typesHeaderIncludes (further ++ [target]) = typesHeaderIncludes further := by
  rw [typesHeaderIncludes, List.foldl_append]
  exact addInclude_of_mem h

namespace Template

/-- The include targets of a types header are the built-in one and the further ones in the order of
their first occurrence, each once, so what is there already changes nothing.  No other file depends
on the options. -/
theorem includes_typesHeader (options : Options) (d : Dataset) :
    ((typesHeader.includes options d).head? = some "<sqlite3.h>" ∧
      (typesHeader.includes options d).Nodup ∧
      (∀ t, t ∈ typesHeader.includes options d ↔ t = "<sqlite3.h>" ∨ t ∈ options.includes) ∧
      (typesHeader.includes options d).tail.Pairwise
        fun s t => options.includes.idxOf s < options.includes.idxOf t) ∧
    (∀ t ∈ typesHeader.includes options d,
      typesHeader.includes (options.withInclude t) d = typesHeader.includes options d) ∧
    typesHeader.includes { options with includes := typesHeader.includes options d } d =
      typesHeader.includes options d ∧
    ∀ template, template ≠ typesHeader → ∀ options',
      template.includes options' d = template.includes options d := by
  have h := collects_typesHeaderIncludes options.includes
  refine ⟨⟨h.head, h.nodup, h.mem_iff, h.ordered⟩, ?_, ?_, ?_⟩
  · intro t ht
    exact typesHeaderIncludes_append_of_mem ht
  · exact typesHeaderIncludes_self options.includes
  · intro template hother options'
    cases template with
    | typesHeader => exact absurd rfl hother
    | typesSource | accessorHeader | accessorSource => rfl

/-- Repeated targets, the built-in one among them. -/
theorem includes_typesHeader_repeated :
    "<time.h>" ∈ typesHeader.includes ⟨.lazy, ["<time.h>", "<sqlite3.h>", "<a.h>", "<time.h>"]⟩
      ⟨"shop", []⟩ ∧
    typesHeader.includes
        ⟨.lazy, ["<time.h>", "<sqlite3.h>", "<a.h>", "<time.h>", "<time.h>"]⟩ ⟨"shop", []⟩ =
      ["<sqlite3.h>", "<time.h>", "<a.h>"] ∧
    accessorHeader ≠ typesHeader ∧
    accessorHeader.includes .default ⟨"shop", []⟩ =
      accessorHeader.includes ⟨.lazy, ["<time.h>", "<sqlite3.h>", "<a.h>", "<time.h>"]⟩
        ⟨"shop", []⟩ := by
  have hmem : "<time.h>" ∈ typesHeader.includes
      ⟨.lazy, ["<time.h>", "<sqlite3.h>", "<a.h>", "<time.h>"]⟩ ⟨"shop", []⟩ := by decide +kernel
  obtain ⟨-, hagain, -, hother⟩ := includes_typesHeader
    ⟨.lazy, ["<time.h>", "<sqlite3.h>", "<a.h>", "<time.h>"]⟩ ⟨"shop", []⟩
  have hne : accessorHeader ≠ typesHeader := by decide
  refine ⟨hmem, (hagain _ hmem).trans ?_, hne, hother _ hne _⟩
  decide +kernel

end Template

end DatasetCompiler
