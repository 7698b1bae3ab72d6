import Mathlib.Data.List.Infix

/-!
# Equations between composed names

A generated name is put together from names that a user chose and from fixed parts.  The chosen
names can be anything, also a name that looks like a fixed part, so it takes an argument to say when
two generated names are equal.

A name with a suffix can be written with two suffixes only if one of them ends with the other.  A
name that joins two names at an underscore can be cut at any underscore that it has: two such names
are equal if the parts are, or if one of the first parts goes on, behind an underscore, with what
the other second part begins with.
-/

namespace DatasetCompiler

/-! ### Suffixes -/

theorem isSuffix_or_isSuffix_of_append_eq {base other suffix otherSuffix : String}
    (h : base ++ suffix = other ++ otherSuffix) :
    suffix.toList <:+ otherSuffix.toList ∨ otherSuffix.toList <:+ suffix.toList := by
  have hlists : base.toList ++ suffix.toList = other.toList ++ otherSuffix.toList := by
    rw [← String.toList_append, ← String.toList_append, h]
  exact List.suffix_or_suffix_of_suffix ⟨base.toList, hlists⟩ ⟨other.toList, rfl⟩

/-- No suffix of the family ends with another one. -/
def SuffixFree {ι : Type} (suffix : ι → String) : Prop :=
  ∀ i j, (suffix i).toList <:+ (suffix j).toList → i = j

theorem SuffixFree.append_eq_iff {ι : Type} {suffix : ι → String} (h : SuffixFree suffix)
    {i j : ι} {base other : String} :
    base ++ suffix i = other ++ suffix j ↔ i = j ∧ base = other := by
  constructor
  · intro heq
    have hsame : i = j := by
      rcases isSuffix_or_isSuffix_of_append_eq heq with hends | hends
      · exact h i j hends
      · exact (h j i hends).symm
    subst hsame
    exact ⟨rfl, (String.append_left_inj _).1 heq⟩
  · rintro ⟨rfl, rfl⟩
    rfl

/-! ### Names joined at an underscore -/

theorem append_cons_eq_append_cons_iff {α : Type} {mark : α} {t u f g : List α} :
    t ++ mark :: f = u ++ mark :: g ↔
      (t = u ∧ f = g) ∨ (∃ s, t = u ++ mark :: s ∧ g = s ++ mark :: f) ∨
      ∃ s, u = t ++ mark :: s ∧ f = s ++ mark :: g := by
  constructor
  · intro heq
    -- one first part continues the other; if it does so at all, then with the mark
    rcases List.append_eq_append_iff.1 heq with ⟨between, hu, htail⟩ | ⟨between, ht, htail⟩
    · cases between with
      | nil => exact Or.inl ⟨by simpa using hu.symm, (List.cons.inj htail).2⟩
      | cons c s =>
        obtain ⟨rfl, hf⟩ := List.cons.inj htail
        exact Or.inr (Or.inr ⟨s, hu, hf⟩)
    · cases between with
      | nil => exact Or.inl ⟨by simpa using ht, (List.cons.inj htail).2.symm⟩
      | cons c s =>
        obtain ⟨rfl, hg⟩ := List.cons.inj htail
        exact Or.inr (Or.inl ⟨s, ht, hg⟩)
  · rintro (⟨rfl, rfl⟩ | ⟨s, rfl, rfl⟩ | ⟨s, rfl, rfl⟩)
    · rfl
    · simp
    · simp

theorem exists_string_iff {p : List Char → Prop} : (∃ s : String, p s.toList) ↔ ∃ cs, p cs := by
  constructor
  · rintro ⟨s, hs⟩
    exact ⟨s.toList, hs⟩
  · rintro ⟨cs, hcs⟩
    exact ⟨String.ofList cs, by simpa using hcs⟩

/-- When two names that are joined at an underscore are equal. -/
theorem joined_eq_iff {t u f g : String} :
    t ++ "_" ++ f = u ++ "_" ++ g ↔
      (t = u ∧ f = g) ∨ (∃ s, t = u ++ "_" ++ s ∧ g = s ++ "_" ++ f) ∨
      ∃ s, u = t ++ "_" ++ s ∧ f = s ++ "_" ++ g := by
  have hlists := @append_cons_eq_append_cons_iff Char '_' t.toList u.toList f.toList g.toList
  simp only [← exists_string_iff] at hlists
  simpa [← String.toList_inj] using hlists

end DatasetCompiler
