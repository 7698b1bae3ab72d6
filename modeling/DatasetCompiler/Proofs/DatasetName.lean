import DatasetCompiler.Artifact
import DatasetCompiler.Proofs.ConstantName
import DatasetCompiler.Proofs.QueryGroup
import DatasetCompiler.Proofs.Shape
import Mathlib.Data.Char
import Mathlib.Data.List.Nodup

/-!
# Names after a dataset

The name of a dataset ends up in two header guards, in two function names and in the names of four
files.  The schema lets only ASCII letters, digits and underscores through.  That makes the guards
and the functions C identifiers, with one gap: a name may start with a digit, and then none of the
four is one.

Upper-casing such a name is ASCII upper-casing, so guards are equal exactly for names that differ in
case only.  Files keep the name as it is.  None of their suffixes ends with another, so whatever the
datasets are called, different files have different names.
-/

namespace DatasetCompiler

/-! ### C identifiers -/

namespace CIdentifier

def IsSmall (c : Char) : Prop := 'a' ≤ c ∧ c ≤ 'z'

def IsCapital (c : Char) : Prop := 'A' ≤ c ∧ c ≤ 'Z'

def IsDigit (c : Char) : Prop := '0' ≤ c ∧ c ≤ '9'

def IsNondigit (c : Char) : Prop := IsSmall c ∨ IsCapital c ∨ c = '_'

theorem isSmall_iff {c : Char} : IsSmall c ↔ c.isLower = true := by
  delta IsSmall Char.isLower
  simp [Char.le_def]

theorem isCapital_iff {c : Char} : IsCapital c ↔ c.isUpper = true := by
  delta IsCapital Char.isUpper
  simp [Char.le_def]

theorem isDigit_iff {c : Char} : IsDigit c ↔ c.isDigit = true := by
  delta IsDigit Char.isDigit
  simp [Char.le_def]

/-- The words that C reserves, those of the newest standard included. -/
def keywords : List String := [
  "alignas", "alignof", "auto", "bool", "break", "case", "char", "const", "constexpr", "continue",
  "default", "do", "double", "else", "enum", "extern", "false", "float", "for", "goto", "if",
  "inline", "int", "long", "nullptr", "register", "restrict", "return", "short", "signed", "sizeof",
  "static", "static_assert", "struct", "switch", "thread_local", "true", "typedef", "typeof",
  "typeof_unqual", "union", "unsigned", "void", "volatile", "while", "_Alignas", "_Alignof",
  "_Atomic", "_BitInt", "_Bool", "_Complex", "_Decimal32", "_Decimal64", "_Decimal128", "_Generic",
  "_Imaginary", "_Noreturn", "_Static_assert", "_Thread_local"]

/-- A letter or an underscore, then letters, digits and underscores, and not a reserved word. -/
def IsValid (name : String) : Prop :=
  (∃ first rest, name.toList = first :: rest ∧ IsNondigit first ∧
    ∀ c ∈ rest, IsNondigit c ∨ IsDigit c) ∧ name ∉ keywords

def StartsWithDigit (name : String) : Prop :=
  ∃ first rest, name.toList = first :: rest ∧ IsDigit first

theorem not_isNondigit_of_isDigit {c : Char} (h : IsDigit c) : ¬IsNondigit c := by
  have hle : c ≤ '9' := h.2
  rintro (⟨hsmall, -⟩ | ⟨hcapital, -⟩ | rfl)
  · exact absurd (hsmall.trans hle) (by decide)
  · exact absurd (hcapital.trans hle) (by decide)
  · exact absurd hle (by decide)

end CIdentifier

open CIdentifier (IsSmall IsCapital IsDigit IsNondigit StartsWithDigit)

theorem Schema.IsIdentifier.isNondigit_or_isDigit {name : String} (h : Schema.IsIdentifier name)
    {c : Char} (hc : c ∈ name.toList) : IsNondigit c ∨ IsDigit c := by
  rcases h.2 c hc with hsmall | hcapital | hdigit | hmark
  · exact Or.inl (Or.inl hsmall)
  · exact Or.inl (Or.inr (Or.inl hcapital))
  · exact Or.inr hdigit
  · exact Or.inl (Or.inr (Or.inr hmark))

/-- A suffix that no reserved word has makes an identifier out of every name that could be a part of
one, unless the name starts with a digit. -/
theorem CIdentifier.isValid_append_iff {base suffix : String} (hbase : Schema.IsIdentifier base)
    (hsuffix : ∀ c ∈ suffix.toList, IsNondigit c ∨ IsDigit c)
    (hword : ∀ word ∈ keywords, ¬suffix.toList <:+ word.toList) :
    IsValid (base ++ suffix) ↔ ¬StartsWithDigit base := by
  have hnonempty : base.toList ≠ [] := by simpa using hbase.1
  obtain ⟨first, rest, hchars⟩ := List.exists_cons_of_ne_nil hnonempty
  have hname : (base ++ suffix).toList = first :: (rest ++ suffix.toList) := by simp [hchars]
  constructor
  · rintro ⟨⟨c, tail, htail, hfirst, -⟩, -⟩ ⟨digit, others, hdigits, hdigit⟩
    rw [hname] at htail
    rw [hchars] at hdigits
    obtain rfl := (List.cons.inj htail).1
    obtain rfl := (List.cons.inj hdigits).1
    exact not_isNondigit_of_isDigit hdigit hfirst
  · intro hstart
    refine ⟨⟨first, rest ++ suffix.toList, hname, ?_, ?_⟩, ?_⟩
    · rcases hbase.isNondigit_or_isDigit (hchars ▸ List.mem_cons_self) with hfirst | hfirst
      · exact hfirst
      · exact absurd ⟨first, rest, hchars, hfirst⟩ hstart
    · intro c hc
      rcases List.mem_append.1 hc with hc | hc
      · exact hbase.isNondigit_or_isDigit (hchars ▸ List.mem_cons_of_mem _ hc)
      · exact hsuffix c hc
    · intro hmem
      exact hword _ hmem ⟨base.toList, by simp⟩

theorem CIdentifier.not_isSuffix_of_mem_keywords :
    ∀ word ∈ keywords,
      (∀ kind ∈ [ConstantKind.typesGuard, .accessorGuard], ¬kind.suffix.toList <:+ word.toList) ∧
      ∀ f ∈ [DatabaseFunction.prepare, .deleteAllData], ¬f.suffix.toList <:+ word.toList := by
  decide +kernel

/-! ### Upper case of identifiers -/

namespace CIdentifier

theorem toNat_lt {c : Char} (h : IsNondigit c ∨ IsDigit c) : c.toNat < 0x80 := by
  have hle : c ≤ 'z' := by
    rcases h with (hsmall | hcapital | rfl) | hdigit
    · exact hsmall.2
    · exact hcapital.2.trans (by decide)
    · decide
    · exact hdigit.2.trans (by decide)
  exact lt_of_le_of_lt (show c.toNat ≤ 'z'.toNat from hle) (by decide)

theorem forall_ascii {P : Char → Prop} (h : ∀ n < 0x80, P (Char.ofNat n)) {c : Char}
    (hc : c.toNat < 0x80) : P c := by
  have hrow := h c.toNat hc
  rwa [Char.ofNat_toNat] at hrow

theorem isUpper_toUpper {c : Char} (hc : c.toNat < 0x80) :
    c.isAlpha = true → c.toUpper.isUpper = true :=
  forall_ascii (P := fun c => c.isAlpha = true → c.toUpper.isUpper = true) (by decide +kernel) hc

theorem toUpper_of_isLower_eq_false {c : Char} (hc : c.toNat < 0x80) :
    c.isLower = false → c.toUpper = c :=
  forall_ascii (P := fun c => c.isLower = false → c.toUpper = c) (by decide +kernel) hc

theorem toLower_toUpper {c : Char} (hc : c.toNat < 0x80) : c.toUpper.toLower = c.toLower :=
  forall_ascii (P := fun c => c.toUpper.toLower = c.toLower) (by decide +kernel) hc

theorem toUpper_toLower {c : Char} (hc : c.toNat < 0x80) : c.toLower.toUpper = c.toUpper :=
  forall_ascii (P := fun c => c.toLower.toUpper = c.toUpper) (by decide +kernel) hc

theorem toLower_eq_toLower_iff {name other : String} :
    name.toLower = other.toLower ↔
      name.toList.map Char.toLower = other.toList.map Char.toLower := by
  delta String.toLower
  rw [← String.toList_inj, String.toList_map, String.toList_map]

theorem isCapital_toUpper {c : Char} (h : IsSmall c ∨ IsCapital c) : IsCapital c.toUpper := by
  have hascii : c.toNat < 0x80 := by
    rcases h with hsmall | hcapital
    · exact toNat_lt (Or.inl (Or.inl hsmall))
    · exact toNat_lt (Or.inl (Or.inr (Or.inl hcapital)))
  rw [isCapital_iff]
  apply isUpper_toUpper hascii
  apply Bool.or_eq_true_iff.2
  rcases h with hsmall | hcapital
  · exact Or.inr (isSmall_iff.1 hsmall)
  · exact Or.inl (isCapital_iff.1 hcapital)

theorem toUpper_eq_self {c : Char} (h : IsDigit c ∨ c = '_') : c.toUpper = c := by
  rcases h with hdigit | rfl
  · apply toUpper_of_isLower_eq_false (toNat_lt (Or.inr hdigit))
    rw [Bool.eq_false_iff]
    intro hlower
    exact not_isNondigit_of_isDigit hdigit (Or.inl (isSmall_iff.2 hlower))
  · decide

theorem toUpper_cases {c : Char} (h : IsNondigit c ∨ IsDigit c) :
    IsCapital c.toUpper ∨ IsDigit c.toUpper ∨ c.toUpper = '_' := by
  rcases h with (hsmall | hcapital | hmark) | hdigit
  · exact Or.inl (isCapital_toUpper (Or.inl hsmall))
  · exact Or.inl (isCapital_toUpper (Or.inr hcapital))
  · exact Or.inr (Or.inr ((toUpper_eq_self (Or.inr hmark)).trans hmark))
  · exact Or.inr (Or.inl ((toUpper_eq_self (Or.inl hdigit)).symm ▸ hdigit))

theorem isDigit_toUpper_iff {c : Char} (h : IsNondigit c ∨ IsDigit c) :
    IsDigit c.toUpper ↔ IsDigit c := by
  constructor
  · intro hdigit
    by_cases hlower : c.isLower
    · have hcapital := isCapital_toUpper (Or.inl (isSmall_iff.2 hlower))
      exact absurd (Or.inr (Or.inl hcapital)) (not_isNondigit_of_isDigit hdigit)
    · rwa [toUpper_of_isLower_eq_false (toNat_lt h) (Bool.eq_false_iff.2 hlower)] at hdigit
  · intro hdigit
    rwa [toUpper_eq_self (Or.inl hdigit)]

end CIdentifier

namespace Schema.IsIdentifier

theorem toList_upper {name : String} (h : IsIdentifier name) :
    (Text.upper name).toList = name.toList.map Char.toUpper := by
  rw [Text.toList_upper, List.map_eq_flatMap]
  apply List.flatMap_congr
  intro c hc
  exact Text.upperChar_of_ascii (CIdentifier.toNat_lt (h.isNondigit_or_isDigit hc))

theorem upper_cases {name : String} (h : IsIdentifier name) {c : Char}
    (hc : c ∈ (Text.upper name).toList) : IsCapital c ∨ IsDigit c ∨ c = '_' := by
  rw [h.toList_upper] at hc
  obtain ⟨original, horiginal, rfl⟩ := List.mem_map.1 hc
  exact CIdentifier.toUpper_cases (h.isNondigit_or_isDigit horiginal)

theorem upper {name : String} (h : IsIdentifier name) : IsIdentifier (Text.upper name) := by
  refine ⟨?_, ?_⟩
  · rw [Ne, ← String.toList_inj, h.toList_upper]
    simpa using h.1
  · intro c hc
    exact Or.inr (h.upper_cases hc)

theorem startsWithDigit_upper_iff {name : String} (h : IsIdentifier name) :
    StartsWithDigit (Text.upper name) ↔ StartsWithDigit name := by
  have hnonempty : name.toList ≠ [] := by simpa using h.1
  obtain ⟨first, rest, hchars⟩ := List.exists_cons_of_ne_nil hnonempty
  have hfirst := h.isNondigit_or_isDigit (hchars ▸ List.mem_cons_self)
  simp only [StartsWithDigit, h.toList_upper, hchars, List.map_cons]
  constructor
  · rintro ⟨c, others, heq, hdigit⟩
    obtain rfl := (List.cons.inj heq).1
    exact ⟨first, rest, rfl, (CIdentifier.isDigit_toUpper_iff hfirst).1 hdigit⟩
  · rintro ⟨c, others, heq, hdigit⟩
    obtain rfl := (List.cons.inj heq).1
    exact ⟨_, _, rfl, (CIdentifier.isDigit_toUpper_iff hfirst).2 hdigit⟩

/-- Two ways to change case give the same result if the second one makes the first one invisible. -/
theorem map_eq_map {change undo : Char → Char} {name other : String} (h : IsIdentifier name)
    (ho : IsIdentifier other)
    (hundo : ∀ c : Char, c.toNat < 0x80 → undo (change c) = undo c)
    (heq : name.toList.map change = other.toList.map change) :
    name.toList.map undo = other.toList.map undo := by
  have hname : ∀ {name : String}, IsIdentifier name →
      name.toList.map undo = (name.toList.map change).map undo := by
    intro name h
    rw [List.map_map]
    apply List.map_congr_left
    intro c hc
    exact (hundo c (CIdentifier.toNat_lt (h.isNondigit_or_isDigit hc))).symm
  rw [hname h, hname ho, heq]

theorem upper_eq_iff {name other : String} (h : IsIdentifier name) (ho : IsIdentifier other) :
    Text.upper name = Text.upper other ↔ name.toLower = other.toLower := by
  rw [CIdentifier.toLower_eq_toLower_iff, ← String.toList_inj, h.toList_upper, ho.toList_upper]
  constructor
  · exact map_eq_map h ho fun _ => CIdentifier.toLower_toUpper
  · exact map_eq_map h ho fun _ => CIdentifier.toUpper_toLower

end Schema.IsIdentifier

/-! ### Guards and functions -/

/-- The two generated headers. -/
inductive Header where
  | types
  | accessor
deriving DecidableEq, Repr

def Header.kind : Header → ConstantKind
  | .types => .typesGuard
  | .accessor => .accessorGuard

theorem Header.suffix_cases (header : Header) {c : Char}
    (hc : c ∈ header.kind.suffix.toList) : IsCapital c ∨ IsDigit c ∨ c = '_' := by
  have hall : header.kind.suffix.toList.all (fun c => c.isUpper || c.isDigit || c == '_') := by
    cases header <;> decide +kernel
  simpa [CIdentifier.isCapital_iff, CIdentifier.isDigit_iff, or_assoc] using
    List.all_eq_true.1 hall c hc

theorem DatabaseFunction.suffix_cases (f : DatabaseFunction) {c : Char}
    (hc : c ∈ f.suffix.toList) : IsNondigit c ∨ IsDigit c := by
  have hall : f.suffix.toList.all (fun c => c.isLower || c == '_') := by
    cases f <;> decide +kernel
  have hcases : c.isLower ∨ c = '_' := by simpa using List.all_eq_true.1 hall c hc
  rcases hcases with hlower | hmark
  · exact Or.inl (Or.inl (CIdentifier.isSmall_iff.2 hlower))
  · exact Or.inl (Or.inr (Or.inr hmark))

namespace Dataset

def guard (d : Dataset) : Header → String
  | .types => d.typesHeaderGuard
  | .accessor => d.accessorHeaderGuard

theorem guard_eq (d : Dataset) (header : Header) :
    d.guard header = Text.upper d.name ++ header.kind.suffix := by
  cases header <;> rfl

/-- The names after a dataset that C code uses as identifiers. -/
def identifiers (d : Dataset) : List String :=
  [d.guard .types, d.guard .accessor, d.databaseFunction .prepare,
    d.databaseFunction .deleteAllData]

theorem isCapital_of_mem_guard {d : Dataset} (h : Schema.IsIdentifier d.name) {header : Header}
    {c : Char} (hc : c ∈ (d.guard header).toList) : IsCapital c ∨ IsDigit c ∨ c = '_' := by
  rw [guard_eq, String.toList_append] at hc
  rcases List.mem_append.1 hc with hname | hsuffix
  · exact h.upper_cases hname
  · exact header.suffix_cases hsuffix

theorem isNondigit_of_mem_databaseFunction {d : Dataset} (h : Schema.IsIdentifier d.name)
    {f : DatabaseFunction} {c : Char} (hc : c ∈ (d.databaseFunction f).toList) :
    IsNondigit c ∨ IsDigit c := by
  rw [databaseFunction, String.toList_append] at hc
  rcases List.mem_append.1 hc with hname | hsuffix
  · exact h.isNondigit_or_isDigit hname
  · exact f.suffix_cases hsuffix

theorem isValid_guard_iff {d : Dataset} (h : Schema.IsIdentifier d.name) (header : Header) :
    CIdentifier.IsValid (d.guard header) ↔ ¬StartsWithDigit d.name := by
  rw [guard_eq, CIdentifier.isValid_append_iff h.upper, h.startsWithDigit_upper_iff]
  · intro c hc
    rcases header.suffix_cases hc with hcapital | hdigit | hmark
    · exact Or.inl (Or.inr (Or.inl hcapital))
    · exact Or.inr hdigit
    · exact Or.inl (Or.inr (Or.inr hmark))
  · intro word hword
    exact (CIdentifier.not_isSuffix_of_mem_keywords word hword).1 header.kind
      (by cases header <;> decide)

theorem isValid_databaseFunction_iff {d : Dataset} (h : Schema.IsIdentifier d.name)
    (f : DatabaseFunction) :
    CIdentifier.IsValid (d.databaseFunction f) ↔ ¬StartsWithDigit d.name := by
  refine CIdentifier.isValid_append_iff h (fun _ => f.suffix_cases) ?_
  intro word hword
  exact (CIdentifier.not_isSuffix_of_mem_keywords word hword).2 f (by cases f <;> decide)

theorem isValid_iff_of_mem_identifiers {d : Dataset} (h : Schema.IsIdentifier d.name)
    {name : String} (hname : name ∈ d.identifiers) :
    CIdentifier.IsValid name ↔ ¬StartsWithDigit d.name := by
  simp only [identifiers, List.mem_cons, List.not_mem_nil, or_false] at hname
  rcases hname with rfl | rfl | rfl | rfl
  · exact isValid_guard_iff h .types
  · exact isValid_guard_iff h .accessor
  · exact isValid_databaseFunction_iff h .prepare
  · exact isValid_databaseFunction_iff h .deleteAllData

theorem guard_eq_guard_iff {d other : Dataset} (h : Schema.IsIdentifier d.name)
    (ho : Schema.IsIdentifier other.name) {header otherHeader : Header} :
    d.guard header = other.guard otherHeader ↔
      header = otherHeader ∧ d.name.toLower = other.name.toLower := by
  have hkind : header.kind = otherHeader.kind ↔ header = otherHeader := by
    cases header <;> cases otherHeader <;> decide
  rw [guard_eq, guard_eq, ConstantKind.suffixFree.append_eq_iff, hkind, h.upper_eq_iff ho]

end Dataset

/-! ### Files -/

namespace Template

theorem suffixFree_fileSuffix : SuffixFree fileSuffix := by
  intro template other
  cases template <;> cases other <;> decide

theorem outputName_eq (t : Template) (d : Dataset) : t.outputName d = d.name ++ t.fileSuffix := by
  cases t <;> rfl

theorem outputName_eq_iff {t other : Template} {d e : Dataset} :
    t.outputName d = other.outputName e ↔ t = other ∧ d.name = e.name := by
  rw [outputName_eq, outputName_eq, suffixFree_fileSuffix.append_eq_iff]

end Template

/-- The files of a dataset, in generation order. -/
def Dataset.files (d : Dataset) : List String := Template.all.map fun t => t.outputName d

theorem Dataset.nodup_files (d : Dataset) : d.files.Nodup := by
  refine List.Nodup.map ?_ (by decide)
  intro t other heq
  exact (Template.outputName_eq_iff.1 heq).1

theorem Dataset.disjoint_files {d e : Dataset} (h : d.name ≠ e.name) :
    d.files.Disjoint e.files := by
  intro file hd he
  obtain ⟨t, -, rfl⟩ := List.mem_map.1 hd
  obtain ⟨other, -, heq⟩ := List.mem_map.1 he
  exact h (Template.outputName_eq_iff.1 heq).2.symm

theorem nodup_flatMap_files {ds : List Dataset} (h : (ds.map (·.name)).Nodup) :
    (ds.flatMap Dataset.files).Nodup := by
  rw [List.nodup_flatMap]
  refine ⟨fun d _ => d.nodup_files, ?_⟩
  rw [List.Nodup, List.pairwise_map] at h
  exact h.imp Dataset.disjoint_files

theorem map_fileName_of_generate {ε : Type} {render : Context → Except ε String}
    {options : Options} {d : Dataset} {artifacts : List Artifact}
    (h : generate render options d = .ok artifacts) : artifacts.map (·.fileName) = d.files := by
  have hone : ∀ t artifact, Template.generate render options d t = .ok artifact →
      artifact.fileName = t.outputName d := by
    intro t artifact hgenerate
    unfold Template.generate at hgenerate
    split at hgenerate
    · exact (congrArg Artifact.fileName (Except.ok.inj hgenerate)).symm
    · cases hgenerate
  have hnames : List.Forall₂ Eq d.files (artifacts.map (·.fileName)) := by
    rw [Dataset.files, List.forall₂_map_left_iff, List.forall₂_map_right_iff]
    refine (mapM_eq_ok_iff.1 h).imp ?_
    intro t artifact hgenerate
    exact (hone t artifact hgenerate).symm
  rw [List.forall₂_eq_eq_eq] at hnames
  exact hnames.symm

/-- These files were generated for the dataset, by whatever renderer. -/
def Dataset.Generates (d : Dataset) (artifacts : List Artifact) : Prop :=
  ∃ (ε : Type) (render : Context → Except ε String) (options : Options),
    generate render options d = .ok artifacts

theorem map_fileName_flatten {ds : List Dataset} {groups : List (List Artifact)}
    (h : List.Forall₂ Dataset.Generates ds groups) :
    groups.flatten.map (·.fileName) = ds.flatMap Dataset.files := by
  induction h with
  | nil => rfl
  | cons hgenerates _ ih =>
    obtain ⟨ε, render, options, hgenerate⟩ := hgenerates
    rw [List.flatten_cons, List.map_append, map_fileName_of_generate hgenerate, ih,
      List.flatMap_cons]

/-! ### All names after a dataset -/

theorem Schema.exists_read_iff {name : String} :
    (∃ doc draft, read doc = .ok draft ∧ draft.name = name) ↔ isIdentifierFragment name = true := by
  rw [isIdentifierFragment_iff]
  constructor
  · rintro ⟨doc, draft, hread, rfl⟩
    exact (read_eq_ok_iff.1 hread).1
  · intro hname
    let draft : DatasetDraft := ⟨name, []⟩
    exact ⟨draft.toJson, draft, read_eq_ok_iff.2 ⟨hname, draft.writtenAs_toJson⟩, rfl⟩

/-- What the name of a dataset is good for.  If the schema accepts it, the two guards have only
capital letters, digits and underscores and the two functions of the database only letters, digits
and underscores; these four are C identifiers exactly if the name does not start with a digit; and
two guards are equal exactly if they are of the same header and the names differ in case at most.
Whatever datasets are called, files of different templates or of differently named datasets have
different names, so no generated file overwrites another. -/
theorem Dataset.derived_names :
    (∀ name, (∃ doc draft, Schema.read doc = .ok draft ∧ draft.name = name) ↔
      Schema.isIdentifierFragment name = true) ∧
    (∀ d : Dataset, Schema.isIdentifierFragment d.name = true →
      (∀ header, ∀ c ∈ (d.guard header).toList, IsCapital c ∨ IsDigit c ∨ c = '_') ∧
      (∀ f, ∀ c ∈ (d.databaseFunction f).toList,
        IsSmall c ∨ IsCapital c ∨ IsDigit c ∨ c = '_') ∧
      ∀ name ∈ d.identifiers, CIdentifier.IsValid name ↔ ¬StartsWithDigit d.name) ∧
    (∀ d e : Dataset, Schema.isIdentifierFragment d.name = true →
      Schema.isIdentifierFragment e.name = true → ∀ header otherHeader,
        d.guard header = e.guard otherHeader ↔
          header = otherHeader ∧ d.name.toLower = e.name.toLower) ∧
    (∀ (t other : Template) (d e : Dataset),
      t.outputName d = other.outputName e ↔ t = other ∧ d.name = e.name) ∧
    ∀ ds : List Dataset, (ds.map (·.name)).Nodup →
      (ds.flatMap fun d => Template.all.map fun t => t.outputName d).Nodup ∧
      ∀ groups, List.Forall₂ Dataset.Generates ds groups →
        (groups.flatten.map (·.fileName)).Nodup := by
  refine ⟨fun name => Schema.exists_read_iff, ?_, ?_, ?_, ?_⟩
  · intro d hname
    rw [Schema.isIdentifierFragment_iff] at hname
    refine ⟨fun header c => isCapital_of_mem_guard hname, ?_, ?_⟩
    · intro f c hc
      rcases isNondigit_of_mem_databaseFunction hname hc with
        (hsmall | hcapital | hmark) | hdigit
      · exact Or.inl hsmall
      · exact Or.inr (Or.inl hcapital)
      · exact Or.inr (Or.inr (Or.inr hmark))
      · exact Or.inr (Or.inr (Or.inl hdigit))
    · intro name hmem
      exact isValid_iff_of_mem_identifiers hname hmem
  · intro d e hname hother header otherHeader
    rw [Schema.isIdentifierFragment_iff] at hname hother
    exact guard_eq_guard_iff hname hother
  · intro t other d e
    exact Template.outputName_eq_iff
  · intro ds hnames
    have hfiles := nodup_flatMap_files hnames
    refine ⟨hfiles, ?_⟩
    intro groups hgroups
    rw [map_fileName_flatten hgroups]
    exact hfiles

/-- A name that starts with a digit, two names that differ in case, and a name that ends like a
file. -/
theorem Dataset.derived_names_digit :
    let digit : Dataset := ⟨"7up", []⟩
    let small : Dataset := ⟨"shop", []⟩
    let capital : Dataset := ⟨"Shop", []⟩
    let dotted : Dataset := ⟨"shop.cdal.accessor", []⟩
    Schema.isIdentifierFragment "7up" = true ∧ ¬CIdentifier.IsValid (digit.guard .accessor) ∧
    Schema.isIdentifierFragment "shop" = true ∧
    CIdentifier.IsValid (small.databaseFunction .prepare) ∧
    small.guard .types = capital.guard .types ∧ small.guard .types ≠ capital.guard .accessor ∧
    ([small, capital, dotted].map (·.name)).Nodup ∧
    ([small, capital, dotted].flatMap fun d => Template.all.map fun t => t.outputName d).Nodup := by
  intro digit small capital dotted
  obtain ⟨-, hchars, hguards, -, hfiles⟩ := derived_names
  have hdigit : Schema.isIdentifierFragment digit.name = true := by decide +kernel
  have hsmall : Schema.isIdentifierFragment small.name = true := by decide +kernel
  have hcapital : Schema.isIdentifierFragment capital.name = true := by decide +kernel
  have hnames : ([small, capital, dotted].map (·.name)).Nodup := by decide +kernel
  refine ⟨hdigit, ?_, hsmall, ?_, ?_, ?_, hnames, (hfiles _ hnames).1⟩
  · rw [(hchars digit hdigit).2.2 _ (by simp [identifiers]), not_not]
    exact ⟨'7', ['u', 'p'], by decide +kernel, CIdentifier.isDigit_iff.2 (by decide)⟩
  · rw [(hchars small hsmall).2.2 _ (by simp [identifiers])]
    rintro ⟨first, rest, hname, hfirst⟩
    have hletters : small.name.toList = ['s', 'h', 'o', 'p'] := by decide +kernel
    obtain rfl := (List.cons.inj (hletters.symm.trans hname)).1
    exact absurd (CIdentifier.isDigit_iff.1 hfirst) (by decide)
  · refine (hguards small capital hsmall hcapital .types .types).2 ⟨rfl, ?_⟩
    rw [CIdentifier.toLower_eq_toLower_iff]
    decide +kernel
  · intro heq
    exact absurd ((hguards small capital hsmall hcapital .types .accessor).1 heq).1 (by decide)

end DatasetCompiler
