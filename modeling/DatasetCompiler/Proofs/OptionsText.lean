import DatasetCompiler.Options.Reader
import DatasetCompiler.Proofs.QueryGroup
import DatasetCompiler.Proofs.Spelling
import Mathlib.Data.List.Perm.Subperm

/-!
# Options as text

Options that are written out are read back, whichever spelling of the text is chosen and in either
order of the two keys; a key that is left out takes its default.  An object with any other key, or
with the same key twice, is refused, whatever values stand in it.

A reader works on tokens.  If it succeeds on the tokens of a value, then it has taken those of the
value and no more, so the keys of an object are met one after the other.  What has been found so far
decides which keys may still come.

Main statement: `ofText_written`.
-/

namespace DatasetCompiler.Options

open Json (Token Stop lexText)
open Json.Grammar (Value Lexeme Mark Numeral IsDigit IsNumber SpelledCode SpelledChars IsBlank)
open List (Forall₂)

variable {stop : Stop} {lexemes rest : List Lexeme} {tokens left : List Token}

/-! ### The tokens of a value -/

theorem forall₂_mark {m : Mark} (h : Forall₂ Lexeme.Becomes (.mark m :: lexemes) tokens) :
    ∃ more, tokens = m.token :: more ∧ Forall₂ Lexeme.Becomes lexemes more := by
  rcases h with _ | ⟨hmark, hmore⟩
  cases hmark
  exact ⟨_, rfl, hmore⟩

theorem forall₂_string {s : String} (h : Forall₂ Lexeme.Becomes (.string s :: lexemes) tokens) :
    ∃ more, tokens = .string s :: more ∧ Forall₂ Lexeme.Becomes lexemes more := by
  rcases h with _ | ⟨hstring, hmore⟩
  cases hstring
  exact ⟨_, rfl, hmore⟩

/-- The tokens of a value and of what stands behind it, by the token that they begin with. -/
inductive Begins (rest : List Lexeme) : Value → List Token → Prop where
  | null {more : List Token} (h : Forall₂ Lexeme.Becomes rest more) :
      Begins rest (.word .null) (.null :: more)
  | bool {more : List Token} (b : Bool) : Begins rest (.word (.bool b)) (.bool b :: more)
  | number {more : List Token} (n : Numeral) (value : Json.Number) :
      Begins rest (.number n) (.number value :: more)
  | string {more : List Token} (s : String) (h : Forall₂ Lexeme.Becomes rest more) :
      Begins rest (.string s) (.string s :: more)
  | emptyArray {more : List Token} (h : Forall₂ Lexeme.Becomes rest more) :
      Begins rest (.array []) (.openBracket :: .closeBracket :: more)
  | array {item : Value} {items : List Value} {more : List Token}
      (h : Forall₂ Lexeme.Becomes (item.lexemes ++ (Value.moreItems items ++ rest)) more) :
      Begins rest (.array (item :: items)) (.openBracket :: more)
  | emptyObject {more : List Token} (h : Forall₂ Lexeme.Becomes rest more) :
      Begins rest (.object []) (.openBrace :: .closeBrace :: more)
  | object {key : String} {value : Value} {members : List (String × Value)} {more : List Token}
      (h : Forall₂ Lexeme.Becomes (value.lexemes ++ (Value.moreMembers members ++ rest)) more) :
      Begins rest (.object ((key, value) :: members)) (.openBrace :: .string key :: .colon :: more)

theorem begins {value : Value} (h : Forall₂ Lexeme.Becomes (value.lexemes ++ rest) tokens) :
    Begins rest value tokens := by
  cases value with
  | word w =>
    rcases h with _ | ⟨hword, hrest⟩
    cases hword
    rcases w with _ | b
    · exact .null hrest
    · exact .bool b
  | number n =>
    rcases h with _ | ⟨hnumber, -⟩
    cases hnumber
    exact .number n _
  | string s =>
    obtain ⟨more, rfl, hrest⟩ := forall₂_string h
    exact .string s hrest
  | array items =>
    rcases items with _ | ⟨item, items⟩
    · obtain ⟨more, rfl, hclose⟩ := forall₂_mark h
      obtain ⟨more, rfl, hrest⟩ := forall₂_mark hclose
      exact .emptyArray hrest
    · rw [Value.lexemes, List.cons_append, List.append_assoc] at h
      obtain ⟨more, rfl, hrest⟩ := forall₂_mark h
      exact .array hrest
  | object members =>
    rcases members with _ | ⟨⟨key, value⟩, members⟩
    · obtain ⟨more, rfl, hclose⟩ := forall₂_mark h
      obtain ⟨more, rfl, hrest⟩ := forall₂_mark hclose
      exact .emptyObject hrest
    · rw [Value.lexemes, List.cons_append, List.cons_append, List.cons_append,
        List.append_assoc] at h
      obtain ⟨more, rfl, hkey⟩ := forall₂_mark h
      obtain ⟨more, rfl, hcolon⟩ := forall₂_string hkey
      obtain ⟨more, rfl, hrest⟩ := forall₂_mark hcolon
      exact .object hrest

/-! ### A reader takes one value -/

theorem mismatch_ne_ok {α : Type} {expected : Expected} {token : Token} {result : α} :
    mismatch expected token ≠ .ok result := by
  unfold mismatch
  split <;> exact nofun

theorem takeMark_eq_ok_iff {mark : Token} {u : Unit} :
    takeMark mark stop tokens = .ok (u, left) ↔ tokens = mark :: left := by
  rcases tokens with _ | ⟨token, more⟩
  · simp [takeMark, missing]
  · by_cases htoken : token = mark
    · simp [takeMark, htoken]
    · simp [takeMark, htoken, malformed]

/-- A check is written as a string, or as an object with the one value `null`. -/
theorem takeCheck_takes {value : Value} {check : KeyCheck}
    (h : Forall₂ Lexeme.Becomes (value.lexemes ++ rest) tokens)
    (hok : takeCheck stop tokens = .ok (check, left)) :
    Forall₂ Lexeme.Becomes rest left := by
  cases begins h with
  | null | bool | number | emptyArray | array | emptyObject => cases hok
  | string s hrest =>
    obtain ⟨named, -, hok⟩ := bind_eq_ok_iff.1 hok
    cases hok
    exact hrest
  | @object key value members more hvalue =>
    obtain ⟨named, -, hok⟩ := bind_eq_ok_iff.1 hok
    obtain ⟨⟨⟨⟩, behindColon⟩, hcolon, hok⟩ := bind_eq_ok_iff.1 hok
    obtain ⟨⟨⟨⟩, behindNull⟩, hnull, hok⟩ := bind_eq_ok_iff.1 hok
    obtain ⟨⟨⟨⟩, behindBrace⟩, hbrace, hok⟩ := bind_eq_ok_iff.1 hok
    cases hok
    cases takeMark_eq_ok_iff.1 hcolon
    unfold takeNull at hnull
    cases begins hvalue with
    | null hmembers =>
      cases hnull
      rcases members with _ | ⟨member, members⟩
      · obtain ⟨more, rfl, hrest⟩ := forall₂_mark hmembers
        cases takeMark_eq_ok_iff.1 hbrace
        exact hrest
      · obtain ⟨more, rfl, hrest⟩ := forall₂_mark hmembers
        cases hbrace
    | _ => exact absurd hnull mismatch_ne_ok

theorem takeItems_takes {items : List Value} : ∀ {item : Value} {tokens : List Token}
    {strings : List String},
    Forall₂ Lexeme.Becomes (item.lexemes ++ (Value.moreItems items ++ rest)) tokens →
      takeItems stop tokens = .ok (strings, left) → Forall₂ Lexeme.Becomes rest left := by
  induction items with
  | nil =>
    intro item tokens strings h hok
    cases begins h with
    | string s hclose =>
      obtain ⟨behind, rfl, hrest⟩ := forall₂_mark hclose
      cases hok
      exact hrest
    | _ => exact absurd hok mismatch_ne_ok
  | cons next items ih =>
    intro item tokens strings h hok
    cases begins h with
    | string s hcomma =>
      rw [Value.moreItems, List.cons_append, List.append_assoc] at hcomma
      obtain ⟨behind, rfl, hrest⟩ := forall₂_mark hcomma
      obtain ⟨⟨strings', left'⟩, hitems, hok⟩ := bind_eq_ok_iff.1 hok
      cases hok
      exact ih hrest hitems
    | _ => exact absurd hok mismatch_ne_ok

theorem takeIncludes_takes {value : Value} {includes : List String}
    (h : Forall₂ Lexeme.Becomes (value.lexemes ++ rest) tokens)
    (hok : takeIncludes stop tokens = .ok (includes, left)) :
    Forall₂ Lexeme.Becomes rest left := by
  unfold takeIncludes at hok
  cases begins h with
  | emptyArray hrest =>
    cases hok
    exact hrest
  | array hitems =>
    -- an item does not begin with a closing bracket
    cases begins hitems <;> exact takeItems_takes hitems hok
  | _ => exact absurd hok mismatch_ne_ok

/-! ### The keys of an object -/

theorem Entry.key_injective : Function.Injective Entry.key := by
  intro entry other h
  cases entry <;> cases other <;> first | rfl | exact absurd h (by decide)

theorem Entry.ofKey?_eq_some_iff {key : String} {entry : Entry} :
    Entry.ofKey? key = some entry ↔ key = entry.key := by
  constructor
  · intro h
    have hkey := List.find?_some h
    exact (of_decide_eq_true hkey).symm
  · rintro rfl
    cases entry <;> decide +kernel

theorem entryFor_eq_ok_iff {found : Found} {key : String} {entry : Entry} :
    entryFor found key = .ok entry ↔ key = entry.key ∧ found.has entry = false := by
  rw [← Entry.ofKey?_eq_some_iff, entryFor]
  rcases Entry.ofKey? key with _ | known
  · simp
  · by_cases hhas : found.has known = true
    · simp only [hhas, if_true, reduceCtorEq, Option.some.injEq, false_iff, not_and]
      rintro rfl
      simp [hhas]
    · simp only [hhas, if_false, Except.ok.injEq, Option.some.injEq, Bool.false_eq_true]
      constructor
      · rintro rfl
        exact ⟨rfl, by simpa using hhas⟩
      · exact And.left

/-- A member that is taken has the key of an option that has not been met, which then is met. -/
theorem takeMember_takes {found found' : Found} {key : String} {value : Value}
    (h : Forall₂ Lexeme.Becomes (.string key :: .mark .colon :: (value.lexemes ++ rest)) tokens)
    (hok : takeMember found stop tokens = .ok (found', left)) :
    Forall₂ Lexeme.Becomes rest left ∧ ∃ entry : Entry, key = entry.key ∧ found.has entry = false ∧
      ∀ other, found'.has other = (found.has other || decide (other = entry)) := by
  obtain ⟨more, rfl, hcolon⟩ := forall₂_string h
  obtain ⟨behind, rfl, hvalue⟩ := forall₂_mark hcolon
  obtain ⟨entry, hentry, hok⟩ := bind_eq_ok_iff.1 hok
  obtain ⟨hkey, hnew⟩ := entryFor_eq_ok_iff.1 hentry
  obtain ⟨⟨⟨⟩, behind'⟩, hmark, hok⟩ := bind_eq_ok_iff.1 hok
  cases takeMark_eq_ok_iff.1 hmark
  cases entry with
  | keyCheck =>
    obtain ⟨⟨check, left'⟩, hcheck, hok⟩ := bind_eq_ok_iff.1 hok
    cases hok
    refine ⟨takeCheck_takes hvalue hcheck, .keyCheck, hkey, hnew, ?_⟩
    rintro (_ | _) <;> simp [Found.has]
  | includes =>
    obtain ⟨⟨includes, left'⟩, hincludes, hok⟩ := bind_eq_ok_iff.1 hok
    cases hok
    refine ⟨takeIncludes_takes hvalue hincludes, .includes, hkey, hnew, ?_⟩
    rintro (_ | _) <;> simp [Found.has]

/-- The keys are those of options that have not been met, each once. -/
def Fresh (found : Found) (keys : List String) : Prop :=
  ∃ entries : List Entry, keys = entries.map Entry.key ∧ entries.Nodup ∧
    ∀ entry ∈ entries, found.has entry = false

theorem fresh_nil (found : Found) : Fresh found [] := ⟨[], rfl, .nil, List.forall_mem_nil _⟩

theorem fresh_cons {found found' : Found} {entry : Entry} {keys : List String}
    (hnew : found.has entry = false)
    (hhas : ∀ other, found'.has other = (found.has other || decide (other = entry)))
    (h : Fresh found' keys) : Fresh found (entry.key :: keys) := by
  obtain ⟨entries, rfl, hnodup, hfresh⟩ := h
  have hother : ∀ other ∈ entries, found.has other = false ∧ other ≠ entry := by
    intro other hmem
    simpa [hhas] using hfresh other hmem
  refine ⟨entry :: entries, rfl, hnodup.cons fun hmem => (hother entry hmem).2 rfl, ?_⟩
  intro other hmem
  rcases List.mem_cons.1 hmem with rfl | hmem
  · exact hnew
  · exact (hother other hmem).1

theorem takeMembers_fresh {members : List (String × Value)} :
    ∀ {more : Nat} {found found' : Found} {tokens : List Token},
    Forall₂ Lexeme.Becomes (Value.moreMembers members ++ rest) tokens →
      takeMembers more found stop tokens = .ok (found', left) →
      Fresh found (members.map Prod.fst) := by
  -- over the members; what has been found, and with it what may still come, changes at each
  induction members with
  | nil =>
    intro more found found' tokens h hok
    exact fresh_nil found
  | cons member members ih =>
    intro more found found' tokens h hok
    obtain ⟨key, value⟩ := member
    rw [Value.moreMembers, List.cons_append, List.cons_append, List.cons_append,
      List.append_assoc] at h
    obtain ⟨behind, rfl, hmember⟩ := forall₂_mark h
    rcases more with _ | more
    · cases hok
    · obtain ⟨⟨next, behind'⟩, htake, hmore⟩ := bind_eq_ok_iff.1 hok
      obtain ⟨hmembers, entry, rfl, hnew, hhas⟩ := takeMember_takes hmember htake
      exact fresh_cons hnew hhas (ih hmembers hmore)

theorem forall₂_moreMembers (key : String) {value : Value} {members : List (String × Value)}
    (h : Forall₂ Lexeme.Becomes (value.lexemes ++ (Value.moreMembers members ++ rest)) tokens) :
    Forall₂ Lexeme.Becomes (Value.moreMembers ((key, value) :: members) ++ rest)
      (.comma :: .string key :: .colon :: tokens) := by
  rw [Value.moreMembers, List.cons_append, List.cons_append, List.cons_append, List.append_assoc]
  exact .cons (.mark .comma) (.cons (.string key) (.cons (.mark .colon) h))

/-- An object is read as if a comma stood before its first member. -/
theorem takeObject_string (key : String) :
    takeObject stop (.string key :: tokens) =
      takeMembers 3 .none stop (.comma :: .string key :: tokens) := rfl

theorem takeOptions_fresh {members : List (String × Value)} {options : Options}
    (h : Forall₂ Lexeme.Becomes (Value.object members).lexemes tokens)
    (hok : takeOptions stop tokens = .ok (options, left)) :
    Fresh .none (members.map Prod.fst) := by
  rw [← List.append_nil (Value.lexemes _)] at h
  cases begins h with
  | emptyObject => exact fresh_nil .none
  | object hvalue =>
    obtain ⟨⟨found, behind⟩, hobject, -⟩ := bind_eq_ok_iff.1 hok
    rw [takeObject_string] at hobject
    exact takeMembers_fresh (forall₂_moreMembers _ hvalue) hobject

/-- Options that are read from the text of an object come from known keys, each there once. -/
theorem ofText_fresh {members : List (String × Value)} {text : String} {options : Options}
    (h : (Value.object members).IsText text) (hok : ofText text = .ok options) :
    Fresh .none (members.map Prod.fst) := by
  obtain ⟨⟨taken, behind⟩, htake, hok⟩ := bind_eq_ok_iff.1 hok
  obtain ⟨⟨⟩, hend, -⟩ := bind_eq_ok_iff.1 hok
  rcases Json.Grammar.lexText_of_isText (fun _ => Value.noConfusion) h with
    ⟨tokens, hbecomes, hlex⟩ | ⟨hstop, -⟩
  · rw [hlex] at htake
    exact takeOptions_fresh hbecomes htake
  · -- a number that does not fit stops the text before its end
    rw [hstop] at hend
    rcases behind with _ | ⟨token, behind⟩
    · cases hend
    · cases hend

/-! ### Written options -/

/-- A check as it is written. -/
def checkValue : KeyCheck → Value
  | .eager => .string "eager"
  | .lazy => .string "lazy"

/-- Include targets as they are written. -/
def includesValue (includes : List String) : Value := .array (includes.map .string)

inductive Setting where
  | keyCheck (check : KeyCheck)
  | includes (targets : List String)

namespace Setting

def entry : Setting → Entry
  | .keyCheck _ => .keyCheck
  | .includes _ => .includes

/-- The member of the object form that makes a setting. -/
def member : Setting → String × Value
  | .keyCheck check => ("primaryKeyCheck", checkValue check)
  | .includes targets => ("customIncludes", includesValue targets)

def addTo (found : Found) : Setting → Found
  | .keyCheck check => { found with keyCheck := some check }
  | .includes targets => { found with includes := some targets }

end Setting

theorem takeCheck_checkValue (stop : Stop) {check : KeyCheck}
    (h : Forall₂ Lexeme.Becomes ((checkValue check).lexemes ++ rest) tokens) :
    ∃ left, takeCheck stop tokens = .ok (check, left) ∧ Forall₂ Lexeme.Becomes rest left := by
  rcases check with _ | _
  · obtain ⟨more, rfl, hrest⟩ := forall₂_string h
    exact ⟨more, rfl, hrest⟩
  · obtain ⟨more, rfl, hrest⟩ := forall₂_string h
    exact ⟨more, rfl, hrest⟩

theorem takeItems_strings (stop : Stop) {items : List String} :
    ∀ {s : String} {tokens : List Token},
    Forall₂ Lexeme.Becomes (.string s :: (Value.moreItems (items.map .string) ++ rest)) tokens →
      ∃ left, takeItems stop tokens = .ok (s :: items, left) ∧
        Forall₂ Lexeme.Becomes rest left := by
  induction items with
  | nil =>
    intro s tokens h
    obtain ⟨more, rfl, hclose⟩ := forall₂_string h
    obtain ⟨behind, rfl, hrest⟩ := forall₂_mark hclose
    exact ⟨behind, rfl, hrest⟩
  | cons next items ih =>
    intro s tokens h
    obtain ⟨more, rfl, hcomma⟩ := forall₂_string h
    obtain ⟨behind, rfl, hnext⟩ := forall₂_mark hcomma
    obtain ⟨left, hitems, hrest⟩ := ih hnext
    refine ⟨left, ?_, hrest⟩
    rw [Mark.token, takeItems, hitems]
    rfl

theorem takeIncludes_includesValue (stop : Stop) {includes : List String}
    (h : Forall₂ Lexeme.Becomes ((includesValue includes).lexemes ++ rest) tokens) :
    ∃ left, takeIncludes stop tokens = .ok (includes, left) ∧
      Forall₂ Lexeme.Becomes rest left := by
  rcases includes with _ | ⟨first, includes⟩
  · obtain ⟨more, rfl, hclose⟩ := forall₂_mark h
    obtain ⟨behind, rfl, hrest⟩ := forall₂_mark hclose
    exact ⟨behind, rfl, hrest⟩
  · obtain ⟨more, rfl, hitems⟩ := forall₂_mark h
    obtain ⟨behind, rfl, -⟩ := forall₂_string hitems
    exact takeItems_strings stop hitems

theorem takeMember_setting (stop : Stop) {found : Found} {setting : Setting}
    (hnew : found.has setting.entry = false)
    (h : Forall₂ Lexeme.Becomes
      (.string setting.member.1 :: .mark .colon :: (setting.member.2.lexemes ++ rest)) tokens) :
    ∃ left, takeMember found stop tokens = .ok (setting.addTo found, left) ∧
      Forall₂ Lexeme.Becomes rest left := by
  obtain ⟨more, rfl, hcolon⟩ := forall₂_string h
  obtain ⟨behind, rfl, hvalue⟩ := forall₂_mark hcolon
  have hentry : entryFor found setting.member.1 = .ok setting.entry := by
    rw [entryFor_eq_ok_iff]
    exact ⟨by cases setting <;> rfl, hnew⟩
  have hmark : takeMark .colon stop (Mark.colon.token :: behind) = .ok ((), behind) :=
    takeMark_eq_ok_iff.2 rfl
  rcases setting with check | targets
  · obtain ⟨left, hcheck, hrest⟩ := takeCheck_checkValue stop hvalue
    exact ⟨left, bind_eq_ok_iff.2 ⟨_, hentry, bind_eq_ok_iff.2 ⟨_, hmark,
      bind_eq_ok_iff.2 ⟨_, hcheck, rfl⟩⟩⟩, hrest⟩
  · obtain ⟨left, hincludes, hrest⟩ := takeIncludes_includesValue stop hvalue
    exact ⟨left, bind_eq_ok_iff.2 ⟨_, hentry, bind_eq_ok_iff.2 ⟨_, hmark,
      bind_eq_ok_iff.2 ⟨_, hincludes, rfl⟩⟩⟩, hrest⟩

theorem has_addTo (found : Found) (setting : Setting) (other : Entry) :
    (setting.addTo found).has other = (found.has other || decide (other = setting.entry)) := by
  cases setting <;> cases other <;> simp [Setting.addTo, Setting.entry, Found.has]

theorem takeMembers_settings (stop : Stop) {settings : List Setting} :
    ∀ {more : Nat} {found : Found} {tokens : List Token},
    settings.length ≤ more → (settings.map Setting.entry).Nodup →
      (∀ setting ∈ settings, found.has setting.entry = false) →
      Forall₂ Lexeme.Becomes (Value.moreMembers (settings.map Setting.member) ++ rest) tokens →
      ∃ left, takeMembers more found stop tokens = .ok (settings.foldl Setting.addTo found, left) ∧
        Forall₂ Lexeme.Becomes rest left := by
  -- the bound on further members goes down with the settings that are left
  induction settings with
  | nil =>
    intro more found tokens hlength hnodup hnew h
    obtain ⟨behind, rfl, hrest⟩ := forall₂_mark h
    exact ⟨behind, by rw [Mark.token, takeMembers, List.foldl_nil], hrest⟩
  | cons setting settings ih =>
    intro more found tokens hlength hnodup hnew h
    obtain ⟨hfirst, hnodup⟩ := List.nodup_cons.1 hnodup
    obtain ⟨hsetting, hsettings⟩ := List.forall_mem_cons.1 hnew
    rcases more with _ | more
    · cases hlength
    rw [List.map_cons, Value.moreMembers, List.cons_append, List.cons_append, List.cons_append,
      List.append_assoc] at h
    obtain ⟨behind, rfl, hmember⟩ := forall₂_mark h
    obtain ⟨next, htake, hmembers⟩ := takeMember_setting stop hsetting hmember
    have hlater : ∀ later ∈ settings, (setting.addTo found).has later.entry = false := by
      intro later hmem
      have hne : later.entry ≠ setting.entry := by
        intro heq
        exact hfirst (heq ▸ List.mem_map_of_mem hmem)
      simp [has_addTo, hsettings later hmem, hne]
    obtain ⟨left, hmore, hrest⟩ :=
      ih (Nat.le_of_succ_le_succ hlength) hnodup hlater hmembers
    exact ⟨left, bind_eq_ok_iff.2 ⟨_, htake, hmore⟩, hrest⟩

theorem length_le_two {entries : List Entry} (h : entries.Nodup) : entries.length ≤ 2 := by
  have hsubset : entries ⊆ [Entry.keyCheck, Entry.includes] := by
    rintro (_ | _) - <;> simp
  exact (List.subperm_of_subset h hsubset).length_le

theorem takeOptions_settings (stop : Stop) {settings : List Setting}
    (hnodup : (settings.map Setting.entry).Nodup)
    (h : Forall₂ Lexeme.Becomes (Value.object (settings.map Setting.member)).lexemes tokens) :
    takeOptions stop tokens = .ok ((settings.foldl Setting.addTo .none).toOptions, []) := by
  rw [← List.append_nil (Value.lexemes _)] at h
  have hlength := length_le_two hnodup
  rw [List.length_map] at hlength
  have hnew : ∀ setting ∈ settings, Found.none.has setting.entry = false := by
    intro setting _
    cases setting <;> rfl
  generalize hmembers : settings.map Setting.member = members at h
  cases begins h with
  | emptyObject hrest =>
    obtain rfl := List.map_eq_nil_iff.1 hmembers
    cases hrest
    rfl
  | @object key value members more hvalue =>
    have hmember := forall₂_moreMembers key hvalue
    rw [← hmembers] at hmember
    obtain ⟨left, hobject, hrest⟩ :=
      takeMembers_settings stop (Nat.le_succ_of_le hlength) hnodup hnew hmember
    cases hrest
    exact bind_eq_ok_iff.2 ⟨_, hobject, rfl⟩

theorem takeOptions_array (stop : Stop) {check : KeyCheck} {includes : List String}
    (h : Forall₂ Lexeme.Becomes
      (Value.array [checkValue check, includesValue includes]).lexemes tokens) :
    takeOptions stop tokens = .ok (⟨check, includes⟩, []) := by
  rw [← List.append_nil (Value.lexemes _)] at h
  cases begins h with
  | @array _ _ more hcheck =>
    obtain ⟨behind, htake, hcomma⟩ := takeCheck_checkValue stop hcheck
    rw [Value.moreItems, List.cons_append, List.append_assoc] at hcomma
    obtain ⟨behind, rfl, hincludes⟩ := forall₂_mark hcomma
    obtain ⟨left, htake', hclose⟩ := takeIncludes_includesValue stop hincludes
    obtain ⟨last, rfl, hrest⟩ := forall₂_mark hclose
    cases hrest
    -- the array is not empty, since it begins with the name of the check
    obtain ⟨name, later, rfl⟩ : ∃ name later, more = .string name :: later := by
      rcases check with _ | _
      · obtain ⟨later, rfl, -⟩ := forall₂_string hcheck
        exact ⟨_, later, rfl⟩
      · obtain ⟨later, rfl, -⟩ := forall₂_string hcheck
        exact ⟨_, later, rfl⟩
    have harray : takeArray stop (.string name :: later) =
        .ok (⟨some check, some includes⟩, []) :=
      bind_eq_ok_iff.2 ⟨_, htake, bind_eq_ok_iff.2 ⟨_, htake', bind_eq_ok_iff.2
        ⟨((), []), takeMark_eq_ok_iff.2 rfl, rfl⟩⟩⟩
    exact bind_eq_ok_iff.2 ⟨_, harray, rfl⟩

/-! ### Texts without numbers -/

theorem number_notMem_moreItems (n : Numeral) (items : List String) :
    .number n ∉ Value.moreItems (items.map .string) := by
  induction items with
  | nil => simp [Value.moreItems]
  | cons item items ih => simp [Value.moreItems, Value.lexemes, ih]

theorem number_notMem_includesValue (n : Numeral) (includes : List String) :
    .number n ∉ (includesValue includes).lexemes := by
  rcases includes with _ | ⟨first, includes⟩
  · simp [includesValue, Value.lexemes]
  · simp [includesValue, Value.lexemes, number_notMem_moreItems]

theorem number_notMem_checkValue (n : Numeral) (check : KeyCheck) :
    .number n ∉ (checkValue check).lexemes := by
  cases check <;> simp [checkValue, Value.lexemes]

theorem number_notMem_moreMembers (n : Numeral) (settings : List Setting) :
    .number n ∉ Value.moreMembers (settings.map Setting.member) := by
  induction settings with
  | nil => simp [Value.moreMembers]
  | cons setting settings ih =>
    cases setting <;>
      simp [Setting.member, Value.moreMembers, number_notMem_checkValue,
        number_notMem_includesValue, ih]

theorem number_notMem_object (n : Numeral) (settings : List Setting) :
    .number n ∉ (Value.object (settings.map Setting.member)).lexemes := by
  rcases settings with _ | ⟨setting, settings⟩
  · simp [Value.lexemes]
  · have hnone := number_notMem_moreMembers n (setting :: settings)
    simpa [Value.lexemes, Value.moreMembers] using hnone

/-- Where no number can fail to fit, the text gives what its tokens give. -/
theorem ofText_of_takeOptions {value : Value} {text : String} {options : Options}
    (hnumber : ∀ n, .number n ∉ value.lexemes) (h : value.IsText text)
    (htake : ∀ {tokens}, Forall₂ Lexeme.Becomes value.lexemes tokens →
      takeOptions .finished tokens = .ok (options, [])) : ofText text = .ok options := by
  have hvalue : ∀ n, value ≠ .number n := by
    rintro n rfl
    exact hnumber n (List.mem_singleton.2 rfl)
  rcases Json.Grammar.lexText_of_isText hvalue h with ⟨tokens, hbecomes, hlex⟩ | ⟨-, n, hmem⟩
  · rw [ofText, hlex]
    exact bind_eq_ok_iff.2 ⟨_, htake hbecomes, rfl⟩
  · exact absurd hmem (hnumber n)

theorem ofText_settings (settings : List Setting) (hnodup : (settings.map Setting.entry).Nodup)
    {text : String} (h : (Value.object (settings.map Setting.member)).IsText text) :
    ofText text = .ok (settings.foldl Setting.addTo .none).toOptions :=
  ofText_of_takeOptions (fun n => number_notMem_object n settings) h
    (takeOptions_settings .finished hnodup)

theorem ofText_array {check : KeyCheck} {includes : List String} {text : String}
    (h : (Value.array [checkValue check, includesValue includes]).IsText text) :
    ofText text = .ok ⟨check, includes⟩ := by
  refine ofText_of_takeOptions ?_ h (takeOptions_array .finished)
  intro n
  simp [Value.lexemes, Value.moreItems, number_notMem_checkValue, number_notMem_includesValue]

/-- Written options are read back from every text of them, in either order of the keys or as an
array, with the default for a key that is left out.  An object that has another key, or a key twice,
is refused. -/
theorem ofText_written :
    (∀ (check : KeyCheck) (includes : List String) (text : String),
      ((Value.object [("primaryKeyCheck", checkValue check),
          ("customIncludes", includesValue includes)]).IsText text →
        ofText text = .ok ⟨check, includes⟩) ∧
      ((Value.object [("customIncludes", includesValue includes),
          ("primaryKeyCheck", checkValue check)]).IsText text →
        ofText text = .ok ⟨check, includes⟩) ∧
      ((Value.array [checkValue check, includesValue includes]).IsText text →
        ofText text = .ok ⟨check, includes⟩) ∧
      ((Value.object [("primaryKeyCheck", checkValue check)]).IsText text →
        ofText text = .ok ⟨check, []⟩) ∧
      ((Value.object [("customIncludes", includesValue includes)]).IsText text →
        ofText text = .ok ⟨.eager, includes⟩) ∧
      ((Value.object []).IsText text → ofText text = .ok ⟨.eager, []⟩)) ∧
    ∀ (members : List (String × Value)) (text : String), (Value.object members).IsText text →
      ((∃ key ∈ members.map Prod.fst, key ≠ "primaryKeyCheck" ∧ key ≠ "customIncludes") ∨
        ¬(members.map Prod.fst).Nodup) →
      ∃ error, ofText text = .error error := by
  constructor
  · intro check includes text
    refine ⟨?_, ?_, ofText_array, ?_, ?_, ?_⟩
    · exact ofText_settings [.keyCheck check, .includes includes] (by simp [Setting.entry])
    · exact ofText_settings [.includes includes, .keyCheck check] (by simp [Setting.entry])
    · exact ofText_settings [.keyCheck check] (by simp [Setting.entry])
    · exact ofText_settings [.includes includes] (by simp [Setting.entry])
    · exact ofText_settings [] .nil
  · intro members text h hkeys
    cases hok : ofText text with
    | error error => exact ⟨error, rfl⟩
    | ok options =>
      obtain ⟨entries, hentries, hnodup, -⟩ := ofText_fresh h hok
      rw [hentries] at hkeys
      rcases hkeys with ⟨key, hmem, hcheck, hincludes⟩ | hrepeated
      · obtain ⟨entry, -, rfl⟩ := List.mem_map.1 hmem
        rcases entry with _ | _
        · exact absurd rfl hcheck
        · exact absurd rfl hincludes
      · exact absurd (hnodup.map Entry.key_injective) hrepeated

theorem ofText_written_escapes :
    ofText "\x7b\"customIncludes\":[\"\\\"\\\\\\n\\u0001é😀\",\"\"],\"primaryKeyCheck\":\"lazy\"\x7d"
      = .ok ⟨.lazy, ["\"\\\n\x01é😀", ""]⟩ ∧
    ofText "[\"lazy\",[\"*\"]]" = .ok ⟨.lazy, ["*"]⟩ ∧
    ofText "\x7b\"customIncludes\":[\"*\"]\x7d" = .ok ⟨.eager, ["*"]⟩ ∧
    (∃ error, ofText "\x7b\"customIncludes\":[],\"customIncludes\":[]\x7d" = .error error) ∧
    ∃ error, ofText "\x7b\"\\u0078\":1e999\x7d" = .error error := by
  have hboth := Value.isText_compact (.object
    [("customIncludes", includesValue ["\"\\\n\x01é😀", ""]),
      ("primaryKeyCheck", checkValue .lazy)])
  have harray := Value.isText_compact (.array [checkValue .lazy, includesValue ["*"]])
  have hincludes := Value.isText_compact (.object [("customIncludes", includesValue ["*"])])
  have hrepeated := Value.isText_compact (.object
    [("customIncludes", includesValue []), ("customIncludes", includesValue [])])
  have hnumber : IsNumber (['1'] ++ ([] ++ ['e', '9', '9', '9'])) :=
    .positive (.parts (.digits (by decide) (by decide) (List.forall_mem_nil _)) .absent
      (.unsigned (.inl rfl) ⟨by decide, by simp [IsDigit]⟩))
  have hcode : SpelledCode (((0 * 16 + 0) * 16 + 7) * 16 + 8) ['0', '0', '7', '8'] :=
    .digits (.inl rfl) (.inl rfl) (.inl rfl) (.inl rfl)
  have hkey : SpelledChars "x".toList (['\\', 'u', '0', '0', '7', '8'] ++ []) :=
    .cons (.code hcode) .nil
  have hblanks : ∀ c ∈ ([] : List Char), IsBlank c := List.forall_mem_nil _
  have hunknown : (Value.object [("x", .number ⟨_, hnumber⟩)]).IsText
      "\x7b\"\\u0078\":1e999\x7d" :=
    .cons hblanks (.mark .openBrace) <| .cons hblanks (.string hkey) <|
      .cons hblanks (.mark .colon) <| .cons hblanks (.number _) <|
      .cons hblanks (.mark .closeBrace) <| .nil hblanks
  exact ⟨(ofText_written.1 .lazy _ _).2.1 hboth, (ofText_written.1 .lazy _ _).2.2.1 harray,
    (ofText_written.1 .lazy _ _).2.2.2.2.1 hincludes,
    ofText_written.2 _ _ hrepeated (.inr (by decide)),
    ofText_written.2 _ _ hunknown (.inl ⟨"x", by simp, by decide⟩)⟩

end DatasetCompiler.Options
