import DatasetCompiler.Json
import Mathlib.Data.List.Nodup

/-!
# Objects that hold each key once

Members that share a key are merged when a document is read, so no object of a document repeats a
key.  Looking a key up is then the same as finding its member, wherever it stands.
-/

namespace DatasetCompiler.Json

/-- No object in the value repeats a key. -/
inductive UniqueKeys : Json → Prop where
  | null : UniqueKeys .null
  | bool (value : Bool) : UniqueKeys (.bool value)
  | number (value : Number) : UniqueKeys (.number value)
  | string (text : String) : UniqueKeys (.string text)
  | array {items : List Json} (hitems : ∀ item ∈ items, UniqueKeys item) :
      UniqueKeys (.array items)
  | object {members : List (String × Json)} (hkeys : (members.map Prod.fst).Nodup)
      (hvalues : ∀ member ∈ members, UniqueKeys member.2) : UniqueKeys (.object members)

/-! ### Looking keys up -/

theorem lookup_eq_none_iff_notMem {key : String} {members : List (String × Json)} :
    members.lookup key = none ↔ key ∉ members.map Prod.fst := by
  rw [List.lookup_eq_none_iff]
  constructor
  · intro h hmem
    obtain ⟨member, hmember, rfl⟩ := List.mem_map.1 hmem
    simpa using h member hmember
  · intro h member hmember
    have hne : key ≠ member.1 := fun heq => h (heq ▸ List.mem_map_of_mem hmember)
    simpa using hne

theorem mem_of_lookup_eq_some {key : String} {value : Json} {members : List (String × Json)}
    (h : members.lookup key = some value) : (key, value) ∈ members := by
  obtain ⟨before, after, rfl, -⟩ := List.lookup_eq_some_iff.1 h
  simp

theorem lookup_eq_some_of_mem {key : String} {value : Json} {members : List (String × Json)}
    (hkeys : (members.map Prod.fst).Nodup) (hmem : (key, value) ∈ members) :
    members.lookup key = some value := by
  induction members with
  | nil => simp at hmem
  | cons member members ih =>
    obtain ⟨name, first⟩ := member
    rw [List.map_cons, List.nodup_cons] at hkeys
    rcases List.mem_cons.1 hmem with heq | hlater
    · obtain ⟨rfl, rfl⟩ := Prod.mk.inj heq
      simp
    · have hne : key ≠ name := by
        rintro rfl
        exact hkeys.1 (List.mem_map.2 ⟨_, hlater, rfl⟩)
      have hbeq : (key == name) = false := by simpa using hne
      rw [List.lookup_cons, hbeq]
      exact ih hkeys.2 hlater

/-! ### Merged values -/

theorem keys_setMember (key : String) (value : Json) (members : List (String × Json)) :
    (setMember key value members).map Prod.fst =
      if key ∈ members.map Prod.fst then members.map Prod.fst
      else members.map Prod.fst ++ [key] := by
  induction members with
  | nil => rfl
  | cons member members ih =>
    obtain ⟨name, first⟩ := member
    by_cases hname : name = key
    · simp [setMember, hname]
    · have hne : key ≠ name := Ne.symm hname
      simp only [setMember, if_neg hname, List.map_cons, ih, List.mem_cons, hne, false_or]
      split <;> rfl

theorem mem_setMember {key : String} {value : Json} {member : String × Json}
    {members : List (String × Json)} (h : member ∈ setMember key value members) :
    member = (key, value) ∨ member ∈ members := by
  induction members with
  | nil => exact Or.inl (List.mem_singleton.1 h)
  | cons first members ih =>
    obtain ⟨name, other⟩ := first
    by_cases hname : name = key
    · rw [setMember, if_pos hname] at h
      rcases List.mem_cons.1 h with rfl | h
      · exact Or.inl (by rw [hname])
      · exact Or.inr (List.mem_cons_of_mem _ h)
    · rw [setMember, if_neg hname] at h
      rcases List.mem_cons.1 h with rfl | h
      · exact Or.inr List.mem_cons_self
      · exact (ih h).imp_right (List.mem_cons_of_mem _)

theorem nodup_keys_setMember {members : List (String × Json)}
    (h : (members.map Prod.fst).Nodup) (key : String) (value : Json) :
    ((setMember key value members).map Prod.fst).Nodup := by
  rw [keys_setMember]
  split
  · exact h
  · rename_i hnew
    rw [← List.concat_eq_append]
    exact h.concat hnew

/-- What holds of an object before its members are set one after the other holds afterwards. -/
theorem uniqueKeys_foldl {kept members : List (String × Json)} (hkept : (object kept).UniqueKeys)
    (hmembers : ∀ member ∈ members, UniqueKeys member.2) :
    (object (members.foldl (fun kept member => setMember member.1 member.2 kept)
      kept)).UniqueKeys := by
  induction members generalizing kept with
  | nil => exact hkept
  | cons member members ih =>
    rw [List.foldl_cons]
    cases hkept with
    | object hkeys hvalues =>
      refine ih (.object (nodup_keys_setMember hkeys _ _) ?_) fun other hother =>
        hmembers other (List.mem_cons_of_mem _ hother)
      intro other hother
      rcases mem_setMember hother with rfl | hother
      · exact hmembers member List.mem_cons_self
      · exact hvalues other hother

mutual

theorem uniqueKeys_merged : ∀ value : Json, value.merged.UniqueKeys
  | .null => by rw [merged]; exact .null
  | .bool b => by rw [merged]; exact .bool b
  | .number n => by rw [merged]; exact .number n
  | .string s => by rw [merged]; exact .string s
  | .array items => by rw [merged]; exact .array (uniqueKeys_mergedItems items)
  | .object members => by
    rw [merged, lastWins]
    exact uniqueKeys_foldl (.object List.nodup_nil (by simp)) (uniqueKeys_mergedMembers members)

theorem uniqueKeys_mergedItems : ∀ items : List Json, ∀ item ∈ mergedItems items, item.UniqueKeys
  | [], _, h => by simp [mergedItems] at h
  | first :: items, item, h => by
    rw [mergedItems, List.mem_cons] at h
    rcases h with rfl | h
    · exact uniqueKeys_merged first
    · exact uniqueKeys_mergedItems items item h

theorem uniqueKeys_mergedMembers : ∀ members : List (String × Json),
    ∀ member ∈ mergedMembers members, member.2.UniqueKeys
  | [], _, h => by simp [mergedMembers] at h
  | (_, first) :: members, member, h => by
    rw [mergedMembers, List.mem_cons] at h
    rcases h with rfl | h
    · exact uniqueKeys_merged first
    · exact uniqueKeys_mergedMembers members member h

end

/-- A document that was read repeats no key. -/
theorem uniqueKeys_of_ofLexed {lexed : Lexed} {value : Json} (h : ofLexed lexed = .ok value) :
    value.UniqueKeys := by
  rw [ofLexed] at h
  cases hwritten : written lexed with
  | error fault =>
    rw [hwritten] at h
    cases h
  | ok raw =>
    rw [hwritten] at h
    obtain rfl : raw.merged = value := Except.ok.inj h
    exact uniqueKeys_merged raw

end DatasetCompiler.Json
