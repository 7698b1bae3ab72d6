import DatasetCompiler.Json.Source

/-!
# Runs of the lexer

The lexer takes one byte at a time and keeps what it knows in its state.  Three facts follow, each
from what one byte does.

The output for a run of bytes is the output for its first part, continued from the state that the
first part leaves, so it does not matter how an input is cut (`feedChunks_eq_feed`).

A lexer inside a scalar gives this scalar or gives no token (`pursues_feed`).

The bytes of a text never close a string that cannot be decoded (`isEncoded_of_closes`): a byte
from `0x80` on belongs to a string only between two characters or among the digits of an escape,
and a string is closed by a byte below it.
-/

namespace DatasetCompiler

namespace Json

namespace Lexer

/-! ### Pieces -/

/-- The output of a lexer, continued by a run of the lexer that it left. -/
def Output.andThen (out : Output) (next : Lexer → Output) : Output :=
  match out with
  | (tokens, none) => (tokens, none)
  | (tokens, some l) => (tokens ++ (next l).1, (next l).2)

theorem andThen_assoc (out : Output) (f g : Lexer → Output) :
    (out.andThen f).andThen g = out.andThen fun l => (f l).andThen g := by
  obtain ⟨tokens, _ | l⟩ := out
  · rfl
  · simp only [Output.andThen]
    cases hf : f l with
    | mk more last =>
      cases last with
      | none => rfl
      | some next => simp

theorem feed_cons (l : Lexer) (b : UInt8) (bs : List UInt8) :
    l.feed (b :: bs) = (l.step b).andThen fun next => next.feed bs := by
  rw [feed]
  rcases l.step b with ⟨tokens, _ | next⟩ <;> rfl

theorem feed_append (l : Lexer) (bs more : List UInt8) :
    l.feed (bs ++ more) = (l.feed bs).andThen fun next => next.feed more := by
  induction bs generalizing l with
  | nil => simp [feed, Output.andThen]
  | cons b bs ih =>
    rw [List.cons_append, feed_cons, feed_cons, andThen_assoc]
    congr 1
    funext next
    exact ih next

/-- What each byte preserves, a run of them preserves. -/
theorem feed_preserves {P : Lexer → Prop} {bytes : List UInt8}
    (hstep : ∀ b ∈ bytes, ∀ l next tokens, P l → l.step b = (tokens, some next) → P next)
    {l last : Lexer} {tokens : List Token} (hl : P l) (h : l.feed bytes = (tokens, some last)) :
    P last := by
  induction bytes generalizing l tokens with
  | nil =>
    cases h
    exact hl
  | cons b bytes ih =>
    obtain ⟨hb, hbytes⟩ := List.forall_mem_cons.1 hstep
    rw [feed_cons] at h
    rcases hnext : l.step b with ⟨first, _ | next⟩
    · rw [hnext] at h
      cases h
    · rw [hnext] at h
      have hrest : next.feed bytes = ((next.feed bytes).1, some last) :=
        Prod.ext rfl (Prod.mk.inj h).2
      exact ih hbytes (hb l next first hl hnext) hrest

theorem feedChunks_eq_feed (l : Lexer) (chunks : List (List UInt8)) :
    l.feedChunks chunks = l.feed chunks.flatten := by
  induction chunks generalizing l with
  | nil => rfl
  | cons chunk chunks ih =>
    rw [List.flatten_cons, feed_append, feedChunks]
    rcases l.feed chunk with ⟨tokens, _ | next⟩
    · rfl
    · simp only [Output.andThen, ih next]

end Lexer

/-! ### A token that has begun -/

/-- A string, or a scalar of another kind. -/
def Token.IsScalar (isString : Bool) : Token → Prop
  | .string _ => isString = true
  | .null | .bool _ | .number _ => isString = false
  | .openBrace | .closeBrace | .openBracket | .closeBracket | .comma | .colon => False

/-- The lexer has read a part of a scalar, which is a string or not. -/
inductive Lexer.Reads : Bool → Lexer → Prop where
  | word (rest : List UInt8) {token : Token} (h : token.IsScalar false) :
      Reads false (.word rest token)
  | number (n : NumberLexer) : Reads false (.number n)
  | string (s : StringLexer) : Reads true (.string s)

/-- The lexer stands between two tokens or inside a scalar. -/
def Lexer.Regular (l : Lexer) : Prop := l = .between ∨ ∃ isString, l.Reads isString

namespace Lexer

theorem isScalar_of_word? {b : UInt8} {rest : List UInt8} {token : Token}
    (h : word? b = some (rest, token)) : token.IsScalar false := by
  unfold word? at h
  split at h
  · obtain ⟨-, rfl⟩ := Prod.mk.inj (Option.some.inj h)
    rfl
  · obtain ⟨-, rfl⟩ := Prod.mk.inj (Option.some.inj h)
    rfl
  · obtain ⟨-, rfl⟩ := Prod.mk.inj (Option.some.inj h)
    rfl
  · cases h

theorem regular_stepBetween {b : UInt8} {tokens : List Token} {l : Lexer}
    (h : stepBetween b = (tokens, some l)) : l.Regular := by
  unfold stepBetween at h
  split at h
  · cases h
    exact Or.inl rfl
  split at h
  · cases h
    exact Or.inr ⟨true, .string _⟩
  split at h
  · cases h
    exact Or.inl rfl
  · rename_i hword
    cases h
    exact Or.inr ⟨false, .word _ (isScalar_of_word? hword)⟩
  · cases h
    exact Or.inr ⟨false, .number _⟩
  · cases h

/-- The scalar is still being read, cannot be finished, or is the first token of the output. -/
inductive Pursues (isString : Bool) : Output → Prop where
  | open {l : Lexer} (h : l.Reads isString) : Pursues isString ([], some l)
  | dead : Pursues isString ([], none)
  | complete {token : Token} (h : token.IsScalar isString) (tokens : List Token)
      (last : Option Lexer) : Pursues isString (token :: tokens, last)

theorem pursues_step {isString : Bool} {l : Lexer} (h : l.Reads isString) (b : UInt8) :
    Pursues isString (l.step b) := by
  cases h with
  | word rest htoken =>
    change Pursues false (stepWord b _ rest)
    unfold stepWord
    split
    · exact .dead
    · split
      · exact .complete htoken [] _
      · exact .dead
    · split
      · exact .open (.word _ htoken)
      · exact .dead
  | number n =>
    change Pursues false (stepNumber b n)
    unfold stepNumber
    split
    · exact .open (.number _)
    · exact .dead
    · split
      · exact .dead
      · refine .complete ?_ _ _
        rfl
  | string s =>
    change Pursues true (stepString b s)
    unfold stepString
    split
    · exact .open (.string _)
    · exact .dead
    · split
      · refine .complete ?_ [] _
        rfl
      · exact .dead

theorem Pursues.andThen {isString : Bool} {out : Output} (h : Pursues isString out)
    {next : Lexer → Output} (hnext : ∀ l : Lexer, l.Reads isString → Pursues isString (next l)) :
    Pursues isString (out.andThen next) := by
  cases h with
  | «open» hl => exact hnext _ hl
  | dead => exact .dead
  | complete htoken tokens last =>
    cases last with
    | none => exact .complete htoken tokens none
    | some l => exact .complete htoken _ _

theorem pursues_feed {isString : Bool} {l : Lexer} (h : l.Reads isString) (bytes : List UInt8) :
    Pursues isString (l.feed bytes) := by
  induction bytes generalizing l with
  | nil => exact .open h
  | cons b bytes ih =>
    rw [feed_cons]
    exact (pursues_step h b).andThen fun next hnext => ih hnext

theorem regular_step {l next : Lexer} {b : UInt8} {tokens : List Token} (h : l.Regular)
    (hstep : l.step b = (tokens, some next)) : next.Regular := by
  rcases h with rfl | ⟨isString, hreads⟩
  · exact regular_stepBetween hstep
  · cases hreads with
    | word rest htoken =>
      change stepWord b _ rest = _ at hstep
      unfold stepWord at hstep
      split at hstep
      · cases hstep
      · split at hstep
        · cases hstep
          exact Or.inl rfl
        · cases hstep
      · split at hstep
        · cases hstep
          exact Or.inr ⟨false, .word _ htoken⟩
        · cases hstep
    | number n =>
      change stepNumber b n = _ at hstep
      unfold stepNumber at hstep
      split at hstep
      · cases hstep
        exact Or.inr ⟨false, .number _⟩
      · cases hstep
      · split at hstep
        · cases hstep
        · exact regular_stepBetween (Prod.ext rfl (Prod.mk.inj hstep).2)
    | string s =>
      change stepString b s = _ at hstep
      unfold stepString at hstep
      split at hstep
      · cases hstep
        exact Or.inr ⟨true, .string _⟩
      · cases hstep
      · split at hstep
        · cases hstep
          exact Or.inl rfl
        · cases hstep

theorem regular_feed {l last : Lexer} {bytes : List UInt8} {tokens : List Token} (h : l.Regular)
    (hfeed : l.feed bytes = (tokens, some last)) : last.Regular :=
  feed_preserves (fun _ _ _ _ _ hl hstep => regular_step hl hstep) h hfeed

/-- The tokens of an input that begins inside a scalar. -/
inductive Resumes (isString : Bool) (ending : Ending) : Lexed → Prop where
  | cut : Resumes isString ending ⟨[], .cut isString ending⟩
  | dead : Resumes isString ending ⟨[], .malformed⟩
  | complete {token : Token} (h : token.IsScalar isString) (tokens : List Token) (stop : Stop) :
      Resumes isString ending ⟨token :: tokens, stop⟩

theorem resumes_finish {isString : Bool} {l : Lexer} (h : l.Reads isString) (ending : Ending) :
    Resumes isString ending (l.finish ending) := by
  cases h with
  | word rest htoken => exact .cut
  | string s => exact .cut
  | number n =>
    cases ending with
    | broken => exact .cut
    | closed =>
      cases hcomplete : n.isComplete with
      | false =>
        simp only [finish, hcomplete]
        exact .cut
      | true =>
        simp only [finish, hcomplete]
        split
        · refine .complete ?_ [] _
          rfl
        · exact .dead

theorem Pursues.resumes {isString : Bool} {out : Output} (h : Pursues isString out)
    (ending : Ending) : Resumes isString ending (conclude ending out) := by
  cases h with
  | «open» hl => exact resumes_finish hl ending
  | dead => exact .dead
  | complete htoken tokens last =>
    cases last with
    | none => exact .complete htoken tokens .malformed
    | some l => exact .complete htoken _ _

end Lexer

/-! ### Strings in a text -/

/-- The bytes encode a text. -/
def IsEncoded (bytes : List UInt8) : Prop := ∃ text : String, bytesOfText text = bytes

theorem bytesOfText_eq_flatMap (text : String) :
    bytesOfText text = text.toList.flatMap String.utf8EncodeChar := by
  rw [bytesOfText, String.toUTF8, ← String.utf8Encode_toList, List.utf8Encode,
    List.data_toByteArray]

theorem isEncoded_nil : IsEncoded [] := ⟨"", rfl⟩

theorem isEncoded_encodeChar (c : Char) : IsEncoded (String.utf8EncodeChar c) :=
  ⟨String.singleton c, by simp [bytesOfText_eq_flatMap]⟩

theorem IsEncoded.append {bytes more : List UInt8} (h : IsEncoded bytes) (hmore : IsEncoded more) :
    IsEncoded (bytes ++ more) := by
  obtain ⟨text, rfl⟩ := h
  obtain ⟨rest, rfl⟩ := hmore
  exact ⟨text ++ rest, by simp [bytesOfText_eq_flatMap]⟩

theorem textOfBytes?_bytesOfText (text : String) :
    textOfBytes? (bytesOfText text) = some text := by
  have hbytes : (⟨(bytesOfText text).toArray⟩ : ByteArray) = text.toByteArray := by
    rw [bytesOfText, Array.toArray_toList]
    rfl
  rw [textOfBytes?, hbytes, String.fromUTF8?, dif_pos text.isValidUTF8]
  rfl

/-- A character is encoded by one byte below `0x80`, or only by bytes from there on. -/
theorem encodeChar_cases (c : Char) :
    (∃ b : UInt8, b < 0x80 ∧ String.utf8EncodeChar c = [b]) ∨
      ∀ b ∈ String.utf8EncodeChar c, 0x80 ≤ b := by
  have hhigh : ∀ n, 128 ≤ n → n < 256 → (0x80 : UInt8) ≤ UInt8.ofNat n := by
    intro n hle hlt
    rw [UInt8.le_iff_toNat_le, UInt8.toNat_ofNat']
    change 128 ≤ n % 256
    omega
  simp only [String.utf8EncodeChar]
  generalize c.val.toNat = code
  split
  · left
    refine ⟨_, ?_, rfl⟩
    rw [UInt8.lt_iff_toNat_lt, UInt8.toNat_ofNat']
    change code % 256 < 128
    omega
  right
  split
  · simp only [List.forall_mem_cons]
    exact ⟨hhigh _ (by omega) (by omega), hhigh _ (by omega) (by omega), nofun⟩
  split
  · simp only [List.forall_mem_cons]
    exact ⟨hhigh _ (by omega) (by omega), hhigh _ (by omega) (by omega),
      hhigh _ (by omega) (by omega), nofun⟩
  · simp only [List.forall_mem_cons]
    exact ⟨hhigh _ (by omega) (by omega), hhigh _ (by omega) (by omega),
      hhigh _ (by omega) (by omega), hhigh _ (by omega) (by omega), nofun⟩

theorem isEncoded_singleton {b : UInt8} (h : b < 0x80) : IsEncoded [b] := by
  have hchar : ∀ n < 0x80,
      String.utf8EncodeChar (Char.ofUInt8 (UInt8.ofNat n)) = [UInt8.ofNat n] := by
    decide +kernel
  have hb := hchar b.toNat (UInt8.lt_iff_toNat_lt.1 h)
  rw [UInt8.ofNat_toNat] at hb
  exact hb ▸ isEncoded_encodeChar _

/-- An ASCII character is not a byte from `0x80` on. -/
theorem ofUInt8_ne {b : UInt8} (h : 0x80 ≤ b) {c : Char} (hc : c.toNat < 0x80) :
    Char.ofUInt8 b ≠ c := by
  rintro rfl
  have hb : 0x80 ≤ (Char.ofUInt8 b).toNat := UInt8.le_iff_toNat_le.1 h
  omega

namespace StringLexer

/-- What has been read of the string, last byte first. -/
def bytes : StringLexer → List UInt8
  | .body bytes | .escape bytes | .hex bytes _ _ | .surrogate bytes _
  | .surrogateEscape bytes _ => bytes

/-- What a byte does to a string: it adds nothing, an escaped character or itself, or it is the
closing quote. -/
inductive Takes (s : StringLexer) (b : UInt8) : StringStep → Prop where
  | kept {next : StringLexer} (h : next.bytes = s.bytes) : Takes s b (.more next)
  | escaped (c : Char) : Takes s b (.more (push s.bytes c))
  | added : Takes s b (.more (.body (b :: s.bytes)))
  | quote (h : Char.ofUInt8 b = '"') : Takes s b (.closed s.bytes.reverse)
  | malformed : Takes s b .malformed

theorem takes_step (s : StringLexer) (b : UInt8) : Takes s b (s.step b) := by
  cases s with
  | body bytes =>
    simp only [step]
    split
    · exact .quote ‹_›
    split
    · exact .kept rfl
    split
    · exact .malformed
    · exact .added
  | escape bytes =>
    simp only [step]
    split
    · exact .escaped _
    split
    · exact .kept rfl
    · exact .malformed
  | hex bytes high digits =>
    simp only [step]
    split
    · exact .kept rfl
    split
    · unfold closeHex
      split
      · split
        · exact .malformed
        split
        · exact .kept rfl
        · exact .escaped _
      · split
        · exact .escaped _
        · exact .malformed
    · exact .malformed
  | surrogate bytes high =>
    simp only [step]
    split
    · exact .kept rfl
    · exact .malformed
  | surrogateEscape bytes high =>
    simp only [step]
    split
    · exact .kept rfl
    · exact .malformed

theorem step_body {b : UInt8} (h : 0x80 ≤ b) (bytes : List UInt8) :
    (body bytes).step b = .more (.body (b :: bytes)) := by
  have hb : ¬b < 0x20 := by
    rw [UInt8.le_iff_toNat_le] at h
    rw [UInt8.lt_iff_toNat_lt]
    change 128 ≤ b.toNat at h
    change ¬b.toNat < 32
    omega
  simp only [step]
  rw [if_neg (ofUInt8_ne h (by decide)), if_neg (ofUInt8_ne h (by decide)), if_neg hb]

theorem escaped?_high {b : UInt8} (h : 0x80 ≤ b) : escaped? b = none := by
  unfold escaped?
  split
  all_goals first | rfl | (rename_i hchar; exact (ofUInt8_ne h (by decide) hchar).elim)

theorem hexDigit?_high {b : UInt8} (h : 0x80 ≤ b) : hexDigit? b = none := by
  have hb : 0x80 ≤ (Char.ofUInt8 b).toNat := UInt8.le_iff_toNat_le.1 h
  have habove : ∀ c : Char, c.toNat < 0x80 → ¬Char.ofUInt8 b ≤ c := by
    intro c hc hle
    have hcode : (Char.ofUInt8 b).toNat ≤ c.toNat := UInt32.le_iff_toNat_le.1 hle
    omega
  unfold hexDigit?
  simp only [habove '9' (by decide), habove 'f' (by decide), habove 'F' (by decide), and_false,
    if_false]

/-- Outside its body, a string has no place for a byte from `0x80` on but among the digits of an
escape, which are not judged before the fourth. -/
theorem step_high {s next : StringLexer} {b : UInt8} (hb : 0x80 ≤ b)
    (hs : ∀ bytes, s ≠ .body bytes) (h : s.step b = .more next) :
    ∃ bytes high digits, s = .hex bytes high digits ∧ next = .hex bytes high (b :: digits) := by
  cases s with
  | body bytes => exact (hs bytes rfl).elim
  | escape bytes =>
    simp only [step, escaped?_high hb] at h
    rw [if_neg (ofUInt8_ne hb (by decide))] at h
    cases h
  | hex bytes high digits =>
    simp only [step] at h
    split at h
    · cases h
      exact ⟨bytes, high, digits, rfl, rfl⟩
    · have hvalue : hexValue? (b :: digits) = none := by
        simp [hexValue?, hexDigit?_high hb]
      rw [hvalue] at h
      cases h
  | surrogate bytes high =>
    simp only [step] at h
    rw [if_neg (ofUInt8_ne hb (by decide))] at h
    cases h
  | surrogateEscape bytes high =>
    simp only [step] at h
    rw [if_neg (ofUInt8_ne hb (by decide))] at h
    cases h

end StringLexer

namespace Lexer

/-- What the lexer has read of a string encodes a text. -/
def Encodes : Lexer → Prop
  | .string s => IsEncoded s.bytes.reverse
  | .between | .word _ _ | .number _ => True

theorem stepBetween_string {b : UInt8} {tokens : List Token} {s : StringLexer}
    (h : stepBetween b = (tokens, some (.string s))) : Char.ofUInt8 b = '"' ∧ s = .body [] := by
  unfold stepBetween at h
  split at h
  · cases h
  split at h
  · rename_i hquote
    cases h
    exact ⟨hquote, rfl⟩
  · split at h <;> cases h

/-- A byte leads into a string from inside the string or as its opening quote. -/
theorem step_string {l : Lexer} {b : UInt8} {tokens : List Token} {s : StringLexer}
    (h : l.step b = (tokens, some (.string s))) :
    (∃ last, l = .string last ∧ last.step b = .more s) ∨
      (Char.ofUInt8 b = '"' ∧ s = .body []) := by
  cases l with
  | between => exact Or.inr (stepBetween_string h)
  | word rest token =>
    change stepWord b token rest = _ at h
    unfold stepWord at h
    split at h
    · cases h
    all_goals split at h <;> cases h
  | number n =>
    change stepNumber b n = _ at h
    unfold stepNumber at h
    split at h
    · cases h
    · cases h
    · split at h
      · cases h
      · exact Or.inr (stepBetween_string (Prod.ext rfl (Prod.mk.inj h).2))
  | string last =>
    change stepString b last = _ at h
    unfold stepString at h
    split at h
    · rename_i hmore
      cases h
      exact Or.inl ⟨last, rfl, hmore⟩
    · cases h
    · split at h <;> cases h

theorem encodes_step {l next : Lexer} {b : UInt8} {tokens : List Token} (hb : b < 0x80)
    (hl : l.Encodes) (h : l.step b = (tokens, some next)) : next.Encodes := by
  cases next with
  | string s =>
    rcases step_string h with ⟨last, rfl, hmore⟩ | ⟨-, rfl⟩
    · have hlast : IsEncoded last.bytes.reverse := hl
      have htakes := last.takes_step b
      rw [hmore] at htakes
      cases htakes with
      | kept hsame =>
        change IsEncoded s.bytes.reverse
        rw [hsame]
        exact hlast
      | escaped c =>
        simp only [Encodes, StringLexer.push, StringLexer.bytes, List.reverse_append,
          List.reverse_reverse]
        exact hlast.append (isEncoded_encodeChar c)
      | added =>
        simp only [Encodes, StringLexer.bytes, List.reverse_cons]
        exact hlast.append (isEncoded_singleton hb)
    · exact isEncoded_nil
  | _ => trivial

theorem feed_high_body {high : List UInt8} (hhigh : ∀ b ∈ high, 0x80 ≤ b) (bytes : List UInt8) :
    (string (.body bytes)).feed high = ([], some (.string (.body (high.reverse ++ bytes)))) := by
  induction high generalizing bytes with
  | nil => rfl
  | cons b high ih =>
    obtain ⟨hb, hrest⟩ := List.forall_mem_cons.1 hhigh
    have hstep : (string (.body bytes)).step b = ([], some (.string (.body (b :: bytes)))) := by
      simp only [step, stepString, StringLexer.step_body hb]
    rw [feed_cons, hstep]
    simp [Output.andThen, ih hrest]

/-- Bytes from `0x80` on leave a string as it is, unless they arrive in its body. -/
theorem encodes_feed_high {high : List UInt8} (hhigh : ∀ b ∈ high, 0x80 ≤ b) {l last : Lexer}
    {tokens : List Token} (hbody : ∀ bytes, l ≠ .string (.body bytes)) (hl : l.Encodes)
    (h : l.feed high = (tokens, some last)) : last.Encodes := by
  refine (feed_preserves (P := fun l => l.Encodes ∧ ∀ bytes, l ≠ .string (.body bytes)) ?_
    ⟨hl, hbody⟩ h).1
  rintro b hb l next tokens ⟨hl, hbody⟩ hstep
  cases next with
  | string s =>
    rcases step_string hstep with ⟨last, rfl, hmore⟩ | ⟨hquote, -⟩
    · have hlast : ∀ bytes, last ≠ .body bytes := by
        rintro bytes rfl
        exact hbody bytes rfl
      obtain ⟨bytes, high, digits, rfl, rfl⟩ := StringLexer.step_high (hhigh b hb) hlast hmore
      exact ⟨hl, nofun⟩
    · exact (ofUInt8_ne (hhigh b hb) (by decide) hquote).elim
  | _ => exact ⟨trivial, nofun⟩

theorem encodes_feed_char {c : Char} {l last : Lexer} {tokens : List Token} (hl : l.Encodes)
    (h : l.feed (String.utf8EncodeChar c) = (tokens, some last)) : last.Encodes := by
  rcases encodeChar_cases c with ⟨b, hb, hc⟩ | hhigh
  · rw [hc] at h
    refine feed_preserves ?_ hl h
    intro b' hmem l next tokens hl hstep
    rw [List.mem_singleton.1 hmem] at hstep
    exact encodes_step hb hl hstep
  · by_cases hbody : ∃ bytes, l = .string (.body bytes)
    · obtain ⟨bytes, rfl⟩ := hbody
      have hbytes : IsEncoded bytes.reverse := hl
      rw [feed_high_body hhigh] at h
      cases h
      simp only [Encodes, StringLexer.bytes, List.reverse_append, List.reverse_reverse]
      exact hbytes.append (isEncoded_encodeChar c)
    · exact encodes_feed_high hhigh (fun bytes heq => hbody ⟨bytes, heq⟩) hl h

/-- A byte among these closes a string that holds `content`. -/
def Closes (l : Lexer) (bytes content : List UInt8) : Prop :=
  ∃ before b after tokens s, before ++ b :: after = bytes ∧
    l.feed before = (tokens, some (.string s)) ∧ s.step b = .closed content

theorem isEncoded_of_closes_chars {chars : List Char} {l : Lexer} {content : List UInt8}
    (hl : l.Encodes) (h : l.Closes (chars.flatMap String.utf8EncodeChar) content) :
    IsEncoded content := by
  induction chars generalizing l with
  | nil =>
    obtain ⟨before, b, after, -, -, hbytes, -⟩ := h
    simp at hbytes
  | cons c chars ih =>
    obtain ⟨before, b, after, tokens, s, hbytes, hfeed, hclosed⟩ := h
    have hpast : ∀ rest, before = String.utf8EncodeChar c ++ rest →
        rest ++ b :: after = chars.flatMap String.utf8EncodeChar → IsEncoded content := by
      rintro rest rfl hrest
      rw [feed_append] at hfeed
      rcases hchar : l.feed (String.utf8EncodeChar c) with ⟨first, _ | next⟩
      · rw [hchar] at hfeed
        cases hfeed
      · rw [hchar] at hfeed
        have hnext : next.feed rest = ((next.feed rest).1, some (.string s)) :=
          Prod.ext rfl (Prod.mk.inj hfeed).2
        exact ih (encodes_feed_char hl hchar) ⟨rest, b, after, _, s, hrest, hnext, hclosed⟩
    rw [List.flatMap_cons] at hbytes
    rcases List.append_eq_append_iff.1 hbytes with ⟨inside, hchar, hrest⟩ | ⟨rest, hbefore, hrest⟩
    · cases inside with
      | nil => exact hpast [] (by simpa using hchar.symm) hrest
      | cons d inside =>
        obtain ⟨rfl, -⟩ := List.cons.inj hrest
        have hquote := s.takes_step b
        rw [hclosed] at hquote
        cases hquote with
        | quote hb =>
          -- the quote is a character of its own, so the string is as the last character left it
          rcases encodeChar_cases c with ⟨low, -, hlow⟩ | hhigh
          · cases before with
            | nil =>
              cases hfeed
              exact hl
            | cons first before => simp [hlow] at hchar
          · have hmem : b ∈ String.utf8EncodeChar c := by simp [hchar]
            exact (ofUInt8_ne (hhigh b hmem) (by decide) hb).elim
    · exact hpast rest hbefore hrest.symm

/-- A string that the bytes of a text close can be decoded. -/
theorem isEncoded_of_closes {text : String} {content : List UInt8}
    (h : between.Closes (bytesOfText text) content) : IsEncoded content := by
  rw [bytesOfText_eq_flatMap] at h
  have hstart : between.Encodes := trivial
  exact isEncoded_of_closes_chars hstart h

end Lexer

end Json

end DatasetCompiler
