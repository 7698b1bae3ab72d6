import DatasetCompiler.Proofs.Grammar
import DatasetCompiler.Proofs.Lexing
import Mathlib.Data.List.Forall2

/-!
# The lexer on JSON text

The lexer gives for every text of a value the tokens of its lexemes, in whatever spelling, with one
exception: where a number does not fit, it stops and gives no further token.
-/

namespace DatasetCompiler.Json

open Lexer (between)

namespace Grammar

/-! ### Characters and their bytes -/

/-- The bytes of some characters. -/
def bytes (cs : List Char) : List UInt8 := cs.flatMap String.utf8EncodeChar

theorem bytes_cons (c : Char) (cs : List Char) :
    bytes (c :: cs) = String.utf8EncodeChar c ++ bytes cs := List.flatMap_cons

theorem bytes_append (cs more : List Char) : bytes (cs ++ more) = bytes cs ++ bytes more :=
  List.flatMap_append

/-- The byte of an ASCII character. -/
def byte (c : Char) : UInt8 := UInt8.ofNat c.toNat

theorem encodeChar_of_lt {c : Char} (h : c.toNat < 0x80) : String.utf8EncodeChar c = [byte c] := by
  have hle : c.val.toNat ≤ 127 := Nat.le_of_lt_succ h
  simp only [String.utf8EncodeChar, if_pos hle]
  rfl

theorem ofUInt8_byte {c : Char} (h : c.toNat < 0x80) : Char.ofUInt8 (byte c) = c := by
  apply Char.toNat_inj.1
  change (byte c).toNat = c.toNat
  rw [byte, UInt8.toNat_ofNat']
  omega

theorem bytes_cons_of_lt {c : Char} (h : c.toNat < 0x80) (cs : List Char) :
    bytes (c :: cs) = byte c :: bytes cs := by
  rw [bytes_cons, encodeChar_of_lt h]
  rfl

/-! ### Strings -/

theorem feed_plain {c : Char} (h : IsPlain c) (content : List UInt8) :
    (Lexer.string (.body content)).feed (String.utf8EncodeChar c) =
      ([], some (.string (StringLexer.push content c))) := by
  rcases encodeChar_cases c with ⟨b, -, hb⟩ | hhigh
  · have hone : c.utf8Size = 1 := by rw [← String.length_utf8EncodeChar, hb, List.length_singleton]
    have hlt : c.toNat < 0x80 :=
      Nat.lt_succ_of_le (UInt32.le_iff_toNat_le.1 (Char.utf8Size_eq_one_iff.1 hone))
    have hspace : ¬byte c < 0x20 := by
      have hcode : 32 ≤ c.toNat := UInt32.le_iff_toNat_le.1 h.1
      rw [UInt8.lt_iff_toNat_lt, byte, UInt8.toNat_ofNat']
      change ¬c.toNat % 256 < 32
      omega
    have hstep : (StringLexer.body content).step (byte c) = .more (.body (byte c :: content)) := by
      simp only [StringLexer.step, ofUInt8_byte hlt, if_neg h.2.1, if_neg h.2.2, if_neg hspace]
    rw [encodeChar_of_lt hlt]
    simp only [Lexer.feed, Lexer.step, Lexer.stepString, hstep, StringLexer.push,
      encodeChar_of_lt hlt, List.reverse_singleton, List.singleton_append, List.append_nil]
  · exact Lexer.feed_high_body hhigh content

/-- Checks the items of a list one by one.  To decide `∀ c ∈ cs, p c` directly may mean to go
through all characters, of which there are too many. -/
theorem forall_mem_of_all {α : Type} {p : α → Prop} [DecidablePred p] {items : List α}
    (h : items.all (fun item => decide (p item)) = true) : ∀ item ∈ items, p item := by
  intro item hitem
  exact of_decide_eq_true (List.all_eq_true.1 h item hitem)

theorem hexDigit?_of_spelledDigit {d : Nat} {c : Char} (h : SpelledDigit d c) :
    c.toNat < 0x80 ∧ hexDigit? (byte c) = some d := by
  have hsmall : ∀ digit ∈ "0123456789abcdef".toList.zipIdx,
      digit.1.toNat < 0x80 ∧ hexDigit? (byte digit.1) = some digit.2 :=
    forall_mem_of_all (by decide)
  have hcapital : ∀ digit ∈ "0123456789ABCDEF".toList.zipIdx,
      digit.1.toNat < 0x80 ∧ hexDigit? (byte digit.1) = some digit.2 :=
    forall_mem_of_all (by decide)
  rcases h with h | h
  · exact hsmall (c, d) (List.mk_mem_zipIdx_iff_getElem?.2 h)
  · exact hcapital (c, d) (List.mk_mem_zipIdx_iff_getElem?.2 h)

theorem feed_code {n : Nat} {digits : List Char} (h : SpelledCode n digits) {content : List UInt8}
    {high : Option Nat} {next : StringLexer}
    (hclose : StringLexer.closeHex content high n = .more next) :
    (Lexer.string (.hex content high [])).feed (bytes digits) = ([], some (.string next)) := by
  rcases h with ⟨h₃, h₂, h₁, h₀⟩
  obtain ⟨hlt₃, hvalue₃⟩ := hexDigit?_of_spelledDigit h₃
  obtain ⟨hlt₂, hvalue₂⟩ := hexDigit?_of_spelledDigit h₂
  obtain ⟨hlt₁, hvalue₁⟩ := hexDigit?_of_spelledDigit h₁
  obtain ⟨hlt₀, hvalue₀⟩ := hexDigit?_of_spelledDigit h₀
  rw [bytes_cons_of_lt hlt₃, bytes_cons_of_lt hlt₂, bytes_cons_of_lt hlt₁, bytes_cons_of_lt hlt₀]
  simp [bytes, Lexer.feed, Lexer.step, Lexer.stepString, StringLexer.step, hexValue?, hvalue₃,
    hvalue₂, hvalue₁, hvalue₀, hclose]

theorem feed_short {letter c : Char} (h : (letter, c) ∈ shortEscapes) (content : List UInt8) :
    (Lexer.string (.body content)).feed (bytes ['\\', letter]) =
      ([], some (.string (StringLexer.push content c))) := by
  have hall : ∀ escape ∈ shortEscapes,
      (Lexer.string (.body content)).feed (bytes ['\\', escape.1]) =
        ([], some (.string (StringLexer.push content escape.2))) := by
    simp only [shortEscapes, List.forall_mem_cons]
    exact ⟨rfl, rfl, rfl, rfl, rfl, rfl, rfl, rfl, List.forall_mem_nil _⟩
  exact hall _ h

theorem feed_unicode (content : List UInt8) (digits : List Char) :
    (Lexer.string (.body content)).feed (bytes ('\\' :: 'u' :: digits)) =
      (Lexer.string (.hex content none [])).feed (bytes digits) := rfl

theorem feed_surrogate (content : List UInt8) (high : Nat) (digits : List Char) :
    (Lexer.string (.surrogate content high)).feed (bytes ('\\' :: 'u' :: digits)) =
      (Lexer.string (.hex content (some high) [])).feed (bytes digits) := rfl

theorem closeHex_of_char (content : List UInt8) (c : Char) :
    StringLexer.closeHex content none c.toNat = .more (StringLexer.push content c) := by
  have hvalid : c.toNat < 0xD800 ∨ 0xDFFF < c.toNat := by
    rcases c.valid with h | h
    · exact Or.inl h
    · exact Or.inr h.1
  have hlow : isLowSurrogate c.toNat = false := by
    simp only [isLowSurrogate, Bool.and_eq_false_iff, decide_eq_false_iff_not]
    omega
  have hhigh : isHighSurrogate c.toNat = false := by
    simp only [isHighSurrogate, Bool.and_eq_false_iff, decide_eq_false_iff_not]
    omega
  simp only [StringLexer.closeHex, hlow, hhigh, Char.ofNat_toNat]
  rfl

theorem closeHex_of_high (content : List UInt8) {high : Nat} (h : 0xD800 ≤ high ∧ high ≤ 0xDBFF) :
    StringLexer.closeHex content none high = .more (.surrogate content high) := by
  have hlow : isLowSurrogate high = false := by
    simp only [isLowSurrogate, Bool.and_eq_false_iff, decide_eq_false_iff_not]
    omega
  have hhigh : isHighSurrogate high = true := by simp [isHighSurrogate, h]
  simp only [StringLexer.closeHex, hlow, hhigh]
  rfl

theorem closeHex_of_low (content : List UInt8) {high low : Nat} {c : Char}
    (h : 0xDC00 ≤ low ∧ low ≤ 0xDFFF)
    (hc : c.toNat = 0x10000 + (high - 0xD800) * 0x400 + (low - 0xDC00)) :
    StringLexer.closeHex content (some high) low = .more (StringLexer.push content c) := by
  have hlow : isLowSurrogate low = true := by simp [isLowSurrogate, h]
  have hjoin : joinSurrogates high low = c := by rw [joinSurrogates, ← hc, Char.ofNat_toNat]
  simp only [StringLexer.closeHex, hlow, hjoin]
  rfl

theorem feed_spelledChar {c : Char} {spelled : List Char} (h : SpelledChar c spelled)
    (content : List UInt8) :
    (Lexer.string (.body content)).feed (bytes spelled) =
      ([], some (.string (StringLexer.push content c))) := by
  rcases h with hplain | hshort | hcode | ⟨hhigh, hlow, hc, hcode, hcode'⟩
  · rw [bytes_cons, bytes, List.flatMap_nil, List.append_nil]
    exact feed_plain hplain content
  · exact feed_short hshort content
  · rw [feed_unicode]
    exact feed_code hcode (closeHex_of_char content c)
  · rw [feed_unicode, bytes_append, Lexer.feed_append,
      feed_code hcode (closeHex_of_high content hhigh)]
    simp only [Lexer.Output.andThen, List.nil_append, feed_surrogate]
    rw [feed_code hcode' (closeHex_of_low content hlow hc)]

theorem feed_spelledChars {text spelled : List Char} (h : SpelledChars text spelled)
    (content : List UInt8) :
    (Lexer.string (.body content)).feed (bytes spelled) =
      ([], some (.string (.body ((bytes text).reverse ++ content)))) := by
  induction h generalizing content with
  | nil => rfl
  | cons hc h ih =>
    rw [bytes_append, Lexer.feed_append, feed_spelledChar hc]
    simp only [Lexer.Output.andThen, StringLexer.push, ih, bytes_cons, List.reverse_append,
      List.append_assoc, List.nil_append]

theorem feed_string {s : String} {spelled : List Char} (h : SpelledChars s.toList spelled) :
    between.feed (bytes ('"' :: (spelled ++ ['"']))) = ([.string s], some between) := by
  have hopen : between.feed (bytes ('"' :: (spelled ++ ['"']))) =
      (Lexer.string (.body [])).feed (bytes spelled ++ bytes ['"']) := by
    rw [← bytes_append]
    rfl
  have hclose : (Lexer.string (.body (bytes s.toList).reverse)).feed (bytes ['"']) =
      ([.string s], some between) := by
    have hbytes : bytes s.toList = bytesOfText s := (bytesOfText_eq_flatMap s).symm
    have hstep : (StringLexer.body (bytes s.toList).reverse).step (byte '"') =
        .closed (bytesOfText s) := by
      rw [← hbytes, ← List.reverse_reverse (bytes s.toList), List.reverse_reverse]
      rfl
    change (Lexer.string (.body (bytes s.toList).reverse)).feed [byte '"'] = _
    simp only [Lexer.feed, Lexer.step, Lexer.stepString, hstep, textOfBytes?_bytesOfText]
    rfl
  rw [hopen, Lexer.feed_append, feed_spelledChars h]
  simp only [Lexer.Output.andThen, List.append_nil, List.nil_append, hclose]

/-! ### Numbers -/

/-- The parts of a number. -/
inductive Stage where
  | sign
  | zero
  | integer
  | point
  | fraction
  | mark
  | markSign
  | exponent
deriving DecidableEq, Repr

/-- The part that a number has been read to. -/
def stage : NumberLexer → Stage
  | .sign => .sign
  | .zero _ => .zero
  | .integer _ => .integer
  | .point _ => .point
  | .fraction _ => .fraction
  | .mark _ => .mark
  | .markSign _ _ => .markSign
  | .exponent _ _ _ => .exponent

/-- Where a digit leads from a part of a number behind its first digit. -/
def Stage.afterDigit? : Stage → Option Stage
  | .sign | .zero => none
  | .integer => some .integer
  | .point | .fraction => some .fraction
  | .mark | .markSign | .exponent => some .exponent

/-- A number is being read and satisfies something, or the lexer has stopped. -/
def Continues (P : NumberLexer → Prop) (out : Lexer.Output) : Prop :=
  out = ([], none) ∨ ∃ n, P n ∧ out = ([], some (.number n))

/-- A byte belongs to a number, which satisfies something then, or stops the lexer. -/
def Extends (P : NumberLexer → Prop) (step : NumberStep) : Prop :=
  step = .malformed ∨ ∃ n, P n ∧ step = .more n

theorem Continues.andThen {P Q : NumberLexer → Prop} {out : Lexer.Output} (h : Continues P out)
    {next : Lexer → Lexer.Output} (hnext : ∀ n, P n → Continues Q (next (.number n))) :
    Continues Q (out.andThen next) := by
  rcases h with rfl | ⟨n, hn, rfl⟩
  · exact Or.inl rfl
  · exact hnext n hn

theorem Continues.imp {P Q : NumberLexer → Prop} {out : Lexer.Output} (h : Continues P out)
    (himp : ∀ n, P n → Q n) : Continues Q out := by
  rcases h with hstop | ⟨n, hn, hout⟩
  · exact Or.inl hstop
  · exact Or.inr ⟨n, himp n hn, hout⟩

theorem Extends.feed {P Q : NumberLexer → Prop} {n : NumberLexer} {c : Char} {cs : List Char}
    (hc : c.toNat < 0x80) (h : Extends P (n.step (byte c)))
    (hnext : ∀ next, P next → Continues Q ((Lexer.number next).feed (bytes cs))) :
    Continues Q ((Lexer.number n).feed (bytes (c :: cs))) := by
  have hstep : Continues P ((Lexer.number n).step (byte c)) := by
    rcases h with hstop | ⟨next, hP, hmore⟩
    · left
      simp only [Lexer.step, Lexer.stepNumber, hstop]
    · right
      refine ⟨next, hP, ?_⟩
      simp only [Lexer.step, Lexer.stepNumber, hmore]
  rw [bytes_cons_of_lt hc, Lexer.feed_cons]
  exact hstep.andThen hnext

theorem digit?_of_isDigit {c : Char} (h : IsDigit c) :
    c.toNat < 0x80 ∧ (c = '0' ∧ digit? (byte c) = some 0 ∨
      c ≠ '0' ∧ ∃ d, digit? (byte c) = some (d + 1)) := by
  have hdigits : ∀ c ∈ "0123456789".toList, c.toNat < 0x80 ∧
      (c = '0' ∧ digit? (byte c) = some 0 ∨
        c ≠ '0' ∧ digit? (byte c) = some ((digit? (byte c)).getD 0 - 1 + 1)) :=
    forall_mem_of_all (by decide)
  obtain ⟨hlt, hzero | ⟨hne, hsome⟩⟩ := hdigits c h
  · exact ⟨hlt, Or.inl hzero⟩
  · exact ⟨hlt, Or.inr ⟨hne, _, hsome⟩⟩

theorem extends_digit {n : NumberLexer} {s : Stage} (h : (stage n).afterDigit? = some s) {c : Char}
    (hc : IsDigit c) : Extends (stage · = s) (n.step (byte c)) := by
  obtain ⟨d, hd⟩ : ∃ d, digit? (byte c) = some d := by
    obtain ⟨-, ⟨-, hzero⟩ | ⟨-, d, hd⟩⟩ := digit?_of_isDigit hc
    · exact ⟨0, hzero⟩
    · exact ⟨d + 1, hd⟩
  have hexponent : ∀ m down value,
      Extends (stage · = .exponent) (NumberLexer.pushExponent m down value d) := by
    intro m down value
    unfold NumberLexer.pushExponent
    dsimp only
    split
    · exact Or.inl rfl
    · exact Or.inr ⟨_, rfl, rfl⟩
  cases n with
  | sign | zero m => cases h
  | integer m | point m | fraction m =>
    obtain rfl := Option.some.inj h
    simp only [NumberLexer.step, hd]
    exact Or.inr ⟨_, rfl, rfl⟩
  | mark m | markSign m down | exponent m down value =>
    obtain rfl := Option.some.inj h
    simp only [NumberLexer.step, hd]
    exact hexponent _ _ _

theorem feed_more_digits {s : Stage} (hs : s.afterDigit? = some s) {cs : List Char}
    (h : ∀ c ∈ cs, IsDigit c) {n : NumberLexer} (hn : stage n = s) :
    Continues (stage · = s) ((Lexer.number n).feed (bytes cs)) := by
  induction cs generalizing n with
  | nil => exact Or.inr ⟨n, hn, rfl⟩
  | cons c cs ih =>
    obtain ⟨hc, hcs⟩ := List.forall_mem_cons.1 h
    have hdigit : (stage n).afterDigit? = some s := by rw [hn, hs]
    exact (extends_digit hdigit hc).feed (digit?_of_isDigit hc).1 fun next hnext => ih hcs hnext

theorem feed_digits {s t : Stage} (hs : s.afterDigit? = some t) (ht : t.afterDigit? = some t)
    {cs : List Char} (h : IsDigits cs) {n : NumberLexer} (hn : stage n = s) :
    Continues (stage · = t) ((Lexer.number n).feed (bytes cs)) := by
  rcases cs with _ | ⟨c, cs⟩
  · exact absurd rfl h.1
  · obtain ⟨hc, hcs⟩ := List.forall_mem_cons.1 h.2
    have hdigit : (stage n).afterDigit? = some t := by rw [hn, hs]
    refine (extends_digit hdigit hc).feed (digit?_of_isDigit hc).1 fun next hnext => ?_
    exact feed_more_digits ht hcs hnext

/-- The lexer takes a digit as the first one of a number. -/
def Opens (l : Lexer) : Prop :=
  ∀ c, IsDigit c → Continues (stage · = if c = '0' then .zero else .integer) (l.step (byte c))

theorem opens_sign : Opens (.number .sign) := by
  intro c hc
  right
  obtain ⟨-, ⟨rfl, hzero⟩ | ⟨hne, d, hd⟩⟩ := digit?_of_isDigit hc
  · exact ⟨.zero (Mantissa.start true), rfl, rfl⟩
  · refine ⟨.integer ((Mantissa.start true).pushInteger (d + 1)), (if_neg hne).symm, ?_⟩
    simp only [Lexer.step, Lexer.stepNumber, NumberLexer.step, hd]

theorem opens_between : Opens between := by
  intro c hc
  have hstart : ∀ c ∈ "0123456789".toList,
      Lexer.stepBetween (byte c) = ([], (NumberLexer.start? (byte c)).map .number) ∧
        Char.ofUInt8 (byte c) ≠ '-' := forall_mem_of_all (by decide)
  obtain ⟨hstep, hsign⟩ := hstart c hc
  right
  obtain ⟨-, ⟨rfl, hzero⟩ | ⟨hne, d, hd⟩⟩ := digit?_of_isDigit hc
  · exact ⟨.zero (Mantissa.start false), rfl, rfl⟩
  · refine ⟨.integer ((Mantissa.start false).pushInteger (d + 1)), (if_neg hne).symm, ?_⟩
    rw [Lexer.step, hstep]
    simp only [NumberLexer.start?, if_neg hsign, hd, Option.map_some]

theorem feed_whole {l : Lexer} (hl : Opens l) {cs : List Char} (h : IsWhole cs) :
    Continues (fun n => stage n = .zero ∨ stage n = .integer) (l.feed (bytes cs)) := by
  rcases h with _ | ⟨hc, hzero, hcs⟩
  · have hdigit : '0' ∈ "0123456789".toList := by decide
    rw [bytes_cons_of_lt (by decide), Lexer.feed_cons]
    exact (hl '0' hdigit).andThen fun n hn => Or.inr ⟨n, Or.inl hn, rfl⟩
  · rw [bytes_cons_of_lt (digit?_of_isDigit hc).1, Lexer.feed_cons]
    refine (hl _ hc).andThen fun n hn => ?_
    rw [if_neg hzero] at hn
    exact (feed_more_digits rfl hcs hn).imp fun next hnext => Or.inr hnext

theorem feed_fraction {cs : List Char} (h : IsFraction cs) {n : NumberLexer}
    (hn : stage n = .zero ∨ stage n = .integer) :
    Continues (fun n => stage n = .zero ∨ stage n = .integer ∨ stage n = .fraction)
      ((Lexer.number n).feed (bytes cs)) := by
  rcases h with _ | hcs
  · refine Or.inr ⟨n, ?_, rfl⟩
    rcases hn with hzero | hinteger
    · exact Or.inl hzero
    · exact Or.inr (Or.inl hinteger)
  · have hpoint : Extends (stage · = .point) (n.step (byte '.')) := by
      cases n with
      | zero m | integer m => exact Or.inr ⟨_, rfl, rfl⟩
      | _ => simp [stage] at hn
    refine hpoint.feed (by decide) fun next hnext => ?_
    exact (feed_digits rfl rfl hcs hnext).imp fun last hlast => Or.inr (Or.inr hlast)

theorem feed_exponent {cs : List Char} (h : IsExponent cs) {n : NumberLexer}
    (hn : stage n = .zero ∨ stage n = .integer ∨ stage n = .fraction) :
    Continues (·.isComplete = true) ((Lexer.number n).feed (bytes cs)) := by
  have hcomplete : ∀ n, stage n = .exponent → n.isComplete = true := by
    intro n hn
    cases n with
    | exponent m down value => rfl
    | _ => cases hn
  have hmark : ∀ e, e = 'e' ∨ e = 'E' →
      e.toNat < 0x80 ∧ Extends (stage · = .mark) (n.step (byte e)) := by
    cases n with
    | zero m | integer m | fraction m =>
      rintro e (rfl | rfl)
      · exact ⟨by decide, Or.inr ⟨_, rfl, rfl⟩⟩
      · exact ⟨by decide, Or.inr ⟨_, rfl, rfl⟩⟩
    | _ => simp [stage] at hn
  have hsigned : ∀ sign, sign = '+' ∨ sign = '-' → sign.toNat < 0x80 ∧
      ∀ n, stage n = .mark → Extends (stage · = .markSign) (n.step (byte sign)) := by
    rintro sign (rfl | rfl)
    · refine ⟨by decide, fun n hn => ?_⟩
      cases n with
      | mark m => exact Or.inr ⟨_, rfl, rfl⟩
      | _ => cases hn
    · refine ⟨by decide, fun n hn => ?_⟩
      cases n with
      | mark m => exact Or.inr ⟨_, rfl, rfl⟩
      | _ => cases hn
  rcases h with _ | ⟨he, hcs⟩ | ⟨he, hsign, hcs⟩
  · refine Or.inr ⟨n, ?_, rfl⟩
    cases n with
    | zero m | integer m | fraction m => rfl
    | _ => simp [stage] at hn
  · obtain ⟨hlt, hstep⟩ := hmark _ he
    refine hstep.feed hlt fun next hnext => ?_
    exact (feed_digits rfl rfl hcs hnext).imp hcomplete
  · obtain ⟨hlt, hstep⟩ := hmark _ he
    obtain ⟨hlt', hstep'⟩ := hsigned _ hsign
    refine hstep.feed hlt fun next hnext => ?_
    refine (hstep' next hnext).feed hlt' fun last hlast => ?_
    exact (feed_digits rfl rfl hcs hlast).imp hcomplete

theorem feed_unsigned {l : Lexer} (hl : Opens l) {cs : List Char} (h : IsUnsigned cs) :
    Continues (·.isComplete = true) (l.feed (bytes cs)) := by
  rcases h with ⟨hwhole, hfraction, hexponent⟩
  rw [bytes_append, Lexer.feed_append, bytes_append]
  refine (feed_whole hl hwhole).andThen fun n hn => ?_
  rw [Lexer.feed_append]
  exact (feed_fraction hfraction hn).andThen fun n hn => feed_exponent hexponent hn

theorem feed_number {cs : List Char} (h : IsNumber cs) :
    Continues (·.isComplete = true) (between.feed (bytes cs)) := by
  rcases h with h | h
  · exact feed_unsigned opens_between h
  · exact feed_unsigned opens_sign h

/-! ### Lexemes -/

/-- A character that cannot continue a number: a blank or a mark. -/
def IsDelimiter (c : Char) : Prop := IsBlank c ∨ ∃ m : Mark, c = m.char

theorem delimiter_byte {c : Char} (h : IsDelimiter c) :
    c.toNat < 0x80 ∧ digit? (byte c) = none ∧ c ≠ '.' ∧ c ≠ 'e' ∧ c ≠ 'E' := by
  rcases h with (rfl | rfl | rfl | rfl) | ⟨m, rfl⟩
  · decide
  · decide
  · decide
  · decide
  · cases m <;> decide

theorem step_delimiter {n : NumberLexer} (hn : n.isComplete = true) {c : Char}
    (hc : IsDelimiter c) : n.step (byte c) = .ended := by
  obtain ⟨hlt, hdigit, hpoint, hsmall, hcapital⟩ := delimiter_byte hc
  have hafter : ∀ m, NumberLexer.afterInteger m (byte c) = .ended := by
    intro m
    simp only [NumberLexer.afterInteger, ofUInt8_byte hlt]
  cases n with
  | zero m | integer m =>
    simp only [NumberLexer.step, hdigit]
    exact hafter m
  | fraction m => simp [NumberLexer.step, hdigit, ofUInt8_byte hlt, hsmall, hcapital]
  | exponent m down value => simp only [NumberLexer.step, hdigit]
  | _ => cases hn

/-- Behind a complete number the lexer goes on as if it stood between two tokens, unless the number
does not fit. -/
theorem feed_complete {n : NumberLexer} (hn : n.isComplete = true) {c : Char}
    (hc : IsDelimiter c) (cs : List Char) :
    (Lexer.number n).feed (bytes (c :: cs)) = ([], none) ∨
      ∃ value, (Lexer.number n).feed (bytes (c :: cs)) =
        (.number value :: (between.feed (bytes (c :: cs))).1,
          (between.feed (bytes (c :: cs))).2) := by
  rw [bytes_cons_of_lt (delimiter_byte hc).1, Lexer.feed_cons, Lexer.feed_cons]
  cases hvalue : n.value? with
  | none =>
    left
    simp only [Lexer.step, Lexer.stepNumber, step_delimiter hn hc, hvalue, Lexer.Output.andThen]
  | some value =>
    right
    refine ⟨value, ?_⟩
    simp only [Lexer.step, Lexer.stepNumber, step_delimiter hn hc, hvalue]
    rcases Lexer.stepBetween (byte c) with ⟨tokens, _ | next⟩
    · rfl
    · rfl

theorem feed_blanks {blanks : List Char} (h : ∀ c ∈ blanks, IsBlank c) :
    between.feed (bytes blanks) = ([], some between) := by
  induction blanks with
  | nil => rfl
  | cons c blanks ih =>
    obtain ⟨hc, hblanks⟩ := List.forall_mem_cons.1 h
    have hstep : between.step (byte c) = ([], some between) := by
      rcases hc with rfl | rfl | rfl | rfl <;> rfl
    rw [bytes_cons_of_lt (delimiter_byte (Or.inl hc)).1, Lexer.feed_cons, hstep]
    simp only [Lexer.Output.andThen, ih hblanks, List.nil_append]

def Mark.token : Mark → Token
  | .openBrace => .openBrace
  | .closeBrace => .closeBrace
  | .openBracket => .openBracket
  | .closeBracket => .closeBracket
  | .comma => .comma
  | .colon => .colon

def Word.token : Word → Token
  | .null => .null
  | .bool value => .bool value

/-- The token that a lexeme becomes; a number becomes one of some value. -/
inductive Lexeme.Becomes : Lexeme → Token → Prop where
  | mark (m : Mark) : Becomes (.mark m) m.token
  | word (w : Word) : Becomes (.word w) w.token
  | number (n : Numeral) (value : Number) : Becomes (.number n) (.number value)
  | string (s : String) : Becomes (.string s) (.string s)

/-- What the lexer gives for lexemes: their tokens, as far as the numbers fit. -/
inductive Lexes : List Lexeme → Lexer.Output → Prop where
  | nil : Lexes [] ([], some between)
  | cons {lexeme : Lexeme} {lexemes : List Lexeme} {token : Token} {tokens : List Token}
      {last : Option Lexer} (h : lexeme.Becomes token) (hrest : Lexes lexemes (tokens, last)) :
      Lexes (lexeme :: lexemes) (token :: tokens, last)
  | stopped (n : Numeral) (lexemes : List Lexeme) : Lexes (.number n :: lexemes) ([], none)

/-- Behind every number stands a mark. -/
inductive Separated : List Lexeme → Prop where
  | nil : Separated []
  | number (n : Numeral) (m : Mark) {lexemes : List Lexeme}
      (h : Separated (.mark m :: lexemes)) : Separated (.number n :: .mark m :: lexemes)
  | other {lexeme : Lexeme} {lexemes : List Lexeme} (hlexeme : ∀ n, lexeme ≠ .number n)
      (h : Separated lexemes) : Separated (lexeme :: lexemes)

theorem exists_delimiter {m : Mark} {lexemes : List Lexeme} {cs : List Char}
    (h : Spelled (.mark m :: lexemes) cs) : ∃ c rest, IsDelimiter c ∧ cs = c :: rest := by
  rcases h with _ | @⟨_, _, blanks, _, rest, hblanks, ⟨⟩, hrest⟩
  rcases blanks with _ | ⟨c, blanks⟩
  · exact ⟨m.char, rest, Or.inr ⟨m, rfl⟩, rfl⟩
  · exact ⟨c, _, Or.inl (hblanks c List.mem_cons_self), rfl⟩

theorem feed_lexeme {lexeme : Lexeme} {cs : List Char} (h : lexeme.Spelled cs)
    (hnumber : ∀ n, lexeme ≠ .number n) :
    ∃ token, lexeme.Becomes token ∧ between.feed (bytes cs) = ([token], some between) := by
  rcases h with m | w | n | hs
  · refine ⟨m.token, .mark m, ?_⟩
    cases m <;> rfl
  · refine ⟨w.token, .word w, ?_⟩
    rcases w with _ | _ | _ <;> rfl
  · exact absurd rfl (hnumber n)
  · exact ⟨_, .string _, feed_string hs⟩

theorem lexes_feed {lexemes : List Lexeme} {cs : List Char} (h : Spelled lexemes cs)
    (hseparated : Separated lexemes) : Lexes lexemes (between.feed (bytes cs)) := by
  induction h with
  | nil hblanks =>
    rw [feed_blanks hblanks]
    exact .nil
  | @cons lexeme lexemes blanks cs rest hblanks hlexeme hrest ih =>
    rw [bytes_append, Lexer.feed_append, feed_blanks hblanks]
    simp only [Lexer.Output.andThen, List.nil_append]
    rw [bytes_append, Lexer.feed_append]
    rcases hseparated with _ | ⟨n, m, hmore⟩ | ⟨hnumber, hmore⟩
    · -- the number ends where the blank or the mark behind it begins
      have hlexes := ih hmore
      obtain ⟨c, rest, hc, rfl⟩ := exists_delimiter hrest
      rcases hlexeme with _ | _ | n | _
      rcases feed_number n.isNumber with hstop | ⟨state, hcomplete, hstate⟩
      · rw [hstop]
        exact .stopped n _
      · rw [hstate]
        simp only [Lexer.Output.andThen, List.nil_append]
        rcases feed_complete hcomplete hc rest with hstop | ⟨value, hvalue⟩
        · rw [hstop]
          exact .stopped n _
        · rw [hvalue]
          exact .cons (.number n value) hlexes
    · obtain ⟨token, hbecomes, htoken⟩ := feed_lexeme hlexeme hnumber
      rw [htoken]
      exact .cons hbecomes (ih hmore)

/-- The lexer gives all tokens, or there is a number that it stops at. -/
theorem Lexes.cases {lexemes : List Lexeme} {out : Lexer.Output} (h : Lexes lexemes out) :
    (out.2 = some between ∧ List.Forall₂ Lexeme.Becomes lexemes out.1) ∨
      (out.2 = none ∧ ∃ n, .number n ∈ lexemes) := by
  induction h with
  | nil => exact Or.inl ⟨rfl, .nil⟩
  | stopped n lexemes => exact Or.inr ⟨rfl, n, List.mem_cons_self⟩
  | cons hbecomes hrest ih =>
    rcases ih with ⟨hlast, htokens⟩ | ⟨hlast, n, hn⟩
    · exact Or.inl ⟨hlast, .cons hbecomes htokens⟩
    · exact Or.inr ⟨hlast, n, List.mem_cons_of_mem _ hn⟩

/-! ### Values -/

theorem exists_mark_moreItems (items : List Value) (rest : List Lexeme) :
    ∃ m more, Value.moreItems items ++ rest = .mark m :: more := by
  rcases items with _ | ⟨item, items⟩
  · exact ⟨_, _, rfl⟩
  · exact ⟨_, _, rfl⟩

theorem exists_mark_moreMembers (members : List (String × Value)) (rest : List Lexeme) :
    ∃ m more, Value.moreMembers members ++ rest = .mark m :: more := by
  rcases members with _ | ⟨⟨key, value⟩, members⟩
  · exact ⟨_, _, rfl⟩
  · exact ⟨_, _, rfl⟩

theorem separated_mark (m : Mark) {lexemes : List Lexeme} (h : Separated lexemes) :
    Separated (.mark m :: lexemes) := .other (fun _ => Lexeme.noConfusion) h

theorem separated_string (s : String) {lexemes : List Lexeme} (h : Separated lexemes) :
    Separated (.string s :: lexemes) := .other (fun _ => Lexeme.noConfusion) h

mutual

theorem separated_lexemes {rest : List Lexeme} (h : Separated rest) : ∀ value : Value,
    (∀ n, value = .number n → ∃ m more, rest = .mark m :: more) →
      Separated (value.lexemes ++ rest)
  | .word w, _ => .other (fun _ => Lexeme.noConfusion) h
  | .number n, hrest => by
    obtain ⟨m, more, rfl⟩ := hrest n rfl
    exact .number n m h
  | .string s, _ => separated_string s h
  | .array [], _ => separated_mark _ (separated_mark _ h)
  | .array (item :: items), _ => by
    rw [Value.lexemes, List.cons_append, List.append_assoc]
    exact separated_mark _ (separated_lexemes (separated_moreItems h items) item
      fun _ _ => exists_mark_moreItems items rest)
  | .object [], _ => separated_mark _ (separated_mark _ h)
  | .object ((key, value) :: members), _ => by
    rw [Value.lexemes, List.cons_append, List.cons_append, List.cons_append, List.append_assoc]
    exact separated_mark _ (separated_string _ (separated_mark _ (separated_lexemes
      (separated_moreMembers h members) value fun _ _ => exists_mark_moreMembers members rest)))

theorem separated_moreItems {rest : List Lexeme} (h : Separated rest) :
    ∀ items : List Value, Separated (Value.moreItems items ++ rest)
  | [] => separated_mark _ h
  | item :: items => by
    rw [Value.moreItems, List.cons_append, List.append_assoc]
    exact separated_mark _ (separated_lexemes (separated_moreItems h items) item
      fun _ _ => exists_mark_moreItems items rest)

theorem separated_moreMembers {rest : List Lexeme} (h : Separated rest) :
    ∀ members : List (String × Value), Separated (Value.moreMembers members ++ rest)
  | [] => separated_mark _ h
  | (key, value) :: members => by
    rw [Value.moreMembers, List.cons_append, List.cons_append, List.cons_append, List.append_assoc]
    exact separated_mark _ (separated_string _ (separated_mark _ (separated_lexemes
      (separated_moreMembers h members) value fun _ _ => exists_mark_moreMembers members rest)))

end

/-- A text of a value is cut into the tokens of its lexemes, or there is a number in it that does
not fit. -/
theorem lexText_of_isText {value : Value} (hnumber : ∀ n, value ≠ .number n) {text : String}
    (h : value.IsText text) :
    (∃ tokens, List.Forall₂ Lexeme.Becomes value.lexemes tokens ∧
      lexText text = ⟨tokens, .finished⟩) ∨
    ((lexText text).stop = .malformed ∧ ∃ n, .number n ∈ value.lexemes) := by
  have hseparated : Separated value.lexemes := by
    have happend := separated_lexemes .nil value fun n heq => absurd heq (hnumber n)
    rwa [List.append_nil] at happend
  have hlex : lexText text = Lexer.conclude .closed (between.feed (bytes text.toList)) := by
    rw [lexText, lex, bytesOfText_eq_flatMap]
    rfl
  rw [hlex]
  have hcases := (lexes_feed h hseparated).cases
  generalize between.feed (bytes text.toList) = out at hcases
  obtain ⟨tokens, last⟩ := out
  rcases hcases with ⟨hlast, hbecomes⟩ | ⟨hlast, hnone⟩
  · obtain rfl : last = some between := hlast
    exact Or.inl ⟨tokens, hbecomes, by simp [Lexer.conclude, Lexer.finish]⟩
  · obtain rfl : last = none := hlast
    exact Or.inr ⟨rfl, hnone⟩

end Grammar

end DatasetCompiler.Json
