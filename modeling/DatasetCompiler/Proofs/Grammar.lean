import DatasetCompiler.Json.Token

/-!
# The grammar of JSON text

What JSON text is, independently of any reader.  A value is written as a sequence of lexemes with
blanks between them, and a lexeme in one of its spellings: a string has many, since a character may
stand for itself or be escaped in up to three ways.  Numbers stay as they are written, of any size,
and values are nested to any depth.

Main definitions: `Value.IsText`, a text of a value; `Value.compact`, the text without blanks that
escapes only what it must.  Every value has its compact text (`isText_compact`).
-/

namespace DatasetCompiler.Json.Grammar

/-! ### Numbers -/

def IsDigit (c : Char) : Prop := c ∈ "0123456789".toList

instance (c : Char) : Decidable (IsDigit c) := inferInstanceAs (Decidable (c ∈ _))

/-- A nonempty run of digits. -/
def IsDigits (cs : List Char) : Prop := cs ≠ [] ∧ ∀ c ∈ cs, IsDigit c

/-- The part of a number before the point: no zero stands in front of another digit. -/
inductive IsWhole : List Char → Prop where
  | zero : IsWhole ['0']
  | digits {c : Char} {cs : List Char} (hc : IsDigit c) (hzero : c ≠ '0')
      (hcs : ∀ d ∈ cs, IsDigit d) : IsWhole (c :: cs)

inductive IsFraction : List Char → Prop where
  | absent : IsFraction []
  | point {cs : List Char} (hcs : IsDigits cs) : IsFraction ('.' :: cs)

inductive IsExponent : List Char → Prop where
  | absent : IsExponent []
  | unsigned {e : Char} {cs : List Char} (he : e = 'e' ∨ e = 'E') (hcs : IsDigits cs) :
      IsExponent (e :: cs)
  | signed {e sign : Char} {cs : List Char} (he : e = 'e' ∨ e = 'E')
      (hsign : sign = '+' ∨ sign = '-') (hcs : IsDigits cs) : IsExponent (e :: sign :: cs)

/-- A number without its sign. -/
inductive IsUnsigned : List Char → Prop where
  | parts {whole fraction exponent : List Char} (hwhole : IsWhole whole)
      (hfraction : IsFraction fraction) (hexponent : IsExponent exponent) :
      IsUnsigned (whole ++ (fraction ++ exponent))

/-- A written number. -/
inductive IsNumber : List Char → Prop where
  | positive {cs : List Char} (h : IsUnsigned cs) : IsNumber cs
  | negative {cs : List Char} (h : IsUnsigned cs) : IsNumber ('-' :: cs)

structure Numeral where
  chars : List Char
  isNumber : IsNumber chars

/-! ### Strings -/

/-- A character that may stand for itself in a string. -/
def IsPlain (c : Char) : Prop := ' ' ≤ c ∧ c ≠ '"' ∧ c ≠ '\\'

instance (c : Char) : Decidable (IsPlain c) := inferInstanceAs (Decidable (_ ∧ _ ∧ _))

/-- The letters behind a backslash, with the characters that they stand for. -/
def shortEscapes : List (Char × Char) :=
  [('"', '"'), ('\\', '\\'), ('/', '/'), ('b', '\x08'), ('f', '\x0c'), ('n', '\n'), ('r', '\r'),
    ('t', '\t')]

/-- A hexadecimal digit, with small or capital letters. -/
def SpelledDigit (d : Nat) (c : Char) : Prop :=
  "0123456789abcdef".toList[d]? = some c ∨ "0123456789ABCDEF".toList[d]? = some c

/-- Four hexadecimal digits. -/
inductive SpelledCode : Nat → List Char → Prop where
  | digits {n₃ n₂ n₁ n₀ : Nat} {d₃ d₂ d₁ d₀ : Char} (h₃ : SpelledDigit n₃ d₃)
      (h₂ : SpelledDigit n₂ d₂) (h₁ : SpelledDigit n₁ d₁) (h₀ : SpelledDigit n₀ d₀) :
      SpelledCode (((n₃ * 16 + n₂) * 16 + n₁) * 16 + n₀) [d₃, d₂, d₁, d₀]

/-- A character in a string: itself, behind a backslash, by its number, or by two surrogates. -/
inductive SpelledChar : Char → List Char → Prop where
  | plain {c : Char} (h : IsPlain c) : SpelledChar c [c]
  | short {letter c : Char} (h : (letter, c) ∈ shortEscapes) : SpelledChar c ['\\', letter]
  | code {c : Char} {digits : List Char} (h : SpelledCode c.toNat digits) :
      SpelledChar c ('\\' :: 'u' :: digits)
  | pair {c : Char} {high low : Nat} {digits digits' : List Char}
      (hhigh : 0xD800 ≤ high ∧ high ≤ 0xDBFF) (hlow : 0xDC00 ≤ low ∧ low ≤ 0xDFFF)
      (hc : c.toNat = 0x10000 + (high - 0xD800) * 0x400 + (low - 0xDC00))
      (h : SpelledCode high digits) (h' : SpelledCode low digits') :
      SpelledChar c ('\\' :: 'u' :: (digits ++ '\\' :: 'u' :: digits'))

inductive SpelledChars : List Char → List Char → Prop where
  | nil : SpelledChars [] []
  | cons {c : Char} {text spelled rest : List Char} (hc : SpelledChar c spelled)
      (h : SpelledChars text rest) : SpelledChars (c :: text) (spelled ++ rest)

/-! ### Lexemes -/

inductive Mark where
  | openBrace
  | closeBrace
  | openBracket
  | closeBracket
  | comma
  | colon
deriving DecidableEq, Repr

def Mark.char : Mark → Char
  | .openBrace => '{'
  | .closeBrace => '}'
  | .openBracket => '['
  | .closeBracket => ']'
  | .comma => ','
  | .colon => ':'

inductive Word where
  | null
  | bool (value : Bool)
deriving DecidableEq, Repr

def Word.text : Word → String
  | .null => "null"
  | .bool true => "true"
  | .bool false => "false"

inductive Lexeme where
  | mark (m : Mark)
  | word (w : Word)
  | number (n : Numeral)
  | string (s : String)

inductive Lexeme.Spelled : Lexeme → List Char → Prop where
  | mark (m : Mark) : Spelled (.mark m) [m.char]
  | word (w : Word) : Spelled (.word w) w.text.toList
  | number (n : Numeral) : Spelled (.number n) n.chars
  | string {s : String} {cs : List Char} (h : SpelledChars s.toList cs) :
      Spelled (.string s) ('"' :: (cs ++ ['"']))

def IsBlank (c : Char) : Prop := c = ' ' ∨ c = '\t' ∨ c = '\n' ∨ c = '\r'

/-- Lexemes with blanks before, between and behind them. -/
inductive Spelled : List Lexeme → List Char → Prop where
  | nil {blanks : List Char} (hblanks : ∀ c ∈ blanks, IsBlank c) : Spelled [] blanks
  | cons {lexeme : Lexeme} {lexemes : List Lexeme} {blanks cs rest : List Char}
      (hblanks : ∀ c ∈ blanks, IsBlank c) (hlexeme : lexeme.Spelled cs)
      (hrest : Spelled lexemes rest) : Spelled (lexeme :: lexemes) (blanks ++ (cs ++ rest))

/-! ### Values -/

/-- A value as it is written: the members of an object in their order, with all that share a key. -/
inductive Value where
  | word (w : Word)
  | number (n : Numeral)
  | string (s : String)
  | array (items : List Value)
  | object (members : List (String × Value))

namespace Value

mutual

def lexemes : Value → List Lexeme
  | .word w => [.word w]
  | .number n => [.number n]
  | .string s => [.string s]
  | .array [] => [.mark .openBracket, .mark .closeBracket]
  | .array (item :: items) => .mark .openBracket :: (item.lexemes ++ moreItems items)
  | .object [] => [.mark .openBrace, .mark .closeBrace]
  | .object ((key, value) :: members) =>
    .mark .openBrace :: .string key :: .mark .colon :: (value.lexemes ++ moreMembers members)

/-- What stands behind an item, up to the end of the array. -/
def moreItems : List Value → List Lexeme
  | [] => [.mark .closeBracket]
  | item :: items => .mark .comma :: (item.lexemes ++ moreItems items)

/-- What stands behind a member, up to the end of the object. -/
def moreMembers : List (String × Value) → List Lexeme
  | [] => [.mark .closeBrace]
  | (key, value) :: members =>
    .mark .comma :: .string key :: .mark .colon :: (value.lexemes ++ moreMembers members)

end

/-- The text is one of the texts of the value. -/
def IsText (value : Value) (text : String) : Prop := Spelled value.lexemes text.toList

end Value

/-! ### Compact text -/

/-- A character in a string, escaped only if it must be. -/
def escaped (c : Char) : List Char :=
  if IsPlain c then [c]
  else
    match shortEscapes.find? fun escape => escape.2 = c with
    | some escape => ['\\', escape.1]
    | none => ['\\', 'u', '0', '0', Nat.digitChar (c.toNat / 16), Nat.digitChar (c.toNat % 16)]

def Lexeme.compact : Lexeme → List Char
  | .mark m => [m.char]
  | .word w => w.text.toList
  | .number n => n.chars
  | .string s => '"' :: (s.toList.flatMap escaped ++ ['"'])

/-- The text of a value without blanks, with as few escapes as possible. -/
def Value.compact (value : Value) : String :=
  String.ofList (value.lexemes.flatMap Lexeme.compact)

theorem spelledDigit_digitChar {d : Nat} (h : d < 16) : SpelledDigit d (Nat.digitChar d) := by
  have hdigits : ∀ d < 16, "0123456789abcdef".toList[d]? = some (Nat.digitChar d) := by decide
  exact Or.inl (hdigits d h)

/-- What is not plain and has no letter of its own is a control character. -/
theorem lt_of_not_isPlain {c : Char} (hplain : ¬IsPlain c)
    (hshort : shortEscapes.find? (fun escape => escape.2 = c) = none) : c.toNat < 32 := by
  have hother : ∀ escape ∈ shortEscapes, escape.2 ≠ c := by simpa using hshort
  have hspace : ¬(' ' ≤ c) := fun hle =>
    hplain ⟨hle, (hother ('"', '"') (by decide)).symm, (hother ('\\', '\\') (by decide)).symm⟩
  have hlt : c < ' ' := Char.not_le.1 hspace
  exact UInt32.lt_iff_toNat_lt.1 hlt

theorem spelledChar_escaped (c : Char) : SpelledChar c (escaped c) := by
  unfold escaped
  split
  · exact .plain ‹_›
  · rename_i hplain
    split
    · rename_i escape hfind
      have hsome := List.find?_some hfind
      obtain rfl : escape.2 = c := of_decide_eq_true hsome
      exact .short (List.mem_of_find?_eq_some hfind)
    · rename_i hshort
      have hcontrol := lt_of_not_isPlain hplain hshort
      have hdigits := SpelledCode.digits (spelledDigit_digitChar (d := 0) (by decide))
        (spelledDigit_digitChar (d := 0) (by decide))
        (spelledDigit_digitChar (d := c.toNat / 16) (by omega))
        (spelledDigit_digitChar (d := c.toNat % 16) (by omega))
      have hcode : ((0 * 16 + 0) * 16 + c.toNat / 16) * 16 + c.toNat % 16 = c.toNat := by omega
      rw [hcode] at hdigits
      exact .code hdigits

theorem spelledChars_escaped (text : List Char) : SpelledChars text (text.flatMap escaped) := by
  induction text with
  | nil => exact .nil
  | cons c text ih => exact .cons (spelledChar_escaped c) ih

theorem Lexeme.spelled_compact (lexeme : Lexeme) : lexeme.Spelled lexeme.compact := by
  cases lexeme with
  | mark m => exact .mark m
  | word w => exact .word w
  | number n => exact .number n
  | string s => exact .string (spelledChars_escaped s.toList)

theorem spelled_compact (lexemes : List Lexeme) :
    Spelled lexemes (lexemes.flatMap Lexeme.compact) := by
  have hnone : ∀ c ∈ ([] : List Char), IsBlank c := nofun
  induction lexemes with
  | nil => exact .nil hnone
  | cons lexeme lexemes ih => exact .cons hnone lexeme.spelled_compact ih

theorem Value.isText_compact (value : Value) : value.IsText value.compact := by
  rw [IsText, compact, String.toList_ofList]
  exact spelled_compact value.lexemes

end DatasetCompiler.Json.Grammar
