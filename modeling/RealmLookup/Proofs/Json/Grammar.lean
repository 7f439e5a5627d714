import RealmLookup.Json.Token
import Mathlib.Data.List.Chain

/-!
# The tokens of JSON text

The grammar of JSON text up to its tokens, and that scanning follows it.  A text is a sequence of
tokens with any white space before, between and behind them.  The characters of a string may be
written in several ways, those of a number in one.

## Main definitions

* `Json.StringText`, `Json.NumberText`, `Json.TokenText` : what strings, numbers and tokens look
  like.
* `Json.Denotes` : the characters that the pieces of a string stand for.
* `Json.Spelled` : the texts of a list of tokens.

## Main results

* `Json.text?_of_denotes` : the characters of a string are those that its pieces stand for.
* `Json.lex_of_spelled` : a text is cut into the tokens that it spells.
-/

namespace RealmLookup.Json

/-! ### Strings -/

/-- The characters that a backslash and a mark stand for. -/
inductive Escape : Char → Char → Prop
  | quote : Escape '"' '"'
  | backslash : Escape '\\' '\\'
  | slash : Escape '/' '/'
  | backspace : Escape 'b' (Char.ofNat 8)
  | formFeed : Escape 'f' (Char.ofNat 12)
  | newline : Escape 'n' '\n'
  | carriageReturn : Escape 'r' '\r'
  | tab : Escape 't' '\t'

/-- A hexadecimal digit, in lower or upper case. -/
inductive HexDigit : Char → Nat → Prop
  | lower {n : Nat} (digit : n < 16) : HexDigit n.digitChar n
  | upper {n : Nat} (digit : n < 16) : HexDigit n.digitChar.toUpper n

/-- What may stand between the quotes of a string, and its pieces. -/
inductive StringText : List Char → List Piece → Prop
  | nil : StringText [] []
  | plain {c : Char} {text : List Char} {pieces : List Piece} (printable : 0x20 ≤ c.toNat)
      (unquoted : c ≠ '"') (unescaped : c ≠ '\\') (follows : StringText text pieces) :
      StringText (c :: text) (.scalar c :: pieces)
  | escape {mark c : Char} {text : List Char} {pieces : List Piece} (escapes : Escape mark c)
      (follows : StringText text pieces) :
      StringText ('\\' :: mark :: text) (.scalar c :: pieces)
  | unit {a b c d : Char} {first second third fourth : Nat} {text : List Char}
      {pieces : List Piece} (one : HexDigit a first) (two : HexDigit b second)
      (three : HexDigit c third) (four : HexDigit d fourth) (follows : StringText text pieces) :
      StringText ('\\' :: 'u' :: a :: b :: c :: d :: text)
        (.unit (((first * 16 + second) * 16 + third) * 16 + fourth) :: pieces)

/-- The characters that the pieces of a string stand for.  An escaped unit is a character, or two
of them are one beyond the range of a unit. -/
inductive Denotes : List Piece → List Char → Prop
  | nil : Denotes [] []
  | scalar (c : Char) {pieces : List Piece} {text : List Char} (follows : Denotes pieces text) :
      Denotes (.scalar c :: pieces) (c :: text)
  | unit {c : Char} {pieces : List Piece} {text : List Char} (fits : c.toNat < 0x10000)
      (follows : Denotes pieces text) : Denotes (.unit c.toNat :: pieces) (c :: text)
  | pair {c : Char} {pieces : List Piece} {text : List Char} (beyond : 0x10000 ≤ c.toNat)
      (follows : Denotes pieces text) :
      Denotes (.unit (0xD800 + (c.toNat - 0x10000) / 0x400) ::
        .unit (0xDC00 + (c.toNat - 0x10000) % 0x400) :: pieces) (c :: text)

/-! ### Numbers -/

/-- Decimal digits, at least one. -/
def Digits (text : List Char) : Prop :=
  text ≠ [] ∧ ∀ c ∈ text, c.isDigit = true

/-- The fraction of a number. -/
inductive FractionText : List Char → List Char → Prop
  | absent : FractionText [] []
  | written {digits : List Char} (decimal : Digits digits) : FractionText ('.' :: digits) digits

/-- The exponent of a number. -/
inductive ExponentText : List Char → Option (Bool × List Char) → Prop
  | absent : ExponentText [] none
  | plain {mark : Char} {digits : List Char} (marked : mark = 'e' ∨ mark = 'E')
      (decimal : Digits digits) : ExponentText (mark :: digits) (some (false, digits))
  | plus {mark : Char} {digits : List Char} (marked : mark = 'e' ∨ mark = 'E')
      (decimal : Digits digits) : ExponentText (mark :: '+' :: digits) (some (false, digits))
  | minus {mark : Char} {digits : List Char} (marked : mark = 'e' ∨ mark = 'E')
      (decimal : Digits digits) : ExponentText (mark :: '-' :: digits) (some (true, digits))

/-- The text of a number.  Several digits before the point do not start with a zero. -/
inductive NumberText : List Char → Literal → Prop
  | intro {negative : Bool} {whole fraction exponent digits : List Char}
      {power : Option (Bool × List Char)} (decimal : Digits whole)
      (leading : whole.head? = some '0' → whole = ['0']) (behind : FractionText fraction digits)
      (scales : ExponentText exponent power) :
      NumberText ((if negative then ['-'] else []) ++ whole ++ fraction ++ exponent)
        ⟨negative, whole, digits, power⟩

/-! ### Tokens -/

/-- The text of a token. -/
inductive TokenText : List Char → Token → Prop
  | openArray : TokenText ['['] .openArray
  | closeArray : TokenText [']'] .closeArray
  | openObject : TokenText ['{'] .openObject
  | closeObject : TokenText ['}'] .closeObject
  | colon : TokenText [':'] .colon
  | comma : TokenText [','] .comma
  | null : TokenText ['n', 'u', 'l', 'l'] .null
  | bool (value : Bool) : TokenText (toString value).toList (.bool value)
  | number {text : List Char} {literal : Literal} (written : NumberText text literal) :
      TokenText text (.number literal)
  | string {text : List Char} {pieces : List Piece} (written : StringText text pieces) :
      TokenText ('"' :: (text ++ ['"'])) (.string pieces)

/-- White space between tokens. -/
def Space (text : List Char) : Prop :=
  ∀ c ∈ text, c ∈ [' ', '\t', '\n', '\r']

/-- The texts of a list of tokens, with any white space around them. -/
inductive Spelled : List Char → List Token → Prop
  | done {space : List Char} (blank : Space space) : Spelled space []
  | token {space text rest : List Char} {token : Token} {tokens : List Token}
      (blank : Space space) (written : TokenText text token) (follows : Spelled rest tokens) :
      Spelled (space ++ text ++ rest) (token :: tokens)

/-- Characters may stand for themselves, but for quotes, backslashes and control characters. -/
theorem stringText_map_scalar {text : List Char}
    (plain : ∀ c ∈ text, 0x20 ≤ c.toNat ∧ c ≠ '"' ∧ c ≠ '\\') :
    StringText text (text.map .scalar) := by
  induction text with
  | nil => exact .nil
  | cons c rest ih =>
    obtain ⟨⟨printable, unquoted, unescaped⟩, later⟩ := List.forall_mem_cons.1 plain
    exact .plain printable unquoted unescaped (ih later)

theorem denotes_map_scalar (text : List Char) : Denotes (text.map .scalar) text := by
  induction text with
  | nil => exact .nil
  | cons c rest ih => exact .scalar c ih

/-- Tokens may be written side by side. -/
theorem spelled_flatten {texts : List (List Char)} {tokens : List Token}
    (written : List.Forall₂ TokenText texts tokens) : Spelled texts.flatten tokens := by
  induction written with
  | nil => exact .done (List.forall_mem_nil _)
  | cons first _ ih => exact .token (List.forall_mem_nil _) first ih

/-! ### Scanning strings -/

section Strings

variable {text : List Char} {pieces : List Piece}

theorem escaped?_of_escape {mark c : Char} (escapes : Escape mark c) : escaped? mark = some c := by
  cases escapes <;> rfl

theorem hexDigit?_of_hexDigit {c : Char} {n : Nat} (digit : HexDigit c n) :
    hexDigit? c = some n := by
  have lower : ∀ n < 16, hexDigit? n.digitChar = some n := by decide
  have upper : ∀ n < 16, hexDigit? n.digitChar.toUpper = some n := by decide
  cases digit with
  | lower digit => exact lower n digit
  | upper digit => exact upper n digit

/-- The pieces of a string are scanned up to its closing quote. -/
theorem scanString_of_stringText (written : StringText text pieces) (rest : List (Option Char)) :
    scanString (text.map some ++ some '"' :: rest) = some (pieces, rest) := by
  induction written with
  | nil => rw [List.map_nil, List.nil_append, scanString]
  | @plain c text pieces printable unquoted unescaped follows ih =>
    have kept : ¬ (c = '\\' ∨ c.toNat < 0x20) := by
      rintro (same | low)
      · exact unescaped same
      · exact Nat.not_lt.2 printable low
    rw [List.map_cons, List.cons_append, scanString, if_neg kept, ih]
    · exact unquoted
    · exact fun _ _ _ _ _ _ same => unescaped same
    · exact fun _ _ _ same => unescaped same
  | @escape mark c text pieces escapes follows ih =>
    rw [List.map_cons, List.map_cons, List.cons_append, List.cons_append, scanString,
      escaped?_of_escape escapes, ih]
    rintro _ _ _ _ _ - rfl
    cases escapes
  | @unit a b c d first second third fourth text pieces one two three four follows ih =>
    have code : hexUnit? a b c d =
        some (((first * 16 + second) * 16 + third) * 16 + fourth) := by
      rw [hexUnit?, hexDigit?_of_hexDigit one, hexDigit?_of_hexDigit two,
        hexDigit?_of_hexDigit three, hexDigit?_of_hexDigit four]
      refine congrArg some ?_
      omega
    simp only [List.map_cons, List.cons_append]
    rw [scanString, code, ih]

/-- No character is half of a surrogate pair. -/
theorem isSurrogate_toNat (c : Char) :
    isHighSurrogate c.toNat = false ∧ isLowSurrogate c.toNat = false := by
  have valid : c.toNat < 0xD800 ∨ 0xDFFF < c.toNat ∧ c.toNat < 0x110000 := c.valid
  simp only [isHighSurrogate, isLowSurrogate, Bool.and_eq_false_iff, decide_eq_false_iff_not]
  omega

/-- An escaped unit that is no half of a pair is a character of its own. -/
theorem text?_unit {code : Nat} (high : isHighSurrogate code = false)
    (low : isLowSurrogate code = false) (pieces : List Piece) :
    text? (.unit code :: pieces) = (text? pieces).map (Char.ofNat code :: ·) := by
  rcases pieces with _ | ⟨c | second | _, rest⟩
  · simp [text?, high, low]
  · simp [text?, high, low]
  · rw [text?, high, low, if_neg Bool.false_ne_true, if_neg Bool.false_ne_true]
  · simp [text?, high, low]

/-- The halves of a pair are the character that they were made of. -/
theorem text?_pair {c : Char} (beyond : 0x10000 ≤ c.toNat) (pieces : List Piece) :
    text? (.unit (0xD800 + (c.toNat - 0x10000) / 0x400) ::
        .unit (0xDC00 + (c.toNat - 0x10000) % 0x400) :: pieces) =
      (text? pieces).map (c :: ·) := by
  have valid : c.toNat < 0xD800 ∨ 0xDFFF < c.toNat ∧ c.toNat < 0x110000 := c.valid
  have high : isHighSurrogate (0xD800 + (c.toNat - 0x10000) / 0x400) = true := by
    simp only [isHighSurrogate, Bool.and_eq_true, decide_eq_true_eq]
    omega
  have low : isLowSurrogate (0xDC00 + (c.toNat - 0x10000) % 0x400) = true := by
    simp only [isLowSurrogate, Bool.and_eq_true, decide_eq_true_eq]
    omega
  have code : 0x10000 + (0xD800 + (c.toNat - 0x10000) / 0x400 - 0xD800) * 0x400 +
      (0xDC00 + (c.toNat - 0x10000) % 0x400 - 0xDC00) = c.toNat := by
    omega
  rw [text?, high, if_pos rfl, low, if_pos rfl, code, Char.ofNat_toNat]

/-- The characters of a string are those that its pieces stand for. -/
theorem text?_of_denotes (denotes : Denotes pieces text) : text? pieces = some text := by
  induction denotes with
  | nil => rfl
  | scalar c follows ih => rw [text?, ih, Option.map_some]
  | @unit c pieces text fits follows ih =>
    obtain ⟨high, low⟩ := isSurrogate_toNat c
    rw [text?_unit high low, ih, Option.map_some, Char.ofNat_toNat]
  | pair beyond follows ih => rw [text?_pair beyond, ih, Option.map_some]

end Strings

/-! ### Scanning numbers -/

section Numbers

variable {text digits : List Char} {rest : List (Option Char)}

/-- A text whose first character continues no number. -/
def Bounded (rest : List (Option Char)) : Prop :=
  ∀ c, some c ∈ rest.head? → c.isDigit = false ∧ c ≠ '.' ∧ c ≠ 'e' ∧ c ≠ 'E'

/-- Digits are scanned up to the first other character. -/
theorem scanDigits_append (decimal : ∀ c ∈ digits, c.isDigit = true)
    (ends : ∀ c, some c ∈ rest.head? → c.isDigit = false) :
    scanDigits (digits.map some ++ rest) = (digits, rest) := by
  induction digits with
  | nil =>
    rcases rest with _ | ⟨_ | c, rest⟩
    · rfl
    · rfl
    · simp [scanDigits, ends c rfl]
  | cons c digits ih =>
    obtain ⟨first, later⟩ := List.forall_mem_cons.1 decimal
    simp [scanDigits, first, ih later]

/-- Digits begin with a digit, which is no sign. -/
theorem Digits.exists_cons (decimal : Digits digits) :
    ∃ first more, digits = first :: more ∧ first.isDigit = true ∧ first ≠ '-' ∧ first ≠ '+' := by
  obtain ⟨first, more, rfl⟩ := List.exists_cons_of_ne_nil decimal.1
  have digit := decimal.2 first List.mem_cons_self
  refine ⟨first, more, rfl, digit, ?_, ?_⟩
  · rintro rfl
    cases digit
  · rintro rfl
    cases digit

/-- An exponent is scanned up to the end of its number. -/
theorem scanExponent_of_exponentText {power : Option (Bool × List Char)}
    (written : ExponentText text power) (ends : Bounded rest) :
    scanExponent (text.map some ++ rest) = some (power, rest) := by
  have stops : ∀ c, some c ∈ rest.head? → c.isDigit = false := fun c first => (ends c first).1
  cases written with
  | absent =>
    rcases rest with _ | ⟨_ | c, rest⟩
    · rfl
    · rfl
    · obtain ⟨-, -, lower, upper⟩ := ends c rfl
      simp [scanExponent, lower, upper]
  | plain marked decimal =>
    have scanned := scanDigits_append decimal.2 stops
    obtain ⟨first, more, rfl, -, minus, plus⟩ := decimal.exists_cons
    rw [List.map_cons, List.cons_append] at scanned
    rcases marked with rfl | rfl <;> simp [scanExponent, minus, plus, scanned]
  | plus marked decimal =>
    have scanned := scanDigits_append decimal.2 stops
    rcases marked with rfl | rfl <;> simp [scanExponent, scanned, decimal.1]
  | minus marked decimal =>
    have scanned := scanDigits_append decimal.2 stops
    rcases marked with rfl | rfl <;> simp [scanExponent, scanned, decimal.1]

/-- A fraction is scanned up to the exponent. -/
theorem scanFraction_of_fractionText (written : FractionText text digits)
    (ends : ∀ c, some c ∈ rest.head? → c.isDigit = false ∧ c ≠ '.') :
    scanFraction (text.map some ++ rest) = some (digits, rest) := by
  have stops : ∀ c, some c ∈ rest.head? → c.isDigit = false := fun c first => (ends c first).1
  cases written with
  | absent =>
    rcases rest with _ | ⟨_ | c, rest⟩
    · rfl
    · rfl
    · simp [scanFraction, (ends c rfl).2]
  | written decimal =>
    have scanned := scanDigits_append decimal.2 stops
    simp [scanFraction, scanned, decimal.1]

/-- An exponent begins with its mark, which continues no digits and no fraction. -/
theorem head?_exponent {power : Option (Bool × List Char)} (written : ExponentText text power)
    (ends : Bounded rest) :
    ∀ c, some c ∈ (text.map some ++ rest).head? → c.isDigit = false ∧ c ≠ '.' := by
  have marks {mark : Char} (marked : mark = 'e' ∨ mark = 'E') :
      mark.isDigit = false ∧ mark ≠ '.' := by
    rcases marked with rfl | rfl <;> decide
  intro c first
  cases written with
  | absent => exact ⟨(ends c first).1, (ends c first).2.1⟩
  | plain marked | plus marked | minus marked =>
    obtain rfl := Option.some.inj (Option.some.inj first)
    exact marks marked

/-- A fraction begins with a point, which is no digit. -/
theorem head?_fraction (written : FractionText text digits)
    (ends : ∀ c, some c ∈ rest.head? → c.isDigit = false) :
    ∀ c, some c ∈ (text.map some ++ rest).head? → c.isDigit = false := by
  intro c first
  cases written with
  | absent => exact ends c first
  | written decimal =>
    obtain rfl := Option.some.inj (Option.some.inj first)
    rfl

/-- A number is scanned up to the first character that does not continue it. -/
theorem scanNumber_of_numberText {literal : Literal} (written : NumberText text literal)
    (ends : Bounded rest) : scanNumber (text.map some ++ rest) = some (literal, rest) := by
  cases written with
  | @intro negative whole fraction exponent digits power decimal leading behind scales =>
    have third := scanExponent_of_exponentText scales ends
    have second := scanFraction_of_fractionText behind (head?_exponent scales ends)
    have first := scanDigits_append decimal.2
      (head?_fraction behind fun c first => (head?_exponent scales ends c first).1)
    have unsigned : scanUnsigned negative
        (whole.map some ++ (fraction.map some ++ (exponent.map some ++ rest))) =
          some (⟨negative, whole, digits, power⟩, rest) := by
      rw [scanUnsigned, first]
      split
      · rename_i same
        cases same
        exact absurd rfl decimal.1
      · rename_i same
        cases same
        cases leading rfl
      · rename_i same
        cases same
        simp [second, third]
    obtain ⟨c, more, rfl, digit, minus, -⟩ := decimal.exists_cons
    simp only [List.map_append, List.append_assoc]
    cases negative with
    | true =>
      exact unsigned
    | false =>
      rw [scanNumber]
      · exact unsigned
      · rintro _ same
        exact minus (Option.some.inj (List.cons.inj same).1)

end Numbers

/-! ### Scanning tokens -/

section Tokens

variable {text : List Char} {rest : List (Option Char)} {token : Token} {tokens : List Token}

/-- Whether a token is a number. -/
def Token.isNumber : Token → Bool
  | .number _ => true
  | _ => false

/-- A number begins with a digit or a minus. -/
theorem head?_numberText {literal : Literal} (written : NumberText text literal) :
    ∃ first more, text = first :: more ∧ (first.isDigit = true ∨ first = '-') := by
  cases written with
  | @intro negative whole fraction exponent digits power decimal leading behind scales =>
    obtain ⟨c, more, rfl, digit, -⟩ := decimal.exists_cons
    cases negative with
    | true => exact ⟨'-', _, rfl, .inr rfl⟩
    | false => exact ⟨c, _, rfl, .inl digit⟩

/-- A token is scanned up to its end, which a number does not tell itself. -/
theorem scanToken_of_tokenText (written : TokenText text token)
    (ends : token.isNumber = true → Bounded rest) :
    scanToken (text.map some ++ rest) = some (token, rest) := by
  cases written with
  | openArray | closeArray | openObject | closeObject | colon | comma | null => rfl
  | bool value => cases value <;> rfl
  | @number text literal written =>
    have scanned := scanNumber_of_numberText written (ends rfl)
    obtain ⟨first, more, rfl, starts⟩ := head?_numberText written
    -- No other token begins like a number.
    have other {mark : Char} (digit : mark.isDigit = false) (minus : mark ≠ '-') :
        first ≠ mark := by
      rintro rfl
      rcases starts with starts | starts
      · cases digit.symm.trans starts
      · exact minus starts
    rw [List.map_cons, List.cons_append] at scanned ⊢
    rw [scanToken, scanned, Option.map_some]
    all_goals
      exact fun _ same => other (by decide) (by decide) (Option.some.inj (List.cons.inj same).1)
  | string written =>
    have scanned := scanString_of_stringText written rest
    simp [scanToken, scanned]

/-- Tokens other than numbers begin with a character that continues no number. -/
theorem bounded_tokenText (written : TokenText text token) (other : token.isNumber = false)
    (rest : List (Option Char)) : Bounded (text.map some ++ rest) := by
  intro c first
  cases written with
  | number written => cases other
  | bool value =>
    cases value <;> obtain rfl := Option.some.inj (Option.some.inj first) <;> decide
  | _ =>
    obtain rfl := Option.some.inj (Option.some.inj first)
    decide

/-! ### Cutting texts -/

/-- White space begins no token. -/
theorem scanToken_space {c : Char} (space : isSpace c = true) (rest : List (Option Char)) :
    scanToken (some c :: rest) = none := by
  simp only [isSpace, Bool.or_eq_true, beq_iff_eq] at space
  rcases space with ((rfl | rfl) | rfl) | rfl <;> rfl

/-- A text that begins with a token is cut behind it. -/
theorem lex_of_scanToken {text : List (Option Char)} (found : scanToken text = some (token, rest)) :
    lex text = (lex rest).map (token :: ·) := by
  rcases text with _ | ⟨_ | c, more⟩
  · cases found
  · cases found
  · cases space : isSpace c with
    | true =>
      rw [scanToken_space space] at found
      cases found
    | false =>
      rw [lex, Option.any_some, space, if_neg Bool.false_ne_true]
      split
      · rename_i none
        cases none.symm.trans found
      · rename_i other after again
        cases again.symm.trans found
        rfl

/-- White space before a token is skipped. -/
theorem lex_space {space : List Char} (blank : Space space) (rest : List (Option Char)) :
    lex (space.map some ++ rest) = lex rest := by
  induction space with
  | nil => rfl
  | cons c space ih =>
    obtain ⟨first, later⟩ := List.forall_mem_cons.1 blank
    have skipped : isSpace c = true := by
      simpa [isSpace, or_assoc] using first
    rw [List.map_cons, List.cons_append, lex, Option.any_some, skipped, if_pos rfl, ih later]

/-- White space continues no number, and is put before a text that does not. -/
theorem bounded_space {space : List Char} (blank : Space space) (ends : Bounded rest) :
    Bounded (space.map some ++ rest) := by
  cases space with
  | nil => exact ends
  | cons c space =>
    intro first same
    obtain rfl := Option.some.inj (Option.some.inj same)
    have listed := blank c List.mem_cons_self
    simp only [List.mem_cons, List.not_mem_nil, or_false] at listed
    rcases listed with rfl | rfl | rfl | rfl <;> decide

/-- A text continues no number if its first token is none. -/
theorem bounded_spelled (spelled : Spelled text tokens)
    (other : ∀ token ∈ tokens.head?, token.isNumber = false) : Bounded (text.map some) := by
  cases spelled with
  | done blank =>
    rw [← List.append_nil (text.map some)]
    exact bounded_space blank fun _ first => by cases first
  | @token space text rest token tokens blank written follows =>
    rw [List.map_append, List.map_append, List.append_assoc]
    exact bounded_space blank (bounded_tokenText written (other token rfl) (rest.map some))

/-- Lists of tokens in which no number follows another one. -/
def Apart (tokens : List Token) : Prop :=
  tokens.IsChain fun first second => first.isNumber = false ∨ second.isNumber = false

/-- A text is cut into the tokens that it spells, unless numbers stand next to each other. -/
theorem lex_of_spelled (spelled : Spelled text tokens) (apart : Apart tokens) :
    lex (text.map some) = some tokens := by
  induction spelled with
  | @done space blank =>
    rw [← List.append_nil (space.map some), lex_space blank, lex]
  | @token space text rest token tokens blank written follows ih =>
    obtain ⟨separate, later⟩ := List.isChain_cons.1 apart
    have ends (number : token.isNumber = true) : Bounded (rest.map some) := by
      refine bounded_spelled follows fun next first => ?_
      exact (separate next first).resolve_left (ne_true_of_eq_false · number)
    rw [List.map_append, List.map_append, List.append_assoc, lex_space blank,
      lex_of_scanToken (scanToken_of_tokenText written ends), ih later, Option.map_some]

end Tokens

end RealmLookup.Json
