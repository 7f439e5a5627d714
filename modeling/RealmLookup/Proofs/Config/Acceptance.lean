import RealmLookup.Config.Basic
import RealmLookup.Proofs.Json.Representable
import RealmLookup.Proofs.Text.Trimming

/-!
# Acceptance of credentials

Which documents are accepted as settings, and what their values mean.  Each of the twelve known keys
has a form, and a document is accepted if the value of every key has its form, where the server and
the client must be named.  Otherwise the first key whose value is unusable is reported.

## Main definitions

* `Config.TextReading`, `Config.FlagReading`, `Config.CountReading`, `Config.HeadersReading` : what
  the value of a key means.
* `Config.Reads` : the settings that a document holds.
* `Config.Usable` : the documents that hold settings.
* `Config.fields`, `Config.Fault` : the known keys with their forms, and what can be wrong there.

## Main results

* `Config.ofCredentials_eq_ok_iff` : a document is read as the settings that it holds.
* `Config.ofCredentials_eq_error_iff` : the first fault of a document is reported.
* `Config.ofText_eq_ok_iff` : so is a text, as its document.
* `Config.ofCredentials_acceptance` : both, and that other keys do not count.
-/

namespace RealmLookup.Config

open RealmLookup.Json RealmLookup.Text

/-! ### Values and their meaning -/

/-- What the value of a key means that takes a text.  An empty text counts as absent. -/
inductive TextReading : Option Value → Option String → Prop
  | absent : TextReading none none
  | null : TextReading (some .null) none
  | empty : TextReading (some (.string "")) none
  | given {text : String} (filled : text ≠ "") : TextReading (some (.string text)) (some text)

/-- What the value of a key means that takes a flag.  A flag may be spelled, with white space around
it. -/
inductive FlagReading : Option Value → Option Bool → Prop
  | absent : FlagReading none none
  | null : FlagReading (some .null) none
  | empty : FlagReading (some (.string "")) none
  | given (flag : Bool) : FlagReading (some (.bool flag)) (some flag)
  | spelled {text : String} {flag : Bool}
      (spells : Padded isBlank text.toList (toString flag).toList) :
      FlagReading (some (.string text)) (some flag)

/-- A number as it may be written: decimal digits, with or without a plus before them. -/
inductive Numeral : List Char → Nat → Prop
  | plain {digits : List Char} (written : digits ≠ [])
      (decimal : ∀ c ∈ digits, c.isDigit = true) :
      Numeral digits (Nat.ofDigitChars 10 digits 0)
  | signed {digits : List Char} (written : digits ≠ [])
      (decimal : ∀ c ∈ digits, c.isDigit = true) :
      Numeral ('+' :: digits) (Nat.ofDigitChars 10 digits 0)

/-- What the value of a key means that takes a number of seconds.  It may be written as a text, with
white space around it. -/
inductive CountReading : Option Value → Option Nat → Prop
  | absent : CountReading none none
  | null : CountReading (some .null) none
  | empty : CountReading (some (.string "")) none
  | given {count : Nat} (fits : count ≤ maxTimeoutSeconds) :
      CountReading (some (.number (.integer count))) (some count)
  | written {text : String} {numeral : List Char} {count : Nat}
      (padded : Padded isBlank text.toList numeral) (spells : Numeral numeral count)
      (fits : count ≤ maxTimeoutSeconds) : CountReading (some (.string text)) (some count)

/-- What the value of a key means that takes headers.  They may be given as the text of an
object. -/
inductive HeadersReading : Option Value → Table String → Prop
  | absent : HeadersReading none []
  | null : HeadersReading (some .null) []
  | blank {text : String} (blank : ∀ c ∈ text.toList, isBlank c = true) :
      HeadersReading (some (.string text)) []
  | given (texts : Table String) :
      HeadersReading (some (.object (Table.mapValues .string texts))) texts
  | written {text : String} {texts : Table String}
      (filled : ¬ ∀ c ∈ text.toList, isBlank c = true)
      (denotes : readObject? text.toList = some (Table.mapValues .string texts)) :
      HeadersReading (some (.string text)) texts

/-! ### Spelled values -/

section Spelled

variable {text : String} {flag : Bool} {count : Nat} {digits numeral : List Char}

/-- Flags are spelled without white space. -/
theorem bare_flag (flag : Bool) :
    (toString flag).toList ≠ [] ∧ Bare isBlank (toString flag).toList := by
  cases flag <;> refine ⟨by decide, ?_, ?_⟩ <;> rintro c ⟨⟩ <;> decide

/-- A text spells a flag with white space around it. -/
theorem flagOfText?_eq_some_iff :
    flagOfText? text = some flag ↔ Padded isBlank text.toList (toString flag).toList := by
  have trimmed : String.ofList (trimBlanks text.toList) = toString flag ↔
      Padded isBlank text.toList (toString flag).toList := by
    rw [← String.toList_inj, String.toList_ofList, trimBlanks, trim_eq_iff (bare_flag flag).1]
    exact and_iff_right (bare_flag flag).2
  rw [← trimmed]
  unfold flagOfText?
  dsimp only
  split
  · rename_i same
    rw [same]
    cases flag <;> decide
  · rename_i other
    split
    · rename_i same
      rw [same]
      cases flag <;> decide
    · rename_i another
      refine iff_of_false nofun ?_
      cases flag
      · exact another
      · exact other

theorem countOfDigits?_eq_some_iff : countOfDigits? digits = some count ↔
    digits ≠ [] ∧ (∀ c ∈ digits, c.isDigit = true) ∧ count = Nat.ofDigitChars 10 digits 0 ∧
      count ≤ maxTimeoutSeconds := by
  unfold countOfDigits?
  constructor
  · intro read
    split at read
    · rename_i decimal
      cases read
      exact ⟨decimal.1, List.all_eq_true.1 decimal.2.1, rfl, decimal.2.2⟩
    · cases read
  · rintro ⟨written, decimal, rfl, fits⟩
    exact if_pos ⟨written, List.all_eq_true.2 decimal, fits⟩

/-- Digits are not white space. -/
theorem isBlank_of_isDigit {c : Char} (decimal : c.isDigit = true) : isBlank c = false := by
  have bounds : 48 ≤ c.toNat ∧ c.toNat ≤ 57 := by
    have digit : c.isDigit = (decide (48 ≤ c.toNat) && decide (c.toNat ≤ 57)) := rfl
    rw [digit] at decimal
    simpa using decimal
  simp only [isBlank, Bool.or_eq_false_iff, Bool.and_eq_false_iff, decide_eq_false_iff_not,
    beq_eq_false_iff_ne]
  omega

/-- Numerals are written without white space at their ends. -/
theorem Numeral.bare (spells : Numeral numeral count) : numeral ≠ [] ∧ Bare isBlank numeral := by
  cases spells with
  | plain written decimal =>
    refine ⟨written, fun c first => ?_, fun c last => ?_⟩
    · exact isBlank_of_isDigit (decimal c (List.mem_of_mem_head? first))
    · exact isBlank_of_isDigit (decimal c (List.mem_of_getLast? last))
  | @signed digits written decimal =>
    refine ⟨List.cons_ne_nil _ _, fun c first => ?_, fun c last => ?_⟩
    · obtain rfl := Option.some.inj first
      decide
    · rw [List.getLast?_cons_of_ne_nil written] at last
      exact isBlank_of_isDigit (decimal c (List.mem_of_getLast? last))

/-- A text spells a number if it is a numeral with white space around it. -/
theorem countOfText?_eq_some_iff : countOfText? text = some count ↔
    ∃ numeral, Padded isBlank text.toList numeral ∧ Numeral numeral count ∧
      count ≤ maxTimeoutSeconds := by
  constructor
  · intro read
    have padded := padded_trim isBlank text.toList
    unfold countOfText? at read
    refine ⟨trimBlanks text.toList, padded, ?_⟩
    split at read
    · rename_i digits trimmed
      rw [trimmed]
      obtain ⟨written, decimal, rfl, fits⟩ := countOfDigits?_eq_some_iff.1 read
      exact ⟨.signed written decimal, fits⟩
    · obtain ⟨written, decimal, rfl, fits⟩ := countOfDigits?_eq_some_iff.1 read
      exact ⟨.plain written decimal, fits⟩
  · rintro ⟨numeral, padded, spells, fits⟩
    have trimmed : trimBlanks text.toList = numeral :=
      (trim_eq_iff spells.bare.1).2 ⟨spells.bare.2, padded⟩
    unfold countOfText?
    rw [trimmed]
    cases spells with
    | signed written decimal =>
      exact countOfDigits?_eq_some_iff.2 ⟨written, decimal, rfl, fits⟩
    | plain written decimal =>
      split
      -- A plus is no digit, so digits alone are not taken for a signed numeral.
      · rename_i digits
        cases decimal '+' List.mem_cons_self
      · exact countOfDigits?_eq_some_iff.2 ⟨written, decimal, rfl, fits⟩

/-- A text around a part that is not empty is not empty. -/
theorem isEmpty_of_padded {core : List Char} (padded : Padded isBlank text.toList core)
    (filled : core ≠ []) : ¬ text.isEmpty = true := by
  rw [String.isEmpty_iff, ← String.toList_eq_nil_iff]
  exact padded.ne_nil filled

end Spelled

/-- The table of an object of texts. -/
theorem textsOf?_eq_some_iff {members : Table Value} {texts : Table String} :
    textsOf? members = some texts ↔ members = Table.mapValues .string texts := by
  induction members generalizing texts with
  | nil =>
    rw [textsOf?, Table.mapValues]
    constructor
    · rintro ⟨⟩
      rfl
    · intro none
      rw [List.map_eq_nil_iff.1 none.symm]
  | cons member rest ih =>
    constructor
    · intro read
      unfold textsOf? at read
      split at read
      · cases ‹_ :: _ = []›
      · rename_i name text others same
        obtain ⟨rfl, rfl⟩ := List.cons.inj same
        obtain ⟨later, found, rfl⟩ := Option.map_eq_some_iff.1 read
        exact congrArg _ (ih.1 found)
      · cases read
    · intro same
      obtain ⟨first, later, rfl, rfl, rest⟩ := List.map_eq_cons_iff.1 same.symm
      rw [textsOf?, ih.2 rest.symm]
      rfl

/-! ### Keys are read as their values mean -/

/-- What is read of a key: the meaning of its value, or that it has none. -/
structure Meant {α : Type} (key expected : String) (reading : α → Prop)
    (result : Except Error α) : Prop where
  ok_iff : ∀ found, result = .ok found ↔ reading found
  error : ∀ error, result = .error error → error = .invalidValue key expected

/-- A value without a meaning is reported. -/
theorem Meant.error_iff {α : Type} {key expected : String} {reading : α → Prop}
    {result : Except Error α} (meant : Meant key expected reading result) {error : Error} :
    result = .error error ↔ (¬ ∃ found, reading found) ∧ error = .invalidValue key expected := by
  constructor
  · intro fails
    refine ⟨?_, meant.error error fails⟩
    rintro ⟨found, means⟩
    cases fails.symm.trans ((meant.ok_iff found).2 means)
  · rintro ⟨other, rfl⟩
    cases read : result with
    | ok found => exact absurd ⟨found, (meant.ok_iff found).1 read⟩ other
    | error error => rw [meant.error error read]

section Keys

variable {credentials : Table Value} {key : String}

theorem meant_optionalText : Meant key "a string" (TextReading (Table.get? key credentials))
    (optionalText credentials key) := by
  unfold optionalText
  generalize Table.get? key credentials = value
  refine ⟨fun found => ⟨fun read => ?_, fun means => ?_⟩, fun error read => ?_⟩
  · split at read
    · cases read
      exact .absent
    · cases read
      exact .null
    · rename_i text
      cases read
      by_cases empty : text = ""
      · rw [empty]
        exact .empty
      · rw [if_neg (by rwa [String.isEmpty_iff])]
        exact .given empty
    · cases read
  · cases means with
    | given filled => simp [filled]
    | _ => rfl
  · split at read <;> cases read
    rfl

/-- A text that must be present is missing, or has a value of another form. -/
theorem requiredText_eq_ok_iff {text : String} : requiredText credentials key = .ok text ↔
    TextReading (Table.get? key credentials) (some text) := by
  rw [← meant_optionalText.ok_iff]
  unfold requiredText
  rcases optionalText credentials key with error | _ | found <;> simp

theorem requiredText_eq_error_iff {error : Error} :
    requiredText credentials key = .error error ↔
      (TextReading (Table.get? key credentials) none ∧ error = .missingKey key) ∨
        (¬ ∃ found, TextReading (Table.get? key credentials) found) ∧
          error = .invalidValue key "a string" := by
  rw [← meant_optionalText.ok_iff, ← meant_optionalText.error_iff]
  unfold requiredText
  rcases optionalText credentials key with other | _ | found <;> simp [eq_comm]

/-- A flag that is read is what the value means. -/
theorem FlagReading.of_optionalFlag {found : Option Bool}
    (read : optionalFlag credentials key = .ok found) :
    FlagReading (Table.get? key credentials) found := by
  unfold optionalFlag at read
  generalize Table.get? key credentials = value at read ⊢
  dsimp only at read
  split at read
  · cases read
    exact .absent
  · cases read
    exact .null
  · cases read
    exact .given _
  · rename_i text
    split at read
    · rename_i empty
      cases read
      rw [String.isEmpty_iff.1 empty]
      exact .empty
    · split at read
      · rename_i flag spells
        cases read
        exact .spelled (flagOfText?_eq_some_iff.1 spells)
      · cases read
  · cases read

/-- What a value means as a flag is read. -/
theorem FlagReading.optionalFlag_eq {found : Option Bool}
    (means : FlagReading (Table.get? key credentials) found) :
    optionalFlag credentials key = .ok found := by
  unfold optionalFlag
  generalize Table.get? key credentials = value at means ⊢
  cases means with
  | @spelled text flag spells =>
    have filled : ¬ text.isEmpty = true := isEmpty_of_padded spells (bare_flag flag).1
    dsimp only
    rw [if_neg filled, flagOfText?_eq_some_iff.2 spells]
  | _ => rfl

theorem meant_optionalFlag : Meant key "a boolean or \"true\"/\"false\""
    (FlagReading (Table.get? key credentials)) (optionalFlag credentials key) where
  ok_iff found := ⟨FlagReading.of_optionalFlag, FlagReading.optionalFlag_eq⟩
  error error fails := by
    unfold optionalFlag at fails
    grind

theorem representable_of_get? (representable : Representable (.object credentials))
    {value : Value} (found : Table.get? key credentials = some value) : Representable value := by
  cases representable with
  | object every => exact every _ (Table.mem_of_get? found)

/-- A number that is read is what the value means: the integers of representable values are not
above the greatest timeout. -/
theorem CountReading.of_optionalCount (representable : Representable (.object credentials))
    {found : Option Nat} (read : optionalCount credentials key = .ok found) :
    CountReading (Table.get? key credentials) found := by
  have representable (value : Value) (given : Table.get? key credentials = some value) :=
    representable_of_get? representable given
  unfold optionalCount at read
  generalize Table.get? key credentials = value at representable read ⊢
  dsimp only at read
  split at read
  · cases read
    exact .absent
  · cases read
    exact .null
  · rename_i number
    split at read
    · rename_i natural
      cases read
      obtain ⟨count, rfl⟩ := Int.eq_ofNat_of_zero_le natural
      cases representable _ rfl with
      | integer least greatest => exact .given (Int.ofNat_le.1 greatest)
    · cases read
  · rename_i text
    split at read
    · rename_i empty
      cases read
      rw [String.isEmpty_iff.1 empty]
      exact .empty
    · split at read
      · rename_i count written
        cases read
        obtain ⟨numeral, padded, spells, fits⟩ := countOfText?_eq_some_iff.1 written
        exact .written padded spells fits
      · cases read
  · cases read

/-- What a value means as a number is read. -/
theorem CountReading.optionalCount_eq {found : Option Nat}
    (means : CountReading (Table.get? key credentials) found) :
    optionalCount credentials key = .ok found := by
  unfold optionalCount
  generalize Table.get? key credentials = value at means ⊢
  cases means with
  | given fits => exact if_pos (Int.natCast_nonneg _)
  | @written text numeral count padded spells fits =>
    have filled : ¬ text.isEmpty = true := isEmpty_of_padded padded spells.bare.1
    dsimp only
    rw [if_neg filled, countOfText?_eq_some_iff.2 ⟨numeral, padded, spells, fits⟩]
  | _ => rfl

theorem meant_optionalCount (representable : Representable (.object credentials)) :
    Meant key "a non-negative integer" (CountReading (Table.get? key credentials))
      (optionalCount credentials key) where
  ok_iff found := ⟨CountReading.of_optionalCount representable, CountReading.optionalCount_eq⟩
  error error fails := by
    unfold optionalCount at fails
    grind

/-- Headers that are read are what the value means. -/
theorem HeadersReading.of_headers {texts : Table String}
    (read : headers credentials key = .ok texts) :
    HeadersReading (Table.get? key credentials) texts := by
  unfold headers at read
  generalize Table.get? key credentials = value at read ⊢
  dsimp only at read
  split at read
  · cases read
    exact .absent
  · cases read
    exact .null
  · rename_i text
    split at read
    · rename_i blank
      cases read
      exact .blank (List.all_eq_true.1 blank)
    · rename_i filled
      split at read
      · rename_i texts checked
        cases read
        obtain ⟨members, denotes, texts⟩ := Option.bind_eq_some_iff.1 checked
        rw [textsOf?_eq_some_iff] at texts
        subst texts
        exact .written (fun blank => filled (List.all_eq_true.2 blank)) denotes
      · cases read
  · rename_i members
    split at read
    · rename_i texts checked
      cases read
      obtain rfl := textsOf?_eq_some_iff.1 checked
      exact .given _
    · cases read
  · cases read

/-- What a value means as headers is read. -/
theorem HeadersReading.headers_eq {texts : Table String}
    (means : HeadersReading (Table.get? key credentials) texts) :
    headers credentials key = .ok texts := by
  unfold headers
  generalize Table.get? key credentials = value at means ⊢
  dsimp only
  cases means with
  | absent => rfl
  | null => rfl
  | blank blank => exact if_pos (List.all_eq_true.2 blank)
  | given texts =>
    dsimp only
    rw [Option.bind_some, textsOf?_eq_some_iff.2 rfl]
  | @written text texts filled denotes =>
    have filled : ¬ allBlank text.toList = true := fun blank => filled (List.all_eq_true.1 blank)
    dsimp only
    rw [if_neg filled, denotes, Option.bind_some, textsOf?_eq_some_iff.2 rfl]

theorem meant_headers : Meant key "an object of strings"
    (HeadersReading (Table.get? key credentials)) (headers credentials key) where
  ok_iff found := ⟨HeadersReading.of_headers, HeadersReading.headers_eq⟩
  error error fails := by
    unfold headers at fails
    grind

end Keys

/-! ### Documents -/

/-- The settings that a document holds: what the values of its keys mean, with defaults for those
that are absent. -/
structure Reads (credentials : Table Value) (config : Config) : Prop where
  url : TextReading (Table.get? Key.url credentials) (some config.url)
  clientId : TextReading (Table.get? Key.clientId credentials) (some config.clientId)
  basePath : ∃ found, TextReading (Table.get? Key.basePath credentials) found ∧
    config.basePath = found.getD ""
  clientSecret : TextReading (Table.get? Key.clientSecret credentials) config.clientSecret
  username : TextReading (Table.get? Key.username credentials) config.username
  password : TextReading (Table.get? Key.password credentials) config.password
  realm : ∃ found, TextReading (Table.get? Key.realm credentials) found ∧
    config.realm = found.getD defaultRealm
  initialLogin : ∃ found, FlagReading (Table.get? Key.initialLogin credentials) found ∧
    config.initialLogin = found.getD true
  timeout : ∃ found, CountReading (Table.get? Key.timeout credentials) found ∧
    config.timeoutSeconds = found.getD defaultTimeoutSeconds
  skipVerification : ∃ found, FlagReading (Table.get? Key.skipVerification credentials) found ∧
    config.skipVerification = found.getD false
  rootCertificate : TextReading (Table.get? Key.rootCertificate credentials) config.rootCertificate
  additionalHeaders :
    HeadersReading (Table.get? Key.additionalHeaders credentials) config.additionalHeaders

/-- The documents that hold settings: the server and the client are named, and the value of every
other key has a meaning. -/
structure Usable (credentials : Table Value) : Prop where
  required : ∀ key ∈ [Key.url, Key.clientId],
    ∃ text, text ≠ "" ∧ Table.get? key credentials = some (.string text)
  texts : ∀ key ∈ [Key.basePath, Key.clientSecret, Key.username, Key.password, Key.realm,
    Key.rootCertificate], ∃ found, TextReading (Table.get? key credentials) found
  flags : ∀ key ∈ [Key.initialLogin, Key.skipVerification],
    ∃ found, FlagReading (Table.get? key credentials) found
  timeout : ∃ found, CountReading (Table.get? Key.timeout credentials) found
  headers : ∃ found, HeadersReading (Table.get? Key.additionalHeaders credentials) found

/-- The forms of values. -/
inductive Form
  | required
  | text
  | flag
  | count
  | headers
deriving DecidableEq

/-- What is expected of a value of a form. -/
def Form.expected : Form → String
  | required | text => "a string"
  | flag => "a boolean or \"true\"/\"false\""
  | count => "a non-negative integer"
  | headers => "an object of strings"

/-- The values of a form. -/
def Form.Readable (value : Option Value) : Form → Prop
  | required | text => ∃ found, TextReading value found
  | flag => ∃ found, FlagReading value found
  | count => ∃ found, CountReading value found
  | headers => ∃ found, HeadersReading value found

/-- The known keys with their forms, in the order in which they are read. -/
def fields : List (String × Form) :=
  [(Key.url, .required), (Key.clientId, .required), (Key.basePath, .text),
    (Key.clientSecret, .text), (Key.username, .text), (Key.password, .text), (Key.realm, .text),
    (Key.initialLogin, .flag), (Key.timeout, .count), (Key.skipVerification, .flag),
    (Key.rootCertificate, .text), (Key.additionalHeaders, .headers)]

/-- What can be wrong with a key: a required one is absent, null or empty, or its value has another
form. -/
inductive Fault (credentials : Table Value) : String × Form → Error → Prop
  | unset {key : String} (unset : TextReading (Table.get? key credentials) none) :
      Fault credentials (key, .required) (.missingKey key)
  | unreadable {key : String} {form : Form}
      (other : ¬ form.Readable (Table.get? key credentials)) :
      Fault credentials (key, form) (.invalidValue key form.expected)

/-- The error that a result is. -/
def error? {α : Type} : Except Error α → Option Error
  | .ok _ => none
  | .error error => some error

/-- The error of a key, if its value is unusable. -/
def fault? (credentials : Table Value) (field : String × Form) : Option Error :=
  match field.2 with
  | .required => error? (requiredText credentials field.1)
  | .text => error? (optionalText credentials field.1)
  | .flag => error? (optionalFlag credentials field.1)
  | .count => error? (optionalCount credentials field.1)
  | .headers => error? (headers credentials field.1)

/-- Whether the same is read of a key in two documents. -/
def Form.Agrees (credentials other : Table Value) (key : String) : Form → Prop
  | required => requiredText other key = requiredText credentials key
  | text => optionalText other key = optionalText credentials key
  | flag => optionalFlag other key = optionalFlag credentials key
  | count => optionalCount other key = optionalCount credentials key
  | headers => Config.headers other key = Config.headers credentials key

section Documents

variable {credentials : Table Value} {config : Config} {error : Error}

theorem error?_eq_some_iff {α : Type} {result : Except Error α} :
    error? result = some error ↔ result = .error error := by
  cases result with
  | ok value => exact iff_of_false nofun nofun
  | error other => simp [error?]

theorem error?_bind {α β : Type} {first : Except Error α} {next : α → Except Error β}
    {rest : Option Error} (follows : ∀ found, first = .ok found → error? (next found) = rest) :
    error? (first >>= next) = (error? first).or rest := by
  cases first with
  | error error => rfl
  | ok found => exact follows found rfl

/-- Keys are read one after the other, and the first error ends the reading. -/
theorem error?_ofCredentials (credentials : Table Value) :
    error? (ofCredentials credentials) =
      fields.foldr (fun field rest => (fault? credentials field).or rest) none := by
  unfold ofCredentials
  refine error?_bind fun url _ => error?_bind fun clientId _ => error?_bind fun basePath _ => ?_
  refine error?_bind fun secret _ => error?_bind fun username _ => error?_bind fun password _ => ?_
  refine error?_bind fun realm _ => error?_bind fun login _ => error?_bind fun timeout _ => ?_
  refine error?_bind fun skip _ => error?_bind fun root _ => error?_bind fun headers _ => rfl

theorem foldr_or_eq_findSome? (check : String × Form → Option Error)
    (keys : List (String × Form)) :
    keys.foldr (fun field rest => (check field).or rest) none = keys.findSome? check := by
  induction keys with
  | nil => rfl
  | cons field rest ih =>
    rw [List.foldr_cons, List.findSome?_cons, ih]
    cases check field <;> rfl

/-! ### Faults -/

/-- A key has an error exactly if it has that fault. -/
theorem fault?_eq_some_iff (representable : Representable (.object credentials))
    {field : String × Form} : fault? credentials field = some error ↔
      Fault credentials field error := by
  have unreadable {key : String} (form : Form) (plain : form ≠ .required) :
      (¬ form.Readable (Table.get? key credentials)) ∧ error = .invalidValue key form.expected ↔
        Fault credentials (key, form) error := by
    constructor
    · rintro ⟨other, rfl⟩
      exact .unreadable other
    · intro fault
      cases fault with
      | unset => exact absurd rfl plain
      | unreadable other => exact ⟨other, rfl⟩
  obtain ⟨key, form⟩ := field
  cases form with
  | required =>
    refine error?_eq_some_iff.trans (requiredText_eq_error_iff.trans ?_)
    constructor
    · rintro (⟨unset, rfl⟩ | ⟨other, rfl⟩)
      · exact .unset unset
      · exact .unreadable other
    · intro fault
      cases fault with
      | unset unset => exact .inl ⟨unset, rfl⟩
      | unreadable other => exact .inr ⟨other, rfl⟩
  | text =>
    exact error?_eq_some_iff.trans (meant_optionalText.error_iff.trans (unreadable .text nofun))
  | flag =>
    exact error?_eq_some_iff.trans (meant_optionalFlag.error_iff.trans (unreadable .flag nofun))
  | count =>
    have meant : Meant key _ _ (optionalCount credentials key) := meant_optionalCount representable
    exact error?_eq_some_iff.trans (meant.error_iff.trans (unreadable .count nofun))
  | headers =>
    exact error?_eq_some_iff.trans (meant_headers.error_iff.trans (unreadable .headers nofun))

/-- The first fault of a document is reported. -/
theorem ofCredentials_eq_error_iff (representable : Representable (.object credentials)) :
    ofCredentials credentials = .error error ↔
      ∃ before field after, fields = before ++ field :: after ∧
        (∀ earlier ∈ before, ∀ other, ¬ Fault credentials earlier other) ∧
          Fault credentials field error := by
  have faultless (field : String × Form) : fault? credentials field = none ↔
      ∀ other, ¬ Fault credentials field other := by
    rw [Option.eq_none_iff_forall_ne_some]
    exact forall_congr' fun other => not_congr (fault?_eq_some_iff representable)
  rw [← error?_eq_some_iff, error?_ofCredentials, foldr_or_eq_findSome?,
    List.findSome?_eq_some_iff]
  simp only [faultless, fault?_eq_some_iff representable, and_comm]

/-- A key without a fault has a value of its form. -/
theorem readable_of_faultless {key : String} {form : Form}
    (faultless : ∀ error, ¬ Fault credentials (key, form) error) :
    form.Readable (Table.get? key credentials) := by
  by_contra other
  exact faultless _ (.unreadable other)

theorem named_of_faultless {key : String}
    (faultless : ∀ error, ¬ Fault credentials (key, .required) error) :
    ∃ text, text ≠ "" ∧ Table.get? key credentials = some (.string text) := by
  obtain ⟨found, means⟩ := readable_of_faultless faultless
  generalize value : Table.get? key credentials = given at means
  cases means with
  | given filled => exact ⟨_, filled, rfl⟩
  | _ => exact absurd (.unset (by rw [value]; constructor)) (faultless _)

/-- A document without faults is usable. -/
theorem usable_of_faultless
    (faultless : ∀ field ∈ fields, ∀ error, ¬ Fault credentials field error) :
    Usable credentials where
  required key listed := by
    have every : ∀ key ∈ [Key.url, Key.clientId], (key, Form.required) ∈ fields := by decide
    exact named_of_faultless (faultless _ (every key listed))
  texts key listed := by
    have every : ∀ key ∈ [Key.basePath, Key.clientSecret, Key.username, Key.password, Key.realm,
      Key.rootCertificate], (key, Form.text) ∈ fields := by decide
    exact readable_of_faultless (faultless _ (every key listed))
  flags key listed := by
    have every : ∀ key ∈ [Key.initialLogin, Key.skipVerification],
      (key, Form.flag) ∈ fields := by decide
    exact readable_of_faultless (faultless _ (every key listed))
  timeout := readable_of_faultless (faultless (Key.timeout, .count) (by decide))
  headers := readable_of_faultless (faultless (Key.additionalHeaders, .headers) (by decide))

/-! ### Settings -/

/-- A usable document holds settings. -/
theorem Usable.exists_reads (usable : Usable credentials) : ∃ config, Reads credentials config := by
  have named {key : String} (listed : key ∈ [Key.url, Key.clientId]) :
      ∃ text, TextReading (Table.get? key credentials) (some text) := by
    obtain ⟨text, filled, value⟩ := usable.required key listed
    exact ⟨text, value ▸ .given filled⟩
  obtain ⟨url, readUrl⟩ := named (by decide : Key.url ∈ _)
  obtain ⟨clientId, readClient⟩ := named (by decide : Key.clientId ∈ _)
  obtain ⟨basePath, readBase⟩ := usable.texts Key.basePath (by decide)
  obtain ⟨clientSecret, readSecret⟩ := usable.texts Key.clientSecret (by decide)
  obtain ⟨username, readUsername⟩ := usable.texts Key.username (by decide)
  obtain ⟨password, readPassword⟩ := usable.texts Key.password (by decide)
  obtain ⟨realm, readRealm⟩ := usable.texts Key.realm (by decide)
  obtain ⟨login, readLogin⟩ := usable.flags Key.initialLogin (by decide)
  obtain ⟨timeout, readTimeout⟩ := usable.timeout
  obtain ⟨skip, readSkip⟩ := usable.flags Key.skipVerification (by decide)
  obtain ⟨root, readRoot⟩ := usable.texts Key.rootCertificate (by decide)
  obtain ⟨headers, readHeaders⟩ := usable.headers
  exact ⟨⟨url, basePath.getD "", clientId, clientSecret, username, password,
      realm.getD defaultRealm, login.getD true, timeout.getD defaultTimeoutSeconds,
      skip.getD false, root, headers⟩,
    { url := readUrl
      clientId := readClient
      basePath := ⟨basePath, readBase, rfl⟩
      clientSecret := readSecret
      username := readUsername
      password := readPassword
      realm := ⟨realm, readRealm, rfl⟩
      initialLogin := ⟨login, readLogin, rfl⟩
      timeout := ⟨timeout, readTimeout, rfl⟩
      skipVerification := ⟨skip, readSkip, rfl⟩
      rootCertificate := readRoot
      additionalHeaders := readHeaders }⟩

/-- A document is read as the settings that it holds. -/
theorem Reads.ofCredentials_eq (representable : Representable (.object credentials))
    (reads : Reads credentials config) : ofCredentials credentials = .ok config := by
  obtain ⟨_, _, _, _, _, _, _, _, _, _, _, _⟩ := config
  obtain ⟨readUrl, readClient, ⟨basePath, readBase, rfl⟩, readSecret, readUsername, readPassword,
    ⟨realm, readRealm, rfl⟩, ⟨login, readLogin, rfl⟩, ⟨timeout, readTimeout, rfl⟩,
    ⟨skip, readSkip, rfl⟩, readRoot, readHeaders⟩ := reads
  unfold ofCredentials
  rw [requiredText_eq_ok_iff.2 readUrl, requiredText_eq_ok_iff.2 readClient,
    (meant_optionalText.ok_iff _).2 readBase, (meant_optionalText.ok_iff _).2 readSecret,
    (meant_optionalText.ok_iff _).2 readUsername, (meant_optionalText.ok_iff _).2 readPassword,
    (meant_optionalText.ok_iff _).2 readRealm, (meant_optionalFlag.ok_iff _).2 readLogin,
    ((meant_optionalCount representable).ok_iff _).2 readTimeout,
    (meant_optionalFlag.ok_iff _).2 readSkip, (meant_optionalText.ok_iff _).2 readRoot,
    (meant_headers.ok_iff _).2 readHeaders]
  rfl

/-- A document that is read is usable. -/
theorem usable_of_ofCredentials (representable : Representable (.object credentials))
    (read : ofCredentials credentials = .ok config) : Usable credentials := by
  refine usable_of_faultless fun field listed error fault => ?_
  have fails : (fields.findSome? (fault? credentials)).isSome = true :=
    List.findSome?_isSome_iff.2 ⟨field, listed,
      Option.isSome_of_eq_some ((fault?_eq_some_iff representable).2 fault)⟩
  rw [← foldr_or_eq_findSome?, ← error?_ofCredentials, read] at fails
  cases fails

/-- The settings that are read are those that the document holds. -/
theorem ofCredentials_eq_ok_iff (representable : Representable (.object credentials)) :
    ofCredentials credentials = .ok config ↔ Reads credentials config := by
  refine ⟨fun read => ?_, fun reads => reads.ofCredentials_eq representable⟩
  obtain ⟨other, reads⟩ := (usable_of_ofCredentials representable read).exists_reads
  obtain rfl := Except.ok.inj (read.symm.trans (reads.ofCredentials_eq representable))
  exact reads

/-- The settings of a text are those that the document holds that it denotes. -/
theorem ofText_eq_ok_iff {path : String} {text : List Char} :
    ofText path text = .ok config ↔
      ∃ credentials, readObject? text = some credentials ∧ Reads credentials config := by
  unfold ofText
  cases document : readObject? text with
  | none => exact iff_of_false nofun nofun
  | some credentials =>
    rw [ofCredentials_eq_ok_iff (representable_of_readObject? document)]
    refine ⟨fun reads => ⟨credentials, rfl, reads⟩, ?_⟩
    rintro ⟨_, ⟨⟩, reads⟩
    exact reads

/-- Documents that agree in what is read of their keys hold the same settings. -/
theorem ofCredentials_eq_of_agrees {other : Table Value}
    (agrees : ∀ field ∈ fields, field.2.Agrees credentials other field.1) :
    ofCredentials other = ofCredentials credentials := by
  simp only [fields, List.forall_mem_cons, Form.Agrees] at agrees
  obtain ⟨url, clientId, basePath, clientSecret, username, password, realm, initialLogin, timeout,
    skipVerification, rootCertificate, additionalHeaders, -⟩ := agrees
  unfold ofCredentials
  rw [url, clientId, basePath, clientSecret, username, password, realm, initialLogin, timeout,
    skipVerification, rootCertificate, additionalHeaders]

/-- The same is read of a key with the same value. -/
theorem Form.agrees_of_eq {other : Table Value} {key : String} (form : Form)
    (same : Table.get? key other = Table.get? key credentials) :
    form.Agrees credentials other key := by
  have text : optionalText other key = optionalText credentials key := by
    rw [optionalText, same, optionalText]
  cases form with
  | required => rw [Form.Agrees, requiredText, text, requiredText]
  | text => exact text
  | flag => rw [Form.Agrees, optionalFlag, same, optionalFlag]
  | count => rw [Form.Agrees, optionalCount, same, optionalCount]
  | headers => rw [Form.Agrees, Config.headers, same, Config.headers]

/-- Only the known keys count. -/
theorem ofCredentials_congr {other : Table Value}
    (same : ∀ field ∈ fields, Table.get? field.1 other = Table.get? field.1 credentials) :
    ofCredentials other = ofCredentials credentials :=
  ofCredentials_eq_of_agrees fun field listed => field.2.agrees_of_eq (same field listed)

/-- A document is read exactly if it is usable, and then as the settings that it holds.  Otherwise
the first fault is reported, in the order of the keys.  Keys that are not known do not count. -/
theorem ofCredentials_acceptance (representable : Representable (.object credentials)) :
    ((∃ config, ofCredentials credentials = .ok config) ↔ Usable credentials) ∧
    (∀ config, ofCredentials credentials = .ok config ↔ Reads credentials config) ∧
    (∀ error, ofCredentials credentials = .error error ↔
      ∃ before field after, fields = before ++ field :: after ∧
        (∀ earlier ∈ before, ∀ other, ¬ Fault credentials earlier other) ∧
          Fault credentials field error) ∧
    ∀ other : Table Value,
      (∀ field ∈ fields, Table.get? field.1 other = Table.get? field.1 credentials) →
        ofCredentials other = ofCredentials credentials := by
  refine ⟨⟨?_, fun usable => ?_⟩, fun config => ofCredentials_eq_ok_iff representable,
    fun error => ofCredentials_eq_error_iff representable, fun other => ofCredentials_congr⟩
  · rintro ⟨config, read⟩
    exact usable_of_ofCredentials representable read
  · obtain ⟨config, reads⟩ := usable.exists_reads
    exact ⟨config, reads.ofCredentials_eq representable⟩

end Documents

/-- A document whose flag, timeout and headers are given as texts, with a key that is not known. -/
def spelledDocument : Table Value :=
  [(Key.additionalHeaders, .string "\x7b\"x\": \"y\"\x7d"), (Key.clientId, .string "cli"),
    (Key.timeout, .string " +20 "), (Key.initialLogin, .string " false"),
    ("note", .number (.integer 7)), (Key.url, .string "http://localhost")]

/-- The settings that it holds. -/
def spelledSettings : Config where
  url := "http://localhost"
  basePath := ""
  clientId := "cli"
  clientSecret := none
  username := none
  password := none
  realm := "master"
  initialLogin := false
  timeoutSeconds := 20
  skipVerification := false
  rootCertificate := none
  additionalHeaders := [("x", "y")]

theorem ofCredentials_acceptance_spelledDocument :
    Representable (.object spelledDocument) ∧ Usable spelledDocument ∧
    Reads spelledDocument spelledSettings ∧
    ofCredentials (spelledDocument.eraseIdx 4) = ofCredentials spelledDocument := by
  have representable : Representable (.object spelledDocument) := by
    refine .object ?_
    simp only [spelledDocument, List.forall_mem_cons]
    exact ⟨.string _, .string _, .string _, .string _, .integer (by decide) (by decide),
      .string _, nofun⟩
  obtain ⟨accepted, read, -, known⟩ := ofCredentials_acceptance representable
  have settings : ofCredentials spelledDocument = .ok spelledSettings := by decide +kernel
  refine ⟨representable, accepted.1 ⟨_, settings⟩, (read _).1 settings, known _ ?_⟩
  simp only [fields, List.forall_mem_cons]
  exact ⟨rfl, rfl, rfl, rfl, rfl, rfl, rfl, rfl, rfl, rfl, rfl, rfl, nofun⟩

end RealmLookup.Config
