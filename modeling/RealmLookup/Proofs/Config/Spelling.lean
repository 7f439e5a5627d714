import RealmLookup.Proofs.Config.Acceptance
import RealmLookup.Proofs.Json.Reading
import RealmLookup.Proofs.Json.Shape

/-!
# Values given as texts

Documents that are restricted to texts mean the same as documents with values of other types: a flag
may be replaced by its name, the timeout by its digits, the headers by any JSON text of them, and
null by the empty text.

## Main definitions

* `Config.Form.Spelling` : the texts that may stand in place of the values of a form.
* `Config.Respelled` : entries of which one may have a text in place of the value of the other.

## Main results

* `Config.readObject?_of_tableShape` : a JSON text of a table of texts is read as that table.
* `Config.ofCredentials_respelled` : a document means the same with texts in place of values.
-/

namespace RealmLookup.Config

open RealmLookup.Json RealmLookup.Text

/-- The texts that may stand in place of the values of a form.  A flag or a number may have white
space around it, and headers may be any JSON text that shows them. -/
inductive Form.Spelling : Form → Value → String → Prop
  | flag {flag : Bool} {text : String}
      (spells : Padded isBlank text.toList (toString flag).toList) :
      Spelling .flag (.bool flag) text
  | count {count : Nat} {numeral : List Char} {text : String} (fits : count ≤ maxTimeoutSeconds)
      (padded : Padded isBlank text.toList numeral) (spells : Numeral numeral count) :
      Spelling .count (.number (.integer count)) text
  | headers {texts : Table String} {tree : Tree} {text : String}
      (shows : TableShape TextShape nesting texts tree) (spells : tree.Spells text.toList) :
      Spelling .headers (.object (Table.mapValues .string texts)) text

/-- The second entry is the first one, or has a text in place of its value. -/
inductive Respelled : String × Value → String × Value → Prop
  | same (entry : String × Value) : Respelled entry entry
  | null (key : String) : Respelled (key, .null) (key, .string "")
  | spelled {key text : String} {form : Form} {value : Value} (known : (key, form) ∈ fields)
      (spelling : form.Spelling value text) : Respelled (key, value) (key, .string text)

/-! ### JSON texts of tables -/

section Tables

variable {depth : Nat} {tree : Tree}

theorem value?_of_textShape {text : String} (shows : TextShape depth text tree) :
    tree.value? depth = some (.string text) := by
  cases shows with
  | intro denotes =>
    rw [Tree.value?, text?_of_denotes denotes]
    exact congrArg (fun text => some (Value.string text)) String.ofList_toList

theorem membersOf?_of_texts {entries : List (String × String)}
    {members : List (List Piece × Tree)}
    (shows : List.Forall₂ (EntryShape TextShape depth) entries members) :
    membersOf? depth members = some (Table.mapValues .string entries) := by
  induction shows with
  | nil => rw [membersOf?]; rfl
  | cons first rest ih =>
    rw [membersOf?, text?_of_denotes first.name, value?_of_textShape first.value, ih]
    simp only [String.ofList_toList]
    rfl

/-- A JSON text of a table of texts is read as that table. -/
theorem readObject?_of_tableShape {texts : Table String} {text : List Char}
    (shows : TableShape TextShape nesting texts tree) (spells : tree.Spells text) :
    readObject? text = some (Table.mapValues .string texts) := by
  cases shows with
  | intro shows gathers =>
    have value : Value.read? text = some (.object (Table.mapValues .string texts)) := by
      rw [Value.read?, Tree.read?_of_spells spells, Option.bind_some, nesting, Tree.value?,
        membersOf?_of_texts shows, Option.map_some, (gathers.mapValues _).ofEntries_eq]
    rw [readObject?, value]

/-- A JSON text of an object is not blank, for it has a brace. -/
theorem not_blank_of_spells {members : List (List Piece × Tree)} {text : List Char}
    (spells : (Tree.object members).Spells text) : ¬ ∀ c ∈ text, isBlank c = true := by
  intro blank
  have opens : ∃ tokens, (Tree.object members).tokens = .openObject :: tokens := by
    cases members <;> exact ⟨_, by rw [Tree.tokens]⟩
  obtain ⟨tokens, opens⟩ := opens
  rw [Tree.Spells, opens] at spells
  cases spells with
  | token _ written _ =>
    cases written with
    | openObject => cases blank '{' (by simp)

end Tables

/-! ### Values with one meaning -/

/-- The values of a form that mean the same. -/
def Form.SameMeaning (value other : Option Value) : Form → Prop
  | required | text => ∃ found, TextReading value found ∧ TextReading other found
  | flag => ∃ found, FlagReading value found ∧ FlagReading other found
  | count => ∃ found, CountReading value found ∧ CountReading other found
  | headers => ∃ found, HeadersReading value found ∧ HeadersReading other found

/-- The empty text means the same as null. -/
theorem Form.sameMeaning_null (form : Form) :
    form.SameMeaning (some .null) (some (.string "")) := by
  cases form with
  | required | text => exact ⟨none, .null, .empty⟩
  | flag => exact ⟨none, .null, .empty⟩
  | count => exact ⟨none, .null, .empty⟩
  | headers => exact ⟨[], .null, .blank (List.forall_mem_nil _)⟩

/-- A text means the same as the value that it spells. -/
theorem Form.Spelling.sameMeaning {form : Form} {value : Value} {text : String}
    (spelling : form.Spelling value text) :
    form.SameMeaning (some value) (some (.string text)) := by
  cases spelling with
  | flag spells => exact ⟨_, .given _, .spelled spells⟩
  | count fits padded spells => exact ⟨_, .given fits, .written padded spells fits⟩
  | headers shows spells =>
    have denotes := readObject?_of_tableShape shows spells
    cases shows with
    | intro => exact ⟨_, .given _, .written (not_blank_of_spells spells) denotes⟩

section Documents

variable {credentials other : Table Value} {key : String} {form : Form}

/-- The same is read of a key if its values mean the same. -/
theorem Form.SameMeaning.agrees
    (same : form.SameMeaning (Table.get? key credentials) (Table.get? key other)) :
    form.Agrees credentials other key := by
  cases form with
  | required =>
    obtain ⟨found, first, second⟩ := same
    rw [Form.Agrees, requiredText, (meant_optionalText.ok_iff _).2 second, requiredText,
      (meant_optionalText.ok_iff _).2 first]
  | text =>
    obtain ⟨found, first, second⟩ := same
    rw [Form.Agrees, (meant_optionalText.ok_iff _).2 second, (meant_optionalText.ok_iff _).2 first]
  | flag =>
    obtain ⟨found, first, second⟩ := same
    rw [Form.Agrees, second.optionalFlag_eq, first.optionalFlag_eq]
  | count =>
    obtain ⟨found, first, second⟩ := same
    rw [Form.Agrees, second.optionalCount_eq, first.optionalCount_eq]
  | headers =>
    obtain ⟨found, first, second⟩ := same
    rw [Form.Agrees, second.headers_eq, first.headers_eq]

/-- Each key has one form. -/
theorem form_unique {another : Form} (known : (key, form) ∈ fields)
    (listed : (key, another) ∈ fields) : another = form := by
  have distinct : (fields.map Prod.fst).Nodup := by decide
  exact congrArg Prod.snd (List.inj_on_of_nodup_map distinct listed known rfl)

/-- A key has the same value, or one with the same meaning. -/
theorem same_of_respelled (respelled : List.Forall₂ Respelled credentials other)
    (known : (key, form) ∈ fields) :
    Table.get? key other = Table.get? key credentials ∨
      form.SameMeaning (Table.get? key credentials) (Table.get? key other) := by
  induction respelled with
  | nil => exact .inl rfl
  | cons first rest ih =>
    cases first with
    | same entry =>
      rw [Table.get?, Table.get?]
      split
      · exact .inl rfl
      · exact ih
    | null name =>
      rw [Table.get?, Table.get?]
      split
      · exact .inr form.sameMeaning_null
      · exact ih
    | spelled listed spelling =>
      rw [Table.get?, Table.get?]
      split
      · rename_i same
        obtain rfl := form_unique known (same ▸ listed)
        exact .inr spelling.sameMeaning
      · exact ih

/-- A document means the same with texts in place of any of its values. -/
theorem ofCredentials_respelled (respelled : List.Forall₂ Respelled credentials other) :
    ofCredentials other = ofCredentials credentials := by
  refine ofCredentials_eq_of_agrees fun field listed => ?_
  rcases same_of_respelled respelled listed with same | same
  · exact field.2.agrees_of_eq same
  · exact same.agrees

end Documents

/-- A document with values of all types. -/
def nativeDocument : Table Value :=
  [(Key.additionalHeaders, .object [("a", .string "\u00e9"), ("b", .string "2")]),
    (Key.clientId, .string "cli"), (Key.timeout, .number (.integer 20)),
    (Key.initialLogin, .bool false), (Key.password, .null), (Key.url, .string "http://localhost")]

/-- The document with texts only. -/
def textDocument : Table Value :=
  [(Key.additionalHeaders, .string "\x7b\"b\":\"2\",\"a\":\"\\u00E9\"\x7d"),
    (Key.clientId, .string "cli"), (Key.timeout, .string " +020\n"),
    (Key.initialLogin, .string "\tfalse"), (Key.password, .string ""),
    (Key.url, .string "http://localhost")]

/-- The tree of its headers. -/
def headersTree : Tree :=
  .object [(['b'].map .scalar, .string (['2'].map .scalar)),
    (['a'].map .scalar, .string [.unit 0xE9])]

theorem spelling_textDocument : Form.headers.Spelling
    (.object [("a", .string "\u00e9"), ("b", .string "2")])
    "\x7b\"b\":\"2\",\"a\":\"\\u00E9\"\x7d" := by
  have plain {text : String} {c : Char} (same : text = String.singleton c) :
      Denotes ([c].map .scalar) text.toList := by
    rw [same, String.toList_singleton]
    exact denotes_map_scalar [c]
  refine @Form.Spelling.headers [("a", "\u00e9"), ("b", "2")] headersTree _ ?_ ?_
  · have escaped : Denotes [.unit 0xE9] "\u00e9".toList :=
      @Denotes.unit 'é' [] [] (by decide) .nil
    refine .intro (.cons ⟨plain rfl, .intro (plain rfl)⟩ (.cons ⟨plain rfl, .intro escaped⟩ .nil))
      (Table.gathers_of_perm ?_ (.swap _ _ _))
    exact List.pairwise_pair.2 (by decide)
  · have quoted (c : Char) (printable : 0x20 ≤ c.toNat ∧ c ≠ '"' ∧ c ≠ '\\') :
        TokenText ['"', c, '"'] (.string ([c].map .scalar)) :=
      .string (stringText_map_scalar (List.forall_mem_singleton.2 printable))
    have escaped : StringText ['\\', 'u', '0', '0', 'E', '9'] [.unit 0xE9] :=
      .unit (.lower (n := 0) (by decide)) (.lower (n := 0) (by decide))
        (.upper (n := 14) (by decide)) (.lower (n := 9) (by decide)) .nil
    exact spelled_flatten (.cons .openObject (.cons (quoted 'b' (by decide)) (.cons .colon
      (.cons (quoted '2' (by decide)) (.cons .comma (.cons (quoted 'a' (by decide)) (.cons .colon
        (.cons (.string escaped) (.cons .closeObject .nil)))))))))

theorem ofCredentials_respelled_textDocument :
    List.Forall₂ Respelled nativeDocument textDocument ∧
      ofCredentials textDocument = ofCredentials nativeDocument := by
  have timeout : Form.count.Spelling (.number (.integer 20)) " +020\n" :=
    .count (by decide)
      ⟨[' '], ['\n'], rfl, List.forall_mem_singleton.2 rfl, List.forall_mem_singleton.2 rfl⟩
      (@Numeral.signed ['0', '2', '0'] (List.cons_ne_nil _ _) (by simp))
  have login : Form.flag.Spelling (.bool false) "\tfalse" :=
    .flag ⟨['\t'], [], rfl, List.forall_mem_singleton.2 rfl, List.forall_mem_nil _⟩
  have respelled : List.Forall₂ Respelled nativeDocument textDocument := by
    refine .cons (.spelled (by decide) spelling_textDocument) (.cons (.same _)
      (.cons (.spelled (by decide) timeout) (.cons (.spelled (by decide) login)
        (.cons (.null _) (.cons (.same _) .nil)))))
  exact ⟨respelled, ofCredentials_respelled respelled⟩

end RealmLookup.Config
