import RealmLookup.Proofs.Yaml.Quoted
import RealmLookup.Yaml.Scanner

/-!
# Scanning flow collections

Inside a flow collection that is written as JSON text the scanner goes on token by token: no block
is ever opened, so that no key must be one, and a key is one without a mark exactly if it is in one
line and not too long.

## Main definitions

* `Yaml.Scanner.Gives` : the result of scanning, whatever the fuel.
* `Yaml.Scanner.Flowing` : scanners that are in no block.
* `Yaml.Scanner.Passes` : texts that are passed inside a flow collection, with their tokens.
* `Yaml.Scanner.keyTokens` : the tokens of a key, with a mark in front of it if it fits.

## Main results

* `Yaml.Scanner.gives_of_scanToken?` : one token is scanned, and then the others.
* `Yaml.Scanner.Passes.append`, `Yaml.Scanner.Passes.entry`, `Yaml.Scanner.Passes.brackets` :
  texts that are passed are composed.
* `Yaml.Scanner.Passes.quoted`, `Yaml.Scanner.Passes.member`, `Yaml.Scanner.Passes.plain` : strings,
  members of objects and words are passed.
-/

namespace RealmLookup.Yaml

open RealmLookup.Json

/-- Items for each of which a value is returned at once. -/
theorem mapM_eq_pure {m : Type → Type} [Monad m] [LawfulMonad m] {α β : Type} {f : α → m β}
    {g : α → β} {items : List α} (each : ∀ item ∈ items, f item = pure (g item)) :
    items.mapM f = pure (items.map g) := by
  induction items with
  | nil => rw [List.mapM_nil, List.map_nil]
  | cons item rest ih =>
    obtain ⟨first, later⟩ := List.forall_mem_cons.1 each
    rw [List.mapM_cons, first, ih later, pure_bind, pure_bind, List.map_cons]

namespace Scanner

variable {scanner : Scanner} {glyph : Glyph} {rest : List Glyph} {result : Option (List Token)}

/-! ### Steps -/

/-- Scanning gives a result, with any fuel that is enough. -/
def Gives (scanner : Scanner) (result : Option (List Token)) : Prop :=
  ∀ fuel, scanner.text.length < fuel → run? fuel scanner = result

/-- Scanners that are in no block, so that no key must be one. -/
structure Flowing (scanner : Scanner) : Prop where
  level : scanner.indents = []
  loose : ∀ key ∈ scanner.key, key.required = false
  outer : ∀ outerKey ∈ scanner.outerKeys, ∀ key ∈ outerKey, key.required = false

theorem flowing_start (text : List Glyph) : (start text).Flowing :=
  ⟨rfl, fun _ found => (Option.not_mem_none _ found).elim, List.forall_mem_nil _⟩

/-- A key, unless it began too far away. -/
def kept (glyph : Glyph) (key : Option SimpleKey) : Option SimpleKey :=
  key.filter fun key => !key.isStale glyph

/-- The scanner without the keys that began too far away. -/
def refresh (scanner : Scanner) (glyph : Glyph) : Scanner :=
  { scanner with key := kept glyph scanner.key, outerKeys := scanner.outerKeys.map (kept glyph) }

theorem dropStale?_of_loose {key : Option SimpleKey}
    (loose : ∀ found ∈ key, found.required = false) :
    dropStale? glyph key = some (kept glyph key) := by
  cases key with
  | none => rfl
  | some key =>
    rw [dropStale?, kept, Option.filter_some, loose key rfl]
    cases key.isStale glyph <;> rfl

theorem dropStaleKeys?_of_flowing (flowing : scanner.Flowing) :
    scanner.dropStaleKeys? glyph = some (scanner.refresh glyph) := by
  have outer : scanner.outerKeys.mapM (dropStale? glyph) =
      some (scanner.outerKeys.map (kept glyph)) :=
    mapM_eq_pure fun key listed => dropStale?_of_loose (flowing.outer key listed)
  rw [dropStaleKeys?, dropStale?_of_loose flowing.loose, outer]
  rfl

theorem kept_loose {key : Option SimpleKey} (loose : ∀ found ∈ key, found.required = false) :
    ∀ found ∈ kept glyph key, found.required = false := fun found member =>
  loose found (Option.filter_eq_some_iff.1 member).1

theorem Flowing.refresh (flowing : scanner.Flowing) (glyph : Glyph) :
    (scanner.refresh glyph).Flowing where
  level := flowing.level
  loose := kept_loose flowing.loose
  outer := List.forall_mem_map.2 fun key listed => kept_loose (flowing.outer key listed)

theorem closeBlocks_of_flowing (flowing : scanner.Flowing) (inside : Nat → Bool) :
    scanner.closeBlocks inside = scanner := by
  have level := flowing.level
  unfold closeBlocks
  split
  · rfl
  · cases scanner
    cases level
    rfl

/-- The characters that tokens start with. -/
def isSolid (c : Char) : Bool := !(isWhite c || c == '#' || c == byteOrderMark)

theorem skip_of_solid (text : scanner.text = glyph :: rest) (solid : isSolid glyph.char = true) :
    scanner.skip = scanner := by
  cases scanner
  cases text
  simp [isSolid, isWhite, isBlank] at solid
  simp [skip, skipWhite, solid]

theorem run?_of_solid (flowing : scanner.Flowing) (text : scanner.text = glyph :: rest)
    (solid : isSolid glyph.char = true) (fuel : Nat) :
    run? (fuel + 1) scanner =
      ((scanner.refresh glyph).scanToken? glyph rest).bind fun next => run? fuel next := by
  rw [run?, skip_of_solid text solid, text]
  simp only
  rw [dropStaleKeys?_of_flowing flowing, Option.bind_eq_bind, Option.bind_some,
    closeBlocks_of_flowing (flowing.refresh glyph)]

/-- One token is scanned, and then the others. -/
theorem gives_of_scanToken? (flowing : scanner.Flowing) (text : scanner.text = glyph :: rest)
    (solid : isSolid glyph.char = true) {next : Scanner}
    (scanned : (scanner.refresh glyph).scanToken? glyph rest = some next)
    (less : next.text.length ≤ rest.length) (gives : next.Gives result) : scanner.Gives result := by
  intro fuel enough
  rw [text, List.length_cons] at enough
  cases fuel with
  | zero => exact absurd enough (Nat.not_lt_zero _)
  | succ fuel =>
    rw [run?_of_solid flowing text solid, scanned]
    exact gives fuel (Nat.lt_of_le_of_lt less (Nat.lt_of_succ_lt_succ enough))

/-- A token that cannot be scanned ends everything. -/
theorem gives_none (flowing : scanner.Flowing) (text : scanner.text = glyph :: rest)
    (solid : isSolid glyph.char = true)
    (failed : (scanner.refresh glyph).scanToken? glyph rest = none) : scanner.Gives none := by
  intro fuel enough
  cases fuel with
  | zero => exact absurd enough (Nat.not_lt_zero _)
  | succ fuel =>
    rw [run?_of_solid flowing text solid, failed]
    rfl

/-! ### Keys -/

theorem dropKey?_of_flowing (flowing : scanner.Flowing) :
    scanner.dropKey? = some { scanner with key := none } := by
  cases scanner with
  | mk text tokens indents key outerKeys keyAllowed =>
    cases key with
    | none => rfl
    | some key =>
      have loose : key.required = false := flowing.loose key rfl
      rw [dropKey?]
      simp [loose]

/-- A key that may begin need not be one. -/
theorem saveKey?_of_allowed (flowing : scanner.Flowing) (allowed : scanner.keyAllowed = true)
    (glyph : Glyph) : scanner.saveKey? glyph =
      some { scanner with
        key := some ⟨scanner.tokens.length, glyph.line, glyph.column, false⟩ } := by
  simp [saveKey?, allowed, dropKey?_of_flowing flowing, flowing.level]

/-- Saving a key changes nothing else. -/
theorem exists_saveKey? (flowing : scanner.Flowing) (glyph : Glyph) :
    ∃ key, scanner.saveKey? glyph = some { scanner with key } ∧
      ∀ found ∈ key, found.required = false := by
  by_cases allowed : scanner.keyAllowed = true
  · refine ⟨_, saveKey?_of_allowed flowing allowed glyph, ?_⟩
    rintro found ⟨⟩
    rfl
  · exact ⟨scanner.key, if_neg allowed, flowing.loose⟩

/-! ### Indicators -/

theorem isMarkerOf_of_ne {mark : Char} (different : glyph.char ≠ mark) (rest : List Glyph) :
    isMarkerOf mark (glyph :: rest) = false := by
  unfold isMarkerOf
  split
  · rename_i same
    cases same
    simp [different]
  · rfl

/-- The brackets of flow collections with their tokens. -/
inductive Brackets : Char → Char → Token → Token → Prop
  | sequence : Brackets '[' ']' .flowSequenceStart .flowSequenceEnd
  | mapping : Brackets '\x7b' '\x7d' .flowMappingStart .flowMappingEnd

section Indicators

variable (text : scanner.text = glyph :: rest)
include text

theorem scanToken?_start {opening closing : Char} {start finish : Token}
    (brackets : Brackets opening closing start finish) (char : glyph.char = opening) :
    scanner.scanToken? glyph rest = scanner.takeFlowStart? glyph start := by
  cases brackets <;> simp [scanToken?, text, char, isMarkerOf_of_ne]

theorem scanToken?_finish {opening closing : Char} {start finish : Token}
    (brackets : Brackets opening closing start finish) (char : glyph.char = closing) :
    scanner.scanToken? glyph rest = scanner.takeFlowEnd? finish := by
  cases brackets <;> simp [scanToken?, text, char, isMarkerOf_of_ne]

theorem scanToken?_flowEntry (char : glyph.char = ',') :
    scanner.scanToken? glyph rest = scanner.takeFlowEntry? := by
  simp [scanToken?, text, char, isMarkerOf_of_ne]

theorem scanToken?_value (inFlow : scanner.inFlow = true) (char : glyph.char = ':') :
    scanner.scanToken? glyph rest = scanner.takeValue? glyph := by
  simp [scanToken?, text, char, isMarkerOf_of_ne, inFlow]

theorem scanToken?_quoted (char : glyph.char = '"') :
    scanner.scanToken? glyph rest =
      scanner.takeQuoted? glyph (scanDoubleQuoted (.text .nothing) [] rest) := by
  simp [scanToken?, text, char, isMarkerOf_of_ne, singleQuote]

end Indicators

theorem Brackets.solid {opening closing : Char} {start finish : Token}
    (brackets : Brackets opening closing start finish) :
    isSolid opening = true ∧ isSolid closing = true ∧ isBreak opening = false ∧
      isBreak closing = false := by
  cases brackets <;> decide

section FlowCollections

variable {opening closing : Char} {start finish : Token}
  (brackets : Brackets opening closing start finish) {line column : Nat} {left : List Char}
  (flowing : scanner.Flowing)
include brackets flowing

/-- Behind an opening bracket a flow collection is open, and a key is allowed. -/
theorem gives_of_opening (text : scanner.text = place line column (opening :: left))
    (next : ∀ opened : Scanner, opened.Flowing → opened.tokens = start :: scanner.tokens →
      opened.outerKeys.length = scanner.outerKeys.length + 1 → opened.keyAllowed = true →
      opened.text = place line (column + 1) left → opened.Gives result) :
    scanner.Gives result := by
  obtain ⟨solid, -, within, -⟩ := brackets.solid
  let glyph : Glyph := ⟨opening, line, column⟩
  rw [place_cons within] at text
  have fresh : (scanner.refresh glyph).text = glyph :: place line (column + 1) left := text
  obtain ⟨key, saved, loose⟩ := exists_saveKey? (flowing.refresh glyph) glyph
  have scanned := scanToken?_start fresh brackets rfl
  rw [takeFlowStart?, saved, Option.map_some] at scanned
  refine gives_of_scanToken? flowing text solid scanned ?_ (next _ ?_ rfl ?_ rfl ?_)
  · simp [take, fresh]
  · exact ⟨flowing.level, nofun, List.forall_mem_cons.2 ⟨loose, (flowing.refresh glyph).outer⟩⟩
  · simp [refresh]
  · simp [take, fresh]

/-- Behind a closing bracket the innermost flow collection is closed. -/
theorem gives_of_closing (inFlow : scanner.inFlow = true)
    (text : scanner.text = place line column (closing :: left))
    (next : ∀ closed : Scanner, closed.Flowing → closed.tokens = finish :: scanner.tokens →
      closed.outerKeys.length + 1 = scanner.outerKeys.length →
      closed.text = place line (column + 1) left → closed.Gives result) :
    scanner.Gives result := by
  obtain ⟨-, solid, -, within⟩ := brackets.solid
  let glyph : Glyph := ⟨closing, line, column⟩
  rw [place_cons within] at text
  have fresh : (scanner.refresh glyph).text = glyph :: place line (column + 1) left := text
  have scanned := scanToken?_finish fresh brackets rfl
  rw [takeFlowEnd?, dropKey?_of_flowing (flowing.refresh glyph), Option.map_some] at scanned
  obtain ⟨key, outerKeys, opened⟩ : ∃ key outerKeys, scanner.outerKeys = key :: outerKeys :=
    List.exists_cons_of_ne_nil (by simpa [Scanner.inFlow] using inFlow)
  have outer := (flowing.refresh glyph).outer
  have refreshed : (scanner.refresh glyph).outerKeys =
      kept glyph key :: outerKeys.map (kept glyph) := by
    rw [refresh, opened]
    rfl
  rw [refreshed] at outer
  obtain ⟨loose, others⟩ := List.forall_mem_cons.1 outer
  simp only [take, refreshed, fresh, List.drop_succ_cons, List.drop_zero] at scanned
  refine gives_of_scanToken? flowing text solid scanned (Nat.le_refl _) (next _ ?_ rfl ?_ rfl)
  · exact ⟨flowing.level, loose, others⟩
  · simp [opened]

end FlowCollections

/-- At the end of a text the tokens are those that were found. -/
theorem gives_of_end (flowing : scanner.Flowing) (outside : scanner.inFlow = false)
    (text : scanner.text = []) : scanner.Gives (some scanner.tokens.reverse) := by
  intro fuel enough
  cases fuel with
  | zero => exact absurd enough (Nat.not_lt_zero _)
  | succ fuel =>
    have skipped : scanner.skip = scanner := by
      cases scanner
      cases text
      rfl
    rw [run?, skipped, text]
    simp only
    rw [closeDocument?, closeBlocks_of_flowing flowing, dropKey?_of_flowing flowing]
    rfl

/-! ### Strings -/

/-- A JSON string is one token, unless a line of it starts with a document marker.  If a key is
allowed, it may have begun at the string. -/
theorem gives_of_quoted {line column : Nat} {text left : List Char} (flowing : scanner.Flowing)
    (same : scanner.text = place line column ('"' :: (quotedText text ++ '"' :: left)))
    (next : isMarked false text = false → ∀ passed : Scanner, passed.Flowing →
      passed.tokens = .scalar .quoted (folded .nothing text) :: scanner.tokens →
      passed.outerKeys.length = scanner.outerKeys.length →
      (scanner.keyAllowed = true →
        passed.key = some ⟨scanner.tokens.length, line, column, false⟩) →
      passed.text = place (advance line (column + 1) (quotedText text ++ ['"'])).1
        (advance line (column + 1) (quotedText text ++ ['"'])).2 left → passed.Gives result)
    (fails : isMarked false text = true → result = none) : scanner.Gives result := by
  let glyph : Glyph := ⟨'"', line, column⟩
  rw [place_cons rfl] at same
  have fresh : (scanner.refresh glyph).text = glyph :: _ := same
  obtain ⟨key, saved, loose⟩ := exists_saveKey? (flowing.refresh glyph) glyph
  have scanned := scanToken?_quoted fresh rfl
  have string := scanDoubleQuoted_quotedText .nothing [] line (column + 1) text left
  have nothing : (!Gap.nothing.isNothing && column + 1 == 0) = false := rfl
  rw [takeQuoted?, saved, string, nothing] at scanned
  cases marked : isMarked false text with
  | true =>
    rw [marked] at scanned
    rw [fails marked]
    exact gives_none flowing same rfl scanned
  | false =>
    rw [marked] at scanned
    refine gives_of_scanToken? flowing same rfl scanned ?_
      (next marked _ ⟨flowing.level, loose, (flowing.refresh glyph).outer⟩ rfl (List.length_map _)
        (fun allowed => ?_) rfl)
    · rw [length_place, length_place, List.length_append, List.length_cons]
      omega
    · have began := saveKey?_of_allowed (flowing.refresh glyph) allowed glyph
      rw [saved] at began
      exact congrArg Scanner.key (Option.some.inj began)

/-- Whether a key can be one without a mark: it is in one line, and not too long in its quotes. -/
def fitsKey (key : List Char) : Bool :=
  key.all (!isLineEnd ·) && decide ((quotedText key).length + 2 ≤ maxKeyLength)

/-- The tokens of a key and of the colon behind it: those of a key without a mark, if it can be
one. -/
def keyTokens (key : List Char) : List Token :=
  (if fitsKey key then [.key] else []) ++ [.scalar .quoted (folded .nothing key), .value]

/-- A key that began at a place may end where its string does exactly if it fits. -/
theorem isStale_quotedText (position line column : Nat) (key : List Char) :
    let behind := advance line (column + 1) (quotedText key ++ ['"'])
    SimpleKey.isStale ⟨position, line, column, false⟩ ⟨':', behind.1, behind.2⟩ =
      !fitsKey key := by
  intro behind
  have quote : isBreak '"' = false := rfl
  by_cases broken : ∃ c ∈ key, isLineEnd c = true
  · obtain ⟨c, member, breaks⟩ := (exists_isBreak_quotedText key).2 broken
    have later : line < behind.1 := lt_advance ⟨c, List.mem_append_left _ member, breaks⟩ _ _
    have unfit : fitsKey key = false := by
      obtain ⟨d, listed, ends⟩ := broken
      have some : key.all (!isLineEnd ·) = false := List.all_eq_false.2 ⟨d, listed, by simp [ends]⟩
      rw [fitsKey, some, Bool.false_and]
    simp [SimpleKey.isStale, later, unfit]
  · have unbroken : ∀ c ∈ quotedText key ++ ['"'], isBreak c = false := by
      have inner : ∀ c ∈ quotedText key, isBreak c = false := by
        simpa using mt (exists_isBreak_quotedText key).1 broken
      exact List.forall_mem_append.2 ⟨inner, List.forall_mem_singleton.2 quote⟩
    have all : key.all (!isLineEnd ·) = true := by simpa using broken
    have same : behind = (line, column + 1 + (quotedText key ++ ['"']).length) :=
      advance_of_unbroken unbroken line (column + 1)
    rw [same, fitsKey, all, SimpleKey.isStale, List.length_append]
    simp only [Nat.lt_irrefl, decide_false, Bool.false_or, Bool.true_and, List.length_singleton]
    rw [← decide_not]
    exact decide_eq_decide.2 (by omega)

/-- Tokens with that of a key that began among them. -/
def withKey (tokens : List Token) : Option SimpleKey → List Token
  | some key => tokens.insertIdx (tokens.length - key.position) .key
  | none => tokens

theorem openBlock_of_inFlow (inFlow : scanner.inFlow = true) (column position : Nat)
    (token : Token) : scanner.openBlock column position token = scanner :=
  if_pos (by rw [inFlow, Bool.true_or])

theorem takeValue?_of_inFlow (inFlow : scanner.inFlow = true) (glyph : Glyph) :
    scanner.takeValue? glyph =
      some { scanner.take 1 .value with
        tokens := .value :: withKey scanner.tokens scanner.key
        key := none
        keyAllowed := false } := by
  cases found : scanner.key with
  | none =>
    have absent : (scanner.take 1 .value).key = none := found
    rw [takeValue?, found]
    simp only
    rw [openBlock_of_inFlow inFlow, inFlow, Bool.true_or, if_pos rfl, absent]
    rfl
  | some key =>
    have inside : (scanner.insertAt key.position .key).inFlow = true := inFlow
    rw [takeValue?, found]
    simp only
    rw [openBlock_of_inFlow inside]
    rfl

/-- A colon is one token, and shows where its key began unless that is too far away. -/
theorem gives_of_colon {line column : Nat} {left : List Char} (flowing : scanner.Flowing)
    (inFlow : scanner.inFlow = true) (text : scanner.text = place line column (':' :: left))
    (next : ∀ passed : Scanner, passed.Flowing →
      passed.tokens = .value :: withKey scanner.tokens (kept ⟨':', line, column⟩ scanner.key) →
      passed.outerKeys.length = scanner.outerKeys.length →
      passed.text = place line (column + 1) left → passed.Gives result) :
    scanner.Gives result := by
  let glyph : Glyph := ⟨':', line, column⟩
  rw [place_cons rfl] at text
  have fresh : (scanner.refresh glyph).text = glyph :: place line (column + 1) left := text
  have inside : (scanner.refresh glyph).inFlow = true := by
    simpa [Scanner.inFlow, refresh] using inFlow
  have scanned := scanToken?_value fresh inside rfl
  rw [takeValue?_of_inFlow inside] at scanned
  simp only [take, fresh, List.drop_succ_cons, List.drop_zero] at scanned
  exact gives_of_scanToken? flowing text rfl scanned (Nat.le_refl _)
    (next _ ⟨flowing.level, nofun, (flowing.refresh glyph).outer⟩ rfl (List.length_map _) rfl)

/-! ### Texts that are passed -/

/-- A scanner that is behind a part of its text, for which it has added tokens. -/
structure Behind (scanner next : Scanner) (added : List Token) (left : List Char) : Prop where
  flowing : next.Flowing
  tokens : next.tokens = added.reverse ++ scanner.tokens
  depth : next.outerKeys.length = scanner.outerKeys.length
  text : ∃ line column, next.text = place line column left

theorem inFlow_eq {next : Scanner} (depth : next.outerKeys.length = scanner.outerKeys.length) :
    next.inFlow = scanner.inFlow := by
  rw [Scanner.inFlow, Scanner.inFlow]
  cases inner : next.outerKeys <;> cases outer : scanner.outerKeys <;>
    simp [inner, outer] at depth ⊢

theorem Behind.inFlow {next : Scanner} {added : List Token} {left : List Char}
    (behind : Behind scanner next added left) : next.inFlow = scanner.inFlow :=
  inFlow_eq behind.depth

theorem Behind.trans {next last : Scanner} {added more : List Token} {left further : List Char}
    (first : Behind scanner next added left) (second : Behind next last more further) :
    Behind scanner last (added ++ more) further where
  flowing := second.flowing
  tokens := by rw [second.tokens, first.tokens, List.reverse_append, List.append_assoc]
  depth := second.depth.trans first.depth
  text := second.text

/-- Texts that go on with the separator or the end of a flow collection. -/
def AtFlowEnd (text : List Char) : Prop :=
  ∃ c rest, text = c :: rest ∧ (c = ',' ∨ c = ']' ∨ c = '\x7d')

/-- Scanning passes a text inside a flow collection and adds tokens, if a condition holds, and fails
if it does not.  The text may have to begin where a key is allowed. -/
def Passes (fresh : Bool) (text : List Char) (condition : Prop) (added : List Token) : Prop :=
  ∀ ⦃scanner : Scanner⦄ ⦃more : List Char⦄ ⦃result : Option (List Token)⦄ ⦃line column : Nat⦄,
    scanner.Flowing → scanner.inFlow = true → (fresh = true → scanner.keyAllowed = true) →
    scanner.text = place line column (text ++ more) → AtFlowEnd more →
    (condition → ∀ next, Behind scanner next added more → next.Gives result) →
    (¬ condition → result = none) → scanner.Gives result

namespace Passes

variable {fresh : Bool} {front back : List Char} {first second : Prop} {added more : List Token}

theorem weaken (passes : Passes false front first added) : Passes fresh front first added := by
  intro scanner left result line column flowing inFlow allowed
  exact passes flowing inFlow nofun

/-- Nothing is passed at once. -/
theorem nil : Passes fresh [] True [] := by
  intro scanner left result line column flowing inFlow allowed text atEnd next fails
  exact next trivial scanner ⟨flowing, rfl, rfl, line, column, text⟩

/-- Texts are passed one after the other. -/
theorem append (passes : Passes fresh front first added) (follows : Passes false back second more)
    (ends : ∀ left, AtFlowEnd left → AtFlowEnd (back ++ left)) :
    Passes fresh (front ++ back) (first ∧ second) (added ++ more) := by
  intro scanner left result line column flowing inFlow allowed text atEnd next fails
  rw [List.append_assoc] at text
  refine passes flowing inFlow allowed text (ends left atEnd) (fun holds middle behind => ?_)
    fun fault => fails fun both => fault both.1
  obtain ⟨line, column, text⟩ := behind.text
  exact follows behind.flowing (behind.inFlow.trans inFlow) nofun text atEnd
    (fun also last further => next ⟨holds, also⟩ last (behind.trans further))
    fun fault => fails fun both => fault both.2

theorem congr {other : Prop} (same : first ↔ other) (passes : Passes fresh front first added) :
    Passes fresh front other added := by
  rwa [← propext same]

/-- A separator is passed in front of a text; behind it a key is allowed. -/
theorem entry (passes : Passes true front first added) :
    Passes false (',' :: front) first (.flowEntry :: added) := by
  intro scanner left result line column flowing inFlow allowed text atEnd next fails
  let glyph : Glyph := ⟨',', line, column⟩
  rw [List.cons_append, place_cons rfl] at text
  have fresh : (scanner.refresh glyph).text =
      glyph :: place line (column + 1) (front ++ left) := text
  let taken : Scanner :=
    { scanner.refresh glyph with
      text := place line (column + 1) (front ++ left)
      tokens := .flowEntry :: scanner.tokens
      key := none
      keyAllowed := true }
  have scanned : (scanner.refresh glyph).scanToken? glyph
      (place line (column + 1) (front ++ left)) = some taken := by
    rw [scanToken?_flowEntry fresh rfl, takeFlowEntry?, dropKey?_of_flowing (flowing.refresh glyph)]
    simp [take, fresh]
    rfl
  have behind : Behind scanner taken [.flowEntry] (front ++ left) :=
    { flowing := ⟨flowing.level, nofun, (flowing.refresh glyph).outer⟩
      tokens := rfl
      depth := List.length_map _
      text := ⟨line, column + 1, rfl⟩ }
  exact gives_of_scanToken? flowing text rfl scanned (Nat.le_refl _)
    (passes behind.flowing (behind.inFlow.trans inFlow) (fun _ => rfl) rfl atEnd
      (fun holds last further => next holds last (behind.trans further)) fails)

/-- A flow collection is passed if its contents are. -/
theorem gives_brackets {opening closing : Char} {start finish : Token}
    (brackets : Brackets opening closing start finish) (passes : Passes true front first added)
    {scanner : Scanner} {left : List Char} {result : Option (List Token)} {line column : Nat}
    (flowing : scanner.Flowing)
    (text : scanner.text = place line column (opening :: (front ++ closing :: left)))
    (next : first → ∀ next, Behind scanner next (start :: (added ++ [finish])) left →
      next.Gives result)
    (fails : ¬ first → result = none) : scanner.Gives result := by
  refine gives_of_opening brackets flowing text fun opened flows tokens depth allowed text => ?_
  have inFlow : opened.inFlow = true := by
    cases inner : opened.outerKeys with
    | nil => simp [inner] at depth
    | cons key outer => simp [Scanner.inFlow, inner]
  have ends : AtFlowEnd (closing :: left) := by
    cases brackets
    · exact ⟨_, _, rfl, .inr (.inl rfl)⟩
    · exact ⟨_, _, rfl, .inr (.inr rfl)⟩
  refine passes flows inFlow (fun _ => allowed) text ends (fun holds middle behind => ?_) fails
  obtain ⟨line, column, text⟩ := behind.text
  refine gives_of_closing brackets behind.flowing (behind.inFlow.trans inFlow) text
    fun closed flows' tokens' depth' text' => next holds closed ⟨flows', ?_, ?_, _, _, text'⟩
  · rw [tokens', behind.tokens, tokens]
    simp
  · have same := behind.depth
    omega

theorem brackets {opening closing : Char} {start finish : Token}
    (brackets : Brackets opening closing start finish) (passes : Passes true front first added) :
    Passes false (opening :: (front ++ [closing])) first (start :: (added ++ [finish])) := by
  intro scanner left result line column flowing inFlow allowed text atEnd next fails
  rw [List.cons_append, List.append_assoc] at text
  exact gives_brackets brackets passes flowing text next fails

/-- A JSON string is passed, unless a line of it starts with a document marker. -/
theorem quoted (text : List Char) :
    Passes false ('"' :: (quotedText text ++ ['"'])) (isMarked false text = false)
      [.scalar .quoted (folded .nothing text)] := by
  intro scanner left result line column flowing inFlow allowed same atEnd next fails
  rw [List.cons_append, List.append_assoc] at same
  exact gives_of_quoted flowing same
    (fun unmarked passed flows tokens depth _ left => next unmarked passed
      ⟨flows, tokens, depth, _, _, left⟩)
    fun marked => fails (by rw [marked]; nofun)

/-- A member of an object is passed if its value is and its key has no document marker. -/
theorem member (key : List Char) (passes : Passes false front first added) :
    Passes true ('"' :: (quotedText key ++ '"' :: ':' :: front))
      (isMarked false key = false ∧ first) (keyTokens key ++ added) := by
  intro scanner left result line column flowing inFlow allowed same atEnd next fails
  have split : '"' :: (quotedText key ++ '"' :: ':' :: front) ++ left =
      '"' :: (quotedText key ++ '"' :: (':' :: front ++ left)) := by simp
  rw [split] at same
  refine gives_of_quoted flowing same (fun unmarked middle flows tokens depth began text => ?_)
    fun marked => fails fun both => by simp [marked] at both
  refine gives_of_colon flows ((inFlow_eq depth).trans inFlow) text
    fun last flows' tokens' depth' text' => ?_
  have behind : Behind scanner last (keyTokens key) (front ++ left) :=
    { flowing := flows'
      tokens := by
        have stale := isStale_quotedText scanner.tokens.length line column key
        rw [tokens', tokens, began (allowed rfl), kept, Option.filter_some, stale, keyTokens]
        cases fitsKey key <;> simp [withKey]
      depth := depth'.trans depth
      text := ⟨_, _, text'⟩ }
  exact passes flows' (behind.inFlow.trans inFlow) nofun text' atEnd
    (fun holds end? further => next ⟨unmarked, holds⟩ end? (behind.trans further))
    fun fault => fails fun both => fault both.2

end Passes

/-! ### Words -/

/-- The characters of words and numbers. -/
def isWordSign (c : Char) : Bool := ('0' ≤ c && c ≤ '9') || ('a' ≤ c && c ≤ 'z')

/-- The characters that go on with a plain scalar in a flow collection. -/
def goesOn (c : Char) : Bool := !(isWhite c || isFlowIndicator c || c == ':')

/-- The characters that start a plain scalar in a flow collection. -/
def startsWord (c : Char) : Bool :=
  goesOn c && isSolid c && !indicators.contains c && c != '.'

theorem startsWord_of_isWordSign {c : Char} (sign : isWordSign c = true) : startsWord c = true := by
  have low : c.toNat < 128 := by
    simp only [isWordSign, Bool.or_eq_true, Bool.and_eq_true, decide_eq_true_eq] at sign
    rcases sign with ⟨-, digit⟩ | ⟨-, letter⟩
    · exact Nat.lt_of_le_of_lt (show c.toNat ≤ 57 from digit) (by decide)
    · exact Nat.lt_of_le_of_lt (show c.toNat ≤ 122 from letter) (by decide)
  have all : ∀ n < 128, isWordSign (Char.ofNat n) = true → startsWord (Char.ofNat n) = true := by
    decide
  have self := all c.toNat low
  rw [Char.ofNat_toNat] at self
  exact self sign

theorem isBreak_of_goesOn {c : Char} (inside : goesOn c = true) : isBreak c = false := by
  cases breaks : isBreak c with
  | false => rfl
  | true => simp [goesOn, isWhite, breaks] at inside

/-- A word in front of the end of a flow collection is scanned up to there. -/
theorem scanPlain_word {word left : List Char} (inside : ∀ c ∈ word, goesOn c = true)
    (ends : AtFlowEnd left) (floor : Nat) (found : List Char) (line column : Nat) :
    scanPlain true floor .nothing found (place line column (word ++ left)) =
      some ⟨found.reverse ++ word, false, place line (column + word.length) left⟩ := by
  have nothing : Gap.nothing.isNothing = true := rfl
  have silent : Gap.nothing.text = [] := rfl
  induction word generalizing found column with
  | nil =>
    obtain ⟨c, rest, rfl, same⟩ := ends
    have facts : isWhite c = false ∧ isBreak c = false ∧ isFlowIndicator c = true ∧ c ≠ ':' := by
      rcases same with rfl | rfl | rfl <;> decide
    obtain ⟨solid, within, indicator, notColon⟩ := facts
    rw [List.nil_append, place_cons within, scanPlain]
    simpa [solid, indicator, notColon, Gap.hasBreak, Gap.nothing] using
      (place_cons within line column rest).symm
  | cons c rest ih =>
    obtain ⟨first, later⟩ := List.forall_mem_cons.1 inside
    have within := isBreak_of_goesOn first
    simp only [goesOn, Bool.not_eq_true', Bool.or_eq_false_iff] at first
    rw [List.cons_append, place_cons within, scanPlain]
    simp [first, nothing, silent, ih later, Nat.add_assoc, Nat.add_comm 1]

/-- Words that are plain scalars in flow collections: signs of words, or a minus and such. -/
inductive Word : List Char → Prop
  | signs {c : Char} {rest : List Char} (every : ∀ d ∈ c :: rest, isWordSign d = true) :
      Word (c :: rest)
  | minus {c : Char} {rest : List Char} (every : ∀ d ∈ c :: rest, isWordSign d = true) :
      Word ('-' :: c :: rest)

theorem Word.inside {word : List Char} (isWord : Word word) : ∀ c ∈ word, goesOn c = true := by
  have goes {c : Char} (sign : isWordSign c = true) : goesOn c = true := by
    have starts := startsWord_of_isWordSign sign
    simp only [startsWord, Bool.and_eq_true] at starts
    exact starts.1.1.1
  cases isWord with
  | signs every => exact fun d member => goes (every d member)
  | minus every => exact List.forall_mem_cons.2 ⟨rfl, fun d member => goes (every d member)⟩

section Words

variable {word left : List Char} {line column : Nat}

theorem scanToken?_of_startsWord (text : scanner.text = glyph :: rest)
    (starts : startsWord glyph.char = true) (inFlow : scanner.inFlow = true) :
    scanner.scanToken? glyph rest = scanner.takePlain? glyph := by
  have plain : startsPlain true glyph.char rest = true := by
    simp only [startsWord, goesOn, Bool.and_eq_true, Bool.not_eq_true',
      Bool.or_eq_false_iff] at starts
    rw [startsPlain, starts.1.1.1.1.1, starts.1.2]
    rfl
  simp [startsWord, goesOn, indicators] at starts
  simp [scanToken?, text, inFlow, isMarkerOf_of_ne, plain, starts]

theorem scanToken?_of_minus (text : scanner.text = glyph :: rest) (char : glyph.char = '-')
    (follows : atClass startsWord rest = true) (inFlow : scanner.inFlow = true) :
    scanner.scanToken? glyph rest = scanner.takePlain? glyph := by
  cases rest with
  | nil => cases follows
  | cons next rest =>
    have notDash : next.char ≠ '-' := fun same => by
      rw [atClass, same] at follows
      exact absurd follows (by decide)
    have solid : isWhite next.char = false := by
      simp only [atClass, startsWord, goesOn, Bool.and_eq_true, Bool.not_eq_true',
        Bool.or_eq_false_iff] at follows
      exact follows.1.1.1.1.1
    have unmarked : isMarkerOf '-' (glyph :: next :: rest) = false := by
      cases rest <;> simp [isMarkerOf, notDash]
    have within : isBlank next.char = false := by
      simp only [isWhite, Bool.or_eq_false_iff] at solid
      exact solid.1
    have plain : startsPlain true '-' (next :: rest) = true := by
      simp [startsPlain, atClass, within]
    simp [scanToken?, text, char, unmarked, isMarkerOf_of_ne, atWhite, solid, inFlow, plain,
      singleQuote]

/-- A word is scanned as a plain scalar. -/
theorem scanToken?_of_word (isWord : Word word) (line column : Nat) (left : List Char) :
    ∃ glyph rest, place line column (word ++ left) = glyph :: rest ∧
      isSolid glyph.char = true ∧ left.length ≤ rest.length ∧
      ∀ scanner : Scanner, scanner.inFlow = true → scanner.text = glyph :: rest →
        scanner.scanToken? glyph rest = scanner.takePlain? glyph := by
  cases isWord with
  | @signs c rest every =>
    have starts := startsWord_of_isWordSign (every c List.mem_cons_self)
    have facts := starts
    simp only [startsWord, Bool.and_eq_true] at facts
    rw [List.cons_append, place_cons (isBreak_of_goesOn facts.1.1.1)]
    refine ⟨_, _, rfl, facts.1.1.2, ?_, fun scanner inFlow text =>
      scanToken?_of_startsWord text starts inFlow⟩
    rw [length_place, List.length_append]
    exact Nat.le_add_left _ _
  | @minus c rest every =>
    have starts := startsWord_of_isWordSign (every c List.mem_cons_self)
    have facts := starts
    simp only [startsWord, Bool.and_eq_true] at facts
    rw [List.cons_append, place_cons rfl, List.cons_append,
      place_cons (isBreak_of_goesOn facts.1.1.1)]
    refine ⟨_, _, rfl, rfl, ?_, fun scanner inFlow text =>
      scanToken?_of_minus text rfl starts inFlow⟩
    rw [List.length_cons, length_place, List.length_append]
    omega

end Words

/-- A word is passed. -/
theorem Passes.plain {word : List Char} (isWord : Word word) :
    Passes false word True [.scalar .plain word] := by
  intro scanner left result line column flowing inFlow allowed text atEnd next fails
  obtain ⟨glyph, rest, same, solid, less, scans⟩ := scanToken?_of_word isWord line column left
  have inside : (scanner.refresh glyph).inFlow = true := by
    simpa [Scanner.inFlow, refresh] using inFlow
  have fresh : (scanner.refresh glyph).text = place line column (word ++ left) := text
  obtain ⟨key, saved, loose⟩ := exists_saveKey? (flowing.refresh glyph) glyph
  have scanned := scans _ inside (fresh.trans same)
  rw [takePlain?, saved, inside, fresh, scanPlain_word isWord.inside atEnd] at scanned
  refine gives_of_scanToken? flowing (text.trans same) solid scanned ?_ (next trivial _ ?_)
  · rw [length_place]
    exact less
  · exact ⟨⟨flowing.level, loose, (flowing.refresh glyph).outer⟩, rfl, List.length_map _, _, _, rfl⟩

end Scanner

end RealmLookup.Yaml
