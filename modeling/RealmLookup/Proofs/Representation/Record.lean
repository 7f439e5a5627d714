import RealmLookup.Proofs.Json.Shape
import RealmLookup.Representation.Record

/-!
# Reading records

A record is shown by an object that lists its fields in any order, each at most once, among any
members of other names.  A field with a default may be left out if that is its value.  Whatever
shows a record in this way is read as it, and an object without a field that has no default is not
read.

## Main definitions

* `Representation.Decodes` : the decoders that read what a shape shows.
* `Representation.Field` : the fields of a record, with what shows them.
* `Representation.Listing`, `Representation.RecordShape` : the members that list fields, and the
  objects that show a record.
* `Representation.Lacks`, `Representation.LacksOne` : the objects without a member of a name, or of
  one of several.

## Main results

* `Representation.decodes_text`, `Representation.decodes_list`, … : the decoders of values.
* `Representation.RecordShape.opens` : the fields of a record are found in what shows it.
* `Representation.Lacks.opens` : a member that is lacking is not found.
-/

namespace RealmLookup.Representation

open RealmLookup.Json

variable {α β : Type}

/-! ### Values -/

/-- The decoders that read what a shape shows. -/
def Decodes (decode : Decoder α) (shape : Shape α) : Prop :=
  ∀ ⦃depth : Nat⦄ ⦃value : α⦄ ⦃tree : Tree⦄, shape depth value tree → decode depth tree = some value

/-- Items are read one by one. -/
theorem mapM_of_forall₂ {read : β → Option α} {values : List α} {items : List β}
    (each : List.Forall₂ (fun value item => read item = some value) values items) :
    items.mapM read = some values := by
  induction each with
  | nil => rfl
  | cons first _ ih =>
    rw [List.mapM_cons, first, ih]
    rfl

/-- What is read of an item is among what is read of a list. -/
theorem mem_of_mapM {read : β → Option α} {items : List β} {values : List α}
    (each : items.mapM read = some values) {item : β} {value : α} (member : item ∈ items)
    (found : read item = some value) : value ∈ values := by
  induction items generalizing values with
  | nil => cases member
  | cons first rest ih =>
    rw [List.mapM_cons] at each
    obtain ⟨head, reads, each⟩ := Option.bind_eq_some_iff.1 each
    obtain ⟨tail, others, each⟩ := Option.bind_eq_some_iff.1 each
    obtain rfl := Option.some.inj each
    rcases List.mem_cons.1 member with rfl | member
    · rw [Option.some.inj (reads.symm.trans found)]
      exact List.mem_cons_self
    · exact List.mem_cons_of_mem _ (ih others member)

/-- A list with an item that is not read is not read. -/
theorem mapM_eq_none {read : β → Option α} {items : List β} {item : β} (member : item ∈ items)
    (unread : read item = none) : items.mapM read = none := by
  induction items with
  | nil => cases member
  | cons first rest ih =>
    rw [List.mapM_cons]
    rcases List.mem_cons.1 member with rfl | member
    · rw [unread]
      rfl
    · rw [ih member]
      cases read first <;> rfl

theorem decodes_text : Decodes Record.text TextShape := by
  rintro depth text tree ⟨denotes⟩
  rw [Record.text, text?_of_denotes denotes]
  exact congrArg some String.ofList_toList

theorem decodes_flag : Decodes Record.flag FlagShape := by
  rintro depth flag tree ⟨⟩
  rfl

/-- The integers of a range are read, if the range is one of 64 bits. -/
theorem decodes_integer {least greatest : Int} (low : -(twoTo 63 : Int) ≤ least)
    (high : greatest ≤ maxInteger) :
    Decodes (Record.integer least greatest) (IntegerShape least greatest) := by
  rintro depth value tree ⟨lower, upper⟩
  rw [Record.integer,
    number?_of_decimal (Int.le_trans low lower) (Int.le_trans upper high)]
  exact if_pos ⟨lower, upper⟩

theorem decodes_signed32 : Decodes Record.signed32 Signed32Shape :=
  decodes_integer (by decide) (by decide)

theorem decodes_unsigned32 : Decodes (Record.unsigned 32) Unsigned32Shape := by
  intro depth value tree shows
  have read := decodes_integer (by decide) (by decide) shows
  rw [Record.unsigned, read]
  exact congrArg some (Int.toNat_natCast value)

/-- Null is read as the absence of a value, as long as no value is shown by null. -/
theorem decodes_nullable {decode : Decoder α} {shape : Shape α} (decodes : Decodes decode shape)
    (proper : ∀ depth value, ¬ shape depth value .null) :
    Decodes (Record.nullable decode) (NullableShape shape) := by
  intro depth value tree shows
  cases shows with
  | null => rfl
  | @some depth value tree shows =>
    rw [Record.nullable, decodes shows, Option.map_some]
    rintro rfl
    exact proper _ _ shows

theorem decodes_list {decode : Decoder α} {shape : Shape α} (decodes : Decodes decode shape) :
    Decodes (Record.list decode) (ListShape shape) := by
  rintro _ values _ ⟨shows⟩
  exact mapM_of_forall₂ (shows.imp fun _ _ shows => decodes shows)

theorem decodes_table {decode : Decoder α} {shape : Shape α} (decodes : Decodes decode shape) :
    Decodes (Record.table decode) (TableShape shape) := by
  rintro _ table _ ⟨shows, gathers⟩
  rw [Record.table, mapM_of_forall₂ (shows.imp fun entry member shows => ?_), Option.map_some,
    gathers.ofEntries_eq]
  rw [text?_of_denotes shows.name, decodes shows.value]
  exact congrArg (fun name => some (name, entry.2)) String.ofList_toList

/-! ### Fields -/

/-- A field of a record: its name, the trees that show its value, and whether it may be left out. -/
structure Field where
  name : String
  shows : Nat → Tree → Prop
  omissible : Prop

/-- A field that must be listed. -/
def Field.required (name : String) (shape : Shape α) (value : α) : Field :=
  ⟨name, fun depth => shape depth value, False⟩

/-- A field that may be left out if its value is the default. -/
def Field.optional (name : String) (shape : Shape α) (default value : α) : Field :=
  ⟨name, fun depth => shape depth value, value = default⟩

/-- A text that may be absent. -/
def Field.optionalText (name : String) (value : Option String) : Field :=
  .optional name (NullableShape TextShape) none value

/-- A flag that is off by default. -/
def Field.optionalFlag (name : String) (value : Bool) : Field :=
  .optional name FlagShape false value

@[simp]
theorem Field.name_required (name : String) (shape : Shape α) (value : α) :
    (Field.required name shape value).name = name :=
  rfl

@[simp]
theorem Field.name_optional (name : String) (shape : Shape α) (default value : α) :
    (Field.optional name shape default value).name = name :=
  rfl

@[simp]
theorem Field.name_optionalText (name : String) (value : Option String) :
    (Field.optionalText name value).name = name :=
  rfl

@[simp]
theorem Field.name_optionalFlag (name : String) (value : Bool) :
    (Field.optionalFlag name value).name = name :=
  rfl

/-- The members that list fields, each once or not at all. -/
inductive Listing (depth : Nat) : List Field → List (List Piece × Tree) → Prop
  | nil : Listing depth [] []
  | listed {field : Field} {fields : List Field} {key : List Piece} {tree : Tree}
      {members : List (List Piece × Tree)} (named : Denotes key field.name.toList)
      (shown : field.shows depth tree) (follows : Listing depth fields members) :
      Listing depth (field :: fields) ((key, tree) :: members)
  | omitted {field : Field} {fields : List Field} {members : List (List Piece × Tree)}
      (omissible : field.omissible) (follows : Listing depth fields members) :
      Listing depth (field :: fields) members

/-- The objects that show a record: members that list its fields, and members of other names with
any values, in any order. -/
inductive RecordShape (fields : List Field) : Nat → Tree → Prop
  | intro {depth : Nat} {members known unknown : List (List Piece × Tree)}
      (lists : Listing depth fields known)
      (others : ∀ member ∈ unknown, ∃ name : String, Denotes member.1 name.toList ∧
        name ∉ fields.map Field.name)
      (order : members.Perm (known ++ unknown)) : RecordShape fields (depth + 1) (.object members)

/-- The objects without a member of a name. -/
inductive Lacks (name : String) : Tree → Prop
  | intro {members : List (List Piece × Tree)}
      (others : ∀ member ∈ members, ∃ key : String, Denotes member.1 key.toList ∧ key ≠ name) :
      Lacks name (.object members)

/-- The objects without a member of one of several names. -/
def LacksOne (names : List String) (tree : Tree) : Prop :=
  ∃ name ∈ names, Lacks name tree

/-! ### Finding fields -/

section Finding

variable {fields : List Field} {depth count : Nat} {tree : Tree} {name : String}
  {members known : List (List Piece × Tree)}

/-- A member with the characters of its name. -/
def named (member : List Piece × Tree) : String × Tree :=
  (String.ofList ((text? member.1).getD []), member.2)

theorem named_of_denotes {key : List Piece} (denotes : Denotes key name.toList) (tree : Tree) :
    named (key, tree) = (name, tree) := by
  rw [named, text?_of_denotes denotes, Option.getD_some, String.ofList_toList]

/-- An object whose members have names is opened. -/
theorem open?_object
    (denote : ∀ member ∈ members, ∃ name : String, Denotes member.1 name.toList) (count : Nat) :
    Record.open? count (depth + 1) (.object members) =
      some (depth, .named (members.map named)) := by
  have each : List.Forall₂ (fun entry (member : List Piece × Tree) =>
      (text? member.1).map (fun key => (String.ofList key, member.2)) = some entry)
      (members.map named) members := by
    rw [List.forall₂_map_left_iff, List.forall₂_same]
    intro member listed
    obtain ⟨name, denotes⟩ := denote member listed
    rw [named, text?_of_denotes denotes]
    rfl
  rw [Record.open?, mapM_of_forall₂ each, Option.map_some]

/-- A field that is found in an opened record, or left out. -/
inductive Found (opened : Nat × Record.Fields) (field : Field) : Prop
  | listed {tree : Tree}
      (found : ∀ position, opened.2.find? position field.name = some (some tree))
      (shown : field.shows opened.1 tree)
  | omitted (absent : ∀ position, opened.2.find? position field.name = some none)
      (omissible : field.omissible)

/-- The members that list fields have names, those of the fields. -/
theorem Listing.denotes (lists : Listing depth fields known) :
    ∀ member ∈ known, ∃ name : String, Denotes member.1 name.toList := by
  induction lists with
  | nil => exact List.forall_mem_nil _
  | listed named _ _ ih => exact List.forall_mem_cons.2 ⟨⟨_, named⟩, ih⟩
  | omitted _ _ ih => exact ih

theorem Listing.filter_of_not_mem (lists : Listing depth fields known)
    (other : name ∉ fields.map Field.name) :
    (known.map named).filter (·.1 == name) = [] := by
  induction lists with
  | nil => rfl
  | @listed field fields key tree members denotes _ _ ih =>
    have different : (field.name == name) = false :=
      beq_eq_false_iff_ne.2 (List.ne_of_not_mem_cons other).symm
    rw [List.map_cons, named_of_denotes denotes, List.filter_cons_of_neg (by simp [different])]
    exact ih (List.not_mem_of_not_mem_cons other)
  | omitted _ _ ih => exact ih (List.not_mem_of_not_mem_cons other)

/-- A field is listed once, or left out. -/
theorem Listing.filter_of_mem (lists : Listing depth fields known)
    (distinct : (fields.map Field.name).Nodup) {field : Field} (member : field ∈ fields) :
    (∃ tree, (known.map named).filter (·.1 == field.name) = [(field.name, tree)] ∧
        field.shows depth tree) ∨
      (known.map named).filter (·.1 == field.name) = [] ∧ field.omissible := by
  induction lists with
  | nil => cases member
  | @listed first fields key tree members denotes shown rest ih =>
    obtain ⟨fresh, distinct⟩ := List.nodup_cons.1 distinct
    rw [List.map_cons, named_of_denotes denotes]
    rcases List.mem_cons.1 member with rfl | member
    · rw [List.filter_cons_of_pos (by simp), rest.filter_of_not_mem fresh]
      exact .inl ⟨tree, rfl, shown⟩
    · have different : first.name ≠ field.name := fun same =>
        fresh (same ▸ List.mem_map_of_mem member)
      rw [List.filter_cons_of_neg (by simp [different])]
      exact ih distinct member
  | omitted omissible rest ih =>
    obtain ⟨fresh, distinct⟩ := List.nodup_cons.1 distinct
    rcases List.mem_cons.1 member with rfl | member
    · exact .inr ⟨rest.filter_of_not_mem fresh, omissible⟩
    · exact ih distinct member

/-- The fields of a record are found in what shows it. -/
theorem RecordShape.opens (shape : RecordShape fields depth tree)
    (distinct : (fields.map Field.name).Nodup) (count : Nat) :
    ∃ opened, Record.open? count depth tree = some opened ∧
      ∀ field ∈ fields, Found opened field := by
  cases shape with
  | @intro depth members known unknown lists others order =>
    have denote : ∀ member ∈ members, ∃ name : String, Denotes member.1 name.toList := by
      intro member listed
      rcases List.mem_append.1 (order.mem_iff.1 listed) with listed | listed
      · exact lists.denotes member listed
      · obtain ⟨name, denotes, -⟩ := others member listed
        exact ⟨name, denotes⟩
    refine ⟨_, open?_object denote count, fun field member => ?_⟩
    have unrelated : (unknown.map named).filter (·.1 == field.name) = [] := by
      refine List.filter_eq_nil_iff.2 fun entry listed => ?_
      obtain ⟨⟨key, tree⟩, within, rfl⟩ := List.mem_map.1 listed
      obtain ⟨name, denotes, other⟩ := others _ within
      rw [named_of_denotes denotes, beq_iff_eq]
      rintro rfl
      exact other (List.mem_map_of_mem member)
    have found : ((members.map named).filter (·.1 == field.name)).Perm
        ((known.map named).filter (·.1 == field.name)) := by
      have parted := (order.map named).filter (·.1 == field.name)
      rwa [List.map_append, List.filter_append, unrelated, List.append_nil] at parted
    rcases lists.filter_of_mem distinct member with ⟨tree, once, shown⟩ | ⟨absent, omissible⟩
    · rw [once, List.perm_singleton] at found
      exact .listed (fun position => by rw [Record.Fields.find?, found]) shown
    · rw [absent, List.perm_nil] at found
      exact .omitted (fun position => by rw [Record.Fields.find?, found]) omissible

/-- A member that is lacking is not found. -/
theorem Lacks.opens (lacks : Lacks name tree) (count depth : Nat) :
    Record.open? count depth tree = none ∨
      ∃ opened, Record.open? count depth tree = some opened ∧
        ∀ position, opened.2.find? position name = some none := by
  cases lacks with
  | @intro members others =>
    cases depth with
    | zero => exact .inl rfl
    | succ depth =>
      refine .inr ⟨_, open?_object (fun member listed => (others member listed).imp
        fun _ other => other.1) count, fun position => ?_⟩
      have absent : (members.map named).filter (·.1 == name) = [] := by
        refine List.filter_eq_nil_iff.2 fun entry listed => ?_
        obtain ⟨⟨key, tree⟩, within, rfl⟩ := List.mem_map.1 listed
        obtain ⟨other, denotes, different⟩ := others _ within
        rw [named_of_denotes denotes, beq_iff_eq]
        exact different
      rw [Record.Fields.find?, absent]

/-- A member that is listed is found, unless there is another one of its name. -/
theorem find?_of_mem {opened : Nat × Record.Fields}
    (opens : Record.open? count depth (.object members) = some opened) {key : List Piece}
    (listed : (key, tree) ∈ members) (denotes : Denotes key name.toList) (position : Nat) :
    opened.2.find? position name = some (some tree) ∨ opened.2.find? position name = none := by
  cases depth with
  | zero => cases opens
  | succ depth =>
    obtain ⟨entries, each, rfl⟩ := Option.map_eq_some_iff.1 opens
    have entry : (text? key).map (fun key => (String.ofList key, tree)) = some (name, tree) := by
      rw [text?_of_denotes denotes]
      exact congrArg (fun name => some (name, tree)) String.ofList_toList
    have found : (name, tree) ∈ entries.filter (·.1 == name) :=
      List.mem_filter.2 ⟨mem_of_mapM each listed entry, beq_self_eq_true name⟩
    unfold Record.Fields.find?
    rcases same : entries.filter (·.1 == name) with _ | ⟨first, _ | ⟨second, rest⟩⟩
    · rw [same] at found
      cases found
    · rw [same] at found
      obtain rfl := List.mem_singleton.1 found
      exact .inl (by simp only [same])
    · exact .inr (by simp only [same])

end Finding

/-! ### Reading records -/

section Records

variable {fields : List Field} {depth count : Nat} {tree : Tree} {name : String}
  {body : Nat × Record.Fields → Option α} {value : α}

/-- A record is read from what shows it, if it is read from its fields. -/
theorem some_of_shape (shape : RecordShape fields depth tree)
    (distinct : (fields.map Field.name).Nodup)
    (reads : ∀ opened, (∀ field ∈ fields, Found opened field) → body opened = some value) :
    (Record.open? count depth tree).bind body = some value := by
  obtain ⟨opened, opens, found⟩ := shape.opens distinct count
  rw [opens]
  exact reads opened found

/-- Nothing is read from an object without one of several members, if nothing is read without any
of them. -/
theorem none_of_lacksOne {names : List String} (lacks : LacksOne names tree)
    (stops : ∀ name ∈ names, ∀ opened : Nat × Record.Fields,
      (∀ position, opened.2.find? position name = some none) → body opened = none) :
    (Record.open? count depth tree).bind body = none := by
  obtain ⟨name, required, lacks⟩ := lacks
  rcases lacks.opens count depth with opens | ⟨opened, opens, absent⟩
  · rw [opens]
    rfl
  · rw [opens]
    exact stops name required opened absent

/-- Nothing is read from an object with a member, if nothing is read with it, nor with several of
its name. -/
theorem none_of_part {members : List (List Piece × Tree)} {key : List Piece}
    (listed : (key, tree) ∈ members) (denotes : Denotes key name.toList)
    (stops : ∀ opened : Nat × Record.Fields,
      (∀ position, opened.2.find? position name = some (some tree) ∨
        opened.2.find? position name = none) → body opened = none) :
    (Record.open? count depth (.object members)).bind body = none := by
  cases opens : Record.open? count depth (.object members) with
  | none => rfl
  | some opened => exact stops opened (find?_of_mem opens listed denotes)

end Records

/-! ### Reading fields -/

section Reading

variable {opened : Nat × Record.Fields} {name : String} {decode : Decoder α} {shape : Shape α}
  {value default : α}

/-- A field that must be listed is read. -/
theorem required_of_found (decodes : Decodes decode shape)
    (found : Found opened (.required name shape value)) (position : Nat) :
    Record.required opened position name decode = some value := by
  cases found with
  | @listed tree found shown =>
    have found : opened.2.find? position name = some (some tree) := found position
    rw [Record.required, found]
    exact decodes shown
  | omitted _ omissible => cases omissible

/-- A field with a default is read. -/
theorem optional_of_found (decodes : Decodes decode shape)
    (found : Found opened (.optional name shape default value)) (position : Nat) :
    Record.optional opened position name decode default = some value := by
  cases found with
  | @listed tree found shown =>
    have found : opened.2.find? position name = some (some tree) := found position
    rw [Record.optional, found]
    exact decodes shown
  | omitted absent omissible =>
    have absent : opened.2.find? position name = some none := absent position
    have omissible : value = default := omissible
    rw [Record.optional, absent, omissible]

theorem optionalText_of_found {value : Option String}
    (found : Found opened (.optionalText name value)) (position : Nat) :
    Record.optionalText opened position name = some value :=
  optional_of_found (decodes_nullable decodes_text fun _ _ shows => by cases shows) found position

theorem optionalFlag_of_found {value : Bool} (found : Found opened (.optionalFlag name value))
    (position : Nat) : Record.optionalFlag opened position name = some value :=
  optional_of_found decodes_flag found position

/-- A field that must be listed is not read if it is absent. -/
theorem required_of_absent (absent : ∀ position, opened.2.find? position name = some none)
    (decode : Decoder α) (position : Nat) :
    Record.required opened position name decode = none := by
  rw [Record.required, absent]

/-- A field with a default is not read if what is listed is not. -/
theorem optional_of_unread {position : Nat} {tree : Tree}
    (found : opened.2.find? position name = some (some tree) ∨
      opened.2.find? position name = none)
    (unread : decode opened.1 tree = none) :
    Record.optional opened position name decode default = none := by
  rcases found with found | found
  · rw [Record.optional, found]
    exact unread
  · rw [Record.optional, found]

end Reading

end RealmLookup.Representation
