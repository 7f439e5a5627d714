import RealmLookup.Parameters
import RealmLookup.Proofs.Json.Rendering
import RealmLookup.Proofs.Table.Entries
import RealmLookup.Proofs.Text.ByteOrder
import Mathlib.Data.Finset.Card

/-!
# Parameters as a map

Parameters are made by setting values, from lists of entries and from JSON texts.  Whatever the
order in which that is done, a key has the value that was written last under it, the keys ascend in
the order of their bytes, and the JSON text of parameters with integers is read back as they are.

## Main definitions

* `Parameters.Action`, `Parameters.perform` : the ways to make parameters, one after the other.
* `Parameters.written` : the entries that were written, in the order of writing.
* `Parameters.Faithful` : what holds of parameters that are made.

## Main results

* `Parameters.ext_get?` : parameters with the same values are equal.
* `Parameters.sorted_perform`, `Parameters.get?_perform`, `Parameters.tabular_perform` : the
  invariants of parameters that are made.
* `Parameters.ofJson?_toJson` : the JSON text of parameters is read back.
* `Parameters.faithful_of_tabular` : parameters are a map with a faithful JSON form.
-/

namespace RealmLookup

open RealmLookup.Json RealmLookup.Text

namespace Parameters

variable {params other : Parameters} {key : String} {value : Value}

/-! ### Parameters as tables -/

/-- Parameters with the same values are equal. -/
theorem ext_get? (sorted : params.entries.Sorted) (ascending : other.entries.Sorted)
    (same : ∀ key, params.get? key = other.get? key) : params = other :=
  congrArg Parameters.mk (sorted.ext ascending same)

theorem mem_keys_iff : key ∈ params.keys ↔ params.get? key ≠ none := by
  rw [Ne, get?, Table.get?_eq_none_iff, not_not]
  rfl

/-- The value of a key after one is set. -/
theorem get?_insert (key k : String) (value : Value) :
    (params.insert key value).get? k = if key = k then some value else params.get? k :=
  Table.get?_insert

/-- The JSON text of parameters is read back. -/
theorem ofJson?_toJson (tabular : Tabular params.toValue)
    (integral : Integral nesting params.toValue) : ofJson? params.toJson = some params := by
  rw [ofJson?, toJson, Value.compact, String.toList_ofList, readObject?,
    read?_render integral tabular]
  rfl

/-! ### Making parameters -/

/-- The entries of a JSON text that denotes an object, in the order of the text. -/
def entriesOfText? (text : String) : Option (List (String × Value)) :=
  match Tree.read? text.toList with
  | some (.object members) => membersOf? (nesting - 1) members
  | _ => none

/-- A text denotes the table of its entries. -/
theorem ofJson?_eq_map (text : String) : ofJson? text = (entriesOfText? text).map ofEntries := by
  have inside : nesting = nesting - 1 + 1 := rfl
  rw [ofJson?, readObject?, Value.read?, entriesOfText?, inside]
  cases Tree.read? text.toList with
  | none => rfl
  | some tree =>
    cases tree with
    | null | bool => rfl
    | number literal =>
      rw [Option.bind_some, Tree.value?]
      cases literal.number? <;> rfl
    | string pieces =>
      rw [Option.bind_some, Tree.value?]
      cases text? pieces <;> rfl
    | array items =>
      rw [Option.bind_some, Tree.value?]
      cases valuesOf? (nesting - 1) items <;> rfl
    | object members =>
      rw [Option.bind_some, Tree.value?]
      simp only [Nat.add_sub_cancel]
      cases membersOf? (nesting - 1) members <;> rfl

/-- The ways to make parameters: setting a value, and parameters of a list of entries or of a JSON
text.  A text that cannot be read leaves things as they are. -/
inductive Action
  | insert (key : String) (value : Value)
  | collect (entries : List (String × Value))
  | parse (text : String)

/-- What an action makes of parameters. -/
def Action.apply (params : Parameters) : Action → Parameters
  | .insert key value => params.insert key value
  | .collect entries => .ofEntries entries
  | .parse text => (ofJson? text).getD params

/-- The entries that are written after an action: it adds one, or starts anew. -/
def Action.write (entries : List (String × Value)) : Action → List (String × Value)
  | .insert key value => entries ++ [(key, value)]
  | .collect others => others
  | .parse text => (entriesOfText? text).getD entries

/-- The objects of the values that an action is given are tables. -/
def Action.Tabular : Action → Prop
  | .insert _ value => Json.Tabular value
  | .collect entries => ∀ entry ∈ entries, Json.Tabular entry.2
  | .parse _ => True

/-- The parameters that are made by actions one after the other. -/
def perform (actions : List Action) : Parameters :=
  actions.foldl Action.apply .empty

/-- The entries that are written by actions one after the other. -/
def written (actions : List Action) : List (String × Value) :=
  actions.foldl Action.write []

/-! ### Parameters that are made -/

/-- An action makes the table of the entries that are written. -/
theorem Action.apply_ofEntries (entries : List (String × Value)) (action : Action) :
    action.apply (.ofEntries entries) = .ofEntries (action.write entries) := by
  cases action with
  | insert key value =>
    exact congrArg Parameters.mk
      (List.foldl_concat (fun table entry => Table.insert entry.1 entry.2 table) [] (key, value)
        entries).symm
  | collect others => rfl
  | parse text =>
    rw [apply, write, ofJson?_eq_map]
    cases entriesOfText? text <;> rfl

/-- Actions make the table of the entries that are written. -/
theorem perform_eq (actions : List Action) : perform actions = .ofEntries (written actions) := by
  induction actions using List.reverseRecOn with
  | nil => rfl
  | append_singleton actions action ih =>
    rw [perform, List.foldl_concat, written, List.foldl_concat, ← perform, ← written, ih]
    exact action.apply_ofEntries (written actions)

theorem sorted_perform (actions : List Action) : (perform actions).entries.Sorted := by
  rw [perform_eq]
  exact Table.sorted_ofEntries _

/-- A key has the value that was written last under it. -/
theorem get?_perform {actions : List Action} : (perform actions).get? key = some value ↔
    ∃ before after, written actions = before ++ (key, value) :: after ∧
      key ∉ Table.keys after := by
  rw [perform_eq]
  exact Table.get?_ofEntries_eq_some_iff

/-- The keys are those that were written. -/
theorem mem_keys_perform {actions : List Action} :
    key ∈ (perform actions).keys ↔ key ∈ Table.keys (written actions) := by
  rw [perform_eq]
  exact Table.mem_keys_ofEntries

/-- The objects of the values that an action writes are tables. -/
theorem Action.tabular_write {entries : List (String × Value)} {action : Action}
    (given : action.Tabular) (kept : ∀ entry ∈ entries, Json.Tabular entry.2) :
    ∀ entry ∈ action.write entries, Json.Tabular entry.2 := by
  cases action with
  | insert key value =>
    exact List.forall_mem_append.2 ⟨kept, List.forall_mem_singleton.2 given⟩
  | collect others => exact given
  | parse text =>
    rw [write]
    cases found : entriesOfText? text with
    | none => exact kept
    | some entries =>
      rw [entriesOfText?] at found
      split at found
      · exact tabular_of_membersOf? found
      · cases found

/-- The objects of the values that actions write are tables. -/
theorem tabular_written {actions : List Action} (given : ∀ action ∈ actions, action.Tabular) :
    ∀ entry ∈ written actions, Tabular entry.2 := by
  induction actions using List.reverseRecOn with
  | nil => exact List.forall_mem_nil _
  | append_singleton actions action ih =>
    obtain ⟨before, last⟩ := List.forall_mem_append.1 given
    rw [written, List.foldl_concat]
    exact Action.tabular_write (List.forall_mem_singleton.1 last) (ih before)

theorem tabular_perform {actions : List Action} (given : ∀ action ∈ actions, action.Tabular) :
    Tabular (perform actions).toValue := by
  refine .object (sorted_perform actions) fun entry member => ?_
  rw [perform_eq] at member
  exact tabular_written given entry (Table.mem_of_mem_ofEntries member)

/-- What holds of parameters that are made. -/
structure Faithful (actions : List Action) : Prop where
  /-- The keys ascend strictly in the order of their bytes. -/
  ascending : ((perform actions).keys.map fun key => Utf8.encode key.toList).Pairwise (· < ·)
  /-- There are as many values as keys that were written. -/
  size : (perform actions).size = (Table.keys (written actions)).toFinset.card
  /-- A key has the value that was written last under it. -/
  latest : ∀ key value, (perform actions).get? key = some value ↔
    ∃ before after, written actions = before ++ (key, value) :: after ∧ key ∉ Table.keys after
  /-- A value that is set stands under its key, and changes no other one. -/
  inserted : ∀ key value, (perform (actions ++ [.insert key value])).get? key = some value ∧
    ∀ other, other ≠ key →
      (perform (actions ++ [.insert key value])).get? other = (perform actions).get? other
  /-- The JSON text is read back, if it has no other numbers than integers of 64 bits and not too
  many containers inside each other. -/
  restored : Integral nesting (perform actions).toValue →
    ofJson? (perform actions).toJson = some (perform actions)

/-- Parameters are a map with a faithful JSON form. -/
theorem faithful_of_tabular {actions : List Action} (given : ∀ action ∈ actions, action.Tabular) :
    Faithful actions where
  ascending :=
    List.pairwise_map.2 ((sorted_perform actions).imp Utf8.encode_lt_encode_iff.2)
  size := by
    have same : (perform actions).keys.toFinset = (Table.keys (written actions)).toFinset := by
      ext key
      rw [List.mem_toFinset, List.mem_toFinset, mem_keys_perform]
    have distinct : (perform actions).keys.Nodup := (sorted_perform actions).nodup
    calc (perform actions).size
        _ = (perform actions).keys.length := (List.length_map Prod.fst).symm
        _ = (perform actions).keys.toFinset.card := (List.toFinset_card_of_nodup distinct).symm
        _ = (Table.keys (written actions)).toFinset.card := congrArg Finset.card same
  latest _ _ := get?_perform
  inserted key value := by
    have last : perform (actions ++ [.insert key value]) = (perform actions).insert key value :=
      List.foldl_concat ..
    rw [last]
    exact ⟨(get?_insert key key value).trans (if_pos rfl), fun other different =>
      (get?_insert key other value).trans (if_neg different.symm)⟩
  restored := ofJson?_toJson (tabular_perform given)

/-- Parameters with the least and the greatest integer, containers without and with items, and
characters that are escaped or have several bytes. -/
def nestedParams : Parameters :=
  ⟨[("\"\\", .array [.array [], .object [], .null, .string "\n\u0001"]),
    ("𝄞", .object [("least", .number (.integer (-9223372036854775808))),
      ("most", .number (.integer 18446744073709551615))])]⟩

/-- The parameters are read from their text, and a value of theirs is replaced. -/
def nestedActions : List Action :=
  [.parse nestedParams.toJson, .insert "\"\\" (.array [.bool true])]

theorem faithful_of_tabular_nestedActions :
    (∀ action ∈ nestedActions, action.Tabular) ∧ Faithful nestedActions ∧
      (perform nestedActions).get? "\"\\" = some (.array [.bool true]) ∧
      ofJson? (perform nestedActions).toJson = some (perform nestedActions) := by
  have given : ∀ action ∈ nestedActions, action.Tabular := by
    simp [nestedActions, Action.Tabular]
  have faithful : Faithful nestedActions := faithful_of_tabular given
  have sorted : nestedParams.entries.Sorted ∧
      Table.Sorted [("least", Value.number (.integer (-9223372036854775808))),
        ("most", .number (.integer 18446744073709551615))] := by
    unfold Table.Sorted
    decide
  have tabular : Tabular nestedParams.toValue := by
    have none : Table.Sorted ([] : Table Value) := List.Pairwise.nil
    simpa [nestedParams, toValue, none] using sorted
  have integral : Integral nesting nestedParams.toValue := by
    simp [nestedParams, toValue, nesting, maxInteger, twoTo]
  have made : perform nestedActions =
      ⟨[("\"\\", .array [.bool true]), nestedParams.entries[1]]⟩ := by
    rw [perform, nestedActions, List.foldl_cons, Action.apply, ofJson?_toJson tabular integral]
    rfl
  refine ⟨given, faithful, ?_, faithful.restored ?_⟩
  · rw [made]
    rfl
  · rw [made]
    simp [nestedParams, toValue, nesting, maxInteger, twoTo]

end Parameters

end RealmLookup
