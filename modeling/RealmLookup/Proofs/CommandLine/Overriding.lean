import RealmLookup.CommandLine.Overrides
import RealmLookup.CommandLine.ParamsFile
import RealmLookup.Proofs.Parameters
import RealmLookup.Proofs.Text.Trimming
import RealmLookup.Proofs.Text.Utf8

/-!
# Parameters that are overridden

Arguments of the command line override the parameters of a file key by key.  An argument is accepted
if it has an equals sign with a key in front of it; a key then has the text behind the sign in the
last argument of this key, and its value in the file if no argument sets it.

## Main definitions

* `CommandLine.Assigns` : the arguments that set a key.
* `CommandLine.Overridden` : parameters that some arguments override.
* `CommandLine.Overriding` : what loading a file with arguments does.

## Main results

* `CommandLine.splitPair?_eq_some_iff` : the arguments that are accepted, with what they say.
* `CommandLine.sorted_of_loaded` : the parameters that are loaded form a table.
* `CommandLine.overriding` : arguments override the parameters of a file key by key.
-/

namespace RealmLookup

namespace CommandLine

open RealmLookup.Text

variable {argument key value : String} {arguments : List String} {pairs : List (String × String)}

/-! ### Arguments that set a key -/

/-- An argument sets a key to a text: the key, which is not empty and has no equals sign, an equals
sign, and the text. -/
structure Assigns (argument key value : String) : Prop where
  filled : key ≠ ""
  undivided : '=' ∉ key.toList
  written : argument.toList = key.toList ++ '=' :: value.toList

/-- The arguments that are accepted, with what they say. -/
theorem splitPair?_eq_some_iff :
    splitPair? argument = some (key, value) ↔ Assigns argument key value := by
  constructor
  · intro found
    have parts := List.takeWhile_append_dropWhile (p := (· ≠ '=')) (l := argument.toList)
    have undivided : '=' ∉ argument.toList.takeWhile (· ≠ '=') := fun listed => by
      simpa using List.mem_takeWhile_imp listed
    have sign := (exists_of_dropWhile (· ≠ '=') argument.toList).2
    unfold splitPair? at found
    split at found
    · cases found
    · cases found
    · rename_i c rest behind filled
      obtain rfl : c = '=' := by simpa using sign c (by rw [behind]; rfl)
      obtain ⟨rfl, rfl⟩ := Prod.mk.inj (Option.some.inj found)
      refine ⟨fun empty => filled ?_, ?_, ?_⟩
      · simpa using empty
      · rwa [String.toList_ofList]
      · rw [String.toList_ofList, String.toList_ofList, ← behind, parts]
  · rintro ⟨filled, undivided, written⟩
    have before : ∀ c ∈ key.toList, decide (c ≠ '=') = true := fun c listed =>
      decide_eq_true fun same => undivided (same ▸ listed)
    have front : argument.toList.takeWhile (· ≠ '=') = key.toList := by
      rw [written, List.takeWhile_append_of_pos before]
      exact List.append_nil _
    have behind : argument.toList.dropWhile (· ≠ '=') = '=' :: value.toList := by
      rw [written]
      exact dropWhile_padding before fun c first => by cases first; rfl
    obtain ⟨c, rest, first⟩ := List.exists_cons_of_ne_nil fun nil =>
      filled (String.toList_eq_nil_iff.1 nil)
    rw [splitPair?, front, behind, first]
    simp only [← first, String.ofList_toList]

/-- The pairs of arguments that are all accepted. -/
theorem mapM_pairOfArgument_eq_ok_iff :
    arguments.mapM pairOfArgument = .ok pairs ↔ arguments.map splitPair? = pairs.map some := by
  induction arguments generalizing pairs with
  | nil =>
    cases pairs <;> simp [pure, Except.pure]
  | cons argument rest ih =>
    rw [List.mapM_cons, List.map_cons, pairOfArgument]
    cases splitPair? argument with
    | none =>
      cases pairs <;> simp [bind, Except.bind]
    | some pair =>
      cases read : rest.mapM pairOfArgument with
      | error message =>
        cases pairs <;> simp [bind, Except.bind, ← ih, read]
      | ok others =>
        cases pairs <;> simp [bind, Except.bind, pure, Except.pure, ← ih, read]

/-- Arguments are accepted exactly if each of them sets a key. -/
theorem exists_mapM_pairOfArgument_iff :
    (∃ pairs, arguments.mapM pairOfArgument = .ok pairs) ↔
      ∀ argument ∈ arguments, ∃ key value, Assigns argument key value := by
  simp only [mapM_pairOfArgument_eq_ok_iff, ← splitPair?_eq_some_iff]
  constructor
  · rintro ⟨pairs, accepted⟩ argument listed
    have among : splitPair? argument ∈ pairs.map some := accepted ▸ List.mem_map_of_mem listed
    obtain ⟨pair, -, found⟩ := List.mem_map.1 among
    exact ⟨pair.1, pair.2, found.symm⟩
  · intro each
    induction arguments with
    | nil => exact ⟨[], rfl⟩
    | cons argument rest ih =>
      obtain ⟨⟨key, value, found⟩, later⟩ := List.forall_mem_cons.1 each
      obtain ⟨pairs, accepted⟩ := ih later
      exact ⟨(key, value) :: pairs, by rw [List.map_cons, List.map_cons, found, accepted]⟩

/-- The last of the arguments that set a key sets it to a text. -/
def AssignsLast (arguments : List String) (key value : String) : Prop :=
  ∃ before argument after, arguments = before ++ argument :: after ∧ Assigns argument key value ∧
    ∀ later ∈ after, ∀ text, ¬ Assigns later key text

section Accepted

variable (accepted : arguments.map splitPair? = pairs.map some)
include accepted

/-- The keys of accepted arguments are those that an argument sets. -/
theorem mem_keys_iff_assigns :
    key ∈ Table.keys pairs ↔ ∃ argument ∈ arguments, ∃ text, Assigns argument key text := by
  simp only [← splitPair?_eq_some_iff]
  constructor
  · intro listed
    obtain ⟨pair, member, rfl⟩ := List.mem_map.1 listed
    have among : some pair ∈ arguments.map splitPair? := accepted ▸ List.mem_map_of_mem member
    obtain ⟨argument, given, found⟩ := List.mem_map.1 among
    exact ⟨argument, given, pair.2, found⟩
  · rintro ⟨argument, given, text, found⟩
    have among : some (key, text) ∈ pairs.map some :=
      accepted ▸ found ▸ List.mem_map_of_mem given
    exact List.mem_map.2 ⟨(key, text), by simpa using among, rfl⟩

/-- The last pair of a key is that of the last argument that sets it. -/
theorem get?_eq_some_iff_assignsLast :
    Table.get? key (Table.ofEntries pairs) = some value ↔ AssignsLast arguments key value := by
  rw [Table.get?_ofEntries_eq_some_iff]
  constructor
  · rintro ⟨before, after, rfl, last⟩
    rw [List.map_append, List.map_cons] at accepted
    obtain ⟨front, behind, rfl, fronts, behinds⟩ := List.map_eq_append_iff.1 accepted
    obtain ⟨argument, rest, rfl, found, rests⟩ := List.map_eq_cons_iff.1 behinds
    refine ⟨front, argument, rest, rfl, splitPair?_eq_some_iff.1 found, ?_⟩
    intro later listed text assigns
    exact last ((mem_keys_iff_assigns rests).2 ⟨later, listed, text, assigns⟩)
  · rintro ⟨front, argument, rest, rfl, assigns, last⟩
    rw [List.map_append, List.map_cons, splitPair?_eq_some_iff.2 assigns] at accepted
    obtain ⟨before, behind, rfl, fronts, behinds⟩ := List.map_eq_append_iff.1 accepted.symm
    obtain ⟨pair, after, rfl, found, rests⟩ := List.map_eq_cons_iff.1 behinds
    obtain rfl := Option.some.inj found
    refine ⟨before, after, rfl, fun listed => ?_⟩
    obtain ⟨later, given, text, assigns⟩ := (mem_keys_iff_assigns rests.symm).1 listed
    exact last later given text assigns

end Accepted

/-! ### Parameters with texts in place of values -/

theorem entries_override (params : Parameters) (pairs : List (String × String)) :
    (override params pairs).entries =
      (Table.mapValues Json.Value.string pairs).foldl
        (fun table entry => Table.insert entry.1 entry.2 table) params.entries := by
  induction pairs generalizing params with
  | nil => rfl
  | cons pair rest ih => exact ih (params.insert pair.1 (.string pair.2))

/-- A key has the last text that is given for it, and its earlier value if there is none. -/
theorem get?_override (params : Parameters) (pairs : List (String × String)) (key : String) :
    (override params pairs).get? key =
      ((Table.get? key (Table.ofEntries pairs)).map Json.Value.string).or (params.get? key) := by
  have turned : (Table.mapValues Json.Value.string pairs).reverse =
      Table.mapValues Json.Value.string pairs.reverse := List.map_reverse.symm
  rw [Parameters.get?, entries_override, Table.get?_foldl_insert, turned, Table.get?_mapValues,
    Table.get?_ofEntries]
  rfl

/-- Overriding keeps the order of the keys. -/
theorem sorted_override {params : Parameters} (sorted : params.entries.Sorted)
    (pairs : List (String × String)) : (override params pairs).entries.Sorted := by
  rw [entries_override]
  exact sorted.foldl_insert _

/-! ### Parameters that are loaded -/

/-- The entries of a node form a table. -/
theorem sorted_of_entriesOf {targets : List (Nat × Yaml.Node Nat)} {root : Yaml.Node Nat}
    {before after : Nat} {table : Table Json.Value}
    (read : (Yaml.entriesOf targets root).run before = some (table, after)) : table.Sorted := by
  unfold Yaml.entriesOf at read
  cases root with
  | reference target => cases read
  | sequence anchor tag items => cases read
  | scalar anchor tag style text =>
    dsimp only at read
    split at read
    · cases read
      exact List.Pairwise.nil
    · cases read
  | mapping anchor tag pairs =>
    simp only [StateT.run_bind] at read
    obtain ⟨⟨entries, left⟩, -, gathered⟩ := Option.bind_eq_some_iff.1 read
    cases gathered
    exact Table.sorted_ofEntries entries

/-- The entries of a document form a table. -/
theorem sorted_of_readMapping? {text : List Char} {table : Table Json.Value}
    (read : Yaml.readMapping? text = some table) : table.Sorted := by
  unfold Yaml.readMapping? at read
  obtain ⟨tokens, -, read⟩ := Option.bind_eq_some_iff.1 read
  obtain ⟨document, -, read⟩ := Option.bind_eq_some_iff.1 read
  cases document with
  | none =>
    cases read
    exact List.Pairwise.nil
  | some node =>
    obtain ⟨⟨names, root⟩, -, read⟩ := Option.bind_eq_some_iff.1 read
    obtain ⟨⟨entries, left⟩, found, read⟩ := Option.bind_eq_some_iff.1 read
    cases read
    exact sorted_of_entriesOf found

/-- The parameters of a file form a table. -/
theorem sorted_of_parametersOfFile {file : File} {params : Parameters}
    (read : parametersOfFile file = .ok params) : params.entries.Sorted := by
  unfold parametersOfFile at read
  split at read
  · cases read
  · split at read
    · rename_i found
      cases read
      unfold parametersOfText? at found
      split at found
      · cases found
        exact List.Pairwise.nil
      · obtain ⟨table, entries, rfl⟩ := Option.map_eq_some_iff.1 found
        exact sorted_of_readMapping? entries
    · cases read

/-- The parameters that are loaded form a table. -/
theorem sorted_of_loaded {file : Option File} {params : Parameters}
    (loaded : loadParameters file pairs = .ok params) : params.entries.Sorted := by
  cases file with
  | none =>
    have sorted : Parameters.empty.entries.Sorted := List.Pairwise.nil
    cases loaded
    exact sorted_override sorted pairs
  | some file =>
    rw [loadParameters] at loaded
    cases read : parametersOfFile file with
    | error error =>
      rw [read] at loaded
      cases loaded
    | ok base =>
      rw [read] at loaded
      cases loaded
      exact sorted_override (sorted_of_parametersOfFile read) pairs

/-- What is loaded is what the file holds, with the arguments in place of equally named values. -/
theorem loadParameters_eq_map (file : Option File) (pairs : List (String × String)) :
    loadParameters file pairs = (loadParameters file []).map fun base => override base pairs := by
  cases file with
  | none => rfl
  | some file =>
    rw [loadParameters, loadParameters]
    cases parametersOfFile file <;> rfl

/-- A file of white space holds no parameters. -/
theorem loadParameters_of_blank {text : List Char} (blank : ∀ c ∈ text, isBlank c = true)
    (path : String) :
    loadParameters (some ⟨path, some (Utf8.encode text)⟩) [] = .ok .empty := by
  have none : parametersOfText? text = some .empty := if_pos (List.all_eq_true.2 blank)
  rw [loadParameters, parametersOfFile, Option.bind_some, Utf8.decodeStrict?_encode]
  dsimp only
  rw [none]
  rfl

/-! ### Files that are overridden -/

/-- Parameters that some arguments override: each key has the text of the last argument that sets
it, or else its own value, and there are no further keys. -/
structure Overridden (base : Parameters) (arguments : List String) (params : Parameters) :
    Prop where
  assigned : ∀ key value, AssignsLast arguments key value →
    params.get? key = some (.string value)
  kept : ∀ key, (∀ argument ∈ arguments, ∀ value, ¬ Assigns argument key value) →
    params.get? key = base.get? key
  keys : ∀ key, key ∈ params.keys ↔
    key ∈ base.keys ∨ ∃ argument ∈ arguments, ∃ value, Assigns argument key value

/-- Whether an argument sets a key. -/
def sets (key argument : String) : Bool :=
  (splitPair? argument).any fun pair => pair.1 == key

/-- Parameters with the texts of accepted arguments in place of values are overridden by them. -/
theorem overridden_override (base : Parameters)
    (accepted : arguments.map splitPair? = pairs.map some) :
    Overridden base arguments (override base pairs) where
  assigned key value last := by
    rw [get?_override, (get?_eq_some_iff_assignsLast accepted).2 last]
    rfl
  kept key unset := by
    have absent : Table.get? key (Table.ofEntries pairs) = none := by
      rw [Table.get?_eq_none_iff, Table.mem_keys_ofEntries, mem_keys_iff_assigns accepted]
      rintro ⟨argument, given, value, assigns⟩
      exact unset argument given value assigns
    rw [get?_override, absent]
    rfl
  keys key := by
    have given : key ∈ Table.keys pairs ↔ Table.get? key (Table.ofEntries pairs) ≠ none := by
      rw [Ne, Table.get?_eq_none_iff, not_not, Table.mem_keys_ofEntries]
    rw [Parameters.mem_keys_iff, Parameters.mem_keys_iff, get?_override,
      ← mem_keys_iff_assigns accepted, given]
    cases Table.get? key (Table.ofEntries pairs) <;> simp

/-- The order of pairs of different keys does not matter. -/
theorem override_congr {base : Parameters} (sorted : base.entries.Sorted)
    {others : List (String × String)}
    (same : ∀ key, others.filter (fun pair => pair.1 == key) =
      pairs.filter fun pair => pair.1 == key) :
    override base others = override base pairs := by
  refine Parameters.ext_get? (sorted_override sorted _) (sorted_override sorted _) fun key => ?_
  have last : Table.get? key others.reverse = Table.get? key pairs.reverse := by
    rw [← Table.get?_filter, List.filter_reverse, same, ← List.filter_reverse, Table.get?_filter]
  rw [get?_override, get?_override, Table.get?_ofEntries, Table.get?_ofEntries, last]

/-- The pairs of a key are those of the arguments that set it. -/
theorem map_filter_sets (accepted : arguments.map splitPair? = pairs.map some) (key : String) :
    (arguments.filter (sets key)).map splitPair? =
      (pairs.filter fun pair => pair.1 == key).map some := by
  have same : sets key = (fun pair => pair.any fun pair => pair.1 == key) ∘ splitPair? := rfl
  rw [same, ← List.filter_map, accepted, List.filter_map]
  rfl

/-- What loading a file with arguments does. -/
structure Overriding (file : Option File) (arguments : List String) : Prop where
  /-- Arguments are accepted exactly if each of them sets a key. -/
  accepts : (∃ pairs, arguments.mapM pairOfArgument = .ok pairs) ↔
    ∀ argument ∈ arguments, ∃ key value, Assigns argument key value
  /-- Without a file, or with one of white space, there is nothing to override. -/
  absent : file = none → loadParameters file [] = .ok .empty
  blank : ∀ path text, file = some ⟨path, some (Utf8.encode text)⟩ →
    (∀ c ∈ text, isBlank c = true) → loadParameters file [] = .ok .empty
  /-- A file that cannot be loaded fails with any arguments. -/
  failed : ∀ pairs error, loadParameters file [] = .error error →
    loadParameters file pairs = .error error
  /-- Accepted arguments override what the file holds. -/
  overrides : ∀ base pairs, loadParameters file [] = .ok base →
    arguments.mapM pairOfArgument = .ok pairs →
      ∃ params, loadParameters file pairs = .ok params ∧ Overridden base arguments params
  /-- Arguments may be reordered as long as those of each key keep their order. -/
  reordered : ∀ (others : List String) pairs, arguments.mapM pairOfArgument = .ok pairs →
    others.Perm arguments → (∀ key, others.filter (sets key) = arguments.filter (sets key)) →
      ∃ swapped, others.mapM pairOfArgument = .ok swapped ∧
        loadParameters file swapped = loadParameters file pairs

/-- Arguments override the parameters of a file key by key. -/
theorem overriding (file : Option File) (arguments : List String) : Overriding file arguments where
  accepts := exists_mapM_pairOfArgument_iff
  absent absent := by
    rw [absent]
    rfl
  blank path text same blank := by
    rw [same]
    exact loadParameters_of_blank blank path
  failed pairs error failed := by
    rw [loadParameters_eq_map, failed]
    rfl
  overrides base pairs loaded accepted := by
    refine ⟨override base pairs, ?_,
      overridden_override base (mapM_pairOfArgument_eq_ok_iff.1 accepted)⟩
    rw [loadParameters_eq_map, loaded]
    rfl
  reordered others pairs accepted perm kept := by
    obtain ⟨swapped, also⟩ := exists_mapM_pairOfArgument_iff.2 fun argument given =>
      exists_mapM_pairOfArgument_iff.1 ⟨pairs, accepted⟩ argument (perm.subset given)
    refine ⟨swapped, also, ?_⟩
    have same (key : String) : swapped.filter (fun pair => pair.1 == key) =
        pairs.filter fun pair => pair.1 == key := by
      refine List.map_injective_iff.2 (fun _ _ => Option.some.inj) ?_
      rw [← map_filter_sets (mapM_pairOfArgument_eq_ok_iff.1 also), kept,
        map_filter_sets (mapM_pairOfArgument_eq_ok_iff.1 accepted)]
    rw [loadParameters_eq_map file swapped, loadParameters_eq_map file pairs]
    cases loaded : loadParameters file [] with
    | error error => rfl
    | ok base => exact congrArg Except.ok (override_congr (sorted_of_loaded loaded) same)

end CommandLine

end RealmLookup
