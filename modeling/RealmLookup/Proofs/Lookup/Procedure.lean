import RealmLookup.Lookup.Basic
import Mathlib.Data.List.Basic
import Mathlib.Data.List.Find
import Mathlib.Tactic.Common

/-!
# The procedure of a lookup

Which strategies a lookup calls, with what, and what it makes of their outcomes, for strategies of
any kind.  Its calls are seen through strategies that record them.

## Main definitions

* `Lookup.Strategy.traced` : a strategy that records its calls.
* `Lookup.Strategy.Selected` : the parameters that strategies get to see.
* `Lookup.searches`, `Lookup.verdict` : when parameters are searched, and the result.
* `Lookup.Strategy.procedure` : the calls and the result of a lookup.
* `Lookup.Strategy.Agree` : parameters that a lookup cannot tell apart.

## Main results

* `Lookup.Strategy.resolve_procedure` : a lookup follows the procedure.
-/

namespace RealmLookup.Lookup

open RealmLookup.Json

/-! ### Outcomes -/

/-- Whether the parameters are searched, given the outcome of the call by the external name, if
there was one. -/
def searches : Option (Except Error String) → Bool
  | none => true
  | some (.error (.client (.api status _ _))) => status == 404
  | some _ => false

/-- The result of a search, given the outcome of its call. -/
def found : Except Error (Option String) → Except Error (Option String)
  | .ok none => .ok none
  | .ok (some id) => .ok (if id = "" then none else some id)
  | .error (.client (.api 404 _ _)) => .ok none
  | .error error => .error error

/-- The result of a lookup, given the outcomes of its calls. -/
def verdict : Option (Except Error String) → Option (Except Error (Option String)) →
    Except Error (Option String)
  | some (.ok id), _ => .ok (if id = "" then none else some id)
  | some (.error error), none => .error error
  | none, none => .ok none
  | _, some outcome => found outcome

theorem nonEmpty_eq (id : String) :
    Strategy.nonEmpty id = if id = "" then none else some id := by
  unfold Strategy.nonEmpty
  simp only [String.isEmpty_iff]

theorem found_eq_settle (outcome : Except Error (Option String)) :
    found outcome = Strategy.settle outcome := by
  rcases outcome with error | _ | id
  · rcases error with key | ⟨key, reason⟩ | count | error | error
    iterate 4 rfl
    rcases error with ⟨status, url, message⟩ | _
    · by_cases absent : status = 404
      · rw [absent]
        rfl
      · simp [found, Strategy.settle, Error.isNotFound, Client.Error.isNotFound, absent]
    all_goals rfl
  · rfl
  · exact congrArg Except.ok (nonEmpty_eq id).symm

theorem searches_some_error (error : Error) :
    searches (some (.error error)) = error.isNotFound := by
  cases error with
  | client error => cases error <;> rfl
  | _ => rfl

theorem verdict_of_ok (id : String) (second : Option (Except Error (Option String))) :
    verdict (some (.ok id)) second = .ok (Strategy.nonEmpty id) := by
  rw [nonEmpty_eq]
  rfl

/-- Where the parameters are searched, the search decides. -/
theorem verdict_of_search {first : Option (Except Error String)}
    (searched : searches first = true) (second : Except Error (Option String)) :
    verdict first (some second) = Strategy.settle second := by
  rw [← found_eq_settle]
  rcases first with _ | error | id
  · rfl
  · rfl
  · cases searched

variable {m : Type → Type} {α : Type}

namespace Strategy

/-! ### Recorded calls -/

section Tracing

variable [Monad m] (strategy : Strategy m)

/-- The strategy that also records its calls. -/
def traced : Strategy (StateT (List Call) m) where
  required := strategy.required
  optional := strategy.optional
  byExternalName id params := do
    modify (· ++ [.externalName id params])
    strategy.byExternalName id params
  byParameters params := do
    modify (· ++ [.parameters params])
    strategy.byParameters params

/-- Strategies of given outcomes that record their calls are traced strategies. -/
theorem recording_eq_traced (required optional : List String)
    (byExternalName : String → Parameters → Except Error String)
    (byParameters : Parameters → Except Error (Option String)) :
    recording required optional byExternalName byParameters =
      (⟨required, optional, byExternalName, byParameters⟩ : Strategy Id).traced := rfl

/-- The calls and the result of a lookup of selected parameters.  The strategy of the external name
is called just if there is one, that of the parameters just if the other one was not called or its
object is gone. -/
def procedure (externalName : String) (selected : Parameters) :
    m (Except Error (Option String) × List Call) := do
  let first ← if externalName = "" then pure none
    else some <$> strategy.byExternalName externalName selected
  let second ← if searches first then some <$> strategy.byParameters selected else pure none
  return (verdict first second,
    (first.map fun _ => Call.externalName externalName selected).toList ++
      (second.map fun _ => Call.parameters selected).toList)

end Tracing

/-! ### Selected parameters -/

/-- The parameters that strategies get to see: the declared ones alone, with an empty text for each
one that is absent. -/
structure Selected (strategy : Strategy m) (params selected : Parameters) : Prop where
  ascending : selected.keys.Pairwise (· < ·)
  keys : ∀ key, key ∈ selected.keys ↔ key ∈ strategy.required ∨ key ∈ strategy.optional
  values : ∀ key ∈ selected.keys,
    selected.get? key = some ((params.get? key).getD (.string ""))

/-- Parameters that a lookup cannot tell apart: the declared ones are the same, where an absent
optional one is as good as an empty text. -/
structure Agree (strategy : Strategy m) (params other : Parameters) : Prop where
  required : ∀ key ∈ strategy.required, other.get? key = params.get? key
  optional : ∀ key ∈ strategy.optional,
    (other.get? key).getD (.string "") = (params.get? key).getD (.string "")

/-- Whether a parameter is absent. -/
def isAbsent (params : Parameters) (key : String) : Bool :=
  (params.get? key).isNone

section Select

variable (params : Parameters)

/-- Required parameters are added like optional ones if none of them is absent. -/
theorem selectRequired_eq (keys : List String) (selected : Parameters) :
    selectRequired params keys selected =
      match keys.find? (isAbsent params) with
      | some key => .error (.missingParameter key)
      | none => .ok (selectOptional params keys selected) := by
  induction keys generalizing selected with
  | nil => rfl
  | cons key rest ih =>
    rw [selectRequired, List.find?_cons]
    cases found : params.get? key with
    | none => simp [isAbsent, found]
    | some value =>
      dsimp only
      rw [ih, isAbsent, found]
      dsimp only [Option.isNone_some]
      rw [selectOptional, selectOptional, List.foldl_cons, found]
      rfl

theorem select_eq (strategy : Strategy m) :
    strategy.select params =
      match strategy.required.find? (isAbsent params) with
      | some key => .error (.missingParameter key)
      | none => .ok (selectOptional params (strategy.required ++ strategy.optional) .empty) := by
  unfold select
  rw [selectRequired_eq]
  cases strategy.required.find? (isAbsent params) with
  | some key => rfl
  | none =>
    dsimp only
    rw [selectOptional, selectOptional, selectOptional, List.foldl_append]

theorem mem_keys_selectOptional {keys : List String} {selected : Parameters} {key : String} :
    key ∈ (selectOptional params keys selected).keys ↔ key ∈ keys ∨ key ∈ selected.keys := by
  induction keys generalizing selected with
  | nil => simp [selectOptional]
  | cons first rest ih =>
    rw [selectOptional, List.foldl_cons, ← selectOptional, ih]
    have inserted : key ∈ (selected.insert first ((params.get? first).getD (.string ""))).keys ↔
        key = first ∨ key ∈ selected.keys := Table.mem_keys_insert
    rw [inserted, List.mem_cons, or_assoc, or_left_comm]

theorem ascending_selectOptional (keys : List String) {selected : Parameters}
    (ascending : selected.keys.Pairwise (· < ·)) :
    (selectOptional params keys selected).keys.Pairwise (· < ·) := by
  induction keys generalizing selected with
  | nil => exact ascending
  | cons key rest ih => exact ih (Table.sorted_insert key _ ascending)

theorem get?_selectOptional {keys : List String} {selected : Parameters} {key : String}
    (declared : key ∈ keys ∨
      selected.get? key = some ((params.get? key).getD (.string ""))) :
    (selectOptional params keys selected).get? key =
      some ((params.get? key).getD (.string "")) := by
  induction keys generalizing selected with
  | nil =>
    rcases declared with member | value
    · cases member
    · exact value
  | cons first rest ih =>
    refine ih ?_
    have inserted : (selected.insert first ((params.get? first).getD (.string ""))).get? key =
        if first = key then some ((params.get? first).getD (.string "")) else selected.get? key :=
      Table.get?_insert
    rw [inserted]
    by_cases same : first = key
    · rw [if_pos same, same]
      exact .inr rfl
    · rw [if_neg same]
      refine declared.imp_left fun member => ?_
      exact (List.mem_cons.1 member).resolve_left (Ne.symm same)

/-- The declared parameters are selected, if no required one is absent. -/
theorem selected_selectOptional (strategy : Strategy m) :
    strategy.Selected params
      (selectOptional params (strategy.required ++ strategy.optional) .empty) where
  ascending := ascending_selectOptional params _ List.Pairwise.nil
  keys key := by
    rw [mem_keys_selectOptional, List.mem_append]
    exact or_iff_left List.not_mem_nil
  values key member := by
    rw [mem_keys_selectOptional] at member
    exact get?_selectOptional params (.inl (member.resolve_right List.not_mem_nil))

theorem selected_of_select {strategy : Strategy m} {params selected : Parameters}
    (selects : strategy.select params = .ok selected) : strategy.Selected params selected := by
  rw [select_eq] at selects
  split at selects
  · cases selects
  · cases selects
    exact selected_selectOptional params strategy

/-- Parameters are selected only if all required ones are there. -/
theorem present_of_select {strategy : Strategy m} {params selected : Parameters}
    (selects : strategy.select params = .ok selected) {key : String}
    (declared : key ∈ strategy.required) : ∃ value, params.get? key = some value := by
  rw [select_eq] at selects
  split at selects
  · cases selects
  · rename_i present
    have given := List.find?_eq_none.1 present key declared
    rw [isAbsent, Option.isNone_iff_eq_none, ← ne_eq, Option.ne_none_iff_exists'] at given
    exact given

/-- Parameters that agree are selected alike. -/
theorem select_of_agree {strategy : Strategy m} {params other : Parameters}
    (agree : strategy.Agree params other) : strategy.select other = strategy.select params := by
  have absent : strategy.required.find? (isAbsent other) =
      strategy.required.find? (isAbsent params) := by
    refine List.find?_congr fun key member => ?_
    rw [isAbsent, agree.required key member, isAbsent]
  have filled : selectOptional other (strategy.required ++ strategy.optional) .empty =
      selectOptional params (strategy.required ++ strategy.optional) .empty := by
    refine List.foldl_ext _ _ _ fun selected key member => ?_
    rcases List.mem_append.1 member with member | member
    · rw [agree.required key member]
    · rw [agree.optional key member]
  rw [select_eq, select_eq, absent, filled]

end Select

/-! ### Lookups -/

section Lookups

variable [Monad m] [LawfulMonad m] (strategy : Strategy m)

theorem run_traced_search (selected : Parameters) (calls : List Call) :
    (strategy.traced.search selected).run calls = do
      let outcome ← strategy.byParameters selected
      return (settle outcome, calls ++ [.parameters selected]) := by
  simp [search, traced]

theorem run_traced_byExternalName (id : String) (selected : Parameters) (calls : List Call) :
    (strategy.traced.byExternalName id selected).run calls = do
      let outcome ← strategy.byExternalName id selected
      return (outcome, calls ++ [.externalName id selected]) := by
  simp [traced]

/-- The calls and the result of a lookup whose parameters are selected. -/
theorem run_traced_resolve {externalName : String} {params selected : Parameters}
    (selects : strategy.select params = .ok selected) :
    (strategy.traced.resolve externalName params).run [] =
      strategy.procedure externalName selected := by
  have selects : strategy.traced.select params = .ok selected := selects
  unfold resolve procedure
  rw [selects]
  dsimp only
  have search : searches none = true := rfl
  by_cases empty : externalName = ""
  · rw [if_pos empty, if_pos (String.isEmpty_iff.2 empty), run_traced_search, pure_bind,
      if_pos search, bind_map_left]
    refine bind_congr fun second => ?_
    rw [verdict_of_search search]
    rfl
  · rw [if_neg empty, if_neg (by rwa [String.isEmpty_iff]), StateT.run_bind,
      run_traced_byExternalName, bind_assoc, bind_map_left]
    refine bind_congr fun first => ?_
    rw [pure_bind]
    rcases first with error | id
    · rw [searches_some_error]
      dsimp only
      cases gone : error.isNotFound with
      | true =>
        rw [← searches_some_error] at gone
        rw [if_pos rfl, if_pos rfl, run_traced_search, bind_map_left]
        refine bind_congr fun second => ?_
        rw [verdict_of_search gone]
        rfl
      | false =>
        rw [if_neg Bool.false_ne_true, if_neg Bool.false_ne_true, StateT.run_pure, pure_bind]
        rfl
    · have settled : ¬ searches (some (.ok id)) = true := Bool.false_ne_true
      dsimp only
      rw [if_neg settled, StateT.run_pure, pure_bind, verdict_of_ok]
      rfl

/-- What a lookup gives does not depend on its calls being recorded. -/
theorem resolve_eq_map_traced (externalName : String) (params : Parameters) :
    strategy.resolve externalName params =
      Prod.fst <$> (strategy.traced.resolve externalName params).run [] := by
  have selects : strategy.traced.select params = strategy.select params := rfl
  unfold resolve
  rw [selects]
  cases strategy.select params with
  | error error =>
    dsimp only
    rw [StateT.run_pure, map_pure]
  | ok selected =>
    dsimp only
    by_cases empty : externalName.isEmpty = true
    · rw [if_pos empty, if_pos empty, run_traced_search, search, map_bind]
      refine bind_congr fun second => ?_
      rw [map_pure]
    · rw [if_neg empty, if_neg empty, StateT.run_bind, run_traced_byExternalName, bind_assoc,
        map_bind]
      refine bind_congr fun first => ?_
      rw [pure_bind]
      rcases first with error | id
      · dsimp only
        cases error.isNotFound with
        | true =>
          rw [if_pos rfl, if_pos rfl, run_traced_search, search, map_bind]
          refine bind_congr fun second => ?_
          rw [map_pure]
        | false =>
          rw [if_neg Bool.false_ne_true, if_neg Bool.false_ne_true, StateT.run_pure, map_pure]
      · dsimp only
        rw [StateT.run_pure, map_pure]

/-- A lookup follows the procedure: it calls no strategy if a required parameter is absent, and
reports the first such one; else it calls the strategies with the declared parameters alone, at
most once each. -/
theorem resolve_procedure (externalName : String) (params : Parameters) :
    (match strategy.required.find? (isAbsent params) with
      | some key =>
          (strategy.traced.resolve externalName params).run [] =
            pure (.error (.missingParameter key), [])
      | none => ∃ selected, strategy.Selected params selected ∧
          (strategy.traced.resolve externalName params).run [] =
            strategy.procedure externalName selected) ∧
      strategy.resolve externalName params =
        Prod.fst <$> (strategy.traced.resolve externalName params).run [] ∧
      ∀ other, strategy.Agree params other →
        strategy.traced.resolve externalName other =
          strategy.traced.resolve externalName params := by
  have selects := select_eq params strategy
  refine ⟨?_, resolve_eq_map_traced strategy externalName params, fun other agree => ?_⟩
  · cases absent : strategy.required.find? (isAbsent params) with
    | some key =>
      rw [absent] at selects
      have selects : strategy.traced.select params = .error (.missingParameter key) := selects
      dsimp only
      rw [resolve, selects]
      rfl
    | none =>
      rw [absent] at selects
      exact ⟨_, selected_selectOptional params strategy, run_traced_resolve strategy selects⟩
  · have same : strategy.select other = strategy.select params := select_of_agree agree
    have same : strategy.traced.select other = strategy.traced.select params := same
    rw [resolve, same, resolve]

end Lookups

/-- A strategy whose object is gone by its external name and is found by its parameters. -/
def moved : Strategy Id where
  required := ["realm"]
  optional := ["parent"]
  byExternalName _ _ := .error (.client (.api 404 "http://localhost" "gone"))
  byParameters _ := .ok (some "new")

/-- An object that is gone by its external name is searched with the declared parameters. -/
theorem resolve_procedure_moved :
    ∃ selected, moved.Selected (.ofEntries [("other", .null), ("realm", .string "r")]) selected ∧
      (moved.traced.resolve "old" (.ofEntries [("other", .null), ("realm", .string "r")])).run [] =
        moved.procedure "old" selected :=
  (resolve_procedure moved "old" (.ofEntries [("other", .null), ("realm", .string "r")])).1

end Strategy

end RealmLookup.Lookup
