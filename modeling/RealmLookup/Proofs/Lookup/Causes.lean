import RealmLookup.Proofs.Lookup.Searches

/-!
# Causes of failed lookups

A lookup that ends in the error of a request ends so for its last reply: that reply is the error, or
a document that could not be read.  An error that an earlier reply had is not reported any more.

## Main definitions

* `Admin.Causes` : the replies that cause an error.
* `Admin.Plan.EndsIn` : the traces that end in the cause of an error.

## Main results

* `Lookup.Composed.endsIn` : a search ends in the cause of its error.
* `Kind.endsIn_resolve` : so does a lookup.
-/

namespace RealmLookup

open RealmLookup.Admin RealmLookup.Admin.Plan RealmLookup.Representation

variable {α β : Type} {trace first second : List (Resource × Reply)} {error : Client.Error}

namespace Admin

/-- The replies that cause an error: the error itself, and a document that cannot be read. -/
inductive Causes : Reply → Client.Error → Prop
  | failed (error : Client.Error) : Causes (.error error) error
  | unread (document : Document) : Causes (.ok document) (.decode document.url)

namespace Plan

/-- The traces whose last reply causes an error. -/
def EndsIn (error : Client.Error) (trace : List (Resource × Reply)) : Prop :=
  ∃ before resource reply, trace = before ++ [(resource, reply)] ∧ Causes reply error

theorem EndsIn.prepend (ends : EndsIn error second) : EndsIn error (first ++ second) := by
  obtain ⟨before, resource, reply, rfl, causes⟩ := ends
  exact ⟨first ++ before, resource, reply, (List.append_assoc ..).symm, causes⟩

/-! ### Reading resources -/

section Reading

variable {decoder : Decoder α} {resource : Resource}

theorem endsIn_get (traced : Trace (Plan.get decoder resource) trace (.error error)) :
    EndsIn error trace := by
  obtain ⟨reply, rfl, same⟩ := trace_get traced
  refine ⟨[], resource, reply, rfl, ?_⟩
  cases reply with
  | error other =>
    obtain rfl := Except.error.inj same
    exact .failed error
  | ok document =>
    replace same : Except.error error = document.decode decoder := same
    rw [Document.decode] at same
    split at same
    · cases same
    · obtain rfl := Except.error.inj same
      exact .unread document

theorem endsIn_map {fetch : Fetch α} {f : α → β}
    (ends : ∀ {trace}, Trace fetch trace (.error error) → EndsIn error trace)
    (traced : Trace (fetch.map f) trace (.error error)) : EndsIn error trace := by
  obtain ⟨first, second, result, rfl, led, ended⟩ := trace_bind traced
  obtain ⟨rfl, same⟩ := trace_done_iff.1 ended
  cases result with
  | error other =>
    obtain rfl := Except.error.inj same
    rw [List.append_nil]
    exact ends led
  | ok value => cases same

theorem endsIn_getOptional
    (traced : Trace (Plan.getOptional decoder resource) trace (.error error)) :
    EndsIn error trace := by
  obtain ⟨first, second, result, rfl, led, ended⟩ := trace_bind traced
  cases result with
  | error other =>
    obtain ⟨rfl, same⟩ := trace_done_iff.1 ended
    split at same
    · cases same
    · obtain rfl := Except.error.inj same
      rw [List.append_nil]
      exact endsIn_get led
  | ok value =>
    obtain ⟨-, same⟩ := trace_done_iff.1 ended
    cases same

end Reading

end Plan

end Admin

/-! ### Searches -/

namespace Lookup

theorem endsIn_ask {fetch : Fetch α}
    (ends : ∀ {trace}, Trace fetch trace (.error error) → EndsIn error trace)
    (traced : Trace (ask fetch).run trace (failed error)) : EndsIn error trace := by
  obtain ⟨first, second, result, rfl, led, ended⟩ := trace_bind traced
  obtain ⟨rfl, same⟩ := trace_done_iff.1 ended
  cases result with
  | error other =>
    obtain rfl := Error.client.inj (Except.error.inj same)
    rw [List.append_nil]
    exact ends led
  | ok value => cases same

/-- A search ends in the cause of its error. -/
theorem Composed.endsIn {search : Search α} (composed : Composed search)
    (traced : Trace search.run trace (failed error)) : EndsIn error trace := by
  induction composed generalizing trace with
  | done own =>
    obtain ⟨-, same⟩ := trace_done_iff.1 traced
    exact absurd same.symm (own error)
  | get => exact endsIn_ask endsIn_get traced
  | map => exact endsIn_ask (endsIn_map endsIn_get) traced
  | optional => exact endsIn_ask endsIn_getOptional traced
  | bind _ _ begins follows =>
    rcases trace_search_bind traced with ⟨other, same, ended⟩ | ⟨_, _, value, rfl, -, ended⟩
    · obtain rfl := Except.error.inj same
      exact begins ended
    · exact (follows value ended).prepend

/-! ### Lookups -/

namespace Strategy

variable {strategy : Strategy Plan} {externalName : String} {params : Parameters}

/-- A lookup ends in the cause of its error if its strategies do. -/
theorem endsIn_resolve
    (named : ∀ {selected trace}, Trace (strategy.byExternalName externalName selected) trace
      (failed error) → EndsIn error trace)
    (searched : ∀ {selected trace}, Trace (strategy.byParameters selected) trace
      (failed error) → EndsIn error trace)
    (traced : Trace (strategy.resolve externalName params) trace (failed error)) :
    EndsIn error trace := by
  generalize ended : (failed error : Except Error (Option String)) = result at traced
  cases trace_resolve traced with
  | unselected selects =>
    obtain rfl := Except.error.inj ended
    rw [select_eq] at selects
    split at selects <;> cases selects
  | named => cases ended
  | failed _ _ led =>
    obtain rfl := Except.error.inj ended
    exact named led
  | searched _ _ led => exact searched (eq_error_of_settle ended.symm ▸ led)
  | moved _ _ _ _ led => exact (searched (eq_error_of_settle ended.symm ▸ led)).prepend

end Strategy

end Lookup

/-- A lookup ends in the cause of its error. -/
theorem Kind.endsIn_resolve {kind : Kind} {externalName : String} {params : Parameters}
    (traced : Trace (kind.resolve externalName params) trace (Lookup.failed error)) :
    EndsIn error trace :=
  Lookup.Strategy.endsIn_resolve (fun led => (Lookup.composed_byExternalName _ kind _).endsIn led)
    (fun led => (Lookup.composed_byParameters _ kind).endsIn led) traced

end RealmLookup
