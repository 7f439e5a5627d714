import RealmLookup.Representation.Record

/-!
# Authentication flows

## Main definitions

* `AuthenticationFlow` : a flow or subflow.
* `AuthenticationExecutionInfo` : an entry of the list of executions of a flow.
* `AuthenticationExecution` : a single execution.
* `AuthenticationExecutionConfig` : the settings attached to an execution.
-/

namespace RealmLookup.Representation

open Record

/-- A flow or subflow. -/
structure AuthenticationFlow where
  id : String
  aliasName : String
  description : Option String
  providerId : Option String
  topLevel : Bool
  builtIn : Bool
deriving DecidableEq

/-- Reads a flow. -/
def AuthenticationFlow.decode : Decoder AuthenticationFlow := fun depth tree => do
  let fields ← open? 6 depth tree
  return {
    id := ← required fields 0 "id" text
    aliasName := ← required fields 1 "alias" text
    description := ← optionalText fields 2 "description"
    providerId := ← optionalText fields 3 "providerId"
    topLevel := ← optionalFlag fields 4 "topLevel"
    builtIn := ← optionalFlag fields 5 "builtIn" }

/-- An entry of the list of executions of a flow.  Nested subflows are entries, too: they carry
the identifier of their flow, and their level is their depth below the listed flow. -/
structure AuthenticationExecutionInfo where
  id : String
  requirement : Option String
  displayName : Option String
  authenticationFlow : Bool
  providerId : Option String
  flowId : Option String
  level : Nat
  index : Int
deriving DecidableEq

/-- Reads an entry of a list of executions. -/
def AuthenticationExecutionInfo.decode : Decoder AuthenticationExecutionInfo :=
  fun depth tree => do
    let fields ← open? 8 depth tree
    return {
      id := ← required fields 0 "id" text
      requirement := ← optionalText fields 1 "requirement"
      displayName := ← optionalText fields 2 "displayName"
      authenticationFlow := ← optionalFlag fields 3 "authenticationFlow"
      providerId := ← optionalText fields 4 "providerId"
      flowId := ← optionalText fields 5 "flowId"
      level := ← optional fields 6 "level" (unsigned 32) 0
      index := ← optional fields 7 "index" signed32 0 }

/-- A single execution. -/
structure AuthenticationExecution where
  id : String
  authenticator : Option String
  parentFlow : Option String
  requirement : Option String
  priority : Option Int
deriving DecidableEq

/-- Reads a single execution. -/
def AuthenticationExecution.decode : Decoder AuthenticationExecution := fun depth tree => do
  let fields ← open? 5 depth tree
  return {
    id := ← required fields 0 "id" text
    authenticator := ← optionalText fields 1 "authenticator"
    parentFlow := ← optionalText fields 2 "parentFlow"
    requirement := ← optionalText fields 3 "requirement"
    priority := ← optional fields 4 "priority" (nullable signed32) none }

/-- The settings attached to an execution. -/
structure AuthenticationExecutionConfig where
  id : String
  aliasName : Option String
  config : Table String
deriving DecidableEq

/-- Reads the settings attached to an execution. -/
def AuthenticationExecutionConfig.decode : Decoder AuthenticationExecutionConfig :=
  fun depth tree => do
    let fields ← open? 3 depth tree
    return {
      id := ← required fields 0 "id" text
      aliasName := ← optionalText fields 1 "alias"
      config := ← optional fields 2 "config" (table text) [] }

end RealmLookup.Representation
