import RealmLookup.Proofs.Json.Reading
import RealmLookup.Proofs.Representation.Shapes
import RealmLookup.Proofs.Text.Utf8
import RealmLookup.Http.Basic

/-!
# Recovering representations

A representation is recovered from the body of any response that is a JSON text of it: whatever the
order of its members and the members of other names between them, with fields left out that have
their defaults, and however its strings are escaped.  Without a field that has no default nothing is
read.

## Main definitions

* `Representation.Recovered` : what is read of the body that is a text of a tree.

## Main results

* `Representation.recovered_of_spells` : representations of all types are recovered.
-/

namespace RealmLookup.Representation

open RealmLookup.Http RealmLookup.Json RealmLookup.Text

variable {α : Type} {decode : Decoder α} {shape : Shape α} {deficient : Tree → Prop} {tree : Tree}
  {text : List Char}

/-- What is read of the body that is a text of a tree: the value that the tree shows within the
limit of nesting, and nothing if the tree is deficient. -/
structure Recovered (decode : Decoder α) (shape : Shape α) (deficient : Tree → Prop) (tree : Tree)
    (text : List Char) : Prop where
  value : ∀ value, shape nesting value tree →
    (Body.complete (Utf8.encode text)).read? decode = some value
  failure : deficient tree → (Body.complete (Utf8.encode text)).read? decode = none

/-- A value is read from bytes as from the text that they encode. -/
theorem readBytes?_encode (decode : Decoder α) (text : List Char) :
    readBytes? decode (Utf8.encode text) = readText? decode text := by
  rw [readBytes?, Tree.readBytes?_encode, readText?]

/-- Malformed UTF-8 in the value of an unknown field is skipped. -/
example : (readBytes? AuthenticationExecution.decode
    (Utf8.encode "\x7b\"id\":\"1\",\"note\":\"".toList ++ 0xFF ::
      Utf8.encode "\"\x7d".toList)).map AuthenticationExecution.id = some "1" := by
  decide +kernel

/-- A body is read as the tree that its text spells. -/
theorem read?_of_spells (spells : tree.Spells text) (decode : Decoder α) :
    (Body.complete (Utf8.encode text)).read? decode = decode nesting tree := by
  rw [Body.read?, readBytes?_encode, readText?, Tree.read?_of_spells spells, Option.bind_some]

theorem Recovers.recovered (recovers : Recovers decode shape deficient)
    (spells : tree.Spells text) : Recovered decode shape deficient tree text where
  value _ shows := (read?_of_spells spells decode).trans (recovers.value shows)
  failure deficient :=
    (read?_of_spells spells decode).trans (recovers.failure nesting tree deficient)

/-- Representations of all types are recovered from their texts. -/
theorem recovered_of_spells (spells : tree.Spells text) :
    Recovered AuthenticationFlow.decode AuthenticationFlow.shape (LacksOne ["id", "alias"]) tree
      text ∧
    Recovered AuthenticationExecutionInfo.decode AuthenticationExecutionInfo.shape
      (LacksOne ["id"]) tree text ∧
    Recovered AuthenticationExecution.decode AuthenticationExecution.shape (LacksOne ["id"]) tree
      text ∧
    Recovered AuthenticationExecutionConfig.decode AuthenticationExecutionConfig.shape
      (LacksOne ["id"]) tree text ∧
    Recovered Organization.decode Organization.shape Organization.Deficient tree text ∧
    Recovered Role.decode Role.shape (LacksOne ["id", "name"]) tree text ∧
    Recovered Group.decode Group.shape Group.Deficient tree text ∧
    Recovered Client.decode Client.shape (LacksOne ["id", "clientId"]) tree text ∧
    Recovered Component.decode Component.shape (LacksOne ["id", "name", "providerId"]) tree text ∧
    Recovered ProtocolMapper.decode ProtocolMapper.shape (LacksOne ["id", "name"]) tree text :=
  ⟨AuthenticationFlow.recovers.recovered spells,
    AuthenticationExecutionInfo.recovers.recovered spells,
    AuthenticationExecution.recovers.recovered spells,
    AuthenticationExecutionConfig.recovers.recovered spells,
    Organization.recovers.recovered spells, Role.recovers.recovered spells,
    Group.recovers.recovered spells, Client.recovers.recovered spells,
    Component.recovers.recovered spells, ProtocolMapper.recovers.recovered spells⟩

/-- A group with one below it. -/
def nestedGroup : Group :=
  .mk "1" "a" none none [.mk "2" "b" none none []]

/-- A string of characters that stand for themselves. -/
def plain (text : String) : List Piece :=
  text.toList.map .scalar

/-- The tree of the group below, with a member of another name. -/
def subgroupTree : Tree :=
  .object [(plain "id", .string (plain "2")), (plain "type", .null),
    (plain "name", .string (plain "b"))]

/-- The tree of these groups. -/
def groupTree : Tree :=
  .object [(plain "subGroups", .array [subgroupTree]), (plain "name", .string (plain "a")),
    (plain "id", .string (plain "1"))]

theorem shape_groupTree (depth : Nat) : Group.shape (depth + 4) nestedGroup groupTree := by
  have named (text : String) : Denotes (plain text) text.toList := denotes_map_scalar _
  have shown (depth : Nat) (text : String) : TextShape depth text (.string (plain text)) :=
    .intro (named text)
  have below : Group.shape (depth + 2) (.mk "2" "b" none none []) subgroupTree := by
    rw [Group.shape]
    refine .intro (.listed (named "id") (shown _ "2") (.listed (named "name") (shown _ "b")
      (.omitted rfl (.omitted rfl (.omitted rfl .nil)))))
      (List.forall_mem_singleton.2 ⟨"type", named "type", by simp [Group.fields]⟩)
      (.cons _ (.swap _ _ _))
  rw [Group.shape]
  refine .intro (.listed (named "id") (shown _ "1") (.listed (named "name") (shown _ "a")
    (.omitted rfl (.omitted rfl (.listed (named "subGroups") ?_ .nil)))))
    (List.forall_mem_nil _) (List.reverse_perm _).symm
  exact .intro (.cons below .nil)

/-- A text of these groups. -/
def groupText : String :=
  "\x7b\"subGroups\":[\x7b\"id\":\"2\",\"type\":null,\"name\":\"b\"\x7d]," ++
    "\"name\":\"a\",\"id\":\"1\"\x7d"

theorem spells_groupTree : groupTree.Spells groupText.toList := by
  have quoted (text : String)
      (written : text.toList.all (fun c => 0x20 ≤ c.toNat && c != '"' && c != '\\') = true) :
      TokenText ('"' :: (text.toList ++ ['"'])) (.string (plain text)) := by
    refine .string (stringText_map_scalar fun c member => ?_)
    simpa [and_assoc] using List.all_eq_true.1 written c member
  have subgroup := List.Forall₂.cons TokenText.openObject (.cons (quoted "id" (by decide))
    (.cons .colon (.cons (quoted "2" (by decide)) (.cons .comma (.cons (quoted "type" (by decide))
      (.cons .colon (.cons .null (.cons .comma (.cons (quoted "name" (by decide)) (.cons .colon
        (.cons (quoted "b" (by decide)) (.cons .closeObject .nil))))))))))))
  have before := List.Forall₂.cons TokenText.openObject (.cons (quoted "subGroups" (by decide))
    (.cons .colon (.cons .openArray .nil)))
  have after := List.Forall₂.cons TokenText.closeArray (.cons .comma (.cons
    (quoted "name" (by decide)) (.cons .colon (.cons (quoted "a" (by decide)) (.cons .comma (.cons
      (quoted "id" (by decide)) (.cons .colon (.cons (quoted "1" (by decide))
        (.cons .closeObject .nil)))))))))
  exact spelled_flatten (List.rel_append before (List.rel_append subgroup after))

theorem recovered_of_spells_groupText :
    groupTree.Spells groupText.toList ∧ Group.shape nesting nestedGroup groupTree ∧
      (Body.complete (Utf8.encode groupText.toList)).read? Group.decode = some nestedGroup := by
  have shape : Group.shape nesting nestedGroup groupTree := shape_groupTree 123
  obtain ⟨-, -, -, -, -, -, group, -⟩ := recovered_of_spells spells_groupTree
  exact ⟨spells_groupTree, shape, group.value nestedGroup shape⟩

end RealmLookup.Representation
