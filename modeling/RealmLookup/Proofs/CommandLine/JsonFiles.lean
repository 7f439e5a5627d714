import RealmLookup.CommandLine.ParamsFile
import RealmLookup.Proofs.Parameters
import RealmLookup.Proofs.Text.Utf8
import RealmLookup.Proofs.Yaml.Values

/-!
# Parameters in JSON files

A file with the JSON text of parameters is read as a YAML document.  It is refused if a character
may not stand in a document, if a line of a string starts with a document marker, or if a key is
too long or has a line end; and line ends inside strings are folded.  All other parameters are
loaded as they are.

## Main definitions

* `CommandLine.ReadableString`, `CommandLine.ReadableKey` : the texts that are not refused.
* `CommandLine.KeptString` : the strings that are loaded as they are.
* `CommandLine.JsonLoading` : what is loaded of the JSON text of parameters.

## Main results

* `CommandLine.parametersOfText?_toJson` : the parameters of the JSON text of parameters.
* `CommandLine.jsonLoading_of_integral` : the parameters that are loaded of a JSON file.
-/

namespace RealmLookup

namespace CommandLine

open RealmLookup.Json RealmLookup.Text RealmLookup.Yaml

variable {text key : String} {value : Value} {params : Parameters}

/-! ### Texts in files -/

/-- Strings that may stand in a file: every character is allowed in a document or escaped, and no
line starts with a document marker. -/
structure ReadableString (text : String) : Prop where
  allowed : ∀ c ∈ text.toList, c.toNat < 0x20 ∨ isAllowed c = true
  unmarked : ¬ HasMarker text.toList

/-- Keys that may stand in a file: every character is allowed in a document or escaped, there is no
line end that is not escaped, and the key is not too long in its quotes. -/
structure ReadableKey (key : String) : Prop where
  allowed : ∀ c ∈ key.toList, c.toNat < 0x20 ∨ isAllowed c = true
  inLine : ∀ c ∈ key.toList, isLineEnd c = false
  short : (renderString key).length ≤ maxKeyLength

/-- Strings that are kept: there is no U+0085 in them, and no blank beside a line or paragraph
separator. -/
structure KeptString (text : String) : Prop extends ReadableString text where
  whole : nextLine ∉ text.toList
  apart : text.toList.IsChain Apart

theorem unmarked_iff : Unmarked text ↔ ¬ HasMarker text.toList := by
  rw [Unmarked, ← isMarked_eq_true_iff, Bool.not_eq_true]

theorem readableString_iff : ReadableString text ↔ Allowed text ∧ Unmarked text :=
  ⟨fun readable => ⟨readable.allowed, unmarked_iff.2 readable.unmarked⟩,
    fun both => ⟨both.1, unmarked_iff.1 both.2⟩⟩

/-- A key without line ends has no document markers. -/
theorem readableKey_iff : ReadableKey key ↔ (Allowed key ∧ Unmarked key) ∧ Fits key := by
  rw [fits_iff]
  constructor
  · rintro ⟨allowed, inLine, short⟩
    refine ⟨⟨allowed, unmarked_iff.2 ?_⟩, inLine, short⟩
    rintro ⟨before, ending, mark, space, after, same, ends, -⟩
    have member : ending ∈ key.toList := by
      rw [same]
      simp
    rw [inLine ending member] at ends
    cases ends
  · rintro ⟨⟨allowed, -⟩, inLine, short⟩
    exact ⟨allowed, inLine, short⟩

theorem keptString_iff : KeptString text ↔ ReadableString text ∧ foldedText text = text := by
  rw [foldedText_eq_self_iff]
  exact ⟨fun kept => ⟨kept.toReadableString, kept.whole, kept.apart⟩,
    fun both => ⟨both.1, both.2.1, both.2.2⟩⟩

instance : DecidablePred ReadableString := fun text =>
  decidable_of_iff (text.toList.all (fun c => c.toNat < 0x20 || isAllowed c) = true ∧
      isMarked false text.toList = false) <| by
    rw [readableString_iff]
    simp [Allowed, Every, Unmarked]

instance : DecidablePred KeptString := fun _ => decidable_of_iff _ keptString_iff.symm

instance : DecidablePred ReadableKey := fun key =>
  decidable_of_iff
    (key.toList.all (fun c => (c.toNat < 0x20 || isAllowed c) && !isLineEnd c) = true ∧
      (renderString key).length ≤ maxKeyLength) <| by
    simp only [List.all_eq_true, Bool.and_eq_true, forall₂_and, and_assoc]
    exact ⟨fun ⟨allowed, inLine, short⟩ => ⟨by simpa using allowed, by simpa using inLine, short⟩,
      fun ⟨allowed, inLine, short⟩ => ⟨by simpa using allowed, by simpa using inLine, short⟩⟩

/-! ### Files -/

/-- The parameters with their strings folded. -/
def foldedParams (params : Parameters) : Parameters :=
  ⟨mapMembers foldedText params.entries⟩

/-- A file with the JSON text of parameters. -/
def jsonFile (path : String) (params : Parameters) : File :=
  ⟨path, some (Utf8.encode params.toJson.toList)⟩

theorem readable_iff : Texts ReadableString ReadableKey value ↔
    Legible value ∧ Texts (fun _ => True) Fits value := by
  rw [Legible, texts_and_iff, texts_and_iff]
  exact texts_congr (fun text => by rw [readableString_iff, and_true]) fun key => readableKey_iff

/-- The JSON text of parameters is not blank. -/
theorem allBlank_toJson (params : Parameters) : allBlank params.toJson.toList = false := by
  rw [Parameters.toJson, Parameters.toValue, Value.compact, String.toList_ofList]
  cases entries : params.entries with
  | nil => rfl
  | cons member rest =>
    rw [Value.render]
    rfl

section Loading

variable (tabular : Tabular params.toValue) (integral : Integral nesting params.toValue)
include tabular integral

/-- The JSON text of parameters is read as the parameters with their strings folded, exactly if
their texts may stand in a file. -/
theorem parametersOfText?_toJson : Settles (Texts ReadableString ReadableKey params.toValue)
    (parametersOfText? params.toJson.toList) (foldedParams params) := by
  have text : params.toJson.toList = (Value.object params.entries).render := String.toList_ofList
  have read := readMapping?_render (integral.mono (by decide)) tabular
  rw [parametersOfText?, allBlank_toJson, text]
  exact (read.map Parameters.mk).congr readable_iff.symm

theorem loadParameters_jsonFile (path : String) :
    (Texts ReadableString ReadableKey params.toValue →
        loadParameters (some (jsonFile path params)) [] = .ok (foldedParams params)) ∧
      (¬ Texts ReadableString ReadableKey params.toValue →
        loadParameters (some (jsonFile path params)) [] = .error (.malformed path)) := by
  have contents : (jsonFile path params).contents.bind Utf8.decodeStrict? =
      some params.toJson.toList := Utf8.decodeStrict?_encode _
  have read := parametersOfText?_toJson tabular integral
  constructor
  · intro readable
    rw [loadParameters, parametersOfFile, contents]
    simp only [read.found readable]
    rfl
  · intro fault
    rw [loadParameters, parametersOfFile, contents]
    simp only [read.absent fault]
    rfl

end Loading

/-- Folding keeps parameters exactly if it keeps all their strings. -/
theorem foldedParams_eq_self_iff : foldedParams params = params ↔
    Texts (fun text => foldedText text = text) (fun _ => True) params.toValue := by
  rw [← mapTexts_eq_self_iff, Parameters.toValue, mapTexts, Value.object.injEq]
  exact ⟨congrArg Parameters.entries, congrArg Parameters.mk⟩

/-- What is loaded of a file with the JSON text of parameters. -/
structure JsonLoading (path : String) (params : Parameters) : Prop where
  /-- Read as JSON, the text denotes the parameters. -/
  parsed : Parameters.ofJson? params.toJson = some params
  /-- If all texts may stand in a file, the parameters are loaded with their strings folded. -/
  loaded : Texts ReadableString ReadableKey params.toValue →
    loadParameters (some (jsonFile path params)) [] = .ok (foldedParams params)
  /-- If not, the file is refused. -/
  refused : ¬ Texts ReadableString ReadableKey params.toValue →
    loadParameters (some (jsonFile path params)) [] = .error (.malformed path)
  /-- The parameters are loaded as they are exactly if all strings are kept. -/
  same : loadParameters (some (jsonFile path params)) [] = .ok params ↔
    Texts KeptString ReadableKey params.toValue

/-- The parameters that are loaded of a JSON file. -/
theorem jsonLoading_of_integral (tabular : Tabular params.toValue)
    (integral : Integral nesting params.toValue) (path : String) : JsonLoading path params := by
  obtain ⟨loaded, refused⟩ := loadParameters_jsonFile tabular integral path
  have kept : Texts KeptString ReadableKey params.toValue ↔
      Texts ReadableString ReadableKey params.toValue ∧
        Texts (fun text => foldedText text = text) (fun _ => True) params.toValue :=
    (texts_congr (fun text => keptString_iff) fun key => (and_true _).symm.to_iff).trans
      texts_and_iff.symm
  refine ⟨Parameters.ofJson?_toJson tabular integral, loaded, refused, ?_⟩
  by_cases readable : Texts ReadableString ReadableKey params.toValue
  · rw [loaded readable, Except.ok.injEq, foldedParams_eq_self_iff, kept, and_iff_right readable]
  · rw [refused readable, kept]
    exact iff_of_false nofun fun both => readable both.1

/-- Parameters with containers, characters that are escaped or have several bytes, and the signs of
other notations in their texts. -/
def portableParams : Parameters :=
  ⟨[("- a: #b", .array [.array [], .object [], .null, .bool true, .string "\"\\\n\u0001: \x7b---"]),
    ("𝄞", .object [("least", .number (.integer (-9223372036854775808))),
      ("most", .number (.integer 18446744073709551615))])]⟩

theorem jsonLoading_of_integral_portableParams :
    Tabular portableParams.toValue ∧ Integral nesting portableParams.toValue ∧
      JsonLoading "params.json" portableParams ∧
      loadParameters (some (jsonFile "params.json" portableParams)) [] = .ok portableParams := by
  have sorted : portableParams.entries.Sorted ∧
      Table.Sorted [("least", Value.number (.integer (-9223372036854775808))),
        ("most", .number (.integer 18446744073709551615))] := by
    unfold Table.Sorted
    decide
  have tabular : Tabular portableParams.toValue := by
    have none : Table.Sorted ([] : Table Value) := List.Pairwise.nil
    simpa [portableParams, Parameters.toValue, none] using sorted
  have integral : Integral nesting portableParams.toValue := by
    simp [portableParams, Parameters.toValue, nesting, maxInteger, twoTo]
  have kept : Texts KeptString ReadableKey portableParams.toValue := by
    have string : KeptString "\"\\\n\u0001: \x7b---" := by decide
    have keys : ReadableKey "- a: #b" ∧ ReadableKey "𝄞" ∧ ReadableKey "least" ∧
        ReadableKey "most" := by decide
    simpa [portableParams, Parameters.toValue, string] using keys
  have loading := jsonLoading_of_integral tabular integral "params.json"
  exact ⟨tabular, integral, loading, loading.same.2 kept⟩

/-- Parameters with U+0085, which JSON does not escape. -/
def nextLineParams : Parameters := ⟨[("a", .string "\u0085")]⟩

/-- The text of the parameters is read as them, but the file is loaded with a blank in place of the
line end. -/
theorem loadParameters_nextLineParams :
    Tabular nextLineParams.toValue ∧ Integral nesting nextLineParams.toValue ∧
      Parameters.ofJson? nextLineParams.toJson = some nextLineParams ∧
      loadParameters (some (jsonFile "params.json" nextLineParams)) [] =
        .ok ⟨[("a", .string " ")]⟩ ∧
      loadParameters (some (jsonFile "params.json" nextLineParams)) [] ≠ .ok nextLineParams := by
  have tabular : Tabular nextLineParams.toValue := by
    have single : Table.Sorted [("a", Value.string "\u0085")] := List.pairwise_singleton _ _
    simpa [nextLineParams, Parameters.toValue] using single
  have integral : Integral nesting nextLineParams.toValue := by
    simp [nextLineParams, Parameters.toValue, nesting]
  have readable : Texts ReadableString ReadableKey nextLineParams.toValue := by
    have texts : ReadableKey "a" ∧ ReadableString "\u0085" := by decide
    simpa [nextLineParams, Parameters.toValue] using texts
  have folded : foldedParams nextLineParams = ⟨[("a", .string " ")]⟩ := by
    have blank : foldedText "\u0085" = " " := by decide
    simp [foldedParams, nextLineParams, mapMembers, mapTexts, blank]
  have loaded := (loadParameters_jsonFile tabular integral "params.json").1 readable
  rw [folded] at loaded
  refine ⟨tabular, integral, Parameters.ofJson?_toJson tabular integral, loaded, ?_⟩
  rw [loaded]
  simp [nextLineParams]

end CommandLine

end RealmLookup
