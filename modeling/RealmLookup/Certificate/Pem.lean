import RealmLookup.Certificate.Der
import RealmLookup.Text.Base64

/-!
# Certificates as text

Text in which certificates stand between marked lines.  Text outside the marks and blocks of
other kinds do not count, so a text without any certificate is fine; a block that is begun
must be well formed and ended, and a certificate block must hold a certificate.

## Main definitions

* `Certificate.isUsable` : the texts whose certificates can all be trusted.
-/

namespace RealmLookup.Certificate

open RealmLookup.Text

/-- The kinds of blocks whose contents are decoded. -/
def decodedLabels : List String :=
  ["CERTIFICATE", "PUBLIC KEY", "RSA PRIVATE KEY", "PRIVATE KEY", "EC PRIVATE KEY", "X509 CRL",
    "CERTIFICATE REQUEST", "ECHCONFIG"]

/-- The lines of a text. -/
def lines (text : List Char) : List (List Char) :=
  (text.foldr (fun c (parts : List Char × List (List Char)) =>
    if c = '\n' ∨ c = '\r' then ([], parts.1 :: parts.2) else (c :: parts.1, parts.2))
    ([], [])) |> fun parts => parts.1 :: parts.2

/-- The mark that begins a block. -/
def beginMark : List Char := "-----BEGIN ".toList

/-- The label of a line that begins a block; none if five dashes do not end the line. -/
def labelOf? (line : List Char) : Option (List Char) :=
  let trimmed := (line.drop beginMark.length).reverse.dropWhile (· == ' ')
  let dashes := trimmed.takeWhile (· == '-')
  if dashes.length = 5 then some (trimmed.drop 5).reverse else none

/-- The mark that ends a block. -/
def endMark (label : List Char) : List Char :=
  "-----END ".toList ++ label ++ "-----".toList

/-- Whether a finished block is in order. -/
def isBlockUsable (label contents : List Char) : Bool :=
  let label := String.ofList label
  if !decodedLabels.contains label then true
  else
    match Base64.decode? contents with
    | none => false
    | some bytes => label != "CERTIFICATE" || isCertificate bytes

/-- Whether the blocks of lines are in order, given the label and contents of an open block. -/
def areUsable : Option (List Char × List Char) → List (List Char) → Bool
  | none, [] => true
  | some _, [] => false
  | block, line :: rest =>
      if beginMark.isPrefixOf line then
        match labelOf? line with
        | none => false
        | some label => areUsable (some (label, (block.map Prod.snd).getD [])) rest
      else
        match block with
        | none => areUsable none rest
        | some (label, contents) =>
            if (endMark label).isPrefixOf line then
              isBlockUsable label contents && areUsable none rest
            else areUsable (some (label, contents ++ line)) rest

/-- Whether all certificates of a text can be trusted. -/
def isUsable (text : String) : Bool :=
  areUsable none (lines text.toList)

end RealmLookup.Certificate
