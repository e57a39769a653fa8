import SwapMonitor.Collections.Sorting
import SwapMonitor.Configuration.Payload
import SwapMonitor.Domain.DecimalTexts
import SwapMonitor.Domain.UtcTexts
import Mathlib.Data.List.Lex

namespace SwapMonitor.Configuration
open Collections JsonText

-- unicodedata.normalize("NFC", text): normalizing twice changes nothing more, and ASCII is kept.
structure UnicodeData where
  nfc : String → String
  nfc_nfc : ∀ text, nfc (nfc text) = nfc text
  nfc_ascii : ∀ text, (∀ c ∈ text.toList, c.toNat < 128) → nfc text = text

-- json.dumps(text, ensure_ascii=False)
def dumps (text : String) : String := String.ofList (quoted text)

-- _canonical_decimal
def canonicalDecimal (value : Decimal) : String :=
  if value.coefficient = 0 then "0"
  else
    let rendered := fixedPoint value
    String.ofList (if '.' ∈ rendered then rstrip '.' (rstrip '0' rendered) else rendered)

-- _canonical_datetime
def canonicalDatetime (value : Timestamp) : Except PyError String := do
  let utcValue ← value.astimezoneUtc
  pure (String.ofList (utcChars utcValue))

-- key.encode("utf-8"), which bytes compare by.
def utf8 (key : String) : List Nat := key.toUTF8.data.toList.map UInt8.toNat

-- Keys are told apart after normalization.
def requireDistinctKeys : List String → List String → Except PyError Unit
  | [],_ => .ok ()
  | key :: rest,normalizedKeys => do
    raiseIf (decide (key ∈ normalizedKeys)) .configurationCanonicalizationError
      "map contains duplicate keys after NFC normalization"
    requireDistinctKeys rest (key :: normalizedKeys)

-- The refusals of _canonical_value.
def Foreign.canonicalRefusal : Foreign → String
  | .float => "floating-point values are not canonicalizable"
  | .nonFiniteDecimal => "Decimal values must be finite"
  | .naiveDatetime => "datetime values must be timezone-aware"
  | refused => "unsupported canonical value type: " ++ refused.typeName

variable (u : UnicodeData)

def canonicalText (text : String) : String := dumps (u.nfc text)

-- f"{_canonical_value(key)}:{_canonical_value(nested)}", one after the other.
def canonicalMembers : List (String × Except PyError String) → Except PyError (List String)
  | [] => pure []
  | (key,nested) :: rest => do
    let rendered ← nested
    let following ← canonicalMembers rest
    pure ((canonicalText u key ++ ":" ++ rendered) :: following)

mutual
-- _canonical_value
def canonicalValue : Payload → Except PyError String
  | .null => pure "null"
  | .bool value => pure (if value then "true" else "false")
  | .enumMember _ member => match member.string with
    | none => raise .configurationCanonicalizationError "Enum values must have stable string values"
    | some value => pure (canonicalText u value)
  | .int value => pure (toString value)
  | .decimal value => pure (canonicalDecimal value)
  | .uuid value => pure (canonicalText u (uuidText value))
  | .datetime value => canonicalText u <$> canonicalDatetime value.toTimestamp
  | .str value => pure (canonicalText u value)
  | .map entries => do
    let normalizedEntries := canonicalEntries entries
    requireDistinctKeys (normalizedEntries.map Prod.fst) []
    let members ← canonicalMembers u (sortBy (fun entry => utf8 entry.1) normalizedEntries)
    pure ("\x7b" ++ ",".intercalate members ++ "\x7d")
  | .list items => do
    let rendered ← canonicalItems items
    pure ("[" ++ ",".intercalate rendered ++ "]")
  | .tuple items => do
    let rendered ← canonicalItems items
    pure ("[" ++ ",".intercalate rendered ++ "]")
  | .date value => pure (canonicalText u value.isoformat)
  | .foreign refused => raise .configurationCanonicalizationError refused.canonicalRefusal

def canonicalItems : List Payload → Except PyError (List String)
  | [] => pure []
  | item :: rest => do
    let rendered ← canonicalValue item
    let following ← canonicalItems rest
    pure (rendered :: following)

-- Each normalized key with what its value is rendered as; only what is asked for is raised.
def canonicalEntries : List (String × Payload) → List (String × Except PyError String)
  | [] => []
  | (rawKey,nested) :: rest => (u.nfc rawKey,canonicalValue nested) :: canonicalEntries rest
end

-- canonical_json
def canonicalJson (value : Payload) : Except PyError String := canonicalValue u value

end SwapMonitor.Configuration
