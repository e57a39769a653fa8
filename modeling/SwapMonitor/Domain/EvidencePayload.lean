import SwapMonitor.Domain.Readings

namespace SwapMonitor

def MAX_IDENTIFIER_UTF8_BYTES : Nat := 256
def MAX_STRING_UTF8_BYTES : Nat := 16 * 1024
def MAX_STRATEGY_RUN_OUTPUT_UTF8_BYTES : Nat := 256 * 1024
def MAX_STRATEGY_RUN_OUTPUT_DEPTH : Nat := 32
def MAX_STRATEGY_RUN_OUTPUT_NODES : Nat := 8192
def MAX_EVIDENCE_DECIMAL_COEFFICIENT_DIGITS : Nat := 256
def MAX_EVIDENCE_DECIMAL_ABSOLUTE_EXPONENT : Nat := 256
def MAX_EVIDENCE_DECIMAL_SERIALIZED_CHARACTERS : Nat := 512

-- The object trees evidence is made of; an inductive value has no cycles. Every type the
-- preflight refuses (floats, bytes, sets, Enums, ...) is foreign, with the message it gives.
inductive Evidence where
  | null
  | bool (value : Bool)
  | int (value : Int)
  | str (value : Text)
  | decimal (value : Decimal)
  | uuid (value : UUID)
  | datetime (value : ZonedTimestamp)
  | list (items : List Evidence)
  | tuple (items : List Evidence)
  | map (entries : List (String × Evidence))
  | foreign (refusal : String)

-- Mapping.get; nothing but a mapping answers.
def Evidence.get (value : Evidence) (key : String) : Option Evidence :=
  match value with
  | .map entries => entries.lookup key
  | _ => none

-- Python's number under == of a Boolean, an integer or a Decimal.
def Evidence.number : Evidence → Option ℚ
  | .bool value => some (if value then 1 else 0)
  | .int value => some value
  | .decimal value => some value.toRat
  | _ => none

mutual
-- Python's == with a given one of datetimes: mappings ignore their order, a list is never a tuple.
def Evidence.sameBy (datetimes : AwareDatetime → AwareDatetime → Bool) : Evidence → Evidence → Bool
  | .null,.null => true
  | .str a,.str b => a == b
  | .uuid a,.uuid b => a == b
  | .datetime a,.datetime b => datetimes a.aware b.aware
  | .list a,.list b => Evidence.sameItems datetimes a b
  | .tuple a,.tuple b => Evidence.sameItems datetimes a b
  | .map a,.map b => a.length == b.length && Evidence.sameEntries datetimes a b
  | .bool value,b => Evidence.number b == some (if value then 1 else 0)
  | .int value,b => Evidence.number b == some (value : ℚ)
  | .decimal value,b => Evidence.number b == some value.toRat
  | _,_ => false

def Evidence.sameItems (datetimes : AwareDatetime → AwareDatetime → Bool) : List Evidence → List Evidence → Bool
  | [],[] => true
  | a :: as,b :: bs => Evidence.sameBy datetimes a b && Evidence.sameItems datetimes as bs
  | _,_ => false

def Evidence.sameEntries (datetimes : AwareDatetime → AwareDatetime → Bool) :
    List (String × Evidence) → List (String × Evidence) → Bool
  | [],_ => true
  | (key,value) :: rest,other =>
    (match other.lookup key with
      | some found => Evidence.sameBy datetimes value found
      | none => false) && Evidence.sameEntries datetimes rest other
end

def Evidence.same : Evidence → Evidence → Bool := Evidence.sameBy AwareDatetime.same

-- Datetimes are the same when their instants are.
def sameInstant (a b : AwareDatetime) : Bool := decide (a.instant = b.instant)

mutual
-- The zones of the datetimes are those of their offsets.
def Evidence.unzoned : Evidence → Evidence
  | .datetime value => .datetime value.unzoned
  | .list items => .list (unzonedItems items)
  | .tuple items => .tuple (unzonedItems items)
  | .map entries => .map (unzonedEntries entries)
  | value => value

def unzonedItems : List Evidence → List Evidence
  | [] => []
  | item :: rest => item.unzoned :: unzonedItems rest

def unzonedEntries : List (String × Evidence) → List (String × Evidence)
  | [] => []
  | (key,value) :: rest => (key,value.unzoned) :: unzonedEntries rest
end

mutual
-- _freeze_evidence after a preflight that passed: lists become tuples.
def freezeEvidence : Evidence → Evidence
  | .list items => .tuple (freezeItems items)
  | .tuple items => .tuple (freezeItems items)
  | .map entries => .map (freezeEntries entries)
  | value => value

def freezeItems : List Evidence → List Evidence
  | [] => []
  | item :: rest => freezeEvidence item :: freezeItems rest

def freezeEntries : List (String × Evidence) → List (String × Evidence)
  | [] => []
  | (key,value) :: rest => (key,freezeEvidence value) :: freezeEntries rest
end

def decimalDigits (d : Decimal) : Nat := (Nat.toDigits 10 d.coefficient).length

def decimalSerializedCharacters (d : Decimal) : Nat :=
  let signCharacters := if d.negative then 1 else 0
  let coefficientDigits := decimalDigits d
  if 0 ≤ d.exponent then signCharacters + coefficientDigits + d.exponent.toNat
  else
    let decimalPoint : Int := coefficientDigits + d.exponent
    if 0 < decimalPoint then signCharacters + coefficientDigits + 1
    else signCharacters + 2 + (-decimalPoint).toNat + coefficientDigits

def requireBoundedEvidenceDecimal (d : Decimal) : Except PyError Unit := do
  raiseIf (decide (MAX_EVIDENCE_DECIMAL_COEFFICIENT_DIGITS < decimalDigits d))
    .invalidStrategyRunEvidenceError "evidence Decimal coefficient exceeds the fixed limit"
  raiseIf (decide (MAX_EVIDENCE_DECIMAL_ABSOLUTE_EXPONENT < d.exponent.natAbs))
    .invalidStrategyRunEvidenceError "evidence Decimal exponent exceeds the fixed limit"
  raiseIf (decide (MAX_EVIDENCE_DECIMAL_SERIALIZED_CHARACTERS < decimalSerializedCharacters d))
    .invalidStrategyRunEvidenceError "evidence Decimal canonical form exceeds the fixed limit"

-- len(value.encode("utf-8")); a digest has 64 characters, a snapshot id the 15 of its prefix more.
def Text.utf8Bytes : Text → Nat
  | .plain value => value.utf8ByteSize
  | .digest _ => 64
  | .snapshotId _ => 79

def requireEvidenceString (value : Text) : Except PyError Unit :=
  raiseIf (decide (MAX_STRING_UTF8_BYTES < value.utf8Bytes)) .invalidStrategyRunEvidenceError
    "evidence string exceeds the 16 KiB UTF-8 limit"

def requireEvidenceIdentifier (value : String) : Except PyError Unit :=
  raiseIf (decide (MAX_IDENTIFIER_UTF8_BYTES < value.utf8ByteSize)) .invalidStrategyRunEvidenceError
    "evidence mapping key exceeds the 256-byte UTF-8 identifier limit"

def requireContainerFitsNodeBudget (nodeCount size : Nat) : Except PyError Unit :=
  raiseIf (decide (MAX_STRATEGY_RUN_OUTPUT_NODES - nodeCount < size)) .invalidStrategyRunEvidenceError
    "evidence node count exceeds 8192"

def requireIdentifiers : List (String × Evidence) → Except PyError Unit
  | [] => .ok ()
  | (key,_) :: rest => do
    requireEvidenceIdentifier key
    requireIdentifiers rest

-- The walk pops a node, counts it and pushes its children; it pops at most one node more
-- than the budget, which is the fuel. Keys are checked last to first, as they are pushed.
def preflightLoop : Nat → List (Evidence × Nat) → Nat → Except PyError Unit
  | _,[],_ => .ok ()
  | 0,_ :: _,_ => raise .invalidStrategyRunEvidenceError "evidence node count exceeds 8192"
  | fuel + 1,(current,depth) :: stack,nodeCount => do
    raiseIf (decide (MAX_STRATEGY_RUN_OUTPUT_DEPTH < depth)) .invalidStrategyRunEvidenceError
      "evidence depth exceeds 32"
    raiseIf (decide (MAX_STRATEGY_RUN_OUTPUT_NODES < nodeCount + 1)) .invalidStrategyRunEvidenceError
      "evidence node count exceeds 8192"
    match current with
    | .map entries => do
      requireContainerFitsNodeBudget (nodeCount + 1) entries.length
      requireIdentifiers entries.reverse
      preflightLoop fuel (entries.map (fun entry => (entry.2,depth + 1)) ++ stack) (nodeCount + 1)
    | .list items => do
      requireContainerFitsNodeBudget (nodeCount + 1) items.length
      preflightLoop fuel (items.map (fun item => (item,depth + 1)) ++ stack) (nodeCount + 1)
    | .tuple items => do
      requireContainerFitsNodeBudget (nodeCount + 1) items.length
      preflightLoop fuel (items.map (fun item => (item,depth + 1)) ++ stack) (nodeCount + 1)
    | .decimal value => do
      requireBoundedEvidenceDecimal value
      preflightLoop fuel stack (nodeCount + 1)
    | .str value => do
      requireEvidenceString value
      preflightLoop fuel stack (nodeCount + 1)
    | .foreign refusal => raise .invalidStrategyRunEvidenceError refusal
    | _ => preflightLoop fuel stack (nodeCount + 1)

def preflightEvidencePayload (value : Evidence) : Except PyError Unit :=
  preflightLoop (MAX_STRATEGY_RUN_OUTPUT_NODES + 1) [(value,1)] 0

-- str(Decimal): plain notation unless the exponent is positive or the value very small.
def Decimal.str (d : Decimal) : String :=
  let digits := Nat.toDigits 10 d.coefficient
  let sign := if d.negative then "-" else ""
  let adjusted : Int := d.exponent + digits.length - 1
  if d.exponent ≤ 0 ∧ -6 ≤ adjusted then
    let point : Int := digits.length + d.exponent
    if d.exponent = 0 then sign ++ String.ofList digits
    else if 0 < point then
      sign ++ String.ofList (digits.take point.toNat) ++ "." ++ String.ofList (digits.drop point.toNat)
    else sign ++ "0." ++ String.ofList (List.replicate (-point).toNat '0' ++ digits)
  else
    let fraction := if digits.length = 1 then "" else "." ++ String.ofList (digits.drop 1)
    let exponentSign := if 0 ≤ adjusted then "+" else "-"
    sign ++ String.ofList (digits.take 1) ++ fraction ++ "E" ++ exponentSign ++ toString adjusted.natAbs

def padded (width n base : Nat) : String :=
  let digits := Nat.toDigits base n
  String.ofList (List.replicate (width - digits.length) '0' ++ digits)

-- str(UUID)
def uuidText (u : UUID) : String :=
  padded 8 (u / 2 ^ 96 % 2 ^ 32) 16 ++ "-" ++ padded 4 (u / 2 ^ 80 % 2 ^ 16) 16 ++ "-" ++
    padded 4 (u / 2 ^ 64 % 2 ^ 16) 16 ++ "-" ++ padded 4 (u / 2 ^ 48 % 2 ^ 16) 16 ++ "-" ++
    padded 12 (u % 2 ^ 48) 16

-- datetime.isoformat of a UTC instant counted in microseconds from 1970.
def isoformat (instant : Instant) : String :=
  let days := instant.fdiv 86400000000
  let rest := (instant - days * 86400000000).toNat
  -- civil date of a day number, in eras of 400 years that begin in March
  let shifted := days + 719468
  let era := shifted.fdiv 146097
  let dayOfEra := (shifted - era * 146097).toNat
  let yearOfEra := (dayOfEra - dayOfEra / 1460 + dayOfEra / 36524 - dayOfEra / 146096) / 365
  let dayOfYear := dayOfEra - (365 * yearOfEra + yearOfEra / 4 - yearOfEra / 100)
  let shiftedMonth := (5 * dayOfYear + 2) / 153
  let day := dayOfYear - (153 * shiftedMonth + 2) / 5 + 1
  let month := if shiftedMonth < 10 then shiftedMonth + 3 else shiftedMonth - 9
  let year := (yearOfEra + era * 400 + (if month ≤ 2 then 1 else 0)).toNat
  let micros := rest % 1000000
  let fraction := if micros = 0 then "" else "." ++ padded 6 micros 10
  padded 4 year 10 ++ "-" ++ padded 2 month 10 ++ "-" ++ padded 2 day 10 ++ "T" ++
    padded 2 (rest / 3600000000) 10 ++ ":" ++ padded 2 (rest / 60000000 % 60) 10 ++ ":" ++
    padded 2 (rest / 1000000 % 60) 10 ++ fraction ++ "+00:00"

-- A character inside a JSON string that is not forced to ASCII.
def jsonCharBytes (c : Char) : Nat :=
  if c = '"' ∨ c = '\\' then 2
  else if c.val < 0x20 then
    if c.val ∈ [0x08,0x09,0x0A,0x0C,0x0D] then 2 else 6
  else c.utf8Size

def jsonStringBytes (value : String) : Nat := 2 + (value.toList.map jsonCharBytes).sum

def jsonTextBytes : Text → Nat
  | .plain value => jsonStringBytes value
  | value => 2 + value.utf8Bytes

-- {"$evidence":tag,"value":rendered}
def taggedScalarBytes (tag rendered : String) : Nat :=
  23 + jsonStringBytes tag + jsonStringBytes rendered

mutual
-- The UTF-8 size of the reversible envelope, chunk by chunk.
def encodedEvidenceBytes : Evidence → Nat
  | .null => 4
  | .bool value => if value then 4 else 5
  | .int value => (toString value).length
  | .str value => jsonTextBytes value
  | .decimal value => taggedScalarBytes "decimal" value.str
  | .uuid value => taggedScalarBytes "uuid" (uuidText value)
  | .datetime value => taggedScalarBytes "datetime" value.isoformat
  -- {"$evidence":"list","items":[...]} and the same with a tuple tag
  | .list items => 31 + (items.length - 1) + encodedItemsBytes items
  | .tuple items => 32 + (items.length - 1) + encodedItemsBytes items
  -- {"$evidence":"map","entries":[["key",value],...]}
  | .map entries => 32 + (entries.length - 1) + encodedEntriesBytes entries
  -- never reached after a preflight
  | .foreign _ => 0

def encodedItemsBytes : List Evidence → Nat
  | [] => 0
  | item :: rest => encodedEvidenceBytes item + encodedItemsBytes rest

def encodedEntriesBytes : List (String × Evidence) → Nat
  | [] => 0
  | (key,value) :: rest => 3 + jsonStringBytes key + encodedEvidenceBytes value + encodedEntriesBytes rest
end

def measureEncodedEvidenceBytes (value : Evidence) (limitBytes : Nat) : Except PyError Nat := do
  raiseIf (decide (limitBytes < encodedEvidenceBytes value)) .canonicalJsonSizeLimitError
    "canonical JSON size limit exceeded"
  pure (encodedEvidenceBytes value)

-- What the database column holds.
inductive Json where
  | null
  | bool (value : Bool)
  | int (value : Int)
  | str (value : Text)
  | arr (items : List Json)
  | obj (members : List (String × Json))

def Json.get (value : Json) (key : String) : Option Json :=
  match value with
  | .obj members => members.lookup key
  | _ => none

def TAG : String := "$evidence"

mutual
def encodeEvidence' : Evidence → Json
  | .null => .null
  | .bool value => .bool value
  | .int value => .int value
  | .str value => .str value
  | .decimal value => .obj [(TAG,.str (.plain "decimal")),("value",.str (.plain value.str))]
  | .uuid value => .obj [(TAG,.str (.plain "uuid")),("value",.str (.plain (uuidText value)))]
  | .datetime value => .obj [(TAG,.str (.plain "datetime")),("value",.str (.plain value.isoformat))]
  | .map entries => .obj [(TAG,.str (.plain "map")),("entries",.arr (encodeEntries entries))]
  | .list items => .obj [(TAG,.str (.plain "list")),("items",.arr (encodeItems items))]
  | .tuple items => .obj [(TAG,.str (.plain "tuple")),("items",.arr (encodeItems items))]
  | .foreign _ => .null

def encodeItems : List Evidence → List Json
  | [] => []
  | item :: rest => encodeEvidence' item :: encodeItems rest

def encodeEntries : List (String × Evidence) → List Json
  | [] => []
  | (key,value) :: rest => .arr [.str (.plain key),encodeEvidence' value] :: encodeEntries rest
end

def encodeEvidence (value : Evidence) : Except PyError Json := do
  preflightEvidencePayload value
  pure (encodeEvidence' value)

end SwapMonitor
