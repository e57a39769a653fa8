import SwapMonitor.Domain.EvidenceDecoding
import SwapMonitor.Collections.Sorting
import Mathlib.Data.String.Basic

namespace SwapMonitor
open Collections

-- What json.JSONEncoder writes in one piece.
inductive JsonScalar where
  | null
  | bool (value : Bool)
  | int (value : Int)
  | str (value : Text)

def JsonScalar.plain (value : String) : JsonScalar := .str (.plain value)

section Stream
-- The rendering of scalars that iterencode and the writer below share.
variable (scalar : JsonScalar → String)

-- _iter_tagged_scalar
def iterTaggedScalar (tag value : String) : List String :=
  ["\x7b",scalar (.plain TAG),":",scalar (.plain tag),",",scalar (.plain "value"),":",scalar (.plain value),"\x7d"]

def openEnvelope (envelopeType content : String) : List String :=
  ["\x7b",scalar (.plain TAG),":",scalar (.plain envelopeType),",",scalar (.plain content),":["]

mutual
-- _iter_encoded_evidence_json, chunk by chunk; a foreign value is never reached after a preflight.
def Evidence.chunks : Evidence → List String
  | .null => [scalar .null]
  | .bool value => [scalar (.bool value)]
  | .int value => [scalar (.int value)]
  | .str value => [scalar (.str value)]
  | .decimal value => iterTaggedScalar scalar "decimal" value.str
  | .uuid value => iterTaggedScalar scalar "uuid" (uuidText value)
  | .datetime value => iterTaggedScalar scalar "datetime" value.isoformat
  | .map entries => openEnvelope scalar "map" "entries" ++ Evidence.entryChunks entries 0 ++ ["]\x7d"]
  | .list items => openEnvelope scalar "list" "items" ++ Evidence.itemChunks items 0 ++ ["]\x7d"]
  | .tuple items => openEnvelope scalar "tuple" "items" ++ Evidence.itemChunks items 0 ++ ["]\x7d"]
  | .foreign _ => []

def Evidence.itemChunks : List Evidence → Nat → List String
  | [],_ => []
  | nested :: rest,index => (if index = 0 then [] else [","]) ++ nested.chunks ++ Evidence.itemChunks rest (index + 1)

def Evidence.entryChunks : List (String × Evidence) → Nat → List String
  | [],_ => []
  | (key,nested) :: rest,index => (if index = 0 then [] else [","]) ++ ["[",scalar (.plain key),","] ++ nested.chunks ++ ["]"] ++
      Evidence.entryChunks rest (index + 1)
end

def iterEncodedEvidenceJson (value : Evidence) : Except PyError (List String) := do
  preflightEvidencePayload value
  pure (value.chunks scalar)

def validateSizeLimit (limitBytes : Int) (boundary : String) : Except PyError Unit := do
  raiseIf (decide (limitBytes < 0)) .valueError "limit_bytes must be a non-negative integer"
  raiseIf (decide (boundary = "")) .valueError "boundary must be a non-blank string"

def measureLoop (limitBytes : Int) (boundary : String) : List String → Nat → Except PyError Nat
  | [],total => .ok total
  | chunk :: rest,total => do
    raiseIf (decide (limitBytes < (total + chunk.utf8ByteSize : Nat))) .canonicalJsonSizeLimitError
      ("canonical JSON size limit exceeded: boundary=" ++ boundary ++ ", limit_bytes=" ++ toString limitBytes ++
        ", observed_at_least_bytes=" ++ toString (total + chunk.utf8ByteSize))
    measureLoop limitBytes boundary rest (total + chunk.utf8ByteSize)

-- measure_encoded_evidence_bytes: the chunks are made as they are asked for, after the limit was looked at.
def meterEncodedEvidence (value : Evidence) (limitBytes : Int) (boundary : String) : Except PyError Nat := do
  validateSizeLimit limitBytes boundary
  let chunks ← iterEncodedEvidenceJson scalar value
  measureLoop limitBytes boundary chunks 0

def commas : List String → String
  | [] => ""
  | [text] => text
  | text :: next :: rest => text ++ "," ++ commas (next :: rest)

mutual
-- What JSONEncoder(ensure_ascii=False, sort_keys=True, separators=(",", ":")) writes of a tree.
def Json.text : Json → String
  | .null => scalar .null
  | .bool value => scalar (.bool value)
  | .int value => scalar (.int value)
  | .str value => scalar (.str value)
  | .arr items => "[" ++ commas (Json.itemTexts items) ++ "]"
  | .obj members => "\x7b" ++ commas ((sortBy Prod.fst (Json.memberTexts members)).map fun member =>
      scalar (.plain member.1) ++ ":" ++ member.2) ++ "\x7d"

def Json.itemTexts : List Json → List String
  | [] => []
  | item :: rest => item.text :: Json.itemTexts rest

def Json.memberTexts : List (String × Json) → List (String × String)
  | [] => []
  | (key,value) :: rest => (key,value.text) :: Json.memberTexts rest
end

end Stream

-- "".join(chunks)
def joined : List String → String
  | [] => ""
  | chunk :: rest => chunk ++ joined rest

theorem joined_append (left right : List String) : joined (left ++ right) = joined left ++ joined right := by
  induction left with
  | nil => simp [joined]
  | cons chunk rest ih => rw [List.cons_append,joined,joined,ih,String.append_assoc]

-- Texts that each follow a comma.
def following (texts : List String) : String := joined (texts.map fun text => "," ++ text)

theorem commas_cons (text : String) (rest : List String) : commas (text :: rest) = text ++ following rest := by
  induction rest generalizing text with
  | nil => simp [commas,following,joined]
  | cons next rest ih =>
    rw [commas,ih,following,following,List.map_cons,joined]
    simp only [String.append_assoc]

section Texts
variable {scalar : JsonScalar → String}

-- The two members of an envelope are in the order of their keys.
theorem envelope_text (envelopeType content : String) (order : TAG ≤ content) (value : Json) :
    (Json.obj [(TAG,.str (.plain envelopeType)),(content,value)]).text scalar =
      "\x7b" ++ scalar (.plain TAG) ++ ":" ++ scalar (.plain envelopeType) ++ "," ++ scalar (.plain content) ++ ":" ++
        value.text scalar ++ "\x7d" := by
  have sorted : sortBy Prod.fst (Json.memberTexts scalar [(TAG,.str (.plain envelopeType)),(content,value)]) =
      [(TAG,scalar (.plain envelopeType)),(content,value.text scalar)] := by
    simp [sortBy,Json.memberTexts,Json.text,order,JsonScalar.plain]
  rw [Json.text,sorted]
  simp only [List.map_cons,List.map_nil,commas,String.append_assoc]

theorem tagged_text (tag value : String) : joined (iterTaggedScalar scalar tag value) =
    (Json.obj [(TAG,.str (.plain tag)),("value",.str (.plain value))]).text scalar := by
  rw [envelope_text tag "value" (by decide)]
  simp [iterTaggedScalar,joined,Json.text,JsonScalar.plain,String.append_assoc]

theorem container_text {chunks : List String} {items : List Json} (envelopeType content : String) (order : TAG ≤ content)
    (same : joined chunks = commas (Json.itemTexts scalar items)) :
    joined (openEnvelope scalar envelopeType content ++ chunks ++ ["]\x7d"]) =
      (Json.obj [(TAG,.str (.plain envelopeType)),(content,.arr items)]).text scalar := by
  have closing : "]\x7d" = "]" ++ "\x7d" := by decide
  have opening : ":[" = ":" ++ "[" := by decide
  rw [envelope_text envelopeType content order,joined_append,joined_append,same,openEnvelope,closing,opening]
  simp only [joined,Json.text,String.append_assoc,String.append_empty]

mutual
-- The writer and the sorting encoder agree on every tree.
theorem chunks_text (value : Evidence) (supported : value.Supported) :
    joined (value.chunks scalar) = (encodeEvidence' value).text scalar := by
  cases value with
  | null | bool _ | int _ | str _ => simp [Evidence.chunks,encodeEvidence',joined,Json.text]
  | decimal value => exact tagged_text "decimal" value.str
  | uuid value => exact tagged_text "uuid" (uuidText value)
  | datetime value => exact tagged_text "datetime" value.isoformat
  | list items => exact container_text "list" "items" (by decide) (items_text items 0 supported)
  | tuple items => exact container_text "tuple" "items" (by decide) (items_text items 0 supported)
  | map entries => exact container_text "map" "entries" (by decide) (entries_text entries 0 supported)
  | foreign _ => exact supported.elim

theorem items_text (items : List Evidence) (index : Nat) (supported : SupportedItems items) :
    joined (Evidence.itemChunks scalar items index) =
      if index = 0 then commas (Json.itemTexts scalar (encodeItems items)) else following (Json.itemTexts scalar (encodeItems items)) := by
  cases items with
  | nil => simp [Evidence.itemChunks,encodeItems,Json.itemTexts,joined,commas,following]
  | cons item rest =>
    have first := chunks_text item supported.1
    have others := items_text rest (index + 1) supported.2
    rw [if_neg (Nat.succ_ne_zero index)] at others
    rw [Evidence.itemChunks,joined_append,joined_append,first,others,encodeItems,Json.itemTexts]
    by_cases start : index = 0
    · rw [if_pos start,if_pos start,commas_cons]
      simp [joined]
    · rw [if_neg start,if_neg start,following,following,List.map_cons,joined]
      simp [joined,String.append_assoc]

theorem entries_text (entries : List (String × Evidence)) (index : Nat) (supported : SupportedEntries entries) :
    joined (Evidence.entryChunks scalar entries index) =
      if index = 0 then commas (Json.itemTexts scalar (encodeEntries entries)) else
        following (Json.itemTexts scalar (encodeEntries entries)) := by
  match entries with
  | [] => simp [Evidence.entryChunks,encodeEntries,Json.itemTexts,joined,commas,following]
  | (key,nested) :: rest =>
    have first := chunks_text nested supported.1
    have others := entries_text rest (index + 1) supported.2
    rw [if_neg (Nat.succ_ne_zero index)] at others
    have pair : (Json.arr [.str (.plain key),encodeEvidence' nested]).text scalar =
        "[" ++ scalar (.plain key) ++ "," ++ (encodeEvidence' nested).text scalar ++ "]" := by
      simp [Json.text,Json.itemTexts,commas,JsonScalar.plain,String.append_assoc]
    rw [Evidence.entryChunks,joined_append,joined_append,joined_append,joined_append,first,others,encodeEntries,Json.itemTexts,pair]
    by_cases start : index = 0
    · rw [if_pos start,if_pos start,commas_cons]
      simp [joined,String.append_assoc]
    · rw [if_neg start,if_neg start,following,following,List.map_cons,joined]
      simp [joined,String.append_assoc]
end

-- A rendering whose scalars have the sizes that the byte counts of the entities assume.
structure JsonScalar.Sized (scalar : JsonScalar → String) : Prop where
  null : (scalar .null).utf8ByteSize = 4
  bool (value : Bool) : (scalar (.bool value)).utf8ByteSize = if value then 4 else 5
  int (value : Int) : (scalar (.int value)).utf8ByteSize = (toString value).length
  text (value : Text) : (scalar (.str value)).utf8ByteSize = jsonTextBytes value

section Sizes

theorem plain_size (sized : JsonScalar.Sized scalar) (value : String) :
    (scalar (.plain value)).utf8ByteSize = jsonStringBytes value := sized.text (.plain value)

theorem mark_sizes : "\x7b".utf8ByteSize = 1 ∧ "\x7d".utf8ByteSize = 1 ∧ ":".utf8ByteSize = 1 ∧ ",".utf8ByteSize = 1 ∧
    "[".utf8ByteSize = 1 ∧ "]".utf8ByteSize = 1 ∧ ":[".utf8ByteSize = 2 ∧ "]\x7d".utf8ByteSize = 2 := by decide

theorem tagged_size (sized : JsonScalar.Sized scalar) (tag value : String) :
    (joined (iterTaggedScalar scalar tag value)).utf8ByteSize = taggedScalarBytes tag value := by
  have own : jsonStringBytes TAG + jsonStringBytes "value" = 18 := by decide
  have marks := mark_sizes
  simp only [iterTaggedScalar,joined,String.utf8ByteSize_append,String.append_empty,plain_size sized,taggedScalarBytes]
  omega

theorem container_size (sized : JsonScalar.Sized scalar) (envelopeType content : String) (chunks : List String) :
    (joined (openEnvelope scalar envelopeType content ++ chunks ++ ["]\x7d"])).utf8ByteSize =
      18 + jsonStringBytes envelopeType + jsonStringBytes content + (joined chunks).utf8ByteSize := by
  have own : jsonStringBytes TAG = 11 := by decide
  have marks := mark_sizes
  simp only [openEnvelope,joined_append,joined,String.utf8ByteSize_append,String.append_empty,plain_size sized]
  omega

mutual
-- The bytes that the entities count are those of the chunks.
theorem chunks_size (sized : JsonScalar.Sized scalar) (value : Evidence) :
    (joined (value.chunks scalar)).utf8ByteSize = encodedEvidenceBytes value := by
  cases value with
  | null => simpa [Evidence.chunks,joined,encodedEvidenceBytes] using sized.null
  | bool value => simpa [Evidence.chunks,joined,encodedEvidenceBytes] using sized.bool value
  | int value => simpa [Evidence.chunks,joined,encodedEvidenceBytes] using sized.int value
  | str value => simpa [Evidence.chunks,joined,encodedEvidenceBytes] using sized.text value
  | decimal value => exact tagged_size sized "decimal" value.str
  | uuid value => exact tagged_size sized "uuid" (uuidText value)
  | datetime value => exact tagged_size sized "datetime" value.isoformat
  | list items =>
    have own : jsonStringBytes "list" + jsonStringBytes "items" = 13 := by decide
    have inner := items_size sized items 0
    rw [Evidence.chunks,container_size sized,inner,encodedEvidenceBytes,if_pos rfl]
    omega
  | tuple items =>
    have own : jsonStringBytes "tuple" + jsonStringBytes "items" = 14 := by decide
    have inner := items_size sized items 0
    rw [Evidence.chunks,container_size sized,inner,encodedEvidenceBytes,if_pos rfl]
    omega
  | map entries =>
    have own : jsonStringBytes "map" + jsonStringBytes "entries" = 14 := by decide
    have inner := entries_size sized entries 0
    rw [Evidence.chunks,container_size sized,inner,encodedEvidenceBytes,if_pos rfl]
    omega
  | foreign _ => rfl

theorem items_size (sized : JsonScalar.Sized scalar) (items : List Evidence) (index : Nat) :
    (joined (Evidence.itemChunks scalar items index)).utf8ByteSize =
      (if index = 0 then items.length - 1 else items.length) + encodedItemsBytes items := by
  have marks := mark_sizes
  cases items with
  | nil => simp [Evidence.itemChunks,joined,encodedItemsBytes]
  | cons item rest =>
    have first := chunks_size sized item
    have others := items_size sized rest (index + 1)
    rw [if_neg (Nat.succ_ne_zero index)] at others
    rw [Evidence.itemChunks,joined_append,joined_append,String.utf8ByteSize_append,String.utf8ByteSize_append,first,others,
      encodedItemsBytes,List.length_cons]
    by_cases start : index = 0 <;> simp only [start,if_true,if_false,joined,String.append_empty,String.utf8ByteSize_empty] <;> omega

theorem entries_size (sized : JsonScalar.Sized scalar) (entries : List (String × Evidence)) (index : Nat) :
    (joined (Evidence.entryChunks scalar entries index)).utf8ByteSize =
      (if index = 0 then entries.length - 1 else entries.length) + encodedEntriesBytes entries := by
  have marks := mark_sizes
  match entries with
  | [] => simp [Evidence.entryChunks,joined,encodedEntriesBytes]
  | (key,nested) :: rest =>
    have first := chunks_size sized nested
    have others := entries_size sized rest (index + 1)
    have named := plain_size sized key
    rw [if_neg (Nat.succ_ne_zero index)] at others
    simp only [Evidence.entryChunks,joined_append,joined,String.append_empty,String.utf8ByteSize_append,first,others,named,
      encodedEntriesBytes,List.length_cons]
    by_cases start : index = 0 <;> simp only [start,if_true,if_false,joined,String.append_empty,String.utf8ByteSize_empty] <;> omega
end

end Sizes

theorem loop_exact {limitBytes : Int} {boundary : String} {chunks : List String} {total n : Nat} (within : (total : Int) ≤ limitBytes) :
    measureLoop limitBytes boundary chunks total = .ok n ↔
      n = total + (joined chunks).utf8ByteSize ∧ (n : Int) ≤ limitBytes := by
  induction chunks generalizing total with
  | nil =>
    simp only [measureLoop,Except.ok.injEq,joined,String.utf8ByteSize_empty,Nat.add_zero]
    omega
  | cons chunk rest ih =>
    rw [measureLoop,check_ok,raiseIf_ok,decide_eq_false_iff_not,not_lt,joined,String.utf8ByteSize_append]
    constructor
    · intro ⟨more,measured⟩
      obtain ⟨size,fits⟩ := (ih more).mp measured
      exact ⟨by omega,fits⟩
    · intro ⟨size,fits⟩
      have more : ((total + chunk.utf8ByteSize : Nat) : Int) ≤ limitBytes := by omega
      exact ⟨more,(ih more).mpr ⟨by omega,fits⟩⟩

-- What persistence writes is what is streamed, and the meter takes it within a limit with its exact size.
theorem streamed_as_persisted (scalar : JsonScalar → String) (value : Evidence) (passed : preflightEvidencePayload value = .ok ()) :
    ∃ chunks tree, iterEncodedEvidenceJson scalar value = .ok chunks ∧ encodeEvidence value = .ok tree ∧
      joined chunks = tree.text scalar ∧
      ∀ limitBytes boundary n, 0 ≤ limitBytes → boundary ≠ "" →
        (meterEncodedEvidence scalar value limitBytes boundary = .ok n ↔
          n = (tree.text scalar).utf8ByteSize ∧ (n : Int) ≤ limitBytes) := by
  have streamed : iterEncodedEvidenceJson scalar value = .ok (value.chunks scalar) := by
    rw [iterEncodedEvidenceJson,passed]
    rfl
  have encoded : encodeEvidence value = .ok (encodeEvidence' value) := by
    rw [encodeEvidence,passed]
    rfl
  have same : joined (value.chunks scalar) = (encodeEvidence' value).text scalar := chunks_text value (preflight_supported passed)
  refine ⟨_,_,streamed,encoded,same,?_⟩
  intro limitBytes boundary n nonneg named
  have valid : validateSizeLimit limitBytes boundary = .ok () := by
    simp only [validateSizeLimit,check_ok,raiseIf_ok,decide_eq_false_iff_not,not_lt]
    exact ⟨nonneg,named⟩
  rw [meterEncodedEvidence,check_ok,bind_ok,← same]
  constructor
  · intro held
    obtain ⟨_,chunks,made,measured⟩ := held
    rw [streamed,Except.ok.injEq] at made
    subst made
    simpa using (loop_exact nonneg).mp measured
  · intro exact
    exact ⟨valid,_,streamed,(loop_exact nonneg).mpr (by simpa using exact)⟩

-- A mapping whose key looks like a tag, with an empty list in it.
def nestedSample : Evidence := .map [("$evidence",.list []),("items",.tuple [.bool true,.null])]

def plainScalar : JsonScalar → String
  | .null => "null"
  | .bool value => toString value
  | .int value => toString value
  | .str (.plain value) => value.quote
  | .str _ => "\"\""

theorem streamed_as_persisted_sample : ∃ chunks tree, iterEncodedEvidenceJson plainScalar nestedSample = .ok chunks ∧
    encodeEvidence nestedSample = .ok tree ∧ joined chunks = tree.text plainScalar ∧
      ∀ limitBytes boundary n, 0 ≤ limitBytes → boundary ≠ "" →
        (meterEncodedEvidence plainScalar nestedSample limitBytes boundary = .ok n ↔
          n = (tree.text plainScalar).utf8ByteSize ∧ (n : Int) ≤ limitBytes) :=
  streamed_as_persisted plainScalar nestedSample (by with_unfolding_all rfl)

end Texts
end SwapMonitor
