import SwapMonitor.Configuration.Payload
import SwapMonitor.Domain.EvidenceDecoding

namespace SwapMonitor.Configuration
open Numerals

-- _TAG
def TAG : String := "$configuration_payload"

def envelope (tag member : String) (value : Json) : Json := .obj [(TAG,.str (.plain tag)),(member,value)]

-- The refusals of _encode.
def Foreign.persistenceRefusal : Foreign → Except PyError Json
  | .nonFiniteDecimal => raise .nonFiniteDecimalError "configuration Decimal must be finite"
  | .naiveDatetime => raise .naiveDatetimeError "configuration datetime must be timezone-aware"
  | refused => raise .configurationCanonicalizationError ("unsupported configuration persistence type: " ++ refused.typeName)

mutual
-- encode_configuration_payload
def encodeConfigurationPayload : Payload → Except PyError Json
  | .enumMember _ member => match member.string with
    | none => raise .configurationCanonicalizationError "configuration Enum values must have stable string values"
    | some value => pure (.str (.plain value))
  | .null => pure .null
  | .bool value => pure (.bool value)
  | .str value => pure (.str (.plain value))
  | .int value => pure (.int value)
  | .decimal value => pure (envelope "decimal" "value" (.str (.plain value.str)))
  | .uuid value => pure (envelope "uuid" "value" (.str (.plain (uuidText value))))
  | .datetime value => pure (envelope "datetime" "value" (.str (.plain value.isoformat)))
  | .date value => pure (envelope "date" "value" (.str (.plain value.isoformat)))
  | .map entries => do
    let entries ← encodeMapEntries entries
    pure (envelope "map" "entries" (.arr entries))
  | .list items => do
    let items ← encodeItems items
    pure (envelope "list" "items" (.arr items))
  | .tuple items => do
    let items ← encodeItems items
    pure (envelope "tuple" "items" (.arr items))
  | .foreign refused => refused.persistenceRefusal

def encodeItems : List Payload → Except PyError (List Json)
  | [] => pure []
  | item :: rest => do
    let encoded ← encodeConfigurationPayload item
    let following ← encodeItems rest
    pure (encoded :: following)

def encodeMapEntries : List (String × Payload) → Except PyError (List Json)
  | [] => pure []
  | (key,nested) :: rest => do
    let encoded ← encodeConfigurationPayload nested
    let following ← encodeMapEntries rest
    pure (.arr [.str (.plain key),encoded] :: following)
end

-- _require_exact_mapping
def requireExactMapping (members : List (String × Json)) (expectedKeys : List String) : Except PyError Unit :=
  raiseIf (!hasExactly members expectedKeys) .valueError "stored configuration payload envelope has an invalid shape"

-- The text that an envelope holds under its value, whatever type it names.
def renderedText (members : List (String × Json)) (typeName : String) : Except PyError String := do
  requireExactMapping members [TAG,"value"]
  match members.lookup "value" with
  | some (.str (.plain rendered)) => pure rendered
  | _ => raise .valueError ("stored configuration " ++ typeName ++ " must be a string")

def decodeDecimal (members : List (String × Json)) : Except PyError Payload := do
  let rendered ← renderedText members "Decimal"
  match parseDecimal rendered with
  | none => raise .valueError "stored configuration Decimal is invalid"
  | some none => raise .valueError "stored configuration Decimal must be finite"
  | some (some decimal) => pure (.decimal decimal)

def decodeUUID (members : List (String × Json)) : Except PyError Payload := do
  let rendered ← renderedText members "UUID"
  match parseUUID rendered with
  | none => raise .valueError "stored configuration UUID is invalid"
  | some identifier => pure (.uuid identifier)

def decodeDatetime (members : List (String × Json)) : Except PyError Payload := do
  let rendered ← renderedText members "datetime"
  match fromisoformat rendered with
  | none => raise .valueError "stored configuration datetime is invalid"
  | some none => raise .valueError "stored configuration datetime must be timezone-aware"
  | some (some timestamp) => pure (.datetime ⟨timestamp,none⟩)

def decodeDate (members : List (String × Json)) : Except PyError Payload := do
  let rendered ← renderedText members "date"
  match parseDate rendered with
  | none => raise .valueError "stored configuration date is invalid"
  | some date => pure (.date date)

mutual
-- decode_configuration_payload; the strings of a stored configuration are literal texts.
def decodeConfigurationPayload (value : Json) : Except PyError Payload :=
  match value with
  | .null => pure .null
  | .bool value => pure (.bool value)
  | .int value => pure (.int value)
  | .str (.plain value) => pure (.str value)
  | .str _ => raise .valueError "stored configuration payload contains an unsupported JSON value"
  | .arr _ => raise .valueError "stored configuration containers must use an explicit envelope"
  | .obj members =>
    match members.lookup TAG with
    | some (.str (.plain tag)) =>
      if tag = "decimal" then decodeDecimal members
      else if tag = "uuid" then decodeUUID members
      else if tag = "datetime" then decodeDatetime members
      else if tag = "date" then decodeDate members
      else if tag = "map" then do
        requireExactMapping members [TAG,"entries"]
        match _found : members.lookup "entries" with
        | some (.arr rawEntries) => Payload.map <$> decodeEntries rawEntries []
        | _ => raise .valueError "stored configuration map entries must be a list"
      else if tag = "list" then do
        requireExactMapping members [TAG,"items"]
        match _found : members.lookup "items" with
        | some (.arr items) => Payload.list <$> decodeItems items
        | _ => raise .valueError "stored configuration payload items must be a list"
      else if tag = "tuple" then do
        requireExactMapping members [TAG,"items"]
        match _found : members.lookup "items" with
        | some (.arr items) => Payload.tuple <$> decodeItems items
        | _ => raise .valueError "stored configuration payload items must be a list"
      else raise .valueError "stored configuration payload envelope has an unsupported type tag"
    | _ => raise .valueError "stored configuration payload envelope is missing its type tag"
termination_by sizeOf value
decreasing_by
  all_goals
    have smaller := lookup_smaller _found
    simp only [Json.obj.sizeOf_spec]
    omega

-- _decode_items
def decodeItems (items : List Json) : Except PyError (List Payload) :=
  match items with
  | [] => pure []
  | item :: rest => do
    let decoded ← decodeConfigurationPayload item
    let following ← decodeItems rest
    pure (decoded :: following)
termination_by sizeOf items

def decodeEntries (rawEntries : List Json) (decoded : List String) : Except PyError (List (String × Payload)) :=
  match rawEntries with
  | [] => pure []
  | .arr [.str (.plain key),nested] :: rest => do
    raiseIf (decide (key ∈ decoded)) .valueError "stored configuration map keys must be unique strings"
    let value ← decodeConfigurationPayload nested
    let following ← decodeEntries rest (key :: decoded)
    pure ((key,value) :: following)
  | .arr [_,_] :: _ => raise .valueError "stored configuration map keys must be unique strings"
  | _ :: _ => raise .valueError "stored configuration map entry must be a pair"
termination_by sizeOf rawEntries
end

mutual
-- A value with its Enum members replaced by their strings.
def Payload.strings : Payload → Payload
  | .enumMember typeName member => match member.string with
    | some value => .str value
    | none => .enumMember typeName member
  | .list items => .list (stringItems items)
  | .tuple items => .tuple (stringItems items)
  | .map entries => .map (stringEntries entries)
  | value => value

def stringItems : List Payload → List Payload
  | [] => []
  | item :: rest => item.strings :: stringItems rest

def stringEntries : List (String × Payload) → List (String × Payload)
  | [] => []
  | (key,value) :: rest => (key,value.strings) :: stringEntries rest
end

mutual
-- The zones of the datetimes are those of their offsets.
def Payload.unzoned : Payload → Payload
  | .datetime value => .datetime value.unzoned
  | .list items => .list (unzonedItems items)
  | .tuple items => .tuple (unzonedItems items)
  | .map entries => .map (unzonedEntries entries)
  | value => value

def unzonedItems : List Payload → List Payload
  | [] => []
  | item :: rest => item.unzoned :: unzonedItems rest

def unzonedEntries : List (String × Payload) → List (String × Payload)
  | [] => []
  | (key,value) :: rest => (key,value.unzoned) :: unzonedEntries rest
end

mutual
-- No datetime shows a reading that the fold of its zone changes.
def Payload.steady : Payload → Bool
  | .datetime value => !value.depends
  | .list items => steadyItems items
  | .tuple items => steadyItems items
  | .map entries => steadyEntries entries
  | _ => true

def steadyItems : List Payload → Bool
  | [] => true
  | item :: rest => item.steady && steadyItems rest

def steadyEntries : List (String × Payload) → Bool
  | [] => true
  | (_,value) :: rest => value.steady && steadyEntries rest
end

mutual
-- What a configuration may be made of.
def Payload.Supported : Payload → Prop
  | .enumMember _ member => member.string.isSome
  | .foreign _ => False
  | .list items => SupportedItems items
  | .tuple items => SupportedItems items
  | .map entries => SupportedEntries entries
  | _ => True

def SupportedItems : List Payload → Prop
  | [] => True
  | item :: rest => item.Supported ∧ SupportedItems rest

def SupportedEntries : List (String × Payload) → Prop
  | [] => True
  | (_,value) :: rest => value.Supported ∧ SupportedEntries rest
end

theorem value_rendered_text {tag : String} (rendered typeName : String) :
    renderedText [(TAG,.str (.plain tag)),("value",.str (.plain rendered))] typeName = .ok rendered := by
  simp [renderedText,requireExactMapping,hasExactly,TAG,List.lookup_cons,raiseIf,Bind.bind,Except.bind,Pure.pure,Except.pure]

theorem decimal_decoded (d : Decimal) :
    decodeDecimal [(TAG,.str (.plain "decimal")),("value",.str (.plain d.str))] = .ok (.decimal d) := by
  rw [decodeDecimal,value_rendered_text]
  simp only [Bind.bind,Except.bind,decimal_restored]
  rfl

theorem uuid_decoded {u : UUID} (room : u < 2 ^ 128) :
    decodeUUID [(TAG,.str (.plain "uuid")),("value",.str (.plain (uuidText u)))] = .ok (.uuid u) := by
  rw [decodeUUID,value_rendered_text]
  simp only [Bind.bind,Except.bind,uuid_restored room]
  rfl

theorem datetime_decoded (t : Timestamp) :
    decodeDatetime [(TAG,.str (.plain "datetime")),("value",.str (.plain t.isoformat))] = .ok (.datetime ⟨t,none⟩) := by
  rw [decodeDatetime,value_rendered_text]
  simp only [Bind.bind,Except.bind,timestamp_restored]
  rfl

theorem date_decoded (d : CivilDate) :
    decodeDate [(TAG,.str (.plain "date")),("value",.str (.plain d.isoformat))] = .ok (.date d) := by
  rw [decodeDate,value_rendered_text]
  simp only [Bind.bind,Except.bind,date_restored]
  rfl

-- What a value is encoded as decodes to it, with strings for its Enum members and without its regions.
def Restored (value : Payload) : Prop :=
  ∃ encoded, encodeConfigurationPayload value = .ok encoded ∧ decodeConfigurationPayload encoded = .ok value.strings.unzoned

mutual
theorem payload_restored (value : Payload) (genuine : value.Genuine) (supported : value.Supported) : Restored value := by
  cases value with
  | null => exact ⟨_,rfl,by rw [decodeConfigurationPayload]; rfl⟩
  | bool value => exact ⟨_,rfl,by rw [decodeConfigurationPayload]; rfl⟩
  | int value => exact ⟨_,rfl,by rw [decodeConfigurationPayload]; rfl⟩
  | str value => exact ⟨_,rfl,by rw [decodeConfigurationPayload]; rfl⟩
  | enumMember typeName member =>
    obtain ⟨text,named⟩ := Option.isSome_iff_exists.mp supported
    refine ⟨.str (.plain text),?_,?_⟩
    · rw [encodeConfigurationPayload,named]
      rfl
    · rw [decodeConfigurationPayload,Payload.strings,named]
      rfl
  | decimal value =>
    refine ⟨_,rfl,?_⟩
    rw [envelope,decodeConfigurationPayload]
    exact decimal_decoded value
  | uuid value =>
    refine ⟨_,rfl,?_⟩
    rw [envelope,decodeConfigurationPayload]
    exact uuid_decoded genuine
  | datetime value =>
    refine ⟨_,rfl,?_⟩
    rw [envelope,decodeConfigurationPayload]
    exact datetime_decoded value.toTimestamp
  | date value =>
    refine ⟨_,rfl,?_⟩
    rw [envelope,decodeConfigurationPayload]
    exact date_decoded value
  | foreign _ => exact supported.elim
  | list items =>
    obtain ⟨encoded,written,read⟩ := items_restored items genuine supported
    refine ⟨envelope "list" "items" (.arr encoded),?_,?_⟩
    · rw [encodeConfigurationPayload,written]
      rfl
    · rw [envelope,decodeConfigurationPayload]
      simp [List.lookup_cons,TAG,requireExactMapping,hasExactly,raiseIf,read,Bind.bind,Except.bind,Functor.map,Except.map,
        Payload.strings,Payload.unzoned]
  | tuple items =>
    obtain ⟨encoded,written,read⟩ := items_restored items genuine supported
    refine ⟨envelope "tuple" "items" (.arr encoded),?_,?_⟩
    · rw [encodeConfigurationPayload,written]
      rfl
    · rw [envelope,decodeConfigurationPayload]
      simp [List.lookup_cons,TAG,requireExactMapping,hasExactly,raiseIf,read,Bind.bind,Except.bind,Functor.map,Except.map,
        Payload.strings,Payload.unzoned]
  | map entries =>
    obtain ⟨encoded,written,read⟩ := entries_restored entries [] genuine.2 supported genuine.1 (fun _ _ => List.not_mem_nil)
    refine ⟨envelope "map" "entries" (.arr encoded),?_,?_⟩
    · rw [encodeConfigurationPayload,written]
      rfl
    · rw [envelope,decodeConfigurationPayload]
      simp [List.lookup_cons,TAG,requireExactMapping,hasExactly,raiseIf,read,Bind.bind,Except.bind,Functor.map,Except.map,
        Payload.strings,Payload.unzoned]

theorem items_restored (items : List Payload) (genuine : GenuineItems items) (supported : SupportedItems items) :
    ∃ encoded, encodeItems items = .ok encoded ∧ decodeItems encoded = .ok (unzonedItems (stringItems items)) := by
  cases items with
  | nil => exact ⟨[],rfl,by rw [decodeItems]; rfl⟩
  | cons item rest =>
    obtain ⟨first,written,read⟩ := payload_restored item genuine.1 supported.1
    obtain ⟨others,writtenRest,readRest⟩ := items_restored rest genuine.2 supported.2
    refine ⟨first :: others,?_,?_⟩
    · rw [encodeItems,written,writtenRest]
      rfl
    · rw [decodeItems,read,readRest]
      rfl

theorem entries_restored (entries : List (String × Payload)) (decoded : List String) (genuine : GenuineEntries entries)
    (supported : SupportedEntries entries) (distinct : (entries.map Prod.fst).Nodup)
    (fresh : ∀ key ∈ entries.map Prod.fst, key ∉ decoded) :
    ∃ encoded, encodeMapEntries entries = .ok encoded ∧ decodeEntries encoded decoded = .ok (unzonedEntries (stringEntries entries)) := by
  cases entries with
  | nil => exact ⟨[],rfl,by rw [decodeEntries]; rfl⟩
  | cons entry rest =>
    obtain ⟨key,value⟩ := entry
    rw [List.map_cons,List.nodup_cons] at distinct
    have absent : key ∉ decoded := fresh key (List.mem_cons_self ..)
    have later : ∀ other ∈ rest.map Prod.fst, other ∉ key :: decoded := by
      intro other member known
      rcases List.mem_cons.mp known with rfl | earlier
      · exact distinct.1 member
      · exact fresh other (List.mem_cons_of_mem _ member) earlier
    obtain ⟨first,written,read⟩ := payload_restored value genuine.1 supported.1
    obtain ⟨others,writtenRest,readRest⟩ := entries_restored rest (key :: decoded) genuine.2 supported.2 distinct.2 later
    refine ⟨.arr [.str (.plain key),first] :: others,?_,?_⟩
    · rw [encodeMapEntries,written,writtenRest]
      rfl
    · rw [decodeEntries,read,readRest]
      simp [absent,raiseIf,Bind.bind,Except.bind,Pure.pure,Except.pure,stringEntries,unzonedEntries]
end

theorem uuid_room {text : String} {identifier : UUID} (read : parseUUID text = some identifier) : identifier < 2 ^ 128 := by
  dsimp only [parseUUID] at read
  split at read
  · rename_i long
    have bound := read_bound read
    rw [long] at bound
    omega
  · cases read

theorem scalar_decoded {members : List (String × Json)} {value : Payload}
    (did : decodeDecimal members = .ok value ∨ decodeUUID members = .ok value ∨ decodeDatetime members = .ok value ∨
      decodeDate members = .ok value) : value.Genuine := by
  rcases did with did | did | did | did
  · simp only [decodeDecimal,bind_ok] at did
    obtain ⟨_,_,did⟩ := did
    split at did <;> simp at did
    subst did
    trivial
  · simp only [decodeUUID,bind_ok] at did
    obtain ⟨_,_,did⟩ := did
    split at did <;> simp at did
    rename_i read
    subst did
    exact uuid_room read
  · simp only [decodeDatetime,bind_ok] at did
    obtain ⟨_,_,did⟩ := did
    split at did <;> simp at did
    subst did
    trivial
  · simp only [decodeDate,bind_ok] at did
    obtain ⟨_,_,did⟩ := did
    split at did <;> simp at did
    subst did
    trivial

-- What decodes is a value as Python holds it: the decoder tells the keys of a mapping apart.
mutual
theorem decoded_genuine (json : Json) {value : Payload} (did : decodeConfigurationPayload json = .ok value) : value.Genuine := by
  match json with
  | .null | .bool _ | .int _ | .str (.plain _) =>
    rw [decodeConfigurationPayload,pure_ok] at did
    subst did
    trivial
  | .str (.digest _) | .str (.snapshotId _) | .arr _ =>
    simp [decodeConfigurationPayload] at did
  | .obj members =>
    rw [decodeConfigurationPayload] at did
    split at did
    · rename_i tag _
      by_cases decimal : tag = "decimal"
      · rw [if_pos decimal] at did
        exact scalar_decoded (.inl did)
      rw [if_neg decimal] at did
      by_cases uuid : tag = "uuid"
      · rw [if_pos uuid] at did
        exact scalar_decoded (.inr (.inl did))
      rw [if_neg uuid] at did
      by_cases datetime : tag = "datetime"
      · rw [if_pos datetime] at did
        exact scalar_decoded (.inr (.inr (.inl did)))
      rw [if_neg datetime] at did
      by_cases date : tag = "date"
      · rw [if_pos date] at did
        exact scalar_decoded (.inr (.inr (.inr did)))
      rw [if_neg date] at did
      split at did
      · rw [check_ok] at did
        obtain ⟨_,did⟩ := did
        split at did
        · rename_i rawEntries found
          have smaller := lookup_smaller found
          cases decoded : decodeEntries rawEntries [] with
          | error _ => rw [decoded] at did; cases did
          | ok entries =>
            rw [decoded] at did
            cases did
            obtain ⟨distinct,_,each⟩ := decodedEntries_genuine rawEntries decoded
            exact ⟨distinct,each⟩
        · simp at did
      · split at did
        · rw [check_ok] at did
          obtain ⟨_,did⟩ := did
          split at did
          · rename_i items found
            have smaller := lookup_smaller found
            cases decoded : decodeItems items with
            | error _ => rw [decoded] at did; cases did
            | ok values =>
              rw [decoded] at did
              cases did
              exact decodedItems_genuine items decoded
          · simp at did
        · split at did
          · rw [check_ok] at did
            obtain ⟨_,did⟩ := did
            split at did
            · rename_i items found
              have smaller := lookup_smaller found
              cases decoded : decodeItems items with
              | error _ => rw [decoded] at did; cases did
              | ok values =>
                rw [decoded] at did
                cases did
                exact decodedItems_genuine items decoded
            · simp at did
          · simp at did
    · simp at did
termination_by sizeOf json
decreasing_by
  all_goals
    simp only [Json.obj.sizeOf_spec]
    omega

theorem decodedItems_genuine (items : List Json) {values : List Payload} (did : decodeItems items = .ok values) :
    GenuineItems values := by
  match items with
  | [] =>
    rw [decodeItems,pure_ok] at did
    subst did
    trivial
  | item :: rest =>
    simp only [decodeItems,bind_ok,pure_ok] at did
    obtain ⟨first,here,others,later,rfl⟩ := did
    exact ⟨decoded_genuine item here,decodedItems_genuine rest later⟩
termination_by sizeOf items

theorem decodedEntries_genuine (rawEntries : List Json) {decoded : List String} {entries : List (String × Payload)}
    (did : decodeEntries rawEntries decoded = .ok entries) :
    (entries.map Prod.fst).Nodup ∧ (∀ key ∈ entries.map Prod.fst, key ∉ decoded) ∧ GenuineEntries entries := by
  match rawEntries with
  | [] =>
    rw [decodeEntries,pure_ok] at did
    subst did
    exact ⟨List.nodup_nil,fun _ member => absurd member List.not_mem_nil,trivial⟩
  | raw :: rest =>
    unfold decodeEntries at did
    split at did
    · cases ‹_ :: _ = []›
    · rename_i key nested following same
      cases same
      simp only [bind_ok,raiseIf_ok,decide_eq_false_iff_not,exists_const,pure_ok] at did
      obtain ⟨new,value,here,others,later,rfl⟩ := did
      obtain ⟨distinct,fresh,each⟩ := decodedEntries_genuine rest later
      refine ⟨List.nodup_cons.mpr ⟨fun again => fresh key again (List.mem_cons_self ..),distinct⟩,?_,
        decoded_genuine nested here,each⟩
      intro other member
      rcases List.mem_cons.mp member with rfl | inside
      · exact new
      · exact fun known => fresh other inside (List.mem_cons_of_mem _ known)
    · simp at did
    · simp at did
termination_by sizeOf rawEntries
end

end SwapMonitor.Configuration
