import SwapMonitor.Domain.TextForms

namespace SwapMonitor

-- set(value) == expected_keys
def hasExactly (members : List (String × Json)) (expectedKeys : List String) : Bool :=
  members.all (fun member => member.1 ∈ expectedKeys) && expectedKeys.all fun key => key ∈ members.map Prod.fst

def requireExactMapping (members : List (String × Json)) (expectedKeys : List String) : Except PyError Unit :=
  raiseIf (!hasExactly members expectedKeys) .valueError "stored evidence envelope has an invalid shape"

-- The text of the value of a scalar envelope.
def scalarText (members : List (String × Json)) (message : String) : Except PyError String := do
  requireExactMapping members [TAG,"value"]
  match members.lookup "value" with
  | some (.str (.plain rendered)) => pure rendered
  | _ => raise .valueError message

def decodeDecimal (members : List (String × Json)) : Except PyError Evidence := do
  let rendered ← scalarText members "stored decimal evidence must be a string"
  match parseDecimal rendered with
  | none => raise .valueError "stored decimal evidence is invalid"
  | some none => raise .valueError "stored decimal evidence is outside supported bounds"
  | some (some decimal) => match requireBoundedEvidenceDecimal decimal with
    | .ok () => pure (.decimal decimal)
    | .error _ => raise .valueError "stored decimal evidence is outside supported bounds"

def decodeUUID (members : List (String × Json)) : Except PyError Evidence := do
  let rendered ← scalarText members "stored UUID evidence must be a string"
  match parseUUID rendered with
  | none => raise .valueError "stored UUID evidence is invalid"
  | some identifier => pure (.uuid identifier)

def decodeDatetime (members : List (String × Json)) : Except PyError Evidence := do
  let rendered ← scalarText members "stored datetime evidence must be a string"
  match fromisoformat rendered with
  | none => raise .valueError "stored datetime evidence is invalid"
  | some none => raise .valueError "stored datetime evidence must be timezone-aware"
  | some (some timestamp) => pure (.datetime ⟨timestamp,none⟩)

theorem lookup_smaller {members : List (String × Json)} {key : String} {items : List Json}
    (found : members.lookup key = some (.arr items)) : sizeOf items < sizeOf members := by
  induction members with
  | nil => cases found
  | cons member rest ih =>
    obtain ⟨name,value⟩ := member
    rw [List.lookup_cons] at found
    split at found
    · cases found
      simp only [List.cons.sizeOf_spec,Prod.mk.sizeOf_spec,Json.arr.sizeOf_spec]
      omega
    · have smaller := ih found
      simp only [List.cons.sizeOf_spec]
      omega

mutual
def decodeEvidence (value : Json) : Except PyError Evidence :=
  match value with
  | .null => .ok .null
  | .bool value => .ok (.bool value)
  | .int value => .ok (.int value)
  | .str value => .ok (.str value)
  | .arr _ => raise .valueError "stored evidence containers must use an explicit envelope"
  | .obj members =>
    match members.lookup TAG with
    | some (.str (.plain tag)) =>
      if tag = "decimal" then decodeDecimal members
      else if tag = "uuid" then decodeUUID members
      else if tag = "datetime" then decodeDatetime members
      else if tag = "map" then do
        requireExactMapping members [TAG,"entries"]
        match _found : members.lookup "entries" with
        | some (.arr rawEntries) => Evidence.map <$> decodeEntries rawEntries []
        | _ => raise .valueError "stored evidence map entries must be a list"
      else if tag = "list" then do
        requireExactMapping members [TAG,"items"]
        match _found : members.lookup "items" with
        | some (.arr items) => Evidence.list <$> decodeItems items
        | _ => raise .valueError "stored evidence items must be a list"
      else if tag = "tuple" then do
        requireExactMapping members [TAG,"items"]
        match _found : members.lookup "items" with
        | some (.arr items) => Evidence.tuple <$> decodeItems items
        | _ => raise .valueError "stored evidence items must be a list"
      else raise .valueError "stored evidence envelope has an unsupported type tag"
    | _ => raise .valueError "stored evidence envelope is missing its type tag"
termination_by sizeOf value
decreasing_by
  all_goals
    have smaller := lookup_smaller _found
    simp only [Json.obj.sizeOf_spec]
    omega

def decodeItems (items : List Json) : Except PyError (List Evidence) :=
  match items with
  | [] => .ok []
  | item :: rest => do
    let decoded ← decodeEvidence item
    let following ← decodeItems rest
    pure (decoded :: following)
termination_by sizeOf items

def decodeEntries (rawEntries : List Json) (decoded : List String) : Except PyError (List (String × Evidence)) :=
  match rawEntries with
  | [] => .ok []
  | .arr [.str (.plain key),nested] :: rest => do
    raiseIf (decide (key ∈ decoded)) .valueError "stored evidence map keys must be unique strings"
    let value ← decodeEvidence nested
    let following ← decodeEntries rest (key :: decoded)
    pure ((key,value) :: following)
  | .arr [_,_] :: _ => raise .valueError "stored evidence map keys must be unique strings"
  | _ :: _ => raise .valueError "stored evidence map entry must be a pair"
termination_by sizeOf rawEntries
end

mutual
-- A tree of objects as Python holds them: identifiers of 128 bits, and mappings with one value for each key.
def Evidence.Genuine : Evidence → Prop
  | .uuid value => value < 2 ^ 128
  | .list items => GenuineItems items
  | .tuple items => GenuineItems items
  | .map entries => (entries.map Prod.fst).Nodup ∧ GenuineEntries entries
  | _ => True

def GenuineItems : List Evidence → Prop
  | [] => True
  | item :: rest => item.Genuine ∧ GenuineItems rest

def GenuineEntries : List (String × Evidence) → Prop
  | [] => True
  | (_,value) :: rest => value.Genuine ∧ GenuineEntries rest
end

mutual
-- What the preflight establishes of every node.
def Evidence.Supported : Evidence → Prop
  | .decimal value => requireBoundedEvidenceDecimal value = .ok ()
  | .foreign _ => False
  | .list items => SupportedItems items
  | .tuple items => SupportedItems items
  | .map entries => SupportedEntries entries
  | _ => True

def SupportedItems : List Evidence → Prop
  | [] => True
  | item :: rest => item.Supported ∧ SupportedItems rest

def SupportedEntries : List (String × Evidence) → Prop
  | [] => True
  | (_,value) :: rest => value.Supported ∧ SupportedEntries rest
end

theorem supported_items {items : List Evidence} (each : ∀ item ∈ items, item.Supported) : SupportedItems items := by
  induction items with
  | nil => trivial
  | cons item rest ih =>
    exact ⟨each item (List.mem_cons_self ..),ih fun other member => each other (List.mem_cons_of_mem _ member)⟩

theorem supported_entries {entries : List (String × Evidence)} (each : ∀ entry ∈ entries, entry.2.Supported) :
    SupportedEntries entries := by
  induction entries with
  | nil => trivial
  | cons entry rest ih =>
    exact ⟨each entry (List.mem_cons_self ..),ih fun other member => each other (List.mem_cons_of_mem _ member)⟩

-- Every node the walk has still to visit will have been supported when it ends.
theorem loop_supported {fuel : Nat} {stack : List (Evidence × Nat)} {count : Nat}
    (passed : preflightLoop fuel stack count = .ok ()) : ∀ entry ∈ stack, entry.1.Supported := by
  induction fuel generalizing stack count with
  | zero =>
    cases stack with
    | nil => simp
    | cons _ _ => cases passed
  | succ fuel ih =>
    cases stack with
    | nil => simp
    | cons entry rest =>
      obtain ⟨current,depth⟩ := entry
      have visited : current.Supported ∧ ∀ entry ∈ rest, entry.1.Supported := by
        unfold preflightLoop at passed
        cases current with
        | map entries =>
          simp only [bind_ok] at passed
          obtain ⟨_,_,_,_,_,_,_,_,later⟩ := passed
          have pushed := ih later
          refine ⟨supported_entries fun entry member => ?_,fun entry member => pushed entry (List.mem_append_right _ member)⟩
          exact pushed (entry.2,depth + 1) (List.mem_append_left _ (List.mem_map.mpr ⟨entry,member,rfl⟩))
        | list items =>
          simp only [bind_ok] at passed
          obtain ⟨_,_,_,_,_,_,later⟩ := passed
          have pushed := ih later
          refine ⟨supported_items fun item member => ?_,fun entry member => pushed entry (List.mem_append_right _ member)⟩
          exact pushed (item,depth + 1) (List.mem_append_left _ (List.mem_map.mpr ⟨item,member,rfl⟩))
        | tuple items =>
          simp only [bind_ok] at passed
          obtain ⟨_,_,_,_,_,_,later⟩ := passed
          have pushed := ih later
          refine ⟨supported_items fun item member => ?_,fun entry member => pushed entry (List.mem_append_right _ member)⟩
          exact pushed (item,depth + 1) (List.mem_append_left _ (List.mem_map.mpr ⟨item,member,rfl⟩))
        | decimal value =>
          simp only [bind_ok] at passed
          obtain ⟨_,_,_,_,_,bounded,later⟩ := passed
          exact ⟨bounded,ih later⟩
        | str value =>
          simp only [bind_ok] at passed
          obtain ⟨_,_,_,_,_,_,later⟩ := passed
          exact ⟨trivial,ih later⟩
        | foreign refusal =>
          simp only [bind_ok,raise_ok,and_false,exists_false] at passed
        | null =>
          simp only [bind_ok] at passed
          obtain ⟨_,_,_,_,later⟩ := passed
          exact ⟨trivial,ih later⟩
        | bool _ =>
          simp only [bind_ok] at passed
          obtain ⟨_,_,_,_,later⟩ := passed
          exact ⟨trivial,ih later⟩
        | int _ =>
          simp only [bind_ok] at passed
          obtain ⟨_,_,_,_,later⟩ := passed
          exact ⟨trivial,ih later⟩
        | uuid _ =>
          simp only [bind_ok] at passed
          obtain ⟨_,_,_,_,later⟩ := passed
          exact ⟨trivial,ih later⟩
        | datetime _ =>
          simp only [bind_ok] at passed
          obtain ⟨_,_,_,_,later⟩ := passed
          exact ⟨trivial,ih later⟩
      intro entry member
      rcases List.mem_cons.mp member with rfl | later
      · exact visited.1
      · exact visited.2 entry later

theorem preflight_supported {value : Evidence} (passed : preflightEvidencePayload value = .ok ()) : value.Supported :=
  loop_supported passed (value,1) (List.mem_singleton.mpr rfl)

theorem decimal_decoded {d : Decimal} (bounded : requireBoundedEvidenceDecimal d = .ok ()) :
    decodeDecimal [(TAG,.str (.plain "decimal")),("value",.str (.plain d.str))] = .ok (.decimal d) := by
  have text : scalarText [(TAG,.str (.plain "decimal")),("value",.str (.plain d.str))]
      "stored decimal evidence must be a string" = .ok d.str := rfl
  rw [decodeDecimal,text]
  simp only [Bind.bind,Except.bind,decimal_restored,bounded]
  rfl

theorem uuid_decoded {u : UUID} (room : u < 2 ^ 128) :
    decodeUUID [(TAG,.str (.plain "uuid")),("value",.str (.plain (uuidText u)))] = .ok (.uuid u) := by
  have text : scalarText [(TAG,.str (.plain "uuid")),("value",.str (.plain (uuidText u)))]
      "stored UUID evidence must be a string" = .ok (uuidText u) := rfl
  rw [decodeUUID,text]
  simp only [Bind.bind,Except.bind,uuid_restored room]
  rfl

theorem datetime_decoded (t : ZonedTimestamp) :
    decodeDatetime [(TAG,.str (.plain "datetime")),("value",.str (.plain t.isoformat))] = .ok (.datetime t.unzoned) := by
  have text : scalarText [(TAG,.str (.plain "datetime")),("value",.str (.plain t.isoformat))]
      "stored datetime evidence must be a string" = .ok t.isoformat := rfl
  rw [decodeDatetime,text]
  simp only [Bind.bind,Except.bind,timestamp_restored]
  rfl

-- An envelope is told by its tag alone, whatever keys the user's own mappings have inside it.
mutual
theorem decode_encoded (value : Evidence) (genuine : value.Genuine) (supported : value.Supported) :
    decodeEvidence (encodeEvidence' value) = .ok value.unzoned := by
  cases value with
  | null =>
    rw [encodeEvidence',decodeEvidence]
    rfl
  | bool value =>
    rw [encodeEvidence',decodeEvidence]
    rfl
  | int value =>
    rw [encodeEvidence',decodeEvidence]
    rfl
  | str value =>
    rw [encodeEvidence',decodeEvidence]
    rfl
  | decimal value =>
    rw [encodeEvidence',decodeEvidence]
    exact decimal_decoded supported
  | uuid value =>
    rw [encodeEvidence',decodeEvidence]
    exact uuid_decoded genuine
  | datetime value =>
    rw [encodeEvidence',decodeEvidence]
    exact datetime_decoded value
  | foreign _ => exact supported.elim
  | list items =>
    have inside := items_decoded items genuine supported
    rw [encodeEvidence',decodeEvidence]
    simp [List.lookup_cons,TAG,requireExactMapping,hasExactly,raiseIf,inside,Evidence.unzoned,Bind.bind,Except.bind,Functor.map,
      Except.map]
  | tuple items =>
    have inside := items_decoded items genuine supported
    rw [encodeEvidence',decodeEvidence]
    simp [List.lookup_cons,TAG,requireExactMapping,hasExactly,raiseIf,inside,Evidence.unzoned,Bind.bind,Except.bind,Functor.map,
      Except.map]
  | map entries =>
    have inside := entries_decoded entries [] genuine.2 supported genuine.1 (by simp)
    rw [encodeEvidence',decodeEvidence]
    simp [List.lookup_cons,TAG,requireExactMapping,hasExactly,raiseIf,inside,Evidence.unzoned,Bind.bind,Except.bind,Functor.map,
      Except.map]

theorem items_decoded (items : List Evidence) (genuine : GenuineItems items) (supported : SupportedItems items) :
    decodeItems (encodeItems items) = .ok (unzonedItems items) := by
  cases items with
  | nil => rw [encodeItems,decodeItems,unzonedItems]
  | cons item rest =>
    rw [encodeItems,decodeItems,decode_encoded item genuine.1 supported.1,items_decoded rest genuine.2 supported.2]
    rfl

theorem entries_decoded (entries : List (String × Evidence)) (decoded : List String) (genuine : GenuineEntries entries)
    (supported : SupportedEntries entries) (distinct : (entries.map Prod.fst).Nodup)
    (fresh : ∀ key ∈ entries.map Prod.fst, key ∉ decoded) :
    decodeEntries (encodeEntries entries) decoded = .ok (unzonedEntries entries) := by
  cases entries with
  | nil => rw [encodeEntries,decodeEntries,unzonedEntries]
  | cons entry rest =>
    obtain ⟨key,value⟩ := entry
    rw [List.map_cons,List.nodup_cons] at distinct
    have absent : key ∉ decoded := fresh key (List.mem_cons_self ..)
    have later : ∀ other ∈ rest.map Prod.fst, other ∉ key :: decoded := by
      intro other member known
      rcases List.mem_cons.mp known with rfl | earlier
      · exact distinct.1 member
      · exact fresh other (List.mem_cons_of_mem _ member) earlier
    rw [encodeEntries,decodeEntries,decode_encoded value genuine.1 supported.1,
      entries_decoded rest (key :: decoded) genuine.2 supported.2 distinct.2 later]
    simp [absent,raiseIf,unzonedEntries,Bind.bind,Except.bind,Pure.pure,Except.pure]
end

theorem map_ok {α β : Type} {f : α → β} {x : Except PyError α} {b : β} (did : f <$> x = .ok b) : ∃ a, x = .ok a ∧ f a = b := by
  cases x with
  | error error => cases did
  | ok a => exact ⟨a,rfl,Except.ok.inj did⟩

theorem scalar_unzoned {members : List (String × Json)} {value : Evidence}
    (did : decodeDecimal members = .ok value ∨ decodeUUID members = .ok value ∨ decodeDatetime members = .ok value) :
    value.unzoned = value := by
  rcases did with did | did | did
  · simp only [decodeDecimal,bind_ok] at did
    obtain ⟨_,_,did⟩ := did
    split at did
    · cases did
    · cases did
    · split at did <;> cases did
      rfl
  · simp only [decodeUUID,bind_ok] at did
    obtain ⟨_,_,did⟩ := did
    split at did <;> cases did
    rfl
  · simp only [decodeDatetime,bind_ok] at did
    obtain ⟨_,_,did⟩ := did
    split at did <;> cases did
    rfl

-- What is read back has no regions.
mutual
theorem decoded_unzoned (json : Json) {value : Evidence} (did : decodeEvidence json = .ok value) : value.unzoned = value := by
  match json with
  | .null | .bool _ | .int _ | .str _ =>
    rw [decodeEvidence] at did
    cases did
    rfl
  | .arr _ => simp [decodeEvidence] at did
  | .obj members =>
    rw [decodeEvidence] at did
    split at did
    · rename_i tag _
      by_cases decimal : tag = "decimal"
      · rw [if_pos decimal] at did
        exact scalar_unzoned (.inl did)
      rw [if_neg decimal] at did
      by_cases uuid : tag = "uuid"
      · rw [if_pos uuid] at did
        exact scalar_unzoned (.inr (.inl did))
      rw [if_neg uuid] at did
      by_cases datetime : tag = "datetime"
      · rw [if_pos datetime] at did
        exact scalar_unzoned (.inr (.inr did))
      rw [if_neg datetime] at did
      split at did
      · simp only [bind_ok] at did
        obtain ⟨_,_,did⟩ := did
        split at did
        · rename_i rawEntries found
          have smaller := lookup_smaller found
          obtain ⟨entries,decoded,rfl⟩ := map_ok did
          exact congrArg Evidence.map (decodedEntries_unzoned rawEntries decoded)
        · cases did
      · split at did
        · simp only [bind_ok] at did
          obtain ⟨_,_,did⟩ := did
          split at did
          · rename_i items found
            have smaller := lookup_smaller found
            obtain ⟨values,decoded,rfl⟩ := map_ok did
            exact congrArg Evidence.list (decodedItems_unzoned items decoded)
          · cases did
        · split at did
          · simp only [bind_ok] at did
            obtain ⟨_,_,did⟩ := did
            split at did
            · rename_i items found
              have smaller := lookup_smaller found
              obtain ⟨values,decoded,rfl⟩ := map_ok did
              exact congrArg Evidence.tuple (decodedItems_unzoned items decoded)
            · cases did
          · cases did
    · cases did
termination_by sizeOf json
decreasing_by
  all_goals
    simp only [Json.obj.sizeOf_spec]
    omega

theorem decodedItems_unzoned (items : List Json) {values : List Evidence} (did : decodeItems items = .ok values) :
    unzonedItems values = values := by
  match items with
  | [] =>
    rw [decodeItems] at did
    cases did
    rfl
  | item :: rest =>
    simp only [decodeItems,bind_ok,pure_ok] at did
    obtain ⟨first,here,others,later,rfl⟩ := did
    rw [unzonedItems,decoded_unzoned item here,decodedItems_unzoned rest later]
termination_by sizeOf items

theorem decodedEntries_unzoned (rawEntries : List Json) {decoded : List String} {entries : List (String × Evidence)}
    (did : decodeEntries rawEntries decoded = .ok entries) : unzonedEntries entries = entries := by
  match rawEntries with
  | [] =>
    rw [decodeEntries] at did
    cases did
    rfl
  | raw :: rest =>
    unfold decodeEntries at did
    split at did
    · cases ‹_ :: _ = []›
    · rename_i key nested following same
      cases same
      simp only [bind_ok,pure_ok] at did
      obtain ⟨_,_,value,here,others,later,rfl⟩ := did
      rw [unzonedEntries,decoded_unzoned nested here,decodedEntries_unzoned rest later]
    · cases did
    · cases did
termination_by sizeOf rawEntries
end

end SwapMonitor
