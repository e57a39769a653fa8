import SwapMonitor.Configuration.Schemas

namespace SwapMonitor.Configuration

-- entries[key] = value, in place when there is a value under the key.
def assign (entries : Entries) (key : String) (value : Payload) : Entries :=
  if (entries.map Prod.fst).contains key then
    entries.map fun entry => if entry.1 = key then (entry.1,value) else entry
  else entries ++ [(key,value)]

def incompatibleKinds (path : String) (lower higher : Kind) : Except PyError Payload :=
  raise .configurationMergeError ("incompatible configuration types at " ++ path ++ ": " ++ lower.name ++
    " cannot merge with " ++ higher.name)

-- A scalar replaces a scalar of its own type.
def mergeScalars (lower higher : Payload) (path : String) : Except PyError Payload := do
  raiseIf (decide (lower.typeName ≠ higher.typeName)) .configurationMergeError
    ("incompatible configuration types at " ++ path ++ ": " ++ lower.typeName ++ " and " ++ higher.typeName)
  pure higher

mutual
-- _merge_value without a list policy. Copying changes nothing of an immutable value.
def mergeValue (lower : Payload) : (higher : Payload) → (path : String) → Except PyError Payload
  | .null,_ => pure .null
  | .map entries,path => match lower with
    | .null => pure (.map entries)
    | .map inherited => Payload.map <$> mergeEntries inherited entries path
    | lower => incompatibleKinds path lower.kind .map
  | .list items,path => match lower with
    | .null => pure (.list items)
    | lower => if lower.kind = .list then pure (.list items) else incompatibleKinds path lower.kind .list
  | .tuple items,path => match lower with
    | .null => pure (.tuple items)
    | lower => if lower.kind = .list then pure (.list items) else incompatibleKinds path lower.kind .list
  | higher,path => match lower with
    | .null => pure higher
    | lower => if lower.kind = .scalar then mergeScalars lower higher path else incompatibleKinds path lower.kind .scalar

def mergeEntries (result : Entries) : (higher : Entries) → (path : String) → Except PyError Entries
  | [],_ => pure result
  | (key,value) :: rest,path => match result.lookup key with
    | some inherited => do
      let merged ← mergeValue inherited value (path ++ "." ++ key)
      mergeEntries (assign result key merged) rest path
    | none => mergeEntries (assign result key value) rest path
end

-- The id of an entry of a keyed list.
def keyedId (path : String) (item : Payload) : Except PyError String :=
  match item with
  | .map entries => match entryId entries with
    | some identifier => pure identifier
    | none => raise .configurationMergeError (path ++ " requires mapping entries with string id values")
  | _ => raise .configurationMergeError (path ++ " requires mapping entries with string id values")

-- The entries kept so far, and where the one with an id is.
structure Keyed where
  result : List Payload := []
  indexes : String → Option Nat := fun _ => none

def Keyed.append (keyed : Keyed) (identifier : String) (item : Payload) : Keyed where
  result := keyed.result ++ [item]
  indexes := Function.update keyed.indexes identifier (some keyed.result.length)

def keyedLower (path : String) : List Payload → Keyed → Except PyError Keyed
  | [],keyed => pure keyed
  | item :: rest,keyed => do
    let identifier ← keyedId path item
    keyedLower path rest (keyed.append identifier item)

def keyedHigher (path : String) : List Payload → Keyed → Except PyError Keyed
  | [],keyed => pure keyed
  | item :: rest,keyed => do
    let identifier ← keyedId path item
    match keyed.indexes identifier with
    | some index => do
      let merged ← mergeValue ((keyed.result[index]?).getD .null) item (path ++ "[" ++ identifier ++ "]")
      keyedHigher path rest {keyed with result := keyed.result.set index merged}
    | none => keyedHigher path rest (keyed.append identifier item)

-- _merge_keyed_list of a list that is keyed by id.
def mergeKeyedList (lower higher : List Payload) (path : String) : Except PyError (List Payload) := do
  let indexed ← keyedLower path lower {}
  let keyed ← keyedHigher path higher indexed
  pure keyed.result

-- The items of a list or a tuple.
def Payload.items : Payload → List Payload
  | .list items => items
  | .tuple items => items
  | _ => []

-- _merge_value with the list policy of its field; keyed_items are keyed and rules replaced.
def mergeField (field : PatchField) (lower higher : Payload) : Except PyError Payload :=
  if field = .keyedItems ∧ lower.kind = .list ∧ higher.kind = .list then
    Payload.list <$> mergeKeyedList lower.items higher.items field.name
  else mergeValue lower higher field.name

def extensionEntries (inherited : Entries) : List (String × ExtensionValue) → Except PyError Entries
  | [] => pure inherited
  | (key,.delete) :: rest => do
    raiseIf (!(inherited.map Prod.fst).contains key) .configurationMergeError
      ("extensions." ++ key ++ " cannot delete a non-inherited key")
    extensionEntries (inherited.filter fun entry => entry.1 != key) rest
  | (key,.plain value) :: rest => match inherited.lookup key with
    | some found => do
      let merged ← mergeValue found value ("extensions." ++ key)
      extensionEntries (assign inherited key merged) rest
    | none => extensionEntries (assign inherited key value) rest

-- _merge_extensions
def mergeExtensions (lower : Option Payload) (higher : List (String × ExtensionValue)) : Except PyError Payload :=
  match lower with
  | none => Payload.map <$> extensionEntries [] higher
  | some .null => Payload.map <$> extensionEntries [] higher
  | some (.map inherited) => Payload.map <$> extensionEntries inherited higher
  | some _ => raise .configurationMergeError "incompatible configuration types at extensions"

-- What a patch makes of a field that may have been set before.
def mergePatchValue (field : PatchField) (lower : Option Payload) : PatchValue → Except PyError Payload
  | .extensions entries => mergeExtensions lower entries
  | .plain value => match lower with
    | some lower => mergeField field lower value
    | none => pure value

end SwapMonitor.Configuration
