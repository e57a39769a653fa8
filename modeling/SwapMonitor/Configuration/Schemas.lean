import SwapMonitor.Configuration.Payload

namespace SwapMonitor.Configuration

inductive ConfigurationLayerScope where
  | system
  | market
  | strategy
  | user
  | portfolio
  | rotationPlan
  | runtimeOverride
  deriving DecidableEq

def ConfigurationLayerScope.value : ConfigurationLayerScope → String
  | .system => "SYSTEM"
  | .market => "MARKET"
  | .strategy => "STRATEGY"
  | .user => "USER"
  | .portfolio => "PORTFOLIO"
  | .rotationPlan => "ROTATION_PLAN"
  | .runtimeOverride => "RUNTIME_OVERRIDE"

-- _PRECEDENCE and _HIERARCHY_ORDER
def ConfigurationLayerScope.precedence : ConfigurationLayerScope → Nat
  | .system => 0
  | .market => 1
  | .strategy => 2
  | .user => 3
  | .portfolio => 4
  | .rotationPlan => 5
  | .runtimeOverride => 6

theorem precedence_injective {a b : ConfigurationLayerScope} (same : a.precedence = b.precedence) : a = b := by
  cases a <;> cases b <;> first | rfl | cases same

inductive PatchField where
  | configurationName
  | settings
  | rules
  | keyedItems
  | extensions
  | nullableNote
  deriving DecidableEq

def PatchField.name : PatchField → String
  | .configurationName => "configuration_name"
  | .settings => "settings"
  | .rules => "rules"
  | .keyedItems => "keyed_items"
  | .extensions => "extensions"
  | .nullableNote => "nullable_note"

-- The fields in the order the schemas declare them.
def patchFields : List PatchField := [.configurationName,.settings,.rules,.keyedItems,.extensions,.nullableNote]

-- _ALLOWED_PATCH_FIELDS_BY_SCOPE
def ConfigurationLayerScope.allowedPatchFields : ConfigurationLayerScope → List PatchField
  | .system => patchFields
  | .market => [.settings,.extensions,.nullableNote]
  | .strategy => [.settings,.rules,.keyedItems,.extensions,.nullableNote]
  | .user => [.settings,.extensions,.nullableNote]
  | .portfolio => [.settings,.extensions,.nullableNote]
  | .rotationPlan => [.settings,.rules,.keyedItems,.extensions,.nullableNote]
  | .runtimeOverride => [.settings,.extensions,.nullableNote]

abbrev Entries := List (String × Payload)

-- A value under a key of the extensions, or the directive that deletes the inherited one.
inductive ExtensionValue where
  | plain (value : Payload)
  | delete

-- A sparse patch: a field that is not set is none.
structure LayerPatch where
  configurationName : Option String := none
  settings : Option Entries := none
  rules : Option (List Entries) := none
  keyedItems : Option (List Entries) := none
  extensions : Option (List (String × ExtensionValue)) := none
  nullableNote : Option (Option String) := none

-- What getattr gives of a field that is set.
inductive PatchValue where
  | plain (value : Payload)
  | extensions (entries : List (String × ExtensionValue))

def dicts (items : List Entries) : Payload := .list (items.map .map)

def optionalText : Option String → Payload
  | none => .null
  | some value => .str value

def LayerPatch.get (patch : LayerPatch) : PatchField → Option PatchValue
  | .configurationName => patch.configurationName.map fun value => .plain (.str value)
  | .settings => patch.settings.map fun entries => .plain (.map entries)
  | .rules => patch.rules.map fun items => .plain (dicts items)
  | .keyedItems => patch.keyedItems.map fun items => .plain (dicts items)
  | .extensions => patch.extensions.map .extensions
  | .nullableNote => patch.nullableNote.map fun value => .plain (optionalText value)

-- model_fields_set
def LayerPatch.fieldsSet (patch : LayerPatch) : List PatchField := patchFields.filter fun field => (patch.get field).isSome

-- A patch of values as Python holds them.
def PatchValue.Genuine : PatchValue → Prop
  | .plain value => value.Genuine
  | .extensions entries => (entries.map Prod.fst).Nodup ∧ ∀ key value, (key,.plain value) ∈ entries → value.Genuine

def LayerPatch.Genuine (patch : LayerPatch) : Prop := ∀ field value, patch.get field = some value → value.Genuine

def deleteKey : String := "$delete"

-- The alias a delete directive is dumped by.
def ExtensionValue.dump : ExtensionValue → Payload
  | .plain value => value
  | .delete => .map [(deleteKey,.bool true)]

def PatchValue.dump : PatchValue → Payload
  | .plain value => value
  | .extensions entries => .map (entries.map fun entry => (entry.1,entry.2.dump))

-- model_dump(mode="python", by_alias=True, exclude_unset=True)
def LayerPatch.dump (patch : LayerPatch) : Payload :=
  .map (patchFields.filterMap fun field => (patch.get field).map fun value => (field.name,value.dump))

-- _delete_operation
def deleteOperation : Payload → Bool
  | .map entries => (entries.map Prod.fst).contains deleteKey
  | _ => false

mutual
-- _reject_delete_operations looks into mappings and lists, but not into tuples.
def rejectDeleteOperations : Payload → Except PyError Unit
  | .map entries => do
    raiseIf ((entries.map Prod.fst).contains deleteKey) .validationError
      "delete directives are only valid as direct extensions entries"
    rejectDeleteEntries entries
  | .list items => rejectDeleteItems items
  | _ => pure ()

def rejectDeleteItems : List Payload → Except PyError Unit
  | [] => pure ()
  | item :: rest => do
    rejectDeleteOperations item
    rejectDeleteItems rest

def rejectDeleteEntries : List (String × Payload) → Except PyError Unit
  | [] => pure ()
  | (_,value) :: rest => do
    rejectDeleteOperations value
    rejectDeleteEntries rest
end

-- The id of an entry, when it is a string.
def entryId (item : Entries) : Option String := (item.lookup "id").bind Payload.text

-- _require_unique_keyed_entries of keyed_items, which are keyed by their id.
def requireUniqueKeyedEntries : List Entries → List String → Except PyError Unit
  | [],_ => pure ()
  | item :: rest,identifiers => match entryId item with
    | none => raise .validationError "each keyed_items entry requires a non-blank string id"
    | some identifier => do
      raiseIf (blank identifier) .validationError "each keyed_items entry requires a non-blank string id"
      raiseIf (decide (identifier ∈ identifiers)) .validationError "keyed_items id values must be unique"
      requireUniqueKeyedEntries rest (identifier :: identifiers)

def rejectExtensionDeletes : List (String × ExtensionValue) → Except PyError Unit
  | [] => pure ()
  | (_,.delete) :: rest => rejectExtensionDeletes rest
  | (_,.plain value) :: rest => do
    rejectDeleteOperations value
    rejectExtensionDeletes rest

-- The field names in alphabetical order that a scope may not set.
def LayerPatch.unauthorizedFields (patch : LayerPatch) (scope : ConfigurationLayerScope) : List PatchField :=
  [PatchField.configurationName,.extensions,.keyedItems,.nullableNote,.rules,.settings].filter fun field =>
    (patch.get field).isSome && !(scope.allowedPatchFields.contains field)

-- The validators of LayerPatchSchema: those of the fields first, then those of the whole.
def LayerPatch.validate (scope : ConfigurationLayerScope) (patch : LayerPatch) : Except PyError Unit := do
  rejectDeleteOperations (((patch.get .settings).map PatchValue.dump).getD .null)
  rejectDeleteOperations (((patch.get .rules).map PatchValue.dump).getD .null)
  rejectDeleteOperations (((patch.get .keyedItems).map PatchValue.dump).getD .null)
  rejectExtensionDeletes (patch.extensions.getD [])
  let unauthorizedFields := patch.unauthorizedFields scope
  raiseIf (!unauthorizedFields.isEmpty) .validationError
    (scope.value ++ " layer does not permit patch fields: " ++ ", ".intercalate (unauthorizedFields.map PatchField.name))
  requireUniqueKeyedEntries (patch.keyedItems.getD []) []

-- The complete configuration.
structure ResolvedConfiguration where
  configurationName : String
  settings : Entries
  rules : List Entries
  keyedItems : List Entries
  extensions : Entries
  nullableNote : Option String

-- model_dump(mode="python")
def ResolvedConfiguration.dump (resolved : ResolvedConfiguration) : Payload :=
  .map [(PatchField.configurationName.name,.str resolved.configurationName),
    (PatchField.settings.name,.map resolved.settings),
    (PatchField.rules.name,dicts resolved.rules),
    (PatchField.keyedItems.name,dicts resolved.keyedItems),
    (PatchField.extensions.name,.map resolved.extensions),
    (PatchField.nullableNote.name,optionalText resolved.nullableNote)]

-- What Pydantic makes of a field in strict mode; its own messages are left out.
def strictText : Payload → Except PyError String
  | .str value => pure value
  | _ => raise .validationError "Input should be a valid string"

def strictOptionalText : Payload → Except PyError (Option String)
  | .null => pure none
  | value => some <$> strictText value

def strictDict : Payload → Except PyError Entries
  | .map entries => pure entries
  | _ => raise .validationError "Input should be a valid dictionary"

def strictDicts : Payload → Except PyError (List Entries)
  | .list items => items.mapM strictDict
  | _ => raise .validationError "Input should be a valid list"

def required (fields : PatchField → Option Payload) (field : PatchField) : Except PyError Payload :=
  match fields field with
  | some value => pure value
  | none => raise .validationError (field.name ++ " field required")

-- ResolvedConfigurationSchema.model_validate of the fields a dictionary holds.
def ResolvedConfiguration.modelValidate (fields : PatchField → Option Payload) : Except PyError ResolvedConfiguration := do
  let configurationName ← strictText (← required fields .configurationName)
  let settings ← strictDict (← required fields .settings)
  let rules ← strictDicts (← required fields .rules)
  let keyedItems ← strictDicts (← required fields .keyedItems)
  let extensions ← strictDict (← required fields .extensions)
  let nullableNote ← strictOptionalText (← required fields .nullableNote)
  rejectDeleteOperations (.map settings)
  rejectDeleteOperations (dicts rules)
  rejectDeleteOperations (dicts keyedItems)
  rejectDeleteOperations (.map extensions)
  requireUniqueKeyedEntries keyedItems []
  pure {configurationName,settings,rules,keyedItems,extensions,nullableNote}

end SwapMonitor.Configuration
