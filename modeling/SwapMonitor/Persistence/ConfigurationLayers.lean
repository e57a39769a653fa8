import SwapMonitor.Configuration.Genuineness
import SwapMonitor.Persistence.ConfigurationSnapshots
import SwapMonitor.Domain.Entities

namespace SwapMonitor.Configuration
open Collections

structure ConfigurationLayerSelectionEntry where
  scope : ConfigurationLayerScope
  referenceId : UUID
  version : Int
  contentHash : Digest
  positive : 1 ≤ version

structure ConfigurationLayerSelection where
  entries : List ConfigurationLayerSelectionEntry
  distinct : (entries.map fun entry => entry.scope).Nodup

-- ordered_entries
def ConfigurationLayerSelection.orderedEntries (selection : ConfigurationLayerSelection) : List ConfigurationLayerSelectionEntry :=
  sortBy (fun entry => entry.scope.precedence) selection.entries

-- validate_for_plan
def ConfigurationLayerSelection.validateForPlan (selection : ConfigurationLayerSelection) (plan : RotationPlan) :
    Except PyError Unit :=
  raiseIf (selection.entries.any fun entry => decide (entry.scope ∈ [.rotationPlan,.runtimeOverride]) &&
    decide (entry.referenceId ≠ plan.rotationPlanId)) .valueError
    "plan-bound configuration selection reference does not match plan"

-- What both adapters ask before they store a layer.
def authorizeLayer (d : Deployment) (layer : LayerFields) (access : AccessContext) : Except PyError Unit :=
  match layer.ownership with
  | .portfolio portfolioId => do
    let ownerId ← requirePortfolioMutation d portfolioId access
    raiseIf (decide (layer.portfolioOwnerId ≠ some ownerId)) .valueError
      "configuration layer portfolio owner does not match portfolio"
  | ownership => access.requireMutation ownership layer.portfolioOwnerId

def missingLayer : PyError := ⟨.valueError,"selected configuration layer is missing"⟩
def duplicateLayer : PyError := ⟨.valueError,"duplicate selected configuration layer identity"⟩

-- The only one of the matches.
def onlyMatch {α : Type} : List α → Except PyError α
  | [] => .error missingLayer
  | [found] => .ok found
  | _ => .error duplicateLayer

namespace InMemoryConfigurationLayerRepository
variable {p : Platform} (d : Deployment) (layers : List (ConfigurationLayer p)) (plan : RotationPlan) (planOwnerId : UUID)

def add (layer : ConfigurationLayer p) (access : AccessContext) : Except PyError (List (ConfigurationLayer p)) := do
  authorizeLayer d layer.toLayerFields access
  pure (layers ++ [layer])

-- Whether a layer has the identity of an entry.
def identifies (entry : ConfigurationLayerSelectionEntry) (layer : ConfigurationLayer p) : Bool :=
  layer.scope == entry.scope && layer.referenceId == entry.referenceId && layer.version == entry.version &&
    layer.contentHash == entry.contentHash

def validateSelectedLayer (layer : ConfigurationLayer p) (entry : ConfigurationLayerSelectionEntry) : Except PyError Unit :=
  if entry.scope ∈ [.system,.market,.strategy] then
    raiseIf (decide (layer.ownership ≠ .system)) .valueError "system configuration selection has invalid ownership"
  else if entry.scope = .user then
    raiseIf (decide (layer.ownership ≠ .user planOwnerId)) .valueError "user configuration selection does not match plan owner"
  else do
    raiseIf (decide (layer.ownership ≠ .portfolio plan.portfolioId)) .valueError
      "portfolio configuration selection does not match exact plan portfolio"
    raiseIf (decide (layer.portfolioOwnerId ≠ some planOwnerId)) .valueError
      "configuration layer portfolio owner does not match plan owner"

def selectLayer (entry : ConfigurationLayerSelectionEntry) : Except PyError (ConfigurationLayer p) := do
  let layer ← onlyMatch (layers.filter (identifies entry))
  validateSelectedLayer plan planOwnerId layer entry
  pure layer

def loadForPlan (selection : ConfigurationLayerSelection) (access : AccessContext) : Except PyError (List (ConfigurationLayer p)) := do
  let planOwnerId ← requirePortfolioRead d plan.portfolioId access
  selection.validateForPlan plan
  selection.orderedEntries.mapM (selectLayer layers plan planOwnerId)

end InMemoryConfigurationLayerRepository

-- A row of configuration_layers.
structure ConfigurationLayerModel where
  scope : String
  referenceId : UUID
  version : Int
  patch : Json
  contentHash : Digest
  contentHashFormatVersion : String
  ownershipScope : String
  ownerId : Option UUID
  portfolioOwnerId : Option UUID
  runtimeExpiresAt : Option Instant

def configurationLayerToModel (layer : LayerFields) : Except PyError ConfigurationLayerModel := do
  let patch ← encodeConfigurationPayload layer.patch.dump
  raiseIf (match patch with | .obj _ => false | _ => true) .valueError "encoded configuration layer patch must be a JSON object"
  pure {
    scope := layer.scope.value
    referenceId := layer.referenceId
    version := layer.version
    patch := patch
    contentHash := layer.contentHash
    contentHashFormatVersion := layer.contentHashFormatVersion
    ownershipScope := (Configuration.ownershipScope layer.ownership).value
    ownerId := Configuration.ownerId layer.ownership
    portfolioOwnerId := layer.portfolioOwnerId
    runtimeExpiresAt := layer.runtimeExpiresAt}

-- An item of the extensions; DeleteDirective.model_validate takes nothing but a set directive.
def extensionValue (item : Payload) : Except PyError ExtensionValue :=
  if deleteOperation item then match item with
    | .map [(_,.bool true)] => pure .delete
    | _ => raise .validationError "Input should be True"
  else do
    rejectDeleteOperations item
    pure (.plain item)

-- parse_extension_deletes
def parseExtensionDeletes : Entries → Except PyError (List (String × ExtensionValue))
  | [] => pure []
  | (key,item) :: rest => do
    let value ← extensionValue item
    let following ← parseExtensionDeletes rest
    pure ((key,value) :: following)

-- A field of a patch, which may be left out but is not null.
def patchEntry {α : Type} (entries : Entries) (field : PatchField) (read : Payload → Except PyError α) :
    Except PyError (Option α) :=
  match entries.lookup field.name with
  | none => pure none
  | some .null => raise .validationError (field.name ++ " does not permit an explicit null patch")
  | some value => some <$> read value

-- The note may be null.
def patchNote (entries : Entries) : Except PyError (Option (Option String)) :=
  match entries.lookup PatchField.nullableNote.name with
  | none => pure none
  | some value => some <$> strictOptionalText value

-- LayerPatchSchema.model_validate
def LayerPatch.ofPayload : Payload → Except PyError LayerPatch
  | .map entries => do
    raiseIf (entries.any fun entry => !(patchFields.map PatchField.name).contains entry.1) .validationError
      "Extra inputs are not permitted"
    let configurationName ← patchEntry entries .configurationName strictText
    let settings ← patchEntry entries .settings strictDict
    let rules ← patchEntry entries .rules strictDicts
    let keyedItems ← patchEntry entries .keyedItems strictDicts
    let extensions ← patchEntry entries .extensions fun value => strictDict value >>= parseExtensionDeletes
    let nullableNote ← patchNote entries
    pure {configurationName,settings,rules,keyedItems,extensions,nullableNote}
  | _ => raise .validationError "Input should be a valid dictionary"

-- for_scope
def LayerPatch.forScope (scope : ConfigurationLayerScope) (value : Payload) : Except PyError LayerPatch := do
  let patch ← LayerPatch.ofPayload value
  patch.validate scope
  pure patch

theorem extensions_parsed {entries : Entries} {values : List (String × ExtensionValue)}
    (did : parseExtensionDeletes entries = .ok values) :
    values.map Prod.fst = entries.map Prod.fst ∧ ∀ key value, (key,.plain value) ∈ values → (key,value) ∈ entries := by
  induction entries generalizing values with
  | nil =>
    rw [parseExtensionDeletes,pure_ok] at did
    subst did
    exact ⟨rfl,fun _ _ member => absurd member List.not_mem_nil⟩
  | cons entry rest ih =>
    obtain ⟨name,item⟩ := entry
    simp only [parseExtensionDeletes,bind_ok,pure_ok] at did
    obtain ⟨first,here,others,later,rfl⟩ := did
    obtain ⟨keys,each⟩ := ih later
    refine ⟨by rw [List.map_cons,List.map_cons,keys],fun key value member => ?_⟩
    rcases List.mem_cons.mp member with same | inside
    · cases same
      unfold extensionValue at here
      split at here
      · split at here <;> simp at here
      · simp only [check_ok,pure_ok,ExtensionValue.plain.injEq] at here
        rw [here.2]
        exact List.mem_cons_self ..
    · exact List.mem_cons_of_mem _ (each key value inside)

theorem patchEntry_some {α : Type} {entries : Entries} {field : PatchField} {read : Payload → Except PyError α} {value : α}
    (did : patchEntry entries field read = .ok (some value)) :
    ∃ found, entries.lookup field.name = some found ∧ read found = .ok value := by
  unfold patchEntry at did
  split at did
  · simp at did
  · simp at did
  · rename_i found _ inside
    cases here : read found with
    | error _ => rw [here] at did; cases did
    | ok result =>
      rw [here] at did
      cases did
      exact ⟨found,inside,here⟩

-- A patch that is parsed from a value as Python holds them is made of such values.
theorem parsed_genuine {value : Payload} (genuine : value.Genuine) {patch : LayerPatch}
    (did : LayerPatch.ofPayload value = .ok patch) : patch.Genuine := by
  cases value with
  | map entries =>
    simp only [LayerPatch.ofPayload,bind_ok,pure_ok] at did
    obtain ⟨_,_,name,_,settings,first,rules,second,keyed,third,extensions,fourth,note,_,rfl⟩ := did
    intro field value set
    cases field with
    | configurationName =>
      cases name <;> cases set
      trivial
    | settings =>
      cases settings <;> cases set
      obtain ⟨found,inside,read⟩ := patchEntry_some first
      have held := lookup_genuine genuine inside
      rw [strictDict_ok read] at held
      exact held
    | rules =>
      cases rules <;> cases set
      obtain ⟨found,inside,read⟩ := patchEntry_some second
      have held := lookup_genuine genuine inside
      rw [strictDicts_ok read] at held
      exact held
    | keyedItems =>
      cases keyed <;> cases set
      obtain ⟨found,inside,read⟩ := patchEntry_some third
      have held := lookup_genuine genuine inside
      rw [strictDicts_ok read] at held
      exact held
    | extensions =>
      cases extensions <;> cases set
      obtain ⟨found,inside,read⟩ := patchEntry_some fourth
      rw [bind_ok] at read
      obtain ⟨nested,mapping,parsed⟩ := read
      have held : (Payload.map nested).Genuine := strictDict_ok mapping ▸ lookup_genuine genuine inside
      obtain ⟨keys,each⟩ := extensions_parsed parsed
      exact ⟨keys ▸ held.1,fun key value member => genuineEntries_each.mp held.2 _ (each key value member)⟩
    | nullableNote =>
      cases note with
      | none => cases set
      | some text =>
        cases set
        cases text <;> trivial
  | _ => simp [LayerPatch.ofPayload] at did

theorem forScope_genuine {json : Json} {value : Payload} (decoded : decodeConfigurationPayload json = .ok value)
    {scope : ConfigurationLayerScope} {patch : LayerPatch} (did : LayerPatch.forScope scope value = .ok patch) :
    patch.Genuine := by
  simp only [LayerPatch.forScope,bind_ok,pure_ok] at did
  obtain ⟨parsed,ofPayload,_,_,rfl⟩ := did
  exact parsed_genuine (decoded_genuine json decoded) ofPayload

def configurationLayerFromModel (p : Platform) (model : ConfigurationLayerModel) : Except PyError (ConfigurationLayer p) :=
  match ConfigurationLayerScope.ofValue model.scope with
  | none => raise .valueError ("'" ++ model.scope ++ "' is not a valid ConfigurationLayerScope")
  | some scope => match decoded : decodeConfigurationPayload model.patch with
    | .error error => .error error
    | .ok decodedPatch => do
      raiseIf (decide (decodedPatch.kind ≠ .map)) .valueError "stored configuration layer patch must decode to a mapping"
      match parsed : LayerPatch.forScope scope decodedPatch with
      | .error error => .error error
      | .ok patch => do
        let ownership ← readOwnership model.ownershipScope model.ownerId
        ConfigurationLayer.create {
          scope := scope
          patch := patch
          referenceId := model.referenceId
          version := model.version
          contentHash := model.contentHash
          ownership := ownership
          contentHashFormatVersion := model.contentHashFormatVersion
          portfolioOwnerId := model.portfolioOwnerId
          runtimeExpiresAt := model.runtimeExpiresAt} (forScope_genuine decoded parsed)

namespace SqlAlchemyConfigurationLayerRepository
variable {p : Platform} (d : Deployment) (rows : List ConfigurationLayerModel) (plan : RotationPlan) (planOwnerId : UUID)

-- The check constraints of the table.
def checked (row : ConfigurationLayerModel) : Bool :=
  decide (row.ownershipScope ∈ ["SYSTEM","USER","PORTFOLIO"]) &&
  ((row.ownershipScope == "SYSTEM" && row.ownerId.isNone) ||
    (decide (row.ownershipScope ∈ ["USER","PORTFOLIO"]) && row.ownerId.isSome)) &&
  ((decide (row.scope ∈ ["SYSTEM","MARKET","STRATEGY"]) && row.ownershipScope == "SYSTEM") ||
    (row.scope == "USER" && row.ownershipScope == "USER") ||
    (decide (row.scope ∈ ["PORTFOLIO","ROTATION_PLAN","RUNTIME_OVERRIDE"]) && row.ownershipScope == "PORTFOLIO")) &&
  ((row.ownershipScope == "PORTFOLIO" && row.portfolioOwnerId.isSome) ||
    (decide (row.ownershipScope ∈ ["SYSTEM","USER"]) && row.portfolioOwnerId.isNone))

def add (layer : ConfigurationLayer p) (access : AccessContext) : Except PyError (List ConfigurationLayerModel) := do
  authorizeLayer d layer.toLayerFields access
  let row ← configurationLayerToModel layer.toLayerFields
  raiseIf (!checked row) (.operationFailed "IntegrityError") "CHECK constraint failed"
  raiseIf (rows.any fun stored => stored.scope == row.scope && stored.referenceId == row.referenceId &&
    stored.version == row.version) (.operationFailed "IntegrityError") "uq_configuration_layer_version"
  pure (rows ++ [row])

def identifies (entry : ConfigurationLayerSelectionEntry) (row : ConfigurationLayerModel) : Bool :=
  row.scope == entry.scope.value && row.referenceId == entry.referenceId && row.version == entry.version &&
    row.contentHash == entry.contentHash

-- _selection_predicate
def selectionPredicate (entry : ConfigurationLayerSelectionEntry) (row : ConfigurationLayerModel) : Bool :=
  identifies entry row &&
    if entry.scope ∈ [.system,.market,.strategy] then
      row.ownershipScope == OwnershipScope.system.value && row.ownerId.isNone && row.portfolioOwnerId.isNone
    else if entry.scope = .user then
      row.ownershipScope == OwnershipScope.user.value && row.ownerId == some planOwnerId && row.portfolioOwnerId.isNone
    else
      row.ownershipScope == OwnershipScope.portfolio.value && row.ownerId == some plan.portfolioId &&
        row.portfolioOwnerId == some planOwnerId

def loadForPlan (p : Platform) (selection : ConfigurationLayerSelection) (access : AccessContext) :
    Except PyError (List (ConfigurationLayer p)) := do
  let planOwnerId ← requirePortfolioRead d plan.portfolioId access
  selection.validateForPlan plan
  let models := rows.filter fun row => selection.orderedEntries.any fun entry => selectionPredicate plan planOwnerId entry row
  selection.orderedEntries.mapM fun entry => do
    let model ← onlyMatch (models.filter (identifies entry))
    configurationLayerFromModel p model

end SqlAlchemyConfigurationLayerRepository

end SwapMonitor.Configuration
