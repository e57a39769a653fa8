import SwapMonitor.Configuration.CanonicalJson
import SwapMonitor.Configuration.Paths
import SwapMonitor.Persistence.ConfigurationPayload

namespace SwapMonitor.Configuration
open Collections

mutual
-- Whether a mapping with the key of a directive stands anywhere in a value, tuples included.
def Payload.holdsDelete : Payload → Bool
  | .map entries => (entries.map Prod.fst).contains deleteKey || entriesHoldDelete entries
  | .list items => itemsHoldDelete items
  | .tuple items => itemsHoldDelete items
  | _ => false

def itemsHoldDelete : List Payload → Bool
  | [] => false
  | item :: rest => item.holdsDelete || itemsHoldDelete rest

def entriesHoldDelete : List (String × Payload) → Bool
  | [] => false
  | (_,value) :: rest => value.holdsDelete || entriesHoldDelete rest
end

-- Freezing, thawing and reading Enum members as strings only change which kind of sequence the
-- items stand in and how a scalar is typed.
structure Reshapes (reshape : Payload → Payload) : Prop where
  maps : ∀ entries, reshape (.map entries) = .map (entries.map fun entry => (entry.1,reshape entry.2))
  lists : ∀ items, reshape (.list items) = .list (items.map reshape) ∨ reshape (.list items) = .tuple (items.map reshape)
  tuples : ∀ items, reshape (.tuple items) = .list (items.map reshape) ∨ reshape (.tuple items) = .tuple (items.map reshape)
  scalars : ∀ value : Payload, value.kind = .scalar → (reshape value).kind = .scalar
  rendered : ∀ value : Payload, value.kind = .scalar → ∀ u, canonicalValue u (reshape value) = canonicalValue u value
  genuine : ∀ value : Payload, value.kind = .scalar → value.Genuine → (reshape value).Genuine
  texts : ∀ value : Payload, ∀ text, value.text = some text → (reshape value).text = some text
  plain : ∀ text, reshape (.str text) = .str text
  absent : reshape .null = .null

theorem thawItems_map (items : List Payload) : thawItems items = items.map Payload.thaw := by
  induction items with
  | nil => rfl
  | cons item rest ih => rw [thawItems,ih,List.map_cons]

theorem thawEntries_map (entries : Entries) : thawEntries entries = entries.map fun entry => (entry.1,entry.2.thaw) := by
  induction entries with
  | nil => rfl
  | cons entry rest ih => rw [thawEntries,ih,List.map_cons]

theorem stringItems_map (items : List Payload) : stringItems items = items.map Payload.strings := by
  induction items with
  | nil => rfl
  | cons item rest ih => rw [stringItems,ih,List.map_cons]

theorem stringEntries_map (entries : Entries) : stringEntries entries = entries.map fun entry => (entry.1,entry.2.strings) := by
  induction entries with
  | nil => rfl
  | cons entry rest ih => rw [stringEntries,ih,List.map_cons]

theorem unzonedItems_map (items : List Payload) : unzonedItems items = items.map Payload.unzoned := by
  induction items with
  | nil => rfl
  | cons item rest ih => rw [unzonedItems,ih,List.map_cons]

theorem unzonedEntries_map (entries : Entries) :
    unzonedEntries entries = entries.map fun entry => (entry.1,entry.2.unzoned) := by
  induction entries with
  | nil => rfl
  | cons entry rest ih => rw [unzonedEntries,ih,List.map_cons]

theorem freezeEntries_map (entries : Entries) : freezeEntries entries = entries.map fun entry => (entry.1,entry.2.freeze) := by
  induction entries with
  | nil => rfl
  | cons entry rest ih => rw [freezeEntries,ih,List.map_cons]

theorem freeze_reshapes : Reshapes Payload.freeze where
  maps entries := by rw [Payload.freeze,freezeEntries_map]
  lists items := .inr (by rw [Payload.freeze,freeze_items])
  tuples items := .inr (by rw [Payload.freeze,freeze_items])
  scalars value scalar := by cases value <;> exact scalar
  rendered value scalar u := by cases value <;> first | rfl | cases scalar
  genuine value scalar genuine := by cases value <;> first | exact genuine | cases scalar
  texts value text named := by rw [freeze_text,named]
  plain _ := rfl
  absent := rfl

theorem thaw_reshapes : Reshapes Payload.thaw where
  maps entries := by rw [Payload.thaw,thawEntries_map]
  lists items := .inl (by rw [Payload.thaw,thawItems_map])
  tuples items := .inl (by rw [Payload.thaw,thawItems_map])
  scalars value scalar := by cases value <;> exact scalar
  rendered value scalar u := by cases value <;> first | rfl | cases scalar
  genuine value scalar genuine := by cases value <;> first | exact genuine | cases scalar
  texts value text named := by cases value <;> exact named
  plain _ := rfl
  absent := rfl

theorem unzoned_reshapes : Reshapes Payload.unzoned where
  maps entries := by rw [Payload.unzoned,unzonedEntries_map]
  lists items := .inl (by rw [Payload.unzoned,unzonedItems_map])
  tuples items := .inr (by rw [Payload.unzoned,unzonedItems_map])
  scalars value scalar := by cases value <;> exact scalar
  rendered value scalar u := by cases value <;> first | rfl | cases scalar
  genuine value scalar genuine := by cases value <;> first | exact genuine | cases scalar
  texts value text named := by cases value <;> exact named
  plain _ := rfl
  absent := rfl

theorem enum_strings (typeName : String) (member : EnumValue) :
    (Payload.enumMember typeName member).strings = .enumMember typeName member ∨
      ∃ text, member.string = some text ∧ (Payload.enumMember typeName member).strings = .str text := by
  rw [Payload.strings]
  cases member.string with
  | none => exact .inl rfl
  | some text => exact .inr ⟨text,rfl,rfl⟩

theorem strings_reshapes : Reshapes Payload.strings where
  maps entries := by rw [Payload.strings,stringEntries_map]
  lists items := .inl (by rw [Payload.strings,stringItems_map])
  tuples items := .inr (by rw [Payload.strings,stringItems_map])
  scalars value scalar := by
    cases value with
    | enumMember typeName member =>
      rcases enum_strings typeName member with same | ⟨text,_,same⟩ <;> rw [same] <;> rfl
    | _ => exact scalar
  rendered value scalar u := by
    cases value with
    | enumMember typeName member =>
      rcases enum_strings typeName member with same | ⟨text,named,same⟩
      · rw [same]
      · rw [same,canonicalValue,canonicalValue,named]
    | _ => first | rfl | cases scalar
  genuine value scalar genuine := by
    cases value with
    | enumMember typeName member =>
      rcases enum_strings typeName member with same | ⟨text,_,same⟩ <;> rw [same] <;> trivial
    | _ => first | exact genuine | cases scalar
  texts value text named := by
    cases value with
    | enumMember typeName member => cases member <;> first | exact named | cases named
    | _ => exact named
  plain _ := rfl
  absent := rfl

section Reshaped
variable {reshape : Payload → Payload}

theorem keys_reshaped (entries : Entries) : (entries.map fun entry => (entry.1,reshape entry.2)).map Prod.fst = entries.map Prod.fst := by
  rw [List.map_map]
  rfl

theorem lookup_reshaped (entries : Entries) (key : String) :
    (entries.map fun entry => (entry.1,reshape entry.2)).lookup key = (entries.lookup key).map reshape := by
  induction entries with
  | nil => rfl
  | cons entry rest ih =>
    rw [List.map_cons,List.lookup_cons,List.lookup_cons]
    cases key == entry.1 with
    | true => rfl
    | false => exact ih

theorem entryId_reshaped (reshapes : Reshapes reshape) {entries : Entries} {identifier : String}
    (named : entryId entries = some identifier) :
    entryId (entries.map fun entry => (entry.1,reshape entry.2)) = some identifier := by
  unfold entryId at named ⊢
  rw [lookup_reshaped]
  obtain ⟨value,found,text⟩ := Option.bind_eq_some_iff.mp named
  rw [found]
  exact reshapes.texts value identifier text

mutual
theorem canonical_reshaped (reshapes : Reshapes reshape) (u : UnicodeData) (value : Payload) :
    canonicalValue u (reshape value) = canonicalValue u value := by
  cases value with
  | map entries =>
    have entered := entries_reshaped reshapes u entries
    rw [reshapes.maps,canonicalValue,canonicalValue,entered]
  | list items =>
    have listed := items_reshaped reshapes u items
    rcases reshapes.lists items with same | same <;> rw [same,canonicalValue,canonicalValue,listed]
  | tuple items =>
    have listed := items_reshaped reshapes u items
    rcases reshapes.tuples items with same | same <;> rw [same,canonicalValue,canonicalValue,listed]
  | _ => exact reshapes.rendered _ rfl u

theorem items_reshaped (reshapes : Reshapes reshape) (u : UnicodeData) (items : List Payload) :
    canonicalItems u (items.map reshape) = canonicalItems u items := by
  cases items with
  | nil => rfl
  | cons item rest =>
    rw [List.map_cons,canonicalItems,canonicalItems,canonical_reshaped reshapes u item,items_reshaped reshapes u rest]

theorem entries_reshaped (reshapes : Reshapes reshape) (u : UnicodeData) (entries : Entries) :
    canonicalEntries u (entries.map fun entry => (entry.1,reshape entry.2)) = canonicalEntries u entries := by
  cases entries with
  | nil => rfl
  | cons entry rest =>
    rw [List.map_cons,canonicalEntries,canonical_reshaped reshapes u entry.2,entries_reshaped reshapes u rest]
    rfl
end

mutual
theorem genuine_reshaped (reshapes : Reshapes reshape) (value : Payload) (genuine : value.Genuine) : (reshape value).Genuine := by
  cases value with
  | map entries =>
    rw [reshapes.maps]
    exact ⟨(keys_reshaped entries).symm ▸ genuine.1,genuineEntries_reshaped reshapes entries genuine.2⟩
  | list items =>
    have listed := genuineItems_reshaped reshapes items genuine
    rcases reshapes.lists items with same | same <;> rw [same] <;> exact listed
  | tuple items =>
    have listed := genuineItems_reshaped reshapes items genuine
    rcases reshapes.tuples items with same | same <;> rw [same] <;> exact listed
  | _ => exact reshapes.genuine _ rfl genuine

theorem genuineItems_reshaped (reshapes : Reshapes reshape) (items : List Payload) (genuine : GenuineItems items) :
    GenuineItems (items.map reshape) := by
  cases items with
  | nil => trivial
  | cons item rest => exact ⟨genuine_reshaped reshapes item genuine.1,genuineItems_reshaped reshapes rest genuine.2⟩

theorem genuineEntries_reshaped (reshapes : Reshapes reshape) (entries : Entries) (genuine : GenuineEntries entries) :
    GenuineEntries (entries.map fun entry => (entry.1,reshape entry.2)) := by
  cases entries with
  | nil => trivial
  | cons entry rest => exact ⟨genuine_reshaped reshapes entry.2 genuine.1,genuineEntries_reshaped reshapes rest genuine.2⟩
end

theorem scalar_deletes {value : Payload} (scalar : value.kind = .scalar) : value.holdsDelete = false := by
  cases value <;> first | rfl | cases scalar

mutual
theorem deletes_reshaped (reshapes : Reshapes reshape) (value : Payload) : (reshape value).holdsDelete = value.holdsDelete := by
  cases value with
  | map entries =>
    rw [reshapes.maps,Payload.holdsDelete,Payload.holdsDelete,keys_reshaped,entryDeletes_reshaped reshapes entries]
  | list items =>
    have listed := itemDeletes_reshaped reshapes items
    rcases reshapes.lists items with same | same <;> rw [same,Payload.holdsDelete,Payload.holdsDelete,listed]
  | tuple items =>
    have listed := itemDeletes_reshaped reshapes items
    rcases reshapes.tuples items with same | same <;> rw [same,Payload.holdsDelete,Payload.holdsDelete,listed]
  | _ => exact scalar_deletes (reshapes.scalars _ rfl)

theorem itemDeletes_reshaped (reshapes : Reshapes reshape) (items : List Payload) :
    itemsHoldDelete (items.map reshape) = itemsHoldDelete items := by
  cases items with
  | nil => rfl
  | cons item rest =>
    rw [List.map_cons,itemsHoldDelete,itemsHoldDelete,deletes_reshaped reshapes item,itemDeletes_reshaped reshapes rest]

theorem entryDeletes_reshaped (reshapes : Reshapes reshape) (entries : Entries) :
    entriesHoldDelete (entries.map fun entry => (entry.1,reshape entry.2)) = entriesHoldDelete entries := by
  cases entries with
  | nil => rfl
  | cons entry rest =>
    rw [List.map_cons,entriesHoldDelete,deletes_reshaped reshapes entry.2,entryDeletes_reshaped reshapes rest]
    rfl
end

end Reshaped

mutual
theorem thaw_freeze (value : Payload) : value.freeze.thaw = value.thaw := by
  cases value with
  | map entries => rw [Payload.freeze,Payload.thaw,Payload.thaw,thaw_freezeEntries entries]
  | list items => rw [Payload.freeze,Payload.thaw,Payload.thaw,thaw_freezeItems items]
  | tuple items => rw [Payload.freeze,Payload.thaw,Payload.thaw,thaw_freezeItems items]
  | _ => rfl

theorem thaw_freezeItems (items : List Payload) : thawItems (freezeItems items) = thawItems items := by
  cases items with
  | nil => rfl
  | cons item rest => rw [freezeItems,thawItems,thawItems,thaw_freeze item,thaw_freezeItems rest]

theorem thaw_freezeEntries (entries : Entries) : thawEntries (freezeEntries entries) = thawEntries entries := by
  cases entries with
  | nil => rfl
  | cons entry rest =>
    obtain ⟨key,value⟩ := entry
    rw [freezeEntries,thawEntries,thawEntries,thaw_freeze value,thaw_freezeEntries rest]
end

mutual
theorem freeze_thaw (value : Payload) : value.thaw.freeze = value.freeze := by
  cases value with
  | map entries => rw [Payload.thaw,Payload.freeze,Payload.freeze,freeze_thawEntries entries]
  | list items => rw [Payload.thaw,Payload.freeze,Payload.freeze,freeze_thawItems items]
  | tuple items => rw [Payload.thaw,Payload.freeze,Payload.freeze,freeze_thawItems items]
  | _ => rfl

theorem freeze_thawItems (items : List Payload) : freezeItems (thawItems items) = freezeItems items := by
  cases items with
  | nil => rfl
  | cons item rest => rw [thawItems,freezeItems,freezeItems,freeze_thaw item,freeze_thawItems rest]

theorem freeze_thawEntries (entries : Entries) : freezeEntries (thawEntries entries) = freezeEntries entries := by
  cases entries with
  | nil => rfl
  | cons entry rest =>
    obtain ⟨key,value⟩ := entry
    rw [thawEntries,freezeEntries,freezeEntries,freeze_thaw value,freeze_thawEntries rest]
end

mutual
theorem strings_freeze (value : Payload) : value.freeze.strings = value.strings.freeze := by
  cases value with
  | map entries => rw [Payload.freeze,Payload.strings,Payload.strings,Payload.freeze,strings_freezeEntries entries]
  | list items => rw [Payload.freeze,Payload.strings,Payload.strings,Payload.freeze,strings_freezeItems items]
  | tuple items => rw [Payload.freeze,Payload.strings,Payload.strings,Payload.freeze,strings_freezeItems items]
  | enumMember typeName member =>
    have kept : (Payload.enumMember typeName member).freeze = .enumMember typeName member := rfl
    rw [kept]
    rcases enum_strings typeName member with same | ⟨text,_,same⟩ <;> rw [same] <;> rfl
  | _ => rfl

theorem strings_freezeItems (items : List Payload) : stringItems (freezeItems items) = freezeItems (stringItems items) := by
  cases items with
  | nil => rfl
  | cons item rest => rw [freezeItems,stringItems,stringItems,freezeItems,strings_freeze item,strings_freezeItems rest]

theorem strings_freezeEntries (entries : Entries) : stringEntries (freezeEntries entries) = freezeEntries (stringEntries entries) := by
  cases entries with
  | nil => rfl
  | cons entry rest =>
    obtain ⟨key,value⟩ := entry
    rw [freezeEntries,stringEntries,stringEntries,freezeEntries,strings_freeze value,strings_freezeEntries rest]
end

mutual
theorem unzoned_freeze (value : Payload) : value.freeze.unzoned = value.unzoned.freeze := by
  cases value with
  | map entries => rw [Payload.freeze,Payload.unzoned,Payload.unzoned,Payload.freeze,unzoned_freezeEntries entries]
  | list items => rw [Payload.freeze,Payload.unzoned,Payload.unzoned,Payload.freeze,unzoned_freezeItems items]
  | tuple items => rw [Payload.freeze,Payload.unzoned,Payload.unzoned,Payload.freeze,unzoned_freezeItems items]
  | _ => rfl

theorem unzoned_freezeItems (items : List Payload) : unzonedItems (freezeItems items) = freezeItems (unzonedItems items) := by
  cases items with
  | nil => rfl
  | cons item rest => rw [freezeItems,unzonedItems,unzonedItems,freezeItems,unzoned_freeze item,unzoned_freezeItems rest]

theorem unzoned_freezeEntries (entries : Entries) :
    unzonedEntries (freezeEntries entries) = freezeEntries (unzonedEntries entries) := by
  cases entries with
  | nil => rfl
  | cons entry rest =>
    obtain ⟨key,value⟩ := entry
    rw [freezeEntries,unzonedEntries,unzonedEntries,freezeEntries,unzoned_freeze value,unzoned_freezeEntries rest]
end

-- A thawed value has no tuples left that a directive could hide in.
mutual
theorem thawed_rejects (value : Payload) : rejectDeleteOperations value.thaw = .ok () ↔ value.holdsDelete = false := by
  cases value with
  | map entries =>
    have keys : (thawEntries entries).map Prod.fst = entries.map Prod.fst := by rw [thawEntries_map,keys_reshaped]
    simp only [Payload.thaw,rejectDeleteOperations,check_ok,raiseIf_ok,keys,Payload.holdsDelete,Bool.or_eq_false_iff,
      thawedEntries_reject entries]
  | list items => exact thawedItems_reject items
  | tuple items => exact thawedItems_reject items
  | _ => exact ⟨fun _ => rfl,fun _ => rfl⟩

theorem thawedItems_reject (items : List Payload) : rejectDeleteItems (thawItems items) = .ok () ↔ itemsHoldDelete items = false := by
  cases items with
  | nil => exact ⟨fun _ => rfl,fun _ => rfl⟩
  | cons item rest =>
    simp only [thawItems,rejectDeleteItems,check_ok,itemsHoldDelete,Bool.or_eq_false_iff,thawed_rejects item,
      thawedItems_reject rest]

theorem thawedEntries_reject (entries : Entries) :
    rejectDeleteEntries (thawEntries entries) = .ok () ↔ entriesHoldDelete entries = false := by
  cases entries with
  | nil => exact ⟨fun _ => rfl,fun _ => rfl⟩
  | cons entry rest =>
    obtain ⟨key,value⟩ := entry
    simp only [thawEntries,rejectDeleteEntries,check_ok,entriesHoldDelete,Bool.or_eq_false_iff,thawed_rejects value,
      thawedEntries_reject rest]
end

end SwapMonitor.Configuration
