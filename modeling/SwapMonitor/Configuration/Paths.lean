import SwapMonitor.Configuration.Merging

namespace SwapMonitor.Configuration

-- The value at a path of keys.
def Payload.at (value : Payload) : List String → Option Payload
  | [] => some value
  | key :: path => match value with
    | .map entries => match entries.lookup key with
      | some nested => nested.at path
      | none => none
    | _ => none

-- What a value says about a path: nothing, that it holds a value, or that it is absent because
-- something other than a mapping stands before its end.
def Payload.setting (value : Payload) : List String → Option (Option Payload)
  | [] => some (some value)
  | key :: path => match value with
    | .map entries => match entries.lookup key with
      | some nested => nested.setting path
      | none => none
    | _ => some none

-- What counts at a path: a mapping is what it holds at longer paths, a list is its items.
inductive Outline where
  | absent
  | map
  | is (value : Payload)

def outline : Option Payload → Outline
  | none => .absent
  | some (.map _) => .map
  | some value => .is value.freeze

-- An explicit setting replaces whatever was inherited.
def override (below : Outline) : Option (Option Payload) → Outline
  | some above => outline above
  | none => below

theorem at_setting (value : Payload) (path : List String) : (value.setting path).join = value.at path := by
  induction path generalizing value with
  | nil => rfl
  | cons key path ih =>
    cases value with
    | map entries =>
      simp only [Payload.setting,Payload.at]
      cases entries.lookup key with
      | none => rfl
      | some nested => exact ih nested
    | _ => rfl

-- A value that nothing was inherited under.
theorem alone_outline (value : Payload) (path : List String) :
    outline (value.at path) = override .absent (value.setting path) := by
  rw [← at_setting]
  cases value.setting path <;> rfl

theorem lookup_replaced (entries : Entries) (key other : String) (value : Payload) :
    (entries.map fun entry => if entry.1 = key then (entry.1,value) else entry).lookup other =
      (entries.lookup other).map fun old => if other = key then value else old := by
  induction entries with
  | nil => rfl
  | cons entry rest ih =>
    obtain ⟨name,found⟩ := entry
    rw [List.map_cons,List.lookup_cons]
    by_cases asked : other = name
    · subst asked
      by_cases same : other = key <;> simp [same]
    · have apart : (other == name) = false := by simpa using asked
      by_cases same : name = key
      · subst same
        simp [List.lookup_cons,apart,ih]
      · simp [List.lookup_cons,same,apart,ih]

theorem lookup_absent {entries : Entries} {key : String} (absent : key ∉ entries.map Prod.fst) : entries.lookup key = none := by
  rw [List.lookup_eq_none_iff]
  intro entry member
  have apart : key ≠ entry.1 := fun same => absent (same ▸ List.mem_map_of_mem member)
  simpa using apart

theorem lookup_present {entries : Entries} {key : String} (present : key ∈ entries.map Prod.fst) :
    ∃ value, entries.lookup key = some value := by
  by_contra none_found
  have absent : entries.lookup key = none := Option.eq_none_iff_forall_ne_some.mpr fun value found => none_found ⟨value,found⟩
  rw [List.lookup_eq_none_iff] at absent
  obtain ⟨entry,member,rfl⟩ := List.mem_map.mp present
  simpa using absent entry member

theorem lookup_assign (entries : Entries) (key other : String) (value : Payload) :
    (assign entries key value).lookup other = if other = key then some value else entries.lookup other := by
  unfold assign
  split
  · rename_i known
    obtain ⟨old,found⟩ := lookup_present (by simpa using known)
    rw [lookup_replaced]
    by_cases same : other = key
    · subst same
      simp [found]
    · cases entries.lookup other <;> simp [same]
  · rename_i unknown
    have absent := lookup_absent (by simpa using unknown)
    rw [List.lookup_append]
    by_cases same : other = key
    · subst same
      simp [absent]
    · have apart : (other == key) = false := by simpa using same
      simp [List.lookup_cons,apart,same]

theorem assign_at (inherited : Entries) (name : String) (written : Payload) (key : String) (keys : List String) :
    (Payload.map (assign inherited name written)).at (key :: keys) =
      if key = name then written.at keys else (Payload.map inherited).at (key :: keys) := by
  by_cases same : key = name <;> simp [Payload.at,lookup_assign,same]

-- A value that is no mapping replaces whatever was inherited at its place and below it.
theorem leaf_outline {value : Payload} (leaf : value.kind ≠ .map) (below : Outline) (keys : List String) :
    outline (value.at keys) = override below (value.setting keys) := by
  cases keys with
  | nil => rfl
  | cons key keys =>
    cases value with
    | map entries => exact absurd rfl leaf
    | _ => rfl

theorem scalars_merged {lower higher merged : Payload} {path : String} (did : mergeScalars lower higher path = .ok merged) :
    merged = higher := by
  simp only [mergeScalars,check_ok,pure_ok] at did
  exact did.2.symm

theorem incompatible_kinds {path : String} {lower higher : Kind} {merged : Payload} :
    incompatibleKinds path lower higher ≠ .ok merged := by
  simp [incompatibleKinds]

-- It is taken over as it is, except that a tuple that replaces a list becomes one.
theorem leaf_merged {lower higher merged : Payload} {path : String} (leaf : higher.kind ≠ .map)
    (did : mergeValue lower higher path = .ok merged) :
    merged = higher ∨ ∃ items, higher = .tuple items ∧ merged = .list items := by
  have listed : ∀ {items : List Payload}, (if lower.kind = .list then pure (.list items)
      else incompatibleKinds path lower.kind .list) = .ok merged → merged = .list items := by
    intro items did
    split at did
    · exact ((pure_ok _ _).mp did).symm
    · exact absurd did incompatible_kinds
  cases higher with
  | map entries => exact absurd rfl leaf
  | null =>
    rw [mergeValue,pure_ok] at did
    exact .inl did.symm
  | list items =>
    unfold mergeValue at did
    split at did
    · exact .inl ((pure_ok _ _).mp did).symm
    · exact .inl (listed did)
  | tuple items =>
    unfold mergeValue at did
    split at did
    · exact .inl ((pure_ok _ _).mp did).symm
    · exact .inr ⟨items,rfl,listed did⟩
  | _ =>
    unfold mergeValue at did
    split at did
    · exact .inl ((pure_ok _ _).mp did).symm
    · split at did
      · exact .inl (scalars_merged did)
      · exact absurd did incompatible_kinds

mutual
theorem merged_outline (higher : Payload) (genuine : higher.Genuine) {lower merged : Payload} {path : String}
    (did : mergeValue lower higher path = .ok merged) (keys : List String) :
    outline (merged.at keys) = override (outline (lower.at keys)) (higher.setting keys) := by
  by_cases mapping : higher.kind = .map
  · cases higher with
    | map entries =>
      cases lower with
      | null =>
        rw [mergeValue,pure_ok] at did
        subst did
        rw [alone_outline]
        cases keys <;> rfl
      | map inherited =>
        simp only [mergeValue] at did
        cases entered : mergeEntries inherited entries path with
        | error _ => rw [entered] at did; cases did
        | ok result =>
          rw [entered] at did
          cases did
          cases keys with
          | nil => rfl
          | cons key keys => exact entries_outline entries genuine entered key keys
      | _ => simp [mergeValue,incompatibleKinds] at did
    | _ => cases mapping
  · rcases leaf_merged mapping did with rfl | ⟨items,rfl,rfl⟩
    · exact leaf_outline mapping _ keys
    · cases keys <;> rfl

theorem entries_outline (entries : Entries) (genuine : (Payload.map entries).Genuine) {inherited result : Entries}
    {path : String} (did : mergeEntries inherited entries path = .ok result) (key : String) (keys : List String) :
    outline ((Payload.map result).at (key :: keys)) =
      override (outline ((Payload.map inherited).at (key :: keys))) ((Payload.map entries).setting (key :: keys)) := by
  cases entries with
  | nil =>
    rw [mergeEntries,pure_ok] at did
    rw [did]
    rfl
  | cons entry rest =>
    obtain ⟨name,value⟩ := entry
    obtain ⟨distinct,nested,later⟩ := genuine
    rw [List.map_cons,List.nodup_cons] at distinct
    have following : ∀ {start : Entries}, mergeEntries start rest path = .ok result →
        outline ((Payload.map result).at (key :: keys)) =
          override (outline ((Payload.map start).at (key :: keys))) ((Payload.map rest).setting (key :: keys)) :=
      fun did => entries_outline rest ⟨distinct.2,later⟩ did key keys
    have silent : key = name → (Payload.map rest).setting (key :: keys) = none := by
      intro same
      rw [Payload.setting,same]
      simp only [lookup_absent distinct.1]
    have said : (Payload.map ((name,value) :: rest)).setting (key :: keys) =
        if key = name then value.setting keys else (Payload.map rest).setting (key :: keys) := by
      by_cases same : key = name
      · subst same
        simp [Payload.setting]
      · have apart : (key == name) = false := by simpa using same
        simp [Payload.setting,List.lookup_cons,apart,same]
    rw [mergeEntries] at did
    split at did
    · rename_i found inside
      rw [bind_ok] at did
      obtain ⟨merged,nestedly,did⟩ := did
      rw [following did,said,assign_at]
      by_cases same : key = name
      · have below : (Payload.map inherited).at (key :: keys) = found.at keys := by simp [Payload.at,same,inside]
        rw [silent same,if_pos same,if_pos same,below]
        exact merged_outline value nested nestedly keys
      · rw [if_neg same,if_neg same]
    · rename_i absent
      rw [following did,said,assign_at]
      by_cases same : key = name
      · have below : (Payload.map inherited).at (key :: keys) = none := by simp [Payload.at,same,absent]
        rw [silent same,if_pos same,if_pos same,below]
        exact alone_outline value keys
      · rw [if_neg same,if_neg same]
end

theorem genuineItems_each {items : List Payload} : GenuineItems items ↔ ∀ item ∈ items, item.Genuine := by
  induction items with
  | nil => simp [GenuineItems]
  | cons item rest ih => rw [GenuineItems,ih,List.forall_mem_cons]

theorem genuineEntries_each {entries : Entries} : GenuineEntries entries ↔ ∀ entry ∈ entries, entry.2.Genuine := by
  induction entries with
  | nil => simp [GenuineEntries]
  | cons entry rest ih => rw [GenuineEntries,ih,List.forall_mem_cons]

mutual
theorem freeze_frozen (value : Payload) : value.freeze.freeze = value.freeze := by
  cases value with
  | list items => rw [Payload.freeze,Payload.freeze,freezeItems_frozen items]
  | tuple items => rw [Payload.freeze,Payload.freeze,freezeItems_frozen items]
  | map entries => rw [Payload.freeze,Payload.freeze,freezeEntries_frozen entries]
  | _ => rfl

theorem freezeItems_frozen (items : List Payload) : freezeItems (freezeItems items) = freezeItems items := by
  cases items with
  | nil => rfl
  | cons item rest => rw [freezeItems,freezeItems,freeze_frozen item,freezeItems_frozen rest]

theorem freezeEntries_frozen (entries : Entries) : freezeEntries (freezeEntries entries) = freezeEntries entries := by
  cases entries with
  | nil => rfl
  | cons entry rest =>
    obtain ⟨key,value⟩ := entry
    rw [freezeEntries,freezeEntries,freeze_frozen value,freezeEntries_frozen rest]
end

theorem freeze_items (items : List Payload) : freezeItems items = items.map Payload.freeze := by
  induction items with
  | nil => rfl
  | cons item rest ih => rw [freezeItems,ih,List.map_cons]

theorem lookup_frozen (entries : Entries) (key : String) :
    (freezeEntries entries).lookup key = (entries.lookup key).map Payload.freeze := by
  induction entries with
  | nil => rfl
  | cons entry rest ih =>
    obtain ⟨name,value⟩ := entry
    rw [freezeEntries,List.lookup_cons,List.lookup_cons]
    cases key == name with
    | true => rfl
    | false => exact ih

theorem freeze_at (value : Payload) (keys : List String) : value.freeze.at keys = (value.at keys).map Payload.freeze := by
  induction keys generalizing value with
  | nil => rfl
  | cons key keys ih =>
    cases value with
    | map entries =>
      simp only [Payload.freeze,Payload.at,lookup_frozen]
      cases entries.lookup key with
      | none => rfl
      | some nested => exact ih nested
    | _ => rfl

theorem freeze_outline (value : Option Payload) : outline (value.map Payload.freeze) = outline value := by
  cases value with
  | none => rfl
  | some value =>
    cases value with
    | list items => exact congrArg Outline.is (freeze_frozen (.list items))
    | tuple items => exact congrArg Outline.is (freeze_frozen (.tuple items))
    | _ => rfl

theorem freeze_text (value : Payload) : value.freeze.text = value.text := by
  cases value <;> rfl

end SwapMonitor.Configuration
