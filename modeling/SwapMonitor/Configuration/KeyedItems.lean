import SwapMonitor.Collections.Sorting
import SwapMonitor.Configuration.Paths

namespace SwapMonitor.Configuration
open Collections

def Payload.identifier : Payload → Option String
  | .map entries => entryId entries
  | _ => none

def itemNamed (items : List Payload) (identifier : String) : Option Payload :=
  items.find? fun item => item.identifier = some identifier

-- A list of mappings that each have an identifier of their own.
structure Labelled (items : List Payload) (labels : List String) : Prop where
  named : items.map Payload.identifier = labels.map some
  distinct : labels.Nodup

-- The dictionary of the indexes says where the entry with an identifier is.
structure Keyed.Sound (keyed : Keyed) (labels : List String) : Prop extends Labelled keyed.result labels where
  indexed : ∀ identifier index, keyed.indexes identifier = some index ↔ labels[index]? = some identifier

theorem keyedId_ok {path : String} {item : Payload} {identifier : String} :
    keyedId path item = .ok identifier ↔ item.identifier = some identifier := by
  cases item with
  | map entries =>
    simp only [keyedId,Payload.identifier]
    cases entryId entries <;> simp
  | _ => simp [keyedId,Payload.identifier]

theorem itemNamed_append (items : List Payload) (item : Payload) (identifier : String) :
    itemNamed (items ++ [item]) identifier =
      (itemNamed items identifier).or (if item.identifier = some identifier then some item else none) := by
  simp only [itemNamed,List.find?_append,List.find?_cons,List.find?_nil]
  split <;> simp_all

theorem named_length {items : List Payload} {labels : List String} (labelled : Labelled items labels) :
    items.length = labels.length := by
  have same := congrArg List.length labelled.named
  simpa using same

theorem named_at {items : List Payload} {labels : List String} (labelled : Labelled items labels) {index : Nat}
    {item : Payload} (found : items[index]? = some item) : item.identifier = labels[index]? := by
  have same := congrArg (·[index]?) labelled.named
  simp only [List.getElem?_map,found,Option.map_some] at same
  cases label : labels[index]? with
  | none => simp [label] at same
  | some _ => simpa [label] using same

-- The entry at the index of a label is the one with that identifier.
theorem itemNamed_at {items : List Payload} {labels : List String} (labelled : Labelled items labels) {index : Nat}
    {identifier : String} (label : labels[index]? = some identifier) : itemNamed items identifier = items[index]? := by
  have inside : index < items.length := by
    rw [named_length labelled]
    exact (List.getElem?_eq_some_iff.mp label).1
  obtain ⟨item,found⟩ : ∃ item, items[index]? = some item := ⟨_,List.getElem?_eq_getElem inside⟩
  have named := named_at labelled found
  rw [found,itemNamed,List.find?_eq_some_iff_getElem]
  refine ⟨by simpa [label] using named,index,inside,by simpa [List.getElem?_eq_getElem inside] using found,?_⟩
  intro earlier before
  have there : items[earlier]? = some items[earlier] := List.getElem?_eq_getElem (by omega)
  have other := named_at labelled there
  simp only [Bool.not_eq_true',decide_eq_false_iff_not]
  intro same
  have apart := (List.getElem?_inj (by rw [← named_length labelled]; omega) labelled.distinct).mp
    ((other.symm.trans same).trans label.symm)
  omega

theorem itemNamed_none {items : List Payload} {labels : List String} (labelled : Labelled items labels)
    {identifier : String} (unknown : identifier ∉ labels) : itemNamed items identifier = none := by
  rw [itemNamed,List.find?_eq_none]
  intro item member
  obtain ⟨index,found⟩ := List.mem_iff_getElem?.mp member
  have named := named_at labelled found
  simp only [decide_eq_true_eq]
  intro same
  exact unknown (List.mem_of_getElem? (named.symm.trans same))

theorem append_sound {keyed : Keyed} {labels : List String} (sound : keyed.Sound labels) {identifier : String}
    {item : Payload} (named : item.identifier = some identifier) (fresh : identifier ∉ labels) :
    (keyed.append identifier item).Sound (labels ++ [identifier]) := by
  have length := named_length sound.toLabelled
  refine ⟨⟨?_,?_⟩,?_⟩
  · simp [Keyed.append,sound.named,named]
  · rw [← List.concat_eq_append]
    exact List.Nodup.concat fresh sound.distinct
  · intro other index
    simp only [Keyed.append]
    by_cases same : other = identifier
    · subst same
      rw [Function.update_self,Option.some_inj,length]
      constructor
      · intro last
        simp [← last]
      · intro found
        by_contra elsewhere
        have inside : index < labels.length := by
          have bound := (List.getElem?_eq_some_iff.mp found).1
          simp only [List.length_append,List.length_singleton] at bound
          omega
        rw [List.getElem?_append_left inside] at found
        exact fresh (List.mem_of_getElem? found)
    · rw [Function.update_of_ne same,sound.indexed]
      constructor
      · intro found
        rw [List.getElem?_append_left (List.getElem?_eq_some_iff.mp found).1]
        exact found
      · intro found
        by_cases inside : index < labels.length
        · rwa [List.getElem?_append_left inside] at found
        · rw [List.getElem?_append_right (by omega)] at found
          have last := List.mem_singleton.mp (List.mem_of_getElem? found)
          exact absurd last same

theorem set_sound {keyed : Keyed} {labels : List String} (sound : keyed.Sound labels) {index : Nat} {identifier : String}
    {item : Payload} (label : labels[index]? = some identifier) (named : item.identifier = some identifier) :
    Keyed.Sound {keyed with result := keyed.result.set index item} labels := by
  refine ⟨⟨?_,sound.distinct⟩,sound.indexed⟩
  rw [List.map_set,sound.named,named,← List.map_set]
  congr 1
  refine List.ext_getElem? fun at_ => ?_
  rw [List.getElem?_set]
  split
  · rename_i same
    subst same
    have inside := (List.getElem?_eq_some_iff.mp label).1
    simp [inside,← label]
  · rfl

theorem itemNamed_set {items : List Payload} {labels : List String} (labelled : Labelled items labels) {index : Nat}
    {identifier : String} {item : Payload} (label : labels[index]? = some identifier)
    (replaced : Labelled (items.set index item) labels) (other : String) :
    itemNamed (items.set index item) other = if other = identifier then some item else itemNamed items other := by
  have inside : index < items.length := by
    rw [named_length labelled]
    exact (List.getElem?_eq_some_iff.mp label).1
  by_cases same : other = identifier
  · subst same
    rw [itemNamed_at replaced label,if_pos rfl]
    simp [inside]
  · rw [if_neg same]
    by_cases known : other ∈ labels
    · obtain ⟨place,found⟩ := List.mem_iff_getElem?.mp known
      have apart : index ≠ place := by
        intro meet
        subst meet
        exact same (Option.some.inj (found.symm.trans label))
      rw [itemNamed_at replaced found,itemNamed_at labelled found,List.getElem?_set_ne apart]
    · rw [itemNamed_none replaced known,itemNamed_none labelled known]

theorem identifier_said {item : Payload} {identifier : String} (named : item.identifier = some identifier) :
    item.kind = .map ∧ ∃ value, item.at ["id"] = some value ∧ value.text = some identifier := by
  cases item with
  | map entries =>
    simp only [Payload.identifier,entryId,Option.bind_eq_some_iff] at named
    obtain ⟨value,found,text⟩ := named
    exact ⟨rfl,value,by simp [Payload.at,found],text⟩
  | _ => simp [Payload.identifier] at named

theorem outline_map {value : Option Payload} (outlined : outline value = .map) : ∃ entries, value = some (.map entries) := by
  unfold outline at outlined
  split at outlined
  · cases outlined
  · exact ⟨_,rfl⟩
  · cases outlined

theorem outline_text {value : Option Payload} {other : Payload} {identifier : String} (text : other.text = some identifier)
    (outlined : outline value = outline (some other)) : ∃ same, value = some same ∧ same.text = some identifier := by
  have leaf : outline (some other) = .is other := by
    cases other <;> first | rfl | simp [Payload.text] at text
  rw [leaf] at outlined
  unfold outline at outlined
  split at outlined
  · cases outlined
  · cases outlined
  · rename_i value _
    injection outlined with frozen
    refine ⟨value,rfl,?_⟩
    cases value <;> simp only [Payload.freeze] at frozen <;> subst frozen <;> exact text

-- An entry that is merged into one with its identifier keeps it.
theorem merged_identifier {lower higher merged : Payload} {path identifier : String} (genuine : higher.Genuine)
    (named : higher.identifier = some identifier) (did : mergeValue lower higher path = .ok merged) :
    merged.identifier = some identifier := by
  obtain ⟨mapping,value,found,text⟩ := identifier_said named
  cases higher with
  | map entries =>
    have whole := merged_outline _ genuine did []
    have below := merged_outline _ genuine did ["id"]
    have told : (Payload.map entries).setting ["id"] = some (some value) := by
      simp only [Payload.at] at found
      simp only [Payload.setting]
      split at found
      · exact congrArg some found
      · cases found
    rw [told] at below
    obtain ⟨inherited,shape⟩ := outline_map whole
    obtain ⟨same,kept,text⟩ := outline_text text below
    rw [Option.some.inj shape] at kept ⊢
    simp only [Payload.at] at kept
    split at kept
    · rename_i nested inside
      rw [Payload.identifier,entryId,inside,Option.some.inj kept]
      exact text
    · cases kept
  | _ => cases mapping

theorem labelled_cons {item : Payload} {rest : List Payload} {labels : List String} (labelled : Labelled (item :: rest) labels) :
    ∃ label more, labels = label :: more ∧ item.identifier = some label ∧ label ∉ more ∧ Labelled rest more := by
  cases labels with
  | nil => cases labelled.named
  | cons label more =>
    obtain ⟨named,distinct⟩ := labelled
    simp only [List.map_cons,List.cons.injEq] at named
    rw [List.nodup_cons] at distinct
    exact ⟨label,more,rfl,named.1,distinct.1,named.2,distinct.2⟩

theorem keyedLower_sound {path : String} {items : List Payload} {keyed after : Keyed} {labels added : List String}
    (sound : keyed.Sound labels) (labelled : Labelled items added) (apart : ∀ label ∈ added, label ∉ labels)
    (did : keyedLower path items keyed = .ok after) : after.Sound (labels ++ added) ∧ after.result = keyed.result ++ items := by
  induction items generalizing keyed labels added with
  | nil =>
    have nothing : added = [] := List.map_eq_nil_iff.mp labelled.named.symm
    rw [keyedLower,pure_ok] at did
    subst nothing did
    simpa using sound
  | cons item rest ih =>
    obtain ⟨label,more,rfl,named,fresh,later⟩ := labelled_cons labelled
    simp only [keyedLower,bind_ok,keyedId_ok,named,Option.some.injEq,exists_eq_left'] at did
    have new : label ∉ labels := apart label (List.mem_cons_self ..)
    have further : ∀ other ∈ more, other ∉ labels ++ [label] := by
      intro other member known
      rcases List.mem_append.mp known with before | last
      · exact apart other (List.mem_cons_of_mem _ member) before
      · exact fresh (List.mem_singleton.mp last ▸ member)
    have run := ih (append_sound sound named new) later further did
    simpa [Keyed.append] using run

theorem empty_sound : Keyed.Sound {} [] := by
  refine ⟨⟨rfl,List.nodup_nil⟩,?_⟩
  intro identifier index
  simp

-- What the entries of one list say about those with an identifier.
def saidOf (items : List Payload) (identifier : String) (keys : List String) : Option (Option Payload) :=
  (itemNamed items identifier).bind (·.setting keys)

def entryAt (items : List Payload) (identifier : String) (keys : List String) : Option Payload :=
  (itemNamed items identifier).bind (·.at keys)

theorem entry_alone (items : List Payload) (identifier : String) (keys : List String) :
    outline (entryAt items identifier keys) = override .absent (saidOf items identifier keys) := by
  unfold entryAt saidOf
  cases itemNamed items identifier with
  | none => rfl
  | some item => exact alone_outline item keys

theorem said_cons {item : Payload} {label : String} (named : item.identifier = some label) (rest : List Payload)
    (identifier : String) (keys : List String) :
    saidOf (item :: rest) identifier keys = if identifier = label then item.setting keys else saidOf rest identifier keys := by
  unfold saidOf itemNamed
  rw [List.find?_cons,named]
  by_cases same : identifier = label
  · subst same
    simp
  · have apart : ¬ label = identifier := fun other => same other.symm
    simp [same,apart]

theorem entry_append (items : List Payload) {item : Payload} {label : String} (named : item.identifier = some label)
    (fresh : itemNamed items label = none) (identifier : String) (keys : List String) :
    entryAt (items ++ [item]) identifier keys = if identifier = label then item.at keys else entryAt items identifier keys := by
  unfold entryAt
  rw [itemNamed_append,named]
  by_cases same : identifier = label
  · subst same
    simp [fresh]
  · have apart : ¬ label = identifier := fun other => same other.symm
    simp [same,apart]

-- A list that is merged over another adds the entries that are new and merges the others in
-- their places.
theorem keyedHigher_sound {path : String} {items : List Payload} {keyed after : Keyed} {labels added : List String}
    (sound : keyed.Sound labels) (labelled : Labelled items added) (genuine : ∀ item ∈ items, item.Genuine)
    (did : keyedHigher path items keyed = .ok after) :
    after.Sound (labels ++ added).eraseDups ∧ ∀ identifier keys, outline (entryAt after.result identifier keys) =
      override (outline (entryAt keyed.result identifier keys)) (saidOf items identifier keys) := by
  induction items generalizing keyed labels added with
  | nil =>
    have nothing : added = [] := List.map_eq_nil_iff.mp labelled.named.symm
    rw [keyedHigher,pure_ok] at did
    subst nothing did
    rw [List.append_nil,eraseDups_fresh sound.distinct]
    exact ⟨sound,fun _ _ => rfl⟩
  | cons item rest ih =>
    obtain ⟨label,more,rfl,named,fresh,later⟩ := labelled_cons labelled
    have following : ∀ member ∈ rest, member.Genuine := fun member inside => genuine member (List.mem_cons_of_mem _ inside)
    have here : item.Genuine := genuine item (List.mem_cons_self ..)
    have silent : ∀ keys, saidOf rest label keys = none := by
      intro keys
      rw [saidOf,itemNamed_none later fresh]
      rfl
    simp only [keyedHigher,bind_ok,keyedId_ok,named,Option.some.injEq,exists_eq_left'] at did
    split at did
    · rename_i index known
      rw [bind_ok] at did
      obtain ⟨merged,nestedly,did⟩ := did
      have label_at := (sound.indexed label index).mp known
      have member : label ∈ labels := List.mem_of_getElem? label_at
      have replaced := set_sound sound label_at (merged_identifier here named nestedly)
      obtain ⟨whole,each⟩ := ih replaced later following did
      rw [eraseDups_known member]
      refine ⟨whole,fun identifier keys => ?_⟩
      rw [each,said_cons named]
      have inside : itemNamed keyed.result label = some ((keyed.result[index]?).getD .null) := by
        rw [itemNamed_at sound.toLabelled label_at]
        have bound := (List.getElem?_eq_some_iff.mp label_at).1
        rw [← named_length sound.toLabelled] at bound
        simp [bound]
      have written := itemNamed_set sound.toLabelled label_at replaced.toLabelled
      by_cases same : identifier = label
      · subst same
        rw [silent,if_pos rfl,entryAt,written,if_pos rfl,entryAt,inside]
        exact merged_outline item here nestedly keys
      · rw [if_neg same,entryAt,written,if_neg same]
        rfl
    · rename_i unknown
      have new : label ∉ labels := by
        intro member
        obtain ⟨index,found⟩ := List.mem_iff_getElem?.mp member
        rw [(sound.indexed label index).mpr found] at unknown
        cases unknown
      have absent := itemNamed_none sound.toLabelled new
      obtain ⟨whole,each⟩ := ih (append_sound sound named new) later following did
      rw [List.append_assoc] at whole
      refine ⟨whole,fun identifier keys => ?_⟩
      rw [each,said_cons named,Keyed.append,entry_append keyed.result named absent]
      by_cases same : identifier = label
      · subst same
        rw [silent,if_pos rfl,if_pos rfl,entryAt,absent]
        exact alone_outline item keys
      · rw [if_neg same,if_neg same]

theorem mergeKeyedList_sound {path : String} {lower higher merged : List Payload} {labels added : List String}
    (inherited : Labelled lower labels) (labelled : Labelled higher added) (genuine : ∀ item ∈ higher, item.Genuine)
    (did : mergeKeyedList lower higher path = .ok merged) :
    Labelled merged (labels ++ added).eraseDups ∧ ∀ identifier keys, outline (entryAt merged identifier keys) =
      override (outline (entryAt lower identifier keys)) (saidOf higher identifier keys) := by
  simp only [mergeKeyedList,bind_ok,pure_ok] at did
  obtain ⟨indexed,first,keyed,second,rfl⟩ := did
  obtain ⟨sound,same⟩ := keyedLower_sound empty_sound inherited (fun _ _ => List.not_mem_nil) first
  rw [List.nil_append] at sound
  have start : indexed.result = lower := same
  obtain ⟨whole,each⟩ := keyedHigher_sound sound labelled genuine second
  rw [start] at each
  exact ⟨whole.toLabelled,each⟩

theorem freeze_identifier (item : Payload) : item.freeze.identifier = item.identifier := by
  cases item with
  | map entries =>
    simp only [Payload.freeze,Payload.identifier,entryId,lookup_frozen]
    cases entries.lookup "id" with
    | none => rfl
    | some value => exact freeze_text value
  | _ => rfl

theorem labelled_frozen {items : List Payload} {labels : List String} (labelled : Labelled items labels) :
    Labelled (items.map Payload.freeze) labels := by
  refine ⟨?_,labelled.distinct⟩
  rw [List.map_map,← labelled.named]
  exact List.map_congr_left fun item _ => freeze_identifier item

theorem entry_frozen (items : List Payload) (identifier : String) (keys : List String) :
    entryAt (items.map Payload.freeze) identifier keys = (entryAt items identifier keys).map Payload.freeze := by
  unfold entryAt itemNamed
  rw [List.find?_map]
  simp only [Function.comp_def,freeze_identifier]
  cases items.find? fun item => decide (item.identifier = some identifier) with
  | none => rfl
  | some item => exact freeze_at item keys

end SwapMonitor.Configuration
