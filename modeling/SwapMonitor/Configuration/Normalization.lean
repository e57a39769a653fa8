import SwapMonitor.Configuration.CanonicalJson
import SwapMonitor.Domain.TextForms

namespace SwapMonitor.Configuration
open Collections JsonText

-- What a value is apart from how it is written: a text in NFC, a number by its value, a mapping by
-- what it holds under each key.
inductive Normal where
  | null
  | bool (value : Bool)
  | number (value : ℚ)
  | text (value : String)
  | list (items : List Normal)
  | map (members : String → Option Normal)

-- How an instant is shown, where a datetime can show it.
def instantText (instant : Instant) : String := ((utcClock instant).map fun utc => String.ofList (utcChars utc)).getD ""

-- The values that hold no others.
inductive Scalar where
  | null
  | bool (value : Bool)
  | number (value : Decimal)
  | text (value : String)

def Scalar.tree : Scalar → Tree
  | .null => .null
  | .bool value => .bool value
  | .number value => .number (numberChars value)
  | .text value => .str value

def Scalar.normal : Scalar → Normal
  | .null => .null
  | .bool value => .bool value
  | .number value => .number value.toRat
  | .text value => .text value

variable (u : UnicodeData)

def Payload.scalar : Payload → Option Scalar
  | .null => some .null
  | .bool value => some (.bool value)
  | .int value => some (.number (Decimal.ofSigned value 0))
  | .decimal value => some (.number value)
  | .str value => some (.text (u.nfc value))
  | .enumMember _ member => member.string.map fun value => .text (u.nfc value)
  | .uuid value => some (.text (uuidText value))
  | .datetime value => some (.text (instantText value.instant))
  | .date value => some (.text value.isoformat)
  | _ => none

mutual
def Payload.normalize : Payload → Normal
  | .list items => .list (normalizeItems items)
  | .tuple items => .list (normalizeItems items)
  | .map entries => .map fun key => (normalizeEntries entries).lookup key
  | value => ((value.scalar u).map Scalar.normal).getD .null

def normalizeItems : List Payload → List Normal
  | [] => []
  | item :: rest => item.normalize :: normalizeItems rest

def normalizeEntries : List (String × Payload) → List (String × Normal)
  | [] => []
  | (key,value) :: rest => (u.nfc key,value.normalize) :: normalizeEntries rest
end

mutual
-- What the canonical text shows.
def Payload.tree : Payload → Tree
  | .list items => .arr (treeItems items)
  | .tuple items => .arr (treeItems items)
  | .map entries => .obj (sortBy (fun entry => utf8 entry.1) (treeEntries entries))
  | value => ((value.scalar u).map Scalar.tree).getD .null

def treeItems : List Payload → List Tree
  | [] => []
  | item :: rest => item.tree :: treeItems rest

def treeEntries : List (String × Payload) → List (String × Tree)
  | [] => []
  | (key,value) :: rest => (u.nfc key,value.tree) :: treeEntries rest
end

mutual
-- What rendering a value establishes of it.
def Payload.Regular : Payload → Prop
  | .list items => RegularItems items
  | .tuple items => RegularItems items
  | .map entries => (entries.map fun entry => u.nfc entry.1).Nodup ∧ RegularEntries entries
  | .datetime value => (utcClock value.instant).isSome
  | value => (value.scalar u).isSome

def RegularItems : List Payload → Prop
  | [] => True
  | item :: rest => item.Regular ∧ RegularItems rest

def RegularEntries : List (String × Payload) → Prop
  | [] => True
  | (_,value) :: rest => value.Regular ∧ RegularEntries rest
end

theorem instantText_exact {i j : Instant} (shown : (utcClock i).isSome) (shown' : (utcClock j).isSome) :
    instantText i = instantText j ↔ i = j := by
  obtain ⟨utc,clock⟩ := Option.isSome_iff_exists.mp shown
  obtain ⟨utc',clock'⟩ := Option.isSome_iff_exists.mp shown'
  constructor
  · intro same
    rw [instantText,instantText,clock,clock'] at same
    have chars := String.ofList_inj.mp same
    have zone := utcClock_instant clock
    have zone' := utcClock_instant clock'
    have clocks := utc_text zone.2 zone'.2 chars
    rw [← zone.1,← zone'.1,clocks]
  · exact congrArg instantText

theorem utf8_injective {a b : String} (same : utf8 a = utf8 b) : a = b := by
  unfold utf8 at same
  have bytes := List.map_injective_iff.mpr (fun _ _ => UInt8.toNat_inj.mp) same
  have arrays := Array.toList_inj.mp bytes
  exact String.toByteArray_inj.mp (ByteArray.ext arrays)

theorem scalarTree_exact (a b : Scalar) : a.tree = b.tree ↔ a.normal = b.normal := by
  cases a <;> cases b <;> simp [Scalar.tree,Scalar.normal,numberChars_exact]

-- The texts of identifiers, dates and instants are ASCII.
theorem fixed_ascii {base : Nat} (two : 1 < base) (sixteen : base ≤ 16) (width n : Nat) :
    ∀ c ∈ Numerals.fixed base width n, c.toNat < 128 := by
  intro c member
  obtain ⟨d,small,rfl⟩ := Numerals.fixed_chars two width n c member
  have shown : ∀ d < 16, (Nat.digitChar d).toNat < 128 := by decide
  exact shown d (by omega)

theorem date_ascii (date : CivilDate) : ∀ c ∈ date.chars, c.toNat < 128 := by
  intro c member
  simp only [CivilDate.chars,List.mem_append,List.mem_cons] at member
  rcases member with (year | rfl | month) | rfl | day
  · exact fixed_ascii (by decide) (by decide) _ _ c year
  · decide
  · exact fixed_ascii (by decide) (by decide) _ _ c month
  · decide
  · exact fixed_ascii (by decide) (by decide) _ _ c day

theorem utc_ascii (utc : Timestamp) : ∀ c ∈ utcChars utc, c.toNat < 128 := by
  intro c member
  have digits : ∀ width n, c ∈ Numerals.fixed 10 width n → c.toNat < 128 := fun width n => fixed_ascii (by decide) (by decide) width n c
  simp only [utcChars,List.mem_append,List.mem_cons,List.not_mem_nil,or_false] at member
  rcases member with date | rfl | hour | rfl | minute | rfl | second | rfl | micros | rfl
  · exact date_ascii utc.date c date
  · decide
  · exact digits _ _ hour
  · decide
  · exact digits _ _ minute
  · decide
  · exact digits _ _ second
  · decide
  · exact digits _ _ micros
  · decide

theorem uuid_ascii (identifier : UUID) : ∀ c ∈ (uuidText identifier).toList, c.toNat < 128 := by
  intro c member
  have digits : ∀ width n, c ∈ Numerals.fixed 16 width n → c.toNat < 128 := fun width n => fixed_ascii (by decide) (by decide) width n c
  simp only [uuidText,String.toList_append,padded_chars,List.mem_append] at member
  rcases member with (((((((part | dash) | part) | dash) | part) | dash) | part) | dash) | part
  all_goals first
    | exact digits _ _ part
    | (rw [List.mem_singleton.mp dash]; decide)

theorem distinct_keys {keys normalizedKeys : List String} (passed : requireDistinctKeys keys normalizedKeys = .ok ()) :
    keys.Nodup ∧ ∀ key ∈ keys, key ∉ normalizedKeys := by
  induction keys generalizing normalizedKeys with
  | nil => exact ⟨List.nodup_nil,fun _ member => absurd member List.not_mem_nil⟩
  | cons key rest ih =>
    simp only [requireDistinctKeys,check_ok,raiseIf_ok,decide_eq_false_iff_not] at passed
    obtain ⟨distinct,fresh⟩ := ih passed.2
    refine ⟨List.nodup_cons.mpr ⟨fun member => fresh key member (List.mem_cons_self ..),distinct⟩,?_⟩
    intro other member
    rcases List.mem_cons.mp member with rfl | later
    · exact passed.1
    · exact fun known => fresh other later (List.mem_cons_of_mem _ known)

theorem treeEntries_map (entries : List (String × Payload)) :
    treeEntries u entries = entries.map fun entry => (u.nfc entry.1,entry.2.tree u) := by
  induction entries with
  | nil => rfl
  | cons entry rest ih => rw [treeEntries,ih,List.map_cons]

theorem canonicalEntries_map (entries : List (String × Payload)) :
    canonicalEntries u entries = entries.map fun entry => (u.nfc entry.1,canonicalValue u entry.2) := by
  induction entries with
  | nil => rfl
  | cons entry rest ih => rw [canonicalEntries,ih,List.map_cons]

theorem text_chars (tree : Tree) : tree.text.toList = tree.chars := String.toList_ofList

-- Whenever a value is rendered, it is regular and its text is that of its tree.
def Rendered (value : Payload) : Prop := ∀ text, canonicalValue u value = .ok text → value.Regular u ∧ text = (value.tree u).text

theorem scalar_rendered {value : Payload} (scalar : Scalar) (regular : value.Regular u) (tree : value.tree u = scalar.tree)
    (shown : canonicalValue u value = .ok scalar.tree.text) : Rendered u value := by
  intro _ rendered
  rw [shown] at rendered
  cases rendered
  exact ⟨regular,congrArg Tree.text tree.symm⟩

theorem decimal_rendered (d : Decimal) : canonicalDecimal d = String.ofList (numberChars d) := by
  unfold canonicalDecimal
  split
  · rename_i zero
    rw [numberChars,if_pos zero]
  · rename_i nonzero
    exact congrArg String.ofList (fixedPoint_stripped nonzero)

theorem int_rendered (n : Int) : toString n = String.ofList (numberChars (Decimal.ofSigned n 0)) := by
  rw [← int_shown,String.ofList_toList]

theorem brackets_text (texts : List String) (left right : Char) :
    (String.ofList [left] ++ ",".intercalate texts ++ String.ofList [right]).toList =
      left :: (separated (texts.map String.toList) ++ [right]) := by
  simp [separated_intercalate,String.toList_intercalate]

theorem items_text {items : List Payload} (rendered : ∀ item ∈ items, Rendered u item) {texts : List String}
    (shown : canonicalItems u items = .ok texts) :
    RegularItems u items ∧ texts.map String.toList = itemTexts (treeItems u items) := by
  induction items generalizing texts with
  | nil =>
    cases shown
    exact ⟨trivial,rfl⟩
  | cons item rest ih =>
    simp only [canonicalItems,bind_ok,pure_ok] at shown
    obtain ⟨text,first,following,later,rfl⟩ := shown
    obtain ⟨regular,same⟩ := rendered item (List.mem_cons_self ..) text first
    obtain ⟨regulars,texts⟩ := ih (fun other member => rendered other (List.mem_cons_of_mem _ member)) later
    refine ⟨⟨regular,regulars⟩,?_⟩
    rw [List.map_cons,texts,same,text_chars]
    rfl

theorem members_text {entries : List (String × Payload)} (rendered : ∀ entry ∈ entries, Rendered u entry.2)
    {texts : List String}
    (shown : canonicalMembers u (entries.map fun entry => (u.nfc entry.1,canonicalValue u entry.2)) = .ok texts) :
    (∀ entry ∈ entries, entry.2.Regular u) ∧
      texts.map String.toList = memberTexts (entries.map fun entry => (u.nfc entry.1,entry.2.tree u)) := by
  induction entries generalizing texts with
  | nil =>
    cases shown
    exact ⟨fun _ member => absurd member List.not_mem_nil,rfl⟩
  | cons entry rest ih =>
    simp only [List.map_cons,canonicalMembers,bind_ok,pure_ok] at shown
    obtain ⟨text,first,following,later,rfl⟩ := shown
    obtain ⟨regular,same⟩ := rendered entry (List.mem_cons_self ..) text first
    obtain ⟨regulars,texts⟩ := ih (fun other member => rendered other (List.mem_cons_of_mem _ member)) later
    refine ⟨?_,?_⟩
    · intro other member
      rcases List.mem_cons.mp member with rfl | inside
      · exact regular
      · exact regulars other inside
    · have member : (canonicalText u (u.nfc entry.1) ++ ":" ++ text).toList =
          quoted (u.nfc entry.1) ++ ':' :: (entry.2.tree u).chars := by
        rw [canonicalText,u.nfc_nfc,same,String.toList_append,String.toList_append,text_chars,dumps,String.toList_ofList,
          List.append_assoc]
        rfl
      rw [List.map_cons,texts,member]
      rfl

theorem regular_entries {entries : List (String × Payload)} (each : ∀ entry ∈ entries, entry.2.Regular u) :
    RegularEntries u entries := by
  induction entries with
  | nil => trivial
  | cons entry rest ih =>
    exact ⟨each entry (List.mem_cons_self ..),ih fun other member => each other (List.mem_cons_of_mem _ member)⟩

-- The keys, and so the order of the members, do not depend on what the members hold.
theorem entries_sorted {β : Type} (entries : List (String × Payload)) (show' : Payload → β) :
    sortBy (fun entry => utf8 entry.1) (entries.map fun entry => (u.nfc entry.1,show' entry.2)) =
      (sortBy (fun entry => utf8 (u.nfc entry.1)) entries).map fun entry => (u.nfc entry.1,show' entry.2) :=
  sortBy_map _ _ entries

theorem map_rendered {entries : List (String × Payload)} (each : ∀ entry ∈ entries, Rendered u entry.2) :
    Rendered u (.map entries) := by
  intro text shown
  simp only [canonicalValue,canonicalEntries_map,bind_ok,pure_ok] at shown
  obtain ⟨_,distinct,members,rendered,rfl⟩ := shown
  rw [entries_sorted] at rendered
  obtain ⟨regular,texts⟩ := members_text u (fun entry member => each entry (mem_sortBy.mp member)) rendered
  refine ⟨⟨?_,regular_entries u fun entry member => regular entry (mem_sortBy.mpr member)⟩,?_⟩
  · simpa [List.map_map,Function.comp_def] using (distinct_keys distinct).1
  · apply String.toList_inj.mp
    have brackets := brackets_text members '\x7b' '\x7d'
    rw [texts,← entries_sorted] at brackets
    rw [text_chars,Payload.tree,treeEntries_map]
    exact brackets

theorem list_rendered {items : List Payload} (each : ∀ item ∈ items, Rendered u item) :
    Rendered u (.list items) ∧ Rendered u (.tuple items) := by
  have both : ∀ text, (canonicalItems u items >>= fun rendered => pure ("[" ++ ",".intercalate rendered ++ "]")) = .ok text →
      RegularItems u items ∧ text = (Tree.arr (treeItems u items)).text := by
    intro text shown
    simp only [bind_ok,pure_ok] at shown
    obtain ⟨texts,rendered,rfl⟩ := shown
    obtain ⟨regular,same⟩ := items_text u each rendered
    have brackets := brackets_text texts '[' ']'
    rw [same] at brackets
    refine ⟨regular,String.toList_inj.mp ?_⟩
    rw [text_chars]
    exact brackets
  exact ⟨both,both⟩

theorem datetime_rendered (value : ZonedTimestamp) : Rendered u (.datetime value) := by
  intro text shown
  simp only [canonicalValue,canonicalDatetime,Timestamp.astimezoneUtc] at shown
  cases clock : utcClock value.instant with
  | none =>
    rw [clock] at shown
    cases shown
  | some utc =>
    rw [clock] at shown
    cases shown
    have kept : u.nfc (String.ofList (utcChars utc)) = String.ofList (utcChars utc) :=
      u.nfc_ascii _ (by rw [String.toList_ofList]; exact utc_ascii utc)
    have shown : instantText value.instant = String.ofList (utcChars utc) := by rw [instantText,clock]; rfl
    refine ⟨by rw [Payload.Regular,clock]; rfl,?_⟩
    rw [canonicalText,kept,← shown]
    rfl

mutual
theorem value_rendered (value : Payload) : Rendered u value := by
  cases value with
  | null => exact scalar_rendered u .null rfl rfl rfl
  | bool value => exact scalar_rendered u (.bool value) rfl rfl (by cases value <;> rfl)
  | int value =>
    refine scalar_rendered u (.number (Decimal.ofSigned value 0)) rfl rfl ?_
    rw [canonicalValue,int_rendered]
    rfl
  | str value => exact scalar_rendered u (.text (u.nfc value)) rfl rfl rfl
  | enumMember typeName member =>
    cases member with
    | other =>
      intro _ shown
      cases shown
    | mixin value => exact scalar_rendered u (.text (u.nfc value)) rfl rfl rfl
    | plain value => exact scalar_rendered u (.text (u.nfc value)) rfl rfl rfl
  | decimal value =>
    refine scalar_rendered u (.number value) rfl rfl ?_
    rw [canonicalValue,decimal_rendered]
    rfl
  | uuid value =>
    refine scalar_rendered u (.text (uuidText value)) rfl rfl ?_
    rw [canonicalValue,canonicalText,u.nfc_ascii _ (uuid_ascii value)]
    rfl
  | datetime value => exact datetime_rendered u value
  | date value =>
    refine scalar_rendered u (.text value.isoformat) rfl rfl ?_
    have ascii : ∀ c ∈ value.isoformat.toList, c.toNat < 128 := by
      rw [CivilDate.isoformat,String.toList_ofList]
      exact date_ascii value
    rw [canonicalValue,canonicalText,u.nfc_ascii _ ascii]
    rfl
  | list items => exact (list_rendered u (items_rendered items)).1
  | tuple items => exact (list_rendered u (items_rendered items)).2
  | map entries => exact map_rendered u (entries_rendered entries)
  | foreign refused =>
    intro _ shown
    cases shown

theorem items_rendered (items : List Payload) : ∀ item ∈ items, Rendered u item := by
  cases items with
  | nil => exact fun _ member => absurd member List.not_mem_nil
  | cons item rest =>
    intro other member
    rcases List.mem_cons.mp member with same | later
    · rw [same]
      exact value_rendered item
    · exact items_rendered rest other later

theorem entries_rendered (entries : List (String × Payload)) : ∀ entry ∈ entries, Rendered u entry.2 := by
  cases entries with
  | nil => exact fun _ member => absurd member List.not_mem_nil
  | cons entry rest =>
    intro other member
    rcases List.mem_cons.mp member with same | later
    · rw [same]
      exact value_rendered entry.2
    · exact entries_rendered rest other later
end

theorem shown_numbered (shown : Option Scalar) : ((shown.map Scalar.tree).getD .null).Numbered := by
  cases shown with
  | none => trivial
  | some scalar =>
    cases scalar with
    | number value => exact numberChars_shown value
    | _ => trivial

mutual
theorem tree_numbered (value : Payload) : (value.tree u).Numbered := by
  cases value with
  | list items => exact items_numbered items
  | tuple items => exact items_numbered items
  | map entries =>
    refine numberedMembers_each.mpr fun member inside => ?_
    rw [mem_sortBy,treeEntries_map,List.mem_map] at inside
    obtain ⟨entry,inside,rfl⟩ := inside
    exact entries_numbered entries entry inside
  | _ =>
    unfold Payload.tree
    exact shown_numbered _

theorem items_numbered (items : List Payload) : NumberedItems (treeItems u items) := by
  cases items with
  | nil => trivial
  | cons item rest => exact ⟨tree_numbered item,items_numbered rest⟩

theorem entries_numbered (entries : List (String × Payload)) : ∀ entry ∈ entries, (entry.2.tree u).Numbered := by
  cases entries with
  | nil => exact fun _ member => absurd member List.not_mem_nil
  | cons entry rest =>
    intro other member
    rcases List.mem_cons.mp member with same | later
    · rw [same]
      exact tree_numbered entry.2
    · exact entries_numbered rest other later
end

theorem normalizeEntries_map (entries : List (String × Payload)) :
    normalizeEntries u entries = entries.map fun entry => (u.nfc entry.1,entry.2.normalize u) := by
  induction entries with
  | nil => rfl
  | cons entry rest ih => rw [normalizeEntries,ih,List.map_cons]

-- The three sorts of regular values.
inductive Form (value : Payload) : Prop where
  | scalar (scalar : Scalar) (tree : value.tree u = scalar.tree) (normal : value.normalize u = scalar.normal)
  | list (items : List Payload) (regular : RegularItems u items) (tree : value.tree u = .arr (treeItems u items))
      (normal : value.normalize u = .list (normalizeItems u items))
  | map (entries : List (String × Payload)) (regular : Payload.Regular u (.map entries)) (same : value = .map entries)

theorem regular_form {value : Payload} (regular : value.Regular u) : Form u value := by
  cases value with
  | list items => exact .list items regular rfl rfl
  | tuple items => exact .list items regular rfl rfl
  | map entries => exact .map entries regular rfl
  | foreign refused => cases regular
  | enumMember typeName member =>
    cases member with
    | other => cases regular
    | mixin value => exact .scalar (.text (u.nfc value)) rfl rfl
    | plain value => exact .scalar (.text (u.nfc value)) rfl rfl
  | null => exact .scalar .null rfl rfl
  | bool value => exact .scalar (.bool value) rfl rfl
  | int value => exact .scalar (.number (Decimal.ofSigned value 0)) rfl rfl
  | str value => exact .scalar (.text (u.nfc value)) rfl rfl
  | decimal value => exact .scalar (.number value) rfl rfl
  | uuid value => exact .scalar (.text (uuidText value)) rfl rfl
  | datetime value => exact .scalar (.text (instantText value.instant)) rfl rfl
  | date value => exact .scalar (.text value.isoformat) rfl rfl

-- The canonical tree and the normal form tell the same values apart.
def Agrees (a b : Payload) : Prop := a.tree u = b.tree u ↔ a.normalize u = b.normalize u

theorem scalar_agrees {a b : Payload} (scalar : Scalar) (tree : a.tree u = scalar.tree) (normal : a.normalize u = scalar.normal)
    (regular : b.Regular u) : Agrees u a b := by
  unfold Agrees
  rw [tree,normal]
  cases regular_form u regular with
  | scalar other tree normal =>
    rw [tree,normal]
    exact scalarTree_exact scalar other
  | list items _ tree normal =>
    rw [tree,normal]
    cases scalar <;> simp [Scalar.tree,Scalar.normal]
  | map entries _ same =>
    subst same
    cases scalar <;> simp [Scalar.tree,Scalar.normal,Payload.tree,Payload.normalize]

theorem list_agrees {a b : Payload} {items : List Payload} (tree : a.tree u = .arr (treeItems u items))
    (normal : a.normalize u = .list (normalizeItems u items))
    (each : ∀ others, RegularItems u others → (treeItems u items = treeItems u others ↔ normalizeItems u items = normalizeItems u others))
    (regular : b.Regular u) : Agrees u a b := by
  unfold Agrees
  rw [tree,normal]
  cases regular_form u regular with
  | scalar other tree normal =>
    rw [tree,normal]
    cases other <;> simp [Scalar.tree,Scalar.normal]
  | list others regular tree normal =>
    rw [tree,normal]
    simpa using each others regular
  | map entries _ same =>
    subst same
    simp [Payload.tree,Payload.normalize]

theorem regularEntries_each {entries : List (String × Payload)} (regular : RegularEntries u entries) :
    ∀ entry ∈ entries, entry.2.Regular u := by
  induction entries with
  | nil => exact fun _ member => absurd member List.not_mem_nil
  | cons entry rest ih =>
    intro other member
    rcases List.mem_cons.mp member with rfl | later
    · exact regular.1
    · exact ih regular.2 other later

theorem entries_agree {entries others : List (String × Payload)} (regular : Payload.Regular u (.map entries))
    (regular' : Payload.Regular u (.map others)) (each : ∀ entry ∈ entries, ∀ other ∈ others, Agrees u entry.2 other.2) :
    sortBy (fun entry => utf8 entry.1) (treeEntries u entries) = sortBy (fun entry => utf8 entry.1) (treeEntries u others) ↔
      (fun key => (normalizeEntries u entries).lookup key) = fun key => (normalizeEntries u others).lookup key := by
  have ranks : ∀ {es : List (String × Payload)}, Payload.Regular u (.map es) →
      ((treeEntries u es).map fun entry => utf8 entry.1).Nodup := by
    intro es regular
    rw [treeEntries_map,List.map_map]
    have bytes := regular.1.map fun _ _ => utf8_injective
    rwa [List.map_map] at bytes
  have keys : ∀ {es : List (String × Payload)}, Payload.Regular u (.map es) → ((normalizeEntries u es).map Prod.fst).Nodup := by
    intro es regular
    rw [normalizeEntries_map,List.map_map]
    exact regular.1
  have forward : ∀ a ∈ entries, ∀ b ∈ others, (u.nfc a.1,a.2.tree u) = (u.nfc b.1,b.2.tree u) →
      (u.nfc a.1,a.2.normalize u) = (u.nfc b.1,b.2.normalize u) := by
    intro a inside b other alike
    obtain ⟨names,trees⟩ := Prod.mk.inj alike
    exact Prod.ext names ((each a inside b other).mp trees)
  have backward : ∀ a ∈ entries, ∀ b ∈ others, (u.nfc a.1,a.2.normalize u) = (u.nfc b.1,b.2.normalize u) →
      (u.nfc a.1,a.2.tree u) = (u.nfc b.1,b.2.tree u) := by
    intro a inside b other alike
    obtain ⟨names,normals⟩ := Prod.mk.inj alike
    exact Prod.ext names ((each a inside b other).mpr normals)
  rw [sortBy_members (ranks regular) (ranks regular'),treeEntries_map,treeEntries_map]
  constructor
  · intro same
    have normals := members_follow forward same
    rw [← normalizeEntries_map,← normalizeEntries_map] at normals
    funext key
    apply Option.ext
    intro normal
    rw [lookup_member (keys regular),lookup_member (keys regular')]
    exact normals _
  · intro same
    refine members_follow backward ?_
    intro ⟨key,normal⟩
    rw [← normalizeEntries_map,← normalizeEntries_map,← lookup_member (keys regular),← lookup_member (keys regular'),
      congrFun same key]

mutual
theorem tree_agrees (a : Payload) (regular : a.Regular u) : ∀ b : Payload, b.Regular u → Agrees u a b := by
  cases a with
  | list items => exact fun b => list_agrees u rfl rfl (items_agree items regular)
  | tuple items => exact fun b => list_agrees u rfl rfl (items_agree items regular)
  | map entries =>
    intro b regular'
    unfold Agrees
    cases regular_form u regular' with
    | scalar other tree normal =>
      rw [tree,normal]
      cases other <;> simp [Scalar.tree,Scalar.normal,Payload.tree,Payload.normalize]
    | list others regular tree normal =>
      rw [tree,normal]
      simp [Payload.tree,Payload.normalize]
    | map others regular' same =>
      subst same
      have agree := entries_agree u regular regular' fun entry inside other member =>
        members_agree entries regular.2 entry inside other.2 (regularEntries_each u regular'.2 other member)
      simpa [Payload.tree,Payload.normalize] using agree
  | foreign refused => cases regular
  | enumMember typeName member =>
    cases member with
    | other => cases regular
    | mixin value => exact fun b => scalar_agrees u (.text (u.nfc value)) rfl rfl
    | plain value => exact fun b => scalar_agrees u (.text (u.nfc value)) rfl rfl
  | null => exact fun b => scalar_agrees u .null rfl rfl
  | bool value => exact fun b => scalar_agrees u (.bool value) rfl rfl
  | int value => exact fun b => scalar_agrees u (.number (Decimal.ofSigned value 0)) rfl rfl
  | str value => exact fun b => scalar_agrees u (.text (u.nfc value)) rfl rfl
  | decimal value => exact fun b => scalar_agrees u (.number value) rfl rfl
  | uuid value => exact fun b => scalar_agrees u (.text (uuidText value)) rfl rfl
  | datetime value => exact fun b => scalar_agrees u (.text (instantText value.instant)) rfl rfl
  | date value => exact fun b => scalar_agrees u (.text value.isoformat) rfl rfl

theorem items_agree (items : List Payload) (regular : RegularItems u items) : ∀ others, RegularItems u others →
    (treeItems u items = treeItems u others ↔ normalizeItems u items = normalizeItems u others) := by
  cases items with
  | nil =>
    intro others _
    cases others <;> simp [treeItems,normalizeItems]
  | cons item rest =>
    intro others regular'
    cases others with
    | nil => simp [treeItems,normalizeItems]
    | cons other others =>
      have first : Agrees u item other := tree_agrees item regular.1 other regular'.1
      have later := items_agree rest regular.2 others regular'.2
      simp only [treeItems,normalizeItems,List.cons.injEq]
      exact and_congr first later

theorem members_agree (entries : List (String × Payload)) (regular : RegularEntries u entries) :
    ∀ entry ∈ entries, ∀ b : Payload, b.Regular u → Agrees u entry.2 b := by
  cases entries with
  | nil => exact fun _ member => absurd member List.not_mem_nil
  | cons entry rest =>
    intro other member
    rcases List.mem_cons.mp member with same | later
    · rw [same]
      exact tree_agrees entry.2 regular.1
    · exact members_agree rest regular.2 other later
end

-- The canonical texts of two values are one when the values have one normal form; those of two
-- datetimes, when they are at one instant.
theorem canonical_json_exact {a b : Payload} {text text' : String} (rendered : canonicalJson u a = .ok text)
    (rendered' : canonicalJson u b = .ok text') : (text = text' ↔ a.normalize u = b.normalize u) ∧
      ∀ s t : ZonedTimestamp, a = .datetime s → b = .datetime t → (text = text' ↔ s.instant = t.instant) := by
  obtain ⟨regular,rfl⟩ := value_rendered u a text rendered
  obtain ⟨regular',rfl⟩ := value_rendered u b text' rendered'
  rw [text_injective (tree_numbered u a) (tree_numbered u b)]
  refine ⟨tree_agrees u a regular b regular',?_⟩
  intro s t datetime datetime'
  subst datetime datetime'
  have instants := instantText_exact regular regular'
  simpa [Payload.tree,Payload.scalar,Scalar.tree] using instants

-- Texts that are in NFC already.
def composed : UnicodeData := ⟨id,fun _ => rfl,fun _ _ => rfl⟩

def sampleSettings : Payload := .map [("limit",.decimal ⟨false,150,-2⟩),("flags",.list [.int 1,.null])]
def sampleRewritten : Payload := .map [("flags",.tuple [.decimal ⟨false,10,-1⟩,.null]),("limit",.decimal ⟨false,15,-1⟩)]

theorem canonical_json_exact_sample : sampleSettings.normalize composed = sampleRewritten.normalize composed := by
  have rendered : canonicalJson composed sampleSettings = .ok "\x7b\"flags\":[1,null],\"limit\":1.5\x7d" := by decide +kernel
  have rendered' : canonicalJson composed sampleRewritten = .ok "\x7b\"flags\":[1,null],\"limit\":1.5\x7d" := by decide +kernel
  exact (canonical_json_exact composed rendered rendered').1.mp rfl

end SwapMonitor.Configuration
