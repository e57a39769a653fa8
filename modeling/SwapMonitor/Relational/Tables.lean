import Mathlib.Data.List.Nodup
import Mathlib.Data.Option.Basic
import Mathlib.Logic.Function.Basic
import Mathlib.Tactic.Common

namespace Relational

variable {Row K : Type} [DecidableEq K]

-- A unique index over the rows it covers: all of them, those whose columns are not null, or those of its WHERE clause.
structure Index (Row : Type) where
  name : String
  clashes : Row → Row → Bool

def index (name : String) (covers : Row → Bool) (key : Row → K) : Index Row where
  name := name
  clashes stored row := covers stored && covers row && key stored == key row

-- CHECK constraints and foreign keys come with what they are worth for the row.
def refusal (checks : List (String × Bool)) (indexes : List (Index Row)) (row : Row) (rows : List Row) : Option String :=
  match checks.find? (!·.2) with
  | some check => some check.1
  | none => (indexes.find? fun i => rows.any (i.clashes · row)).map (·.name)

-- INSERT within a savepoint: a refused row leaves the table as it was.
def insert (checks : List (String × Bool)) (indexes : List (Index Row)) (row : Row) (rows : List Row) :
    Except String (List Row) :=
  match refusal checks indexes row rows with
  | some name => .error name
  | none => .ok (rows ++ [row])

-- SELECT ... WHERE key = value, of which the first row counts.
def lookup (key : Row → K) (value : K) (rows : List Row) : Option Row := rows.find? (key · == value)

-- UPDATE ... WHERE, and the rows it counts.
def update (selects : Row → Bool) (set : Row → Row) (rows : List Row) : List Row :=
  rows.map fun row => if selects row then set row else row

def Distinct (covers : Row → Bool) (key : Row → K) (rows : List Row) : Prop :=
  rows.Pairwise fun a b => covers a = true → covers b = true → key a ≠ key b

def everywhere (_ : Row) : Bool := true

@[simp] theorem covered_everywhere (row : Row) : everywhere row = true := rfl

section Inserting
variable {checks : List (String × Bool)} {indexes : List (Index Row)} {row : Row} {rows rows' : List Row}
  {covers : Row → Bool} {key : Row → K}

theorem insert_ok : insert checks indexes row rows = .ok rows' ↔
    (∀ check ∈ checks, check.2 = true) ∧ (∀ i ∈ indexes, ∀ stored ∈ rows, i.clashes stored row = false) ∧ rows' = rows ++ [row] := by
  unfold insert refusal
  cases failed : checks.find? (!·.2) with
  | some check =>
    have false := List.find?_some failed
    have member := List.mem_of_find?_eq_some failed
    simp only [reduceCtorEq,false_iff,not_and]
    intro all
    rw [all check member] at false
    cases false
  | none =>
    have all : ∀ check ∈ checks, check.2 = true := by simpa using failed
    cases clashed : indexes.find? fun i => rows.any (i.clashes · row) with
    | some i =>
      have some_stored := List.find?_some clashed
      have member := List.mem_of_find?_eq_some clashed
      simp only [Option.map_some,reduceCtorEq,false_iff,not_and]
      intro _ none_stored
      obtain ⟨stored,place,clash⟩ := List.any_eq_true.mp some_stored
      rw [none_stored i member stored place] at clash
      cases clash
    | none =>
      have none_stored : ∀ i ∈ indexes, ∀ stored ∈ rows, i.clashes stored row = false := by simpa using clashed
      simp only [Option.map_none,Except.ok.injEq]
      exact ⟨fun same => ⟨all,none_stored,same.symm⟩,fun same => same.2.2.symm⟩

-- The first index that clashes names the refusal.
theorem insert_clash (before : List (Index Row)) (i : Index Row) {after : List (Index Row)} {stored : Row} (passed : ∀ check ∈ checks, check.2 = true)
    (clear : ∀ i ∈ before, ∀ stored ∈ rows, i.clashes stored row = false) (member : stored ∈ rows) (clash : i.clashes stored row = true) :
    insert checks (before ++ i :: after) row rows = .error i.name := by
  have none_failed : checks.find? (!·.2) = none := by simpa using passed
  have none_clashed : (before.find? fun i => rows.any (i.clashes · row)) = none := by simpa using clear
  have clashed : rows.any (i.clashes · row) = true := List.any_eq_true.mpr ⟨stored,member,clash⟩
  simp only [insert,refusal,none_failed,List.find?_append,none_clashed,Option.none_or,List.find?_cons,clashed,Option.map_some]

theorem index_clear {name : String} {stored : Row} : (index name covers key).clashes stored row = false ↔
    (covers stored = true → covers row = true → key stored ≠ key row) := by
  simp only [index,Bool.and_eq_false_iff,beq_eq_false_iff_ne]
  constructor
  · intro clear old new
    rcases clear with (uncovered | uncovered) | apart
    · rw [old] at uncovered
      cases uncovered
    · rw [new] at uncovered
      cases uncovered
    · exact apart
  · intro apart
    cases old : covers stored with
    | false => exact .inl (.inl rfl)
    | true =>
      cases new : covers row with
      | false => exact .inl (.inr rfl)
      | true => exact .inr (apart old new)

-- What an index keeps apart stays apart.
theorem distinct_insert {name : String} (distinct : Distinct covers key rows) (indexed : index name covers key ∈ indexes)
    (inserted : insert checks indexes row rows = .ok rows') : Distinct covers key rows' := by
  obtain ⟨_,clear,rfl⟩ := insert_ok.mp inserted
  refine List.pairwise_append.mpr ⟨distinct,List.pairwise_singleton _ _,?_⟩
  intro stored place other last old new
  obtain rfl := List.mem_singleton.mp last
  exact index_clear.mp (clear _ indexed stored place) old new

theorem lookup_some {value : K} (found : lookup key value rows = some row) : row ∈ rows ∧ key row = value :=
  ⟨List.mem_of_find?_eq_some found,by simpa using List.find?_some found⟩

theorem lookup_none {value : K} : lookup key value rows = none ↔ ∀ row ∈ rows, key row ≠ value := by simp [lookup]

theorem lookup_append {value : K} : lookup key value (rows ++ [row]) =
    (lookup key value rows).or (if key row = value then some row else none) := by
  rw [lookup,List.find?_append]
  by_cases same : key row = value
  · simp [lookup,same]
  · have other : (key row == value) = false := beq_false_of_ne same
    simp [lookup,same,other]

-- The stored rows answer first.
theorem lookup_kept {value : K} {stored : Row} (found : lookup key value rows = some stored) :
    lookup key value (rows ++ [row]) = some stored := by
  rw [lookup_append,found,Option.some_or]

theorem lookup_new {value : K} (free : lookup key value rows = none) (named : key row = value) :
    lookup key value (rows ++ [row]) = some row := by
  rw [lookup_append,free,if_pos named,Option.none_or]

theorem lookup_other {value : K} (other : key row ≠ value) : lookup key value (rows ++ [row]) = lookup key value rows := by
  rw [lookup_append,if_neg other,Option.or_none]

-- A covered row is what its key finds.
theorem lookup_distinct (distinct : Distinct covers key rows) (covered : ∀ other, key other = key row → covers other = true)
    (member : row ∈ rows) : lookup key (key row) rows = some row := by
  induction rows with
  | nil => cases member
  | cons first rest ih =>
    obtain ⟨apart,distinct⟩ := List.pairwise_cons.mp distinct
    rw [lookup,List.find?_cons]
    rcases List.mem_cons.mp member with rfl | later
    · simp
    · by_cases same : key first = key row
      · exact absurd same (apart row later (covered first same) (covered row rfl))
      · rw [beq_false_of_ne same]
        exact ih distinct later

theorem clear_free {name : String} {value : K} (clear : ∀ stored ∈ rows, (index name covers key).clashes stored row = false)
    (named : key row = value) (covered : ∀ other, key other = value → covers other = true) : lookup key value rows = none := by
  refine lookup_none.mpr fun stored place same => ?_
  exact index_clear.mp (clear stored place) (covered stored same) (covered row named) (same.trans named.symm)

end Inserting

section Updating
variable {selects : Row → Bool} {set : Row → Row} {rows : List Row} {key : Row → K} {covers : Row → Bool} {row : Row}

omit [DecidableEq K] in
theorem distinct_update (distinct : Distinct covers key rows) (covered : ∀ row, covers (set row) = covers row)
    (keyed : ∀ row, key (set row) = key row) : Distinct covers key (update selects set rows) := by
  refine List.pairwise_map.mpr (distinct.imp fun {a b} apart left right => ?_)
  have same : ∀ row : Row, covers (if selects row then set row else row) = covers row ∧
      key (if selects row then set row else row) = key row := by
    intro row
    split
    · exact ⟨covered row,keyed row⟩
    · exact ⟨rfl,rfl⟩
  rw [(same a).1] at left
  rw [(same b).1] at right
  rw [(same a).2,(same b).2]
  exact apart left right

theorem lookup_update {value : K} (keyed : ∀ row, key (set row) = key row) : lookup key value (update selects set rows) =
    (lookup key value rows).map fun row => if selects row then set row else row := by
  unfold lookup update
  rw [List.find?_map]
  congr 2
  funext row
  by_cases selected : selects row = true <;> simp [selected,keyed]

-- Where a key is unique, a WHERE clause that asks for it and for more selects the row of the key or none.
theorem count_keyed {value : K} (distinct : Distinct everywhere key rows) (more : Row → Bool) :
    rows.countP (fun row => key row == value && more row) =
      match lookup key value rows with
      | some row => if more row then 1 else 0
      | none => 0 := by
  induction rows with
  | nil => rfl
  | cons first rest ih =>
    obtain ⟨apart,distinct⟩ := List.pairwise_cons.mp distinct
    rw [List.countP_cons,ih distinct]
    by_cases same : key first = value
    · have free : lookup key value rest = none := by
        refine lookup_none.mpr fun row member equal => ?_
        exact apart row member rfl rfl (same.trans equal.symm)
      have found : lookup key value (first :: rest) = some first := by simp [lookup,same]
      simp [same,free,found]
    · have passed : lookup key value (first :: rest) = lookup key value rest := by simp [lookup,beq_false_of_ne same]
      simp [passed,beq_false_of_ne same]

-- Likewise of what it finds.
theorem find_keyed {value : K} (distinct : Distinct covers key rows) (covered : ∀ row, key row = value → covers row = true)
    (more : Row → Bool) : rows.find? (fun row => key row == value && more row) = (lookup key value rows).filter more := by
  induction rows with
  | nil => rfl
  | cons first rest ih =>
    obtain ⟨apart,distinct⟩ := List.pairwise_cons.mp distinct
    by_cases same : key first = value
    · have free : lookup key value rest = none := by
        refine lookup_none.mpr fun row member equal => ?_
        exact apart row member (covered first same) (covered row equal) (same.trans equal.symm)
      have found : lookup key value (first :: rest) = some first := by simp [lookup,same]
      have later := ih distinct
      rw [free,Option.filter_none] at later
      rw [found,List.find?_cons,later,Option.filter_some]
      cases more first <;> simp [same]
    · have passed : lookup key value (first :: rest) = lookup key value rest := by simp [lookup,beq_false_of_ne same]
      rw [passed,List.find?_cons,beq_false_of_ne same,Bool.false_and]
      exact ih distinct

end Updating

-- A dictionary that holds, under every value of a key, what the table holds there.
def Tracks (related : Row → β → Prop) (key : Row → K) (rows : List Row) (held : K → Option β) : Prop :=
  ∀ value, Option.Rel related (lookup key value rows) (held value)

section Tracking
variable {related : Row → β → Prop} {key : Row → K} {rows : List Row} {held : K → Option β} {value : K} {row : Row} {b : β}

theorem tracks_none (tracks : Tracks related key rows held) : held value = none ↔ lookup key value rows = none := by
  have here := tracks value
  constructor
  · intro free
    rw [free] at here
    generalize lookup key value rows = found at here
    cases here
    rfl
  · intro free
    rw [free] at here
    generalize held value = found at here
    cases here
    rfl

theorem tracks_some (tracks : Tracks related key rows held) (known : held value = some b) :
    ∃ row, lookup key value rows = some row ∧ related row b := by
  have here := tracks value
  rw [known] at here
  generalize lookup key value rows = found at here
  cases here with
  | some holds => exact ⟨_,rfl,holds⟩

theorem tracks_found (tracks : Tracks related key rows held) (found : lookup key value rows = some row) :
    ∃ b, held value = some b ∧ related row b := by
  have here := tracks value
  rw [found] at here
  generalize held value = known at here
  cases here with
  | some holds => exact ⟨_,rfl,holds⟩

theorem tracks_empty : Tracks related key [] fun _ => none := fun _ => .none

theorem tracks_insert (tracks : Tracks related key rows held) (free : lookup key (key row) rows = none) (new : related row b) :
    Tracks related key (rows ++ [row]) (Function.update held (key row) (some b)) := by
  intro value
  by_cases same : key row = value
  · subst same
    rw [lookup_new free rfl,Function.update_self]
    exact .some new
  · rw [lookup_other same,Function.update_of_ne (Ne.symm same)]
    exact tracks value

theorem tracks_update {selects : Row → Bool} {set : Row → Row} (tracks : Tracks related key rows held)
    (keyed : ∀ row, key (set row) = key row) (found : lookup key value rows = some row) (selected : selects row = true)
    (new : related (set row) b) (elsewhere : ∀ other row, other ≠ value → lookup key other rows = some row → selects row = false) :
    Tracks related key (update selects set rows) (Function.update held value (some b)) := by
  intro other
  rw [lookup_update keyed]
  by_cases same : other = value
  · subst same
    rw [found,Function.update_self,Option.map_some,if_pos selected]
    exact .some new
  · rw [Function.update_of_ne same]
    have there := tracks other
    cases at_other : lookup key other rows with
    | none =>
      rw [at_other] at there
      exact there
    | some kept =>
      rw [at_other] at there
      rw [Option.map_some,elsewhere other kept same at_other]
      exact there

end Tracking
end Relational
