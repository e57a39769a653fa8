import SwapMonitor.Domain.StrategyRuns

namespace SwapMonitor

mutual
-- The identical value: a number is of the same type, and a Decimal has the same sign, digits and exponent.
def Evidence.identical : Evidence → Evidence → Bool
  | .null,.null => true
  | .bool a,.bool b => a == b
  | .int a,.int b => a == b
  | .str a,.str b => a == b
  | .decimal a,.decimal b => a == b
  | .uuid a,.uuid b => a == b
  | .datetime a,.datetime b => sameInstant a.aware b.aware
  | .list a,.list b => Evidence.identicalItems a b
  | .tuple a,.tuple b => Evidence.identicalItems a b
  | .map a,.map b => a.length == b.length && Evidence.identicalEntries a b
  | _,_ => false

def Evidence.identicalItems : List Evidence → List Evidence → Bool
  | [],[] => true
  | a :: as,b :: bs => Evidence.identical a b && Evidence.identicalItems as bs
  | _,_ => false

def Evidence.identicalEntries : List (String × Evidence) → List (String × Evidence) → Bool
  | [],_ => true
  | (key,value) :: rest,other =>
    (match other.lookup key with
      | some found => Evidence.identical value found
      | none => false) && Evidence.identicalEntries rest other
end

mutual
-- Equal numbers in the same place are written alike.
def Evidence.alike : Evidence → Evidence → Bool
  | .list a,.list b => Evidence.alikeItems a b
  | .tuple a,.tuple b => Evidence.alikeItems a b
  | .map a,.map b => Evidence.alikeEntries a b
  | a,b => a.number.isNone || a.number != b.number || a.identical b

def Evidence.alikeItems : List Evidence → List Evidence → Bool
  | a :: as,b :: bs => Evidence.alike a b && Evidence.alikeItems as bs
  | _,_ => true

def Evidence.alikeEntries : List (String × Evidence) → List (String × Evidence) → Bool
  | [],_ => true
  | (key,value) :: rest,other =>
    (match other.lookup key with
      | some found => Evidence.alike value found
      | none => true) && Evidence.alikeEntries rest other
end

mutual
-- A datetime in the place of another does not show a reading that fold changes.
def Evidence.steady : Evidence → Evidence → Bool
  | .datetime _,.datetime b => !b.depends
  | .list a,.list b => Evidence.steadyItems a b
  | .tuple a,.tuple b => Evidence.steadyItems a b
  | .map a,.map b => Evidence.steadyEntries a b
  | _,_ => true

def Evidence.steadyItems : List Evidence → List Evidence → Bool
  | a :: as,b :: bs => Evidence.steady a b && Evidence.steadyItems as bs
  | _,_ => true

def Evidence.steadyEntries : List (String × Evidence) → List (String × Evidence) → Bool
  | [],_ => true
  | (key,value) :: rest,other =>
    (match other.lookup key with
      | some found => Evidence.steady value found
      | none => true) && Evidence.steadyEntries rest other
end

-- Being identical is being equal, datetimes by their instants, and writing the numbers alike.
mutual
theorem identical_exact (a b : Evidence) : a.identical b = (Evidence.sameBy sameInstant a b && a.alike b) := by
  cases a with
  | list items =>
    cases b with
    | list others => exact identicalItems_exact items others
    | _ => rfl
  | tuple items =>
    cases b with
    | tuple others => exact identicalItems_exact items others
    | _ => rfl
  | map entries =>
    cases b with
    | map others => simp only [Evidence.identical,Evidence.sameBy,Evidence.alike,identicalEntries_exact entries others,Bool.and_assoc]
    | _ => rfl
  | bool value => cases b <;> simp [Evidence.identical,Evidence.sameBy,Evidence.alike,Evidence.number] <;> grind
  | int value => cases b <;> simp [Evidence.identical,Evidence.sameBy,Evidence.alike,Evidence.number] <;> grind
  | decimal value => cases b <;> simp [Evidence.identical,Evidence.sameBy,Evidence.alike,Evidence.number] <;> grind
  | _ => cases b <;> simp [Evidence.identical,Evidence.sameBy,Evidence.alike,Evidence.number]

theorem identicalItems_exact (a b : List Evidence) :
    Evidence.identicalItems a b = (Evidence.sameItems sameInstant a b && Evidence.alikeItems a b) := by
  cases a with
  | nil => cases b <;> rfl
  | cons item rest =>
    cases b with
    | nil => rfl
    | cons other others =>
      simp only [Evidence.identicalItems,Evidence.sameItems,Evidence.alikeItems,identical_exact item other,
        identicalItems_exact rest others]
      ac_rfl

theorem identicalEntries_exact (a b : List (String × Evidence)) :
    Evidence.identicalEntries a b = (Evidence.sameEntries sameInstant a b && Evidence.alikeEntries a b) := by
  cases a with
  | nil => rfl
  | cons entry rest =>
    obtain ⟨key,value⟩ := entry
    rw [Evidence.identicalEntries,Evidence.sameEntries,Evidence.alikeEntries,identicalEntries_exact rest b]
    cases b.lookup key with
    | none => rfl
    | some found =>
      simp only [identical_exact value found]
      ac_rfl
end

-- A value read back is equal to the values of its instants that are steady.
mutual
theorem unzoned_same (a b : Evidence) : a.unzoned.same b = (Evidence.sameBy sameInstant a b && a.steady b) := by
  cases a with
  | datetime value =>
    cases b with
    | datetime other => exact AwareDatetime.offset_same value.instant value.offset other.aware
    | _ => rfl
  | list items =>
    cases b with
    | list others => exact unzonedItems_same items others
    | _ => rfl
  | tuple items =>
    cases b with
    | tuple others => exact unzonedItems_same items others
    | _ => rfl
  | map entries =>
    cases b with
    | map others =>
      simp only [Evidence.unzoned,Evidence.same,Evidence.sameBy,Evidence.steady,unzonedEntries_same entries others,Bool.and_assoc,
        (unzonedEntries_bytes entries).1]
    | _ => rfl
  | _ => cases b <;> simp [Evidence.unzoned,Evidence.same,Evidence.sameBy,Evidence.steady]

theorem unzonedItems_same (a b : List Evidence) : Evidence.sameItems AwareDatetime.same (unzonedItems a) b =
    (Evidence.sameItems sameInstant a b && Evidence.steadyItems a b) := by
  cases a with
  | nil => cases b <;> rfl
  | cons item rest =>
    cases b with
    | nil => rfl
    | cons other others =>
      have here := unzoned_same item other
      rw [Evidence.same] at here
      simp only [unzonedItems,Evidence.sameItems,Evidence.steadyItems,here,unzonedItems_same rest others]
      ac_rfl

theorem unzonedEntries_same (a b : List (String × Evidence)) : Evidence.sameEntries AwareDatetime.same (unzonedEntries a) b =
    (Evidence.sameEntries sameInstant a b && Evidence.steadyEntries a b) := by
  cases a with
  | nil => rfl
  | cons entry rest =>
    obtain ⟨key,value⟩ := entry
    rw [unzonedEntries,Evidence.sameEntries,Evidence.sameEntries,Evidence.steadyEntries,unzonedEntries_same rest b]
    cases b.lookup key with
    | none => rfl
    | some found =>
      have here := unzoned_same value found
      rw [Evidence.same] at here
      simp only [here]
      ac_rfl
end

end SwapMonitor
