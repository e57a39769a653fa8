import SwapMonitor.Sizing.Search
import SwapMonitor.Sizing.Funding

namespace SwapMonitor.Sizing
open Arithmetic Exceptions

section Configuration
variable {configuration : SizingConfiguration} {price funding : Decimal}

-- The part of the spendable money that a stage is given.
def allotted (configuration : SizingConfiguration) (spendable : ℚ) (stage : SizingStage) : ℚ :=
  configuration.rounding.lowest (spendable * stage.allocationWeight.toRat)

-- How many increments that part pays at the rounded cost of one unit.
def planned (configuration : SizingConfiguration) (price spendable : ℚ) (stage : SizingStage) : Int :=
  ⌊allotted configuration spendable stage / (spent configuration price 1 * (quantityIncrement configuration).toRat)⌋

def costOf (configuration : SizingConfiguration) (price : ℚ) (count : Int) : ℚ :=
  spent configuration price (count * (quantityIncrement configuration).toRat)

-- Of no stage can the money that the stages before it leave pay for a planned quantity, or a part of one,
-- that costs more than the stage is given.
def Conforming (configuration : SizingConfiguration) (price spendable : ℚ) : List SizingStage → ℚ → Prop
  | [],_ => True
  | stage :: rest,left =>
    (∀ count : Int, 0 ≤ count → count ≤ planned configuration price spendable stage →
      costOf configuration price count ≤ left → costOf configuration price count ≤ allotted configuration spendable stage) ∧
    Conforming configuration price spendable rest
      (left - costOf configuration price (planned configuration price spendable stage))

theorem cost_counts {count : Int} {quantity : Decimal} {cost : ℚ} (counted : Counts configuration count quantity) :
    spent configuration cost quantity.toRat = costOf configuration cost count := by rw [counted.2,costOf]

theorem cost_mono {cost : ℚ} {less more : Int} (positive : 0 < cost) (order : less ≤ more) :
    costOf configuration cost less ≤ costOf configuration cost more :=
  spent_mono configuration positive (mul_le_mul_of_nonneg_right (by exact_mod_cast order) increment_pos.le)

theorem cost_nonneg {cost : ℚ} {count : Int} (positive : 0 < cost) (counted : 0 ≤ count) :
    0 ≤ costOf configuration cost count :=
  spent_nonneg configuration positive (mul_nonneg (by exact_mod_cast counted) increment_pos.le)

theorem allotted_nonneg {spendable : ℚ} (nonneg : 0 ≤ spendable) (stage : SizingStage) :
    0 ≤ allotted configuration spendable stage := by
  have weight : 0 ≤ stage.allocationWeight.toRat := (toRat_nonneg _).mpr (by simp [Decimal.signed,SizingStage.allocationWeight])
  exact onto_nonneg (quantum_pos _) (mul_nonneg nonneg weight)

theorem planned_nonneg {cost spendable : ℚ} (positive : 0 < cost) (nonneg : 0 ≤ spendable) (stage : SizingStage) :
    0 ≤ planned configuration cost spendable stage :=
  Int.floor_nonneg.mpr (div_nonneg (allotted_nonneg nonneg stage)
    (mul_nonneg (spent_nonneg configuration positive zero_le_one) increment_pos.le))

-- Once the money is used up no condition is left.
theorem conforming_overdrawn {cost spendable left : ℚ} {stages : List SizingStage} (positive : 0 < cost) (nonneg : 0 ≤ spendable)
    (overdrawn : left < 0) : Conforming configuration cost spendable stages left := by
  induction stages generalizing left with
  | nil => trivial
  | cons stage rest ih =>
    refine ⟨?_,ih ?_⟩
    · intro count counted _ paid
      exact absurd paid (not_le.mpr (overdrawn.trans_le (cost_nonneg positive counted)))
    · have taken := @cost_nonneg configuration _ _ positive (@planned_nonneg configuration _ _ positive nonneg stage)
      linarith

-- The quantity that is left of a planned one where the money does not pay for all of it.
structure Cut (configuration : SizingConfiguration) (price left : ℚ) (plan final : Decimal) : Prop where
  counted : ∃ count, Counts configuration count final
  within : final.toRat ≤ plan.toRat
  paid : final.toRat = 0 ∨ spent configuration price final.toRat ≤ left
  largest : ∀ count other, Counts configuration count other → final.toRat < other.toRat → other.toRat ≤ plan.toRat →
    left < spent configuration price other.toRat

-- What the repair of the quantities comes to, from the first stage on: the planned quantities for as long as the money
-- lasts, then one cut to what is left of it, then nothing.
inductive Settles (configuration : SizingConfiguration) (price : ℚ) : ℚ → List Decimal → List Decimal → Prop where
  | done (left : ℚ) : Settles configuration price left [] []
  | kept {left : ℚ} {quantity : Decimal} {rest others : List Decimal} : spent configuration price quantity.toRat ≤ left →
      Settles configuration price (left - spent configuration price quantity.toRat) rest others →
      Settles configuration price left (quantity :: rest) (quantity :: others)
  | cut {left : ℚ} {quantity final : Decimal} {rest others : List Decimal} : left < spent configuration price quantity.toRat →
      Cut configuration price left quantity final → List.Forall₂ (fun _ other => other.toRat = 0) rest others →
      Settles configuration price left (quantity :: rest) (final :: others)

def costs (configuration : SizingConfiguration) (price : ℚ) (quantities : List Decimal) : ℚ :=
  (quantities.map fun quantity => spent configuration price quantity.toRat).sum

theorem costs_cons (cost : ℚ) (quantity : Decimal) (rest : List Decimal) : costs configuration cost (quantity :: rest) =
    spent configuration cost quantity.toRat + costs configuration cost rest := rfl

theorem costs_append (cost : ℚ) (front back : List Decimal) : costs configuration cost (front ++ back) =
    costs configuration cost front + costs configuration cost back := by
  simp only [costs,List.map_append,List.sum_append]

theorem costs_nothing {cost : ℚ} {zeros : List Decimal} (nothing : ∀ quantity ∈ zeros, quantity.toRat = 0) :
    costs configuration cost zeros = 0 := by
  apply List.sum_eq_zero
  intro amount member
  obtain ⟨quantity,listed,rfl⟩ := List.mem_map.mp member
  rw [nothing quantity listed,spent_zero]

theorem required_costs (cost : ℚ) (quantities : List Decimal) :
    required configuration cost quantities = configuration.reserve.toRat + costs configuration cost quantities := rfl

theorem costs_nonneg {cost : ℚ} {quantities : List Decimal} (positive : 0 < cost) (nonneg : ∀ quantity ∈ quantities, 0 ≤ quantity.toRat) :
    0 ≤ costs configuration cost quantities := by
  apply List.sum_nonneg
  intro amount member
  obtain ⟨quantity,listed,rfl⟩ := List.mem_map.mp member
  exact spent_nonneg configuration positive (nonneg quantity listed)

section Lists
variable {cost left : ℚ} {quantities front final zeros : List Decimal}

-- Quantities that the money pays for are kept.
theorem settles_kept (positive : 0 < cost) (nonneg : ∀ quantity ∈ quantities, 0 ≤ quantity.toRat)
    (covered : costs configuration cost quantities ≤ left) : Settles configuration cost left quantities quantities := by
  induction quantities generalizing left with
  | nil => exact .done left
  | cons quantity rest ih =>
    have later : ∀ other ∈ rest, 0 ≤ other.toRat := fun other member => nonneg other (List.mem_cons_of_mem _ member)
    have following := @costs_nonneg configuration _ _ positive later
    rw [costs_cons] at covered
    exact .kept (by linarith) (ih later (by linarith))

-- Nothing is left for the quantities after some that the money does not pay for.
theorem settles_append {back : List Decimal} (nonneg : 0 ≤ left) (short : left < costs configuration cost front)
    (settled : Settles configuration cost left front final) (nothing : List.Forall₂ (fun _ other => other.toRat = 0) back zeros) :
    Settles configuration cost left (front ++ back) (final ++ zeros) := by
  induction settled with
  | done left => exact absurd short (not_lt.mpr nonneg)
  | kept paid _ ih =>
    rw [costs_cons] at short
    exact .kept paid (ih (by linarith) (by linarith))
  | cut unpaid cut rest => exact .cut unpaid cut (List.rel_append rest nothing)

-- The quantity after some that the money pays for may be cut.
theorem settles_last {plan last : Decimal} (positive : 0 < cost) (nonneg : ∀ quantity ∈ front, 0 ≤ quantity.toRat)
    (paid : costs configuration cost front ≤ left) (short : left < costs configuration cost front + spent configuration cost plan.toRat)
    (cut : Cut configuration cost (left - costs configuration cost front) plan last) :
    Settles configuration cost left (front ++ [plan]) (front ++ [last]) := by
  induction front generalizing left with
  | nil =>
    have nothing : costs configuration cost [] = 0 := rfl
    rw [nothing,sub_zero] at cut
    rw [nothing,zero_add] at short
    exact .cut short cut .nil
  | cons quantity rest ih =>
    have later : ∀ other ∈ rest, 0 ≤ other.toRat := fun other member => nonneg other (List.mem_cons_of_mem _ member)
    have following := @costs_nonneg configuration _ _ positive later
    rw [costs_cons] at paid short cut
    refine .kept (by linarith) (ih later (by linarith) (by linarith) ?_)
    rwa [sub_sub]

end Lists

theorem counts_some {count : Int} (nonneg : 0 ≤ count) : ∃ quantity, Counts configuration count quantity := by
  refine ⟨.ofSigned (count * (quantityIncrement configuration).signed) (quantityIncrement configuration).exponent,nonneg,?_⟩
  rw [toRat_of,toRat_signed (quantityIncrement configuration)]
  push_cast
  ring

theorem nothing_within {cost spendable : ℚ} {stages : List SizingStage} {plans finals : List Decimal} {related : SizingStage → Decimal → Prop}
    (nonneg : 0 ≤ spendable) (each : List.Forall₂ related stages plans)
    (nothing : List.Forall₂ (fun _ final => final.toRat = 0) plans finals) :
    List.Forall₂ (fun stage final => spent configuration cost final.toRat ≤ allotted configuration spendable stage) stages finals := by
  induction each generalizing finals with
  | nil =>
    cases nothing
    exact .nil
  | @cons stage _ _ _ _ _ ih =>
    cases nothing with
    | cons zero following =>
      refine .cons ?_ (ih following)
      rw [zero,spent_zero]
      exact allotted_nonneg nonneg stage

-- Every stage keeps to its part exactly where the configuration and the price conform.
theorem settles_conforming {cost spendable left : ℚ} {stages : List SizingStage} {plans finals : List Decimal}
    (positive : 0 < cost) (nonneg : 0 ≤ spendable)
    (each : List.Forall₂ (fun stage plan => Counts configuration (planned configuration cost spendable stage) plan) stages plans)
    (settled : Settles configuration cost left plans finals) :
    List.Forall₂ (fun stage final => spent configuration cost final.toRat ≤ allotted configuration spendable stage) stages finals ↔
      Conforming configuration cost spendable stages left := by
  induction each generalizing left finals with
  | nil =>
    cases settled
    exact ⟨fun _ => trivial,fun _ => .nil⟩
  | @cons stage plan rest others first later ih =>
    cases settled with
    | kept paid following =>
      rw [List.forall₂_cons,ih following,Conforming,cost_counts first]
      rw [cost_counts first] at paid
      apply and_congr_left
      intro _
      constructor
      · intro within count _ few _
        exact (cost_mono positive few).trans within
      · intro within
        exact within _ first.1 (le_refl _) paid
    | @cut _ _ final _ finals unpaid cut nothing =>
      rw [cost_counts first] at unpaid
      have overdrawn : left - costOf configuration cost (planned configuration cost spendable stage) < 0 := sub_neg.mpr unpaid
      rw [List.forall₂_cons,Conforming]
      refine and_congr ?_ ⟨fun _ => conforming_overdrawn positive nonneg overdrawn,fun _ => nothing_within nonneg later nothing⟩
      obtain ⟨number,counted⟩ := cut.counted
      constructor
      · intro within count least few paid
        apply le_trans _ within
        rw [cost_counts counted]
        apply cost_mono positive
        by_contra more
        obtain ⟨other,many⟩ := @counts_some configuration _ least
        have unpaid := cut.largest count other many
          (not_le.mp fun order => more ((counts_order many counted).mp order)) ((counts_order many first).mpr few)
        rw [cost_counts many] at unpaid
        exact not_le.mpr unpaid paid
      · intro within
        rcases cut.paid with zero | paid
        · rw [zero,spent_zero]
          exact allotted_nonneg nonneg stage
        · rw [cost_counts counted] at paid ⊢
          exact within number counted.1 ((counts_order counted first).mp cut.within) paid

-- Quantities that are paid for are left alone.
theorem adjust_covered {index : Nat} {quantities : List Decimal} (positive : 0 < price.toRat)
    (nonneg : ∀ quantity ∈ quantities, 0 ≤ quantity.toRat)
    (covered : required configuration price.toRat quantities ≤ funding.toRat) :
    Finishes (adjustQuantities configuration price funding index quantities) (fun outcome => outcome = some quantities)
      ResourceLimit := by
  cases index with
  | zero => exact finishes_pure.mpr rfl
  | succ index =>
    unfold adjustQuantities
    apply finishes_bind (total_finishes nonneg positive)
    intro total summed
    rw [if_pos (by rwa [summed])]
    exact finishes_pure.mpr rfl

section Repair
variable {front init zeros : List Decimal} {plan found : Decimal}

theorem stage_plan : (init ++ plan :: zeros).getD init.length zeroQuantity = plan := by
  rw [List.getD_eq_getElem?_getD,List.getElem?_append_right (le_refl _),Nat.sub_self]
  rfl

theorem stage_replaced : (init ++ plan :: zeros).set init.length found = init ++ found :: zeros := by
  rw [List.set_append_right _ _ (le_refl _),Nat.sub_self,List.set_cons_zero]

theorem required_stage (nothing : ∀ quantity ∈ zeros, quantity.toRat = 0) (cost : ℚ) :
    required configuration cost (init ++ plan :: zeros) =
      configuration.reserve.toRat + costs configuration cost init + spent configuration cost plan.toRat := by
  rw [required_costs,costs_append,costs_cons,costs_nothing nothing]
  ring

theorem largest_cut (nothing : ∀ quantity ∈ zeros, quantity.toRat = 0)
    (largest : Largest configuration price.toRat funding.toRat (init ++ plan :: zeros) init.length found) :
    Cut configuration price.toRat (funding.toRat - configuration.reserve.toRat - costs configuration price.toRat init) plan found := by
  have paying : ∀ quantity, requiredWith configuration price.toRat (init ++ plan :: zeros) init.length quantity =
      configuration.reserve.toRat + costs configuration price.toRat init + spent configuration price.toRat quantity.toRat := by
    intro quantity
    rw [requiredWith,stage_replaced,required_stage nothing]
  have within := largest.within
  rw [stage_plan] at within
  refine ⟨largest.counted,within,largest.affordable.imp_right ?_,?_⟩
  · intro paid
    rw [paying] at paid
    linarith
  · intro count other counted above below
    have unpaid := largest.largest count other counted above (by rwa [stage_plan])
    rw [paying] at unpaid
    linarith

theorem adjust_settles (positive : 0 < price.toRat) (enough : configuration.reserve.toRat ≤ funding.toRat)
    (counted : ∀ quantity ∈ front, ∃ count, Counts configuration count quantity) (nothing : ∀ quantity ∈ zeros, quantity.toRat = 0) :
    Finishes (adjustQuantities configuration price funding front.length (front ++ zeros)) (fun outcome =>
      ∃ settled others, outcome = some (settled ++ others) ∧
        Settles configuration price.toRat (funding.toRat - configuration.reserve.toRat) front settled ∧
        others.length = zeros.length ∧ ∀ quantity ∈ others, quantity.toRat = 0) ResourceLimit := by
  induction front using List.reverseRecOn generalizing zeros with
  | nil => exact finishes_pure.mpr ⟨[],zeros,rfl,.done _,rfl,nothing⟩
  | append_singleton init plan ih =>
    have initCounted : ∀ quantity ∈ init, ∃ count, Counts configuration count quantity :=
      fun quantity member => counted quantity (List.mem_append_left _ member)
    have initNonneg : ∀ quantity ∈ init, 0 ≤ quantity.toRat := by
      intro quantity member
      obtain ⟨_,some⟩ := initCounted quantity member
      exact counts_nonneg some
    obtain ⟨count,planCounted⟩ := counted plan (List.mem_append_right _ (List.mem_singleton_self _))
    have allNonneg : ∀ quantity ∈ init ++ plan :: zeros, 0 ≤ quantity.toRat := by
      intro quantity member
      rcases List.mem_append.mp member with first | last
      · exact initNonneg quantity first
      · rcases List.mem_cons.mp last with rfl | zero
        · exact counts_nonneg planCounted
        · exact (nothing quantity zero).ge
    -- where the rest of the stages is done without, what they are left is nothing
    have rest : ∀ last : Decimal, last.toRat = 0 → funding.toRat - configuration.reserve.toRat < costs configuration price.toRat init →
        Finishes (adjustQuantities configuration price funding init.length (init ++ last :: zeros)) (fun outcome =>
          ∃ settled others, outcome = some (settled ++ others) ∧
            Settles configuration price.toRat (funding.toRat - configuration.reserve.toRat) (init ++ [plan]) settled ∧
            others.length = zeros.length ∧ ∀ quantity ∈ others, quantity.toRat = 0) ResourceLimit := by
      intro last zero short
      apply finishes_imp (ih initCounted (List.forall_mem_cons.mpr ⟨zero,nothing⟩))
      intro outcome held
      obtain ⟨settled,others,same,settles,length,zeros'⟩ := held
      cases others with
      | nil => cases length
      | cons other others =>
        obtain ⟨zero',zeros'⟩ := List.forall_mem_cons.mp zeros'
        refine ⟨settled ++ [other],others,?_,?_,Nat.succ.inj length,zeros'⟩
        · rw [same,List.append_assoc]
          rfl
        · exact settles_append (sub_nonneg.mpr enough) short settles (.cons zero' .nil)
    rw [List.length_append,List.append_assoc]
    change Finishes (adjustQuantities configuration price funding (init.length + 1) (init ++ plan :: zeros)) _ _
    unfold adjustQuantities
    apply finishes_bind (finishes_noted (total_finishes allNonneg positive))
    intro total held
    obtain ⟨costed,summed⟩ := held
    rw [required_stage nothing] at summed
    rw [stage_plan]
    split
    · rename_i paid
      rw [summed] at paid
      refine finishes_pure.mpr ⟨init ++ [plan],zeros,by rw [List.append_assoc]; rfl,?_,rfl,nothing⟩
      apply settles_kept positive
      · intro quantity member
        obtain ⟨_,some⟩ := counted quantity member
        exact counts_nonneg some
      · have last : costs configuration price.toRat [] = 0 := rfl
        rw [costs_append,costs_cons,last]
        linarith
    · rename_i unpaid
      rw [summed] at unpaid
      split
      · rename_i idle
        have none_planned : plan.toRat = 0 := by
          by_contra left
          have some := counts_left planCounted left
          have one : (1 : ℚ) ≤ count := by exact_mod_cast (by omega : 1 ≤ count)
          apply not_le.mpr idle
          rw [planCounted.2]
          exact increment_minimum.trans (le_mul_of_one_le_left increment_pos.le one)
        rw [none_planned,spent_zero] at unpaid
        exact rest plan none_planned (by linarith)
      · apply finishes_bind (search_largest (by simp) costed (by rwa [stage_plan]))
        intro _ held
        obtain ⟨found,same,largest⟩ := held
        subst same
        have cut := largest_cut nothing largest
        dsimp only
        rw [stage_replaced]
        have foundNonneg : 0 ≤ found.toRat := by
          obtain ⟨_,some⟩ := largest.counted
          exact counts_nonneg some
        by_cases covered : configuration.reserve.toRat + costs configuration price.toRat init +
            spent configuration price.toRat found.toRat ≤ funding.toRat
        · apply finishes_imp (adjust_covered positive _ (by rwa [required_stage nothing]))
          · intro outcome same
            refine ⟨init ++ [found],zeros,by rw [same,List.append_assoc]; rfl,?_,rfl,nothing⟩
            have taken := @spent_nonneg configuration _ _ positive foundNonneg
            exact settles_last positive initNonneg (by linarith) (by linarith) cut
          · intro quantity member
            rcases List.mem_append.mp member with first | last
            · exact initNonneg quantity first
            · rcases List.mem_cons.mp last with rfl | zero
              · exact foundNonneg
              · exact (nothing quantity zero).ge
        · rcases cut.paid with zero | paid
          · rw [zero,spent_zero] at covered
            exact rest found zero (by linarith)
          · exact absurd (by linarith) covered

end Repair

theorem target_allotted {spendable : Decimal} {stage : SizingStage} : Finishes (targetOf configuration spendable stage)
    (fun target => target.toRat = allotted configuration spendable.toRat stage) ResourceLimit := target_finishes

theorem quantity_planned {cost spendable : ℚ} {stage : SizingStage} {target unitCost : Decimal} (positive : 0 < unitCost.toRat)
    (nonneg : 0 ≤ spendable) (priced : 0 < cost) (unit : unitCost.toRat = spent configuration cost 1)
    (given : target.toRat = allotted configuration spendable stage) :
    Finishes (quantityForTarget configuration target unitCost)
      (Counts configuration (planned configuration cost spendable stage)) ResourceLimit := by
  have counted := @planned_nonneg configuration _ _ priced nonneg stage
  unfold quantityForTarget
  apply finishes_bind multiply_finishes
  intro incrementCost multiplied
  apply finishes_bind (floor_divide_finishes (multiplied ▸ mul_pos positive increment_pos))
  intro increments floored
  rw [multiplied,unit,given] at floored
  change increments = planned configuration cost spendable stage at floored
  subst floored
  apply finishes_bind multiply_finishes
  intro quantity multiplied
  rw [ofSigned_value] at multiplied
  apply finishes_pure.mpr
  split
  · rename_i short
    refine ⟨counted,?_⟩
    have none_planned : planned configuration cost spendable stage = 0 := by
      by_contra left
      have one : (1 : ℚ) ≤ planned configuration cost spendable stage := by exact_mod_cast (by omega : 1 ≤ planned ..)
      apply not_le.mpr short
      rw [multiplied]
      exact increment_minimum.trans (le_mul_of_one_le_left increment_pos.le one)
    rw [none_planned,zero_quantity,Int.cast_zero,zero_mul]
  · exact ⟨counted,multiplied⟩

theorem initial_planned {spendable : Decimal} (positive : 0 < price.toRat) (nonneg : 0 ≤ spendable.toRat) :
    Finishes (initialQuantities configuration price spendable) (List.Forall₂ (fun stage quantity =>
      Counts configuration (planned configuration price.toRat spendable.toRat stage) quantity) configuration.stages)
      ResourceLimit := by
  have one : (Decimal.ofNat 1).toRat = 1 := by decide +kernel
  unfold initialQuantities
  apply finishes_bind (cost_finishes (by rw [one]; exact zero_le_one) positive)
  intro cost bought
  have unit := spent_total bought
  rw [one] at unit
  dsimp only
  split
  · rename_i free
    -- nothing is planned at no cost of a unit
    apply finishes_pure.mpr
    have zero : spent configuration price.toRat 1 = 0 :=
      le_antisymm (unit ▸ free) (spent_nonneg configuration positive zero_le_one)
    rw [List.forall₂_map_right_iff]
    apply List.forall₂_same.mpr
    intro stage _
    have none_planned : planned configuration price.toRat spendable.toRat stage = 0 := by
      rw [planned,zero,zero_mul,div_zero,Int.floor_zero]
    rw [none_planned]
    exact ⟨le_refl _,by rw [zero_quantity,Int.cast_zero,zero_mul]⟩
  · rename_i costly
    apply finishes_mapM
    intro stage _
    apply finishes_bind target_allotted
    intro target given
    exact quantity_planned (not_le.mp costly) nonneg positive unit given

-- What a stage is sized by and what its quantity costs.
structure Costed (configuration : SizingConfiguration) (price : ℚ) (target quantity : Decimal) (sizing : StageSizing) : Prop where
  target : sizing.targetValue = target
  bought : sizing.purchaseQuantity.value = quantity
  cost : sizing.totalCash.toRat = spent configuration price quantity.toRat

theorem stage_costed {stage : SizingStage} {target quantity : Decimal} (nonneg : 0 ≤ quantity.toRat) (positive : 0 < price.toRat) :
    Finishes (stageResult configuration price stage target quantity) (Costed configuration price.toRat target quantity)
      ResourceLimit := by
  unfold stageResult
  apply finishes_bind (cost_finishes nonneg positive)
  intro cost bought
  apply finishes_after (dif_pos nonneg)
  exact finishes_pure.mpr ⟨rfl,rfl,spent_total bought⟩

-- A stage sized by the part that it is given.
structure Staged (configuration : SizingConfiguration) (price spendable : ℚ) (stage : SizingStage) (sizing : StageSizing) : Prop where
  target : sizing.targetValue.toRat = allotted configuration spendable stage
  cost : sizing.totalCash.toRat = spent configuration price sizing.purchaseQuantity.value.toRat

theorem zip_listed {cost spendable : ℚ} {δ : Type} {stages : List SizingStage} {items : List δ} {sizings : List StageSizing}
    {quantityOf : δ → Decimal} (lengths : items.length = stages.length)
    (each : List.Forall₂ (fun pair sizing => Staged configuration cost spendable pair.1 sizing ∧
      sizing.purchaseQuantity.value = quantityOf pair.2) (stages.zip items) sizings) :
    List.Forall₂ (Staged configuration cost spendable) stages sizings ∧
      sizings.map (fun sizing => sizing.purchaseQuantity.value) = items.map quantityOf := by
  induction stages generalizing items sizings with
  | nil =>
    rw [List.length_nil,List.length_eq_zero_iff] at lengths
    subst lengths
    cases each
    exact ⟨.nil,rfl⟩
  | cons stage rest ih =>
    cases items with
    | nil => cases lengths
    | cons item others =>
      cases each with
      | cons first later =>
        obtain ⟨following,bought⟩ := ih (Nat.succ.inj lengths) later
        exact ⟨.cons first.1 following,by rw [List.map_cons,List.map_cons,first.2,bought]⟩

variable (configuration) in
theorem zip_staged (cost spendable : ℚ) {δ : Type} (quantityOf : δ → Decimal) {stages : List SizingStage} {items : List δ}
    {sized : SizingStage × δ → Except PyError StageSizing} (lengths : items.length = stages.length)
    (each : ∀ pair ∈ stages.zip items, Finishes (sized pair) (fun sizing => Staged configuration cost spendable pair.1 sizing ∧
      sizing.purchaseQuantity.value = quantityOf pair.2) ResourceLimit) :
    Finishes ((stages.zip items).mapM sized) (fun sizings => List.Forall₂ (Staged configuration cost spendable) stages sizings ∧
      sizings.map (fun sizing => sizing.purchaseQuantity.value) = items.map quantityOf) ResourceLimit :=
  finishes_imp (finishes_mapM each) fun _ made => zip_listed lengths made

theorem stages_staged {spendable : Decimal} {quantities : List Decimal} (lengths : quantities.length = configuration.stages.length)
    (nonneg : ∀ quantity ∈ quantities, 0 ≤ quantity.toRat) (positive : 0 < price.toRat) :
    Finishes (stageResults configuration price spendable quantities) (fun sizings =>
      List.Forall₂ (Staged configuration price.toRat spendable.toRat) configuration.stages sizings ∧
        sizings.map (fun sizing => sizing.purchaseQuantity.value) = quantities) ResourceLimit := by
  unfold stageResults
  apply finishes_imp (zip_staged configuration price.toRat spendable.toRat id lengths ?_)
  · intro sizings staged
    rwa [List.map_id] at staged
  · intro ⟨stage,quantity⟩ member
    apply finishes_bind target_allotted
    intro target given
    apply finishes_imp (stage_costed (nonneg quantity (List.of_mem_zip member).2) positive)
    intro sizing costed
    exact ⟨⟨costed.target ▸ given,costed.bought ▸ costed.cost⟩,costed.bought⟩

theorem zip_first {α β γ : Type} {as : List α} {bs : List β} {cs : List γ} {a : α} {b : β} {c : γ}
    (member : (a,b,c) ∈ as.zip (bs.zip cs)) : (a,b) ∈ as.zip bs := by
  induction as generalizing bs cs with
  | nil => cases member
  | cons _ _ ih =>
    cases bs with
    | nil => cases member
    | cons _ _ =>
      cases cs with
      | nil => cases member
      | cons _ _ =>
        rcases List.mem_cons.mp member with same | later
        · cases same
          exact List.mem_cons_self ..
        · exact List.mem_cons_of_mem _ (ih later)

theorem costs_settled {left : ℚ} {plans finals : List Decimal} {cost : ℚ} (settled : Settles configuration cost left plans finals) :
    finals.length = plans.length := by
  induction settled with
  | done => rfl
  | kept _ _ ih => rw [List.length_cons,List.length_cons,ih]
  | cut _ _ nothing => rw [List.length_cons,List.length_cons,nothing.length_eq]

theorem settles_nonneg {left cost : ℚ} {plans finals : List Decimal} (settled : Settles configuration cost left plans finals)
    (nonneg : ∀ plan ∈ plans, 0 ≤ plan.toRat) : ∀ final ∈ finals, 0 ≤ final.toRat := by
  induction settled with
  | done => exact nonneg
  | kept _ _ ih =>
    obtain ⟨first,later⟩ := List.forall_mem_cons.mp nonneg
    exact List.forall_mem_cons.mpr ⟨first,ih later⟩
  | cut _ cut nothing =>
    obtain ⟨_,counted⟩ := cut.counted
    exact List.forall_mem_cons.mpr ⟨counts_nonneg counted,fun other member => ((forall₂_right nothing).2 other member).ge⟩

theorem zero_staged (positive : 0 < price.toRat) : Finishes (zeroStages configuration price)
    (fun sizings => ∀ sizing ∈ sizings, sizing.purchaseQuantity.value.toRat = 0) ResourceLimit := by
  apply finishes_imp (zero_stages_finishes positive)
  intro sizings evidence sizing member
  have listed := List.mem_map_of_mem (f := fun sizing : StageSizing => sizing.purchaseQuantity.value) member
  rw [evidence.2] at listed
  obtain ⟨_,_,same⟩ := List.mem_map.mp listed
  rw [← same,zero_quantity]

-- The repair keeps what each stage is given.
theorem enforce_staged {spendable : ℚ} {sizings : List StageSizing} (positive : 0 < price.toRat)
    (enough : configuration.reserve.toRat ≤ funding.toRat)
    (staged : List.Forall₂ (Staged configuration price.toRat spendable) configuration.stages sizings)
    (counted : ∀ sizing ∈ sizings, ∃ count, Counts configuration count sizing.purchaseQuantity.value) :
    Finishes (enforceFunding configuration price funding sizings) (fun repaired =>
      (∀ sizing ∈ repaired, sizing.purchaseQuantity.value.toRat = 0) ∨
      List.Forall₂ (Staged configuration price.toRat spendable) configuration.stages repaired ∧
        Settles configuration price.toRat (funding.toRat - configuration.reserve.toRat)
          (sizings.map fun sizing => sizing.purchaseQuantity.value) (repaired.map fun sizing => sizing.purchaseQuantity.value))
      ResourceLimit := by
  have plans : ∀ quantity ∈ sizings.map fun sizing => sizing.purchaseQuantity.value,
      ∃ count, Counts configuration count quantity := by
    intro quantity member
    obtain ⟨sizing,listed,rfl⟩ := List.mem_map.mp member
    exact counted sizing listed
  generalize planned : (sizings.map fun sizing => sizing.purchaseQuantity.value) = quantities at plans
  have repaired := @adjust_settles configuration price funding quantities [] positive enough plans (by simp)
  rw [List.append_nil] at repaired
  unfold enforceFunding
  rw [planned]
  apply finishes_bind repaired
  intro _ ⟨settled,others,same,settles,length,_⟩
  rw [List.length_eq_zero_iff.mp length,List.append_nil] at same
  subst same
  have lengths : settled.length = sizings.length := by rw [costs_settled settles,← planned,List.length_map]
  have nonneg : ∀ quantity ∈ settled, 0 ≤ quantity.toRat := by
    apply settles_nonneg settles
    intro quantity member
    obtain ⟨_,some⟩ := plans quantity member
    exact counts_nonneg some
  apply finishes_bind (total_finishes nonneg positive)
  intro total _
  split
  · exact finishes_imp (zero_staged positive) fun _ nothing => .inl nothing
  · have paired : (sizings.zip settled).length = configuration.stages.length := by
      rw [List.length_zip,lengths,Nat.min_self,staged.length_eq]
    apply finishes_imp (zip_staged configuration price.toRat spendable Prod.snd paired ?_)
    · intro repaired ⟨each,bought⟩
      rw [List.map_snd_zip lengths.le] at bought
      exact .inr ⟨each,bought ▸ settles⟩
    · intro ⟨stage,existing,quantity⟩ member
      apply finishes_imp (stage_costed (nonneg quantity (List.of_mem_zip (List.of_mem_zip member).2).2) positive)
      intro sizing costed
      have given := ((List.forall₂_iff_zip.mp staged).2 (zip_first member)).target
      exact ⟨⟨costed.target ▸ given,costed.bought ▸ costed.cost⟩,costed.bought⟩

end Configuration

section Request
variable {request : SizingRequest} {result : SizingResult}

-- What a sale leaves after its rounded costs.
def proceedsOf (configuration : SizingConfiguration) (price quantity : ℚ) : ℚ :=
  let gross := configuration.rounding.lowest (quantity * price)
  let post := gross - configuration.rounding.nearest (gross * configuration.slippageProfile.saleRate.toRat)
  post - configuration.rounding.nearest (post * configuration.feeTaxProfile.saleFeeRate.toRat) -
    configuration.rounding.nearest (post * configuration.feeTaxProfile.saleTaxRate.toRat)

theorem sold_proceeds {configuration : SizingConfiguration} {price quantity : ℚ} {proceeds : SaleProceeds}
    (sold : Sold configuration.rounding configuration.feeTaxProfile configuration.slippageProfile quantity price proceeds) :
    proceeds.netProceeds.toRat = proceedsOf configuration price quantity := by
  rw [sold.net,sold.charged,sold.taxed,sold.slipped,sold.gross]
  rfl

-- The money of a request that is not reserved.
def spendableOf (request : SizingRequest) : ℚ := request.availableCash.toRat +
  proceedsOf request.configuration request.sourceSalePrice.toRat request.sourceSaleQuantity.value.toRat -
  request.configuration.reserve.toRat

def ConformingRequest (request : SizingRequest) : Prop :=
  Conforming request.configuration request.candidatePrice.toRat (spendableOf request) request.configuration.stages
    (spendableOf request)

theorem made_result {status : SizingStatus} {sale : SourceSaleAudit} {stages : List StageSizing} {cash net reserve : Decimal}
    {reason : Option String} (made : makeResult status sale stages cash net reserve reason = .ok result) :
    result.status = status ∧ result.stages = stages ∧ result.availableCash = cash ∧ result.netSaleProceeds = net ∧
      result.reserve = reserve := by
  simp only [makeResult,bind_ok,pure_ok] at made
  obtain ⟨_,_,_,_,_,_,_,_,_,_,_,_,rfl⟩ := made
  exact ⟨rfl,rfl,rfl,rfl,rfl⟩

-- What an actionable result was sized by.
structure Allocated (request : SizingRequest) (result : SizingResult) : Prop where
  spendable : result.availableCash.toRat + result.netSaleProceeds.toRat - result.reserve.toRat = spendableOf request
  nonneg : 0 ≤ spendableOf request
  each : List.Forall₂ (Staged request.configuration request.candidatePrice.toRat (spendableOf request))
    request.configuration.stages result.stages
  settled : ∃ plans, List.Forall₂ (fun stage plan => Counts request.configuration
      (planned request.configuration request.candidatePrice.toRat (spendableOf request) stage) plan)
      request.configuration.stages plans ∧
    Settles request.configuration request.candidatePrice.toRat (spendableOf request) plans
      (result.stages.map fun sizing => sizing.purchaseQuantity.value)

theorem purchases_allocated {sale : SourceSaleAudit} {funding : Decimal} (actionable : result.status = .actionable)
    (net : sale.netProceeds.toRat =
      proceedsOf request.configuration request.sourceSalePrice.toRat request.sourceSaleQuantity.value.toRat)
    (added : funding.toRat = request.availableCash.toRat + sale.netProceeds.toRat)
    (enough : request.configuration.reserve.toRat ≤ funding.toRat)
    (ran : sizePurchases request sale funding = .ok result) : Allocated request result := by
  have positive := (request_accepted request).candidatePrice
  simp only [sizePurchases,bind_ok] at ran
  obtain ⟨spendable,subtracted,quantities,planning,stages,staging,repaired,enforced,ran⟩ := ran
  have left := finishes_returned subtract_finishes subtracted
  have money : spendable.toRat = spendableOf request := by
    rw [left,added,net]
    rfl
  have nonneg : 0 ≤ spendable.toRat := by
    rw [left]
    exact sub_nonneg.mpr enough
  have plans := finishes_returned (initial_planned positive nonneg) planning
  have counted := (forall₂_right (plans.imp fun _ quantity some => (⟨_,some⟩ : ∃ count, Counts request.configuration count quantity))).2
  have staged := finishes_returned (stages_staged plans.length_eq.symm (fun quantity member =>
    (counted quantity member).elim fun _ some => counts_nonneg some) positive) staging
  obtain ⟨each,bought⟩ := staged
  rw [money] at plans each
  have sized : ∀ sizing ∈ stages, ∃ count, Counts request.configuration count sizing.purchaseQuantity.value :=
    fun sizing member => counted _ (bought ▸ List.mem_map_of_mem member)
  have settled := finishes_returned (enforce_staged positive enough each sized) enforced
  rw [bought,← left,money] at settled
  split at ran
  · have same := (made_result ran).1
    rw [actionable] at same
    cases same
  · rename_i some
    obtain ⟨_,kept,cash,received,reserve⟩ := made_result ran
    rcases settled with nothing | ⟨each,settles⟩
    · apply absurd _ some
      rw [List.all_eq_true]
      intro sizing member
      exact decide_eq_true ((toRat_zero _).mp (nothing sizing member))
    · refine ⟨?_,money ▸ nonneg,by rwa [kept],quantities,plans,by rwa [kept]⟩
      rw [cash,received,reserve,net]
      rfl

theorem size_allocated (ran : size request = .ok result) (actionable : result.status = .actionable) : Allocated request result := by
  have priced := request_accepted request
  simp only [size,bind_ok] at ran
  obtain ⟨_,_,_,_,proceeds,sale,funding,added,ran⟩ := ran
  have sold := sold_proceeds (finishes_returned (sale_finishes request.sourceSaleQuantity.nonneg priced.salePrice) sale)
  have money := finishes_returned add_finishes added
  split at ran
  · simp only [nonActionableResult,bind_ok] at ran
    obtain ⟨_,_,made⟩ := ran
    have same := (made_result made).1
    rw [actionable] at same
    cases same
  · rename_i covered
    exact purchases_allocated actionable sold money (not_lt.mp covered) ran

theorem weights_total (configuration : SizingConfiguration) :
    (configuration.stages.map fun stage => stage.allocationWeight.toRat).sum = 1 := by
  have accepted := configuration.accepted
  simp only [ConfigurationFields.postInit,bind_ok,raiseIf_ok,exists_const] at accepted
  obtain ⟨_,_,total,_⟩ := accepted
  have points : (configuration.stages.map SizingStage.allocationBasisPoints).sum = 10000 := by simpa using total
  have weights : ∀ stages : List SizingStage, (stages.map fun stage => stage.allocationWeight.toRat).sum =
      ((stages.map SizingStage.allocationBasisPoints).sum : ℚ) / 10000 := by
    intro stages
    induction stages with
    | nil => simp
    | cons stage rest ih =>
      have weight : stage.allocationWeight.toRat = (stage.allocationBasisPoints : ℚ) / 10000 := by
        rw [toRat_signed]
        norm_num [Decimal.signed,SizingStage.allocationWeight,div_eq_mul_inv]
      simp only [List.map_cons,List.sum_cons,ih,weight]
      push_cast
      ring
  rw [weights,points]
  norm_num

theorem targets_within {spendable cost : ℚ} {configuration : SizingConfiguration} {stages : List SizingStage}
    {sizings : List StageSizing} (each : List.Forall₂ (Staged configuration cost spendable) stages sizings) :
    (sizings.map fun sizing => sizing.targetValue.toRat).sum ≤
      spendable * (stages.map fun stage => stage.allocationWeight.toRat).sum := by
  induction each with
  | nil => simp
  | @cons stage sizing _ _ first _ ih =>
    rw [List.map_cons,List.map_cons,List.sum_cons,List.sum_cons,mul_add,first.target]
    exact add_le_add (lowest_floor configuration.rounding _).1 ih

theorem staged_within {spendable cost : ℚ} {configuration : SizingConfiguration} {stages : List SizingStage}
    {sizings : List StageSizing} (each : List.Forall₂ (Staged configuration cost spendable) stages sizings) :
    (∀ sizing ∈ sizings, sizing.totalCash.toRat ≤ sizing.targetValue.toRat) ↔
      List.Forall₂ (fun stage sizing => spent configuration cost sizing.purchaseQuantity.value.toRat ≤
        allotted configuration spendable stage) stages sizings := by
  induction each with
  | nil => simp
  | cons first _ ih => rw [List.forall_mem_cons,List.forall₂_cons,ih,first.cost,first.target]

-- The parts of the stages never exceed the money; what the stages cost keeps to the parts where the request conforms.
theorem allocations_kept (ran : size request = .ok result) (actionable : result.status = .actionable) :
    ((result.stages.map fun sizing => sizing.targetValue.toRat).sum ≤
        result.availableCash.toRat + result.netSaleProceeds.toRat - result.reserve.toRat ∧
      ∀ sizing ∈ result.stages, sizing.totalCash.toRat ≤ sizing.targetValue.toRat) ↔ ConformingRequest request := by
  have allocated := size_allocated ran actionable
  have within := targets_within allocated.each
  rw [weights_total,mul_one,← allocated.spendable] at within
  obtain ⟨plans,planned,settles⟩ := allocated.settled
  have positive := (request_accepted request).candidatePrice
  rw [ConformingRequest,← settles_conforming positive allocated.nonneg planned settles,List.forall₂_map_right_iff,
    ← staged_within allocated.each]
  exact ⟨fun kept => kept.2,fun kept => ⟨within,kept⟩⟩

end Request

def driftConfiguration : SizingConfiguration where
  stages := [⟨"first",5000,first_named,half_weighted⟩,⟨"second",5000,second_named,half_weighted⟩]
  feeTaxProfile := ⟨⟨cents 0,cents 0,cents 0⟩,by decide +kernel⟩
  slippageProfile := noSlippage
  reserve := .ofNat 0
  minimumQuantity := .ofNat 1
  lotQuantity := .ofNat 1
  oddLotPolicy := .allowed
  rounding := sampleRounding
  accepted := by decide +kernel

-- A price whose third decimal place is lost in the cost of one unit.
def driftRequest : SizingRequest :=
  ⟨⟨samplePlan,sampleGroup,7,samplePosition,tenPieces,.ofNat 20,9,⟨false,10004,-3⟩,.ofNat 99800,
    driftConfiguration⟩,by decide +kernel⟩

theorem drift_sized : (size driftRequest).map (fun result =>
    (result.status,result.stages.map fun sizing => (sizing.targetValue,sizing.totalCash))) =
      .ok (.actionable,[(cents 5000000,cents 5002000),(cents 5000000,cents 4997998)]) := by decide +kernel

-- Five thousand units at 10.004 cost twenty more than the fifty thousand they are bought from.
theorem first_stage_overspends : ∃ result, size driftRequest = .ok result ∧ result.status = .actionable ∧
    ∃ sizing ∈ result.stages, sizing.targetValue.toRat < sizing.totalCash.toRat := by
  have sized := drift_sized
  cases ran : size driftRequest with
  | error error => rw [ran] at sized; cases sized
  | ok result =>
    rw [ran] at sized
    have parts := Except.ok.inj sized
    refine ⟨result,rfl,congrArg Prod.fst parts,?_⟩
    have stages : result.stages.map (fun sizing => (sizing.targetValue,sizing.totalCash)) = _ := congrArg Prod.snd parts
    have first : (cents 5000000,cents 5002000) ∈ result.stages.map fun sizing => (sizing.targetValue,sizing.totalCash) := by
      rw [stages]
      exact List.mem_cons_self ..
    obtain ⟨sizing,member,same⟩ := List.mem_map.mp first
    obtain ⟨target,cost⟩ := Prod.mk.inj same
    exact ⟨sizing,member,by rw [target,cost]; decide +kernel⟩

-- At ten a piece nothing is lost.
def evenRequest : SizingRequest :=
  ⟨⟨samplePlan,sampleGroup,7,samplePosition,tenPieces,.ofNat 20,9,⟨false,10,0⟩,.ofNat 99800,
    driftConfiguration⟩,by decide +kernel⟩

theorem even_sized : (size evenRequest).map (fun result =>
    (result.status,decide (∀ sizing ∈ result.stages, sizing.totalCash.toRat ≤ sizing.targetValue.toRat),
      decide ((result.stages.map fun sizing => sizing.targetValue.toRat).sum ≤
        result.availableCash.toRat + result.netSaleProceeds.toRat - result.reserve.toRat))) =
      .ok (.actionable,true,true) := by decide +kernel

theorem drift_conforms : (∃ result, size driftRequest = .ok result ∧
    (((result.stages.map fun sizing => sizing.targetValue.toRat).sum ≤
        result.availableCash.toRat + result.netSaleProceeds.toRat - result.reserve.toRat ∧
      ∀ sizing ∈ result.stages, sizing.totalCash.toRat ≤ sizing.targetValue.toRat) ↔ ConformingRequest driftRequest)) ∧
    ConformingRequest evenRequest := by
  constructor
  · have sized := drift_sized
    cases ran : size driftRequest with
    | error error => rw [ran] at sized; cases sized
    | ok result =>
      rw [ran] at sized
      have actionable : result.status = .actionable := congrArg Prod.fst (Except.ok.inj sized)
      exact ⟨result,rfl,allocations_kept ran actionable⟩
  · have sized := even_sized
    cases ran : size evenRequest with
    | error error => rw [ran] at sized; cases sized
    | ok result =>
      rw [ran] at sized
      obtain ⟨actionable,kept⟩ := Prod.mk.inj (Except.ok.inj sized)
      obtain ⟨each,total⟩ := Prod.mk.inj kept
      exact (allocations_kept ran actionable).mp ⟨of_decide_eq_true total,of_decide_eq_true each⟩

end SwapMonitor.Sizing
