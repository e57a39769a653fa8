import SwapMonitor.Sizing.Engine

namespace SwapMonitor.Sizing
open Arithmetic Exceptions

section Configuration
variable {configuration : SizingConfiguration} {price : Decimal} {quantities : List Decimal}

-- What a purchase of a quantity takes from the cash.
def spent (configuration : SizingConfiguration) (price quantity : ℚ) : ℚ :=
  let gross := configuration.rounding.nearest (quantity * price)
  let slippage := configuration.rounding.nearest (gross * configuration.slippageProfile.purchaseRate.toRat)
  gross + slippage +
    configuration.rounding.nearest ((gross + slippage) * configuration.feeTaxProfile.purchaseFeeRate.toRat)

theorem spent_zero (configuration : SizingConfiguration) (price : ℚ) : spent configuration price 0 = 0 := by
  have nothing : configuration.rounding.nearest 0 = 0 := onto_kept (quantum_pos _) grid_zero
  simp [spent,nothing]

theorem spent_total {cost : PurchaseCost} {quantity : ℚ} (bought : Purchased configuration.rounding
    configuration.feeTaxProfile configuration.slippageProfile quantity price.toRat cost) :
    cost.totalCash.toRat = spent configuration price.toRat quantity := by
  rw [bought.total,bought.charged,bought.slipped,bought.gross]
  rfl

-- Nothing, or a whole number of increments that is no less than the minimum.
def Permitted (configuration : SizingConfiguration) (quantity : Decimal) : Prop :=
  quantity.toRat = 0 ∨ ∃ k : Int, quantity.toRat = k * (quantityIncrement configuration).toRat ∧
    configuration.minimumQuantity.toRat ≤ quantity.toRat

theorem zero_quantity : zeroQuantity.toRat = 0 := (toRat_zero _).mpr rfl

theorem zero_permitted : Permitted configuration zeroQuantity := .inl zero_quantity

theorem permitted_nonneg {quantity : Decimal} (permitted : Permitted configuration quantity) : 0 ≤ quantity.toRat := by
  rcases permitted with zero | ⟨_,_,enough⟩
  · exact zero.ge
  · exact (configuration_accepted configuration).minimumPositive.le.trans enough

theorem increment_minimum : configuration.minimumQuantity.toRat ≤ (quantityIncrement configuration).toRat := by
  unfold quantityIncrement
  split
  · exact le_refl _
  · exact (configuration_accepted configuration).minimumLot

theorem increment_pos : 0 < (quantityIncrement configuration).toRat :=
  (configuration_accepted configuration).minimumPositive.trans_le increment_minimum

theorem set_permitted {adjusted : Decimal} {index : Nat} (permitted : ∀ quantity ∈ quantities, Permitted configuration quantity)
    (replaced : Permitted configuration adjusted) :
    ∀ quantity ∈ quantities.set index adjusted, Permitted configuration quantity := by
  intro quantity member
  rcases List.mem_or_eq_of_mem_set member with old | rfl
  · exact permitted quantity old
  · exact replaced

theorem cost_finishes {quantity : Decimal} (nonneg : 0 ≤ quantity.toRat) (positive : 0 < price.toRat) :
    Finishes (purchaseCost configuration price quantity) (Purchased configuration.rounding configuration.feeTaxProfile
      configuration.slippageProfile quantity.toRat price.toRat) ResourceLimit :=
  purchase_finishes nonneg positive

theorem ofSigned_value (n : Int) : (Decimal.ofSigned n 0).toRat = n := by simp [toRat_of]

theorem target_finishes {spendable : Decimal} {stage : SizingStage} : Finishes (targetOf configuration spendable stage)
    (fun target => target.toRat = configuration.rounding.lowest (spendable.toRat * stage.allocationWeight.toRat))
    ResourceLimit := by
  unfold targetOf
  apply finishes_bind multiply_finishes
  intro product multiplied
  rw [← multiplied]
  exact credit_finishes

theorem quantity_finishes {target unitCost : Decimal} (positive : 0 < unitCost.toRat) :
    Finishes (quantityForTarget configuration target unitCost) (Permitted configuration) ResourceLimit := by
  unfold quantityForTarget
  apply finishes_bind multiply_finishes
  intro incrementCost multiplied
  apply finishes_bind (floor_divide_finishes (multiplied ▸ mul_pos positive increment_pos))
  intro increments _
  apply finishes_bind multiply_finishes
  intro quantity counted
  apply finishes_pure.mpr
  split
  · exact zero_permitted
  · rename_i enough
    exact .inr ⟨increments,by rw [counted,ofSigned_value],not_lt.mp enough⟩

theorem initial_finishes {spendable : Decimal} (positive : 0 < price.toRat) :
    Finishes (initialQuantities configuration price spendable) (fun quantities =>
      quantities.length = configuration.stages.length ∧ ∀ quantity ∈ quantities, Permitted configuration quantity)
      ResourceLimit := by
  have one : (0 : ℚ) ≤ (Decimal.ofNat 1).toRat := (toRat_nonneg _).mpr (by decide)
  unfold initialQuantities
  apply finishes_bind (cost_finishes one positive)
  intro cost _
  dsimp only
  split
  · apply finishes_pure.mpr
    refine ⟨List.length_map _,?_⟩
    intro quantity member
    obtain ⟨_,_,rfl⟩ := List.mem_map.mp member
    exact zero_permitted
  · rename_i costly
    apply finishes_imp _ fun _ each => forall₂_right each
    apply finishes_mapM
    intro stage _
    apply finishes_bind target_finishes
    intro target _
    exact quantity_finishes (not_le.mp costly)

-- What a stage of the result is evidence of.
structure Evidenced (configuration : SizingConfiguration) (price : ℚ) (stage : SizingStage) (sizing : StageSizing) :
    Prop where
  named : sizing.stageId = stage.stageId
  weighed : sizing.allocationWeight = stage.allocationWeight
  total : sizing.totalCash.toRat = sizing.requiredPurchaseValue.toRat + sizing.slippageCost.toRat + sizing.fee.toRat
  worth : sizing.totalCash.toRat = spent configuration price sizing.purchaseQuantity.value.toRat
  grossNonneg : 0 ≤ sizing.requiredPurchaseValue.toRat
  slippageNonneg : 0 ≤ sizing.slippageCost.toRat
  feeNonneg : 0 ≤ sizing.fee.toRat

theorem stage_finishes {stage : SizingStage} {target quantity : Decimal} (nonneg : 0 ≤ quantity.toRat)
    (positive : 0 < price.toRat) :
    Finishes (stageResult configuration price stage target quantity)
      (fun sizing => Evidenced configuration price.toRat stage sizing ∧ sizing.purchaseQuantity.value = quantity)
      ResourceLimit := by
  unfold stageResult
  apply finishes_bind (cost_finishes nonneg positive)
  intro cost bought
  apply finishes_after (dif_pos nonneg)
  apply finishes_pure.mpr
  exact ⟨⟨rfl,rfl,bought.total,spent_total bought,bought.grossNonneg,bought.slippageNonneg,bought.feeNonneg⟩,rfl⟩

-- The evidence of every configured stage in its order, for these quantities.
def StagesOf (configuration : SizingConfiguration) (price : ℚ) (quantities : List Decimal)
    (sizings : List StageSizing) : Prop :=
  List.Forall₂ (Evidenced configuration price) configuration.stages sizings ∧
    sizings.map (fun sizing => sizing.purchaseQuantity.value) = quantities

variable (configuration) in
-- A strict zip of stages with what they are sized by.
theorem zip_finishes {δ : Type} (quantityOf : δ → Decimal) (cost : ℚ)
    {sized : SizingStage × δ → Except PyError StageSizing} {stages : List SizingStage} {items : List δ} (lengths : items.length = stages.length)
    (each : ∀ stage, ∀ item ∈ items, Finishes (sized (stage,item)) (fun sizing =>
      Evidenced configuration cost stage sizing ∧ sizing.purchaseQuantity.value = quantityOf item) ResourceLimit) :
    Finishes ((stages.zip items).mapM sized)
      (fun sizings => List.Forall₂ (Evidenced configuration cost) stages sizings ∧
        sizings.map (fun sizing => sizing.purchaseQuantity.value) = items.map quantityOf) ResourceLimit := by
  induction stages generalizing items with
  | nil =>
    rw [List.length_nil,List.length_eq_zero_iff] at lengths
    subst lengths
    exact ⟨.nil,rfl⟩
  | cons stage rest ih =>
    cases items with
    | nil => cases lengths
    | cons item others =>
      rw [List.zip_cons_cons,List.mapM_cons]
      apply finishes_bind (each stage item (List.mem_cons_self ..))
      intro sizing ⟨evidence,quantity⟩
      apply finishes_bind (ih (Nat.succ.inj lengths) fun stage item member =>
        each stage item (List.mem_cons_of_mem _ member))
      intro sizings ⟨following,bought⟩
      apply finishes_pure.mpr
      exact ⟨.cons evidence following,by rw [List.map_cons,List.map_cons,quantity,bought]⟩

theorem stages_finishes {spendable : Decimal} (lengths : quantities.length = configuration.stages.length)
    (permitted : ∀ quantity ∈ quantities, Permitted configuration quantity) (positive : 0 < price.toRat) :
    Finishes (stageResults configuration price spendable quantities) (StagesOf configuration price.toRat quantities)
      ResourceLimit := by
  unfold stageResults
  apply finishes_imp (zip_finishes configuration id price.toRat lengths ?_)
  · intro sizings ⟨each,bought⟩
    exact ⟨each,by rw [bought,List.map_id]⟩
  · intro stage quantity member
    apply finishes_bind target_finishes
    intro target _
    exact stage_finishes (permitted_nonneg (permitted quantity member)) positive

theorem zero_stages_finishes (positive : 0 < price.toRat) : Finishes (zeroStages configuration price)
    (StagesOf configuration price.toRat (configuration.stages.map fun _ => zeroQuantity)) ResourceLimit := by
  apply stages_finishes (List.length_map _) _ positive
  intro quantity member
  obtain ⟨_,_,rfl⟩ := List.mem_map.mp member
  exact zero_permitted

theorem purchases_finishes {purchaseTotal : Decimal} (nonneg : ∀ quantity ∈ quantities, 0 ≤ quantity.toRat)
    (positive : 0 < price.toRat) : Finishes (addPurchases configuration price quantities purchaseTotal)
      (fun total => total.toRat = purchaseTotal.toRat +
        (quantities.map fun quantity => spent configuration price.toRat quantity.toRat).sum) ResourceLimit := by
  induction quantities generalizing purchaseTotal with
  | nil => exact finishes_pure.mpr (by simp)
  | cons quantity rest ih =>
    unfold addPurchases
    apply finishes_bind (cost_finishes (nonneg quantity (List.mem_cons_self ..)) positive)
    intro cost bought
    apply finishes_bind add_finishes
    intro sum added
    apply finishes_imp (ih fun other member => nonneg other (List.mem_cons_of_mem _ member))
    intro total counted
    rw [counted,added,spent_total bought,List.map_cons,List.sum_cons]
    ring

-- The reserve and what the quantities cost.
def required (configuration : SizingConfiguration) (price : ℚ) (quantities : List Decimal) : ℚ :=
  configuration.reserve.toRat + (quantities.map fun quantity => spent configuration price quantity.toRat).sum

theorem total_finishes (nonneg : ∀ quantity ∈ quantities, 0 ≤ quantity.toRat) (positive : 0 < price.toRat) :
    Finishes (totalCash configuration price quantities)
      (fun total => total.toRat = required configuration price.toRat quantities) ResourceLimit :=
  purchases_finishes nonneg positive

theorem affordable_finishes {funding : Decimal} {index : Nat} {increments : Int}
    (nonneg : ∀ quantity ∈ quantities, 0 ≤ quantity.toRat) (counted : 0 ≤ increments) (positive : 0 < price.toRat) :
    Finishes (affordableIncrements configuration price quantities funding index increments) (fun _ => True) ResourceLimit := by
  unfold affordableIncrements
  apply finishes_bind multiply_finishes
  intro candidate multiplied
  apply finishes_bind (total_finishes _ positive)
  · intro total _
    exact finishes_pure.mpr trivial
  · intro quantity member
    rcases List.mem_or_eq_of_mem_set member with old | rfl
    · exact nonneg quantity old
    · rw [multiplied,ofSigned_value]
      exact mul_nonneg (Int.cast_nonneg_iff.mpr counted) increment_pos.le

theorem midpoint_within {lower upper : Int} (apart : lower < upper) :
    lower < (lower + upper + 1).fdiv 2 ∧ (lower + upper + 1).fdiv 2 ≤ upper := by
  rw [Int.fdiv_eq_ediv_of_nonneg _ (by decide)]
  omega

-- What the search ends at is where it began or was found to be affordable.
theorem search_finishes {affordable : Int → Except PyError Bool} {steps : Nat} {lower upper : Int}
    (each : ∀ increments, lower ≤ increments → Finishes (affordable increments) (fun _ => True) ResourceLimit) :
    Finishes (searchIncrements affordable steps lower upper) (fun found => ∀ increments, found = some increments →
      lower ≤ increments ∧ (increments = lower ∨ affordable increments = .ok true)) ResourceLimit := by
  induction steps generalizing lower upper with
  | zero =>
    apply finishes_pure.mpr
    intro increments same
    split at same
    · cases same
    · cases same
      exact ⟨le_refl _,.inl rfl⟩
  | succ steps ih =>
    unfold searchIncrements
    split
    · rename_i apart
      obtain ⟨above,_⟩ := midpoint_within apart
      apply finishes_bind (finishes_noted (each _ above.le))
      intro enough ⟨tried,_⟩
      cases enough with
      | true =>
        apply finishes_imp (ih fun increments higher => each increments (above.le.trans higher))
        intro found settled increments same
        obtain ⟨higher,affordable⟩ := settled increments same
        refine ⟨above.le.trans higher,.inr ?_⟩
        rcases affordable with rfl | paid
        · exact tried
        · exact paid
      | false => exact ih each
    · apply finishes_pure.mpr
      intro increments same
      cases same
      exact ⟨le_refl _,.inl rfl⟩

theorem counted_permitted {quantity : Decimal} {increments : Int} (counted : 0 ≤ increments)
    (value : quantity.toRat = increments * (quantityIncrement configuration).toRat) :
    Permitted configuration quantity := by
  rcases counted.eq_or_lt with rfl | some
  · exact .inl (by rw [value,Int.cast_zero,zero_mul])
  · refine .inr ⟨increments,value,?_⟩
    have one : (1 : ℚ) ≤ increments := by exact_mod_cast some
    calc configuration.minimumQuantity.toRat ≤ (quantityIncrement configuration).toRat := increment_minimum
      _ ≤ increments * (quantityIncrement configuration).toRat := le_mul_of_one_le_left increment_pos.le one
      _ = quantity.toRat := value.symm

theorem adjusted_finishes {funding : Decimal} {index : Nat}
    (permitted : ∀ quantity ∈ quantities, Permitted configuration quantity) (positive : 0 < price.toRat) :
    Finishes (maxAffordableStageQuantity configuration price quantities funding index)
      (fun adjusted => ∀ quantity, adjusted = some quantity → Permitted configuration quantity) ResourceLimit := by
  unfold maxAffordableStageQuantity
  apply finishes_bind (floor_divide_finishes increment_pos)
  intro upper _
  apply finishes_bind (search_finishes fun increments counted =>
    affordable_finishes (fun quantity member => permitted_nonneg (permitted quantity member)) counted positive)
  intro found settled
  cases found with
  | none => exact finishes_pure.mpr (by intro _ same; cases same)
  | some increments =>
    obtain ⟨counted,_⟩ := settled increments rfl
    apply finishes_bind multiply_finishes
    intro quantity multiplied
    apply finishes_pure.mpr
    intro _ same
    cases same
    exact counted_permitted counted (by rw [multiplied,ofSigned_value])

-- The loop over the stages keeps quantities permitted.
theorem adjust_finishes {funding : Decimal} {index : Nat} (permitted : ∀ quantity ∈ quantities, Permitted configuration quantity)
    (positive : 0 < price.toRat) : Finishes (adjustQuantities configuration price funding index quantities)
      (fun outcome => ∀ adjusted, outcome = some adjusted → adjusted.length = quantities.length ∧
        ∀ quantity ∈ adjusted, Permitted configuration quantity) ResourceLimit := by
  induction index generalizing quantities with
  | zero =>
    apply finishes_pure.mpr
    intro _ same
    cases same
    exact ⟨rfl,permitted⟩
  | succ index ih =>
    unfold adjustQuantities
    apply finishes_bind (total_finishes (fun quantity member => permitted_nonneg (permitted quantity member)) positive)
    intro total _
    split
    · apply finishes_pure.mpr
      intro _ same
      cases same
      exact ⟨rfl,permitted⟩
    · split
      · exact ih permitted
      · apply finishes_bind (adjusted_finishes permitted positive)
        intro outcome replaced
        cases outcome with
        | none => exact finishes_pure.mpr (by intro _ same; cases same)
        | some adjusted =>
          apply finishes_imp (ih (set_permitted permitted (replaced adjusted rfl)))
          intro outcome kept quantities' same
          obtain ⟨lengths,each⟩ := kept quantities' same
          exact ⟨by rw [lengths,List.length_set],each⟩

theorem zeros_required {configuration : SizingConfiguration} {price : ℚ} {stages : List SizingStage} :
    required configuration price (stages.map fun _ => zeroQuantity) = configuration.reserve.toRat := by
  have nothing : ∀ stages : List SizingStage,
      ((stages.map fun _ => zeroQuantity).map fun quantity => spent configuration price quantity.toRat).sum = 0 := by
    intro stages
    induction stages with
    | nil => rfl
    | cons _ rest ih => simp only [List.map_cons,List.sum_cons,ih,zero_quantity,spent_zero,add_zero]
  rw [required,nothing,add_zero]

-- Stages that are evidence of permitted quantities which the funding covers.
structure Funded (configuration : SizingConfiguration) (price funding : ℚ) (sizings : List StageSizing) : Prop where
  each : List.Forall₂ (Evidenced configuration price) configuration.stages sizings
  permitted : ∀ sizing ∈ sizings, Permitted configuration sizing.purchaseQuantity.value
  covered : configuration.reserve.toRat + (sizings.map fun sizing => sizing.totalCash.toRat).sum ≤ funding

theorem totals_spent {price : ℚ} {stages : List SizingStage} {sizings : List StageSizing}
    (each : List.Forall₂ (Evidenced configuration price) stages sizings) :
    (sizings.map fun sizing => sizing.totalCash.toRat) =
      (sizings.map fun sizing => sizing.purchaseQuantity.value).map fun quantity => spent configuration price quantity.toRat := by
  induction each with
  | nil => rfl
  | cons evidence _ ih => simp only [List.map_cons,ih,evidence.worth]

theorem stages_funded {price funding : ℚ} {sizings : List StageSizing}
    (evidence : StagesOf configuration price quantities sizings)
    (permitted : ∀ quantity ∈ quantities, Permitted configuration quantity)
    (covered : required configuration price quantities ≤ funding) : Funded configuration price funding sizings := by
  obtain ⟨each,rfl⟩ := evidence
  refine ⟨each,fun sizing member => permitted _ (List.mem_map_of_mem member),?_⟩
  rw [totals_spent each]
  exact covered

theorem zero_funded {funding : ℚ} (positive : 0 < price.toRat) (enough : configuration.reserve.toRat ≤ funding) :
    Finishes (zeroStages configuration price) (Funded configuration price.toRat funding) ResourceLimit := by
  apply finishes_imp (zero_stages_finishes positive)
  intro sizings evidence
  apply stages_funded evidence
  · intro quantity member
    obtain ⟨_,_,rfl⟩ := List.mem_map.mp member
    exact zero_permitted
  · rw [zeros_required]
    exact enough

theorem enforce_finishes {funding : Decimal} {sizings : List StageSizing} (positive : 0 < price.toRat)
    (evidence : StagesOf configuration price.toRat quantities sizings)
    (permitted : ∀ quantity ∈ quantities, Permitted configuration quantity)
    (enough : configuration.reserve.toRat ≤ funding.toRat) :
    Finishes (enforceFunding configuration price funding sizings)
      (Funded configuration price.toRat funding.toRat) ResourceLimit := by
  obtain ⟨each,rfl⟩ := evidence
  have lengths := each.length_eq
  unfold enforceFunding
  apply finishes_bind (adjust_finishes permitted positive)
  intro outcome kept
  cases outcome with
  | none => exact zero_funded positive enough
  | some adjusted =>
    obtain ⟨as_many,allowed⟩ := kept adjusted rfl
    rw [List.length_map] at as_many
    apply finishes_bind (total_finishes (fun quantity member => permitted_nonneg (allowed quantity member)) positive)
    intro total counted
    split
    · exact zero_funded positive enough
    · rename_i covered
      have paired : (sizings.zip adjusted).length = configuration.stages.length := by
        rw [List.length_zip,as_many,Nat.min_self,lengths]
      apply finishes_imp (zip_finishes configuration Prod.snd price.toRat paired ?_)
      · intro result ⟨evidence,bought⟩
        rw [List.map_snd_zip as_many.le] at bought
        apply stages_funded ⟨evidence,bought⟩ allowed
        rw [← counted]
        exact not_lt.mp covered
      · intro stage ⟨existing,quantity⟩ member
        exact stage_finishes (permitted_nonneg (allowed quantity (List.of_mem_zip member).2)) positive

end Configuration

-- All of the money in one stage.
def onlyStage : SizingStage := ⟨"only",10000,by decide,by decide⟩

end SwapMonitor.Sizing
