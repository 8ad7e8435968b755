import Mathlib.Algebra.Order.Ring.Rat
import SuperAdvisor.Foundation.Averages
import SuperAdvisor.Foundation.Dict
import SuperAdvisor.Foundation.NamedFields
import SuperAdvisor.Foundation.RaisingLoops
import SuperAdvisor.MarketData.Records

/-!
# The basket of dollar pairs

`compute_fx_basket` for any floating-point numbers.  The class of the basket
depends on how many of the used components are stale or unknown, so components
of every other class pass for realtime ones.
-/

namespace SuperAdvisor.MarketData

open Averages Python

def fxBasketPairs : List String :=
  ["EURUSD", "GBPUSD", "AUDUSD", "NZDUSD", "USDJPY", "USDCHF", "USDCAD"]

def fxBasketReversePairs : List String :=
  ["EURUSD", "GBPUSD", "AUDUSD", "NZDUSD"]

def fxBasketInternalId : String := "FX_BASKET_COMPUTED"

def fxBasketVersion : String := "fx-basket-v1-normalized-returns"

def realtimeClassStale : String := "STALE"

def realtimeClassNotKnown : String := "UNKNOWN"

/-- The operations of floating-point numbers; only a zero divides nothing. -/
structure FloatOperations (Number : Type) where
  ofNat : ℕ → Number
  isZero : Number → Bool
  add : Number → Number → Number
  subtract : Number → Number → Number
  multiply : Number → Number → Number
  negate : Number → Number
  quotient : Number → Number → Number
  round : ℕ → Number → Number
  isZero_ofNat : ∀ count, isZero (ofNat count) = true ↔ count = 0

variable {Number : Type}

def FloatOperations.divide (floats : FloatOperations Number) (dividend divisor : Number) :
    Except ArithmeticError Number :=
  if floats.isZero divisor then .error .zeroDivision
  else .ok (floats.quotient dividend divisor)

def FloatOperations.sum (floats : FloatOperations Number) (numbers : List Number) : Number :=
  numbers.foldl floats.add (floats.ofNat 0)

/-- What is known of a pair. -/
structure PairEntry (Number : Type) where
  close : Option Number
  prevClose : Option Number
  realtimeClass : String

inductive ComponentStatus where
  | missing
  | incomplete
  | valid
  deriving DecidableEq

structure BasketComponent (Number : Type) where
  logicalSymbol : String
  close : Option Number
  prevClose : Option Number
  realtimeClass : String
  isReversed : Bool
  returnValue : Option Number
  status : ComponentStatus

inductive BasketStatus where
  | valid
  | stale
  | insufficientData
  deriving DecidableEq

structure FxBasketResult (Number : Type) where
  internalId : String
  formulaVersion : String
  basketValue : Option Number
  componentCountUsed : ℕ
  componentCountTotal : ℕ
  components : List (BasketComponent Number)
  realtimeClass : String
  status : BasketStatus
  computedAtUtc : String
  provenance : List (String × Value)

section Basket

variable (floats : FloatOperations Number) (pairData : Dict String (PairEntry Number))

def incompleteComponent (pair : String) (entry : PairEntry Number) : BasketComponent Number :=
  { logicalSymbol := pair
    close := entry.close
    prevClose := entry.prevClose
    realtimeClass := entry.realtimeClass
    isReversed := fxBasketReversePairs.contains pair
    returnValue := none
    status := .incomplete }

/-- The component of a pair, with its return in terms of the dollar. -/
def componentOf (pair : String) : Except ArithmeticError (BasketComponent Number) :=
  match pairData.get? pair with
  | none =>
      .ok
        { logicalSymbol := pair
          close := none
          prevClose := none
          realtimeClass := realtimeClassNotKnown
          isReversed := fxBasketReversePairs.contains pair
          returnValue := none
          status := .missing }
  | some entry =>
      match entry.close, entry.prevClose with
      | some close, some prevClose =>
          if floats.isZero prevClose then .ok (incompleteComponent pair entry)
          else do
            let ratio ← floats.divide close prevClose
            let rawReturn := floats.subtract ratio (floats.ofNat 1)
            .ok
              { logicalSymbol := pair
                close := close
                prevClose := prevClose
                realtimeClass := entry.realtimeClass
                isReversed := fxBasketReversePairs.contains pair
                returnValue :=
                  some (if fxBasketReversePairs.contains pair then floats.negate rawReturn
                    else rawReturn)
                status := .valid }
      | _, _ => .ok (incompleteComponent pair entry)

/-- The value in basis points, the status and the class of the used components. -/
def basketOf (valid : List (BasketComponent Number)) :
    Except ArithmeticError (Option Number × BasketStatus × String) :=
  if valid.length < 3 then .ok (none, .insufficientData, realtimeClassNotKnown)
  else do
    let average ← floats.divide (floats.sum (valid.filterMap BasketComponent.returnValue))
      (floats.ofNat valid.length)
    let basketValue := floats.round 4 (floats.multiply average (floats.ofNat 10000))
    let staleCount := valid.countP fun component =>
      [realtimeClassStale, realtimeClassNotKnown].contains component.realtimeClass
    if 0 < staleCount then .ok (some basketValue, .stale, realtimeClassStale)
    else .ok (some basketValue, .valid, realtimeClassRealtime)

def computeFxBasket (computedAt : String) : Except ArithmeticError (FxBasketResult Number) := do
  let components ← fxBasketPairs.mapM (componentOf floats pairData)
  let valid := components.filter fun component => component.returnValue.isSome
  let (basketValue, status, realtimeClass) ← basketOf floats valid
  .ok
    { internalId := fxBasketInternalId
      formulaVersion := fxBasketVersion
      basketValue := basketValue
      componentCountUsed := valid.length
      componentCountTotal := fxBasketPairs.length
      components := components
      realtimeClass := realtimeClass
      status := status
      computedAtUtc := computedAt
      provenance :=
        [("formula", .str fxBasketVersion),
          ("pairs", .list (fxBasketPairs.map Value.str)),
          ("reverse_pairs", .list (["AUDUSD", "EURUSD", "GBPUSD", "NZDUSD"].map Value.str)),
          ("internal_id", .str fxBasketInternalId),
          ("components_used", .int valid.length),
          ("components_total", .int fxBasketPairs.length)] }

/-- Both prices are there, and the previous close is not zero. -/
def PairEntry.usable (entry : PairEntry Number) : Bool :=
  entry.close.isSome && entry.prevClose.any fun prevClose => !floats.isZero prevClose

/-- The class of a pair that contributes a return. -/
def usedClass (pair : String) : Option String :=
  (pairData.get? pair).bind fun entry =>
    if entry.usable floats then some entry.realtimeClass else none

/-- The classes of the configured pairs that contribute, in their order. -/
def usedClasses : List String :=
  fxBasketPairs.filterMap (usedClass floats pairData)

end Basket

/-- Nothing that contributed is less fresh than the basket says. -/
def FxBasketResult.Honest (result : FxBasketResult Number) : Prop :=
  result.status = .valid ∨ result.realtimeClass = realtimeClassRealtime →
    ∀ component ∈ result.components, component.returnValue ≠ none →
      component.realtimeClass = realtimeClassRealtime

section Facts

variable {floats : FloatOperations Number} {pairData : Dict String (PairEntry Number)}

/-- The class of a component that contributed. -/
def BasketComponent.usedClass (component : BasketComponent Number) : Option String :=
  if component.returnValue.isSome then some component.realtimeClass else none

/-- A component is always there, and contributes if its pair is usable. -/
theorem exists_componentOf (pair : String) :
    ∃ component, componentOf floats pairData pair = .ok component ∧
      component.usedClass = MarketData.usedClass floats pairData pair := by
  unfold componentOf MarketData.usedClass
  cases known : pairData.get? pair with
  | none => exact ⟨_, rfl, rfl⟩
  | some entry =>
      obtain ⟨close, prevClose, realtimeClass⟩ := entry
      cases close with
      | none => exact ⟨_, rfl, rfl⟩
      | some close =>
          cases prevClose with
          | none => exact ⟨_, rfl, rfl⟩
          | some prevClose =>
              cases zero : floats.isZero prevClose with
              | true =>
                  simp [zero, incompleteComponent, BasketComponent.usedClass, PairEntry.usable]
              | false =>
                  simp only [zero, FloatOperations.divide, Bool.false_eq_true, if_false]
                  refine ⟨_, rfl, ?_⟩
                  simp [zero, BasketComponent.usedClass, PairEntry.usable]

/-- The components stand for the pairs, so the used ones have the used classes. -/
theorem exists_components :
    ∃ components, fxBasketPairs.mapM (componentOf floats pairData) = .ok components ∧
      components.filterMap BasketComponent.usedClass = usedClasses floats pairData := by
  have general : ∀ pairs : List String, ∃ components,
      pairs.mapM (componentOf floats pairData) = .ok components ∧
        components.filterMap BasketComponent.usedClass =
          pairs.filterMap (MarketData.usedClass floats pairData) := by
    intro pairs
    induction pairs with
    | nil => exact ⟨[], rfl, rfl⟩
    | cons pair pairs induction =>
        obtain ⟨component, computed, class_eq⟩ := @exists_componentOf _ floats
          pairData pair
        obtain ⟨components, collected, classes⟩ := induction
        refine ⟨component :: components, ?_, ?_⟩
        · rw [List.mapM_cons, computed, collected]
          rfl
        · rw [List.filterMap_cons, List.filterMap_cons, class_eq, classes]
  exact general fxBasketPairs

theorem map_realtimeClass_valid (components : List (BasketComponent Number)) :
    (components.filter fun component => component.returnValue.isSome).map
        BasketComponent.realtimeClass =
      components.filterMap BasketComponent.usedClass := by
  induction components with
  | nil => rfl
  | cons component components induction =>
      by_cases used : component.returnValue.isSome = true
      · simp [used, BasketComponent.usedClass, induction]
      · simp [used, BasketComponent.usedClass, induction]

theorem length_usedClasses :
    (usedClasses floats pairData).length =
      fxBasketPairs.countP fun pair => (pairData.get? pair).any (PairEntry.usable floats) := by
  rw [usedClasses, List.length_filterMap_eq_countP]
  congr 1
  funext pair
  cases known : pairData.get? pair with
  | none => simp [usedClass, known]
  | some entry => cases usable : entry.usable floats <;> simp [usedClass, known, usable]

/-- The value, the status and the class of a basket with these used classes. -/
structure BasketFits (classes : List String) (value : Option Number) (status : BasketStatus)
    (realtimeClass : String) : Prop where
  produced : value.isSome = true ↔ 3 ≤ classes.length
  fresh : status = .valid ∨ realtimeClass = realtimeClassRealtime ↔
    3 ≤ classes.length ∧ realtimeClassStale ∉ classes ∧ realtimeClassNotKnown ∉ classes

theorem exists_basketOf (valid : List (BasketComponent Number)) :
    ∃ value status realtimeClass, basketOf floats valid = .ok (value, status, realtimeClass) ∧
      BasketFits (valid.map BasketComponent.realtimeClass) value status realtimeClass := by
  unfold basketOf
  by_cases few : valid.length < 3
  · rw [if_pos few]
    refine ⟨_, _, _, rfl, ?_, ?_⟩
    · simpa using few
    · refine iff_of_false (by decide) ?_
      simp [not_le.mpr few]
  · have counted : floats.isZero (floats.ofNat valid.length) = false := by
      rw [Bool.eq_false_iff, Ne, floats.isZero_ofNat]
      omega
    simp only [if_neg few, FloatOperations.divide, counted, Bool.false_eq_true, if_false, bind,
      Except.bind]
    split
    next stale =>
      obtain ⟨component, member, listed⟩ := List.countP_pos_iff.mp stale
      refine ⟨_, _, _, rfl, ?_, ?_⟩
      · simpa using few
      · refine iff_of_false (by decide) ?_
        rintro ⟨-, notStale, known⟩
        have inside := List.mem_map_of_mem (f := BasketComponent.realtimeClass) member
        rcases List.mem_pair.mp (List.contains_iff_mem.mp listed) with same | same
        · exact notStale (same ▸ inside)
        · exact known (same ▸ inside)
    next fresh =>
      refine ⟨_, _, _, rfl, ?_, ?_⟩
      · simpa using few
      · refine iff_of_true (.inl rfl) ⟨by simpa using few, ?_, ?_⟩
        · intro member
          obtain ⟨component, inside, same⟩ := List.mem_map.mp member
          exact fresh (List.countP_pos_iff.mpr ⟨component, inside, by simp [same]⟩)
        · intro member
          obtain ⟨component, inside, same⟩ := List.mem_map.mp member
          exact fresh (List.countP_pos_iff.mpr ⟨component, inside, by simp [same]⟩)

theorem forall_used_iff (components : List (BasketComponent Number)) (wanted : String) :
    (∀ component ∈ components, component.returnValue ≠ none →
        component.realtimeClass = wanted) ↔
      ∀ realtimeClass ∈ components.filterMap BasketComponent.usedClass,
        realtimeClass = wanted := by
  rw [← map_realtimeClass_valid, List.forall_mem_map]
  simp only [List.mem_filter, and_imp, Option.isSome_iff_ne_none]

/-- If enough pairs are used, one of them stale or unknown or all realtime. -/
def HonestClasses (classes : List String) : Prop :=
  3 ≤ classes.length →
    realtimeClassStale ∈ classes ∨ realtimeClassNotKnown ∈ classes ∨
      ∀ realtimeClass ∈ classes, realtimeClass = realtimeClassRealtime

theorem exists_computeFxBasket (computedAt : String) :
    ∃ result, computeFxBasket floats pairData computedAt = .ok result ∧
      (result.basketValue.isSome = true ↔ 3 ≤ (usedClasses floats pairData).length) ∧
      (result.Honest ↔ HonestClasses (usedClasses floats pairData)) := by
  obtain ⟨components, collected, classes⟩ := @exists_components _ floats pairData
  obtain ⟨value, status, realtimeClass, basket, fits⟩ := @exists_basketOf _ floats
    (components.filter fun component => component.returnValue.isSome)
  rw [map_realtimeClass_valid, classes] at fits
  refine ⟨_, by simp only [computeFxBasket, collected, basket, bind, Except.bind]; rfl,
    fits.produced, ?_⟩
  simp only [FxBasketResult.Honest, fits.fresh, forall_used_iff, classes, HonestClasses]
  tauto

end Facts

/-- The basket is computed, has a value exactly from three usable pairs on, and is
honest exactly if some used class is stale or unknown, or all are realtime. -/
theorem fx_basket_honest_iff
    (floats : FloatOperations Number) (pairData : Dict String (PairEntry Number))
    (computedAt : String) :
    (∃ result, computeFxBasket floats pairData computedAt = .ok result ∧
      (result.basketValue.isSome = true ↔
        3 ≤ fxBasketPairs.countP fun pair => (pairData.get? pair).any (PairEntry.usable floats)) ∧
      result.Honest) ↔
      HonestClasses (usedClasses floats pairData) := by
  obtain ⟨result, computed, produced, honest⟩ :=
    @exists_computeFxBasket _ floats pairData computedAt
  simp only [computed, Except.ok.injEq, exists_eq_left', ← length_usedClasses, produced, honest,
    true_and]

/-- Exact numbers in place of floating-point ones. -/
def rationalOperations : FloatOperations ℚ where
  ofNat count := count
  isZero number := decide (number = 0)
  add first second := first + second
  subtract first second := first - second
  multiply first second := first * second
  negate number := -number
  quotient dividend divisor := dividend / divisor
  round _ number := number
  isZero_ofNat count := by simp

/-- Three pairs, a quarter of an hour late. -/
def delayedPairs : Dict String (PairEntry ℚ) :=
  Dict.ofPairs
    [("EURUSD", { close := some 2, prevClose := some 1, realtimeClass := "DELAYED_15MIN" }),
      ("USDJPY", { close := some 3, prevClose := some 2, realtimeClass := "DELAYED_15MIN" }),
      ("USDCHF", { close := some 1, prevClose := some 1, realtimeClass := "DELAYED_15MIN" })]

theorem delayedPairs_not_honest :
    ¬∀ pairData : Dict String (PairEntry ℚ), ∃ result,
      computeFxBasket rationalOperations pairData "2026-06-15T00:00:00Z" = .ok result ∧
        result.Honest := by
  intro all
  obtain ⟨result, computed, honest⟩ := all delayedPairs
  obtain ⟨other, again, -, known⟩ := @exists_computeFxBasket _ rationalOperations
    delayedPairs "2026-06-15T00:00:00Z"
  cases computed.symm.trans again
  have late : usedClasses rationalOperations delayedPairs =
      ["DELAYED_15MIN", "DELAYED_15MIN", "DELAYED_15MIN"] := by decide +kernel
  have claimed := known.mp honest
  rw [late] at claimed
  exact absurd (claimed (by decide)) (by decide +kernel)

end SuperAdvisor.MarketData
