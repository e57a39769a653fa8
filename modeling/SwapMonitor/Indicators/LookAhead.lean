import SwapMonitor.Domain.FixedArithmetic
import SwapMonitor.Indicators.Aggregation
import SwapMonitor.Indicators.VolumeRatio

namespace SwapMonitor.Indicators
open Clocks Collections Exceptions

variable {Zone : Type} [DecidableEq Zone] [Tzinfo Zone]

-- Clocks show the start of a request in the market.
def RatioSettings.Readable (settings : RatioSettings Zone) (snapshot : MarketDataSnapshot Zone) : Prop :=
  snapshot.request.intradayStart.Convertible (settings.calendar.marketTimezone settings.market)

instance (settings : RatioSettings Zone) (snapshot : MarketDataSnapshot Zone) : Decidable (settings.Readable snapshot) :=
  inferInstanceAs (Decidable (Datetime.Convertible ..))

-- Snapshots of different dates, none of which has one yet.
structure RatioSettings.Distinct (settings : RatioSettings Zone) (result : HistoryByDate Zone) (snapshots : List (MarketDataSnapshot Zone)) :
    Prop where
  single : (snapshots.map settings.requestDate).Nodup
  free : ∀ snapshot ∈ snapshots, result (settings.requestDate snapshot) = none

section History
variable {settings : RatioSettings Zone} {currentDate : Int}

end History

section Calculation
variable {context : DecimalContext} {settings : RatioSettings Zone} {snapshot : MarketDataSnapshot Zone}

end Calculation

section Current

-- The first bar of a list that ends at a time.
theorem current_found {zone : Zone} {requiredEnd : Datetime Zone} {bars : List (Bar Zone)} {bar : Bar Zone}
    (found : currentBarFrom zone requiredEnd bars = .ok (some bar)) :
    bar ∈ bars ∧ (bar.endsAt.astimezone zone).same requiredEnd = true := by
  induction bars with
  | nil => cases found
  | cons first rest ih =>
    rw [currentBarFrom,bind_ok] at found
    obtain ⟨_,converted,found⟩ := found
    obtain ⟨_,rfl⟩ := (astimezone_ok ..).mp converted
    split at found
    · rename_i ends
      obtain rfl := Option.some.inj ((pure_ok _ _).mp found)
      exact ⟨List.mem_cons_self ..,ends⟩
    · obtain ⟨member,ends⟩ := ih found
      exact ⟨List.mem_cons_of_mem first member,ends⟩

end Current

section Dates
variable {settings : RatioSettings Zone} {before : Int}

end Dates

section Gathering
variable {context : DecimalContext} {settings : RatioSettings Zone} {currentBar : Bar Zone} {location : SessionLocation Zone}

-- A bar that stands in a session as the current bar does in its own.
structure Matches (settings : RatioSettings Zone) (currentBar : Bar Zone) (location : SessionLocation Zone) (bar : Bar Zone)
    (own : SessionLocation Zone) : Prop where
  located : locateMarketSession settings.calendar settings.market bar = .ok own
  segment : own.segment = location.segment
  geometry : sessionRelativeGeometry settings bar own = sessionRelativeGeometry settings currentBar location

theorem dates_match {marketTimezone : Zone} {expectedDate : Int} {bars : List (Bar Zone)}
    (matched : datesMismatch marketTimezone expectedDate bars = .ok false) : ∀ bar ∈ bars, (bar.startsAt.astimezone marketTimezone).date = expectedDate := by
  induction bars with
  | nil => exact fun _ none => absurd none List.not_mem_nil
  | cons first rest ih =>
    rw [datesMismatch,bind_ok] at matched
    obtain ⟨localStart,converted,matched⟩ := matched
    obtain ⟨_,rfl⟩ := (astimezone_ok ..).mp converted
    split at matched
    · cases matched
    · rename_i own
      exact List.forall_mem_cons.mpr ⟨not_not.mp own,ih matched⟩

-- What is more than a note on a date comes of a snapshot of that date.
theorem outcome_referenced {historyByDate : HistoryByDate Zone} {date : Int} {outcome : IndicatorResult Zone ⊕ HistoryOutcome}
    (found : historyOutcome context settings historyByDate currentBar location date = .ok outcome)
    (told : ∀ own, outcome = .inr own → ∃ value, own = .volume value) :
    ∃ snapshot, historyByDate date = some snapshot ∧ snapshot.isActionable = true ∧
      (∀ source ∈ settings.ownBars snapshot, (source.startsAt.astimezone (settings.calendar.marketTimezone settings.market)).date = date) ∧
        historicalReference context settings currentBar location date snapshot = .ok outcome := by
  have untold : ∀ {own}, (∀ value, own ≠ .volume value) → (pure (.inr own) : Except PyError (IndicatorResult Zone ⊕ HistoryOutcome)) ≠ .ok outcome := by
    intro own other same
    obtain ⟨value,volume⟩ := told own (Except.ok.inj same).symm
    exact other value volume
  rw [historyOutcome] at found
  cases known : historyByDate date with
  | none =>
    rw [known] at found
    exact absurd found (untold fun _ same => nomatch same)
  | some snapshot =>
    simp only [known] at found
    split at found
    · exact absurd found (untold fun _ same => nomatch same)
    · rename_i actionable
      obtain ⟨mismatched,compared,found⟩ := bind_ok.mp found
      cases mismatched with
      | true => exact absurd found (untold fun _ same => nomatch same)
      | false =>
        simp only [Bool.false_eq_true,if_false] at found
        split at found
        · rename_i referenced
          obtain rfl := (pure_ok _ _).mp found
          exact ⟨snapshot,rfl,by simpa using actionable,dates_match compared,referenced⟩
        · split at found
          · exact absurd found (untold fun _ same => nomatch same)
          · cases found

-- What ends the loop early is no value.
theorem outcome_returned {historyByDate : HistoryByDate Zone} {date : Int} {result : IndicatorResult Zone}
    (found : historyOutcome context settings historyByDate currentBar location date = .ok (.inl result)) : result.value = none := by
  have empty : ∀ {reason : String} {evidence : Evidence Zone}, IndicatorResult.unavailable settings.key reason evidence = .ok result →
      result.value = none := fun made => congrArg ResultFields.value (create_fields made)
  obtain ⟨_,_,_,_,referenced⟩ := outcome_referenced found fun _ same => nomatch same
  simp only [historicalReference,bind_ok] at referenced
  obtain ⟨locations,_,referenced⟩ := referenced
  split at referenced
  · obtain ⟨_,made,same⟩ := bind_ok.mp referenced
    cases same
    exact empty made
  · obtain ⟨gap,_,referenced⟩ := bind_ok.mp referenced
    split at referenced
    · obtain ⟨_,made,same⟩ := bind_ok.mp referenced
      cases same
      exact empty made
    · obtain ⟨matching,_,referenced⟩ := bind_ok.mp referenced
      split at referenced <;> cases referenced

-- No date was found wanting.
structure Gathered.Complete (gathered : Gathered) : Prop where
  absent : gathered.absentDates = []
  incomplete : gathered.incompleteDates = []
  mismatched : gathered.mismatchedDates = []
  invalid : gathered.invalidHistory = []
  interval : gathered.intervalMismatchDates = []
  missing : gathered.missingReferenceDates = []

end Gathering

end SwapMonitor.Indicators
