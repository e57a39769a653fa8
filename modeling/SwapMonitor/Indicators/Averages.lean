import SwapMonitor.Indicators.Coverage
import SwapMonitor.Indicators.Vwap
import SwapMonitor.Rules.NormalForms
import SwapMonitor.Domain.Enclosures

namespace SwapMonitor.Indicators
open Clocks Collections Intervals Exceptions

variable {Zone : Type} [DecidableEq Zone] [Tzinfo Zone]

-- The session that a request overlaps last.
structure LastOverlapped (calendar : TradingCalendarProvider Zone) (market : String) (start stop : Datetime Zone)
    (location : SessionLocation Zone) : Prop where
  overlaps : Overlaps calendar market start stop location
  last : ∀ other, Overlaps calendar market start stop other → other = location ∨ other.Before location

theorem before_asymm {left right : SessionLocation Zone} (before : left.Before right) : ¬right.Before left := by
  unfold SessionLocation.Before at before ⊢
  omega

theorem last_exact {calendar : TradingCalendarProvider Zone} {market : String} {start stop : Datetime Zone}
    {locations : List (SessionLocation Zone)} (members : ∀ location, location ∈ locations ↔ Overlaps calendar market start stop location)
    (rising : locations.Pairwise SessionLocation.Before) (location : SessionLocation Zone) :
    locations.getLast? = some location ↔ LastOverlapped calendar market start stop location := by
  have final : ∀ {last}, locations.getLast? = some last → LastOverlapped calendar market start stop last := by
    intro last found
    obtain ⟨front,rfl⟩ := List.getLast?_eq_some_iff.mp found
    refine ⟨(members last).mp (List.mem_append_right _ (List.mem_singleton_self _)),?_⟩
    intro other overlaps
    rcases List.mem_append.mp ((members other).mpr overlaps) with inFront | same
    · exact .inr ((List.pairwise_append.mp rising).2.2 other inFront last (List.mem_singleton_self _))
    · exact .inl (List.mem_singleton.mp same)
  constructor
  · exact final
  · intro own
    cases found : locations.getLast? with
    | none =>
      rw [List.getLast?_eq_none_iff] at found
      have member := (members location).mpr own.overlaps
      rw [found] at member
      exact absurd member List.not_mem_nil
    | some last =>
      have other := final found
      rcases own.last last other.overlaps with same | before
      · rw [same]
      rcases other.last location own.overlaps with same | after
      · rw [same]
      · exact absurd after (before_asymm before)

-- Clocks show the bars in a zone.
def BarsConvertible (bars : List (Bar Zone)) (zone : Zone) : Prop := ∀ bar ∈ bars, bar.startsAt.Convertible zone ∧ bar.endsAt.Convertible zone

section Sessions
variable (fixed : FixedOffsets Zone) {bars : List (Bar Zone)}
include fixed

theorem coverage_from {zone : Zone} {required requiredStop expected : Datetime Zone} (before : expected.instant ≤ requiredStop.instant) :
    coverageFrom zone required requiredStop expected bars = .ok none ↔
      BarsConvertible bars zone ∧ Chained Bar.first Bar.last expected.instant bars requiredStop.instant := by
  induction bars generalizing expected with
  | nil =>
    have none : BarsConvertible ([] : List (Bar Zone)) zone := fun _ none => absurd none List.not_mem_nil
    rw [coverageFrom,Datetime.same_instant fixed,and_iff_right none]
    by_cases same : expected.instant = requiredStop.instant
    · rw [if_pos (decide_eq_true same)]
      exact iff_of_true rfl same
    · rw [if_neg (by simpa using same)]
      exact iff_of_false (fun returned => Option.some_ne_none _ (Except.ok.inj returned)) same
  | cons bar rest ih =>
    have parts : BarsConvertible (bar :: rest) zone ↔
        (bar.startsAt.Convertible zone ∧ bar.endsAt.Convertible zone) ∧ BarsConvertible rest zone := List.forall_mem_cons
    rw [coverageFrom,parts,Chained]
    simp only [bind_ok,astimezone_ok,and_assoc,exists_and_left,exists_eq_left',Datetime.same_instant fixed,Datetime.astimezone_instant]
    refine and_congr_right fun _ => and_congr_right fun _ => ?_
    by_cases starts : bar.startsAt.instant = expected.instant
    · rw [if_neg (by simpa using starts),Datetime.lt_instant fixed,Datetime.astimezone_instant]
      by_cases exceeds : requiredStop.instant < bar.endsAt.instant
      · rw [if_pos (decide_eq_true exceeds)]
        refine iff_of_false (raise_ok ..).mp fun held => ?_
        exact absurd (chained_order (fun b _ => bar_proper fixed b) held.2.2) (not_le.mpr exceeds)
      · rw [if_neg (by simpa using exceeds)]
        have step := @ih (bar.endsAt.astimezone zone) (by rw [Datetime.astimezone_instant]; exact not_lt.mp exceeds)
        rw [step,Datetime.astimezone_instant]
        exact and_congr_right fun _ => (and_iff_right starts).symm
    · rw [if_pos (by simpa using starts)]
      refine iff_of_false ?_ fun held => starts held.2.1
      split
      · exact fun returned => Option.some_ne_none _ (Except.ok.inj returned)
      · exact (raise_ok ..).mp

-- The coverage of a session that the request overlaps.
theorem active_covered {location : SessionLocation Zone} {stop : Datetime Zone}
    (sorted : bars.Pairwise fun a b => a.first ≤ b.first) (walls : sortBy (fun bar : Bar Zone => bar.startsAt.wall) bars = bars)
    (order : location.session.first < min location.session.last stop.instant) :
    validateActiveSessionCoverage bars location stop = .ok none ↔
      stop.Convertible location.session.opensAt.tzinfo ∧ BarsConvertible bars location.session.opensAt.tzinfo ∧
        Covered bars location.session.first (min location.session.last stop.instant) := by
  have high : (location.session.closesAt.minimum (stop.astimezone location.session.opensAt.tzinfo)).instant =
      min location.session.last stop.instant := by
    rw [Datetime.minimum_instant fixed,Datetime.astimezone_instant]
    rfl
  have positive : raiseIf ((location.session.closesAt.minimum (stop.astimezone location.session.opensAt.tzinfo)).le location.session.opensAt)
      .barAggregationInputError "active session falls outside the requested range" = .ok () := by
    rw [raiseIf_ok,Datetime.le_instant fixed,high]
    exact decide_eq_false (not_le.mpr order)
  have reached : coverageFrom location.session.opensAt.tzinfo location.session.opensAt
      (location.session.closesAt.minimum (stop.astimezone location.session.opensAt.tzinfo)) location.session.opensAt bars = .ok none ↔
        BarsConvertible bars location.session.opensAt.tzinfo ∧ Covered bars location.session.first (min location.session.last stop.instant) := by
    rw [coverage_from fixed (by rw [high]; exact order.le),high]
    exact and_congr_right fun _ => (tiles_exact (fun bar _ => bar_proper fixed bar) sorted order.le).symm
  unfold validateActiveSessionCoverage
  rw [walls,bind_ok]
  simp only [astimezone_ok,and_assoc,exists_and_left,exists_eq_left',check_ok,positive,true_and,reached]

end Sessions

-- The bars of the instrument.
def SessionVwapIndicator.ownBars (indicator : SessionVwapIndicator Zone) (snapshot : MarketDataSnapshot Zone) : List (Bar Zone) :=
  snapshot.intradayBars.filter fun bar => bar.instrumentId = indicator.instrumentId

-- Those of a session.
noncomputable def activeBars (indicator : SessionVwapIndicator Zone) (snapshot : MarketDataSnapshot Zone) (location : SessionLocation Zone) :
    List (Bar Zone) := sessionBars indicator.calendar indicator.market (indicator.ownBars snapshot) location

-- What an average of a session needs of a snapshot, but for the volume.
structure Justified (indicator : SessionVwapIndicator Zone) (snapshot : MarketDataSnapshot Zone) (location : SessionLocation Zone) : Prop where
  actionable : snapshot.isActionable = true
  some : indicator.ownBars snapshot ≠ []
  valid : validateBarsForCalendar indicator.calendar indicator.market (indicator.ownBars snapshot) = .ok ()
  requestable : Requestable indicator.calendar indicator.market snapshot.request.intradayStart snapshot.request.intradayEnd
  last : LastOverlapped indicator.calendar indicator.market snapshot.request.intradayStart snapshot.request.intradayEnd location
  stops : snapshot.request.intradayEnd.Convertible location.session.opensAt.tzinfo
  readable : BarsConvertible (activeBars indicator snapshot location) location.session.opensAt.tzinfo
  tiled : Covered (activeBars indicator snapshot location) location.session.first
    (min location.session.last snapshot.request.intradayEnd.instant)

section Active
variable (fixed : FixedOffsets Zone) {indicator : SessionVwapIndicator Zone} {snapshot : MarketDataSnapshot Zone}
include fixed

theorem request_positive (request : MarketDataRequest Zone) : request.intradayStart.instant < request.intradayEnd.instant := by
  have after := request.after
  rw [Datetime.le_instant fixed,decide_eq_false_iff_not,not_le] at after
  exact after

omit fixed in
theorem names_given (indicator : SessionVwapIndicator Zone) : blank indicator.market = false ∧ blank indicator.key = false := by
  have accepted := indicator.accepted
  simpa only [requireNames,check_ok,raiseIf_ok] using accepted

omit fixed in
theorem latest_returns {located : List (Bar Zone × SessionLocation Zone)} (some : located ≠ []) : ∃ latest, latestBar located = .ok latest := by
  cases located with
  | nil => exact absurd rfl some
  | cons first rest => exact ⟨_,rfl⟩

theorem active_exact (some : indicator.ownBars snapshot ≠ []) (active : snapshot.isActionable = true) (location : SessionLocation Zone) :
    (∃ active, activeSession indicator snapshot.request (indicator.ownBars snapshot) = .ok (.some active) ∧ active.trailing = none ∧
      active.location = location) ↔ Justified indicator snapshot location := by
  have single : ∀ bar ∈ indicator.ownBars snapshot, bar.instrumentId = indicator.instrumentId :=
    fun bar member => of_decide_eq_true (List.mem_filter.mp member).2
  have covered : ∀ {located}, validateBarsForCalendar indicator.calendar indicator.market (indicator.ownBars snapshot) = .ok () →
      locateBars indicator.calendar indicator.market (indicator.ownBars snapshot) = .ok located →
      LastOverlapped indicator.calendar indicator.market snapshot.request.intradayStart snapshot.request.intradayEnd location →
      (validateActiveSessionCoverage (locatedIn located location) location snapshot.request.intradayEnd = .ok none ↔
        snapshot.request.intradayEnd.Convertible location.session.opensAt.tzinfo ∧
          BarsConvertible (activeBars indicator snapshot location) location.session.opensAt.tzinfo ∧
          Covered (activeBars indicator snapshot location) location.session.first
            (min location.session.last snapshot.request.intradayEnd.instant)) := by
    intro located accepted found own
    obtain ⟨sorted,walls⟩ := session_sorted fixed ((validated_exact fixed).mp accepted) single location
    rw [located_session fixed found own.overlaps.listed]
    exact active_covered fixed sorted walls ((le_max_left ..).trans_lt own.overlaps.shared)
  constructor
  · rintro ⟨found,returned,whole,same⟩
    rw [activeSession,check_ok] at returned
    obtain ⟨accepted,rest⟩ := returned
    obtain ⟨located,placed,rest⟩ := bind_ok.mp rest
    obtain ⟨locations,requested,rest⟩ := bind_ok.mp rest
    obtain ⟨⟨_,requestable,_⟩,_⟩ := (requested_exact fixed).mp requested
    obtain ⟨members,rising⟩ := requested_members fixed requested
    split at rest
    · cases rest
    rename_i latestLocation final
    obtain ⟨latest,_,trailing,coverage,made⟩ := by simpa only [bind_ok] using rest
    cases made
    subst same
    have own := (last_exact members rising _).mp final
    obtain rfl : trailing = none := whole
    obtain ⟨stops,readable,tiled⟩ := (covered accepted placed own).mp coverage
    exact ⟨active,some,accepted,requestable,own,stops,readable,tiled⟩
  · intro justified
    have requested := (requested_exact fixed).mpr
      ⟨⟨(names_given indicator).1,justified.requestable,request_positive fixed snapshot.request⟩,rfl⟩
    obtain ⟨members,rising⟩ := requested_members fixed requested
    obtain ⟨located,placed⟩ := bars_located fixed ((validated_exact fixed).mp justified.valid)
    have many : located ≠ [] := by
      intro none
      have counted := (mapM_exact.mp placed).length_eq
      rw [none,List.length_nil,List.length_eq_zero_iff] at counted
      exact some counted
    obtain ⟨latest,found⟩ := latest_returns many
    refine ⟨⟨latest,location,locatedIn located location,none⟩,?_,rfl,rfl⟩
    rw [activeSession,check_ok]
    refine ⟨justified.valid,bind_ok.mpr ⟨located,placed,bind_ok.mpr ⟨_,requested,?_⟩⟩⟩
    rw [(last_exact members rising location).mpr justified.last]
    simp only [bind_ok]
    exact ⟨latest,found,none,(covered justified.valid placed justified.last).mpr ⟨justified.stops,justified.readable,justified.tiled⟩,rfl⟩

theorem active_bars {active : ActiveSession Zone}
    (returned : activeSession indicator snapshot.request (indicator.ownBars snapshot) = .ok (.some active)) :
    active.bars = activeBars indicator snapshot active.location := by
  rw [activeSession,check_ok] at returned
  obtain ⟨_,rest⟩ := returned
  obtain ⟨located,placed,rest⟩ := bind_ok.mp rest
  obtain ⟨locations,requested,rest⟩ := bind_ok.mp rest
  obtain ⟨members,rising⟩ := requested_members fixed requested
  split at rest
  · cases rest
  rename_i latestLocation final
  obtain ⟨_,_,_,_,made⟩ := by simpa only [bind_ok] using rest
  cases made
  exact located_session fixed placed ((last_exact members rising latestLocation).mp final).overlaps.listed

omit fixed in
theorem evidence_named (active : ActiveSession Zone) : (sessionEvidence active.location ++ [("observed_bars",EvidenceText.number active.bars.length),
    ("latest_bar_start",EvidenceText.datetime active.latest.startsAt)]).any (fun entry => blank entry.1) = false := by
  simp only [sessionEvidence,List.cons_append,List.nil_append,List.any_cons,List.any_nil]
  decide

omit fixed in
theorem average_yields {context : DecimalContext} {active : ActiveSession Zone} {key : String} (named : blank key = false) {v : Decimal} :
    Yields (sessionAverage context key active) v ↔ active.trailing = none ∧
      ∃ total, context.sum (.ofNat 0) (active.bars.map fun bar => bar.volume) = .ok total ∧ total.toRat ≠ 0 ∧
        weightedAverage active.bars total = .ok v := by
  unfold sessionAverage
  cases summed : context.sum (.ofNat 0) (active.bars.map fun bar => bar.volume) with
  | error error =>
    refine iff_of_false raised_yields ?_
    intro ⟨_,_,returned,_⟩
    cases returned
  | ok total =>
    simp only [Bind.bind,Except.bind,Except.ok.injEq,exists_eq_left']
    cases trailing : active.trailing with
    | some gap => exact iff_of_false unavailable_yields fun holds => nomatch holds.1
    | none =>
      rw [and_iff_right rfl,isZero,ne_eq,toRat_zero]
      by_cases zero : total.coefficient = 0
      · simp only [zero,decide_true,if_true,not_true_eq_false,false_and,iff_false]
        exact unavailable_yields
      simp only [zero,decide_false,Bool.false_eq_true,if_false,not_false_eq_true,true_and]
      cases averaged : weightedAverage active.bars total with
      | error error => exact iff_of_false raised_yields fun returned => nomatch returned
      | ok value =>
        have canonical : canonicalDecimal value = value := by
          simp only [weightedAverage,bind_ok,pure_ok] at averaged
          obtain ⟨_,_,_,_,rfl⟩ := averaged
          exact Rules.canonical_again _
        simp only [Except.ok.injEq]
        rw [available_yields named (evidence_named active),canonical]

-- Exactly when there is an average, and which.
theorem vwap_exact {context : DecimalContext} {v : Decimal} : Yields (indicator.calculate context snapshot) v ↔
    ∃ location total, Justified indicator snapshot location ∧
      context.sum (.ofNat 0) ((activeBars indicator snapshot location).map fun bar => bar.volume) = .ok total ∧
      total.toRat ≠ 0 ∧ weightedAverage (activeBars indicator snapshot location) total = .ok v := by
  have named := (names_given indicator).2
  unfold SessionVwapIndicator.calculate
  cases actionable : snapshot.isActionable with
  | false =>
    refine iff_of_false unavailable_yields ?_
    intro held
    obtain ⟨_,_,justified,_⟩ := held
    cases actionable.symm.trans justified.actionable
  | true =>
    have own : (snapshot.intradayBars.filter fun bar => bar.instrumentId = indicator.instrumentId) = indicator.ownBars snapshot := rfl
    simp only [Bool.not_true,Bool.false_eq_true,if_false,own]
    by_cases none : indicator.ownBars snapshot = []
    · rw [if_pos (by rw [none]; rfl)]
      refine iff_of_false unavailable_yields ?_
      intro held
      obtain ⟨_,_,justified,_⟩ := held
      exact justified.some none
    rw [if_neg (by simpa using none)]
    cases found : activeSession indicator snapshot.request (indicator.ownBars snapshot) with
    | error error =>
      refine iff_of_false ?_ ?_
      · simp only
        split
        · exact unavailable_yields
        · exact raised_yields
      · intro held
        obtain ⟨location,_,justified,_⟩ := held
        obtain ⟨_,returned,_⟩ := (active_exact fixed none actionable location).mpr justified
        cases found.symm.trans returned
    | ok active =>
      cases active with
      | none =>
        refine iff_of_false unavailable_yields ?_
        intro held
        obtain ⟨location,_,justified,_⟩ := held
        obtain ⟨_,returned,_⟩ := (active_exact fixed none actionable location).mpr justified
        cases found.symm.trans returned
      | some active =>
        simp only
        rw [average_yields named,active_bars fixed found]
        constructor
        · intro held
          obtain ⟨whole,total,rest⟩ := held
          exact ⟨active.location,total,(active_exact fixed none actionable active.location).mp ⟨active,found,whole,rfl⟩,rest⟩
        · intro held
          obtain ⟨location,total,justified,rest⟩ := held
          obtain ⟨other,returned,whole,rfl⟩ := (active_exact fixed none actionable location).mpr justified
          obtain rfl : active = other := Option.some.inj (Except.ok.inj (found.symm.trans returned))
          exact ⟨whole,total,rest⟩

end Active
end SwapMonitor.Indicators
