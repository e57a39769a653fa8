import SwapMonitor.Indicators.Composition

namespace SwapMonitor.Indicators
open Clocks Collections Intervals Exceptions

variable {Zone : Type} [DecidableEq Zone] [Tzinfo Zone]

-- The sessions of the open local dates of [start,stop) that share a time with it.
structure Overlaps (calendar : TradingCalendarProvider Zone) (market : String) (start stop : Datetime Zone) (location : SessionLocation Zone) :
    Prop where
  opened : calendar.isHoliday market location.sessionDate = false
  listed : (calendar.sessionsFor market location.sessionDate)[location.segment]? = some location.session
  dated : (start.astimezone (calendar.marketTimezone market)).date ≤ location.sessionDate ∧
    location.sessionDate ≤ (stop.astimezone (calendar.marketTimezone market)).date
  shared : max location.session.first start.instant < min location.session.last stop.instant

-- The same of one date, whichever.
structure Shares (calendar : TradingCalendarProvider Zone) (market : String) (start stop : Int) (location : SessionLocation Zone) : Prop where
  opened : calendar.isHoliday market location.sessionDate = false
  listed : (calendar.sessionsFor market location.sessionDate)[location.segment]? = some location.session
  shared : max location.session.first start < min location.session.last stop

-- Clocks show the range in the market, and the date after it.
structure Requestable (calendar : TradingCalendarProvider Zone) (market : String) (start stop : Datetime Zone) : Prop where
  starts : start.Convertible (calendar.marketTimezone market)
  stops : stop.Convertible (calendar.marketTimezone market)
  following : ShownDate ((stop.astimezone (calendar.marketTimezone market)).date + 1)

-- By date, and on one date by segment.
def SessionLocation.Before (left right : SessionLocation Zone) : Prop :=
  left.sessionDate < right.sessionDate ∨ left.sessionDate = right.sessionDate ∧ left.segment < right.segment

section Ranges
variable (fixed : FixedOffsets Zone) {calendar : TradingCalendarProvider Zone} {market : String} {localStart localEnd : Datetime Zone}
include fixed

theorem overlapping_on {date : Int} {location : SessionLocation Zone} :
    location ∈ overlappingOn calendar market localStart localEnd date ↔
      location.sessionDate = date ∧ Shares calendar market localStart.instant localEnd.instant location := by
  unfold overlappingOn
  cases closed : calendar.isHoliday market date with
  | true =>
    simp only [if_true,List.not_mem_nil,false_iff,not_and]
    intro same shares
    have opened := shares.opened
    rw [same,closed] at opened
    cases opened
  | false =>
    simp only [Bool.false_eq_true,if_false,List.mem_map,List.mem_filter,Datetime.lt_instant fixed,Datetime.maximum_instant fixed,
      Datetime.minimum_instant fixed,decide_eq_true_eq]
    constructor
    · rintro ⟨⟨session,segment⟩,⟨member,shared⟩,made⟩
      subst made
      exact ⟨rfl,closed,List.mk_mem_zipIdx_iff_getElem?.mp member,shared⟩
    · rintro ⟨same,shares⟩
      subst same
      exact ⟨(location.session,location.segment),⟨List.mk_mem_zipIdx_iff_getElem?.mpr shares.listed,shares.shared⟩,rfl⟩

theorem overlapping_from {date : Int} {left : Nat} {location : SessionLocation Zone} :
    location ∈ overlappingFrom calendar market localStart localEnd date left ↔
      (date ≤ location.sessionDate ∧ location.sessionDate < date + left) ∧
        Shares calendar market localStart.instant localEnd.instant location := by
  induction left generalizing date with
  | zero =>
    simp only [overlappingFrom,List.not_mem_nil,false_iff,not_and]
    intro between
    omega
  | succ left ih =>
    rw [overlappingFrom,List.mem_append,overlapping_on fixed,ih,← or_and_right]
    refine and_congr_left fun _ => ?_
    push_cast
    omega

omit fixed in
theorem on_before {date : Int} : (overlappingOn calendar market localStart localEnd date).Pairwise SessionLocation.Before := by
  unfold overlappingOn
  split
  · exact .nil
  · rw [List.pairwise_map]
    refine List.Pairwise.filter _ ?_
    rw [List.pairwise_iff_getElem]
    intro i j _ _ less
    simp only [List.getElem_zipIdx]
    exact .inr ⟨rfl,by simpa using less⟩

theorem from_before {date : Int} {left : Nat} :
    (overlappingFrom calendar market localStart localEnd date left).Pairwise SessionLocation.Before := by
  induction left generalizing date with
  | zero => exact .nil
  | succ left ih =>
    rw [overlappingFrom,List.pairwise_append]
    refine ⟨on_before,ih,?_⟩
    intro a inOn b inFrom
    obtain ⟨same,_⟩ := (overlapping_on fixed).mp inOn
    obtain ⟨⟨later,_⟩,_⟩ := (overlapping_from fixed).mp inFrom
    exact .inl (by omega)

-- The range is made of dates and asked of each of them.
theorem requested_exact {start stop : Datetime Zone} {locations : List (SessionLocation Zone)} :
    requestedSessionLocations calendar market start stop = .ok locations ↔
      (blank market = false ∧ Requestable calendar market start stop ∧ start.instant < stop.instant) ∧
        overlappingFrom calendar market (start.astimezone (calendar.marketTimezone market)) (stop.astimezone (calendar.marketTimezone market))
          (start.astimezone (calendar.marketTimezone market)).date ((stop.astimezone (calendar.marketTimezone market)).date + 1 -
            (start.astimezone (calendar.marketTimezone market)).date).toNat = locations := by
  simp only [requestedSessionLocations,requireMarket,bind_ok,raiseIf_ok,astimezone_ok,addDays_ok,pure_ok,and_assoc,exists_and_left,
    exists_eq_left',exists_const,Datetime.le_instant fixed,Datetime.astimezone_instant,decide_eq_false_iff_not,not_le]
  constructor
  · rintro ⟨named,starts,stops,positive,following,made⟩
    exact ⟨named,⟨starts,stops,following⟩,positive,made⟩
  · rintro ⟨named,requestable,positive,made⟩
    exact ⟨named,requestable.starts,requestable.stops,positive,requestable.following,made⟩

theorem requested_members {start stop : Datetime Zone} {locations : List (SessionLocation Zone)}
    (requested : requestedSessionLocations calendar market start stop = .ok locations) :
    (∀ location, location ∈ locations ↔ Overlaps calendar market start stop location) ∧ locations.Pairwise SessionLocation.Before := by
  obtain ⟨_,rfl⟩ := (requested_exact fixed).mp requested
  refine ⟨fun location => ?_,from_before fixed⟩
  rw [overlapping_from fixed,Datetime.astimezone_instant,Datetime.astimezone_instant]
  constructor
  · rintro ⟨dated,shares⟩
    exact ⟨shares.opened,shares.listed,by omega,shares.shared⟩
  · intro overlaps
    have dated := overlaps.dated
    exact ⟨by omega,overlaps.opened,overlaps.listed,overlaps.shared⟩

end Ranges

open Classical in
-- The bars that are located in a session.
noncomputable def sessionBars (calendar : TradingCalendarProvider Zone) (market : String) (bars : List (Bar Zone))
    (location : SessionLocation Zone) : List (Bar Zone) := bars.filter fun bar => Located calendar market bar location

def requiredStart (start : Int) (location : SessionLocation Zone) : Int := max location.session.first start
def requiredEnd (stop : Int) (location : SessionLocation Zone) : Int := min location.session.last stop

-- The bars of a session tile what the range asks of it.
def RangeCovered (calendar : TradingCalendarProvider Zone) (market : String) (bars : List (Bar Zone)) (start stop : Int)
    (location : SessionLocation Zone) : Prop :=
  Covered (sessionBars calendar market bars location) (requiredStart start location) (requiredEnd stop location)

section Scanning
variable (fixed : FixedOffsets Zone) {calendar : TradingCalendarProvider Zone} {market : String} {bars : List (Bar Zone)} {zone : Zone}
  {location : SessionLocation Zone} {required requiredStop : Datetime Zone}
include fixed

-- How far the leading bars of a session reach without a gap.
structure Reaches (bars : List (Bar Zone)) (lo hi reached : Int) : Prop where
  leading : ∃ n, Chained Bar.first Bar.last lo (bars.take n) reached
  within : reached ≤ hi
  longest : ∀ n stop, Chained Bar.first Bar.last lo (bars.take n) stop → stop ≤ hi → stop ≤ reached

theorem session_gap {expected : Datetime Zone} (before : expected.instant ≤ requiredStop.instant) :
    (sessionGap zone location required requiredStop expected bars = none ∧
      Chained Bar.first Bar.last expected.instant bars requiredStop.instant) ∨
    ∃ gap, sessionGap zone location required requiredStop expected bars = some gap ∧
      ¬Chained Bar.first Bar.last expected.instant bars requiredStop.instant ∧ gap.location = location ∧ gap.requiredStart = required ∧
        gap.requiredEnd = requiredStop ∧ Reaches bars expected.instant requiredStop.instant gap.coveredEnd.instant := by
  induction bars generalizing expected with
  | nil =>
    rw [sessionGap,Datetime.same_instant fixed]
    by_cases same : expected.instant = requiredStop.instant
    · exact .inl ⟨if_pos (decide_eq_true same),same⟩
    · refine .inr ⟨_,if_neg (by simpa using same),same,rfl,rfl,rfl,⟨0,rfl⟩,before,?_⟩
      intro n stop chained _
      rw [List.take_nil] at chained
      exact chained.ge
  | cons bar rest ih =>
    have proper := bar_proper fixed bar
    rw [sessionGap,Datetime.same_instant fixed,Datetime.lt_instant fixed,Datetime.astimezone_instant,Datetime.astimezone_instant]
    -- Where the scan stops, no longer run of leading bars follows.
    have stopped : ∀ gap : RequestedCoverageGap Zone, gap.coveredEnd = expected →
        (∀ stop n, Chained Bar.first Bar.last bar.last (rest.take n) stop → bar.first = expected.instant → requiredStop.instant < stop) →
          Reaches (bar :: rest) expected.instant requiredStop.instant gap.coveredEnd.instant := by
      intro gap same beyond
      rw [same]
      refine ⟨⟨0,rfl⟩,before,?_⟩
      intro n stop chained within
      cases n with
      | zero => exact chained.ge
      | succ n => exact absurd (beyond stop n chained.2 chained.1) (not_lt.mpr within)
    by_cases starts : bar.startsAt.instant = expected.instant
    · rw [if_neg (by simpa using starts)]
      by_cases exceeds : requiredStop.instant < bar.endsAt.instant
      · rw [if_pos (decide_eq_true exceeds)]
        refine .inr ⟨_,rfl,fun chained => ?_,rfl,rfl,rfl,stopped _ rfl fun stop n chained _ => ?_⟩
        · exact absurd (chained_order (fun b _ => bar_proper fixed b) chained.2) (not_le.mpr exceeds)
        · exact exceeds.trans_le (chained_order (fun b _ => bar_proper fixed b) chained)
      · rw [if_neg (by simpa using exceeds)]
        have within : (bar.endsAt.astimezone zone).instant ≤ requiredStop.instant := by
          rw [Datetime.astimezone_instant]
          exact not_lt.mp exceeds
        have step := ih within
        rw [Datetime.astimezone_instant] at step
        rcases step with ⟨none,chained⟩ | ⟨gap,found,uncovered,same,start,stop,reaches⟩
        · exact .inl ⟨none,starts,chained⟩
        · refine .inr ⟨gap,found,fun chained => uncovered chained.2,same,start,stop,?_,reaches.within,?_⟩
          · obtain ⟨n,chained⟩ := reaches.leading
            exact ⟨n + 1,starts,chained⟩
          · intro n stop chained within
            cases n with
            | zero =>
              obtain ⟨m,leading⟩ := reaches.leading
              have order := chained_order (fun b _ => bar_proper fixed b) leading
              have equal : expected.instant = stop := chained
              unfold Bar.first Bar.last at proper
              omega
            | succ n => exact reaches.longest n stop chained.2 within
    · rw [if_pos (by simpa using starts)]
      exact .inr ⟨_,rfl,fun chained => starts chained.1,rfl,rfl,rfl,stopped _ rfl fun _ _ _ same => absurd same starts⟩

end Scanning
section Gaps
variable (fixed : FixedOffsets Zone) {calendar : TradingCalendarProvider Zone} {market : String} {bars : List (Bar Zone)}
include fixed

-- The bars that were located with the date and the segment of a listed session.
theorem located_session {located : List (Bar Zone × SessionLocation Zone)} (found : locateBars calendar market bars = .ok located)
    {location : SessionLocation Zone}
    (listed : (calendar.sessionsFor market location.sessionDate)[location.segment]? = some location.session) :
    locatedIn located location = sessionBars calendar market bars location := by
  have each := mapM_exact.mp found
  clear found
  unfold locatedIn sessionBars
  induction each with
  | nil => rfl
  | @cons bar entry rest entries head _ ih =>
    simp only [bind_ok,pure_ok,located_exact fixed] at head
    obtain ⟨own,⟨_,located⟩,rfl⟩ := head
    have same : (own.sessionDate = location.sessionDate ∧ own.segment = location.segment) ↔ Located calendar market bar location := by
      constructor
      · rintro ⟨date,segment⟩
        have session : own.session = location.session := by
          have known := located.listed
          rw [date,segment,listed] at known
          exact (Option.some.inj known).symm
        have whole : own = location := by
          cases own
          cases location
          simp_all
        exact whole ▸ located
      · intro holds
        rw [located_unique located holds]
        exact ⟨rfl,rfl⟩
    by_cases inside : Located calendar market bar location
    · rw [List.filter_cons_of_pos (by simpa using same.mpr inside),List.filter_cons_of_pos (by simpa using inside),List.map_cons,ih]
    · rw [List.filter_cons_of_neg (by simpa using fun date segment => inside (same.mp ⟨date,segment⟩)),
        List.filter_cons_of_neg (by simpa using inside),ih]

theorem bars_located (validated : Validated calendar market bars) : ∃ located, locateBars calendar market bars = .ok located := by
  apply mapM_returns.mpr
  intro bar member
  obtain ⟨location,located⟩ := validated.located bar member
  have found : locateMarketSession calendar market bar = .ok location :=
    (located_exact fixed).mpr ⟨validated.named (List.ne_nil_of_mem member),located⟩
  exact ⟨(bar,location),by rw [found]; rfl⟩

-- The bars of one instrument come in the order of their starts.
theorem session_sorted (validated : Validated calendar market bars) {instrumentId : UUID} (single : ∀ bar ∈ bars, bar.instrumentId = instrumentId)
    (location : SessionLocation Zone) : (sessionBars calendar market bars location).Pairwise (fun a b => a.first ≤ b.first) ∧
      sortBy (fun bar : Bar Zone => bar.startsAt.wall) (sessionBars calendar market bars location) =
        sessionBars calendar market bars location := by
  obtain ⟨zone,ordered⟩ := validated.ordered
  have apart : bars.Pairwise fun a b => a.last ≤ b.first := by
    refine ordered.apart.imp_of_mem ?_
    intro a b left right order
    exact order ((single a left).trans (single b right).symm)
  have rising : (sessionBars calendar market bars location).Pairwise fun a b => a.first ≤ b.first := starts_rising fixed (apart.filter _)
  exact ⟨rising,sortBy_sorted (walls_rising fixed (fun bar member => (ordered.zoned bar (List.mem_filter.mp member).1).1) rising)⟩

end Gaps

-- A session that its bars do not tile, and how far they tile it before the gap.
structure SessionGap (calendar : TradingCalendarProvider Zone) (market : String) (bars : List (Bar Zone)) (start stop : Int)
    (gap : RequestedCoverageGap Zone) : Prop where
  uncovered : ¬RangeCovered calendar market bars start stop gap.location
  starts : gap.requiredStart.instant = requiredStart start gap.location
  ends : gap.requiredEnd.instant = requiredEnd stop gap.location
  leading : ∃ n, Covered ((sessionBars calendar market bars gap.location).take n) (requiredStart start gap.location) gap.coveredEnd.instant
  within : gap.coveredEnd.instant ≤ requiredEnd stop gap.location
  longest : ∀ n reached, Covered ((sessionBars calendar market bars gap.location).take n) (requiredStart start gap.location) reached →
    reached ≤ requiredEnd stop gap.location → reached ≤ gap.coveredEnd.instant

-- The first of a range.
structure FirstGap (calendar : TradingCalendarProvider Zone) (market : String) (bars : List (Bar Zone)) (start stop : Datetime Zone)
    (gap : RequestedCoverageGap Zone) : Prop extends SessionGap calendar market bars start.instant stop.instant gap where
  overlaps : Overlaps calendar market start stop gap.location
  earlier : ∀ location, Overlaps calendar market start stop location → location.Before gap.location →
    RangeCovered calendar market bars start.instant stop.instant location

theorem scan_exact (fixed : FixedOffsets Zone) {calendar : TradingCalendarProvider Zone} {market : String} {zone : Zone}
    {bars : List (Bar Zone)} {start stop : Datetime Zone} {located : List (Bar Zone × SessionLocation Zone)} {location : SessionLocation Zone}
    (session : locatedIn located location = sessionBars calendar market bars location)
    (sorted : (sessionBars calendar market bars location).Pairwise fun a b => a.first ≤ b.first)
    (walls : sortBy (fun bar : Bar Zone => bar.startsAt.wall) (sessionBars calendar market bars location) = sessionBars calendar market bars location)
    (order : requiredStart start.instant location ≤ requiredEnd stop.instant location) :
    (locationGap zone start stop located location = none ∧ RangeCovered calendar market bars start.instant stop.instant location) ∨
      ∃ gap, locationGap zone start stop located location = some gap ∧ gap.location = location ∧
        SessionGap calendar market bars start.instant stop.instant gap := by
  have proper : ∀ items : List (Bar Zone), Proper Bar.first Bar.last items := fun _ bar _ => bar_proper fixed bar
  have exact := tiles_exact (proper (sessionBars calendar market bars location)) sorted order
  have low : (location.session.opensAt.maximum (start.astimezone zone)).instant = requiredStart start.instant location := by
    rw [Datetime.maximum_instant fixed,Datetime.astimezone_instant]
    rfl
  have high : (location.session.closesAt.minimum (stop.astimezone zone)).instant = requiredEnd stop.instant location := by
    rw [Datetime.minimum_instant fixed,Datetime.astimezone_instant]
    rfl
  have before : (location.session.opensAt.maximum (start.astimezone zone)).instant ≤
      (location.session.closesAt.minimum (stop.astimezone zone)).instant := by rwa [low,high]
  unfold locationGap
  rw [session,walls]
  rcases session_gap fixed before with ⟨none,chained⟩ | ⟨gap,found,uncovered,same,starts,stops,reaches⟩
  · rw [low,high] at chained
    exact .inl ⟨none,exact.mpr chained⟩
  · rw [low,high] at uncovered reaches
    obtain ⟨m,leading⟩ := reaches.leading
    have reached := chained_order (proper _) leading
    subst same
    refine .inr ⟨gap,found,rfl,fun covered => uncovered (exact.mp covered),by rw [starts,low],by rw [stops,high],
      ⟨m,chained_tiles (proper _) leading⟩,reaches.within,?_⟩
    intro n other covered within
    rcases le_total (requiredStart start.instant gap.location) other with after | earlier
    · exact reaches.longest n other (tiles_chained (proper _) (sorted.sublist (List.take_sublist ..)) after covered) within
    · exact earlier.trans reached

theorem coverage_exact (fixed : FixedOffsets Zone) {calendar : TradingCalendarProvider Zone} {market : String} (named : blank market = false)
    {bars : List (Bar Zone)} {instrumentId : UUID} (single : ∀ bar ∈ bars, bar.instrumentId = instrumentId)
    {intradayStart intradayEnd : Datetime Zone} (positive : intradayStart.instant < intradayEnd.instant)
    (requestable : Requestable calendar market intradayStart intradayEnd)
    (accepted : validateBarsForCalendar calendar market bars = .ok ()) :
    ∃ result, requestedRangeCoverageGap calendar market intradayStart intradayEnd bars = .ok result ∧
      (result = none ↔ ∀ location, Overlaps calendar market intradayStart intradayEnd location →
        RangeCovered calendar market bars intradayStart.instant intradayEnd.instant location) ∧
      ∀ gap, result = some gap → FirstGap calendar market bars intradayStart intradayEnd gap := by
  have validated := (validated_exact fixed).mp accepted
  have requested := (requested_exact fixed).mpr ⟨⟨named,requestable,positive⟩,rfl⟩
  obtain ⟨members,rising⟩ := requested_members fixed requested
  generalize overlappingFrom calendar market _ _ _ _ = locations at requested members rising
  obtain ⟨located,found⟩ := bars_located fixed validated
  have scanned : ∀ location ∈ locations,
      (locationGap (calendar.marketTimezone market) intradayStart intradayEnd located location = none ∧
        RangeCovered calendar market bars intradayStart.instant intradayEnd.instant location) ∨
      ∃ gap, locationGap (calendar.marketTimezone market) intradayStart intradayEnd located location = some gap ∧
        gap.location = location ∧ SessionGap calendar market bars intradayStart.instant intradayEnd.instant gap := by
    intro location member
    have overlaps := (members location).mp member
    obtain ⟨sorted,walls⟩ := session_sorted fixed validated single location
    exact scan_exact fixed (located_session fixed found overlaps.listed) sorted walls overlaps.shared.le
  have returned : requestedRangeCoverageGap calendar market intradayStart intradayEnd bars =
      .ok (locations.findSome? (locationGap (calendar.marketTimezone market) intradayStart intradayEnd located)) := by
    rw [requestedRangeCoverageGap,accepted,requested,found]
    rfl
  refine ⟨_,returned,?_,?_⟩
  · rw [List.findSome?_eq_none_iff]
    constructor
    · intro none location overlaps
      have member := (members location).mpr overlaps
      rcases scanned location member with ⟨_,covered⟩ | ⟨gap,some,_⟩
      · exact covered
      · exact nomatch (none location member).symm.trans some
    · intro covered location member
      rcases scanned location member with ⟨none,_⟩ | ⟨gap,_,scan⟩
      · exact none
      · exact absurd (scan.1 ▸ covered location ((members location).mp member)) scan.2.uncovered
  · intro gap first
    obtain ⟨before,location,after,split,some,none⟩ := List.findSome?_eq_some_iff.mp first
    have member : location ∈ locations := split ▸ List.mem_append_right before (List.mem_cons_self ..)
    rcases scanned location member with ⟨missing,_⟩ | ⟨gap',same,rfl,scan⟩
    · exact nomatch missing.symm.trans some
    · obtain rfl : gap' = gap := Option.some.inj (same.symm.trans some)
      refine ⟨scan,(members _).mp member,?_⟩
      intro other overlaps earlier
      have place := (members other).mpr overlaps
      rw [split,List.mem_append] at place
      rcases place with inFront | behind
      · rcases scanned other (split ▸ List.mem_append_left _ inFront) with ⟨_,covered⟩ | ⟨_,some,_⟩
        · exact covered
        · exact nomatch (none other inFront).symm.trans some
      · rw [split,List.pairwise_append] at rising
        have notBefore : gap'.location.Before other ∨ other = gap'.location := by
          rcases List.mem_cons.mp behind with same | later
          · exact .inr same
          · exact .inl ((List.pairwise_cons.mp rising.2.1).1 other later)
        unfold SessionLocation.Before at earlier notBefore
        rcases notBefore with later | rfl <;> omega

-- A range is the same range in the market's time, whatever the clocks of its own zone do.
theorem coverage_converted {calendar : TradingCalendarProvider Zone} {market : String} {start stop : Datetime Zone}
    (starts : start.Convertible (calendar.marketTimezone market)) (stops : stop.Convertible (calendar.marketTimezone market))
    (bars : List (Bar Zone)) : requestedRangeCoverageGap calendar market start stop bars =
      requestedRangeCoverageGap calendar market (start.astimezone (calendar.marketTimezone market))
        (stop.astimezone (calendar.marketTimezone market)) bars := by
  have first : ∀ {d : Datetime Zone}, d.Convertible (calendar.marketTimezone market) →
      astimezone d (calendar.marketTimezone market) = .ok (d.astimezone (calendar.marketTimezone market)) :=
    fun converts => (astimezone_ok ..).mpr ⟨converts,rfl⟩
  have again : ∀ d : Datetime Zone, (d.astimezone (calendar.marketTimezone market)).Convertible (calendar.marketTimezone market) :=
    fun d other => absurd (Datetime.astimezone_tzinfo ..) other
  have each : locationGap (calendar.marketTimezone market) (start.astimezone (calendar.marketTimezone market))
      (stop.astimezone (calendar.marketTimezone market)) = locationGap (calendar.marketTimezone market) start stop := by
    funext located location
    simp only [locationGap,Datetime.astimezone_again]
  simp only [requestedRangeCoverageGap,requestedSessionLocations,each,first starts,first stops,first (again start),first (again stop),
    Datetime.astimezone_again]

-- The two bars leave an hour of the morning and the afternoon.
theorem coverage_exact_sample : ∃ result,
    requestedRangeCoverageGap twoSessions "TWSE" (localTime (9 * HOUR)) (localTime (14 * HOUR)) [early,late] = .ok result ∧
      (result = none ↔ ∀ location, Overlaps twoSessions "TWSE" (localTime (9 * HOUR)) (localTime (14 * HOUR)) location →
        RangeCovered twoSessions "TWSE" [early,late] (localTime (9 * HOUR)).instant (localTime (14 * HOUR)).instant location) ∧
      ∀ gap, result = some gap → FirstGap twoSessions "TWSE" [early,late] (localTime (9 * HOUR)) (localTime (14 * HOUR)) gap :=
  coverage_exact offsets_fixed (by decide) (fun bar member => by
    simp only [List.mem_cons,List.not_mem_nil,or_false] at member
    rcases member with rfl | rfl <;> rfl) (by decide) ⟨by decide +kernel,by decide +kernel,by decide +kernel⟩ (by with_unfolding_all rfl)

-- A market that is open from eleven in the evening to one in the morning of the next date.
def overnight : TradingCalendarProvider Offset where
  marketTimezone _ := ⟨8 * HOUR⟩
  isHoliday _ _ := false
  sessionsFor _ date := [marketSession (date * DAY + 23 * HOUR) (date * DAY + 25 * HOUR) (by unfold HOUR; omega)]

def firstNight : SessionLocation Offset := ⟨0,0,pastMidnight⟩

-- A session that opens at a reading which the clocks of New York showed twice, and the bar that fills it.
def repeatedOpen : MarketSession ChangingZone := ⟨autumnTime .newYork HOUR,autumnTime .newYork (2 * HOUR),by decide +kernel⟩

def filling : Bar ChangingZone := autumnBar (autumnTime .taipei (13 * HOUR)) (autumnTime .taipei (15 * HOUR)) (by decide +kernel)

-- Half an hour of Taipei in which the clocks of London went forward, and its halves; the later one has readings that were skipped.
def springTime (zone : ChangingZone) (time : Int) : Datetime ChangingZone := ⟨SPRING_DATE * DAY + time,false,zone⟩

def springSession : MarketSession ChangingZone :=
  ⟨springTime .taipei (9 * HOUR),springTime .taipei (9 * HOUR + HOUR / 2),by decide +kernel⟩

def skipped : Bar ChangingZone := autumnBar (springTime .london (HOUR + HOUR / 4)) (springTime .london (HOUR + HOUR / 2)) (by decide +kernel)
def forward : Bar ChangingZone := autumnBar (springTime .london (2 * HOUR)) (springTime .london (2 * HOUR + HOUR / 4)) (by decide +kernel)

-- A gap is found although the bars were all located in the one session that is asked for, and tile what is asked of it.
def FalseGap (calendar : TradingCalendarProvider ChangingZone) (start stop : Datetime ChangingZone) (bars : List (Bar ChangingZone))
    (location : SessionLocation ChangingZone) : Prop :=
  FixedOffset (calendar.marketTimezone "TWSE") ∧ requestedSessionLocations calendar "TWSE" start stop = .ok [location] ∧
    locateBars calendar "TWSE" bars = .ok (bars.map fun bar => (bar,location)) ∧
    Covered bars (requiredStart start.instant location) (requiredEnd stop.instant location) ∧
    (requestedRangeCoverageGap calendar "TWSE" start stop bars).map Option.isSome = .ok true

theorem halves_tile : Covered [skipped,forward] forward.first skipped.last := by
  have tiled : Covered [forward,skipped] forward.first skipped.last :=
    chained_tiles (show ∀ bar ∈ [forward,skipped], bar.first < bar.last by decide +kernel) (by decide +kernel)
  exact ⟨fun bar member => tiled.inside bar ((List.Perm.swap ..).mem_iff.mp member),
    fun t low high => ((List.Perm.swap ..).countP_eq _).trans (tiled.once t low high)⟩

-- A blank market and the final date raise, a session of the date before is not looked at, and the clocks of bars and sessions may change.
theorem coverage_inexact :
    requestedRangeCoverageGap twoSessions "" (localTime (9 * HOUR)) (localTime (14 * HOUR)) [] =
      .error ⟨.barAggregationInputError,"market must not be blank"⟩ ∧
    requestedRangeCoverageGap finalEvening "TWSE" (finalTime (-8) (9 * HOUR)) (finalTime (-8) (10 * HOUR)) [] = .error outOfRange ∧
    (requestedRangeCoverageGap overnight "TWSE" (localTime (24 * HOUR)) (localTime (25 * HOUR)) [] = .ok none ∧
      Shares overnight "TWSE" (localTime (24 * HOUR)).instant (localTime (25 * HOUR)).instant firstNight ∧
        ¬RangeCovered overnight "TWSE" [] (localTime (24 * HOUR)).instant (localTime (25 * HOUR)).instant firstNight) ∧
    FalseGap (openOnce AUTUMN_DATE repeatedOpen) (autumnTime .taipei (12 * HOUR)) (autumnTime .taipei (16 * HOUR)) [filling]
      ⟨AUTUMN_DATE,0,repeatedOpen⟩ ∧
    FalseGap (openOnce SPRING_DATE springSession) (springTime .taipei (8 * HOUR)) (springTime .taipei (10 * HOUR)) [skipped,forward]
      ⟨SPRING_DATE,0,springSession⟩ := by
  refine ⟨?_,?_,⟨?_,⟨rfl,rfl,by decide +kernel⟩,?_⟩,⟨taipei_fixed,?_,?_,?_,?_⟩,⟨taipei_fixed,?_,?_,halves_tile,?_⟩⟩
  · with_unfolding_all rfl
  · with_unfolding_all rfl
  · with_unfolding_all rfl
  · intro covered
    have once := covered.once (16 * HOUR) (by decide +kernel) (by decide +kernel)
    cases once
  · with_unfolding_all rfl
  · with_unfolding_all rfl
  · exact chained_tiles (show ∀ bar ∈ [filling], bar.first < bar.last by decide +kernel) (by decide +kernel)
  · with_unfolding_all rfl
  · with_unfolding_all rfl
  · with_unfolding_all rfl
  · with_unfolding_all rfl

end SwapMonitor.Indicators
