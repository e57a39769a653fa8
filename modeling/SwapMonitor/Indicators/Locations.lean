import SwapMonitor.Indicators.Bars

namespace SwapMonitor.Indicators
open Clocks

variable {Zone : Type} [DecidableEq Zone] [Tzinfo Zone]

def Bar.first (bar : Bar Zone) : Int := bar.startsAt.instant
def Bar.last (bar : Bar Zone) : Int := bar.endsAt.instant
def MarketSession.first (session : MarketSession Zone) : Int := session.opensAt.instant
def MarketSession.last (session : MarketSession Zone) : Int := session.closesAt.instant

-- What the port documents of the sessions of a market date: they are in order and do not overlap.
def TradingCalendarProvider.Ordered (calendar : TradingCalendarProvider Zone) (market : String) : Prop :=
  ∀ date, (calendar.sessionsFor market date).Pairwise fun a b => a.closesAt.le b.opensAt = true

-- Each session opens on the local date that it is listed under, and closes by the end of it.
def TradingCalendarProvider.Dated (calendar : TradingCalendarProvider Zone) (market : String) : Prop :=
  ∀ date, ∀ session ∈ calendar.sessionsFor market date, (session.opensAt.astimezone (calendar.marketTimezone market)).date = date ∧
    (session.closesAt.astimezone (calendar.marketTimezone market)).wall ≤ (date + 1) * DAY

-- No time is in two sessions, whatever dates they are listed under.
def TradingCalendarProvider.Apart (calendar : TradingCalendarProvider Zone) (market : String) : Prop :=
  ∀ (date date' : Int) (i j : Nat) (a b : MarketSession Zone) (t : Int), (calendar.sessionsFor market date)[i]? = some a →
    (calendar.sessionsFor market date')[j]? = some b → a.first ≤ t ∧ t < a.last → b.first ≤ t ∧ t < b.last → date = date' ∧ i = j ∧ a = b

section Fixed
variable (fixed : FixedOffsets Zone) {calendar : TradingCalendarProvider Zone} {market : String}
include fixed

theorem bar_proper (bar : Bar Zone) : bar.first < bar.last := by
  have after := bar.valid.after
  rw [Datetime.lt_instant fixed] at after
  exact of_decide_eq_true after

theorem holds_exact (session : MarketSession Zone) (bar : Bar Zone) (zone : Zone) :
    session.holds (bar.startsAt.astimezone zone) (bar.endsAt.astimezone zone) = true ↔
      session.first ≤ bar.first ∧ bar.last ≤ session.last := by
  have proper := bar_proper fixed bar
  simp only [MarketSession.holds,Datetime.le_instant fixed,Datetime.lt_instant fixed,Datetime.astimezone_instant,Bool.and_eq_true,
    decide_eq_true_eq]
  unfold Bar.first Bar.last at *
  unfold MarketSession.first MarketSession.last
  constructor
  · intro held
    obtain ⟨⟨begins,_⟩,ends⟩ := held
    exact ⟨begins,ends⟩
  · intro held
    obtain ⟨begins,ends⟩ := held
    exact ⟨⟨begins,proper.trans_le ends⟩,ends⟩

-- A time inside a session is of the date that the session is listed under.
theorem session_date (sessions : calendar.Dated market) {session : MarketSession Zone} {date : Int} {d : Datetime Zone}
    (listed : session ∈ calendar.sessionsFor market date) (zoned : d.tzinfo = calendar.marketTimezone market)
    (begins : session.first ≤ d.instant) (ends : d.instant < session.last) : d.date = date := by
  obtain ⟨opens,closes⟩ := sessions date session listed
  have low : (session.opensAt.astimezone (calendar.marketTimezone market)).wall ≤ d.wall := by
    rw [Datetime.wall_order fixed (by rw [Datetime.astimezone_tzinfo,zoned]),Datetime.astimezone_instant]
    exact begins
  have high : d.wall < (session.closesAt.astimezone (calendar.marketTimezone market)).wall := by
    rw [← not_le,Datetime.wall_order fixed (by rw [Datetime.astimezone_tzinfo,zoned]),Datetime.astimezone_instant,not_le]
    exact ends
  unfold Datetime.date DAY at *
  omega

theorem segments_apart {sessions : List (MarketSession Zone)} (ordered : sessions.Pairwise fun a b => a.closesAt.le b.opensAt = true)
    {i j : Nat} {a b : MarketSession Zone} (left : sessions[i]? = some a) (right : sessions[j]? = some b) (less : i < j) :
    a.last ≤ b.first := by
  obtain ⟨before,rfl⟩ := List.getElem?_eq_some_iff.mp left
  obtain ⟨inside,rfl⟩ := List.getElem?_eq_some_iff.mp right
  have order := List.pairwise_iff_getElem.mp ordered i j before inside less
  rw [Datetime.le_instant fixed] at order
  exact of_decide_eq_true order

theorem sessions_apart (ordered : calendar.Ordered market) (dated : calendar.Dated market) : calendar.Apart market := by
  intro date date' i j a b t left right inA inB
  have reading : ∃ d : Datetime Zone, d.tzinfo = calendar.marketTimezone market ∧ d.instant = t :=
    ⟨⟨_,_,calendar.marketTimezone market⟩,rfl,Tzinfo.exact _ t⟩
  obtain ⟨d,zoned,rfl⟩ := reading
  have one := session_date fixed dated (List.mem_of_getElem? left) zoned inA.1 inA.2
  have two := session_date fixed dated (List.mem_of_getElem? right) zoned inB.1 inB.2
  obtain rfl : date = date' := one.symm.trans two
  refine ⟨rfl,?_⟩
  rcases Nat.lt_trichotomy i j with less | rfl | more
  · have apart := segments_apart fixed (ordered date) left right less
    omega
  · exact ⟨rfl,Option.some.inj (left.symm.trans right)⟩
  · have apart := segments_apart fixed (ordered date) right left more
    omega

end Fixed

-- The first session of the open day of its local start that a bar lies in.
structure Located (calendar : TradingCalendarProvider Zone) (market : String) (bar : Bar Zone) (location : SessionLocation Zone) : Prop where
  convertible : bar.startsAt.Convertible (calendar.marketTimezone market) ∧ bar.endsAt.Convertible (calendar.marketTimezone market)
  dated : (bar.startsAt.astimezone (calendar.marketTimezone market)).date = location.sessionDate
  opened : calendar.isHoliday market location.sessionDate = false
  listed : (calendar.sessionsFor market location.sessionDate)[location.segment]? = some location.session
  begins : location.session.first ≤ bar.first
  ends : bar.last ≤ location.session.last
  earlier : ∀ i < location.segment, ∀ other, (calendar.sessionsFor market location.sessionDate)[i]? = some other →
    ¬(other.first ≤ bar.first ∧ bar.last ≤ other.last)

section Locating
variable (fixed : FixedOffsets Zone) {calendar : TradingCalendarProvider Zone} {market : String} {bar : Bar Zone}
include fixed

omit fixed in
theorem located_unique {left right : SessionLocation Zone} (one : Located calendar market bar left)
    (two : Located calendar market bar right) : left = right := by
  obtain ⟨date,segment,session⟩ := left
  obtain ⟨date',segment',session'⟩ := right
  obtain rfl : date = date' := one.dated.symm.trans two.dated
  have same : segment = segment' := by
    rcases Nat.lt_trichotomy segment segment' with less | same | more
    · exact absurd ⟨one.begins,one.ends⟩ (two.earlier segment less session one.listed)
    · exact same
    · exact absurd ⟨two.begins,two.ends⟩ (one.earlier segment' more session' two.listed)
  subst same
  have sessions := Option.some.inj (one.listed.symm.trans two.listed)
  simp only at sessions
  rw [sessions]

-- The first session that holds a bar.
theorem first_session {sessions : List (MarketSession Zone)} {zone : Zone} {session : MarketSession Zone} {segment : Nat} :
    (sessions.zipIdx.find? fun entry => entry.1.holds (bar.startsAt.astimezone zone) (bar.endsAt.astimezone zone)) =
        some (session,segment) ↔
      sessions[segment]? = some session ∧ (session.first ≤ bar.first ∧ bar.last ≤ session.last) ∧
        ∀ i < segment, ∀ other, sessions[i]? = some other → ¬(other.first ≤ bar.first ∧ bar.last ≤ other.last) := by
  rw [List.find?_eq_some_iff_getElem,holds_exact fixed]
  simp only [List.length_zipIdx,List.getElem_zipIdx,Prod.mk.injEq,Bool.not_eq_true',zero_add]
  constructor
  · intro found
    obtain ⟨held,i,inside,⟨same,rfl⟩,before⟩ := found
    refine ⟨List.getElem?_eq_some_iff.mpr ⟨inside,same⟩,held,fun j less other listed holds => ?_⟩
    obtain ⟨_,own⟩ := List.getElem?_eq_some_iff.mp listed
    have missed := before j less
    rw [own,← Bool.not_eq_true,holds_exact fixed] at missed
    exact missed holds
  · intro held
    obtain ⟨listed,holds,before⟩ := held
    obtain ⟨inside,same⟩ := List.getElem?_eq_some_iff.mp listed
    refine ⟨holds,segment,inside,⟨same,rfl⟩,fun j less => ?_⟩
    rw [← Bool.not_eq_true,holds_exact fixed]
    exact before j less _ (List.getElem?_eq_getElem (less.trans inside))

theorem located_exact {location : SessionLocation Zone} : locateMarketSession calendar market bar = .ok location ↔
    blank market = false ∧ Located calendar market bar location := by
  simp only [locateMarketSession,requireMarket,bind_ok,raiseIf_ok,astimezone_ok,and_assoc,exists_and_left,exists_eq_left',exists_const]
  refine and_congr_right fun _ => ?_
  constructor
  · intro parts
    obtain ⟨starts,stops,opened,_,found⟩ := parts
    split at found
    · rename_i session segment search
      obtain rfl := (pure_ok _ _).mp found
      obtain ⟨listed,⟨begins,ends⟩,earlier⟩ := (first_session fixed).mp search
      exact ⟨⟨starts,stops⟩,rfl,opened,listed,begins,ends,earlier⟩
    · exact ((raise_ok ..).mp found).elim
  · intro located
    rw [located.dated]
    refine ⟨located.convertible.1,located.convertible.2,located.opened,
      by simpa [List.isEmpty_iff] using List.ne_nil_of_mem (List.mem_of_getElem? located.listed),?_⟩
    rw [(first_session fixed).mpr ⟨located.listed,⟨located.begins,located.ends⟩,located.earlier⟩]
    rfl

end Locating

-- One zone, and for each instrument bars that follow one another.
structure Ordered (bars : List (Bar Zone)) (zone : Zone) : Prop where
  zoned : ∀ bar ∈ bars, bar.startsAt.tzinfo = zone ∧ bar.endsAt.tzinfo = zone
  apart : bars.Pairwise fun a b => a.instrumentId = b.instrumentId → a.last ≤ b.first

section Validating
variable (fixed : FixedOffsets Zone) {calendar : TradingCalendarProvider Zone} {market : String}
include fixed

theorem after_exact {bar : Bar Zone} {known : Option (Bar Zone)} :
    validateAfter bar known = .ok () ↔ ∀ before, known = some before → before.last ≤ bar.first := by
  cases known with
  | none => simp [validateAfter]
  | some before =>
    have inner := bar_proper fixed before
    simp only [validateAfter,check_ok,raiseIf_ok,Datetime.lt_instant fixed,decide_eq_false_iff_not,not_lt,Option.some.injEq,forall_eq']
    unfold Bar.first Bar.last at *
    constructor
    · intro held
      obtain ⟨_,apart⟩ := held
      exact apart
    · intro apart
      exact ⟨inner.le.trans apart,apart⟩

theorem following_exact {zone : Zone} {previous : UUID → Option (Bar Zone)} {bars : List (Bar Zone)} :
    validateFollowing zone previous bars = .ok () ↔
      Ordered bars zone ∧ ∀ before bar, bar ∈ bars → previous bar.instrumentId = some before → before.last ≤ bar.first := by
  induction bars generalizing previous with
  | nil =>
    simp only [validateFollowing,pure_ok,true_iff]
    exact ⟨⟨fun _ none => absurd none List.not_mem_nil,.nil⟩,fun _ _ none => absurd none List.not_mem_nil⟩
  | cons bar rest ih =>
    have proper := bar_proper fixed bar
    rw [validateFollowing,check_ok,raiseIf_ok,check_ok,after_exact fixed,ih]
    simp only [Bool.or_eq_false_iff,decide_eq_false_iff_not,ne_eq,not_not]
    constructor
    · intro held
      obtain ⟨zones,own,others,after⟩ := held
      have next : ∀ later ∈ rest, bar.instrumentId = later.instrumentId → bar.last ≤ later.first := by
        intro later member same
        exact after bar later member (by rw [← same,Function.update_self])
      refine ⟨⟨?_,List.pairwise_cons.mpr ⟨next,others.apart⟩⟩,?_⟩
      · intro other member
        rcases List.mem_cons.mp member with rfl | later
        · exact zones
        · exact others.zoned other later
      · intro before other member known
        rcases List.mem_cons.mp member with rfl | later
        · exact own before known
        · by_cases same : bar.instrumentId = other.instrumentId
          · exact (own before (same ▸ known)).trans (proper.le.trans (next other later same))
          · exact after before other later (by rw [Function.update_of_ne (Ne.symm same)]; exact known)
    · intro held
      obtain ⟨ordered,after⟩ := held
      obtain ⟨next,apart⟩ := List.pairwise_cons.mp ordered.apart
      refine ⟨ordered.zoned bar (List.mem_cons_self ..),fun before known => after before bar (List.mem_cons_self ..) known,
        ⟨fun other later => ordered.zoned other (List.mem_cons_of_mem bar later),apart⟩,?_⟩
      intro before other later known
      by_cases same : other.instrumentId = bar.instrumentId
      · rw [same,Function.update_self,Option.some.injEq] at known
        exact known ▸ next other later same.symm
      · rw [Function.update_of_ne same] at known
        exact after before other (List.mem_cons_of_mem bar later) known

theorem source_exact {bars : List (Bar Zone)} {first : Bar Zone} (head : bars.head? = some first) :
    validateSourceBars bars = .ok () ↔ Ordered bars first.startsAt.tzinfo := by
  cases bars with
  | nil => cases head
  | cons bar rest =>
    obtain rfl := Option.some.inj head
    rw [validateSourceBars,following_exact fixed]
    exact and_iff_left fun _ _ _ none => nomatch none

end Validating
end SwapMonitor.Indicators
