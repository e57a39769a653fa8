import SwapMonitor.Scoring.Dominance
import SwapMonitor.Domain.TextForms

namespace SwapMonitor.Scoring
open Collections Exceptions

def CandidateScore.points (candidate : CandidateScore) : ℚ := (candidate.score.getD (.ofNat 0)).toRat

-- By falling score, and then by the text of the instrument id.
def position (candidate : CandidateScore) : ℚ ×ₗ String := toLex (-candidate.points,uuidText candidate.instrument)

def ScoringResult.ranked (result : ScoringResult) : List CandidateScore := result.candidates.filter CandidateScore.isRanked

def ScoringResult.others (result : ScoringResult) : List CandidateScore := result.candidates.filter fun candidate => !candidate.isRanked

theorem texts_apart {u v : UUID} (left : u < 2 ^ 128) (right : v < 2 ^ 128) (same : uuidText u = uuidText v) : u = v := by
  have restored := uuid_restored left
  rw [same,uuid_restored right] at restored
  exact (Option.some.inj restored).symm

-- A ranked candidate whose score the fixed context holds.
structure CandidateScore.Rankable (candidate : CandidateScore) : Prop where
  ranked : candidate.status = .ranked
  held : DecimalContext.default.Holds candidate.points

theorem placed_returns {candidate : CandidateScore} (ranked : candidate.status = .ranked) (key : Decimal) {place : Nat} (positive : 0 < place) :
    ∃ given, placed ((key,candidate),place) = .ok given := by
  have accepted := candidate.accepted
  simp only [ScoreFields.postInit,check_ok,raiseIf_ok,ranked,Bool.or_eq_false_iff] at accepted
  have passes : ScoreFields.postInit ⟨candidate.instrument,candidate.status,candidate.score,some place,candidate.factorContributions⟩ = .ok () := by
    simp only [ScoreFields.postInit,check_ok,raiseIf_ok,ranked,Bool.or_eq_false_iff]
    exact ⟨accepted.1,accepted.2.1,by simpa using positive.ne'⟩
  exact ⟨_,build_accepted passes⟩

-- The fixed context is wide enough to negate a score it made, so the caller's default context sorts by the scores.
theorem ranking_exact {candidates : List CandidateScore} (policy : TieBreakPolicy) (each : ∀ candidate ∈ candidates, candidate.Rankable) :
    ∃ ranking, rank .default candidates policy = .ok ranking ∧
      List.Forall₂ (fun entry given => entry.1.ranks entry.2 given) ((sortBy position candidates).zipIdx 1) ranking := by
  cases policy
  obtain ⟨keyed,keys⟩ : ∃ keyed, candidates.mapM (negated .default) = .ok keyed := by
    rw [mapM_returns]
    intro candidate member
    obtain ⟨key,turned,_⟩ := minus_held (each candidate member).held
    exact ⟨(key,candidate),by rw [negated,turned]; rfl⟩
  have related : List.Forall₂ (fun (candidate : CandidateScore) (entry : Decimal × CandidateScore) =>
      entry.2 = candidate ∧ position candidate = sortKey entry) candidates keyed := by
    refine forall₂_member (mapM_exact.mp keys) ?_
    intro candidate member entry made
    simp only [negated,bind_ok,pure_ok] at made
    obtain ⟨key,turned,rfl⟩ := made
    obtain ⟨other,turns,value⟩ := minus_held (each candidate member).held
    obtain rfl : other = key := Except.ok.inj (turns.symm.trans turned)
    exact ⟨rfl,by rw [position,sortKey,value]; rfl⟩
  have sorted : List.Forall₂ _ (sortBy position candidates) (sortBy sortKey keyed) := sortBy_related (fun _ _ same => same.2) related
  have order : (sortBy sortKey keyed).map Prod.snd = sortBy position candidates := by
    generalize sortBy sortKey keyed = entries at sorted
    generalize sortBy position candidates = places at sorted
    induction sorted with
    | nil => rfl
    | cons head _ ih => rw [List.map_cons,head.1,ih]
  obtain ⟨ranking,given⟩ : ∃ ranking, ((sortBy sortKey keyed).zipIdx 1).mapM placed = .ok ranking := by
    rw [mapM_returns]
    rintro ⟨⟨key,candidate⟩,place⟩ member
    have index := List.le_snd_of_mem_zipIdx member
    have inside : candidate ∈ sortBy position candidates := by
      rw [← order]
      exact List.mem_map_of_mem (List.fst_mem_of_mem_zipIdx member)
    exact placed_returns (each candidate (mem_sortBy.mp inside)).ranked key index
  refine ⟨ranking,by rw [rank,keys]; exact given,?_⟩
  have pairs : (sortBy position candidates).zipIdx 1 = ((sortBy sortKey keyed).zipIdx 1).map (Prod.map Prod.snd id) := by
    rw [← order,List.zipIdx_map]
  rw [pairs,List.forall₂_map_left_iff]
  refine (mapM_exact.mp given).imp ?_
  intro entry made created
  obtain ⟨_,rfl⟩ := build_exact.mp created
  rfl

-- What a rank leaves of a candidate.
theorem ranking_kept {places ranking : List CandidateScore} {n : Nat}
    (given : List.Forall₂ (fun entry given => entry.1.ranks entry.2 given) (places.zipIdx n) ranking) :
    List.Forall₂ (fun place given : CandidateScore => given.instrument = place.instrument ∧ given.status = place.status ∧
      given.score = place.score) places ranking ∧
    ranking.map (fun given => given.rank) = (List.range' n places.length).map some := by
  induction places generalizing n ranking with
  | nil =>
    cases given
    exact ⟨.nil,rfl⟩
  | cons place rest ih =>
    rw [List.zipIdx_cons] at given
    cases given with
    | cons head tail =>
      obtain ⟨kept,ranks⟩ := ih tail
      unfold CandidateScore.ranks at head
      refine ⟨.cons ⟨by rw [head],by rw [head],by rw [head]⟩ kept,?_⟩
      rw [List.map_cons,ranks,head]
      rfl

section Results
variable {context : DecimalContext} {request : ScoringRequest} {outcomes : List CandidateScore}

theorem outcomes_made (made : request.candidates.mapM (scoreCandidate context request) = .ok outcomes) :
    List.Forall₂ (Outcome context request) request.candidates outcomes := (mapM_exact.mp made).imp fun _ _ => outcome_exact

theorem outcomes_rankable (made : request.candidates.mapM (scoreCandidate .default request) = .ok outcomes) :
    ∀ outcome ∈ outcomes.filter CandidateScore.isRanked, outcome.Rankable := by
  intro outcome member
  obtain ⟨place,ranked⟩ := List.mem_filter.mp member
  obtain ⟨candidate,_,own⟩ := forall₂_left (outcomes_made made).flip outcome place
  obtain ⟨total,scored,held⟩ := score_held own (of_decide_eq_true ranked)
  exact ⟨of_decide_eq_true ranked,by rwa [CandidateScore.points,scored]⟩

theorem outcome_instruments (made : request.candidates.mapM (scoreCandidate context request) = .ok outcomes) :
    outcomes.map (fun outcome => outcome.instrument) = request.candidates.map fun candidate => candidate.instrument := by
  have each := outcomes_made made
  clear made
  generalize request.candidates = candidates at each
  induction each with
  | nil => rfl
  | cons head _ ih => rw [List.map_cons,List.map_cons,head.instrument,ih]

-- The ranked candidates by position, and the others in the order they came in.
structure Made (outcomes : List CandidateScore) (result : ScoringResult) (ranking : List CandidateScore) : Prop where
  given : List.Forall₂ (fun entry given => entry.1.ranks entry.2 given) ((sortBy position (outcomes.filter CandidateScore.isRanked)).zipIdx 1) ranking
  candidates : result.candidates = ranking ++ outcomes.filter fun outcome => !outcome.isRanked
  ranked : result.ranked = ranking

theorem score_exact (made : request.candidates.mapM (scoreCandidate .default request) = .ok outcomes) :
    ∃ result ranking, score .default request = .ok result ∧ Made outcomes result ranking := by
  obtain ⟨ranking,ranked,given⟩ := ranking_exact request.configuration.tieBreaker (outcomes_rankable made)
  obtain ⟨kept,_⟩ := ranking_kept given
  have all : ∀ given ∈ ranking, given.isRanked = true := by
    intro given member
    obtain ⟨place,inside,_,status,_⟩ := forall₂_left kept.flip given member
    exact decide_eq_true (status.trans (outcomes_rankable made place (mem_sortBy.mp inside)).ranked)
  have none : ∀ outcome ∈ outcomes.filter (fun outcome => !outcome.isRanked), ¬outcome.isRanked = true := by
    intro outcome member
    simpa using (List.mem_filter.mp member).2
  have passes : ResultFields.postInit ⟨ranking ++ outcomes.filter fun outcome => !outcome.isRanked,request.configuration.tieBreaker,
      !ranking.isEmpty⟩ = .ok () := by
    simp only [ResultFields.postInit,check_ok,raiseIf_ok,bne_eq_false_iff_eq]
    constructor
    · rw [List.isEmpty_eq_false_iff]
      intro empty
      obtain ⟨front,back⟩ := List.append_eq_nil_iff.mp empty
      have accepted := request.accepted
      simp only [requireCandidates,check_ok,raiseIf_ok,List.isEmpty_eq_false_iff] at accepted
      obtain ⟨candidate,member⟩ := List.exists_mem_of_ne_nil _ accepted.1
      obtain ⟨outcome,place,_⟩ := forall₂_left (outcomes_made made) candidate member
      cases status : outcome.isRanked with
      | true =>
        have inside : outcome ∈ sortBy position (outcomes.filter CandidateScore.isRanked) := mem_sortBy.mpr (List.mem_filter.mpr ⟨place,status⟩)
        obtain ⟨given,member,_⟩ := forall₂_left kept outcome inside
        rw [front] at member
        exact absurd member List.not_mem_nil
      | false =>
        have inside : outcome ∈ outcomes.filter fun outcome => !outcome.isRanked := List.mem_filter.mpr ⟨place,by rw [status]; rfl⟩
        rw [back] at inside
        exact absurd inside List.not_mem_nil
    · rw [List.any_append,Bool.eq_iff_iff]
      simp only [Bool.not_eq_true',List.isEmpty_eq_false_iff,Bool.or_eq_true,List.any_eq_true]
      constructor
      · intro some
        obtain ⟨given,member⟩ := List.exists_mem_of_ne_nil _ some
        exact .inl ⟨given,member,all given member⟩
      · intro found
        rcases found with ⟨given,member,_⟩ | ⟨outcome,member,ranked⟩
        · exact List.ne_nil_of_mem member
        · exact absurd ranked (none outcome member)
  refine ⟨⟨_,passes⟩,ranking,?_,given,rfl,?_⟩
  · rw [score,made]
    simp only [Bind.bind,Except.bind,ranked]
    exact build_accepted passes
  · rw [ScoringResult.ranked,List.filter_append,List.filter_eq_self.mpr all,List.filter_eq_nil_iff.mpr none,List.append_nil]

theorem instruments_distinct (request : ScoringRequest) : (request.candidates.map fun candidate => candidate.instrument).Nodup := by
  have accepted := request.accepted
  simp only [requireCandidates,check_ok,raiseIf_ok] at accepted
  simpa using accepted.2

theorem outcomes_distinct (made : request.candidates.mapM (scoreCandidate context request) = .ok outcomes) :
    (outcomes.map fun outcome => outcome.instrument).Nodup := by
  rw [outcome_instruments made]
  exact instruments_distinct request

-- The text of its instrument tells an outcome from the others.
theorem outcome_named (made : request.candidates.mapM (scoreCandidate context request) = .ok outcomes) {a b : CandidateScore}
    (left : a ∈ outcomes) (right : b ∈ outcomes) (same : uuidText a.instrument = uuidText b.instrument) : a = b := by
  have room : ∀ outcome ∈ outcomes, outcome.instrument < 2 ^ 128 := by
    intro outcome member
    obtain ⟨candidate,place,own⟩ := forall₂_left (outcomes_made made).flip outcome member
    rw [own.instrument]
    exact request.room candidate place
  exact List.inj_on_of_nodup_map (outcomes_distinct made) left right (texts_apart (room a left) (room b right) same)

theorem positions_apart (made : request.candidates.mapM (scoreCandidate context request) = .ok outcomes) :
    ((outcomes.filter CandidateScore.isRanked).map position).Nodup := by
  refine List.Nodup.map_on ?_ ((outcomes_distinct made).of_map.filter _)
  intro a left b right same
  rw [position,position] at same
  have texts := (Prod.mk.inj (toLex_inj.mp same)).2
  exact outcome_named made (List.mem_filter.mp left).1 (List.mem_filter.mp right).1 texts

end Results

-- A request with the same candidates in another order.
structure Reordered (request' request : ScoringRequest) : Prop where
  plan : request'.plan = request.plan
  candidateGroup : request'.candidateGroup = request.candidateGroup
  portfolioOwnerId : request'.portfolioOwnerId = request.portfolioOwnerId
  configuration : request'.configuration = request.configuration
  candidates : request'.candidates.Perm request.candidates

-- A candidate comes before another unless the other has as many points and the lesser id.
def Precedes (a b : CandidateScore) : Prop := ∃ i j, a.rank = some i ∧ b.rank = some j ∧
  (i < j ∨ a.points = b.points ∧ uuidText b.instrument < uuidText a.instrument)

structure Ranking (request : ScoringRequest) (result : ScoringResult) : Prop where
  each : (result.candidates.map fun outcome => outcome.instrument).Perm (request.candidates.map fun candidate => candidate.instrument)
  first : result.candidates = result.ranked ++ result.others
  ranks : result.ranked.map (fun outcome => outcome.rank) = (List.range' 1 result.ranked.length).map some
  ordered : result.ranked.Pairwise fun a b =>
    b.points < a.points ∨ a.points = b.points ∧ uuidText a.instrument < uuidText b.instrument
  reordered : ∀ request', Reordered request' request → ∃ result', score .default request' = .ok result' ∧ result'.ranked = result.ranked
  dominance : ∀ A ∈ request.candidates, ∀ B ∈ request.candidates, A.instrument ≠ B.instrument → Dominates request.configuration A B →
    ∀ a ∈ result.ranked, ∀ b ∈ result.ranked, a.instrument = A.instrument → b.instrument = B.instrument →
      b.points ≤ a.points ∧ Precedes a b

section Ranked
variable {request : ScoringRequest} {outcomes ranking : List CandidateScore} {result : ScoringResult}

theorem ranking_positions {places : List CandidateScore}
    (given : List.Forall₂ (fun entry given => entry.1.ranks entry.2 given) (places.zipIdx 1) ranking) :
    ranking.map position = places.map position ∧
      ranking.map (fun outcome => outcome.instrument) = places.map fun outcome => outcome.instrument := by
  have kept := (ranking_kept given).1
  clear given
  induction kept with
  | nil => exact ⟨rfl,rfl⟩
  | @cons place given places ranking head _ ih =>
    obtain ⟨instrument,_,scored⟩ := head
    have same : position given = position place := by rw [position,position,CandidateScore.points,CandidateScore.points,instrument,scored]
    exact ⟨by rw [List.map_cons,List.map_cons,ih.1,same],by rw [List.map_cons,List.map_cons,ih.2,instrument]⟩

theorem ranking_ordered (made : request.candidates.mapM (scoreCandidate .default request) = .ok outcomes) (built : Made outcomes result ranking) :
    ranking.Pairwise fun a b => b.points < a.points ∨ a.points = b.points ∧ uuidText a.instrument < uuidText b.instrument := by
  obtain ⟨positions,_⟩ := ranking_positions built.given
  have distinct := (((sortBy_perm position (outcomes.filter CandidateScore.isRanked)).map position).nodup_iff).mpr (positions_apart made)
  have rising : (ranking.map position).Pairwise (· < ·) := by
    have weak : ((sortBy position (outcomes.filter CandidateScore.isRanked)).map position).Pairwise (· ≤ ·) :=
      List.pairwise_map.mpr (sortBy_ordered position _)
    rw [positions]
    exact (weak.and distinct).imp fun ⟨order,apart⟩ => lt_of_le_of_ne order apart
  rw [List.pairwise_map] at rising
  refine rising.imp ?_
  intro a b order
  rw [position,position,Prod.Lex.toLex_lt_toLex] at order
  rcases order with less | ⟨same,texts⟩
  · exact .inl (neg_lt_neg_iff.mp less)
  · exact .inr ⟨neg_injective same,texts⟩

-- A ranked candidate with the outcome its rank was given to.
theorem ranking_origin (made : request.candidates.mapM (scoreCandidate .default request) = .ok outcomes) (built : Made outcomes result ranking)
    {given : CandidateScore} (member : given ∈ ranking) : ∃ candidate ∈ request.candidates, ∃ outcome, Outcome .default request candidate outcome ∧
      outcome.status = .ranked ∧ given.instrument = candidate.instrument ∧ given.score = outcome.score := by
  obtain ⟨kept,_⟩ := ranking_kept built.given
  obtain ⟨outcome,place,instrument,_,scored⟩ := forall₂_left kept.flip given member
  obtain ⟨inside,ranked⟩ := List.mem_filter.mp (mem_sortBy.mp place)
  obtain ⟨candidate,among,own⟩ := forall₂_left (outcomes_made made).flip outcome inside
  exact ⟨candidate,among,outcome,own,of_decide_eq_true ranked,instrument.trans own.instrument,scored⟩

theorem ranking_dominance (made : request.candidates.mapM (scoreCandidate .default request) = .ok outcomes) (built : Made outcomes result ranking)
    {A B : CandidateMetrics} (inA : A ∈ request.candidates) (inB : B ∈ request.candidates) (dominates : Dominates request.configuration A B)
    {a b : CandidateScore} (left : a ∈ ranking) (right : b ∈ ranking) (ownA : a.instrument = A.instrument) (ownB : b.instrument = B.instrument) :
    b.points ≤ a.points := by
  obtain ⟨A',among,outcome,one,ranked,instrument,scored⟩ := ranking_origin made built left
  obtain ⟨B',among',outcome',two,ranked',instrument',scored'⟩ := ranking_origin made built right
  obtain rfl : A = A' := List.inj_on_of_nodup_map (instruments_distinct request) inA among (ownA.symm.trans instrument)
  obtain rfl : B = B' := List.inj_on_of_nodup_map (instruments_distinct request) inB among' (ownB.symm.trans instrument')
  obtain ⟨total,some,_⟩ := score_held one ranked
  obtain ⟨total',some',_⟩ := score_held two ranked'
  rw [CandidateScore.points,CandidateScore.points,scored,scored',some,some']
  exact score_mono dominates one two ranked ranked' some some'

-- Who has no fewer points precedes, unless it is a tie.
theorem ranking_precedes (ordered : ranking.Pairwise fun a b => b.points < a.points ∨ a.points = b.points ∧ uuidText a.instrument < uuidText b.instrument)
    (ranks : ranking.map (fun outcome => outcome.rank) = (List.range' 1 ranking.length).map some) {a b : CandidateScore} (left : a ∈ ranking)
    (right : b ∈ ranking) (apart : a.instrument ≠ b.instrument) (order : b.points ≤ a.points) : Precedes a b := by
  obtain ⟨i,inI,rfl⟩ := List.getElem_of_mem left
  obtain ⟨j,inJ,rfl⟩ := List.getElem_of_mem right
  have placed : ∀ k (inside : k < ranking.length), ranking[k].rank = some (1 + k) := by
    intro k inside
    have entry := congrArg (fun ranks => ranks[k]?) ranks
    simpa [inside] using entry
  refine ⟨1 + i,1 + j,placed i inI,placed j inJ,?_⟩
  rcases lt_trichotomy i j with less | rfl | more
  · exact .inl (by omega)
  · exact absurd rfl apart
  · rcases List.pairwise_iff_getElem.mp ordered j i inJ inI more with worse | ⟨same,texts⟩
    · exact absurd worse (not_lt.mpr order)
    · exact .inr ⟨same.symm,texts⟩

theorem reordered_made {request' : ScoringRequest} (reordered : Reordered request' request)
    (made : request.candidates.mapM (scoreCandidate .default request) = .ok outcomes) :
    ∃ outcomes', request'.candidates.mapM (scoreCandidate .default request') = .ok outcomes' ∧ outcomes'.Perm outcomes := by
  have same : scoreCandidate .default request' = scoreCandidate .default request := by
    funext candidate
    simp only [scoreCandidate,reordered.plan,reordered.candidateGroup,reordered.portfolioOwnerId,reordered.configuration]
  obtain ⟨outcomes',each,order⟩ := List.perm_comp_forall₂ reordered.candidates (mapM_exact.mp made)
  exact ⟨outcomes',by rw [same]; exact mapM_exact.mpr each,order⟩

theorem ranking_unique {places ranking ranking' : List CandidateScore} {n : Nat}
    (one : List.Forall₂ (fun entry given => entry.1.ranks entry.2 given) (places.zipIdx n) ranking)
    (two : List.Forall₂ (fun entry given => entry.1.ranks entry.2 given) (places.zipIdx n) ranking') : ranking = ranking' := by
  have same : List.Forall₂ (fun given given' => given = given') ranking ranking' := by
    refine forall₂_common one two ?_
    intro entry given given' left right
    obtain ⟨fields,_⟩ := given
    obtain ⟨fields',_⟩ := given'
    obtain rfl : fields = fields' := left.trans right.symm
    rfl
  exact List.forall₂_eq_eq_eq ▸ same

end Ranked

theorem score_ranks {request : ScoringRequest} {result : ScoringResult} (returned : score .default request = .ok result) :
    Ranking request result := by
  obtain ⟨outcomes,made,_⟩ := bind_ok.mp returned
  obtain ⟨built,ranking,scored,parts⟩ := score_exact made
  obtain rfl : built = result := Except.ok.inj (scored.symm.trans returned)
  obtain rfl := parts.ranked
  have ordered := ranking_ordered made parts
  obtain ⟨_,instruments⟩ := ranking_positions parts.given
  obtain ⟨kept,ranks⟩ := ranking_kept parts.given
  rw [kept.length_eq] at ranks
  refine ⟨?_,?_,ranks,ordered,?_,?_⟩
  · rw [parts.candidates,List.map_append,instruments,← outcome_instruments made]
    refine List.Perm.trans (((sortBy_perm position _).map _).append_right _) ?_
    rw [← List.map_append]
    exact (List.filter_append_perm CandidateScore.isRanked outcomes).map _
  · have others : built.others = outcomes.filter fun outcome => !outcome.isRanked := by
      have none : built.ranked.filter (fun outcome => !outcome.isRanked) = [] := by
        rw [List.filter_eq_nil_iff]
        intro given member
        simpa using (List.mem_filter.mp member).2
      rw [ScoringResult.others,parts.candidates,List.filter_append,none,List.nil_append,List.filter_filter]
      simp
    rw [others]
    exact parts.candidates
  · intro request' reordered
    obtain ⟨outcomes',made',perm⟩ := reordered_made reordered made
    obtain ⟨result',ranking',scored',parts'⟩ := score_exact made'
    refine ⟨result',scored',?_⟩
    rw [parts'.ranked]
    have same := sortBy_same (positions_apart made') (perm.filter CandidateScore.isRanked)
    have given' := parts'.given
    rw [same] at given'
    exact ranking_unique given' parts.given
  · intro A inA B inB apart dominates a left b right ownA ownB
    have order := ranking_dominance made parts inA inB dominates left right ownA ownB
    exact ⟨order,ranking_precedes ordered ranks left right (by rwa [ownA,ownB]) order⟩

def sampleGroup : CandidateGroup := ⟨3,5,[10,11],0,by decide⟩

def strength : FactorConfiguration := ⟨"strength",.ofNat 2,.higherIsBetter,⟨.ofNat 0,.ofNat 10,by decide +kernel⟩,by decide +kernel⟩
def cost : FactorConfiguration := ⟨"cost",.ofNat 3,.lowerIsBetter,⟨.ofNat 0,.ofNat 10,by decide +kernel⟩,by decide +kernel⟩

def sampleConfiguration : ScoringConfiguration := ⟨[strength,cost],.instrumentIdAscending,by decide⟩

def sampleMetrics (instrument strength cost : Nat) : CandidateMetrics :=
  ⟨instrument,[("strength",.decimal (.ofNat strength)),("cost",.decimal (.ofNat cost))]⟩

-- Two candidates of which the second is better on one factor and as good on the other.
def duel : ScoringRequest := ⟨samplePlan,sampleGroup,5,sampleConfiguration,[sampleMetrics 10 7 2,sampleMetrics 11 8 2],by decide,by decide⟩

theorem duel_scored : ∃ result, score .default duel = .ok result := by
  have returns : (score .default duel).toBool = true := by with_unfolding_all rfl
  cases scored : score .default duel with
  | ok result => exact ⟨result,rfl⟩
  | error error =>
    rw [scored] at returns
    cases returns

theorem score_ranks_sample : ∃ result, score .default duel = .ok result ∧ Ranking duel result := by
  obtain ⟨result,scored⟩ := duel_scored
  exact ⟨result,scored,score_ranks scored⟩

end SwapMonitor.Scoring
