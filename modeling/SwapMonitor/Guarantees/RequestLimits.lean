import SwapMonitor.Api.BodyLimit

namespace SwapMonitor.BodyLimit

-- Every Content-Length that can be parsed is within the limit.
def DeclaredWithin (maximum : Nat) (headers : List (Bytes × Bytes)) : Prop :=
  ∀ header ∈ headers, header.1.map lowerByte = utf8 "content-length" → ∀ declared, parseInt header.2 = some declared → declared ≤ maximum

theorem declared_within {maximum : Nat} {headers : List (Bytes × Bytes)} :
    declaredBodyExceedsLimit maximum headers = false ↔ DeclaredWithin maximum headers := by
  simp only [declaredBodyExceedsLimit,List.any_eq_false,DeclaredWithin,Bool.and_eq_true,beq_iff_eq,not_and]
  refine forall₂_congr fun header _ => forall_congr' fun _ => ?_
  cases parsed : parseInt header.2 with
  | none => simp
  | some declared => simp

-- What an application that does not fail is answered with, however its body is cut.
structure Limits (middleware : AdminRequestBodyLimitMiddleware) (scope : Scope) (stream : Stream) : Prop where
  handed : (middleware.call scope stream).bytes ≤ middleware.maximumBodyBytes
  single : ¬(middleware.call scope stream).Fails → (middleware.call scope stream).responses = 1
  transparent : DeclaredWithin middleware.maximumBodyBytes scope.headers →
    ((middleware.app scope).run stream 0).bytes ≤ middleware.maximumBodyBytes →
      middleware.call scope stream = (middleware.app scope).run stream 0
  refused : middleware.maximumBodyBytes < ((middleware.app scope).run stream 0).bytes → ¬(middleware.call scope stream).Fails →
    (middleware.call scope stream).sent = bodyTooLarge
  failing : middleware.maximumBodyBytes < ((middleware.app scope).run stream 0).bytes → (middleware.call scope stream).Fails →
    (middleware.call scope stream).sent = []

namespace Exchange

theorem limit_within {exchange : Exchange} (answered : exchange.outcome ≠ .aborted) : exchange.limit false = exchange := by
  unfold limit
  cases outcome : exchange.outcome with
  | returned => rfl
  | aborted => exact absurd outcome answered
  | failed error => rfl

theorem limit_received (exchange : Exchange) (exceeded : Bool) : (exchange.limit exceeded).received = exchange.received := by
  unfold limit
  split <;> rfl

-- What is sent when the limit was passed and nothing was sent before.
theorem limit_past {exchange : Exchange} (silent : exchange.sent = []) :
    (¬(exchange.limit true).Fails → (exchange.limit true).sent = bodyTooLarge) ∧
      ((exchange.limit true).Fails → (exchange.limit true).sent = []) := by
  unfold limit
  cases outcome : exchange.outcome with
  | failed error => exact ⟨fun returned => absurd ⟨error,outcome⟩ returned,fun _ => silent⟩
  | returned =>
    refine ⟨fun _ => ?_,fun ⟨_,failed⟩ => (nomatch failed)⟩
    simp only [silent,List.nil_append]
  | aborted =>
    refine ⟨fun _ => ?_,fun ⟨_,failed⟩ => (nomatch failed)⟩
    simp only [silent,List.nil_append]

end Exchange

theorem refusal_single {exchange : Exchange} (sent : exchange.sent = bodyTooLarge) : exchange.responses = 1 := by
  rw [Exchange.responses,sent]
  rfl

theorem bodies_limited (middleware : AdminRequestBodyLimitMiddleware) (scope : Scope) (stream : Stream) (http : scope.type = "http")
    (admin : isAdminRunOnceScope scope = true) (answers : (middleware.app scope).Answers false) : Limits middleware scope stream := by
  have guarded : ¬(scope.type ≠ "http" ∨ isAdminRunOnceScope scope = false) := by simp [http,admin]
  cases declared : declaredBodyExceedsLimit middleware.maximumBodyBytes scope.headers with
  | true =>
    have called : middleware.call scope stream = ⟨[],bodyTooLarge,.returned⟩ := by
      rw [AdminRequestBodyLimitMiddleware.call,if_neg guarded,if_pos declared]
    refine ⟨?_,?_,?_,?_,?_⟩ <;> rw [called]
    · exact Nat.zero_le _
    · exact fun _ => rfl
    · intro within
      rw [← declared_within,declared] at within
      cases within
    · exact fun _ _ => rfl
    · intro _ ⟨_,failed⟩
      cases failed
  | false =>
    have called : middleware.call scope stream =
        ((middleware.app scope).limited middleware.maximumBodyBytes stream 0 0 false).1.limit
          ((middleware.app scope).limited middleware.maximumBodyBytes stream 0 0 false).2 := by
      rw [AdminRequestBodyLimitMiddleware.call,if_neg guarded,if_neg (by simp [declared])]
    have handed : (middleware.call scope stream).bytes ≤ middleware.maximumBodyBytes := by
      have bounded : 0 + ((middleware.app scope).limited middleware.maximumBodyBytes stream 0 0 false).1.bytes ≤ middleware.maximumBodyBytes :=
        Application.bytes_bounded (middleware.app scope) 0 (Nat.zero_le middleware.maximumBodyBytes) false
      rw [Nat.zero_add] at bounded
      rw [called,Exchange.bytes,Exchange.limit_received]
      exact bounded
    obtain ⟨answered,once⟩ := Application.answers_run answers stream 0
    by_cases within : ((middleware.app scope).run stream 0).bytes ≤ middleware.maximumBodyBytes
    · have same : (middleware.app scope).limited middleware.maximumBodyBytes stream 0 0 false = ((middleware.app scope).run stream 0,false) :=
        Application.within_unchanged _ 0 0 (by rw [Nat.zero_add]; exact within)
      have unchanged : middleware.call scope stream = (middleware.app scope).run stream 0 := by
        rw [called,same]
        exact Exchange.limit_within answered
      refine ⟨handed,?_,fun _ _ => unchanged,fun past => absurd within (Nat.not_le.mpr past),fun past => absurd within (Nat.not_le.mpr past)⟩
      rw [unchanged]
      exact once
    · have past : middleware.maximumBodyBytes < 0 + ((middleware.app scope).run stream 0).bytes := by
        rw [Nat.zero_add]
        exact Nat.lt_of_not_le within
      obtain ⟨silent,exceeded⟩ := Application.past_silent answers 0 (Nat.zero_le _) past
      rw [exceeded] at called
      obtain ⟨refused,failing⟩ := Exchange.limit_past silent
      rw [← called] at refused failing
      exact ⟨handed,fun returned => refusal_single (refused returned),fun _ under => absurd under within,fun _ => refused,fun _ => failing⟩

-- Receives one message, answers it, and answers an error too; what it raises then is left open.
def answering (last : Application) : Application :=
  .receive fun
    | .ok _ => .send (.start 200 []) (.send (.body (utf8 "ok") false) .finish)
    | .error _ => .send (.start 400 []) (.send (.body (utf8 "bad") false) last)

def sampleMiddleware (last : Application) : AdminRequestBodyLimitMiddleware where
  app _ := answering last
  maximumBodyBytes := 2
  positive := by decide

def sampleScope : Scope where
  type := "http"
  path := some ADMIN_RUN_ONCE_PATH
  headers := []

-- One chunk of three bytes.
def sampleStream : Stream
  | 0 => .request (some [1,2,3]) false
  | _ => .other "http.disconnect"

theorem bodies_limited_sample : Limits (sampleMiddleware .finish) sampleScope sampleStream ∧
    (sampleMiddleware .finish).maximumBodyBytes < ((answering .finish).run sampleStream 0).bytes :=
  ⟨bodies_limited _ _ _ rfl rfl ⟨fun _ => trivial,trivial⟩,by decide⟩

-- An application that catches the abort, sends a response of its own and then fails: the client is sent nothing.
theorem failure_passed : ¬∀ (middleware : AdminRequestBodyLimitMiddleware) (scope : Scope) (stream : Stream), scope.type = "http" →
    isAdminRunOnceScope scope = true → (middleware.app scope).Answers false →
      (middleware.call scope stream).responses = 1 ∧
        (middleware.maximumBodyBytes < ((middleware.app scope).run stream 0).bytes →
          (middleware.call scope stream).sent = bodyTooLarge) := by
  intro claimed
  have once := (claimed (sampleMiddleware (.fail ⟨.operationFailed "RuntimeError",""⟩)) sampleScope sampleStream rfl rfl
    ⟨fun _ => trivial,trivial⟩).1
  exact absurd once (by decide)

end SwapMonitor.BodyLimit
