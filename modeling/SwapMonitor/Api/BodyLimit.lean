import SwapMonitor.Domain.Errors
import Mathlib.Algebra.BigOperators.Group.List.Basic
import Mathlib.Algebra.GroupWithZero.Nat
import Mathlib.Tactic.Common

namespace SwapMonitor.BodyLimit

abbrev Bytes := List UInt8

def utf8 (text : String) : Bytes := text.toUTF8.data.toList

-- An ASGI message a server hands above; of a type that is no http.request only the type is read.
inductive Message where
  | request (body : Option Bytes) (moreBody : Bool)
  | other (type : String)

-- len(message.get("body", b"")) of an http.request.
def Message.size : Message → Nat
  | .request body _ => (body.getD []).length
  | .other _ => 0

def Message.isRequest : Message → Bool
  | .request _ _ => true
  | .other _ => false

-- An ASGI message of a response.
inductive Response where
  | start (status : Nat) (headers : List (Bytes × Bytes))
  | body (body : Bytes) (moreBody : Bool)

def Response.starts : Response → Bool
  | .start _ _ => true
  | .body _ _ => false

-- What an application does next: it awaits receive, which hands a message above or raises _RequestBodyTooLarge, awaits send,
-- returns, raises _RequestBodyTooLarge again, or raises another exception.
inductive Application where
  | receive (next : Except Unit Message → Application)
  | send (message : Response) (next : Application)
  | finish
  | abort
  | fail (error : PyError)

inductive Outcome where
  | returned
  | aborted
  | failed (error : PyError)

-- What an application was handed and what was sent to the client, in order, and how it ended.
structure Exchange where
  received : List Message
  sent : List Response
  outcome : Outcome

namespace Exchange

def hand (message : Message) (rest : Exchange) : Exchange := {rest with received := message :: rest.received}
def pass (message : Response) (rest : Exchange) : Exchange := {rest with sent := message :: rest.sent}

def bytes (exchange : Exchange) : Nat := (exchange.received.map Message.size).sum

def responses (exchange : Exchange) : Nat := exchange.sent.countP Response.starts

def Fails (exchange : Exchange) : Prop := ∃ error, exchange.outcome = .failed error

end Exchange

-- The messages of the server from one on, of which there always is a next one: after the body it is http.disconnect.
abbrev Stream := Nat → Message

-- await app(scope, receive, send)
def Application.run (stream : Stream) : Application → Nat → Exchange
  | .receive next,n => ((next (.ok (stream n))).run stream (n + 1)).hand (stream n)
  | .send message next,n => (next.run stream n).pass message
  | .finish,_ => ⟨[],[],.returned⟩
  | .abort,_ => ⟨[],[],.aborted⟩
  | .fail error,_ => ⟨[],[],.failed error⟩

-- await self.app(scope, limited_receive, limited_send), and body_limit_exceeded after it.
def Application.limited (maximum : Nat) (stream : Stream) : Application → Nat → Nat → Bool → Exchange × Bool
  | .receive next,n,observed,exceeded =>
    let observed := observed + (stream n).size
    if (stream n).isRequest ∧ maximum < observed then (next (.error ())).limited maximum stream (n + 1) observed true
    else
      let (rest,exceeded) := (next (.ok (stream n))).limited maximum stream (n + 1) observed exceeded
      (rest.hand (stream n),exceeded)
  | .send message next,n,observed,exceeded =>
    let (rest,exceeded') := next.limited maximum stream n observed exceeded
    (if exceeded then rest else rest.pass message,exceeded')
  | .finish,_,_,exceeded => (⟨[],[],.returned⟩,exceeded)
  | .abort,_,_,exceeded => (⟨[],[],.aborted⟩,exceeded)
  | .fail error,_,_,exceeded => (⟨[],[],.failed error⟩,exceeded)

structure Scope where
  type : String
  -- None where scope holds no text.
  path : Option String
  rootPath : Option String := some ""
  headers : List (Bytes × Bytes)

def ADMIN_RUN_ONCE_PATH : String := "/admin/run-once"

-- _is_admin_run_once_scope
def isAdminRunOnceScope (scope : Scope) : Bool :=
  match scope.path,scope.rootPath with
  | some path,some rootPath =>
    let normalizedRootPath := (rootPath.toList.reverse.dropWhile (· == '/')).reverse
    path == ADMIN_RUN_ONCE_PATH ||
      (!normalizedRootPath.isEmpty && (normalizedRootPath ++ ['/']).isPrefixOf path.toList &&
        path.toList.drop normalizedRootPath.length == ADMIN_RUN_ONCE_PATH.toList)
  | _,_ => false

-- bytes.lower()
def lowerByte (byte : UInt8) : UInt8 := if 65 ≤ byte ∧ byte ≤ 90 then byte + 32 else byte

def isSpaceByte (byte : UInt8) : Bool := byte == 32 || (9 ≤ byte && byte ≤ 13)

-- Digits with single underscores between them, after a value and a number of digits, of which there may be so many.
def readDigits : Bytes → Nat → Nat → Option Nat
  | [],value,count => if count ≤ 4300 then some value else none
  | byte :: rest,value,count =>
    if 48 ≤ byte ∧ byte ≤ 57 then readDigits rest (10 * value + (byte.toNat - 48)) (count + 1)
    else if byte = 95 ∧ 0 < count then match rest with
      | next :: _ => if 48 ≤ next ∧ next ≤ 57 then readDigits rest value count else none
      | [] => none
    else none

-- int(value) of bytes; none is a ValueError.
def parseInt (value : Bytes) : Option Int :=
  let stripped := ((value.dropWhile isSpaceByte).reverse.dropWhile isSpaceByte).reverse
  match stripped with
  | [] => none
  | 45 :: digits => if digits = [] then none else (readDigits digits 0 0).map fun n => -(n : Int)
  | 43 :: digits => if digits = [] then none else (readDigits digits 0 0).map fun n => (n : Int)
  | digits => (readDigits digits 0 0).map fun n => (n : Int)

-- _declared_body_exceeds_limit
def declaredBodyExceedsLimit (maximum : Nat) (headers : List (Bytes × Bytes)) : Bool :=
  headers.any fun header => header.1.map lowerByte == utf8 "content-length" && (match parseInt header.2 with
    | some declaredBodyBytes => decide ((maximum : Int) < declaredBodyBytes)
    | none => false)

def tooLargeBody : Bytes := utf8 "\x7b\"detail\":\"request body exceeds configured limit\"\x7d"

-- _send_body_too_large
def bodyTooLarge : List Response :=
  [.start 413 [(utf8 "content-type",utf8 "application/json"),(utf8 "content-length",utf8 (toString tooLargeBody.length))],
    .body tooLargeBody false]

-- What the middleware makes of the application's run.
def Exchange.limit (exchange : Exchange) (exceeded : Bool) : Exchange :=
  match exchange.outcome,exceeded with
  | .failed _,_ => exchange
  | .returned,false => exchange
  | _,_ => {exchange with sent := exchange.sent ++ bodyTooLarge,outcome := .returned}

structure AdminRequestBodyLimitMiddleware where
  app : Scope → Application
  maximumBodyBytes : Nat
  positive : 0 < maximumBodyBytes

-- AdminRequestBodyLimitMiddleware.__call__
def AdminRequestBodyLimitMiddleware.call (middleware : AdminRequestBodyLimitMiddleware) (scope : Scope) (stream : Stream) : Exchange :=
  if scope.type ≠ "http" ∨ isAdminRunOnceScope scope = false then (middleware.app scope).run stream 0
  else if declaredBodyExceedsLimit middleware.maximumBodyBytes scope.headers then ⟨[],bodyTooLarge,.returned⟩
  else
    let (exchange,exceeded) := (middleware.app scope).limited middleware.maximumBodyBytes stream 0 0 false
    exchange.limit exceeded

namespace Application

-- What is left of a response that was started; _RequestBodyTooLarge is raised only by an application that caught it.
def Completes (caught : Bool) : Application → Prop
  | .send (.body _ _) next => next.Completes caught
  | .finish => True
  | .abort => caught = true
  | .fail _ => True
  | _ => False

-- An application that sends its response after its last receive.
def Answers (caught : Bool) : Application → Prop
  | .receive next => (∀ message, (next (.ok message)).Answers caught) ∧ (next (.error ())).Answers true
  | .send (.start _ _) next => next.Completes caught
  | .abort => caught = true
  | .fail _ => True
  | _ => False

variable {maximum : Nat} {stream : Stream}

-- Past the limit nothing is sent, whatever the application does.
theorem exceeded_silent (app : Application) (n observed : Nat) :
    (app.limited maximum stream n observed true).1.sent = [] ∧ (app.limited maximum stream n observed true).2 = true := by
  induction app generalizing n observed with
  | receive next ih =>
    simp only [limited]
    split
    · exact ih _ _ _
    · exact ih _ _ _
  | send message next ih => exact ih _ _
  | finish => exact ⟨rfl,rfl⟩
  | abort => exact ⟨rfl,rfl⟩
  | fail error => exact ⟨rfl,rfl⟩

theorem other_size {message : Message} (other : ¬message.isRequest = true) : message.size = 0 := by
  cases message with
  | request body moreBody => exact absurd rfl other
  | other type => rfl

-- Past the limit no body is handed on.
theorem over_bytes (app : Application) (n : Nat) {observed : Nat} (above : maximum < observed) (exceeded : Bool) :
    (app.limited maximum stream n observed exceeded).1.bytes = 0 := by
  induction app generalizing n observed exceeded with
  | receive next ih =>
    simp only [limited]
    split
    · exact ih _ _ (by omega) _
    · rename_i handed
      have other : ¬(stream n).isRequest = true := fun request => handed ⟨request,by omega⟩
      have further : maximum < observed + (stream n).size := by omega
      have rest := ih (.ok (stream n)) (n + 1) further exceeded
      simp only [Exchange.bytes,Exchange.hand,List.map_cons,List.sum_cons,other_size other] at rest ⊢
      rw [rest]
  | send message next ih =>
    have rest := ih n above exceeded
    simp only [limited]
    split
    · exact rest
    · exact rest
  | finish => rfl
  | abort => rfl
  | fail error => rfl

theorem bytes_bounded (app : Application) (n : Nat) {observed : Nat} (under : observed ≤ maximum) (exceeded : Bool) :
    observed + (app.limited maximum stream n observed exceeded).1.bytes ≤ maximum := by
  induction app generalizing n observed exceeded with
  | receive next ih =>
    simp only [limited]
    split
    · rename_i refused
      rw [over_bytes _ _ refused.2]
      exact under
    · rename_i handed
      have within : observed + (stream n).size ≤ maximum := by
        by_cases request : (stream n).isRequest = true
        · exact Nat.le_of_not_lt fun above => handed ⟨request,above⟩
        · rw [other_size request]
          exact under
      have rest := ih (.ok (stream n)) (n + 1) within exceeded
      simp only [Exchange.bytes,Exchange.hand,List.map_cons,List.sum_cons] at rest ⊢
      omega
  | send message next ih =>
    have rest := ih n under exceeded
    simp only [limited]
    split
    · exact rest
    · exact rest
  | finish => exact under
  | abort => exact under
  | fail error => exact under

-- Within the limit the wrapped receive and send are those of the server.
theorem within_unchanged (app : Application) (n observed : Nat) (within : observed + (app.run stream n).bytes ≤ maximum) :
    app.limited maximum stream n observed false = (app.run stream n,false) := by
  induction app generalizing n observed with
  | receive next ih =>
    simp only [run,Exchange.bytes,Exchange.hand,List.map_cons,List.sum_cons] at within
    have rest := ih (.ok (stream n)) (n + 1) (observed + (stream n).size) (by simp only [Exchange.bytes]; omega)
    simp only [limited]
    rw [if_neg (by omega),rest]
    rfl
  | send message next ih =>
    have rest := ih n observed within
    simp only [limited,rest,Bool.false_eq_true,if_false]
    rfl
  | finish => rfl
  | abort => rfl
  | fail error => rfl

-- After a response was started no message is received.
theorem completes_run {app : Application} (completes : app.Completes false) (stream : Stream) (n : Nat) :
    (app.run stream n).bytes = 0 ∧ (app.run stream n).responses = 0 ∧ (app.run stream n).outcome ≠ .aborted := by
  induction app with
  | receive next ih => cases completes
  | send message next ih =>
    cases message with
    | start status headers => cases completes
    | body content moreBody => exact ih completes
  | finish => exact ⟨rfl,rfl,fun aborted => (nomatch aborted)⟩
  | abort => cases completes
  | fail error => exact ⟨rfl,rfl,fun aborted => (nomatch aborted)⟩

theorem answers_run {app : Application} (answers : app.Answers false) (stream : Stream) (n : Nat) :
    (app.run stream n).outcome ≠ .aborted ∧ (¬(app.run stream n).Fails → (app.run stream n).responses = 1) := by
  induction app generalizing n with
  | receive next ih => exact ih _ (answers.1 _) _
  | send message next ih =>
    cases message with
    | body content moreBody => cases answers
    | start status headers =>
      obtain ⟨_,none,outcome⟩ := completes_run answers stream n
      refine ⟨outcome,fun _ => ?_⟩
      simp only [run,Exchange.responses,Exchange.pass,List.countP_cons] at none ⊢
      rw [none]
      rfl
  | finish => cases answers
  | abort => cases answers
  | fail error => exact ⟨fun aborted => (nomatch aborted),fun returned => absurd ⟨error,rfl⟩ returned⟩

-- What an application that answers sends when it receives past the limit.
theorem past_silent {app : Application} (answers : app.Answers false) (n : Nat) {observed : Nat} (under : observed ≤ maximum)
    (past : maximum < observed + (app.run stream n).bytes) :
    (app.limited maximum stream n observed false).1.sent = [] ∧ (app.limited maximum stream n observed false).2 = true := by
  induction app generalizing n observed with
  | receive next ih =>
    simp only [run,Exchange.bytes,Exchange.hand,List.map_cons,List.sum_cons] at past
    simp only [limited]
    split
    · exact exceeded_silent _ _ _
    · rename_i handed
      refine ih (.ok (stream n)) (answers.1 _) _ ?_ (by simp only [Exchange.bytes]; omega)
      by_cases request : (stream n).isRequest = true
      · exact Nat.le_of_not_lt fun above => handed ⟨request,above⟩
      · rw [other_size request]
        exact under
  | send message next ih =>
    cases message with
    | body content moreBody => cases answers
    | start status headers =>
      have received := (completes_run answers stream n).1
      have same : (run stream (.send (.start status headers) next) n).bytes = (next.run stream n).bytes := rfl
      omega
  | finish => exact absurd past (by simp only [run,Exchange.bytes,List.map_nil,List.sum_nil]; omega)
  | abort => exact absurd past (by simp only [run,Exchange.bytes,List.map_nil,List.sum_nil]; omega)
  | fail error => exact absurd past (by simp only [run,Exchange.bytes,List.map_nil,List.sum_nil]; omega)

end Application

end SwapMonitor.BodyLimit
