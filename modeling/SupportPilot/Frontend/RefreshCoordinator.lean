import SupportPilot.Frontend.AuthProvider

/-!
# The coordination of refreshes in one document

Protected calls that are answered with 401 share one refresh attempt. Its promise is handed out
before the lock manager runs the callback, and only the callback takes it back. The server and the
lock manager answer when and how they like; without a lock manager the callback runs at once.
-/

namespace SupportPilot.Frontend

open Library

inductive RefreshResult
  | ok
  | failed (error : ApiError)
  deriving DecidableEq, Repr

/-- A refresh attempt: it is queued for the lock, its callback primes the CSRF cookie and sends the
request, and when the callback has returned its promise is settled. The lock manager may instead
reject the request of the lock. -/
inductive RefreshAttempt
  | queued
  | priming
  | requesting
  | returned (result : RefreshResult)
  | fulfilled (result : RefreshResult)
  | rejected
  deriving DecidableEq, Repr

/-- The promise of the attempt is settled. -/
def RefreshAttempt.settled : RefreshAttempt → Bool
  | .fulfilled _ | .rejected => true
  | _ => false

/-- How a protected call ends: with a response, an error, or the rejection of the lock. -/
inductive CallOutcome
  | data
  | error (error : ApiError)
  | lockRejected
  deriving DecidableEq, Repr

/-- A call of `withAccessTokenRetry`: it waits for its first response, for a refresh attempt, or for
the response to its retry. -/
inductive ProtectedCall
  | first
  | awaiting (attempt : Nat)
  | second
  | ended (outcome : CallOutcome)
  deriving DecidableEq, Repr

/-- What happens to the calls that are made without `withAccessTokenRetry`. A logout clears the
access token before its request. -/
inductive DirectEvent
  | loginSucceeds (token : Nat)
  | loginFails (error : ApiError)
  | startLogout
  | logoutSucceeds
  | logoutFails (error : ApiError)
  deriving DecidableEq, Repr

/-- The state of the document; `expired` are the errors that the session-expired handler got. -/
structure RefreshCoordinator where
  accessToken : Option Nat := none
  refreshInFlight : Option Nat := none
  attempts : List RefreshAttempt := []
  calls : List ProtectedCall := []
  expired : List ApiError := []
  deriving DecidableEq, Repr

namespace RefreshCoordinator

def setAttempt (s : RefreshCoordinator) (a : Nat) (attempt : RefreshAttempt) :
    RefreshCoordinator :=
  { s with attempts := s.attempts.set a attempt }

def setCall (s : RefreshCoordinator) (c : Nat) (call : ProtectedCall) : RefreshCoordinator :=
  { s with calls := s.calls.set c call }

/-- `ensureFreshAccessToken` for a call, which then waits for the attempt in flight. -/
def ensureFreshAccessToken (locks : Bool) (s : RefreshCoordinator) (c : Nat) :
    RefreshCoordinator :=
  match s.refreshInFlight with
  | some a => s.setCall c (.awaiting a)
  | none =>
    { s.setCall c (.awaiting s.attempts.length) with
      refreshInFlight := some s.attempts.length
      attempts := s.attempts ++ [if locks then .queued else .priming] }

/-- The response to a protected call. -/
def respond (locks : Bool) (s : RefreshCoordinator) (c : Nat) (response : Option ApiError) :
    Option RefreshCoordinator :=
  match s.calls[c]?, response with
  | some .first, none | some .second, none => some (s.setCall c (.ended .data))
  | some .first, some error =>
    if error.status = some 401 then some (s.ensureFreshAccessToken locks c)
    else some (s.setCall c (.ended (.error error)))
  | some .second, some error => some (s.setCall c (.ended (.error error)))
  | _, _ => none

/-- A call goes on when the promise that it awaits is settled. -/
def resume (s : RefreshCoordinator) (c : Nat) : Option RefreshCoordinator :=
  match s.calls[c]? with
  | some (.awaiting a) =>
    match s.attempts[a]? with
    | some (.fulfilled .ok) => some (s.setCall c .second)
    | some (.fulfilled (.failed error)) => some (s.setCall c (.ended (.error error)))
    | some .rejected => some (s.setCall c (.ended .lockRejected))
    | _ => none
  | _ => none

/-- The lock manager runs the callback, or rejects the request without running it. -/
def lockAnswer (s : RefreshCoordinator) (a : Nat) (granted : Bool) : Option RefreshCoordinator :=
  if s.attempts[a]? = some .queued then
    some (s.setAttempt a (if granted then .priming else .rejected))
  else none

def sendRefresh (s : RefreshCoordinator) (a : Nat) : Option RefreshCoordinator :=
  if s.attempts[a]? = some .priming then some (s.setAttempt a .requesting) else none

/-- The `try` branch and the `finally` block of the callback. -/
def refreshSucceeds (s : RefreshCoordinator) (a token : Nat) : Option RefreshCoordinator :=
  if s.attempts[a]? = some .requesting then
    some { s.setAttempt a (.returned .ok) with accessToken := some token, refreshInFlight := none }
  else none

/-- The `catch` branch and the `finally` block. -/
def refreshFails (s : RefreshCoordinator) (a : Nat) (error : ApiError) :
    Option RefreshCoordinator :=
  match s.attempts[a]? with
  | some .priming | some .requesting =>
    some
      { s.setAttempt a (.returned (.failed error)) with
        accessToken := none
        refreshInFlight := none
        expired := s.expired ++ [error] }
  | _ => none

/-- The promise is settled with what the callback returned. -/
def settle (s : RefreshCoordinator) (a : Nat) : Option RefreshCoordinator :=
  match s.attempts[a]? with
  | some (.returned result) => some (s.setAttempt a (.fulfilled result))
  | _ => none

def direct (s : RefreshCoordinator) : DirectEvent → RefreshCoordinator
  | .loginSucceeds token => { s with accessToken := some token }
  | .startLogout => { s with accessToken := none }
  | .loginFails _ | .logoutSucceeds | .logoutFails _ => s

end RefreshCoordinator

inductive CoordinatorEvent
  | call
  | respond (c : Nat) (response : Option ApiError)
  | resume (c : Nat)
  | lockAnswer (a : Nat) (granted : Bool)
  | sendRefresh (a : Nat)
  | refreshSucceeds (a token : Nat)
  | refreshFails (a : Nat) (error : ApiError)
  | settle (a : Nat)
  | direct (event : DirectEvent)
  deriving DecidableEq, Repr

def coordinatorStep (locks : Bool) :
    CoordinatorEvent → RefreshCoordinator → Option RefreshCoordinator
  | .call, s => some { s with calls := s.calls ++ [.first] }
  | .respond c response, s => s.respond locks c response
  | .resume c, s => s.resume c
  | .lockAnswer a granted, s => s.lockAnswer a granted
  | .sendRefresh a, s => s.sendRefresh a
  | .refreshSucceeds a token, s => s.refreshSucceeds a token
  | .refreshFails a error, s => s.refreshFails a error
  | .settle a, s => s.settle a
  | .direct event, s => some (s.direct event)

/-- A document that has just been opened, with a lock manager or without one. -/
def coordinator (locks : Bool) : System RefreshCoordinator CoordinatorEvent where
  initial s := s = {}
  step := coordinatorStep locks

end SupportPilot.Frontend
