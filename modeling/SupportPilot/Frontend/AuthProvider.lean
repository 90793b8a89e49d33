import SupportPilot.Library.Transition

/-!
# The provider of the authentication state

The operations of `AuthProvider` in one document. A step is the start of an operation or the end of
one of its requests, with the script up to its next request; the callers of a refresh go on in
steps of their own. Beside the state of the code, the history numbers the logins and logouts that
have completed, and each operation keeps the number at its start.
-/

namespace SupportPilot.Frontend

open Library

inductive ApiErrorCode
  | validationError
  | authenticationFailed
  | permissionDenied
  | notFound
  | conflict
  | rateLimited
  | internalServerError
  | invalidRequest
  | networkError
  | timeout
  | parseError
  | unknownError
  deriving DecidableEq, Repr

structure ApiError where
  code : ApiErrorCode
  status : Option Nat
  deriving DecidableEq, Repr

/-- `isUncertainSessionError` -/
def ApiError.uncertain (error : ApiError) : Bool := error.code ≠ .authenticationFailed

inductive AuthStatus
  | loading
  | authenticated
  | unauthenticated
  | uncertain
  deriving DecidableEq, Repr

structure AuthState where
  status : AuthStatus
  user : Option Nat := none
  error : Option ApiError := none
  logoutPending : Bool := false
  deriving DecidableEq, Repr

/-- Whose outcome the committed state is: that of a login or logout, by its number, or of a
bootstrap or refresh, by the number of those before it. -/
inductive Author
  | completed (number : Nat)
  | bootstrap (since : Nat)
  | refresh (since : Nat)
  deriving DecidableEq, Repr

/-- Where a bootstrap is. A refresh that it waits for leaves its result to it. -/
inductive BootstrapPhase
  | retrying
  | checking
  | refreshing
  | refreshed (error : Option ApiError)
  | rechecking
  | ended
  deriving DecidableEq, Repr

structure Bootstrap where
  id : Nat
  since : Nat
  phase : BootstrapPhase
  deriving DecidableEq, Repr

/-- The module state of the token store and the refresh, the marker in the local storage, the state
and the references of the provider; and the history: the logins and logouts completed so far, the
number of the last login, and the author of the committed state. -/
structure Provider where
  accessToken : Option Nat := none
  logoutPending : Bool := false
  state : AuthState := { status := .loading }
  requestId : Nat := 0
  refreshInFlight : Option Nat := none
  bootstraps : List Bootstrap := []
  logouts : List Bool := []
  completed : Nat := 0
  lastLogin : Nat := 0
  author : Author := .completed 0
  deriving DecidableEq, Repr

namespace Provider

def commit (s : Provider) (author : Author) (state : AuthState) : Provider :=
  { s with author, state }

def setPhase (s : Provider) (i : Nat) (b : Bootstrap) (phase : BootstrapPhase) : Provider :=
  { s with bootstraps := s.bootstraps.set i { b with phase } }

/-! ## Login and logout -/

/-- A login that succeeds. -/
def login (s : Provider) (user token : Nat) : Provider :=
  let s : Provider := { s with
    accessToken := some token
    logoutPending := false
    requestId := s.requestId + 1
    completed := s.completed + 1
    lastLogin := s.completed + 1 }
  s.commit (.completed s.completed) { status := .authenticated, user := some user }

/-- The start of `logout`. -/
def startLogout (s : Provider) : Provider :=
  { s with accessToken := none, logouts := s.logouts ++ [true] }

/-- The end of the request of a logout in flight. -/
def logoutSettled (s : Provider) (i : Nat) (confirmed : Bool) : Option Provider :=
  if s.logouts[i]? = some true then
    let s : Provider := { s with
      logouts := s.logouts.set i false
      logoutPending := !confirmed
      requestId := s.requestId + 1
      completed := s.completed + 1 }
    some (s.commit (.completed s.completed)
      { status := .unauthenticated, logoutPending := !confirmed })
  else none

/-! ## Refresh -/

/-- `ensureFreshAccessToken` -/
def ensureFreshAccessToken (s : Provider) : Provider :=
  match s.refreshInFlight with
  | some _ => s
  | none => { s with refreshInFlight := some s.completed }

/-- The session-expired handler. -/
def sessionExpired (s : Provider) (since : Nat) (error : ApiError) : Provider :=
  if s.state.status ≠ .authenticated then s
  else
    let s : Provider := { s with requestId := s.requestId + 1 }
    if error.uncertain then
      s.commit (.refresh since) { status := .uncertain, error := some error }
    else s.commit (.refresh since) { status := .unauthenticated }

/-- The result of a refresh is there for the bootstraps that wait for it. -/
def resume (s : Provider) (error : Option ApiError) : Provider :=
  { s with
    refreshInFlight := none
    bootstraps := s.bootstraps.map fun b =>
      if b.phase = .refreshing then { b with phase := .refreshed error } else b }

def refreshSucceeded (s : Provider) (token : Nat) : Option Provider :=
  s.refreshInFlight.map fun _ => { s.resume none with accessToken := some token }

def refreshFailed (s : Provider) (error : ApiError) : Option Provider :=
  s.refreshInFlight.map fun since =>
    { (s.resume (some error)).sessionExpired since error with accessToken := none }

/-! ## Bootstrap -/

/-- The start of `bootstrap`, which retries a logout that is pending. -/
def startBootstrap (s : Provider) : Provider :=
  let id := s.requestId + 1
  let started : Provider := { s with
    requestId := id
    accessToken := if s.logoutPending then none else s.accessToken
    bootstraps := s.bootstraps ++
      [⟨id, s.completed, if s.logoutPending then .retrying else .checking⟩] }
  started.commit (.bootstrap s.completed) { s.state with status := .loading }

/-- The end of the request of a logout retry. -/
def retrySettled (s : Provider) (i : Nat) (confirmed : Bool) : Option Provider :=
  (s.bootstraps[i]?).bind fun b =>
    if b.phase = .retrying then
      let s : Provider := { s with logoutPending := !confirmed }
      if b.id ≠ s.requestId then some (s.setPhase i b .ended)
      else if confirmed then some (s.setPhase i b .checking)
      else
        some ((s.setPhase i b .ended).commit (.bootstrap b.since)
          { status := .unauthenticated, logoutPending := true })
    else none

/-- The `catch` block of `bootstrap`. -/
def bootstrapFailed (s : Provider) (i : Nat) (b : Bootstrap) (error : ApiError) : Provider :=
  let ended := s.setPhase i b .ended
  if b.id ≠ s.requestId then ended
  else if error.uncertain then
    ended.commit (.bootstrap b.since) { status := .uncertain, error := some error }
  else ended.commit (.bootstrap b.since) { status := .unauthenticated }

/-- The answer to `/me/`, which a 401 refreshes the access token for once. -/
def meSucceeded (s : Provider) (i : Nat) (user : Nat) : Option Provider :=
  (s.bootstraps[i]?).bind fun b =>
    if b.phase = .checking ∨ b.phase = .rechecking then
      let ended := s.setPhase i b .ended
      if b.id = s.requestId then
        some (ended.commit (.bootstrap b.since) { status := .authenticated, user := some user })
      else some ended
    else none

def meFailed (s : Provider) (i : Nat) (error : ApiError) : Option Provider :=
  (s.bootstraps[i]?).bind fun b =>
    match b.phase with
    | .checking =>
      if error.status = some 401 then some (s.ensureFreshAccessToken.setPhase i b .refreshing)
      else some (s.bootstrapFailed i b error)
    | .rechecking => some (s.bootstrapFailed i b error)
    | _ => none

/-- A bootstrap goes on after the refresh that it has waited for. -/
def afterRefresh (s : Provider) (i : Nat) : Option Provider :=
  (s.bootstraps[i]?).bind fun b =>
    match b.phase with
    | .refreshed none => some (s.setPhase i b .rechecking)
    | .refreshed (some error) => some (s.bootstrapFailed i b error)
    | _ => none

end Provider

inductive AuthEvent
  | login (user token : Nat)
  | startLogout
  | logoutSettled (i : Nat) (confirmed : Bool)
  | protectedCall
  | refreshSucceeded (token : Nat)
  | refreshFailed (error : ApiError)
  | startBootstrap
  | retrySettled (i : Nat) (confirmed : Bool)
  | meSucceeded (i user : Nat)
  | meFailed (i : Nat) (error : ApiError)
  | afterRefresh (i : Nat)
  deriving DecidableEq, Repr

def authStep : AuthEvent → Provider → Option Provider
  | .login user token, s => some (s.login user token)
  | .startLogout, s => some s.startLogout
  | .logoutSettled i confirmed, s => s.logoutSettled i confirmed
  | .protectedCall, s => some s.ensureFreshAccessToken
  | .refreshSucceeded token, s => s.refreshSucceeded token
  | .refreshFailed error, s => s.refreshFailed error
  | .startBootstrap, s => some s.startBootstrap
  | .retrySettled i confirmed, s => s.retrySettled i confirmed
  | .meSucceeded i user, s => s.meSucceeded i user
  | .meFailed i error, s => s.meFailed i error
  | .afterRefresh i, s => s.afterRefresh i

/-- A provider that has just been mounted, with the marker as an earlier document has left it. -/
def providers : System Provider AuthEvent where
  initial s := s = { logoutPending := s.logoutPending }
  step := authStep

end SupportPilot.Frontend
