import SupportPilot.Library.Transition

/-!
# The browser session

One browser document, its refresh cookie and the server. Requests are sent with the cookie of that
moment; the server works on each in two statements, which check its token and then blacklist it;
the browser applies the cookies of a response before the script sees it; and a request that the
script has given up is dropped, which the server does not learn. Refresh tokens are numbers, and
an access token has the number of the refresh token that was issued with it.
-/

namespace SupportPilot.Frontend

open Library

/-- The refresh tokens that the server has issued, and those of them that are neither blacklisted
nor expired. -/
structure RefreshTokens where
  issued : Nat := 0
  accepted : List Nat := []
  deriving DecidableEq, Repr

namespace RefreshTokens

/-- `RefreshToken(raw)`, which raises for a blacklisted or expired token. -/
def verify (tokens : RefreshTokens) (token : Nat) : Bool := tokens.accepted.contains token

def blacklist (tokens : RefreshTokens) (token : Nat) : RefreshTokens :=
  { tokens with accepted := tokens.accepted.filter (· ≠ token) }

/-- A new token. -/
def issue (tokens : RefreshTokens) : RefreshTokens :=
  { issued := tokens.issued + 1, accepted := tokens.accepted ++ [tokens.issued] }

end RefreshTokens

inductive Endpoint
  | refresh
  | logout
  deriving DecidableEq, Repr

/-- A response: `TokenRefreshCookieView` sets a new refresh cookie, `LogoutView` clears it, and an
error response has no cookie. -/
inductive Answer
  | rotated (refreshToken : Nat)
  | loggedOut
  | refused
  deriving DecidableEq, Repr

inductive Phase
  | sent
  | verified
  | answered (answer : Answer)
  | received (answer : Answer)
  deriving DecidableEq, Repr

structure AuthRequest where
  endpoint : Endpoint
  cookie : Option Nat
  phase : Phase := .sent
  dropped : Bool := false
  deriving DecidableEq, Repr

/-- A call of `ensureFreshAccessToken` or `logout`: it waits for the lock and the CSRF cookie, and
then for its request. -/
inductive Call
  | priming
  | waiting (request : Nat)
  | settled
  deriving DecidableEq, Repr

structure Session where
  accessToken : Option Nat := none
  refreshInFlight : Option Call := none
  logouts : List Call := []
  refreshCookie : Option Nat := none
  requests : List AuthRequest := []
  tokens : RefreshTokens := {}
  deriving DecidableEq, Repr

namespace Session

/-! ## The document -/

/-- A protected call that is answered with 401 starts a refresh unless one is in flight. -/
def ensureFreshAccessToken (s : Session) : Session :=
  match s.refreshInFlight with
  | some _ => s
  | none => { s with refreshInFlight := some .priming }

/-- A request leaves with the cookie of the browser. -/
def send (s : Session) (endpoint : Endpoint) : Session :=
  { s with requests := s.requests ++ [{ endpoint, cookie := s.refreshCookie }] }

/-- The request of a call that has given up: its response is not applied any more. -/
def abandon (s : Session) : Call → Session
  | .waiting r => { s with requests := s.requests.modify r fun x => { x with dropped := true } }
  | .priming | .settled => s

def sendRefresh (s : Session) : Option Session :=
  if s.refreshInFlight = some .priming then
    some { s.send .refresh with refreshInFlight := some (.waiting s.requests.length) }
  else none

def phaseOf (s : Session) (r : Nat) : Option Phase := (s.requests[r]?).map (·.phase)

/-- The `try` branch of the refresh, once its response is there. -/
def refreshSucceeded (s : Session) : Option Session :=
  match s.refreshInFlight with
  | some (.waiting r) =>
    match s.phaseOf r with
    | some (.received (.rotated token)) =>
      some { s with accessToken := some token, refreshInFlight := none }
    | _ => none
  | _ => none

/-- The `catch` branch: an error response, a lost connection or a timeout. -/
def refreshFailed (s : Session) : Option Session :=
  s.refreshInFlight.map fun call =>
    { s.abandon call with accessToken := none, refreshInFlight := none }

/-- The start of `logout`. -/
def startLogout (s : Session) : Session :=
  { s with accessToken := none, logouts := s.logouts ++ [.priming] }

def sendLogout (s : Session) (i : Nat) : Option Session :=
  if s.logouts[i]? = some .priming then
    some { s.send .logout with logouts := s.logouts.set i (.waiting s.requests.length) }
  else none

/-- `logout` returns "complete". -/
def logoutComplete (s : Session) (i : Nat) : Option Session :=
  match s.logouts[i]? with
  | some (.waiting r) =>
    if s.phaseOf r = some (.received .loggedOut) then
      some { s with logouts := s.logouts.set i .settled }
    else none
  | _ => none

/-- `logout` returns "server_unconfirmed". -/
def logoutUnconfirmed (s : Session) (i : Nat) : Option Session :=
  match s.logouts[i]? with
  | some .settled | none => none
  | some call => some { s.abandon call with logouts := s.logouts.set i .settled }

/-- A login that succeeds, from its request to its response. -/
def login (s : Session) : Session :=
  { s with
    accessToken := some s.tokens.issued
    refreshCookie := some s.tokens.issued
    tokens := s.tokens.issue }

/-- A reload of the page. A refresh is sent with `keepalive`, so that only its response goes on; a
logout is aborted. -/
def reload (s : Session) : Session :=
  { s with
    accessToken := none
    refreshInFlight := none
    logouts := s.logouts.map fun _ => .settled
    requests := s.requests.map fun x =>
      match x.endpoint with
      | .refresh => x
      | .logout => { x with dropped := true } }

/-! ## The server and the network -/

/-- The check of a token. A logout answers as usual for one that is missing or not accepted. -/
def verifyToken (s : Session) (r : Nat) : Option Session :=
  (s.requests[r]?).bind fun x =>
    if x.phase = .sent then
      let phase : Phase :=
        if x.cookie.any s.tokens.verify then .verified
        else match x.endpoint with
          | .refresh => .answered .refused
          | .logout => .answered .loggedOut
      some { s with requests := s.requests.set r { x with phase } }
    else none

/-- `TokenRefreshSerializer` blacklists the token and issues the next one; `LogoutView` only
blacklists it. -/
def actOnToken (s : Session) (r : Nat) : Option Session :=
  (s.requests[r]?).bind fun x =>
    if x.phase = .verified then
      x.cookie.map fun token =>
        let tokens := s.tokens.blacklist token
        match x.endpoint with
        | .refresh =>
          { s with
            tokens := tokens.issue
            requests := s.requests.set r { x with phase := .answered (.rotated tokens.issued) } }
        | .logout =>
          { s with
            tokens := tokens
            requests := s.requests.set r { x with phase := .answered .loggedOut } }
    else none

/-- An error response: no CSRF token, too many requests, an internal error. -/
def refuse (s : Session) (r : Nat) : Option Session :=
  (s.requests[r]?).bind fun x =>
    if x.phase = .sent ∨ x.phase = .verified then
      some { s with requests := s.requests.set r { x with phase := .answered .refused } }
    else none

/-- The browser gets a response and applies its cookie. -/
def receive (s : Session) (r : Nat) : Option Session :=
  (s.requests[r]?).bind fun x =>
    match x.phase with
    | .answered answer =>
      if x.dropped then none
      else
        let refreshCookie := match answer with
          | .rotated token => some token
          | .loggedOut => none
          | .refused => s.refreshCookie
        some { s with
          refreshCookie
          requests := s.requests.set r { x with phase := .received answer } }
    | _ => none

/-- The connection of a request is lost. -/
def lose (s : Session) (r : Nat) : Session :=
  { s with requests := s.requests.modify r fun x => { x with dropped := true } }

end Session

inductive SessionEvent
  | login
  | protectedCall
  | sendRefresh
  | refreshSucceeded
  | refreshFailed
  | startLogout
  | sendLogout (i : Nat)
  | logoutComplete (i : Nat)
  | logoutUnconfirmed (i : Nat)
  | reload
  | verifyToken (r : Nat)
  | actOnToken (r : Nat)
  | refuse (r : Nat)
  | receive (r : Nat)
  | lose (r : Nat)
  | expire (token : Nat)
  | issueElsewhere
  deriving DecidableEq, Repr

def sessionStep : SessionEvent → Session → Option Session
  | .login, s => some s.login
  | .protectedCall, s => some s.ensureFreshAccessToken
  | .sendRefresh, s => s.sendRefresh
  | .refreshSucceeded, s => s.refreshSucceeded
  | .refreshFailed, s => s.refreshFailed
  | .startLogout, s => some s.startLogout
  | .sendLogout i, s => s.sendLogout i
  | .logoutComplete i, s => s.logoutComplete i
  | .logoutUnconfirmed i, s => s.logoutUnconfirmed i
  | .reload, s => some s.reload
  | .verifyToken r, s => s.verifyToken r
  | .actOnToken r, s => s.actOnToken r
  | .refuse r, s => s.refuse r
  | .receive r, s => s.receive r
  | .lose r, s => some (s.lose r)
  | .expire token, s => some { s with tokens := s.tokens.blacklist token }
  | .issueElsewhere, s => some { s with tokens := s.tokens.issue }

/-- A document that has just been opened, with any cookie from before. -/
def sessions : System Session SessionEvent where
  initial s :=
    s = { refreshCookie := s.refreshCookie, tokens := s.tokens } ∧
      (∀ token, s.refreshCookie = some token → token < s.tokens.issued) ∧
      ∀ token ∈ s.tokens.accepted, token < s.tokens.issued
  step := sessionStep

end SupportPilot.Frontend
