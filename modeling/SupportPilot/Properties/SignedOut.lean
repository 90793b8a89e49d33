import SupportPilot.Frontend.Session
import SupportPilot.Library.Table

/-!
# What a completed logout leaves

After a logout that has returned "complete" no later step but a login puts a token back, exactly if
at that moment there is none and no refresh in flight can still succeed. A token that the server
does not accept stays so, since new tokens are new numbers; a refresh that was verified or rotated
before the logout reached the server is not touched by it.
-/

namespace SupportPilot.Frontend

open Library

variable {s s' : Session}

/-! ## What is asked of a completed logout -/

/-- No access token, and no refresh cookie that the server accepts. -/
def Session.SignedOut (s : Session) : Prop :=
  s.accessToken = none ∧ ∀ token, s.refreshCookie = some token → token ∉ s.tokens.accepted

/-- The refresh of the document waits for this request. -/
def Session.Awaits (s : Session) (r : Nat) : Prop := s.refreshInFlight = some (.waiting r)

/-- A refresh that can still succeed: the server has verified its token or still accepts it, or its
response is to be applied by the browser or to be seen by the script. -/
def Session.MaySucceed (s : Session) (r : Nat) (x : AuthRequest) : Prop :=
  match x.phase with
  | .sent => x.endpoint = .refresh ∧ x.dropped = false ∧
      ∃ token, x.cookie = some token ∧ token ∈ s.tokens.accepted
  | .verified => x.endpoint = .refresh ∧ x.dropped = false
  | .answered (.rotated token) => x.dropped = false ∧ (s.Awaits r ∨ token ∈ s.tokens.accepted)
  | .received (.rotated _) => s.Awaits r
  | .answered _ | .received _ => False

/-- Signed out, with no refresh in flight that can still succeed. -/
structure Session.Clear (s : Session) : Prop where
  signedOut : s.SignedOut
  requests : AllRows (fun r x => ¬ s.MaySucceed r x) s.requests

/-! ## What one step does -/

theorem sendRefresh_some (h : s.sendRefresh = some s') :
    s' = { s.send .refresh with refreshInFlight := some (.waiting s.requests.length) } := by
  unfold Session.sendRefresh at h
  split at h
  · exact (Option.some.inj h).symm
  · cases h

theorem refreshSucceeded_some (h : s.refreshSucceeded = some s') :
    ∃ r token, s.Awaits r ∧ s.phaseOf r = some (.received (.rotated token)) ∧
      s' = { s with accessToken := some token, refreshInFlight := none } := by
  unfold Session.refreshSucceeded at h
  split at h
  · rename_i r hflight
    split at h
    · rename_i token hphase
      exact ⟨r, token, hflight, hphase, (Option.some.inj h).symm⟩
    · cases h
  · cases h

theorem refreshFailed_some (h : s.refreshFailed = some s') :
    ∃ call, s' = { s.abandon call with accessToken := none, refreshInFlight := none } := by
  obtain ⟨call, -, rfl⟩ := Option.map_eq_some_iff.mp h
  exact ⟨call, rfl⟩

theorem sendLogout_some {i : Nat} (h : s.sendLogout i = some s') :
    s' = { s.send .logout with logouts := s.logouts.set i (.waiting s.requests.length) } := by
  unfold Session.sendLogout at h
  split at h
  · exact (Option.some.inj h).symm
  · cases h

theorem logoutComplete_some {i : Nat} (h : s.logoutComplete i = some s') :
    s' = { s with logouts := s.logouts.set i .settled } := by
  unfold Session.logoutComplete at h
  split at h
  · split at h
    · exact (Option.some.inj h).symm
    · cases h
  · cases h

theorem logoutUnconfirmed_some {i : Nat} (h : s.logoutUnconfirmed i = some s') :
    ∃ call, s' = { s.abandon call with logouts := s.logouts.set i .settled } := by
  unfold Session.logoutUnconfirmed at h
  split at h
  · cases h
  · cases h
  · exact ⟨_, (Option.some.inj h).symm⟩

/-- A verified token is accepted; a request whose token is not gets its answer, which for a logout
is no error. -/
theorem verifyToken_some {r : Nat} (h : s.verifyToken r = some s') :
    ∃ x phase, s.requests[r]? = some x ∧ x.phase = .sent ∧
      s' = { s with requests := s.requests.set r { x with phase } } ∧
      (phase = .verified ∧ (∃ token, x.cookie = some token ∧ token ∈ s.tokens.accepted) ∨
        phase = .answered .refused ∨ phase = .answered .loggedOut) := by
  obtain ⟨x, hx, h⟩ := Option.bind_eq_some_iff.mp h
  split at h
  · rename_i hphase
    refine ⟨x, _, hx, hphase, (Option.some.inj h).symm, ?_⟩
    split
    · rename_i hvalid
      obtain ⟨token, htoken, haccepted⟩ := (Option.any_eq_true ..).mp hvalid
      exact .inl ⟨rfl, token, htoken, by simpa [RefreshTokens.verify] using haccepted⟩
    · cases x.endpoint with
      | refresh => exact .inr (.inl rfl)
      | logout => exact .inr (.inr rfl)
  · cases h

theorem actOnToken_some {r : Nat} (h : s.actOnToken r = some s') :
    ∃ x token, s.requests[r]? = some x ∧ x.phase = .verified ∧ x.cookie = some token ∧
      (x.endpoint = .refresh ∧ s' = { s with
          tokens := (s.tokens.blacklist token).issue
          requests := s.requests.set r { x with
            phase := .answered (.rotated s.tokens.issued) } } ∨
        x.endpoint = .logout ∧ s' = { s with
          tokens := s.tokens.blacklist token
          requests := s.requests.set r { x with phase := .answered .loggedOut } }) := by
  obtain ⟨x, hx, h⟩ := Option.bind_eq_some_iff.mp h
  split at h
  · rename_i hphase
    obtain ⟨token, htoken, rfl⟩ := Option.map_eq_some_iff.mp h
    refine ⟨x, token, hx, hphase, htoken, ?_⟩
    cases hendpoint : x.endpoint with
    | refresh => exact .inl ⟨rfl, rfl⟩
    | logout => exact .inr ⟨rfl, rfl⟩
  · cases h

theorem refuse_some {r : Nat} (h : s.refuse r = some s') :
    ∃ x, s.requests[r]? = some x ∧
      s' = { s with requests := s.requests.set r { x with phase := .answered .refused } } := by
  obtain ⟨x, hx, h⟩ := Option.bind_eq_some_iff.mp h
  split at h
  · exact ⟨x, hx, (Option.some.inj h).symm⟩
  · cases h

theorem receive_some {r : Nat} (h : s.receive r = some s') :
    ∃ x answer cookie, s.requests[r]? = some x ∧ x.phase = .answered answer ∧ x.dropped = false ∧
      s' = { s with
        refreshCookie := cookie
        requests := s.requests.set r { x with phase := .received answer } } ∧
      (∀ token, cookie = some token → answer = .rotated token ∨ s.refreshCookie = some token) ∧
      ∀ token, answer = .rotated token → cookie = some token := by
  obtain ⟨x, hx, h⟩ := Option.bind_eq_some_iff.mp h
  split at h
  · rename_i answer hphase
    split at h
    · cases h
    · rename_i hdropped
      refine ⟨x, answer, _, hx, hphase, by simpa using hdropped, (Option.some.inj h).symm, ?_, ?_⟩
      · intro token htoken
        cases answer with
        | rotated => exact .inl (congrArg _ (Option.some.inj htoken))
        | loggedOut => cases htoken
        | refused => exact .inr htoken
      · rintro token rfl
        rfl
  · cases h

/-! ## Tokens are numbered in the order of their issue -/

/-- The tokens of a request have been issued. -/
structure AuthRequest.Issued (x : AuthRequest) (n : Nat) : Prop where
  cookie : ∀ token, x.cookie = some token → token < n
  answered : ∀ token, x.phase = .answered (.rotated token) → token < n
  received : ∀ token, x.phase = .received (.rotated token) → token < n
  verified : x.phase = .verified → x.cookie.isSome

theorem AuthRequest.Issued.mono {x : AuthRequest} {n m : Nat} (h : x.Issued n) (hle : n ≤ m) :
    x.Issued m where
  cookie token htoken := Nat.lt_of_lt_of_le (h.cookie token htoken) hle
  answered token htoken := Nat.lt_of_lt_of_le (h.answered token htoken) hle
  received token htoken := Nat.lt_of_lt_of_le (h.received token htoken) hle
  verified := h.verified

/-- Every token in the browser, on its way or accepted has been issued. -/
structure Session.Issued (s : Session) : Prop where
  cookie : ∀ token, s.refreshCookie = some token → token < s.tokens.issued
  accepted : ∀ token ∈ s.tokens.accepted, token < s.tokens.issued
  requests : AllRows (fun _ x => x.Issued s.tokens.issued) s.requests

theorem RefreshTokens.mem_blacklist {tokens : RefreshTokens} {token other : Nat}
    (h : other ∈ (tokens.blacklist token).accepted) : other ∈ tokens.accepted :=
  (List.mem_filter.mp h).1

theorem RefreshTokens.mem_issue {tokens : RefreshTokens} {token : Nat}
    (h : token ∈ tokens.issue.accepted) : token ∈ tokens.accepted ∨ token = tokens.issued := by
  rcases List.mem_append.mp h with hold | hnew
  · exact .inl hold
  · exact .inr (List.mem_singleton.mp hnew)

theorem AuthRequest.Issued.drop {x : AuthRequest} {n : Nat} (h : x.Issued n) :
    ({ x with dropped := true } : AuthRequest).Issued n :=
  ⟨h.cookie, h.answered, h.received, h.verified⟩

theorem Session.Issued.abandon (hs : s.Issued) (call : Call) : (s.abandon call).Issued := by
  cases call with
  | waiting r => exact ⟨hs.cookie, hs.accepted, hs.requests.modify (fun _ _ hx => hx.drop) r⟩
  | priming | settled => exact hs

theorem Session.Issued.send (hs : s.Issued) (endpoint : Endpoint) : (s.send endpoint).Issued where
  cookie := hs.cookie
  accepted := hs.accepted
  requests := hs.requests.append ⟨hs.cookie, nofun, nofun, nofun⟩

theorem Session.Issued.issue (hs : s.Issued) : { s with tokens := s.tokens.issue }.Issued where
  cookie token htoken := Nat.lt_succ_of_lt (hs.cookie token htoken)
  accepted token htoken := by
    show token < s.tokens.issued + 1
    rcases RefreshTokens.mem_issue htoken with hold | rfl
    · exact Nat.lt_succ_of_lt (hs.accepted token hold)
    · exact Nat.lt_succ_self _
  requests := hs.requests.imp fun _ _ _ hx => hx.mono (Nat.le_succ _)

theorem Session.Issued.blacklist (hs : s.Issued) (token : Nat) :
    { s with tokens := s.tokens.blacklist token }.Issued where
  cookie := hs.cookie
  accepted other hother := hs.accepted other (RefreshTokens.mem_blacklist hother)
  requests := hs.requests

/-- The invariant says nothing of the script's own state. -/
theorem Session.Issued.document (hs : s.Issued) (accessToken : Option Nat)
    (refreshInFlight : Option Call) (logouts : List Call) :
    { s with accessToken, refreshInFlight, logouts }.Issued :=
  ⟨hs.cookie, hs.accepted, hs.requests⟩

theorem issued_step {l : SessionEvent} (hs : s.Issued) (h : sessionStep l s = some s') :
    s'.Issued := by
  cases l with
  | login =>
    cases h
    have hissued := hs.issue
    refine ⟨fun token htoken => ?_, hissued.accepted, hissued.requests⟩
    cases htoken
    exact Nat.lt_succ_self _
  | protectedCall =>
    cases h
    unfold Session.ensureFreshAccessToken
    split
    · exact hs
    · exact hs.document _ _ _
  | sendRefresh =>
    cases sendRefresh_some h
    exact (hs.send .refresh).document _ _ _
  | refreshSucceeded =>
    obtain ⟨r, token, -, -, rfl⟩ := refreshSucceeded_some h
    exact hs.document _ _ _
  | refreshFailed =>
    obtain ⟨call, rfl⟩ := refreshFailed_some h
    exact (hs.abandon call).document _ _ _
  | startLogout =>
    cases h
    exact hs.document _ _ _
  | sendLogout =>
    cases sendLogout_some h
    exact (hs.send .logout).document _ _ _
  | logoutComplete =>
    cases logoutComplete_some h
    exact hs.document _ _ _
  | logoutUnconfirmed =>
    obtain ⟨call, rfl⟩ := logoutUnconfirmed_some h
    exact (hs.abandon call).document _ _ _
  | reload =>
    cases h
    refine ⟨hs.cookie, hs.accepted, .map fun r x hx => ?_⟩
    split
    · exact hs.requests r x hx
    · exact (hs.requests r x hx).drop
  | verifyToken r =>
    obtain ⟨x, phase, hx, hsent, rfl, hphase⟩ := verifyToken_some h
    have hissued := hs.requests r x hx
    refine ⟨hs.cookie, hs.accepted, hs.requests.set ⟨hissued.cookie, ?_, ?_, ?_⟩⟩
    · intro token htoken
      rcases hphase with ⟨rfl, -⟩ | rfl | rfl <;> cases htoken
    · intro token htoken
      rcases hphase with ⟨rfl, -⟩ | rfl | rfl <;> cases htoken
    · intro hverified
      rcases hphase with ⟨-, token, htoken, -⟩ | rfl | rfl
      · exact Option.isSome_iff_exists.mpr ⟨token, htoken⟩
      · cases hverified
      · cases hverified
  | actOnToken r =>
    obtain ⟨x, token, hx, -, -, hact⟩ := actOnToken_some h
    rcases hact with ⟨-, rfl⟩ | ⟨-, rfl⟩
    · have hnew := (hs.blacklist token).issue
      have hissued := hnew.requests r x hx
      refine ⟨hnew.cookie, hnew.accepted, hnew.requests.set ⟨hissued.cookie, ?_, nofun, nofun⟩⟩
      intro other hother
      cases hother
      exact Nat.lt_succ_self _
    · have hnew := hs.blacklist token
      have hissued := hnew.requests r x hx
      exact ⟨hnew.cookie, hnew.accepted, hnew.requests.set ⟨hissued.cookie, nofun, nofun, nofun⟩⟩
  | refuse r =>
    obtain ⟨x, hx, rfl⟩ := refuse_some h
    have hissued := hs.requests r x hx
    exact ⟨hs.cookie, hs.accepted, hs.requests.set ⟨hissued.cookie, nofun, nofun, nofun⟩⟩
  | receive r =>
    obtain ⟨x, answer, cookie, hx, hphase, -, rfl, hcookie, -⟩ := receive_some h
    have hissued := hs.requests r x hx
    refine ⟨fun token htoken => ?_, hs.accepted, hs.requests.set ⟨hissued.cookie, nofun, ?_, nofun⟩⟩
    · rcases hcookie token htoken with rfl | hold
      · exact hissued.answered token hphase
      · exact hs.cookie token hold
    · intro token htoken
      cases htoken
      exact hissued.answered token hphase
  | lose r =>
    cases h
    exact hs.abandon (.waiting r)
  | expire token =>
    cases h
    exact hs.blacklist token
  | issueElsewhere =>
    cases h
    exact hs.issue

theorem issued_reach (h : sessions.Reach (fun _ _ => True) s) : s.Issued := by
  refine h.invariant (I := Session.Issued) ?_ fun _ _ _ _ hs _ hstep => issued_step hs hstep
  rintro s ⟨hnew, hcookie, haccepted⟩
  refine ⟨hcookie, haccepted, ?_⟩
  rw [hnew]
  exact fun r x hx => by cases hx

/-! ## Nothing comes back -/

/-- No token of before is accepted again, and no other request is waited for. -/
structure Session.Fades (s s' : Session) : Prop where
  awaits : ∀ r, s'.Awaits r → s.Awaits r
  accepted : ∀ token < s.tokens.issued, token ∈ s'.tokens.accepted → token ∈ s.tokens.accepted

/-- What makes a request fail stays, if it is not waited for and its tokens are not accepted
anew. -/
theorem Session.MaySucceed.imp {r : Nat} {x : AuthRequest} (h : s'.MaySucceed r x)
    (hawaits : s'.Awaits r → s.Awaits r)
    (haccepted : ∀ token, x.cookie = some token ∨ x.phase = .answered (.rotated token) →
      token ∈ s'.tokens.accepted → token ∈ s.tokens.accepted) : s.MaySucceed r x := by
  unfold Session.MaySucceed at h ⊢
  cases hphase : x.phase with
  | sent =>
    simp only [hphase] at h ⊢
    obtain ⟨hendpoint, hdropped, token, htoken, hold⟩ := h
    exact ⟨hendpoint, hdropped, token, htoken, haccepted token (.inl htoken) hold⟩
  | verified =>
    simp only [hphase] at h ⊢
    exact h
  | answered answer =>
    cases answer with
    | rotated token =>
      simp only [hphase] at h ⊢
      exact ⟨h.1, h.2.imp hawaits fun hold => haccepted token (.inr hphase) hold⟩
    | loggedOut | refused =>
      simp only [hphase] at h
  | received answer =>
    cases answer with
    | rotated token =>
      simp only [hphase] at h ⊢
      exact hawaits h
    | loggedOut | refused =>
      simp only [hphase] at h

theorem Session.Fades.maySucceed (h : s.Fades s') {r : Nat} {x : AuthRequest}
    (hx : x.Issued s.tokens.issued) (hmay : s'.MaySucceed r x) : s.MaySucceed r x := by
  refine hmay.imp (h.awaits r) fun token htoken => h.accepted token ?_
  rcases htoken with hcookie | hanswered
  · exact hx.cookie token hcookie
  · exact hx.answered token hanswered

theorem Session.Fades.requests (h : s.Fades s') (hs : s.Clear) (hi : s.Issued) :
    AllRows (fun r x => ¬ s'.MaySucceed r x) s.requests :=
  fun r x hx hmay => hs.requests r x hx (h.maySucceed (hi.requests r x hx) hmay)

theorem Session.Fades.signedOut (h : s.Fades s') (hs : s.Clear) (hi : s.Issued)
    (haccess : s'.accessToken = s.accessToken ∨ s'.accessToken = none)
    (hcookie : s'.refreshCookie = s.refreshCookie) : s'.SignedOut := by
  constructor
  · rcases haccess with hsame | hnone
    · rw [hsame]
      exact hs.signedOut.1
    · exact hnone
  · intro token htoken haccepted
    rw [hcookie] at htoken
    exact hs.signedOut.2 token htoken (h.accepted token (hi.cookie token htoken) haccepted)

theorem Session.MaySucceed.of_drop {r : Nat} {x : AuthRequest}
    (h : s.MaySucceed r { x with dropped := true }) : s.MaySucceed r x := by
  unfold Session.MaySucceed at h ⊢
  cases hphase : x.phase with
  | sent => simp [hphase] at h
  | verified => simp [hphase] at h
  | answered answer => cases answer <;> simp [hphase] at h
  | received answer =>
    cases answer <;> simp only [hphase] at h ⊢
    exact h

/-- A request that is sent with a cookie that the server does not accept cannot succeed. -/
theorem Session.Clear.send (hs : s.Clear) (endpoint : Endpoint) :
    AllRows (fun r x => ¬ s.MaySucceed r x) (s.send endpoint).requests := by
  refine hs.requests.append ?_
  rintro ⟨-, -, token, htoken, haccepted⟩
  exact hs.signedOut.2 token htoken haccepted

theorem Session.Clear.abandon (hs : s.Clear) (call : Call) :
    AllRows (fun r x => ¬ s.MaySucceed r x) (s.abandon call).requests := by
  cases call with
  | waiting r => exact hs.requests.modify (fun _ _ hx hmay => hx hmay.of_drop) r
  | priming | settled => exact hs.requests

/-- A step of the script that neither stores a token nor waits for an old request. -/
theorem Session.Clear.document (hs : s.Clear) (accessToken : Option Nat)
    (refreshInFlight : Option Call) (logouts : List Call) {requests : List AuthRequest}
    (haccess : accessToken = s.accessToken ∨ accessToken = none)
    (hrequests : AllRows (fun r x => ¬ s.MaySucceed r x) requests)
    (hawaits : ∀ r, refreshInFlight = some (.waiting r) → s.Awaits r) :
    { s with accessToken, refreshInFlight, logouts, requests }.Clear where
  signedOut := by
    refine ⟨?_, hs.signedOut.2⟩
    rcases haccess with rfl | rfl
    · exact hs.signedOut.1
    · rfl
  requests r x hx hmay := hrequests r x hx (hmay.imp (hawaits r) fun _ _ hold => hold)

/-- A request of the server's is rewritten, while no token is accepted anew. -/
theorem Session.Clear.rewritten {r : Nat} {x : AuthRequest} (hs : s.Clear) (hi : s.Issued)
    {tokens : RefreshTokens}
    (haccepted : ∀ token < s.tokens.issued, token ∈ tokens.accepted → token ∈ s.tokens.accepted)
    (hx : ¬ { s with tokens }.MaySucceed r x) :
    { s with tokens, requests := s.requests.set r x }.Clear := by
  have hfades : s.Fades { s with tokens } := ⟨fun _ h => h, haccepted⟩
  exact ⟨hfades.signedOut hs hi (.inl rfl) rfl, (hfades.requests hs hi).set hx⟩

theorem RefreshTokens.issue_accepted (tokens : RefreshTokens) :
    ∀ token < tokens.issued, token ∈ tokens.issue.accepted → token ∈ tokens.accepted := by
  intro token hlt htoken
  rcases mem_issue htoken with hold | hnew
  · exact hold
  · omega

theorem clear_step {l : SessionEvent} (hs : s.Clear) (hi : s.Issued) (hl : l ≠ .login)
    (h : sessionStep l s = some s') : s'.Clear := by
  cases l with
  | login => exact absurd rfl hl
  | protectedCall =>
    cases h
    unfold Session.ensureFreshAccessToken
    split
    · exact hs
    · exact hs.document _ _ _ (.inl rfl) hs.requests nofun
  | sendRefresh =>
    cases sendRefresh_some h
    have hold : AllRows (fun r x => ¬ ({ s.send .refresh with
        refreshInFlight := some (.waiting s.requests.length) } : Session).MaySucceed r x)
        s.requests := by
      -- the request that is waited for is the new one
      intro r x hx hmay
      refine hs.requests r x hx (hmay.imp (fun hawaits => ?_) fun _ _ hsame => hsame)
      cases hawaits
      exact absurd (List.getElem?_eq_some_iff.mp hx).1 (Nat.lt_irrefl _)
    refine ⟨hs.signedOut, hold.append ?_⟩
    · rintro ⟨-, -, token, htoken, haccepted⟩
      exact hs.signedOut.2 token htoken haccepted
  | refreshSucceeded =>
    obtain ⟨r, token, hawaits, hphase, rfl⟩ := refreshSucceeded_some h
    obtain ⟨x, hx, hreceived⟩ := Option.map_eq_some_iff.mp hphase
    refine absurd ?_ (hs.requests r x hx)
    unfold Session.MaySucceed
    rw [hreceived]
    exact hawaits
  | refreshFailed =>
    obtain ⟨call, rfl⟩ := refreshFailed_some h
    have hclear := hs.document none none s.logouts (.inr rfl) (hs.abandon call) nofun
    cases call <;> exact hclear
  | startLogout =>
    cases h
    exact hs.document _ _ _ (.inr rfl) hs.requests fun _ h => h
  | sendLogout =>
    cases sendLogout_some h
    exact hs.document _ _ _ (.inl rfl) (hs.send .logout) fun _ h => h
  | logoutComplete =>
    cases logoutComplete_some h
    exact hs.document _ _ _ (.inl rfl) hs.requests fun _ h => h
  | logoutUnconfirmed i =>
    obtain ⟨call, rfl⟩ := logoutUnconfirmed_some h
    have hclear := hs.document s.accessToken s.refreshInFlight (s.logouts.set i .settled) (.inl rfl)
      (hs.abandon call) fun _ h => h
    cases call <;> exact hclear
  | reload =>
    cases h
    refine hs.document _ _ _ (.inr rfl) (.map fun r x hx => ?_) nofun
    split
    · exact hs.requests r x hx
    · exact fun hmay => hs.requests r x hx hmay.of_drop
  | verifyToken r =>
    obtain ⟨x, phase, hx, hsent, rfl, hphase⟩ := verifyToken_some h
    refine hs.rewritten hi (fun _ _ hold => hold) fun hmay => ?_
    rcases hphase with ⟨rfl, hvalid⟩ | rfl | rfl
    · refine hs.requests r x hx ?_
      unfold Session.MaySucceed
      rw [hsent]
      exact ⟨hmay.1, hmay.2, hvalid⟩
    · exact hmay
    · exact hmay
  | actOnToken r =>
    obtain ⟨x, token, hx, hverified, -, hact⟩ := actOnToken_some h
    rcases hact with ⟨hendpoint, rfl⟩ | ⟨-, rfl⟩
    · refine hs.rewritten hi (fun other hlt hother => ?_) fun hmay => ?_
      · exact RefreshTokens.mem_blacklist (RefreshTokens.issue_accepted _ other hlt hother)
      · refine hs.requests r x hx ?_
        unfold Session.MaySucceed
        rw [hverified]
        exact ⟨hendpoint, hmay.1⟩
    · exact hs.rewritten hi (fun _ _ hold => RefreshTokens.mem_blacklist hold) fun hmay => hmay
  | refuse r =>
    obtain ⟨x, hx, rfl⟩ := refuse_some h
    exact hs.rewritten hi (fun _ _ hold => hold) fun hmay => hmay
  | receive r =>
    obtain ⟨x, answer, cookie, hx, hphase, hdropped, rfl, hcookie, -⟩ := receive_some h
    have hfails : ¬ s.MaySucceed r x := hs.requests r x hx
    unfold Session.MaySucceed at hfails
    rw [hphase] at hfails
    refine ⟨⟨hs.signedOut.1, fun token htoken => ?_⟩, AllRows.set hs.requests ?_⟩
    · rcases hcookie token htoken with rfl | hold
      · exact fun haccepted => hfails ⟨hdropped, .inr haccepted⟩
      · exact hs.signedOut.2 token hold
    · intro hmay
      cases answer with
      | rotated token => exact hfails ⟨hdropped, .inl hmay⟩
      | loggedOut | refused => exact hmay
  | lose r =>
    cases h
    exact hs.document _ _ _ (.inl rfl) (hs.abandon (.waiting r)) fun _ h => h
  | expire token =>
    cases h
    have hfades : s.Fades { s with tokens := s.tokens.blacklist token } :=
      ⟨fun _ h => h, fun _ _ hold => RefreshTokens.mem_blacklist hold⟩
    exact ⟨hfades.signedOut hs hi (.inl rfl) rfl, hfades.requests hs hi⟩
  | issueElsewhere =>
    cases h
    have hfades : s.Fades { s with tokens := s.tokens.issue } :=
      ⟨fun _ h => h, s.tokens.issue_accepted⟩
    exact ⟨hfades.signedOut hs hi (.inl rfl) rfl, hfades.requests hs hi⟩

/-! ## What can still succeed does in some continuation -/

/-- The continuations of a state until the next login. -/
abbrev Session.UntilLogin (s t : Session) : Prop :=
  (sessions.startedAt s).Reach (fun _ l => l ≠ .login) t

theorem Session.UntilLogin.head {t : Session} {l : SessionEvent} (hl : l ≠ .login)
    (hstep : sessionStep l s = some s') (h : s'.UntilLogin t) : s.UntilLogin t :=
  System.Reach.trans (.step (.init rfl) hl hstep) h

/-- Some continuation has a token again. -/
def Session.Returns (s : Session) : Prop := ∃ t, s.UntilLogin t ∧ ¬ t.SignedOut

theorem Session.Returns.head {l : SessionEvent} (hstep : sessionStep l s = some s')
    (hl : l ≠ .login) (h : s'.Returns) : s.Returns := by
  obtain ⟨t, hreach, hnot⟩ := h
  exact ⟨t, hreach.head hl hstep, hnot⟩

theorem Session.Returns.now (h : ¬ s.SignedOut) : s.Returns := ⟨s, .init rfl, h⟩

theorem returns_received {r token : Nat} {x : AuthRequest} (hx : s.requests[r]? = some x)
    (hphase : x.phase = .received (.rotated token)) (hawaits : s.Awaits r) : s.Returns := by
  have hstep : sessionStep .refreshSucceeded s =
      some { s with accessToken := some token, refreshInFlight := none } := by
    show s.refreshSucceeded = _
    unfold Session.refreshSucceeded
    rw [hawaits]
    simp only [Session.phaseOf, hx, Option.map_some, hphase]
  refine .head hstep nofun (.now fun hout => ?_)
  cases hout.1

theorem returns_answered {r token : Nat} {x : AuthRequest} (hx : s.requests[r]? = some x)
    (hphase : x.phase = .answered (.rotated token)) (hdropped : x.dropped = false)
    (h : s.Awaits r ∨ token ∈ s.tokens.accepted) : s.Returns := by
  have hstep : sessionStep (.receive r) s = some { s with
      refreshCookie := some token
      requests := s.requests.set r { x with phase := .received (.rotated token) } } := by
    show s.receive r = _
    unfold Session.receive
    rw [hx]
    simp [hphase, hdropped]
  refine .head hstep nofun ?_
  rcases h with hawaits | haccepted
  · exact returns_received (List.getElem?_set_self (List.getElem?_eq_some_iff.mp hx).1) rfl hawaits
  · exact .now fun hout => hout.2 token rfl haccepted

theorem returns_verified {r : Nat} {x : AuthRequest} (hi : s.Issued) (hx : s.requests[r]? = some x)
    (hphase : x.phase = .verified) (hendpoint : x.endpoint = .refresh)
    (hdropped : x.dropped = false) : s.Returns := by
  obtain ⟨token, htoken⟩ := Option.isSome_iff_exists.mp ((hi.requests r x hx).verified hphase)
  have hstep : sessionStep (.actOnToken r) s = some { s with
      tokens := (s.tokens.blacklist token).issue
      requests := s.requests.set r { x with phase := .answered (.rotated s.tokens.issued) } } := by
    show s.actOnToken r = _
    unfold Session.actOnToken
    rw [hx]
    simp only [Option.bind_some, hphase, if_true, htoken, Option.map_some, hendpoint]
    rfl
  refine .head hstep nofun ?_
  refine returns_answered (List.getElem?_set_self (List.getElem?_eq_some_iff.mp hx).1) rfl hdropped
    (.inr ?_)
  exact List.mem_append_right _ (List.mem_singleton.mpr rfl)

theorem returns_sent {r token : Nat} {x : AuthRequest} (hi : s.Issued)
    (hx : s.requests[r]? = some x) (hphase : x.phase = .sent) (hendpoint : x.endpoint = .refresh)
    (hdropped : x.dropped = false) (htoken : x.cookie = some token)
    (haccepted : token ∈ s.tokens.accepted) : s.Returns := by
  have hstep : sessionStep (.verifyToken r) s =
      some { s with requests := s.requests.set r { x with phase := .verified } } := by
    show s.verifyToken r = _
    unfold Session.verifyToken
    rw [hx]
    simp [hphase, htoken, RefreshTokens.verify, haccepted]
  refine .head hstep nofun ?_
  exact returns_verified (issued_step hi hstep)
    (List.getElem?_set_self (List.getElem?_eq_some_iff.mp hx).1) rfl hendpoint hdropped

/-- A refresh that may succeed does so in some continuation. -/
theorem Session.MaySucceed.returns {r : Nat} {x : AuthRequest} (h : s.MaySucceed r x)
    (hi : s.Issued) (hx : s.requests[r]? = some x) : s.Returns := by
  unfold Session.MaySucceed at h
  cases hphase : x.phase with
  | sent =>
    simp only [hphase] at h
    obtain ⟨hendpoint, hdropped, token, htoken, haccepted⟩ := h
    exact returns_sent hi hx hphase hendpoint hdropped htoken haccepted
  | verified =>
    simp only [hphase] at h
    exact returns_verified hi hx hphase h.1 h.2
  | answered answer =>
    cases answer with
    | rotated token =>
      simp only [hphase] at h
      exact returns_answered hx hphase h.1 h.2
    | loggedOut | refused =>
      simp only [hphase] at h
  | received answer =>
    cases answer with
    | rotated token =>
      simp only [hphase] at h
      exact returns_received hx hphase h
    | loggedOut | refused =>
      simp only [hphase] at h

/-- Until the next login nothing signs the user in again, exactly if the state is clear. -/
theorem stays_signedOut_iff (hi : s.Issued) :
    (∀ t, s.UntilLogin t → t.SignedOut) ↔ s.Clear := by
  constructor
  · intro hout
    have hnot : ¬ s.Returns := fun ⟨t, hreach, hlost⟩ => hlost (hout t hreach)
    exact ⟨hout s (.init rfl), fun r x hx hmay => hnot (hmay.returns hi hx)⟩
  · intro hclear t hreach
    have hboth : t.Clear ∧ t.Issued :=
      hreach.continued (I := fun t => t.Clear ∧ t.Issued) ⟨hclear, hi⟩
        fun _ _ _ hI hl hstep => ⟨clear_step hI.1 hI.2 hl hstep, issued_step hI.2 hstep⟩
    exact hboth.1.signedOut

/-- When `logout` returns "complete", the user stays signed out until the next login exactly if
there is no access token, the server does not accept the refresh cookie, and no refresh in flight
can still succeed. -/
theorem logoutComplete_iff {i : Nat} (hs : sessions.Reach (fun _ _ => True) s)
    (h : sessions.step (.logoutComplete i) s = some s') :
    (∀ t, s'.UntilLogin t → t.SignedOut) ↔ s.Clear := by
  have hi := issued_reach (.step hs trivial h)
  rw [stays_signedOut_iff hi]
  cases logoutComplete_some h
  constructor
  · exact fun hclear => ⟨hclear.signedOut, hclear.requests⟩
  · exact fun hclear => ⟨hclear.signedOut, hclear.requests⟩

def openedSession : Session := {}

/-- A logout that nothing overlaps, up to its response. -/
def plainLogout : List SessionEvent :=
  [.login, .startLogout, .sendLogout 0, .verifyToken 0, .actOnToken 0, .receive 0]

/-- A refresh is in flight when the logout starts, and the server rotates the token before it sees
the logout. -/
def overtakenLogout : List SessionEvent :=
  [.login, .protectedCall, .sendRefresh, .startLogout, .sendLogout 0, .verifyToken 0, .actOnToken 0,
    .verifyToken 1, .receive 1]

def sessionAfter (events : List SessionEvent) : Session :=
  sessions.replayEnd (fun _ _ => True) events openedSession

theorem reach_sessionAfter (events : List SessionEvent) :
    sessions.Reach (fun _ _ => True) (sessionAfter events) := by
  have hinit : sessions.initial openedSession := ⟨rfl, nofun, nofun⟩
  exact System.reach_replayEnd (.init hinit) events

theorem logoutComplete_plain :
    sessions.step (.logoutComplete 0) (sessionAfter plainLogout) =
        some (sessionAfter (plainLogout ++ [.logoutComplete 0])) ∧
      ∀ t, (sessionAfter (plainLogout ++ [.logoutComplete 0])).UntilLogin t → t.SignedOut := by
  have hstep : sessions.step (.logoutComplete 0) (sessionAfter plainLogout) =
      some (sessionAfter (plainLogout ++ [.logoutComplete 0])) := by decide
  refine ⟨hstep, (logoutComplete_iff (reach_sessionAfter plainLogout) hstep).mpr ⟨⟨rfl, nofun⟩, ?_⟩⟩
  intro r x hx
  cases r with
  | zero =>
    cases hx
    exact fun hmay => hmay
  | succ r => cases hx

/-- The response of the refresh comes after the logout has completed: the browser holds a cookie
that the server accepts, and the script an access token. -/
theorem logout_not_always_final :
    ¬ ∀ (s s' t : Session) (i : Nat), sessions.Reach (fun _ _ => True) s →
      sessions.step (.logoutComplete i) s = some s' → s'.UntilLogin t → t.SignedOut := by
  intro hall
  have hstep : sessions.step (.logoutComplete 0) (sessionAfter overtakenLogout) =
      some (sessionAfter (overtakenLogout ++ [.logoutComplete 0])) := by decide
  have hout := hall _ _ _ 0 (reach_sessionAfter overtakenLogout) hstep
    (System.reach_replayEnd (.init rfl) [.receive 0, .refreshSucceeded])
  have haccess := hout.1
  revert haccess
  decide

end SupportPilot.Frontend
