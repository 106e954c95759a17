/-
DawnChat/OAuth2/Provenance.lean

Where the entries of access tokens come from, when any number of OAuth2 requests run at
the same time.

A request is cut at its accesses to the maps; what it has in hand between two of them is
its phase.  Other requests can come in between, and time passes.  `Stepped` says what one
step of a request does.

Codes and refresh tokens are in one place at a time: a code lies in its map or is in the
hands of the request that took it out, and so is the entry of an access token, which
carries its refresh token.  So whoever succeeds with one of them is alone with it
(`Lib/Custody.lean`).  What an entry entitles to is copied from a code or from another
entry, and first of all from what a user has authorised (`Carries`).
-/
import DawnChat.Lib.Custody
import DawnChat.Lib.Interleave
import DawnChat.OAuth2.Store

namespace DawnChat.OAuth2

open RustStd Fallible Handler Run Interleave Custody HashMap Option Nat

/-! ### Requests in steps -/

/-- A request, with what it finds. -/
structure Call where
  settings : Oauth2ProviderConfig
  backend : Backend
  /-- Authorise a client, or ask for tokens. -/
  action : (Session × OAuth2LoginQuery) ⊕ OAuth2TokenRequest

/-- The form that is sent in; there is nothing in it when a client is authorised. -/
def Call.form (call : Call) : OAuth2TokenRequest :=
  call.action.elim (fun _ => { grantType := "" }) id

/-- What a request has taken out of a map. -/
inductive Held where
  | code (entry : AuthorizationCodeEntry)
  | access (entry : AccessTokenEntry)

namespace Held

def binding : Held → String × String × List String
  | code entry => entry.binding
  | access entry => entry.binding

/-- The code, as the request names it. -/
def code? (call : Call) : Held → Option String
  | code _ => call.form.code
  | access _ => none

/-- The code or the refresh token that the request has in hand. -/
def token (call : Call) : Held → Option String
  | code _ => call.form.code
  | access entry => some entry.refreshToken

end Held

/-- What tokens are issued for. -/
inductive Origin where
  /-- A code, with the time at which it was checked. -/
  | code (entry : AuthorizationCodeEntry) (checkedAt : Nat)
  | refresh (entry : AccessTokenEntry)

namespace Origin

def held : Origin → Held
  | code entry _ => .code entry
  | refresh entry => .access entry

/-- The access token that is issued. -/
def accessToken (drawn : Drawn) : Origin → String
  | code entry _ => entry.session.token
  | refresh _ => drawn.first

/-- The entry that is stored for it. -/
def entry (settings : Oauth2ProviderConfig) (drawn : Drawn) (now : Nat) (o : Origin) :
    AccessTokenEntry :=
  .new settings now o.held.binding.1 o.held.binding.2.1 o.held.binding.2.2 drawn.second

end Origin

/-- How far a request has come. -/
inductive Phase where
  | start
  /-- The codes have been cleaned up. -/
  | cleanedCodes (now : Nat)
  /-- The access tokens have been cleaned up. -/
  | cleanedAccess
  | cleaned
  /-- The code has been stored. -/
  | authorized (code : String)
  /-- The code has been taken out. -/
  | taken (entry : AuthorizationCodeEntry)
  /-- The refresh token has been looked up. -/
  | found (accessToken : String)
  /-- The access token has been taken out. -/
  | holding (entry : AccessTokenEntry)
  /-- All checks have been passed. -/
  | issuing (o : Origin)
  /-- The access token has been stored. -/
  | linking (o : Origin) (accessToken refreshToken : String)
  /-- The refresh token has been stored: the request is successful. -/
  | done (o : Origin) (accessToken refreshToken : String)
  | failed (e : Fault ErrorType)

namespace Call

/-- Store a code. -/
def nextAuthorize (call : Call) (drawn : Drawn) (now : Nat) (session : Session)
    (query : OAuth2LoginQuery) : Request Cache Phase := do
  let scopes ← ofExcept (grantedScopes call.settings call.backend query)
  insertAuthCode drawn.first
    { clientId := query.clientId
      userId := session.userId
      session := session
      redirectUri := query.redirectUri
      scopes := scopes
      expiresAt := now + authCodeTtlSeconds }
  let _ ← ofExcept (okOr .invalidOperation (call.backend.urlScheme query.redirectUri))
  return .authorized drawn.first

/-- Take a code out. -/
def nextCode (call : Call) : Request Cache Phase := do
  let code ← ofExcept (okOr .invalidOperation call.form.code)
  let entry ← ofExcept (okOr .invalidCredentials (← removeAuthCode code))
  return .taken entry

/-- Look a refresh token up. -/
def nextRefresh (call : Call) : Request Cache Phase := do
  let refreshToken ← ofExcept (okOr .invalidOperation call.form.refreshToken)
  let _ ← ofExcept (okOr .invalidOperation call.form.clientId)
  let accessToken ← ofExcept (okOr .invalidCredentials (← getRefreshToken refreshToken))
  return .found accessToken

/-- The first access to a map after cleaning up. -/
def nextCleaned (call : Call) (drawn : Drawn) (now : Nat) : Request Cache Phase :=
  match call.action with
  | .inl (session, query) => call.nextAuthorize drawn now session query
  | .inr form =>
    if form.grantType = "authorization_code" then call.nextCode
    else if form.grantType = "refresh_token" then call.nextRefresh
    else fail .invalidOperation

/-- The checks on a code. -/
def nextTaken (call : Call) (now : Nat) (entry : AuthorizationCodeEntry) :
    Request Cache Phase := do
  let clientId ← ofExcept (entry.check call.form now)
  ofExcept (checkClient call.settings call.backend clientId call.form.clientSecret)
  return .issuing (.code entry now)

/-- Take an access token out. -/
def nextFound (accessToken : String) : Request Cache Phase := do
  let entry ← ofExcept (okOr .invalidCredentials (← removeAccessToken accessToken))
  return .holding entry

/-- The checks on the entry of an access token, and the removal of its refresh token. -/
def nextHolding (call : Call) (now : Nat) (entry : AccessTokenEntry) : Request Cache Phase := do
  let refreshToken ← ofExcept (okOr .invalidOperation call.form.refreshToken)
  let clientId ← ofExcept (okOr .invalidOperation call.form.clientId)
  if entry.refreshToken ≠ refreshToken ∨ entry.refreshExpiresAt ≤ now then
    let _ ← removeRefreshToken refreshToken
    fail .invalidCredentials
  else
    throwIf (entry.clientId ≠ clientId) .invalidCredentials
    ofExcept (checkClient call.settings call.backend clientId call.form.clientSecret)
    let _ ← removeRefreshToken refreshToken
    return .issuing (.refresh entry)

/-- The next step of a request.  Only token requests come to the phases in which a code or an
entry is at hand. -/
def next (call : Call) (drawn : Drawn) (now : Nat) : Phase → Request Cache Phase
  | .start => do
      write fun c => .ok (c.retainAuthCodes now)
      return .cleanedCodes now
  | .cleanedCodes now => do
      write fun c => .ok (c.retainAccessTokens now)
      return .cleanedAccess
  | .cleanedAccess => do
      write fun c => .ok c.retainRefreshTokens
      return .cleaned
  | .cleaned => call.nextCleaned drawn now
  | .taken entry => call.nextTaken now entry
  | .found accessToken => nextFound accessToken
  | .holding entry => call.nextHolding now entry
  | .issuing o => do
      insertAccessToken (o.accessToken drawn) (o.entry call.settings drawn now)
      return .linking o (o.accessToken drawn) drawn.second
  | .linking o accessToken refreshToken => do
      insertRefreshToken refreshToken accessToken
      return .done o accessToken refreshToken
  | phase => return phase

end Call

/-! ### What a step does -/

namespace Phase

/-- What a request has in hand. -/
def held : Phase → Option Held
  | taken entry => some (.code entry)
  | holding entry => some (.access entry)
  | issuing o => some o.held
  | linking o _ _ => some o.held
  | done o _ _ => some o.held
  | _ => none

/-- The request has its tokens, or will have. -/
def origin : Phase → Option Origin
  | issuing o => some o
  | linking o _ _ => some o
  | done o _ _ => some o
  | _ => none

theorem held_of_origin {phase : Phase} {o : Origin} (h : phase.origin = some o) :
    phase.held = some o.held := by
  cases phase with
  | issuing | linking | done => exact congrArg (Option.map Origin.held) h
  | _ => cases h

end Phase

/-- The checks that tokens are issued after. -/
inductive Origin.Accepted (call : Call) : Origin → Prop
  | code {entry : AuthorizationCodeEntry} {checkedAt : Nat}
      (hcheck : entry.check call.form checkedAt = .ok entry.clientId)
      (hclient : checkClient call.settings call.backend entry.clientId call.form.clientSecret
        = .ok ()) :
      Accepted call (.code entry checkedAt)
  | refresh {entry : AccessTokenEntry} (htoken : call.form.refreshToken = some entry.refreshToken) :
      Accepted call (.refresh entry)

/-- One cache holds nothing else than another. -/
structure Cache.Sub (c' c : Cache) : Prop extends c'.Within c where
  codes : ∀ {code entry}, c'.authCodes.lookup code = some entry →
    c.authCodes.lookup code = some entry

/-- What a request finds in the maps. -/
def Cache.Offers (c : Cache) (call : Call) : Held → Prop
  | .code entry => ∃ code, call.form.code = some code ∧ c.authCodes.lookup code = some entry
  | .access entry => ∃ accessToken, c.accessTokens.lookup accessToken = some entry

/-- What a step of a request does, from its phase and the maps before. -/
inductive Stepped (call : Call) (drawn : Drawn) (now : Nat) (phase : Phase) (c : Cache) :
    Phase → Cache → Prop
  | idle {phase' : Phase} {c' : Cache} (hidle : phase'.held = none) (hsub : c'.Sub c) :
      Stepped call drawn now phase c phase' c'
  | stays : Stepped call drawn now phase c phase c
  | authorized {session : Session} {query : OAuth2LoginQuery} {scopes : List String}
      {entry : AuthorizationCodeEntry} (haction : call.action = .inl (session, query))
      (hscopes : grantedScopes call.settings call.backend query = .ok scopes)
      (hentry : entry.binding = (query.clientId, session.userId, scopes)) :
      Stepped call drawn now phase c (.authorized drawn.first)
        { c with authCodes := c.authCodes.insert drawn.first entry }
  | took {code : String} {entry : AuthorizationCodeEntry} (hcode : call.form.code = some code)
      (hentry : c.authCodes.lookup code = some entry) :
      Stepped call drawn now phase c (.taken entry)
        { c with authCodes := c.authCodes.erase code }
  | held {accessToken : String} {entry : AccessTokenEntry}
      (hentry : c.accessTokens.lookup accessToken = some entry) :
      Stepped call drawn now phase c (.holding entry)
        { c with accessTokens := c.accessTokens.erase accessToken }
  | accepted {o : Origin} {c' : Cache} (haccepted : o.Accepted call)
      (hheld : phase.held = some o.held) (hsub : c'.Sub c)
      (hchecked : ∀ entry checkedAt, o = .code entry checkedAt →
        phase = .taken entry ∧ checkedAt = now) :
      Stepped call drawn now phase c (.issuing o) c'
  | issued {o : Origin} (hphase : phase = .issuing o) :
      Stepped call drawn now phase c (.linking o (o.accessToken drawn) drawn.second)
        { c with
          accessTokens := c.accessTokens.insert (o.accessToken drawn)
            (o.entry call.settings drawn now) }
  | linked {o : Origin} {accessToken refreshToken : String}
      (hphase : phase = .linking o accessToken refreshToken) :
      Stepped call drawn now phase c (.done o accessToken refreshToken)
        { c with refreshTokens := c.refreshTokens.insert refreshToken accessToken }

open Call

section Stepped

variable {call : Call} {drawn : Drawn} {now : Nat} {c : Cache}

theorem Cache.Sub.refl (c : Cache) : c.Sub c := ⟨⟨id, id⟩, id⟩

theorem sub_retainAuthCodes (now : Nat) (c : Cache) : (c.retainAuthCodes now).Sub c where
  access h := h
  refresh h := h
  codes h := by
    have hcode := h
    rw [Cache.retainAuthCodes, lookup_retain, filter_eq_some_iff] at hcode
    exact hcode.1

theorem sub_retainAccessTokens (now : Nat) (c : Cache) : (c.retainAccessTokens now).Sub c where
  access h := by
    have hentry := h
    rw [Cache.retainAccessTokens, lookup_retain, filter_eq_some_iff] at hentry
    exact hentry.1
  refresh h := by
    have hrefresh := h
    rw [Cache.retainAccessTokens, lookup_foldl_erase] at hrefresh
    split at hrefresh
    · cases hrefresh
    · exact hrefresh
  codes h := h

theorem sub_retainRefreshTokens (c : Cache) : c.retainRefreshTokens.Sub c where
  access h := h
  refresh h := by
    have hrefresh := h
    rw [Cache.retainRefreshTokens, lookup_retain, filter_eq_some_iff] at hrefresh
    exact hrefresh.1
  codes h := h

theorem sub_eraseRefresh (c : Cache) (refreshToken : String) :
    Cache.Sub { c with refreshTokens := c.refreshTokens.erase refreshToken } c where
  access h := h
  refresh h := (lookup_erase_eq_some.mp h).2
  codes h := h

variable {scopes : List String} {session : Session}

theorem validateScopes_ok {requested clientAllowed providerSupported : List String}
    (h : validateScopes requested clientAllowed providerSupported = .ok scopes) :
    ∀ scope ∈ scopes, scope ∈ clientAllowed ∧ scope ∈ providerSupported := by
  rw [validateScopes] at h
  split at h
  · cases h
  · split at h
    · next hall =>
      obtain rfl := Except.ok.inj h
      exact fun scope hscope => (hall scope hscope).symm
    · cases h

variable {query : OAuth2LoginQuery} {α : Type} {x : Request Cache α} {c' : Cache}
  {e : Fault ErrorType} {phase' : Phase}

/-- Scopes are only granted for an address that can be parsed, and they are scopes of the client
and of the provider. -/
theorem grantedScopes_ok {settings : Oauth2ProviderConfig} {backend : Backend}
    (h : grantedScopes settings backend query = .ok scopes) :
    (∃ scheme, backend.urlScheme query.redirectUri = some scheme) ∧
    ∃ client, fetchOauthClient backend query.clientId = .ok client ∧
      ∀ scope ∈ scopes, scope ∈ client.oauth2Scopes.getD [] ∧
        scope ∈ parseScopes (some settings.supportedScopes) := by
  rw [grantedScopes] at h
  by_cases htype : query.responseType.getD "code" ≠ "code"
  · rw [if_pos htype] at h
    cases h
  by_cases hvalid : ¬ isValidRedirectUri backend query.redirectUri = true
  · rw [if_neg htype, if_pos hvalid] at h
    cases h
  rw [if_neg htype, if_neg hvalid] at h
  obtain ⟨client, hclient, h⟩ := bind_eq_ok.mp h
  obtain ⟨uris, huris, h⟩ := bind_eq_ok.mp h
  by_cases huri : query.redirectUri ∉ uris
  · rw [if_pos huri] at h
    cases h
  rw [if_neg huri] at h
  dsimp only at h
  by_cases hempty : parseScopes (some settings.supportedScopes) = [] ∨
      client.oauth2Scopes.getD [] = []
  · rw [if_pos hempty] at h
    cases h
  rw [if_neg hempty] at h
  refine ⟨?_, client, hclient, validateScopes_ok h⟩
  rcases hscheme : backend.urlScheme query.redirectUri with - | scheme
  · rw [isValidRedirectUri, hscheme] at hvalid
    exact absurd Bool.false_ne_true hvalid
  · exact ⟨scheme, rfl⟩

/-! #### Steps that fail -/

theorem Cache.Sub.trans {c₁ c₂ c₃ : Cache} (h : c₁.Sub c₂) (h' : c₂.Sub c₃) : c₁.Sub c₃ :=
  ⟨h.toWithin.trans h'.toWithin, fun hlookup => h'.codes (h.codes hlookup)⟩

/-- The statement takes at most something out. -/
abbrev Reduces {α : Type} (x : Request Cache α) : Prop := Handler.Relates (fun c c' => c'.Sub c) x

theorem reduces_of_readOnly [ReadOnly x] : Reduces x :=
  ReadOnly.relates Cache.Sub.refl

theorem Reduces.andThen {β : Type} {f : α → Request Cache β} (hx : Reduces x)
    (hf : ∀ a, Reduces (f a)) : Reduces (x >>= f) :=
  hx.bind (fun h h' => h'.trans h) hf


theorem reduces_removeAuthCode (code : String) : Reduces (removeAuthCode code) :=
  fun _ => ⟨⟨id, id⟩, fun h => (lookup_erase_eq_some.mp h).2⟩

theorem reduces_removeAccessToken (token : String) : Reduces (removeAccessToken token) :=
  fun _ => ⟨⟨fun h => (lookup_erase_eq_some.mp h).2, id⟩, id⟩

theorem reduces_removeRefreshToken (token : String) : Reduces (removeRefreshToken token) :=
  fun c => sub_eraseRefresh c token

theorem reduces_nextCode : Reduces call.nextCode :=
  reduces_of_readOnly.andThen fun code => (reduces_removeAuthCode code).andThen fun _ =>
    reduces_of_readOnly

theorem reduces_nextRefresh : Reduces call.nextRefresh := by
  unfold nextRefresh getRefreshToken
  exact reduces_of_readOnly

theorem reduces_nextFound (accessToken : String) : Reduces (nextFound accessToken) :=
  (reduces_removeAccessToken _).andThen fun _ => reduces_of_readOnly

theorem reduces_nextTaken (entry : AuthorizationCodeEntry) :
    Reduces (call.nextTaken now entry) := by
  unfold nextTaken
  exact reduces_of_readOnly

theorem reduces_nextHolding (entry : AccessTokenEntry) : Reduces (call.nextHolding now entry) := by
  refine reduces_of_readOnly.andThen fun refreshToken => ?_
  refine reduces_of_readOnly.andThen fun clientId => ?_
  split
  · exact (reduces_removeRefreshToken _).andThen fun _ => reduces_of_readOnly
  · exact reduces_of_readOnly.andThen fun _ => reduces_of_readOnly.andThen fun _ =>
      (reduces_removeRefreshToken _).andThen fun _ => reduces_of_readOnly

/-- An authorisation fails before it has stored its code. -/
theorem nextAuthorize_error
    (h : exec (call.nextAuthorize drawn now session query) c = (.error e, c')) :
    c' = c := by
  rw [nextAuthorize] at h
  rcases hscopes : grantedScopes call.settings call.backend query with e | scopes
  · rw [exec_bind_of_error (exec_ofExcept_error hscopes c)] at h
    exact (Prod.mk.inj h).2.symm
  · obtain ⟨⟨scheme, hscheme⟩, -⟩ := grantedScopes_ok hscopes
    rw [exec_bind_of_ok (exec_ofExcept_ok.mpr ⟨hscopes, rfl⟩),
      exec_bind_of_ok (exec_insertAuthCode _ _ _), hscheme] at h
    cases h

/-! #### Steps that succeed -/

variable {phase : Phase}

theorem nextAuthorize_ok (haction : call.action = .inl (session, query))
    (h : exec (call.nextAuthorize drawn now session query) c = (.ok phase', c')) :
    Stepped call drawn now phase c phase' c' := by
  obtain ⟨scopes, hscopes, h⟩ := exec_ofExcept_bind_ok.mp h
  rw [exec_bind_of_ok (exec_insertAuthCode _ _ _)] at h
  obtain ⟨_, -, h⟩ := exec_ofExcept_bind_ok.mp h
  obtain ⟨rfl, rfl⟩ := exec_pure_ok.mp h
  exact .authorized haction hscopes rfl

theorem okOr_eq_ok {e : ErrorType} {o : Option α} {a : α} : okOr e o = .ok a ↔ o = some a := by
  cases o <;> simp [okOr]

theorem nextCode_ok (h : exec call.nextCode c = (.ok phase', c')) :
    Stepped call drawn now phase c phase' c' := by
  obtain ⟨code, hcode, h⟩ := exec_ofExcept_bind_ok.mp h
  rw [exec_bind_of_ok (exec_removeAuthCode _ _)] at h
  obtain ⟨entry, hentry, h⟩ := exec_ofExcept_bind_ok.mp h
  obtain ⟨rfl, rfl⟩ := exec_pure_ok.mp h
  exact .took (okOr_eq_ok.mp hcode) (okOr_eq_ok.mp hentry)

theorem nextRefresh_ok (h : exec call.nextRefresh c = (.ok phase', c')) :
    Stepped call drawn now phase c phase' c' := by
  obtain ⟨_, -, h⟩ := exec_ofExcept_bind_ok.mp h
  obtain ⟨_, -, h⟩ := exec_ofExcept_bind_ok.mp h
  rw [exec_bind_of_ok (exec_getRefreshToken _ _)] at h
  obtain ⟨accessToken, -, h⟩ := exec_ofExcept_bind_ok.mp h
  obtain ⟨rfl, rfl⟩ := exec_pure_ok.mp h
  exact .idle rfl (.refl c)

theorem nextFound_ok {accessToken : String}
    (h : exec (nextFound accessToken) c = (.ok phase', c')) :
    Stepped call drawn now phase c phase' c' := by
  rw [nextFound, exec_bind_of_ok (exec_removeAccessToken _ _)] at h
  obtain ⟨entry, hentry, h⟩ := exec_ofExcept_bind_ok.mp h
  obtain ⟨rfl, rfl⟩ := exec_pure_ok.mp h
  exact .held (okOr_eq_ok.mp hentry)

theorem nextTaken_ok {entry : AuthorizationCodeEntry}
    (h : exec (call.nextTaken now entry) c = (.ok phase', c')) :
    Stepped call drawn now (.taken entry) c phase' c' := by
  obtain ⟨clientId, hcheck, h⟩ := exec_ofExcept_bind_ok.mp h
  obtain ⟨_, hclient, h⟩ := exec_ofExcept_bind_ok.mp h
  obtain ⟨rfl, rfl⟩ := exec_pure_ok.mp h
  obtain ⟨rfl, -⟩ := check_ok hcheck
  refine .accepted (.code hcheck hclient) rfl (.refl c) fun _ _ heq => ?_
  obtain ⟨rfl, rfl⟩ := Origin.code.inj heq
  exact ⟨rfl, rfl⟩

theorem nextHolding_ok {entry : AccessTokenEntry}
    (h : exec (call.nextHolding now entry) c = (.ok phase', c')) :
    Stepped call drawn now (.holding entry) c phase' c' := by
  obtain ⟨refreshToken, htoken, h⟩ := exec_ofExcept_bind_ok.mp h
  obtain ⟨clientId, -, h⟩ := exec_ofExcept_bind_ok.mp h
  split at h
  · rw [exec_bind_of_ok (exec_removeRefreshToken _ _)] at h
    cases h
  · next hstale =>
    obtain ⟨_, -, h⟩ := exec_throwIf_bind_ok.mp h
    obtain ⟨_, -, h⟩ := exec_ofExcept_bind_ok.mp h
    rw [exec_bind_of_ok (exec_removeRefreshToken _ _)] at h
    obtain ⟨rfl, rfl⟩ := exec_pure_ok.mp h
    obtain rfl := not_not.mp (not_or.mp hstale).1
    refine .accepted (.refresh (okOr_eq_ok.mp htoken)) rfl (sub_eraseRefresh c _) ?_
    intro _ _ hcode
    cases hcode

/-- A step that takes at most something out when it fails. -/
theorem stepped_of_reduces
    (hok : ∀ phase' c', exec (call.next drawn now phase) c = (.ok phase', c') →
      Stepped call drawn now phase c phase' c') (hreduces : Reduces (call.next drawn now phase)) :
    Stepped call drawn now phase c (advance (call.next drawn now) .failed (phase, c)).1
      (advance (call.next drawn now) .failed (phase, c)).2 := by
  refine of_advance (fun e c' h => .idle rfl ?_) hok
  have hsub := hreduces c
  rwa [h] at hsub

theorem stepped_cleaned : Stepped call drawn now .cleaned c
    (advance (call.next drawn now) .failed (.cleaned, c)).1
    (advance (call.next drawn now) .failed (.cleaned, c)).2 := by
  have hnext : call.next drawn now .cleaned = call.nextCleaned drawn now := rfl
  rw [nextCleaned] at hnext
  split at hnext
  · next haction =>
    refine of_advance (fun e c' h => ?_) fun phase' c' h => nextAuthorize_ok haction (hnext ▸ h)
    obtain rfl := nextAuthorize_error (hnext ▸ h)
    exact .idle rfl (.refl c')
  · split at hnext
    · exact stepped_of_reduces (fun _ _ h => nextCode_ok (hnext ▸ h)) (hnext ▸ reduces_nextCode)
    · split at hnext
      · exact stepped_of_reduces (fun _ _ h => nextRefresh_ok (hnext ▸ h))
          (hnext ▸ reduces_nextRefresh)
      · refine stepped_of_reduces (fun _ _ h => ?_) (hnext ▸ fun c => .refl c)
        rw [hnext] at h
        cases h

/-- **What one step of a request does.** -/
theorem stepped (call : Call) (drawn : Drawn) (now : Nat) (phase : Phase) (c : Cache) :
    Stepped call drawn now phase c (advance (call.next drawn now) .failed (phase, c)).1
      (advance (call.next drawn now) .failed (phase, c)).2 := by
  cases phase with
  | start => exact .idle rfl (sub_retainAuthCodes now c)
  | cleanedCodes before => exact .idle rfl (sub_retainAccessTokens before c)
  | cleanedAccess => exact .idle rfl (sub_retainRefreshTokens c)
  | cleaned => exact stepped_cleaned
  | taken entry => exact stepped_of_reduces (fun _ _ => nextTaken_ok) (reduces_nextTaken entry)
  | found accessToken =>
    exact stepped_of_reduces (fun _ _ => nextFound_ok) (reduces_nextFound accessToken)
  | holding entry =>
    exact stepped_of_reduces (fun _ _ => nextHolding_ok) (reduces_nextHolding entry)
  | issuing o => exact .issued rfl
  | linking o accessToken refreshToken => exact .linked rfl
  | authorized code | done o accessToken refreshToken | failed e => exact .stays

/-! #### What is at hand and in the maps after a step -/

section After

variable (h : Stepped call drawn now phase c phase' c')

include h

theorem Stepped.held_cases {x : Held} (hx : phase'.held = some x) :
    phase.held = some x ∨ c.Offers call x := by
  cases h with
  | idle hidle => cases hidle.symm.trans hx
  | stays => exact .inl hx
  | authorized => cases hx
  | took hcode hentry =>
    obtain rfl := some.inj hx
    exact .inr ⟨_, hcode, hentry⟩
  | held hentry =>
    obtain rfl := some.inj hx
    exact .inr ⟨_, hentry⟩
  | accepted _ hheld => exact .inl (hheld.trans hx)
  | issued hphase | linked hphase => exact .inl (hphase ▸ hx)

/-- A code is checked once it has been taken out. -/
theorem Stepped.origin {entry : AuthorizationCodeEntry} {checkedAt : Nat}
    (ho : phase'.origin = some (.code entry checkedAt)) :
    phase.origin = some (.code entry checkedAt) ∨ phase = .taken entry ∧ checkedAt = now := by
  cases h with
  | idle hidle => cases hidle.symm.trans (Phase.held_of_origin ho)
  | stays => exact .inl ho
  | authorized | took | held => cases ho
  | accepted _ _ _ hchecked => exact .inr (hchecked _ _ (some.inj ho))
  | issued hphase | linked hphase => exact .inl (hphase ▸ ho)

/-- A new code has been made out for what the user has authorised. -/
theorem Stepped.authCode {code : String} {entry : AuthorizationCodeEntry}
    (hentry : c'.authCodes.lookup code = some entry) : c.authCodes.lookup code = some entry ∨
      phase' = .authorized code ∧ ∃ session query scopes,
        call.action = .inl (session, query) ∧
        grantedScopes call.settings call.backend query = .ok scopes ∧
        entry.binding = (query.clientId, session.userId, scopes) := by
  cases h with
  | idle _ hsub | accepted _ _ hsub => exact .inl (hsub.codes hentry)
  | authorized haction hscopes hbinding =>
    obtain ⟨rfl, rfl⟩ | ⟨-, hold⟩ := lookup_insert_eq_some.mp hentry
    · exact .inr ⟨rfl, _, _, _, haction, hscopes, hbinding⟩
    · exact .inl hold
  | took => exact .inl (lookup_erase_eq_some.mp hentry).2
  | stays | held | issued | linked => exact .inl hentry

/-- A new entry has the binding of what it was issued for. -/
theorem Stepped.accessToken {accessToken : String} {entry : AccessTokenEntry}
    (hentry : c'.accessTokens.lookup accessToken = some entry) :
    c.accessTokens.lookup accessToken = some entry ∨
      ∃ x, phase.held = some x ∧ entry.binding = x.binding := by
  cases h with
  | idle _ hsub | accepted _ _ hsub => exact .inl (hsub.access hentry)
  | held => exact .inl (lookup_erase_eq_some.mp hentry).2
  | @issued o hphase =>
    obtain ⟨-, rfl⟩ | ⟨-, hold⟩ := lookup_insert_eq_some.mp hentry
    · exact .inr ⟨o.held, hphase ▸ rfl, rfl⟩
    · exact .inl hold
  | stays | authorized | took | linked => exact .inl hentry

end After

end Stepped

/-! ### Any number of requests -/

variable {ι : Type} [DecidableEq ι]

/-- How far the requests have come, with the maps they share. -/
structure System (ι : Type) where
  phase : ι → Phase := fun _ => .start
  cache : Cache := {}
  /-- How many random values have been drawn. -/
  drawn : Nat := 0
  now : Nat := 0

/-- Where a code or a refresh token is: codes in their map, a refresh token in the entry of an
access token, and both in the hands of a request. -/
inductive Place (ι : Type) where
  | codes
  | entry (accessToken : String)
  | request (i : ι)

namespace System

section Step

variable (calls : ι → Call) (nanoid : ℕ ↪ String)

/-- A request takes its next step at some time. -/
def step (s : System ι) (input : ι × Nat) : Option (System ι) :=
  if s.now ≤ input.2 then
    let drawn : Drawn := ⟨nanoid s.drawn, nanoid (s.drawn + 1)⟩
    let next := advance ((calls input.1).next drawn input.2) .failed
      (s.phase input.1, s.cache)
    some
      { phase := Function.update s.phase input.1 next.1
        cache := next.2
        drawn := s.drawn + 2
        now := input.2 }
  else none

/-- The codes and refresh tokens in a place. -/
def holds (s : System ι) : Place ι → String → Prop
  | .codes, code => ∃ entry, s.cache.authCodes.lookup code = some entry
  | .entry accessToken, refreshToken => ∃ entry,
      s.cache.accessTokens.lookup accessToken = some entry ∧ entry.refreshToken = refreshToken
  | .request i, token => ∃ x, (s.phase i).held = some x ∧ x.token (calls i) = some token

/-- A user has authorised a client, for the scopes that were granted to it, which are scopes of
the client and of the provider; with the code that was made out, if one is given. -/
def Authorized (s : System ι) (code : Option String) (binding : String × String × List String) :
    Prop :=
  ∃ i session query code' scopes client,
    (calls i).action = .inl (session, query) ∧ s.phase i = .authorized code' ∧
    (∀ c ∈ code, c = code') ∧ binding = (query.clientId, session.userId, scopes) ∧
    grantedScopes (calls i).settings (calls i).backend query = .ok scopes ∧
    fetchOauthClient (calls i).backend query.clientId = .ok client ∧
    ∀ scope ∈ scopes, scope ∈ client.oauth2Scopes.getD [] ∧
      scope ∈ parseScopes (some (calls i).settings.supportedScopes)

/-- Somewhere there is a code or an entry that entitles to this. -/
inductive Carries (s : System ι) : Option String → String × String × List String → Prop
  | code {code : String} {entry : AuthorizationCodeEntry}
      (hentry : s.cache.authCodes.lookup code = some entry) : Carries s (some code) entry.binding
  | access {accessToken : String} {entry : AccessTokenEntry}
      (hentry : s.cache.accessTokens.lookup accessToken = some entry) :
      Carries s none entry.binding
  | held {i : ι} {x : Held} (hx : (s.phase i).held = some x) :
      Carries s (x.code? (calls i)) x.binding

/-- What every run keeps. -/
structure Inv (s : System ι) : Prop where
  tokens : InOnePlace nanoid s.drawn (s.holds calls)
  origin : ∀ {code binding}, s.Carries calls code binding → s.Authorized calls code binding
  named : ∀ {i x}, (s.phase i).held = some x → ∃ token, x.token (calls i) = some token
  accepted : ∀ {i o}, (s.phase i).origin = some o → o.Accepted (calls i)

variable {calls nanoid} {s s' : System ι} {i : ι} {now : Nat} {phase' : Phase} {cache' : Cache}

/-- The system after a step of one request. -/
def after (s : System ι) (i : ι) (now : Nat) (phase' : Phase) (cache' : Cache) : System ι where
  phase := Function.update s.phase i phase'
  cache := cache'
  drawn := s.drawn + 2
  now := now

/-- The step of a request, in the system.  A request that has authorised a client has nothing left
to do. -/
structure SteppedAt (calls : ι → Call) (nanoid : ℕ ↪ String) (s : System ι) (i : ι) (now : Nat)
    (phase' : Phase) (cache' : Cache) : Prop where
  stepped : Stepped (calls i) ⟨nanoid s.drawn, nanoid (s.drawn + 1)⟩ now (s.phase i) s.cache
    phase' cache'
  authorized : ∀ code, s.phase i = .authorized code → phase' = .authorized code

theorem step_cases {input : ι × Nat} (h : step calls nanoid s input = some s') :
    ∃ phase' cache', SteppedAt calls nanoid s input.1 input.2 phase' cache' ∧
      s' = s.after input.1 input.2 phase' cache' := by
  rw [step] at h
  split at h
  · refine ⟨_, _, ⟨stepped _ _ _ _ _, fun code hphase => ?_⟩, (some.inj h).symm⟩
    rw [hphase]
    rfl
  · cases h

theorem phase_after_self : (s.after i now phase' cache').phase i = phase' :=
  Function.update_self ..

theorem phase_after_ne {j : ι} (h : j ≠ i) : (s.after i now phase' cache').phase j = s.phase j :=
  Function.update_of_ne h ..

/-- What is in the places after a step: what the step leaves in the maps and in the hands of the
request, and what the other requests have. -/
theorem holds_after {R : Place ι → String → Prop}
    (hcodes : ∀ code entry, cache'.authCodes.lookup code = some entry → R .codes code)
    (hentries : ∀ accessToken entry, cache'.accessTokens.lookup accessToken = some entry →
      R (.entry accessToken) entry.refreshToken)
    (hself : ∀ x token, phase'.held = some x → x.token (calls i) = some token →
      R (.request i) token)
    (hothers : ∀ j token, s.holds calls (.request j) token → R (.request j) token)
    (p : Place ι) (token : String) (h : (s.after i now phase' cache').holds calls p token) :
    R p token := by
  cases p with
  | codes =>
    obtain ⟨entry, hentry⟩ := h
    exact hcodes token entry hentry
  | entry accessToken =>
    obtain ⟨entry, hentry, rfl⟩ := h
    exact hentries accessToken entry hentry
  | request j =>
    obtain ⟨x, hx, htoken⟩ := h
    by_cases hj : j = i
    · subst hj
      rw [phase_after_self] at hx
      exact hself x token hx htoken
    · rw [phase_after_ne hj] at hx
      exact hothers j token ⟨x, hx, htoken⟩

/-- A request that takes nothing new keeps everything in one place. -/
theorem tokens_lose (h : InOnePlace nanoid s.drawn (s.holds calls))
    (hcodes : ∀ {code entry}, cache'.authCodes.lookup code = some entry →
      s.cache.authCodes.lookup code = some entry)
    (haccess : ∀ {accessToken entry}, cache'.accessTokens.lookup accessToken = some entry →
      s.cache.accessTokens.lookup accessToken = some entry)
    (hheld : ∀ x, phase'.held = some x → (s.phase i).held = some x) :
    InOnePlace nanoid (s.drawn + 2) ((s.after i now phase' cache').holds calls) :=
  h.lose (le_add_right _ 2) <| holds_after (fun _ entry hentry => ⟨entry, hcodes hentry⟩)
    (fun _ entry hentry => ⟨entry, haccess hentry, rfl⟩)
    (fun x _ hx htoken => ⟨x, hheld x hx, htoken⟩) fun _ _ h => h

/-- **Codes and refresh tokens are in one place at a time.** -/
theorem tokens_step (h : InOnePlace nanoid s.drawn (s.holds calls))
    (hstep : SteppedAt calls nanoid s i now phase' cache') :
    InOnePlace nanoid (s.drawn + 2) ((s.after i now phase' cache').holds calls) := by
  cases hstep.stepped with
  | idle hidle hsub =>
    exact tokens_lose h hsub.codes hsub.access fun _ hx => by cases hidle.symm.trans hx
  | stays => exact tokens_lose h id id fun _ => id
  | authorized =>
    refine h.mint le_rfl (Nat.lt_add_of_pos_right Nat.two_pos) .codes <| holds_after
      (fun code entry hentry => ?_) (fun _ entry hentry => .inl ⟨entry, hentry, rfl⟩) nofun
      fun _ _ h => .inl h
    obtain ⟨rfl, -⟩ | ⟨-, hold⟩ := lookup_insert_eq_some.mp hentry
    · exact .inr ⟨rfl, rfl⟩
    · exact .inl ⟨entry, hold⟩
  | @took code entry hcode hentry =>
    refine h.handOver (le_add_right _ 2) .codes (.request i) ⟨entry, hentry⟩ <| holds_after
      (fun code' entry' hentry' => ?_)
      (fun _ entry hentry => .inl ⟨⟨entry, hentry, rfl⟩, nofun⟩) (fun x token hx htoken => ?_)
      fun _ _ h => .inl ⟨h, nofun⟩
    · obtain ⟨hne, hold⟩ := lookup_erase_eq_some.mp hentry'
      exact .inl ⟨⟨entry', hold⟩, fun _ => hne⟩
    · obtain rfl := some.inj hx
      exact .inr ⟨rfl, some.inj (htoken.symm.trans hcode)⟩
  | @held accessToken entry hentry =>
    refine h.handOver (le_add_right _ 2) (.entry accessToken) (.request i) ⟨entry, hentry, rfl⟩ <|
      holds_after (fun _ entry hentry => .inl ⟨⟨entry, hentry⟩, nofun⟩)
      (fun accessToken' entry' hentry' => ?_) (fun x token hx htoken => ?_)
      fun _ _ h => .inl ⟨h, nofun⟩
    · obtain ⟨hne, hold⟩ := lookup_erase_eq_some.mp hentry'
      exact .inl ⟨⟨entry', hold, rfl⟩, fun hplace => absurd (Place.entry.inj hplace) hne⟩
    · obtain rfl := some.inj hx
      exact .inr ⟨rfl, (some.inj htoken).symm⟩
  | accepted haccepted hheld hsub =>
    exact tokens_lose h hsub.codes hsub.access fun _ hx => hheld.trans hx
  | @issued o hphase =>
    let drawn : Drawn := ⟨nanoid s.drawn, nanoid (s.drawn + 1)⟩
    refine h.mint (le_add_right _ 1) (lt_succ_self _) (.entry (o.accessToken drawn)) <| holds_after
      (fun _ entry hentry => .inl ⟨entry, hentry⟩) (fun accessToken entry hentry => ?_)
      (fun x token hx htoken => .inl ⟨x, hphase ▸ hx, htoken⟩) fun _ _ h => .inl h
    obtain ⟨rfl, rfl⟩ | ⟨-, hold⟩ := lookup_insert_eq_some.mp hentry
    · exact .inr ⟨rfl, rfl⟩
    · exact .inl ⟨entry, hold, rfl⟩
  | linked hphase => exact tokens_lose h id id fun _ hx => hphase ▸ hx

variable {code : Option String} {binding : String × String × List String}

/-- Nobody takes an authorisation back. -/
theorem Authorized.after (h : s.Authorized calls code binding)
    (hstep : SteppedAt calls nanoid s i now phase' cache') :
    (s.after i now phase' cache').Authorized calls code binding := by
  obtain ⟨j, session, query, code', scopes, client, haction, hphase, hrest⟩ := h
  refine ⟨j, session, query, code', scopes, client, haction, ?_, hrest⟩
  by_cases hj : j = i
  · subst hj
    rw [phase_after_self]
    exact hstep.authorized code' hphase
  · rw [phase_after_ne hj]
    exact hphase

omit [DecidableEq ι] in
theorem Authorized.forget (h : s.Authorized calls code binding) :
    s.Authorized calls none binding := by
  obtain ⟨j, session, query, code', scopes, client, haction, hphase, -, hrest⟩ := h
  exact ⟨j, session, query, code', scopes, client, haction, hphase, nofun, hrest⟩

section Kept

variable (h : s.Inv calls nanoid) (hstep : SteppedAt calls nanoid s i now phase' cache')

include h hstep

/-- Whatever a code or an entry entitles to was authorised. -/
theorem origin_step (hcarries : (s.after i now phase' cache').Carries calls code binding) :
    (s.after i now phase' cache').Authorized calls code binding := by
  have hold : ∀ {code binding}, s.Carries calls code binding →
      (s.after i now phase' cache').Authorized calls code binding :=
    fun hcarries => (h.origin hcarries).after hstep
  cases hcarries with
  | code hentry =>
    obtain hbefore | ⟨rfl, session, query, scopes, haction, hscopes, hbinding⟩ :=
      hstep.stepped.authCode hentry
    · exact hold (.code hbefore)
    · obtain ⟨-, client, hclient, hsub⟩ := grantedScopes_ok hscopes
      refine ⟨i, session, query, _, scopes, client, haction, phase_after_self, ?_, hbinding,
        hscopes, hclient, hsub⟩
      exact fun c hc => (some.inj hc).symm
  | access hentry =>
    obtain hbefore | ⟨x, hx, hbinding⟩ := hstep.stepped.accessToken hentry
    · exact hold (.access hbefore)
    · rw [hbinding]
      exact (hold (.held hx)).forget
  | @held j x hx =>
    by_cases hj : j = i
    · subst hj
      rw [phase_after_self] at hx
      obtain hbefore | hoffers := hstep.stepped.held_cases hx
      · exact hold (.held hbefore)
      cases x with
      | code entry =>
        obtain ⟨code, hcode, hentry⟩ := hoffers
        rw [Held.code?, hcode]
        exact hold (.code hentry)
      | access entry =>
        obtain ⟨accessToken, hentry⟩ := hoffers
        exact hold (.access hentry)
    · rw [phase_after_ne hj] at hx
      exact hold (.held hx)

omit [DecidableEq ι] in
theorem named_step {x : Held} (hx : phase'.held = some x) :
    ∃ token, x.token (calls i) = some token := by
  obtain hbefore | hoffers := hstep.stepped.held_cases hx
  · exact h.named hbefore
  cases x with
  | code entry =>
    obtain ⟨code, hcode, -⟩ := hoffers
    exact ⟨code, hcode⟩
  | access entry => exact ⟨_, rfl⟩

omit [DecidableEq ι] in
theorem accepted_step {o : Origin} (ho : phase'.origin = some o) : o.Accepted (calls i) := by
  cases hstep.stepped with
  | idle hidle => cases hidle.symm.trans (Phase.held_of_origin ho)
  | stays => exact h.accepted ho
  | authorized | took | held => cases ho
  | accepted haccepted =>
    obtain rfl := some.inj ho
    exact haccepted
  | issued hphase | linked hphase => exact h.accepted (hphase ▸ ho)

theorem inv_after : (s.after i now phase' cache').Inv calls nanoid where
  tokens := tokens_step h.tokens hstep
  origin := origin_step h hstep
  named := by
    intro j x hx
    by_cases hj : j = i
    · subst hj
      rw [phase_after_self] at hx
      exact named_step h hstep hx
    · rw [phase_after_ne hj] at hx
      exact h.named hx
  accepted := by
    intro j o ho
    by_cases hj : j = i
    · subst hj
      rw [phase_after_self] at ho
      exact accepted_step h hstep ho
    · rw [phase_after_ne hj] at ho
      exact h.accepted ho

end Kept

omit [DecidableEq ι] in
theorem inv_start : ({} : System ι).Inv calls nanoid where
  tokens := .nowhere fun p token hp => by
    cases p with
    | codes =>
      obtain ⟨_, h⟩ := hp
      cases h
    | entry | request =>
      obtain ⟨_, h, -⟩ := hp
      cases h
  origin hcarries := by
    cases hcarries with
    | code h | access h | held h => cases h
  named hx := by cases hx
  accepted ho := by cases ho

end Step

/-! ### Where tokens come from -/

section Provenance

variable (calls : ι → Call) (nanoid : ℕ ↪ String)

/-- The request has been answered with tokens. -/
def Successful (s : System ι) (i : ι) (o : Origin) : Prop :=
  ∃ accessToken refreshToken, s.phase i = .done o accessToken refreshToken

/-- A step of the schedule at which the request checked the code that it had taken out. -/
def CheckedAt (schedule : List (ι × Nat)) (i : ι) (entry : AuthorizationCodeEntry)
    (checkedAt : Nat) : Prop :=
  ∃ l s, l ++ [(i, checkedAt)] <+: schedule ∧ run (step calls nanoid) {} l = some s ∧
    s.phase i = .taken entry

/-- Access goes back to what users have authorised, and codes and refresh tokens are used once. -/
structure Provenance (schedule : List (ι × Nat)) (s : System ι) : Prop where
  /-- An entry has the client, the user and the scopes of an authorisation. -/
  stored : ∀ {accessToken entry}, s.cache.accessTokens.lookup accessToken = some entry →
    s.Authorized calls none entry.binding
  /-- A code is redeemed for the client it was made out for, which has shown its secret, and not
  after it expired. -/
  redeemed : ∀ {i entry checkedAt}, s.Successful i (.code entry checkedAt) →
    ∃ form code client, (calls i).action = .inr form ∧ form.code = some code ∧
      s.Authorized calls (some code) entry.binding ∧
      form.clientId.getD entry.clientId = entry.clientId ∧
      fetchOauthClient (calls i).backend entry.clientId = .ok client ∧
      validateClientSecret client form.clientSecret (calls i).settings.allowPublicClients = true ∧
      CheckedAt calls nanoid schedule i entry checkedAt ∧ checkedAt < entry.expiresAt
  /-- A code is redeemed once. -/
  codeOnce : ∀ {i j entry entry' checkedAt checkedAt'}, s.Successful i (.code entry checkedAt) →
    s.Successful j (.code entry' checkedAt') → (calls i).form.code = (calls j).form.code → i = j
  /-- A refresh token is used once. -/
  refreshOnce : ∀ {i j entry entry'}, s.Successful i (.refresh entry) →
    s.Successful j (.refresh entry') →
    (calls i).form.refreshToken = (calls j).form.refreshToken → i = j

variable {calls nanoid} {schedule : List (ι × Nat)} {s : System ι} {i : ι}

/-- Whoever has passed the checks on a code did so at a step of the schedule. -/
theorem checkedAt_of_origin (hrun : run (step calls nanoid) {} schedule = some s)
    {entry : AuthorizationCodeEntry} {checkedAt : Nat}
    (ho : (s.phase i).origin = some (.code entry checkedAt)) :
    CheckedAt calls nanoid schedule i entry checkedAt := by
  have hhistory := run_history (R := fun l (s : System ι) => run (step calls nanoid) {} l = some s ∧
      ∀ i entry checkedAt, (s.phase i).origin = some (.code entry checkedAt) →
        CheckedAt calls nanoid l i entry checkedAt)
    (fun l s input s' ⟨hl, hs⟩ hstep => ⟨?_, fun j entry checkedAt ho => ?_⟩)
    ⟨rfl, fun _ _ _ ho => (nomatch ho)⟩ hrun
  · exact hhistory.2 i entry checkedAt ho
  · rw [run_append, hl, bind_some, run_cons, hstep]
    rfl
  · obtain ⟨phase', cache', hstepped, rfl⟩ := step_cases hstep
    have hold : (s.phase j).origin = some (.code entry checkedAt) →
        CheckedAt calls nanoid (l ++ [input]) j entry checkedAt := fun ho => by
      obtain ⟨l₁, s₁, hpre, hrest⟩ := hs j entry checkedAt ho
      exact ⟨l₁, s₁, hpre.trans (List.prefix_append _ _), hrest⟩
    by_cases hj : j = input.1
    · subst hj
      rw [phase_after_self] at ho
      obtain ho | ⟨htaken, rfl⟩ := hstepped.stepped.origin ho
      · exact hold ho
      · exact ⟨l, s, List.prefix_rfl, hl, htaken⟩
    · rw [phase_after_ne hj] at ho
      exact hold ho

omit [DecidableEq ι] in
/-- Only a form can have a code in it. -/
theorem action_of_code {code : String} (h : (calls i).form.code = some code) :
    (calls i).action = .inr (calls i).form := by
  rw [Call.form] at h ⊢
  rcases haction : (calls i).action with login | form
  · rw [haction] at h
    cases h
  · rfl

theorem checkClient_ok {settings : Oauth2ProviderConfig} {backend : Backend} {clientId : String}
    {clientSecret : Option String}
    (h : checkClient settings backend clientId clientSecret = .ok ()) :
    ∃ client, fetchOauthClient backend clientId = .ok client ∧
      validateClientSecret client clientSecret settings.allowPublicClients = true := by
  obtain ⟨client, hclient, h⟩ := bind_eq_ok.mp h
  refine ⟨client, hclient, ?_⟩
  by_contra hsecret
  rw [if_neg hsecret] at h
  cases h

section Successful

variable (hinv : s.Inv calls nanoid)

omit [DecidableEq ι] in
theorem Successful.origin {o : Origin} (h : s.Successful i o) : (s.phase i).origin = some o := by
  obtain ⟨accessToken, refreshToken, hphase⟩ := h
  rw [hphase, Phase.origin]

include hinv

omit [DecidableEq ι] in
/-- Whoever was successful still has in hand what the tokens were issued for, and nobody else
has. -/
theorem Successful.unique {j : ι} {o o' : Origin} (hi : s.Successful i o) (hj : s.Successful j o')
    (heq : o.held.token (calls i) = o'.held.token (calls j)) : i = j := by
  have hheld := Phase.held_of_origin hi.origin
  obtain ⟨token, htoken⟩ := hinv.named hheld
  exact Place.request.inj (hinv.tokens.unique ⟨_, hheld, htoken⟩
    ⟨_, Phase.held_of_origin hj.origin, heq ▸ htoken⟩)

omit [DecidableEq ι] in
theorem Successful.refreshToken {entry : AccessTokenEntry} (h : s.Successful i (.refresh entry)) :
    (calls i).form.refreshToken = some entry.refreshToken := by
  cases hinv.accepted h.origin with
  | refresh htoken => exact htoken

theorem Inv.provenance (hrun : run (step calls nanoid) {} schedule = some s) :
    s.Provenance calls nanoid schedule where
  stored hentry := hinv.origin (.access hentry)
  redeemed := by
    intro i entry checkedAt h
    have hheld := Phase.held_of_origin h.origin
    obtain ⟨code, (hcode : (calls i).form.code = some code)⟩ := hinv.named hheld
    have hauthorized : s.Authorized calls (calls i).form.code entry.binding :=
      hinv.origin (.held hheld)
    rw [hcode] at hauthorized
    cases hinv.accepted h.origin with
    | code hcheck hclient =>
      obtain ⟨-, hown, hexpires⟩ := check_ok hcheck
      obtain ⟨client, hfetch, hsecret⟩ := checkClient_ok hclient
      exact ⟨_, code, client, action_of_code hcode, hcode, hauthorized, hown, hfetch, hsecret,
        checkedAt_of_origin hrun h.origin, hexpires⟩
  codeOnce hi hj heq := hi.unique hinv hj heq
  refreshOnce hi hj heq := hi.unique hinv hj
    ((hi.refreshToken hinv).symm.trans (heq.trans (hj.refreshToken hinv)))

end Successful

/-- **Access goes back to what users have authorised**, however the requests are interleaved and
however often tokens are refreshed; each code and each refresh token is good for one answer. -/
theorem provenance_of_run (calls : ι → Call) (nanoid : ℕ ↪ String) {schedule : List (ι × Nat)}
    {s : System ι} (hrun : run (step calls nanoid) {} schedule = some s) :
    s.Provenance calls nanoid schedule := by
  refine (run_keeps (P := Inv calls nanoid) (fun s input s' hs hstep => ?_) hrun
    inv_start).provenance hrun
  obtain ⟨phase', cache', hstepped, rfl⟩ := step_cases hstep
  exact inv_after hs hstepped

/-- Somebody authorises a client, which exchanges the code and uses the refresh token. -/
def exampleCalls (i : Fin 3) : Call where
  settings := exampleSettings
  backend := exampleBackend
  action :=
    match i with
    | 0 => .inl (⟨"user", "session"⟩, { clientId := "a", redirectUri := "a" })
    | 1 => .inr
        { grantType := "authorization_code", code := exampleNanoid 6, clientSecret := "a" }
    | 2 => .inr
        { grantType := "refresh_token", refreshToken := exampleNanoid 19
          clientId := "a", clientSecret := "a" }

theorem provenance_of_run_refreshed :
    ∃ s, run (step exampleCalls exampleNanoid) {}
        (List.replicate 4 (0, 0) ++ List.replicate 7 (1, 1) ++ List.replicate 8 (2, 2)) = some s ∧
      ((s.phase 1).origin.isSome ∧ (s.phase 2).origin.isSome) ∧
      s.Provenance exampleCalls exampleNanoid
        (List.replicate 4 (0, 0) ++ List.replicate 7 (1, 1) ++ List.replicate 8 (2, 2)) :=
  exists_run_of (fun s => (s.phase 1).origin.isSome ∧ (s.phase 2).origin.isSome)
    (by decide +kernel) fun _ hrun hsome =>
      ⟨hsome, provenance_of_run exampleCalls exampleNanoid hrun⟩

end Provenance

end System

end DawnChat.OAuth2
