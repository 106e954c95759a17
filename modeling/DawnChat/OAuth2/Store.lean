/-
DawnChat/OAuth2/Store.lean

The OAuth2 provider (`delta/src/routes/oauth2`).

Three maps in memory hold what has been granted: authorization codes, access tokens,
and for each refresh token the access token that it renews.  A user authorises a client
and a code is made out; the client exchanges the code for a pair of tokens, and can
renew or revoke the pair.

The access token of a pair is the token of the user's session when the pair comes from
a code, and a new random value when it comes from a renewal.  Renewing and revoking
take the entry of the access token out of the map before they look whose it is.

Every access to a map is one statement of its own.  What a request does to the maps is
said once, by the relations `CodeOutcome`, `RefreshOutcome` and `RevokeOutcome`.
-/
import DawnChat.Lib.HashMap
import DawnChat.Result
import Mathlib.Logic.Embedding.Basic

namespace DawnChat.OAuth2

open RustStd Fallible Handler HashMap List Option

/-! ### Data -/

/-- A login session of a user. -/
structure Session where
  userId : String
  token : String
  deriving DecidableEq, Repr

structure AuthorizationCodeEntry where
  clientId : String
  userId : String
  session : Session
  redirectUri : String
  scopes : List String
  expiresAt : Nat
  deriving DecidableEq, Repr

structure AccessTokenEntry where
  clientId : String
  userId : String
  scopes : List String
  expiresAt : Nat
  refreshToken : String
  refreshExpiresAt : Nat
  deriving DecidableEq, Repr

structure OAuth2LoginQuery where
  clientId : String
  redirectUri : String
  responseType : Option String := none
  scope : Option String := none
  state : Option String := none
  deriving DecidableEq, Repr

structure OAuth2TokenRequest where
  grantType : String
  code : Option String := none
  redirectUri : Option String := none
  clientId : Option String := none
  clientSecret : Option String := none
  refreshToken : Option String := none
  deriving DecidableEq, Repr

structure OAuth2TokenResponse where
  accessToken : String
  tokenType : String
  expiresIn : Nat
  refreshToken : String
  scope : String
  session : Option Session
  deriving DecidableEq, Repr

structure OAuth2RevokeRequest where
  token : String
  clientId : String
  clientSecret : Option String := none
  deriving DecidableEq, Repr

structure OAuth2MeResponse where
  userId : String
  clientId : String
  scope : String
  expiresAt : Nat
  deriving DecidableEq, Repr

/-- Where the user is sent with the code. -/
structure Redirect where
  uri : String
  code : String
  state : Option String
  deriving DecidableEq, Repr

/-- What a bot says about itself as a client. -/
structure Bot where
  oauth2ClientId : Option String := none
  oauth2ClientSecret : Option String := none
  oauth2RedirectUris : Option (List String) := none
  oauth2Scopes : Option (List String) := none
  deriving DecidableEq, Repr

structure Oauth2ProviderConfig where
  /-- Access token lifetime in seconds. -/
  accessTokenLifetime : Nat
  /-- Refresh token lifetime in seconds. -/
  refreshTokenLifetime : Nat
  /-- Supported scopes (comma-separated string). -/
  supportedScopes : String
  /-- Allow public clients (no client secret). -/
  allowPublicClients : Bool

/-- What a request finds besides the maps. -/
structure Backend where
  bots : List Bot := []
  /-- The scheme of a URL, if it can be parsed. -/
  urlScheme : String → Option String := fun _ => none
  /-- The order in which a set collected from the list is iterated. -/
  setOrder : List String → List String := id

/-- What the clock says at the three places at which a request can look at it. -/
structure Readings where
  cleanup : Nat
  check : Nat
  issue : Nat
  cleanup_le_check : cleanup ≤ check
  check_le_issue : check ≤ issue

/-- The values that a request draws at random. -/
structure Drawn where
  /-- An authorization code, or an access token. -/
  first : String
  /-- A refresh token. -/
  second : String

/-- The three maps. -/
@[ext] structure Cache where
  authCodes : HashMap String AuthorizationCodeEntry := ∅
  accessTokens : HashMap String AccessTokenEntry := ∅
  refreshTokens : HashMap String String := ∅

/-! ### The maps -/

def authCodeTtlSeconds : Nat := 10 * 60

namespace AccessTokenEntry

/-- One of the two tokens can still be used. -/
def keep (entry : AccessTokenEntry) (now : Nat) : Bool :=
  entry.expiresAt > now || entry.refreshExpiresAt > now

end AccessTokenEntry

namespace Cache

def retainAuthCodes (now : Nat) (c : Cache) : Cache :=
  { c with authCodes := c.authCodes.retain fun _ entry => entry.expiresAt > now }

/-- The refresh tokens of the entries that are dropped. -/
def expiredRefreshTokens (now : Nat) (c : Cache) : List String :=
  (c.accessTokens.values.filter fun entry => !entry.keep now).map (·.refreshToken)

/-- Entries are dropped with their refresh token. -/
def retainAccessTokens (now : Nat) (c : Cache) : Cache :=
  { c with
    accessTokens := c.accessTokens.retain fun _ entry => entry.keep now
    refreshTokens := (c.expiredRefreshTokens now).foldl (fun m token => m.erase token)
      c.refreshTokens }

def retainRefreshTokens (c : Cache) : Cache :=
  { c with refreshTokens := c.refreshTokens.retain fun _ token => token ∈ c.accessTokens }

/-- The maps after `cleanup_oauth2_cache`. -/
def cleanup (now : Nat) (c : Cache) : Cache :=
  ((c.retainAuthCodes now).retainAccessTokens now).retainRefreshTokens

/-- The maps with a new pair of tokens. -/
def issue (c : Cache) (accessToken : String) (entry : AccessTokenEntry) : Cache :=
  { c with
    accessTokens := c.accessTokens.insert accessToken entry
    refreshTokens := c.refreshTokens.insert entry.refreshToken accessToken }

end Cache

section Statements

/-- `AUTH_CODES.insert` -/
def insertAuthCode (code : String) (entry : AuthorizationCodeEntry) : Request Cache Unit :=
  write fun c => .ok { c with authCodes := c.authCodes.insert code entry }

/-- `AUTH_CODES.remove` -/
def removeAuthCode (code : String) : Request Cache (Option AuthorizationCodeEntry) := do
  let c ← get
  set { c with authCodes := c.authCodes.erase code }
  return c.authCodes.lookup code

/-- `ACCESS_TOKENS.insert` -/
def insertAccessToken (token : String) (entry : AccessTokenEntry) : Request Cache Unit :=
  write fun c => .ok { c with accessTokens := c.accessTokens.insert token entry }

/-- `ACCESS_TOKENS.get` -/
def getAccessToken (token : String) : Request Cache (Option AccessTokenEntry) :=
  read fun c => .ok (c.accessTokens.lookup token)

/-- `ACCESS_TOKENS.remove` -/
def removeAccessToken (token : String) : Request Cache (Option AccessTokenEntry) := do
  let c ← get
  set { c with accessTokens := c.accessTokens.erase token }
  return c.accessTokens.lookup token

/-- `REFRESH_TOKENS.insert` -/
def insertRefreshToken (token accessToken : String) : Request Cache Unit :=
  write fun c => .ok { c with refreshTokens := c.refreshTokens.insert token accessToken }

/-- `REFRESH_TOKENS.get` -/
def getRefreshToken (token : String) : Request Cache (Option String) :=
  read fun c => .ok (c.refreshTokens.lookup token)

/-- `REFRESH_TOKENS.remove` -/
def removeRefreshToken (token : String) : Request Cache (Option String) := do
  let c ← get
  set { c with refreshTokens := c.refreshTokens.erase token }
  return c.refreshTokens.lookup token

def cleanupOauth2Cache (now : Nat) : Request Cache Unit := do
  write fun c => .ok (c.retainAuthCodes now)
  write fun c => .ok (c.retainAccessTokens now)
  write fun c => .ok c.retainRefreshTokens

end Statements

/-! ### Checks -/

/-- `ok_or_else` -/
def okOr {α : Type} (e : ErrorType) : Option α → Result α
  | some a => .ok a
  | none => .error e

/-- `char::is_whitespace` -/
def isWhitespace (c : Char) : Bool :=
  (9 ≤ c.toNat && c.toNat ≤ 13) || (0x2000 ≤ c.toNat && c.toNat ≤ 0x200a) ||
    c.toNat ∈ [0x20, 0x85, 0xa0, 0x1680, 0x2028, 0x2029, 0x202f, 0x205f, 0x3000]

/-- The pieces between commas and blanks, without the empty ones. -/
def parseScopes (value : Option String) : List String :=
  (((value.getD "").toList.splitOnP fun c => c = ',' || isWhitespace c).map String.ofList).filter
    (· ≠ "")

def isValidRedirectUri (backend : Backend) (uri : String) : Bool :=
  match backend.urlScheme uri with
  | some scheme => scheme = "https" || scheme = "http"
  | none => false

def validateScopes (requested clientAllowed providerSupported : List String) :
    Result (List String) :=
  if requested = [] then .error .invalidOperation
  else if ∀ scope ∈ requested, scope ∈ providerSupported ∧ scope ∈ clientAllowed then .ok requested
  else .error .invalidOperation

def validateClientSecret (bot : Bot) (providedSecret : Option String)
    (allowPublicClients : Bool) : Bool :=
  match bot.oauth2ClientSecret with
  | some secret => providedSecret = some secret
  | none => allowPublicClients

def fetchOauthClient (backend : Backend) (clientId : String) : Result Bot :=
  okOr .invalidCredentials (backend.bots.find? fun bot => bot.oauth2ClientId = some clientId)

/-- The client exists and has shown its secret. -/
def checkClient (settings : Oauth2ProviderConfig) (backend : Backend) (clientId : String)
    (clientSecret : Option String) : Result Unit := do
  let bot ← fetchOauthClient backend clientId
  if validateClientSecret bot clientSecret settings.allowPublicClients then .ok ()
  else .error .invalidCredentials

/-- The scopes that a user grants to a client. -/
def grantedScopes (settings : Oauth2ProviderConfig) (backend : Backend)
    (query : OAuth2LoginQuery) : Result (List String) := do
  if query.responseType.getD "code" ≠ "code" then .error .invalidOperation
  if ¬ isValidRedirectUri backend query.redirectUri then .error .invalidOperation
  let client ← fetchOauthClient backend query.clientId
  let allowedRedirectUris ← okOr .invalidOperation client.oauth2RedirectUris
  if query.redirectUri ∉ allowedRedirectUris then .error .invalidOperation
  let supportedScopes := parseScopes (some settings.supportedScopes)
  let clientScopes := client.oauth2Scopes.getD []
  if supportedScopes = [] ∨ clientScopes = [] then .error (.featureDisabled "oauth2")
  let scopes := parseScopes query.scope
  let requestedScopes := if scopes = [] then backend.setOrder clientScopes else scopes
  validateScopes requestedScopes clientScopes supportedScopes

/-- The checks on a code that has been taken out of the map; the id of the client is returned. -/
def AuthorizationCodeEntry.check (entry : AuthorizationCodeEntry) (form : OAuth2TokenRequest)
    (now : Nat) : Result String := do
  if entry.expiresAt ≤ now then .error .invalidCredentials
  let clientId := form.clientId.getD entry.clientId
  if clientId ≠ entry.clientId then .error .invalidCredentials
  if form.redirectUri.any (· ≠ entry.redirectUri) then .error .invalidCredentials
  return clientId

/-! ### The endpoints -/

/-- The entry of a new pair of tokens. -/
def AccessTokenEntry.new (settings : Oauth2ProviderConfig) (now : Nat)
    (clientId userId : String) (scopes : List String) (refreshToken : String) :
    AccessTokenEntry where
  clientId := clientId
  userId := userId
  scopes := scopes
  expiresAt := now + settings.accessTokenLifetime
  refreshToken := refreshToken
  refreshExpiresAt := now + settings.refreshTokenLifetime

section Endpoints

variable (settings : Oauth2ProviderConfig) (backend : Backend) (clock : Readings) (drawn : Drawn)

/-- The response to a token request. -/
def tokenResponse (accessToken : String) (entry : AccessTokenEntry) (session : Option Session) :
    OAuth2TokenResponse where
  accessToken := accessToken
  tokenType := "Bearer"
  expiresIn := settings.accessTokenLifetime
  refreshToken := entry.refreshToken
  scope := " ".intercalate entry.scopes
  session := session

def issueTokens (clientId userId : String) (scopes : List String) (session : Option Session) :
    Request Cache OAuth2TokenResponse := do
  let accessToken := (session.map (·.token)).getD drawn.first
  let entry := AccessTokenEntry.new settings clock.issue clientId userId scopes drawn.second
  insertAccessToken accessToken entry
  insertRefreshToken entry.refreshToken accessToken
  return tokenResponse settings accessToken entry session

/-- `GET /login` and `GET /authorize` -/
def issueAuthorizationCode (session : Session) (query : OAuth2LoginQuery) :
    Request Cache Redirect := do
  cleanupOauth2Cache clock.cleanup
  let scopes ← ofExcept (grantedScopes settings backend query)
  insertAuthCode drawn.first
    { clientId := query.clientId
      userId := session.userId
      session := session
      redirectUri := query.redirectUri
      scopes := scopes
      expiresAt := clock.check + authCodeTtlSeconds }
  let _ ← ofExcept (okOr .invalidOperation (backend.urlScheme query.redirectUri))
  return { uri := query.redirectUri, code := drawn.first, state := query.state }

/-- A token request with an authorization code. -/
def authorizationCodeGrant (form : OAuth2TokenRequest) : Request Cache OAuth2TokenResponse := do
  let code ← ofExcept (okOr .invalidOperation form.code)
  let entry ← ofExcept (okOr .invalidCredentials (← removeAuthCode code))
  let clientId ← ofExcept (entry.check form clock.check)
  ofExcept (checkClient settings backend clientId form.clientSecret)
  issueTokens settings clock drawn clientId entry.userId entry.scopes (some entry.session)

/-- A token request with a refresh token. -/
def refreshTokenGrant (form : OAuth2TokenRequest) : Request Cache OAuth2TokenResponse := do
  let refreshToken ← ofExcept (okOr .invalidOperation form.refreshToken)
  let clientId ← ofExcept (okOr .invalidOperation form.clientId)
  let accessToken ← ofExcept (okOr .invalidCredentials (← getRefreshToken refreshToken))
  let entry ← ofExcept (okOr .invalidCredentials (← removeAccessToken accessToken))
  if entry.refreshToken ≠ refreshToken ∨ entry.refreshExpiresAt ≤ clock.check then
    let _ ← removeRefreshToken refreshToken
    fail .invalidCredentials
  else
    throwIf (entry.clientId ≠ clientId) .invalidCredentials
    ofExcept (checkClient settings backend clientId form.clientSecret)
    let _ ← removeRefreshToken refreshToken
    issueTokens settings clock drawn clientId entry.userId entry.scopes none

/-- `POST /token` -/
def token (form : OAuth2TokenRequest) : Request Cache OAuth2TokenResponse := do
  cleanupOauth2Cache clock.cleanup
  if form.grantType = "authorization_code" then
    authorizationCodeGrant settings backend clock drawn form
  else if form.grantType = "refresh_token" then
    refreshTokenGrant settings backend clock drawn form
  else fail .invalidOperation

/-- Take out the tokens that a client names, as an access token or as a refresh token. -/
def revokeTokens (form : OAuth2RevokeRequest) : Request Cache Unit := do
  match ← removeAccessToken form.token with
  | some access =>
    throwIf (access.clientId ≠ form.clientId) .invalidCredentials
    let _ ← removeRefreshToken access.refreshToken
  | none =>
    match ← removeRefreshToken form.token with
    | some accessToken =>
      match ← removeAccessToken accessToken with
      | some access => throwIf (access.clientId ≠ form.clientId) .invalidCredentials
      | none => pure ()
    | none => pure ()

/-- `POST /revoke` -/
def revoke (form : OAuth2RevokeRequest) : Request Cache Unit := do
  cleanupOauth2Cache clock.cleanup
  ofExcept (checkClient settings backend form.clientId form.clientSecret)
  revokeTokens form

/-- `GET /@me` -/
def me (accessToken : String) : Request Cache OAuth2MeResponse := do
  cleanupOauth2Cache clock.cleanup
  let entry ← ofExcept (okOr .invalidCredentials (← getAccessToken accessToken))
  throwIf (entry.expiresAt ≤ clock.check) .invalidCredentials
  return { userId := entry.userId, clientId := entry.clientId,
           scope := " ".intercalate entry.scopes, expiresAt := entry.expiresAt }

end Endpoints

/-! ### What the statements do -/

section Exec

variable (c : Cache)

@[simp] theorem exec_cleanupOauth2Cache (now : Nat) :
    exec (cleanupOauth2Cache now) c = (.ok (), c.cleanup now) := rfl

@[simp] theorem exec_insertAuthCode (code : String) (entry : AuthorizationCodeEntry) :
    exec (insertAuthCode code entry) c
      = (.ok (), { c with authCodes := c.authCodes.insert code entry }) := rfl

@[simp] theorem exec_removeAuthCode (code : String) :
    exec (removeAuthCode code) c
      = (.ok (c.authCodes.lookup code), { c with authCodes := c.authCodes.erase code }) := rfl

@[simp] theorem exec_removeAccessToken (token : String) :
    exec (removeAccessToken token) c
      = (.ok (c.accessTokens.lookup token),
          { c with accessTokens := c.accessTokens.erase token }) := rfl

@[simp] theorem exec_removeRefreshToken (token : String) :
    exec (removeRefreshToken token) c
      = (.ok (c.refreshTokens.lookup token),
          { c with refreshTokens := c.refreshTokens.erase token }) := rfl

@[simp] theorem exec_getRefreshToken (token : String) :
    exec (getRefreshToken token) c = (.ok (c.refreshTokens.lookup token), c) := rfl

end Exec

/-! ### Which tokens are there -/

/-- What a code entitles to: client, user and scopes. -/
def AuthorizationCodeEntry.binding (entry : AuthorizationCodeEntry) :
    String × String × List String :=
  (entry.clientId, entry.userId, entry.scopes)

/-- What a token entitles to. -/
def AccessTokenEntry.binding (entry : AccessTokenEntry) : String × String × List String :=
  (entry.clientId, entry.userId, entry.scopes)

namespace Cache

variable {c : Cache} {now : Nat} {accessToken refreshToken : String} {entry : AccessTokenEntry}

/-- One cache holds no other tokens than another. -/
structure Within (c' c : Cache) : Prop where
  access : ∀ {k v}, c'.accessTokens.lookup k = some v → c.accessTokens.lookup k = some v
  refresh : ∀ {k v}, c'.refreshTokens.lookup k = some v → c.refreshTokens.lookup k = some v

theorem lookup_authCodes_cleanup {code : String} {entry : AuthorizationCodeEntry}
    (h : (c.cleanup now).authCodes.lookup code = some entry) :
    c.authCodes.lookup code = some entry := by
  have hcode : (c.authCodes.retain fun _ entry => entry.expiresAt > now).lookup code
      = some entry := h
  rw [lookup_retain, filter_eq_some_iff] at hcode
  exact hcode.1

theorem lookup_accessTokens_cleanup :
    (c.cleanup now).accessTokens.lookup accessToken = some entry ↔
      c.accessTokens.lookup accessToken = some entry ∧ entry.keep now = true := by
  show (c.accessTokens.retain fun _ entry => entry.keep now).lookup accessToken = some entry ↔ _
  rw [lookup_retain, filter_eq_some_iff]

theorem mem_expiredRefreshTokens :
    refreshToken ∈ c.expiredRefreshTokens now ↔
      ∃ accessToken entry, c.accessTokens.lookup accessToken = some entry ∧
        entry.keep now = false ∧ entry.refreshToken = refreshToken := by
  rw [expiredRefreshTokens, List.mem_map]
  constructor
  · rintro ⟨entry, hentry, rfl⟩
    obtain ⟨hmem, hkeep⟩ := mem_filter.mp hentry
    obtain ⟨e, he, rfl⟩ := List.mem_map.mp hmem
    exact ⟨e.1, e.2, mem_toList_iff.mp he, by simpa using hkeep, rfl⟩
  · rintro ⟨accessToken, entry, hlookup, hkeep, rfl⟩
    refine ⟨entry, mem_filter.mpr ⟨?_, by simp [hkeep]⟩, rfl⟩
    exact List.mem_map.mpr ⟨(accessToken, entry), mem_toList_iff.mpr hlookup, rfl⟩

/-- A refresh token stays when it leads to an entry that stays, and no entry that goes has
the same refresh token. -/
theorem lookup_refreshTokens_cleanup :
    (c.cleanup now).refreshTokens.lookup refreshToken = some accessToken ↔
      c.refreshTokens.lookup refreshToken = some accessToken ∧
      refreshToken ∉ c.expiredRefreshTokens now ∧
      ∃ entry, c.accessTokens.lookup accessToken = some entry ∧ entry.keep now = true := by
  show (retain _ fun _ token => token ∈ (c.cleanup now).accessTokens).lookup
    refreshToken = some accessToken ↔ _
  rw [lookup_retain, filter_eq_some_iff, decide_eq_true_eq, mem_iff_exists_lookup]
  simp only [lookup_accessTokens_cleanup]
  rw [← and_assoc, and_congr_left_iff]
  intro _
  show (((c.retainAuthCodes now).expiredRefreshTokens now).foldl (fun m token => m.erase token)
    c.refreshTokens).lookup refreshToken = some accessToken ↔ _
  rw [lookup_foldl_erase]
  show (if refreshToken ∈ c.expiredRefreshTokens now then none else _) = _ ↔ _
  by_cases hexpired : refreshToken ∈ c.expiredRefreshTokens now
  · simp [hexpired]
  · simp [hexpired]

theorem within_cleanup (c : Cache) (now : Nat) : (c.cleanup now).Within c where
  access h := (lookup_accessTokens_cleanup.mp h).1
  refresh h := (lookup_refreshTokens_cleanup.mp h).1

theorem Within.trans {c₁ c₂ c₃ : Cache} (h : c₁.Within c₂) (h' : c₂.Within c₃) : c₁.Within c₃ where
  access hlookup := h'.access (h.access hlookup)
  refresh hlookup := h'.refresh (h.refresh hlookup)

theorem Within.refresh_eq_none {c₁ c₂ : Cache} (h : c₁.Within c₂)
    (hnone : c₂.refreshTokens.lookup refreshToken = none) :
    c₁.refreshTokens.lookup refreshToken = none := by
  rcases hlookup : c₁.refreshTokens.lookup refreshToken with - | token
  · rfl
  · cases hnone.symm.trans (h.refresh hlookup)

theorem within_of_erase (c : Cache) (accessToken refreshToken : String) :
    Within { c with
      accessTokens := c.accessTokens.erase accessToken
      refreshTokens := c.refreshTokens.erase refreshToken } c where
  access h := (lookup_erase_eq_some.mp h).2
  refresh h := (lookup_erase_eq_some.mp h).2

theorem within_of_eraseAccess (c : Cache) (accessToken : String) :
    Within { c with accessTokens := c.accessTokens.erase accessToken } c where
  access h := (lookup_erase_eq_some.mp h).2
  refresh h := h

end Cache

/-! ### What a request can do to the maps -/

/-- How a request ends: its outcome and the maps it leaves. -/
abbrev Ended (α : Type) := Except (Fault ErrorType) α × Cache

section Outcomes

variable (settings : Oauth2ProviderConfig) (backend : Backend) (clock : Readings) (drawn : Drawn)

/-- The entry of the tokens that a request issues. -/
def issuedEntry (clientId userId : String) (scopes : List String) : AccessTokenEntry :=
  AccessTokenEntry.new settings clock.issue clientId userId scopes drawn.second

/-- A token request with a code, on cleaned maps. -/
inductive CodeOutcome (form : OAuth2TokenRequest) (c : Cache) : Ended OAuth2TokenResponse → Prop
  | rejected {e : Fault ErrorType} {codes : HashMap String AuthorizationCodeEntry}
      (hcodes : ∀ code entry, codes.lookup code = some entry →
        c.authCodes.lookup code = some entry) :
      CodeOutcome form c (.error e, { c with authCodes := codes })
  | granted {code : String} {entry : AuthorizationCodeEntry} (hcode : form.code = some code)
      (hentry : c.authCodes.lookup code = some entry)
      (hcheck : entry.check form clock.check = .ok entry.clientId)
      (hclient : checkClient settings backend entry.clientId form.clientSecret = .ok ()) :
      CodeOutcome form c
        (.ok (tokenResponse settings entry.session.token
            (issuedEntry settings clock drawn entry.clientId entry.userId entry.scopes)
            (some entry.session)),
          ({ c with authCodes := c.authCodes.erase code } : Cache).issue entry.session.token
            (issuedEntry settings clock drawn entry.clientId entry.userId entry.scopes))

/-- A token request with a refresh token, on cleaned maps. -/
inductive RefreshOutcome (form : OAuth2TokenRequest) (c : Cache) : Ended OAuth2TokenResponse → Prop
  | unknown {e : Fault ErrorType}
      (h : ∀ refreshToken clientId accessToken, form.refreshToken = some refreshToken →
        form.clientId = some clientId → c.refreshTokens.lookup refreshToken = some accessToken →
        c.accessTokens.lookup accessToken = none) :
      RefreshOutcome form c (.error e, c)
  | stale {e : Fault ErrorType} {refreshToken clientId accessToken : String}
      {entry : AccessTokenEntry} (htoken : form.refreshToken = some refreshToken)
      (hid : form.clientId = some clientId)
      (hrefresh : c.refreshTokens.lookup refreshToken = some accessToken)
      (hentry : c.accessTokens.lookup accessToken = some entry)
      (hstale : entry.refreshToken ≠ refreshToken ∨ entry.refreshExpiresAt ≤ clock.check) :
      RefreshOutcome form c (.error e,
        { c with
          accessTokens := c.accessTokens.erase accessToken
          refreshTokens := c.refreshTokens.erase refreshToken })
  | refused {e : Fault ErrorType} {refreshToken clientId accessToken : String}
      {entry : AccessTokenEntry} (htoken : form.refreshToken = some refreshToken)
      (hid : form.clientId = some clientId)
      (hrefresh : c.refreshTokens.lookup refreshToken = some accessToken)
      (hentry : c.accessTokens.lookup accessToken = some entry)
      (hsame : entry.refreshToken = refreshToken) (hlive : clock.check < entry.refreshExpiresAt) :
      RefreshOutcome form c (.error e,
        { c with accessTokens := c.accessTokens.erase accessToken })
  | refreshed {accessToken : String} {entry : AccessTokenEntry}
      (htoken : form.refreshToken = some entry.refreshToken)
      (hid : form.clientId = some entry.clientId)
      (hrefresh : c.refreshTokens.lookup entry.refreshToken = some accessToken)
      (hentry : c.accessTokens.lookup accessToken = some entry)
      (hlive : clock.check < entry.refreshExpiresAt)
      (hclient : checkClient settings backend entry.clientId form.clientSecret = .ok ()) :
      RefreshOutcome form c
        (.ok (tokenResponse settings drawn.first
            (issuedEntry settings clock drawn entry.clientId entry.userId entry.scopes) none),
          ({ c with
            accessTokens := c.accessTokens.erase accessToken
            refreshTokens := c.refreshTokens.erase entry.refreshToken } : Cache).issue drawn.first
            (issuedEntry settings clock drawn entry.clientId entry.userId entry.scopes))

/-- A revocation by a client that has shown its secret, on cleaned maps. -/
inductive RevokeOutcome (form : OAuth2RevokeRequest) (c : Cache) : Ended Unit → Prop
  | unknown (haccess : c.accessTokens.lookup form.token = none)
      (h : ∀ accessToken, c.refreshTokens.lookup form.token = some accessToken →
        c.accessTokens.lookup accessToken = none) :
      RevokeOutcome form c (.ok (), { c with refreshTokens := c.refreshTokens.erase form.token })
  | access {entry : AccessTokenEntry} (hentry : c.accessTokens.lookup form.token = some entry)
      (hid : entry.clientId = form.clientId) :
      RevokeOutcome form c (.ok (),
        { c with
          accessTokens := c.accessTokens.erase form.token
          refreshTokens := c.refreshTokens.erase entry.refreshToken })
  | accessRefused {e : Fault ErrorType} {entry : AccessTokenEntry}
      (hentry : c.accessTokens.lookup form.token = some entry)
      (hid : entry.clientId ≠ form.clientId) :
      RevokeOutcome form c (.error e,
        { c with accessTokens := c.accessTokens.erase form.token })
  | refresh {r : Except (Fault ErrorType) Unit} {accessToken : String} {entry : AccessTokenEntry}
      (haccess : c.accessTokens.lookup form.token = none)
      (hrefresh : c.refreshTokens.lookup form.token = some accessToken)
      (hentry : c.accessTokens.lookup accessToken = some entry)
      (hid : r = .ok () ↔ entry.clientId = form.clientId) :
      RevokeOutcome form c (r,
        { c with
          accessTokens := c.accessTokens.erase accessToken
          refreshTokens := c.refreshTokens.erase form.token })

variable {settings backend clock drawn}

variable {form : OAuth2TokenRequest}

theorem check_ok {entry : AuthorizationCodeEntry} {now : Nat}
    {clientId : String} (h : entry.check form now = .ok clientId) :
    clientId = entry.clientId ∧ form.clientId.getD entry.clientId = entry.clientId ∧
      now < entry.expiresAt := by
  rw [AuthorizationCodeEntry.check] at h
  by_cases hexpired : entry.expiresAt ≤ now
  · rw [if_pos hexpired] at h
    cases h
  by_cases hid : form.clientId.getD entry.clientId ≠ entry.clientId
  · rw [if_neg hexpired, if_pos hid] at h
    cases h
  by_cases huri : form.redirectUri.any (· ≠ entry.redirectUri) = true
  · rw [if_neg hexpired, if_neg hid, if_pos huri] at h
    cases h
  rw [if_neg hexpired, if_neg hid, if_neg huri] at h
  have hown := not_not.mp hid
  exact ⟨(Except.ok.inj h).symm.trans hown, hown, not_le.mp hexpired⟩

theorem codeOutcome (form : OAuth2TokenRequest) (c : Cache) :
    CodeOutcome settings backend clock drawn form c
      (exec (authorizationCodeGrant settings backend clock drawn form) c) := by
  simp only [authorizationCodeGrant, exec_bind, exec_ofExcept, exec_removeAuthCode]
  rcases hcode : form.code with - | code
  · exact .rejected fun _ _ h => h
  have hcodes : ∀ code' entry, (c.authCodes.erase code).lookup code' = some entry →
      c.authCodes.lookup code' = some entry := fun _ _ h => (lookup_erase_eq_some.mp h).2
  dsimp only [okOr, Except.mapError]
  rcases hentry : c.authCodes.lookup code with - | entry
  · exact .rejected hcodes
  dsimp only
  rcases hcheck : entry.check form clock.check with e | clientId
  · exact .rejected hcodes
  obtain rfl := (check_ok hcheck).1
  dsimp only
  rcases hclient : checkClient settings backend entry.clientId form.clientSecret with e | u
  · exact .rejected hcodes
  · exact .granted hcode hentry hcheck hclient

theorem refreshOutcome (form : OAuth2TokenRequest) (c : Cache) :
    RefreshOutcome settings backend clock drawn form c
      (exec (refreshTokenGrant settings backend clock drawn form) c) := by
  simp only [refreshTokenGrant, exec_bind, exec_ofExcept, exec_getRefreshToken,
    exec_removeAccessToken]
  rcases htoken : form.refreshToken with - | refreshToken
  · refine .unknown fun _ _ _ h => ?_
    cases htoken.symm.trans h
  dsimp only [okOr, Except.mapError]
  rcases hid : form.clientId with - | clientId
  · refine .unknown fun _ _ _ _ h => ?_
    cases hid.symm.trans h
  dsimp only
  rcases hrefresh : c.refreshTokens.lookup refreshToken with - | accessToken
  · refine .unknown fun _ _ _ h _ h' => ?_
    obtain rfl := some.inj (htoken.symm.trans h)
    cases hrefresh.symm.trans h'
  dsimp only
  rcases hentry : c.accessTokens.lookup accessToken with - | entry
  · have hsame : ({ c with accessTokens := c.accessTokens.erase accessToken } : Cache) = c := by
      rw [erase_of_notMem (AList.lookup_eq_none.mp hentry)]
    rw [hsame]
    refine .unknown fun _ _ _ h _ h' => ?_
    obtain rfl := some.inj (htoken.symm.trans h)
    obtain rfl := some.inj (hrefresh.symm.trans h')
    exact hentry
  dsimp only
  by_cases hstale : entry.refreshToken ≠ refreshToken ∨ entry.refreshExpiresAt ≤ clock.check
  · rw [if_pos hstale]
    exact .stale htoken hid hrefresh hentry hstale
  rw [if_neg hstale]
  obtain ⟨hsame, hlive⟩ := not_or.mp hstale
  obtain rfl := not_not.mp hsame
  simp only [exec_bind, exec_ofExcept]
  by_cases hclientId : entry.clientId ≠ clientId
  · rw [exec_throwIf_error _ hclientId]
    exact .refused htoken hid hrefresh hentry rfl (not_le.mp hlive)
  obtain rfl := not_not.mp hclientId
  rw [exec_throwIf_ok (u := ()) |>.mpr ⟨hclientId, rfl⟩]
  dsimp only
  rcases hclient : checkClient settings backend entry.clientId form.clientSecret with e | u
  · exact .refused htoken hid hrefresh hentry rfl (not_le.mp hlive)
  · exact .refreshed htoken hid hrefresh hentry (not_le.mp hlive) hclient

theorem revokeOutcome (form : OAuth2RevokeRequest) (c : Cache) :
    RevokeOutcome form c (exec (revokeTokens form) c) := by
  simp only [revokeTokens, exec_bind, exec_removeAccessToken]
  rcases haccess : c.accessTokens.lookup form.token with - | access
  · -- not an access token, so nothing has been taken out yet
    rw [erase_of_notMem (AList.lookup_eq_none.mp haccess)]
    simp only [exec_bind, exec_removeRefreshToken]
    rcases hrefresh : c.refreshTokens.lookup form.token with - | accessToken
    · refine .unknown haccess fun _ h => ?_
      cases hrefresh.symm.trans h
    simp only [exec_bind, exec_removeAccessToken]
    rcases hentry : c.accessTokens.lookup accessToken with - | entry
    · rw [erase_of_notMem (AList.lookup_eq_none.mp hentry)]
      refine .unknown haccess fun _ h => ?_
      obtain rfl := some.inj (hrefresh.symm.trans h)
      exact hentry
    · dsimp only
      by_cases hid : entry.clientId ≠ form.clientId
      · rw [exec_throwIf_error _ hid]
        refine .refresh haccess hrefresh hentry ⟨fun h => ?_, fun h => absurd h hid⟩
        cases h
      · rw [exec_throwIf_ok (u := ()) |>.mpr ⟨hid, rfl⟩]
        exact .refresh haccess hrefresh hentry ⟨fun _ => not_not.mp hid, fun _ => rfl⟩
  · simp only [exec_bind]
    by_cases hid : access.clientId ≠ form.clientId
    · rw [exec_throwIf_error _ hid]
      exact .accessRefused haccess hid
    · rw [exec_throwIf_ok (u := ()) |>.mpr ⟨hid, rfl⟩]
      exact .access haccess (not_not.mp hid)

theorem exec_token_code (h : form.grantType = "authorization_code") (c : Cache) :
    exec (token settings backend clock drawn form) c
      = exec (authorizationCodeGrant settings backend clock drawn form)
          (c.cleanup clock.cleanup) := by
  rw [token, exec_bind_of_ok (exec_cleanupOauth2Cache c clock.cleanup), if_pos h]

theorem exec_token_refresh (h : form.grantType = "refresh_token") (c : Cache) :
    exec (token settings backend clock drawn form) c
      = exec (refreshTokenGrant settings backend clock drawn form)
          (c.cleanup clock.cleanup) := by
  have hne : form.grantType ≠ "authorization_code" := by
    rw [h]
    decide
  rw [token, exec_bind_of_ok (exec_cleanupOauth2Cache c clock.cleanup), if_neg hne, if_pos h]

end Outcomes

/-! ### A provider with two clients -/

def exampleSettings : Oauth2ProviderConfig where
  accessTokenLifetime := 3600
  refreshTokenLifetime := 7200
  supportedScopes := "identify"
  allowPublicClients := false

/-- Two clients, `a` and `b`. -/
def exampleBackend : Backend where
  bots := ["a", "b"].map fun client =>
    { oauth2ClientId := some client
      oauth2ClientSecret := some client
      oauth2RedirectUris := some [client]
      oauth2Scopes := some ["identify"] }
  urlScheme _ := some "https"

/-- Random values that are different because they have different lengths. -/
def exampleNanoid : ℕ ↪ String where
  toFun n := String.ofList (List.replicate n 'n')
  inj' := by
    intro m n h
    have hlength := congrArg (fun value => value.toList.length) h
    simpa using hlength

end DawnChat.OAuth2
