/-
DawnChat/OAuth2/Grants.lean

What access tokens stand for, over any sequence of OAuth2 requests.

The access token that a code is exchanged for is the token of the user's session.  Two
codes of one session therefore lead to the same access token: the entry of the second
client takes the place of the entry of the first, while the refresh token of the first
still leads to it.

`Provider` is the three maps, the time of the last request, and the grants that are in
force.  `Served` says what one request does to them.  `tokensBound_of_newSessions` says that
refresh tokens and access tokens match and grants keep their meaning as long as every code that
is presented belongs to a session whose token is not in use.
-/
import DawnChat.Lib.Run
import DawnChat.OAuth2.Store

namespace DawnChat.OAuth2

open RustStd Fallible Handler Run HashMap Cache List Option

/-! ### Refresh tokens and access tokens -/

namespace Cache

variable {c : Cache} {now : Nat} {accessToken refreshToken : String} {entry : AccessTokenEntry}

/-- Refresh tokens and access tokens match. -/
def Linked (c : Cache) : Prop :=
  ∀ refreshToken accessToken, c.refreshTokens.lookup refreshToken = some accessToken ↔
    ∃ entry, c.accessTokens.lookup accessToken = some entry ∧ entry.refreshToken = refreshToken

/-- Refresh tokens and access tokens match, but for refresh tokens that lead nowhere. -/
structure Matched (c : Cache) : Prop where
  back : ∀ {accessToken entry}, c.accessTokens.lookup accessToken = some entry →
    c.refreshTokens.lookup entry.refreshToken = some accessToken
  forth : ∀ {refreshToken accessToken entry},
    c.refreshTokens.lookup refreshToken = some accessToken →
    c.accessTokens.lookup accessToken = some entry → entry.refreshToken = refreshToken

theorem Linked.matched (h : c.Linked) : c.Matched where
  back hentry := (h _ _).mpr ⟨_, hentry, rfl⟩
  forth := by
    intro refreshToken accessToken entry hrefresh hentry
    obtain ⟨entry', hentry', rfl⟩ := (h _ _).mp hrefresh
    obtain rfl := some.inj (hentry.symm.trans hentry')
    rfl

/-- Cleaning up takes away the refresh tokens that lead nowhere, and keeps the rest matched. -/
theorem Matched.linked_cleanup (h : c.Matched) (now : Nat) : (c.cleanup now).Linked := by
  intro refreshToken accessToken
  simp only [lookup_refreshTokens_cleanup, lookup_accessTokens_cleanup]
  constructor
  · rintro ⟨hrefresh, -, entry, hentry, hkeep⟩
    exact ⟨entry, ⟨hentry, hkeep⟩, h.forth hrefresh hentry⟩
  · rintro ⟨entry, ⟨hentry, hkeep⟩, rfl⟩
    refine ⟨h.back hentry, fun hexpired => ?_, entry, hentry, hkeep⟩
    obtain ⟨accessToken', entry', hentry', hkeep', hsame⟩ := mem_expiredRefreshTokens.mp hexpired
    have hback : c.refreshTokens.lookup entry.refreshToken = some accessToken' := by
      rw [← hsame]
      exact h.back hentry'
    obtain rfl := some.inj ((h.back hentry).symm.trans hback)
    obtain rfl := some.inj (hentry.symm.trans hentry')
    rw [hkeep] at hkeep'
    cases hkeep'

/-! ### Taking tokens out -/

theorem Matched.eraseAccess (h : c.Matched) (accessToken : String) :
    Matched { c with accessTokens := c.accessTokens.erase accessToken } where
  back hentry := h.back (lookup_erase_eq_some.mp hentry).2
  forth hrefresh hentry := h.forth hrefresh (lookup_erase_eq_some.mp hentry).2

/-- An entry is taken out together with a refresh token that leads to it. -/
theorem Matched.erase (h : c.Matched)
    (hrefresh : c.refreshTokens.lookup refreshToken = some accessToken) :
    Matched { c with
      accessTokens := c.accessTokens.erase accessToken
      refreshTokens := c.refreshTokens.erase refreshToken } where
  back := by
    intro accessToken' entry hlookup
    obtain ⟨hne, hentry⟩ := lookup_erase_eq_some.mp hlookup
    refine lookup_erase_eq_some.mpr ⟨fun heq => ?_, h.back hentry⟩
    have hback := h.back hentry
    rw [heq, hrefresh] at hback
    exact hne (some.inj hback).symm
  forth hrefresh' hentry :=
    h.forth (lookup_erase_eq_some.mp hrefresh').2 (lookup_erase_eq_some.mp hentry).2


/-- A pair that is new in both halves. -/
theorem Matched.issue (h : c.Matched) (haccess : ∀ refreshToken,
      c.refreshTokens.lookup refreshToken ≠ some accessToken)
    (hrefresh : c.refreshTokens.lookup entry.refreshToken = none) :
    (c.issue accessToken entry).Matched where
  back := by
    intro accessToken' entry' hlookup
    refine lookup_insert_eq_some.mpr ?_
    obtain ⟨rfl, rfl⟩ | ⟨hne, hentry⟩ := lookup_insert_eq_some.mp hlookup
    · exact .inl ⟨rfl, rfl⟩
    · refine .inr ⟨fun heq => ?_, h.back hentry⟩
      have hback := h.back hentry
      rw [heq, hrefresh] at hback
      cases hback
  forth := by
    intro refreshToken accessToken' entry' hrefresh' hentry'
    obtain ⟨rfl, rfl⟩ | ⟨-, hleads⟩ := lookup_insert_eq_some.mp hrefresh'
    · obtain ⟨-, rfl⟩ | ⟨hne, -⟩ := lookup_insert_eq_some.mp hentry'
      · rfl
      · exact absurd rfl hne
    · obtain ⟨rfl, rfl⟩ | ⟨-, hentry⟩ := lookup_insert_eq_some.mp hentry'
      · exact absurd hleads (haccess refreshToken)
      · exact h.forth hleads hentry

end Cache

/-! ### Requests one after the other -/

inductive OAuth2Action where
  | authorize (session : Session) (query : OAuth2LoginQuery)
  | token (form : OAuth2TokenRequest)
  | revoke (form : OAuth2RevokeRequest)
  | me (accessToken : String)

/-- A request, with what it finds. -/
structure OAuth2Request where
  backend : Backend := {}
  clock : Readings
  action : OAuth2Action

/-- An access token, to which client and for which user and scopes it was issued, and when it
expires. -/
structure Grant where
  accessToken : String
  clientId : String
  userId : String
  scopes : List String
  expiresAt : Nat
  deriving DecidableEq, Repr

def Grant.binding (grant : Grant) : String × String × List String :=
  (grant.clientId, grant.userId, grant.scopes)

/-- The entry of the authorization code that is presented. -/
def Cache.presentedCode (c : Cache) : OAuth2Action → Option AuthorizationCodeEntry
  | .token form =>
    if form.grantType = "authorization_code" then
      form.code.bind fun code => c.authCodes.lookup code
    else none
  | _ => none

/-- The entry of the access token whose refresh token is presented. -/
def Cache.presentedToken (c : Cache) : OAuth2Action → Option AccessTokenEntry
  | .token form =>
    if form.grantType = "refresh_token" then
      (form.refreshToken.bind fun token => c.refreshTokens.lookup token).bind
        fun token => c.accessTokens.lookup token
    else none
  | _ => none

/-- The maps, and what they are to be compared with. -/
structure Provider where
  cache : Cache := {}
  /-- The last time that a request has read. -/
  now : Nat := 0
  /-- How many random values have been drawn. -/
  drawn : Nat := 0
  /-- What has been granted and was neither revoked nor renewed. -/
  grants : List Grant := []

open Cache.Matched

namespace Provider

/-- The access token that a successful request renews or revokes. -/
def ends (t : Cache) (action : OAuth2Action) (grant : Grant) : Bool :=
  match action with
  | .token form =>
    form.grantType = "refresh_token" &&
      form.refreshToken.bind (fun token => t.refreshTokens.lookup token)
        = some grant.accessToken
  | .revoke form =>
    grant.clientId = form.clientId &&
      (grant.accessToken = form.token || t.refreshTokens.lookup form.token = some grant.accessToken)
  | _ => false

section Step

variable (settings : Oauth2ProviderConfig) (nanoid : ℕ ↪ String)

/-- The random values for the next request. -/
def draw (s : Provider) : Drawn := ⟨nanoid s.drawn, nanoid (s.drawn + 1)⟩

/-- What a successful token request grants: what the code or the token stands for that it
presents. -/
def grantOf (s : Provider) (r : OAuth2Request) (response : OAuth2TokenResponse) : Option Grant :=
  (((s.cache.presentedCode r.action).map (·.binding)).or
      ((s.cache.presentedToken r.action).map (·.binding))).map
    fun (clientId, userId, scopes) =>
      { accessToken := response.accessToken
        clientId := clientId
        userId := userId
        scopes := scopes
        expiresAt := r.clock.issue + response.expiresIn }

/-- The grants that a successful request leaves in force. -/
def remaining (s : Provider) (r : OAuth2Request) : List Grant :=
  s.grants.filter fun grant => !ends (s.cache.cleanup r.clock.cleanup) r.action grant

/-- Serve a request. -/
def serve (s : Provider) (r : OAuth2Request) : Provider :=
  let after (cache : Cache) (grants : List Grant) : Provider :=
    { cache := cache, now := r.clock.issue, drawn := s.drawn + 2, grants := grants }
  match r.action with
  | .authorize session query =>
    after (exec (issueAuthorizationCode settings r.backend r.clock (s.draw nanoid)
      session query) s.cache).2 s.grants
  | .token form =>
    match exec (token settings r.backend r.clock (s.draw nanoid) form) s.cache with
    | (.ok response, cache) => after cache ((s.grantOf r response).toList ++ s.remaining r)
    | (.error _, cache) => after cache s.grants
  | .revoke form =>
    match exec (revoke settings r.backend r.clock form) s.cache with
    | (.ok _, cache) => after cache (s.remaining r)
    | (.error _, cache) => after cache s.grants
  | .me accessToken => after (exec (me r.clock accessToken) s.cache).2 s.grants

/-- The clock does not go back. -/
def step (s : Provider) (r : OAuth2Request) : Option Provider :=
  if s.now ≤ r.clock.cleanup then some (s.serve settings nanoid r) else none

/-- What a request does.  It issues a pair of tokens for a code, or in place of another pair, or
it issues nothing. -/
inductive Served (s : Provider) (r : OAuth2Request) : Provider → Prop
  | reduced {cache : Cache} {grants : List Grant}
      (hcodes : ∀ code entry, cache.authCodes.lookup code = some entry →
        s.cache.authCodes.lookup code = some entry ∨
          ∃ query, r.action = .authorize entry.session query)
      (hwithin : cache.Within (s.cache.cleanup r.clock.cleanup))
      (hmatched : (s.cache.cleanup r.clock.cleanup).Linked → cache.Matched)
      (hgrants : grants ⊆ s.grants) :
      Served s r
        { cache := cache, now := r.clock.issue, drawn := s.drawn + 2, grants := grants }
  | exchanged {code : String} {entry : AuthorizationCodeEntry}
      (hpresented : s.cache.presentedCode r.action = some entry)
      (hentry : (s.cache.cleanup r.clock.cleanup).authCodes.lookup code = some entry)
      (new : AccessTokenEntry)
      (hnew : new = issuedEntry settings r.clock (s.draw nanoid) entry.clientId entry.userId
        entry.scopes) :
      Served s r
        { cache := Cache.issue
            { s.cache.cleanup r.clock.cleanup with
              authCodes := (s.cache.cleanup r.clock.cleanup).authCodes.erase code }
            entry.session.token new
          now := r.clock.issue
          drawn := s.drawn + 2
          grants := ⟨entry.session.token, entry.clientId, entry.userId, entry.scopes,
            new.expiresAt⟩ :: s.grants }
  | renewed {accessToken : String} {entry : AccessTokenEntry} {grants : List Grant}
      (hrefresh : (s.cache.cleanup r.clock.cleanup).refreshTokens.lookup entry.refreshToken
        = some accessToken)
      (hentry : (s.cache.cleanup r.clock.cleanup).accessTokens.lookup accessToken = some entry)
      (new : AccessTokenEntry)
      (hnew : new = issuedEntry settings r.clock (s.draw nanoid) entry.clientId entry.userId
        entry.scopes)
      (hgrants : grants ⊆ s.grants) :
      Served s r
        { cache := Cache.issue
            { s.cache.cleanup r.clock.cleanup with
              accessTokens := (s.cache.cleanup r.clock.cleanup).accessTokens.erase accessToken
              refreshTokens :=
                (s.cache.cleanup r.clock.cleanup).refreshTokens.erase entry.refreshToken }
            (nanoid s.drawn) new
          now := r.clock.issue
          drawn := s.drawn + 2
          grants := ⟨nanoid s.drawn, entry.clientId, entry.userId, entry.scopes,
            new.expiresAt⟩ :: grants }

variable {settings nanoid} {s : Provider} {r : OAuth2Request}

/-- A request that only cleans up, or fails after that. -/
theorem served_cleanup :
    Served settings nanoid s r
      { cache := s.cache.cleanup r.clock.cleanup, now := r.clock.issue, drawn := s.drawn + 2,
        grants := s.grants } :=
  .reduced (fun _ _ h => .inl (lookup_authCodes_cleanup h)) ⟨id, id⟩ Cache.Linked.matched
    (List.Subset.refl _)

variable {form : OAuth2TokenRequest} {scopes : List String} {entry : AccessTokenEntry}

theorem served_code (haction : r.action = .token form)
    (htype : form.grantType = "authorization_code") :
    Served settings nanoid s r (s.serve settings nanoid r) := by
  have hout : CodeOutcome settings r.backend r.clock (s.draw nanoid) form
      (s.cache.cleanup r.clock.cleanup)
      (exec (token settings r.backend r.clock (s.draw nanoid) form) s.cache) := by
    rw [exec_token_code htype]
    exact codeOutcome form _
  have hremaining : s.remaining r = s.grants :=
    filter_eq_self.mpr fun grant _ => by simp [ends, haction, htype]
  simp only [serve, haction]
  generalize exec (token settings r.backend r.clock (s.draw nanoid) form) s.cache = x at hout ⊢
  cases hout with
  | rejected hcodes =>
    exact .reduced
      (fun code entry h => .inl (lookup_authCodes_cleanup (hcodes code entry h))) ⟨id, id⟩
      (fun h => ⟨h.matched.back, h.matched.forth⟩) (List.Subset.refl _)
  | @granted code entry hcode hentry hcheck hclient =>
    have hpresented : s.cache.presentedCode r.action = some entry := by
      rw [haction, presentedCode, if_pos htype, hcode]
      exact lookup_authCodes_cleanup hentry
    dsimp only
    rw [grantOf, hpresented, hremaining]
    exact .exchanged hpresented hentry _ rfl

theorem served_refresh (haction : r.action = .token form)
    (htype : form.grantType = "refresh_token") :
    Served settings nanoid s r (s.serve settings nanoid r) := by
  have hout : RefreshOutcome settings r.backend r.clock (s.draw nanoid) form
      (s.cache.cleanup r.clock.cleanup)
      (exec (token settings r.backend r.clock (s.draw nanoid) form) s.cache) := by
    rw [exec_token_refresh htype]
    exact refreshOutcome form _
  simp only [serve, haction]
  generalize exec (token settings r.backend r.clock (s.draw nanoid) form) s.cache = x
    at hout ⊢
  cases hout with
  | unknown h => exact served_cleanup
  | stale htoken hid hrefresh hentry hstale =>
    exact .reduced (fun _ _ h => .inl (lookup_authCodes_cleanup h))
      (within_of_erase _ _ _) (fun h => h.matched.erase hrefresh) (List.Subset.refl _)
  | refused htoken hid hrefresh hentry hsame hlive =>
    exact .reduced (fun _ _ h => .inl (lookup_authCodes_cleanup h))
      (within_of_eraseAccess _ _) (fun h => h.matched.eraseAccess _)
      (List.Subset.refl _)
  | @refreshed accessToken entry htoken hid hrefresh hentry hlive hclient =>
    have hcode : s.cache.presentedCode r.action = none := by simp [haction, presentedCode, htype]
    have hpresented : s.cache.presentedToken r.action = some entry := by
      rw [haction, presentedToken, if_pos htype, htoken, bind_some,
        (lookup_refreshTokens_cleanup.mp hrefresh).1]
      exact (lookup_accessTokens_cleanup.mp hentry).1
    dsimp only
    rw [grantOf, hcode, hpresented]
    exact .renewed hrefresh hentry _ rfl (filter_subset_self _)

theorem served_revoke {form : OAuth2RevokeRequest} (haction : r.action = .revoke form) :
    Served settings nanoid s r (s.serve settings nanoid r) := by
  have hcodes : ∀ code entry,
      (s.cache.cleanup r.clock.cleanup).authCodes.lookup code = some entry →
      s.cache.authCodes.lookup code = some entry ∨
        ∃ query, r.action = .authorize entry.session query :=
    fun _ _ h => .inl (lookup_authCodes_cleanup h)
  have hgrants : s.remaining r ⊆ s.grants := filter_subset_self _
  simp only [serve, haction, revoke]
  rw [exec_bind_of_ok (exec_cleanupOauth2Cache s.cache r.clock.cleanup)]
  rcases hclient : checkClient settings r.backend form.clientId form.clientSecret with e | u
  · rw [exec_bind_of_error (exec_ofExcept_error rfl _)]
    exact served_cleanup
  rw [exec_bind_of_ok (exec_ofExcept_ok.mpr ⟨rfl, rfl⟩)]
  have hout := revokeOutcome form (s.cache.cleanup r.clock.cleanup)
  generalize exec (revokeTokens form) (s.cache.cleanup r.clock.cleanup) = x at hout ⊢
  cases hout with
  | unknown haccess h =>
    refine .reduced hcodes ⟨id, fun h => (lookup_erase_eq_some.mp h).2⟩
      (fun hlinked => ?_) hgrants
    -- no refresh token leads nowhere, so this one is not there
    have hnotMem : form.token ∉ (s.cache.cleanup r.clock.cleanup).refreshTokens := by
      intro hmem
      obtain ⟨accessToken, hrefresh⟩ := mem_iff_exists_lookup.mp hmem
      obtain ⟨entry, hentry, -⟩ := (hlinked _ _).mp hrefresh
      cases (h accessToken hrefresh).symm.trans hentry
    rw [erase_of_notMem hnotMem]
    exact hlinked.matched
  | access hentry hid =>
    exact .reduced hcodes (within_of_erase _ _ _)
      (fun h => h.matched.erase (h.matched.back hentry)) hgrants
  | accessRefused hentry hid =>
    exact .reduced hcodes (within_of_eraseAccess _ _) (fun h => h.matched.eraseAccess _)
      (List.Subset.refl _)
  | @refresh outcome accessToken entry haccess hrefresh hentry hid =>
    have hreduced : ∀ grants ⊆ s.grants, Served settings nanoid s r
        { cache :=
            { s.cache.cleanup r.clock.cleanup with
              accessTokens := (s.cache.cleanup r.clock.cleanup).accessTokens.erase accessToken
              refreshTokens := (s.cache.cleanup r.clock.cleanup).refreshTokens.erase form.token }
          now := r.clock.issue, drawn := s.drawn + 2, grants := grants } :=
      fun grants h => .reduced hcodes (within_of_erase _ _ _)
        (fun h => h.matched.erase hrefresh) h
    rcases outcome with e | u
    · exact hreduced _ (List.Subset.refl _)
    · exact hreduced _ hgrants

theorem served_authorize {session : Session} {query : OAuth2LoginQuery}
    (haction : r.action = .authorize session query) :
    Served settings nanoid s r (s.serve settings nanoid r) := by
  simp only [serve, haction, issueAuthorizationCode]
  rw [exec_bind_of_ok (exec_cleanupOauth2Cache s.cache r.clock.cleanup)]
  rcases hscopes : grantedScopes settings r.backend query with e | scopes
  · rw [exec_bind_of_error (exec_ofExcept_error rfl _)]
    exact served_cleanup
  rw [exec_bind_of_ok (exec_ofExcept_ok.mpr ⟨rfl, rfl⟩),
    exec_bind_of_ok (exec_insertAuthCode _ _ _), ReadOnly.store]
  refine .reduced (fun code entry h => ?_) ⟨id, id⟩ (fun h => ⟨h.matched.back, h.matched.forth⟩)
    (List.Subset.refl _)
  obtain ⟨-, rfl⟩ | ⟨-, h⟩ := lookup_insert_eq_some.mp h
  · exact .inr ⟨query, haction⟩
  · exact .inl (lookup_authCodes_cleanup h)

instance (token : String) : ReadOnly (getAccessToken token) := by
  unfold getAccessToken
  infer_instance

variable {accessToken : String} {clock : Readings} {c : Cache} {new : AccessTokenEntry}
  {grant : Grant} {grants : List Grant} {now : Nat}

theorem served_me (haction : r.action = .me accessToken) :
    Served settings nanoid s r (s.serve settings nanoid r) := by
  simp only [serve, haction, me]
  rw [exec_bind_of_ok (exec_cleanupOauth2Cache s.cache r.clock.cleanup), ReadOnly.store]
  exact served_cleanup

/-- **What one request does.** -/
theorem served (s : Provider) (r : OAuth2Request) :
    Served settings nanoid s r (s.serve settings nanoid r) := by
  rcases haction : r.action with ⟨session, query⟩ | form | form | accessToken
  · exact served_authorize haction
  · by_cases hcode : form.grantType = "authorization_code"
    · exact served_code haction hcode
    by_cases hrefresh : form.grantType = "refresh_token"
    · exact served_refresh haction hrefresh
    simp only [serve, haction, token]
    rw [exec_bind_of_ok (exec_cleanupOauth2Cache s.cache r.clock.cleanup), if_neg hcode,
      if_neg hrefresh]
    exact served_cleanup
  · exact served_revoke haction
  · exact served_me haction

/-! ### Tokens and their grants -/

/-- In every state that cleaning up can lead to, refresh tokens and access tokens match; and a
token that was granted and has not expired stands for what was granted, if for anything. -/
structure TokensBound (s : Provider) : Prop where
  linked : ∀ now, s.now ≤ now → (s.cache.cleanup now).Linked
  bound : ∀ grant ∈ s.grants, s.now < grant.expiresAt → ∀ entry,
    s.cache.accessTokens.lookup grant.accessToken = some entry → entry.binding = grant.binding

/-- What every run keeps: values that are drawn have not been in use. -/
structure Drawing (nanoid : ℕ ↪ String) (s : Provider) : Prop where
  access : ∀ {n entry}, s.cache.accessTokens.lookup (nanoid n) = some entry → n < s.drawn
  refresh : ∀ {n accessToken}, s.cache.refreshTokens.lookup (nanoid n) = some accessToken →
    n < s.drawn
  granted : ∀ {n grant}, grant ∈ s.grants → grant.accessToken = nanoid n → n < s.drawn
  session : ∀ {code entry}, s.cache.authCodes.lookup code = some entry →
    ∀ n, nanoid n ≠ entry.session.token

/-- A session has a token of its own, which is not drawn here. -/
def OwnSession (nanoid : ℕ ↪ String) (r : OAuth2Request) : Prop :=
  ∀ session query, r.action = .authorize session query → ∀ n, nanoid n ≠ session.token

/-- A code that is presented belongs to a session whose token is no access token at that time,
and has not been granted for something else before, unless that has expired. -/
def NewSession (s : Provider) (r : OAuth2Request) : Prop :=
  ∀ code ∈ s.cache.presentedCode r.action,
    (∀ old ∈ s.cache.accessTokens.lookup code.session.token,
      old.expiresAt ≤ r.clock.cleanup ∧ old.refreshExpiresAt ≤ r.clock.cleanup) ∧
    ∀ grant ∈ s.grants, grant.accessToken = code.session.token →
      r.clock.issue < grant.expiresAt → grant.binding = code.binding

/-- A pair is issued for a token that has not been drawn before this request. -/
theorem Drawing.issue (h : Drawing nanoid s) (hwithin : c.Within s.cache)
    (hcodes : ∀ code entry, c.authCodes.lookup code = some entry →
      s.cache.authCodes.lookup code = some entry)
    (htoken : ∀ n, nanoid n = accessToken → n = s.drawn) {clientId userId : String}
    (hnew : new = issuedEntry settings clock (s.draw nanoid) clientId userId scopes)
    (hgrant : grant.accessToken = accessToken) (hgrants : grants ⊆ s.grants) :
    Drawing nanoid
      { cache := c.issue accessToken new, now := clock.issue, drawn := s.drawn + 2,
        grants := grant :: grants } where
  access := by
    intro n entry hentry
    obtain ⟨heq, -⟩ | ⟨-, hold⟩ := lookup_insert_eq_some.mp hentry
    · have hn := htoken n heq
      dsimp only
      omega
    · exact Nat.lt_add_right 2 (h.access (hwithin.access hold))
  refresh := by
    intro n accessToken' hrefresh
    obtain ⟨heq, -⟩ | ⟨-, hold⟩ := lookup_insert_eq_some.mp hrefresh
    · rw [hnew] at heq
      have hn : n = s.drawn + 1 := nanoid.injective heq
      dsimp only
      omega
    · exact Nat.lt_add_right 2 (h.refresh (hwithin.refresh hold))
  granted := by
    intro n grant' hmem heq
    obtain rfl | hold := mem_cons.mp hmem
    · have hn := htoken n (heq.symm.trans hgrant)
      dsimp only
      omega
    · exact Nat.lt_add_right 2 (h.granted (hgrants hold) heq)
  session := fun hentry => h.session (hcodes _ _ hentry)

theorem Drawing.step (h : Drawing nanoid s) (hown : OwnSession nanoid r) {s' : Provider}
    (hserved : Served settings nanoid s r s') : Drawing nanoid s' := by
  have hclean := s.cache.within_cleanup r.clock.cleanup
  cases hserved with
  | reduced hcodes hwithin hmatched hgrants =>
    refine ⟨fun hentry => ?_, fun hentry => ?_, fun hgrant heq => ?_, fun hentry n => ?_⟩
    · exact Nat.lt_add_right 2 (h.access (hclean.access (hwithin.access hentry)))
    · exact Nat.lt_add_right 2 (h.refresh (hclean.refresh (hwithin.refresh hentry)))
    · exact Nat.lt_add_right 2 (h.granted (hgrants hgrant) heq)
    · obtain hold | ⟨query, haction⟩ := hcodes _ _ hentry
      · exact h.session hold n
      · exact hown _ query haction n
  | exchanged hpresented hentry new hnew =>
    have hsession := h.session (lookup_authCodes_cleanup hentry)
    refine h.issue ?_ (fun _ _ hlookup => ?_) (fun n hn => absurd hn (hsession n)) hnew rfl
      (List.Subset.refl _)
    · exact ⟨hclean.access, hclean.refresh⟩
    · exact lookup_authCodes_cleanup (lookup_erase_eq_some.mp hlookup).2
  | renewed hrefresh hentry new hnew hgrants =>
    exact h.issue ((within_of_erase _ _ _).trans hclean)
      (fun _ _ => lookup_authCodes_cleanup) (fun n hn => nanoid.injective hn) hnew rfl hgrants

/-! ### When tokens stay bound -/

/-- Grants keep their meaning when nothing is issued, or something for a token that was never
granted. -/
theorem TokensBound.bound_of_within (h : TokensBound s) (hnow : s.now ≤ now)
    (hwithin : c.Within s.cache) (hgrants : grants ⊆ s.grants) :
    ∀ grant ∈ grants, now < grant.expiresAt → ∀ entry,
      c.accessTokens.lookup grant.accessToken = some entry → entry.binding = grant.binding :=
  fun grant hmem hlive entry hentry =>
    h.bound grant (hgrants hmem) (hnow.trans_lt hlive) entry (hwithin.access hentry)

theorem TokensBound.bound_issue (h : TokensBound s) (hnow : s.now ≤ now)
    (hwithin : c.Within s.cache) (hgrants : grants ⊆ s.grants)
    (hgrant : grant.accessToken = accessToken) (hbinding : new.binding = grant.binding)
    (hsame : ∀ other ∈ grants, other.accessToken = accessToken → now < other.expiresAt →
      other.binding = grant.binding) :
    ∀ other ∈ grant :: grants, now < other.expiresAt → ∀ entry,
      (c.issue accessToken new).accessTokens.lookup other.accessToken = some entry →
      entry.binding = other.binding := by
  intro other hmem hlive entry hentry
  obtain ⟨htoken, rfl⟩ | ⟨hne, hold⟩ := lookup_insert_eq_some.mp hentry
  · obtain rfl | hmem := mem_cons.mp hmem
    · exact hbinding
    · exact hbinding.trans (hsame other hmem htoken hlive).symm
  · obtain rfl | hmem := mem_cons.mp hmem
    · exact absurd hgrant hne
    · exact h.bound_of_within hnow hwithin hgrants other hmem hlive entry hold

/-- The refresh token of a new pair is not in use. -/
theorem Drawing.lookup_refresh (h : Drawing nanoid s) {clientId userId : String}
    (hnew : new = issuedEntry settings clock (s.draw nanoid) clientId userId scopes) :
    s.cache.refreshTokens.lookup new.refreshToken = none := by
  rw [hnew]
  rcases hlookup : s.cache.refreshTokens.lookup (nanoid (s.drawn + 1)) with - | token
  · exact hlookup
  · have hdrawn := h.refresh hlookup
    omega

/-- **One request** keeps tokens and grants bound when a code that it presents is of a new
session. -/
theorem TokensBound.served (h : TokensBound s) (hdrawing : Drawing nanoid s)
    (hnow : s.now ≤ r.clock.cleanup) (hnewSession : NewSession s r) {s' : Provider}
    (hserved : Served settings nanoid s r s') : TokensBound s' := by
  have hissue : s.now ≤ r.clock.issue :=
    hnow.trans (r.clock.cleanup_le_check.trans r.clock.check_le_issue)
  have hclean := s.cache.within_cleanup r.clock.cleanup
  have hlinked := h.linked r.clock.cleanup hnow
  cases hserved with
  | reduced hcodes hwithin hmatched hgrants =>
    exact ⟨fun now _ => (hmatched hlinked).linked_cleanup now,
      h.bound_of_within hissue (hwithin.trans hclean) hgrants⟩
  | @renewed accessToken entry grants hrefresh hentry new hnew hgrants =>
    have hwithin := (within_of_erase _ accessToken entry.refreshToken).trans hclean
    refine ⟨fun now _ => linked_cleanup ?_ now, ?_⟩
    · refine (hlinked.matched.erase hrefresh).issue (fun token hleads => ?_) ?_
      · obtain ⟨-, hleads⟩ := lookup_erase_eq_some.mp hleads
        obtain ⟨entry', hentry', -⟩ := (hlinked _ _).mp hleads
        exact (lt_irrefl _ (hdrawing.access (hclean.access hentry'))).elim
      · exact hwithin.refresh_eq_none (hdrawing.lookup_refresh hnew)
    · refine h.bound_issue hissue hwithin hgrants rfl (by rw [hnew]; rfl) fun grant hmem heq _ => ?_
      exact (lt_irrefl _ (hdrawing.granted (hgrants hmem) heq)).elim
  | @exchanged code entry hpresented hentry new hnew =>
    have hrefresh := hclean.refresh_eq_none (hdrawing.lookup_refresh hnew)
    obtain ⟨hunused, hsame⟩ := hnewSession entry hpresented
    refine ⟨fun now _ => linked_cleanup ?_ now, ?_⟩
    · refine issue ⟨hlinked.matched.back, hlinked.matched.forth⟩ (fun token hleads => ?_) hrefresh
      -- an entry for the token of the session would not have outlived the cleanup
      obtain ⟨old, hold, -⟩ := (hlinked _ _).mp hleads
      obtain ⟨hstored, hkeep⟩ := lookup_accessTokens_cleanup.mp hold
      have hexpired := hunused old hstored
      rw [AccessTokenEntry.keep, Bool.or_eq_true, decide_eq_true_eq, decide_eq_true_eq] at hkeep
      omega
    · exact h.bound_issue hissue ⟨hclean.access, hclean.refresh⟩ (List.Subset.refl _) rfl
        (by rw [hnew]; rfl) hsame

end Step

theorem drawing_start (nanoid : ℕ ↪ String) : Drawing nanoid {} := by
  constructor <;> intros <;> contradiction

theorem tokensBound_start : TokensBound {} where
  linked now _ := by
    refine linked_cleanup ?_ now
    constructor <;> intros <;> contradiction
  bound := by
    intro grant hgrant
    cases hgrant

/-- **Tokens stay bound to their grants.**  Over any sequence of requests in which every code that
is presented is of a new session, refresh tokens and access tokens match after every cleanup, and
no token that is in force is given another meaning. -/
theorem tokensBound_of_newSessions (settings : Oauth2ProviderConfig) (nanoid : ℕ ↪ String)
    {requests : List OAuth2Request} (hown : ∀ r ∈ requests, OwnSession nanoid r)
    (hnew : EachStep (step settings nanoid) NewSession {} requests) :
    Always (step settings nanoid) TokensBound {} requests := by
  have howns : EachStep (step settings nanoid) (fun _ r => OwnSession nanoid r) {} requests := by
    intro l₁ r s₁ hpre _
    exact hown r (hpre.subset (by simp))
  have hboth : Always (step settings nanoid) (fun s => Drawing nanoid s ∧ TokensBound s) {}
      requests := by
    refine always_of_eachStep ?_ ⟨drawing_start nanoid, tokensBound_start⟩ (howns.and hnew)
    rintro s r s' ⟨hdrawing, hbound⟩ ⟨hown, hnew⟩ hstep
    rw [step] at hstep
    split at hstep
    · next hnow =>
      obtain rfl := some.inj hstep
      have hserved : Served settings nanoid s r _ := served s r
      exact ⟨hdrawing.step hown hserved, hbound.served hdrawing hnow hnew hserved⟩
    · cases hstep
  exact hboth.imp fun _ h => h.2

/-! ### One session, two clients -/

instance (s : Provider) (r : OAuth2Request) : Decidable (NewSession s r) :=
  inferInstanceAs (Decidable (∀ code ∈ s.cache.presentedCode r.action, _ ∧ _))

/-- The user authorises a client, and the client exchanges the code. -/
def exampleGrant (client session code : String) : List OAuth2Request :=
  [{ backend := exampleBackend
     clock := ⟨0, 0, 0, le_rfl, le_rfl⟩
     action := .authorize ⟨"user", session⟩ { clientId := client, redirectUri := client } },
   { backend := exampleBackend
     clock := ⟨0, 0, 0, le_rfl, le_rfl⟩
     action := .token
      { grantType := "authorization_code", code := some code, clientSecret := some client } }]

theorem ownSession_exampleGrant (client code : String) {session : String}
    (hsession : 's' ∈ session.toList) :
    ∀ r ∈ exampleGrant client session code, OwnSession exampleNanoid r := by
  intro r hr session' query haction n hn
  obtain rfl | rfl : r = _ ∨ r = _ := by simpa [exampleGrant] using hr
  · obtain ⟨rfl, -⟩ := OAuth2Action.authorize.inj haction
    have hlist : List.replicate n 'n' = session.toList :=
      String.toList_ofList.symm.trans (congrArg String.toList hn)
    rw [← hlist] at hsession
    exact absurd (eq_of_mem_replicate hsession) (by decide)
  · cases haction

theorem ownSession_two {session : String} (hsession : 's' ∈ session.toList) :
    ∀ r ∈ exampleGrant "a" "session" "" ++ exampleGrant "b" session "nnnn",
      OwnSession exampleNanoid r := by
  intro r hr
  obtain hr | hr := mem_append.mp hr
  · exact ownSession_exampleGrant "a" "" (by decide) r hr
  · exact ownSession_exampleGrant "b" "nnnn" hsession r hr

/-- With a session for each client all is well. -/
theorem tokensBound_of_newSessions_two_sessions :
    Always (step exampleSettings exampleNanoid) TokensBound {}
      (exampleGrant "a" "session" "" ++ exampleGrant "b" "sessions" "nnnn") :=
  tokensBound_of_newSessions exampleSettings exampleNanoid (ownSession_two (by decide))
    (by decide +kernel)

/-- The second client's entry takes the place of the first, whose refresh token leads to it. -/
theorem tokensBound_two_clients :
    (∀ r ∈ exampleGrant "a" "session" "" ++ exampleGrant "b" "session" "nnnn",
      OwnSession exampleNanoid r) ∧
    ∃ s, run (step exampleSettings exampleNanoid) {}
        (exampleGrant "a" "session" "" ++ exampleGrant "b" "session" "nnnn") = some s ∧
      s.cache.refreshTokens.lookup "nnn" = some "session" ∧
      s.cache.accessTokens.lookup "session"
        = some ⟨"b", "user", ["identify"], 3600, "nnnnnnn", 7200⟩ ∧
      ¬ TokensBound s := by
  refine ⟨ownSession_two (by decide), ?_⟩
  refine exists_run_of (fun s => s.cache.refreshTokens.lookup "nnn" = some "session" ∧
      s.cache.accessTokens.lookup "session"
        = some ⟨"b", "user", ["identify"], 3600, "nnnnnnn", 7200⟩ ∧
      s.now = 0 ∧ ⟨"session", "a", "user", ["identify"], 3600⟩ ∈ s.grants)
    (by decide +kernel)
    fun s _ ⟨hrefresh, haccess, hnow, hgrant⟩ => ⟨hrefresh, haccess, fun h => ?_⟩
  have hbinding := h.bound _ hgrant (by rw [hnow]; decide) _ haccess
  exact absurd hbinding (by decide)

end Provider

end DawnChat.OAuth2
