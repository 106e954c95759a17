/-
DawnChat/OAuth2/Rejected.lean

Renewals and revocations that are refused.

Both requests take the entry of an access token out of the map before they compare its
client with the client that asks, and nothing is put back when the comparison fails.  A
renewal does not even know the client's secret by then.

`rejected_keeps_iff` says when a refused request leaves all tokens usable, for arbitrary
contents of the maps: the entry that was taken out was of no use any more.  The other
condition is about cleaning up.  An entry that has expired is dropped with its refresh
token, and in maps where two entries have the same refresh token that could be one that is
still in use.
-/
import DawnChat.OAuth2.Store

namespace DawnChat.OAuth2

open RustStd Fallible Handler Option Prod

/-! ### Tokens that can be used -/

namespace Cache

variable {c c' t : Cache} {now : Nat} {accessToken refreshToken : String}
  {entry : AccessTokenEntry}

/-- The access token can be used, for what its entry says. -/
structure LiveAccess (c : Cache) (now : Nat) (accessToken : String) (entry : AccessTokenEntry) :
    Prop where
  stored : c.accessTokens.lookup accessToken = some entry
  unexpired : now < entry.expiresAt

/-- The refresh token can be used, for what the entry it leads to says. -/
structure LiveRefresh (c : Cache) (now : Nat) (refreshToken accessToken : String)
    (entry : AccessTokenEntry) : Prop where
  leads : c.refreshTokens.lookup refreshToken = some accessToken
  stored : c.accessTokens.lookup accessToken = some entry
  same : entry.refreshToken = refreshToken
  unexpired : now < entry.refreshExpiresAt

/-- What can be used before can be used afterwards, for the same client, user and scopes. -/
structure Keeps (now : Nat) (c c' : Cache) : Prop where
  access : ∀ {accessToken entry}, c.LiveAccess now accessToken entry →
    ∃ entry', c'.LiveAccess now accessToken entry' ∧ entry'.binding = entry.binding
  refresh : ∀ {refreshToken accessToken entry}, c.LiveRefresh now refreshToken accessToken entry →
    ∃ accessToken' entry', c'.LiveRefresh now refreshToken accessToken' entry' ∧
      entry'.binding = entry.binding

/-- Cleaning up drops no refresh token that can be used. -/
def CleanupHarmless (c : Cache) (cleanup now : Nat) : Prop :=
  ∀ refreshToken accessToken entry, c.LiveRefresh now refreshToken accessToken entry →
    refreshToken ∉ c.expiredRefreshTokens cleanup

/-- Neither of the two tokens of an entry can be used. -/
def Useless (c : Cache) (now : Nat) (accessToken : String) (entry : AccessTokenEntry) : Prop :=
  ¬ c.LiveAccess now accessToken entry ∧ ¬ c.LiveRefresh now entry.refreshToken accessToken entry

theorem LiveAccess.cleanup (h : c.LiveAccess now accessToken entry) {before : Nat}
    (hle : before ≤ now) : (c.cleanup before).LiveAccess now accessToken entry where
  stored := by
    refine lookup_accessTokens_cleanup.mpr ⟨h.stored, ?_⟩
    have hunexpired := Nat.lt_of_le_of_lt hle h.unexpired
    simp [AccessTokenEntry.keep, hunexpired]
  unexpired := h.unexpired

theorem LiveRefresh.cleanup (h : c.LiveRefresh now refreshToken accessToken entry) {before : Nat}
    (hle : before ≤ now) (hnot : refreshToken ∉ c.expiredRefreshTokens before) :
    (c.cleanup before).LiveRefresh now refreshToken accessToken entry := by
  have hkeep : entry.keep before = true := by
    have hunexpired := Nat.lt_of_le_of_lt hle h.unexpired
    simp [AccessTokenEntry.keep, hunexpired]
  exact ⟨lookup_refreshTokens_cleanup.mpr ⟨h.leads, hnot, entry, h.stored, hkeep⟩,
    lookup_accessTokens_cleanup.mpr ⟨h.stored, hkeep⟩, h.same, h.unexpired⟩

/-! ### What a refused request takes -/

/-- What is left after an entry, if any, has been taken out of the cleaned maps; a refresh token
that leads to it may be taken out as well. -/
inductive Rejected (t : Cache) : Option (String × AccessTokenEntry) → Cache → Prop
  | untouched : Rejected t none t
  | access {accessToken : String} {entry : AccessTokenEntry}
      (hentry : t.accessTokens.lookup accessToken = some entry) :
      Rejected t (some (accessToken, entry))
        { t with accessTokens := t.accessTokens.erase accessToken }
  | pair {refreshToken accessToken : String} {entry : AccessTokenEntry}
      (hrefresh : t.refreshTokens.lookup refreshToken = some accessToken)
      (hentry : t.accessTokens.lookup accessToken = some entry) :
      Rejected t (some (accessToken, entry))
        { t with
          accessTokens := t.accessTokens.erase accessToken
          refreshTokens := t.refreshTokens.erase refreshToken }

variable {taken : Option (String × AccessTokenEntry)}

theorem Rejected.within (h : Rejected t taken c') : c'.Within t := by
  cases h with
  | untouched => exact ⟨id, id⟩
  | access => exact within_of_eraseAccess t _
  | pair => exact within_of_erase t _ _

theorem Rejected.lookup_taken (h : Rejected t (some (accessToken, entry)) c') :
    t.accessTokens.lookup accessToken = some entry ∧ c'.accessTokens.lookup accessToken = none := by
  cases h with
  | access hentry | pair hrefresh hentry => exact ⟨hentry, AList.lookup_erase _ _⟩

/-- All other tokens are where they were. -/
theorem Rejected.others (h : Rejected t taken c') {other : String}
    (hother : ∀ taken' ∈ taken, taken'.1 ≠ other) :
    c'.accessTokens.lookup other = t.accessTokens.lookup other ∧
      ∀ refreshToken, t.refreshTokens.lookup refreshToken = some other →
        c'.refreshTokens.lookup refreshToken = some other := by
  cases h with
  | untouched => exact ⟨rfl, fun _ h => h⟩
  | access hentry => exact ⟨AList.lookup_erase_ne (hother _ rfl).symm, fun _ h => h⟩
  | pair hrefresh hentry =>
    refine ⟨AList.lookup_erase_ne (hother _ rfl).symm, fun refreshToken hleads => ?_⟩
    refine HashMap.lookup_erase_eq_some.mpr ⟨fun heq => ?_, hleads⟩
    rw [heq, hrefresh] at hleads
    exact hother _ rfl (some.inj hleads)

/-- **What is lost.**  Tokens stay usable when cleaning up does no harm and the entry that was
taken out is of no use. -/
theorem Rejected.keeps_iff {before : Nat} (hle : before ≤ now)
    (h : Rejected (c.cleanup before) taken c') :
    c.Keeps now c' ↔
      c.CleanupHarmless before now ∧ ∀ entry ∈ taken, c.Useless now entry.1 entry.2 := by
  constructor
  · intro hkeeps
    refine ⟨fun refreshToken accessToken entry hlive => ?_, ?_⟩
    · obtain ⟨accessToken', entry', hlive', -⟩ := hkeeps.refresh hlive
      exact (lookup_refreshTokens_cleanup.mp (h.within.refresh hlive'.leads)).2.1
    · rintro ⟨accessToken, entry⟩ rfl
      obtain ⟨-, hgone⟩ := h.lookup_taken
      refine ⟨fun hlive => ?_, fun hlive => ?_⟩
      · obtain ⟨entry', hlive', -⟩ := hkeeps.access hlive
        cases hgone.symm.trans hlive'.stored
      · obtain ⟨accessToken', entry', hlive', -⟩ := hkeeps.refresh hlive
        -- the refresh token could only lead to the entry that is gone
        have hleads := (c.within_cleanup before).refresh (h.within.refresh hlive'.leads)
        obtain rfl : accessToken' = accessToken := some.inj (hleads.symm.trans hlive.leads)
        cases hgone.symm.trans hlive'.stored
  · rintro ⟨hharmless, huseless⟩
    have hother : ∀ {accessToken entry}, c.accessTokens.lookup accessToken = some entry →
        ¬ c.Useless now accessToken entry → ∀ taken' ∈ taken, taken'.1 ≠ accessToken := by
      intro accessToken entry hstored huse taken' hmem heq
      obtain ⟨token, entry'⟩ := taken'
      obtain rfl : token = accessToken := heq
      obtain rfl : taken = some (token, entry') := hmem
      have hstored' := (c.within_cleanup before).access h.lookup_taken.1
      obtain rfl := some.inj (hstored.symm.trans hstored')
      exact huse (huseless _ rfl)
    constructor
    · intro accessToken entry hlive
      have hothers := h.others (hother hlive.stored fun huse => huse.1 hlive)
      exact ⟨entry, ⟨hothers.1.trans (hlive.cleanup hle).stored, hlive.unexpired⟩, rfl⟩
    · intro refreshToken accessToken entry hlive
      have hclean := hlive.cleanup hle (hharmless _ _ _ hlive)
      have hothers := h.others (hother hlive.stored fun huse => huse.2 (hlive.same ▸ hlive))
      exact ⟨accessToken, entry, ⟨hothers.2 _ hclean.leads, hothers.1.trans hclean.stored,
        hlive.same, hlive.unexpired⟩, rfl⟩

end Cache

/-! ### The requests -/

/-- A request to renew or to revoke tokens. -/
inductive TokenRequest where
  | refresh (form : OAuth2TokenRequest) (htype : form.grantType = "refresh_token")
  | revoke (form : OAuth2RevokeRequest)

namespace TokenRequest

variable (settings : Oauth2ProviderConfig) (backend : Backend) (clock : Readings) (drawn : Drawn)

def serve : TokenRequest → Request Cache Unit
  | .refresh form _ => do
      let _ ← token settings backend clock drawn form
  | .revoke form => OAuth2.revoke settings backend clock form

/-- The entry that a refresh token leads to. -/
def renewable (t : Cache) (refreshToken : String) : Option (String × AccessTokenEntry) :=
  (t.refreshTokens.lookup refreshToken).bind fun accessToken =>
    (t.accessTokens.lookup accessToken).map (accessToken, ·)

/-- The entry that a request takes out of the cleaned maps. -/
def taken (t : Cache) : TokenRequest → Option (String × AccessTokenEntry)
  | .refresh form _ =>
    form.clientId.bind fun _ => form.refreshToken.bind (renewable t)
  | .revoke form =>
    if checkClient settings backend form.clientId form.clientSecret matches .ok _ then
      ((t.accessTokens.lookup form.token).map (form.token, ·)).or (renewable t form.token)
    else none

variable {settings backend clock drawn}

theorem renewable_eq_none {t : Cache} {refreshToken : String}
    (h : ∀ accessToken, t.refreshTokens.lookup refreshToken = some accessToken →
      t.accessTokens.lookup accessToken = none) : renewable t refreshToken = none := by
  rcases hrefresh : t.refreshTokens.lookup refreshToken with - | accessToken
  · rw [renewable, hrefresh]
    rfl
  · rw [renewable, hrefresh, bind_some, h accessToken hrefresh]
    rfl

theorem renewable_eq_some {t : Cache} {refreshToken accessToken : String}
    {entry : AccessTokenEntry} (hrefresh : t.refreshTokens.lookup refreshToken = some accessToken)
    (hentry : t.accessTokens.lookup accessToken = some entry) :
    renewable t refreshToken = some (accessToken, entry) := by
  rw [renewable, hrefresh, bind_some, hentry]
  rfl

variable {request : TokenRequest} {c c' : Cache} {e : Fault ErrorType}

theorem rejected_refresh {form : OAuth2TokenRequest} {htype : form.grantType = "refresh_token"}
    (h : exec (serve settings backend clock drawn (.refresh form htype)) c
      = (.error e, c')) :
    (c.cleanup clock.cleanup).Rejected
      (taken settings backend (c.cleanup clock.cleanup) (.refresh form htype)) c' := by
  have hout : RefreshOutcome settings backend clock drawn form (c.cleanup clock.cleanup)
      (exec (token settings backend clock drawn form) c) := by
    rw [exec_token_refresh htype]
    exact refreshOutcome form _
  rw [serve, exec_bind] at h
  simp only [taken]
  generalize exec (token settings backend clock drawn form) c = x at hout h
  cases hout with
  | unknown hunknown =>
    obtain ⟨-, rfl⟩ := mk.inj h
    have hnone : (form.clientId.bind fun _ =>
        form.refreshToken.bind (renewable (c.cleanup clock.cleanup))) = none := by
      rcases hid : form.clientId with - | clientId
      · rfl
      rcases htoken : form.refreshToken with - | refreshToken
      · rfl
      exact renewable_eq_none fun accessToken => hunknown _ _ _ htoken hid
    rw [hnone]
    exact .untouched
  | stale htoken hid hrefresh hentry hstale =>
    obtain ⟨-, rfl⟩ := mk.inj h
    rw [hid, htoken, bind_some, bind_some, renewable_eq_some hrefresh hentry]
    exact .pair hrefresh hentry
  | refused htoken hid hrefresh hentry hsame hlive =>
    obtain ⟨-, rfl⟩ := mk.inj h
    rw [hid, htoken, bind_some, bind_some, renewable_eq_some hrefresh hentry]
    exact .access hentry
  | refreshed htoken hid hrefresh hentry hlive hclient => cases h

theorem rejected_revoke {form : OAuth2RevokeRequest}
    (h : exec (serve settings backend clock drawn (.revoke form)) c = (.error e, c')) :
    (c.cleanup clock.cleanup).Rejected
      (taken settings backend (c.cleanup clock.cleanup) (.revoke form)) c' := by
  rw [serve, OAuth2.revoke, exec_bind_of_ok (exec_cleanupOauth2Cache c clock.cleanup)] at h
  rcases hclient : checkClient settings backend form.clientId form.clientSecret with e' | u
  · rw [hclient, exec_bind_of_error (exec_ofExcept_error rfl _)] at h
    obtain ⟨-, rfl⟩ := mk.inj h
    simp only [taken, hclient]
    exact .untouched
  rw [hclient, exec_bind_of_ok (exec_ofExcept_ok.mpr ⟨rfl, rfl⟩)] at h
  have hout := revokeOutcome form (c.cleanup clock.cleanup)
  generalize exec (revokeTokens form) (c.cleanup clock.cleanup) = x at hout h
  simp only [taken, hclient]
  cases hout with
  | unknown haccess hunknown => cases h
  | access hentry hid => cases h
  | accessRefused hentry hid =>
    obtain ⟨-, rfl⟩ := mk.inj h
    rw [hentry]
    exact .access hentry
  | refresh haccess hrefresh hentry hid =>
    obtain ⟨-, rfl⟩ := mk.inj h
    rw [haccess, map_none, none_or, renewable_eq_some hrefresh hentry]
    exact .pair hrefresh hentry

/-- **Refused requests.**  A renewal or revocation that returns an error leaves every token that
could be used as it was, exactly when cleaning up does no harm and the entry that the request took
out of the map was of no use. -/
theorem rejected_keeps_iff (settings : Oauth2ProviderConfig) (backend : Backend) (clock : Readings)
    (drawn : Drawn) (request : TokenRequest) (c c' : Cache) (e : Fault ErrorType)
    (h : exec (request.serve settings backend clock drawn) c = (.error e, c')) :
    c.Keeps clock.check c' ↔
      c.CleanupHarmless clock.cleanup clock.check ∧
      ∀ entry ∈ request.taken settings backend (c.cleanup clock.cleanup),
        c.Useless clock.check entry.1 entry.2 := by
  cases request with
  | refresh form htype => exact (rejected_refresh h).keeps_iff clock.cleanup_le_check
  | revoke form => exact (rejected_revoke h).keeps_iff clock.cleanup_le_check

/-! ### Another client's tokens -/

/-- Client `a` has a pair of tokens. -/
def exampleCache : Cache where
  accessTokens := HashMap.collect [("access", ⟨"a", "user", ["identify"], 3600, "refresh", 7200⟩)]
  refreshTokens := HashMap.collect [("refresh", "access")]

/-- Client `b` asks to revoke the access token. -/
def exampleRevoke : TokenRequest :=
  .revoke { token := "access", clientId := "b", clientSecret := some "b" }

/-- Client `b` asks to renew with the refresh token, without a secret. -/
def exampleRefresh : TokenRequest :=
  .refresh
    { grantType := "refresh_token", refreshToken := some "refresh", clientId := some "b" } rfl

def exampleReadings : Readings := ⟨0, 0, 0, Nat.le_refl 0, Nat.le_refl 0⟩

/-- A client that does not exist is refused before anything is taken. -/
theorem rejected_keeps_iff_unknown_client :
    exampleCache.Keeps 0 (exec
      (serve exampleSettings exampleBackend exampleReadings ⟨"n", "nn"⟩
        (.revoke { token := "access", clientId := "c" })) exampleCache).2 := by
  refine (rejected_keeps_iff exampleSettings exampleBackend exampleReadings ⟨"n", "nn"⟩
    (.revoke { token := "access", clientId := "c" }) exampleCache _ (.error .invalidCredentials)
    rfl).mpr ⟨?_, ?_⟩
  · intro refreshToken accessToken entry hlive hexpired
    have hnil : exampleCache.expiredRefreshTokens 0 = [] := by decide +kernel
    rw [exampleReadings, hnil] at hexpired
    cases hexpired
  · intro entry hentry
    have hnone : taken exampleSettings exampleBackend (exampleCache.cleanup 0)
        (.revoke { token := "access", clientId := "c" }) = none := by decide +kernel
    cases hnone.symm.trans hentry

theorem liveAccess_exampleCache : exampleCache.LiveAccess 0 "access"
    ⟨"a", "user", ["identify"], 3600, "refresh", 7200⟩ :=
  ⟨rfl, by decide⟩

theorem not_keeps_exampleCache {c : Cache} (h : c.accessTokens.lookup "access" = none) :
    ¬ exampleCache.Keeps 0 c := by
  intro hkeeps
  obtain ⟨entry, hlive, -⟩ := hkeeps.access liveAccess_exampleCache
  cases h.symm.trans hlive.stored

/-- Another client is refused both times, and the tokens are gone. -/
theorem rejected_other_client :
    (exampleCache.LiveAccess 0 "access" ⟨"a", "user", ["identify"], 3600, "refresh", 7200⟩) ∧
    ((exec (serve exampleSettings exampleBackend exampleReadings ⟨"n", "nn"⟩
        exampleRevoke) exampleCache).1 = .error (.error .invalidCredentials) ∧
      ¬ exampleCache.Keeps 0 (exec (serve exampleSettings exampleBackend exampleReadings
        ⟨"n", "nn"⟩ exampleRevoke) exampleCache).2) ∧
    (exec (serve exampleSettings exampleBackend exampleReadings ⟨"n", "nn"⟩
        exampleRefresh) exampleCache).1 = .error (.error .invalidCredentials) ∧
      ¬ exampleCache.Keeps 0 (exec (serve exampleSettings exampleBackend exampleReadings
        ⟨"n", "nn"⟩ exampleRefresh) exampleCache).2 := by
  refine ⟨liveAccess_exampleCache, ⟨?_, not_keeps_exampleCache ?_⟩, ?_, not_keeps_exampleCache ?_⟩
  all_goals decide +kernel

end TokenRequest

end DawnChat.OAuth2
