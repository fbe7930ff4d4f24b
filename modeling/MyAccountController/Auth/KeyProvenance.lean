import MyAccountController.Auth.Server
import MyAccountController.Auth.SessionEffect

/-! # Where the key of an admitted session comes from

`UnlockedGuard` passes on the key of the session together with its user id. In
every run of requests under `/auth` that key was derived from a master password
verified for this user in this session, unless a WebAuthn request has moved an
unlocked session to another user and then failed to unlock it.
-/

namespace MyAccountController

open Foundation

variable {R : Runtime}

/-- A request under `/auth` of a session at a time. -/
structure AuthCall (R : Runtime) where
  sessionId : String
  now : Int
  request : AuthRequest R

namespace AuthCall

/-- The route of the call. -/
def route (call : AuthCall R) : Route R Unit :=
  call.request.route call.sessionId call.now

/-- The context the call starts from. -/
def context (call : AuthCall R) (server : Server R) : Context R :=
  server.context call.sessionId

end AuthCall

/-- Serve one call. -/
def Server.authStep (server : Server R) (call : AuthCall R) : Server R :=
  (server.serve call.sessionId call.route).2

/-- Among the calls is one of this session that succeeded and verified a master
password of the user, from which the key was derived; the session was not
logged out since. -/
def Provenance (init : Server R) (calls : List (AuthCall R)) (sessionId userId : String)
    (key : R.Key) : Prop :=
  ∃ before call after, calls = before ++ call :: after ∧ call.sessionId = sessionId ∧
    (call.route (call.context (run Server.authStep init before))).1 = .ok () ∧
    Verifies (call.context (run Server.authStep init before)) userId key call.request ∧
    ∀ later ∈ after, later.sessionId = sessionId → later.request ≠ .logout

/-- Every key that `UnlockedGuard` would pass on after the calls has its
provenance in them. -/
def KeysVerified (init : Server R) (calls : List (AuthCall R)) : Prop :=
  ∀ sessionId now userId key,
    Admits (run Server.authStep init calls) sessionId now userId key →
      Provenance init calls sessionId userId key

/-- A WebAuthn request that takes over an unlocked session from another user
carries the master password of the device's user. -/
def TakeoverUnlocks (server : Server R) (call : AuthCall R) : Prop :=
  ∀ response password device, call.request = .webauthnAuthenticate response password →
    Asserts (call.context server) response device →
    (server.sessions call.sessionId).isUnlocked = true →
    server.keys call.sessionId ≠ none →
    (server.sessions call.sessionId).userId ≠ some device.userId →
    ∃ user current, AuthService.CurrentPassword R server.db device.userId password user current

namespace Provenance

variable {init : Server R} {calls : List (AuthCall R)} {sessionId userId : String} {key : R.Key}

theorem extend (h : Provenance init calls sessionId userId key) {call : AuthCall R}
    (hcall : call.sessionId = sessionId → call.request ≠ .logout) :
    Provenance init (calls ++ [call]) sessionId userId key := by
  obtain ⟨before, source, after, rfl, hsession, hok, hverifies, hafter⟩ := h
  refine ⟨before, source, after ++ [call], by simp, hsession, hok, hverifies, ?_⟩
  intro later hlater
  rcases List.mem_append.mp hlater with hold | hlast
  · exact hafter later hold
  · rw [List.mem_singleton.mp hlast]
    exact hcall

theorem last {call : AuthCall R} (hsession : call.sessionId = sessionId)
    (hok : (call.route (call.context (run Server.authStep init calls))).1 = .ok ())
    (hverifies : Verifies (call.context (run Server.authStep init calls)) userId key
      call.request) :
    Provenance init (calls ++ [call]) sessionId userId key :=
  ⟨calls, call, [], rfl, hsession, hok, hverifies, by simp⟩

end Provenance

/-! ## The invariant -/

/-- The three parts of an unlocked session belong together. -/
def KeysProven (init : Server R) (calls : List (AuthCall R)) (server : Server R) : Prop :=
  ∀ sessionId userId entry, (server.sessions sessionId).isUnlocked = true →
    (server.sessions sessionId).userId = some userId →
    server.keys sessionId = some entry → Provenance init calls sessionId userId entry.key

/-- A session that was logged out is locked. -/
theorem logout_locks {sessionId : String} {now : Int} {ctx ctx' : Context R}
    {result : Except Exception Unit}
    (hrun : AuthRequest.logout.route sessionId now ctx = (result, ctx')) :
    ctx'.session.isUnlocked = false := by
  obtain ⟨-, rfl⟩ := Prod.mk.inj hrun
  rfl

/-- The session of a call, by the effect of its route. -/
theorem keysProven_own {init : Server R} {calls : List (AuthCall R)} {call : AuthCall R}
    (hproven : KeysProven init calls (run Server.authStep init calls))
    (htakeover : TakeoverUnlocks (run Server.authStep init calls) call)
    {result : Except Exception Unit} {ctx' : Context R}
    (hrun : call.route (call.context (run Server.authStep init calls)) = (result, ctx'))
    {userId : String} {entry : UnlockEntry R.Key}
    (hunlocked : ctx'.session.isUnlocked = true) (huserId : ctx'.session.userId = some userId)
    (hentry : ctx'.keys call.sessionId = some entry) :
    Provenance init (calls ++ [call]) call.sessionId userId entry.key := by
  have hlogout : call.request ≠ .logout := by
    intro hrequest
    rw [AuthCall.route, hrequest] at hrun
    rw [logout_locks hrun] at hunlocked
    contradiction
  have heffect := route_effect call.request hrun
  cases heffect with
  | weakened _ hweakens =>
      obtain ⟨before, hbefore, hkey⟩ := hweakens.key entry hentry
      rw [hkey]
      refine Provenance.extend ?_ fun _ => hlogout
      exact hproven _ userId before (hweakens.unlocked hunlocked)
        ((hweakens.userId hunlocked).symm.trans huserId) hbefore
  | established hverifies hestablishes =>
      obtain rfl := Option.some.inj (hestablishes.userId.symm.trans huserId)
      have hkey := hestablishes.key
      rw [UnlockKeyStore.get, hentry, Option.map_some, Option.some.injEq] at hkey
      rw [hkey]
      exact Provenance.last rfl (by rw [hrun]) hverifies
  | switched hrequest hasserts hwrong hdevice hflag hkeys =>
      -- The session was unlocked before, so it already belonged to this user.
      have hbefore := hkeys ▸ hentry
      have hunlocked' : ((run Server.authStep init calls).sessions call.sessionId).isUnlocked =
          true := by
        rw [SessionData.isUnlocked, hflag] at hunlocked
        exact hunlocked
      have hsame : ((run Server.authStep init calls).sessions call.sessionId).userId =
          some userId := by
        rw [← huserId, hdevice]
        by_contra hne
        refine hwrong (htakeover _ _ _ hrequest hasserts hunlocked' ?_ hne)
        exact Option.ne_none_iff_exists'.mpr ⟨entry, hbefore⟩
      exact Provenance.extend (hproven _ userId entry hunlocked' hsame hbefore) fun _ => hlogout

theorem effect_otherKeys {sessionId : String} {request : AuthRequest R} {ctx ctx' : Context R}
    {result : Except Exception Unit} (heffect : Effect sessionId request ctx result ctx')
    {other : String} (hne : other ≠ sessionId) : ctx'.keys other = ctx.keys other := by
  cases heffect with
  | weakened _ hweakens => exact hweakens.otherKeys other hne
  | established hverifies hestablishes => exact hestablishes.otherKeys other hne
  | switched _ _ _ _ _ hkeys => rw [hkeys]

/-- One call keeps the invariant. -/
theorem keysProven_step {init : Server R} (calls : List (AuthCall R)) (call : AuthCall R)
    (hproven : KeysProven init calls (run Server.authStep init calls))
    (htakeover : TakeoverUnlocks (run Server.authStep init calls) call) :
    KeysProven init (calls ++ [call]) ((run Server.authStep init calls).authStep call) := by
  intro sessionId userId entry hunlocked huserId hentry
  rcases hrun : call.route (call.context (run Server.authStep init calls)) with ⟨result, ctx'⟩
  have hstep : (run Server.authStep init calls).authStep call =
      (run Server.authStep init calls).save call.sessionId ctx' := by
    change (run Server.authStep init calls).save call.sessionId
      (call.route (call.context (run Server.authStep init calls))).2 = _
    rw [hrun]
  rw [hstep] at hunlocked huserId hentry
  by_cases heq : sessionId = call.sessionId
  · subst heq
    rw [Server.save_session] at hunlocked huserId
    exact keysProven_own hproven htakeover hrun hunlocked huserId hentry
  · rw [Server.save_session_of_ne _ _ _ heq] at hunlocked huserId
    rw [Server.save_keys, effect_otherKeys (route_effect call.request hrun) heq] at hentry
    refine Provenance.extend (hproven sessionId userId entry hunlocked huserId hentry) ?_
    exact fun h => absurd h.symm heq

/-- In every run from a server without keys in which each takeover of an
unlocked session unlocks it, the keys passed on by the guard were verified for
the user of the session. -/
theorem keysVerified_of_takeovers (init : Server R) (calls : List (AuthCall R))
    (hinit : init.keys = UnlockKeyStore.empty)
    (htakeovers : Along Server.authStep TakeoverUnlocks init calls) :
    KeysVerified init calls := by
  have hproven : KeysProven init calls (run Server.authStep init calls) := by
    refine run_history_invariant keysProven_step ?_ htakeovers
    intro sessionId userId entry _ _ hentry
    rw [hinit] at hentry
    contradiction
  intro sessionId now userId key hadmits
  obtain ⟨hlogged, hunlocked, htouch⟩ := admits_iff.mp hadmits
  obtain ⟨entry, hentry, rfl⟩ := UnlockKeyStore.touch_key _ _ _ htouch
  exact hproven sessionId userId entry hunlocked (SessionData.userId_of_loggedInAs hlogged) hentry

/-! ## A takeover without the password -/

namespace Takeover

/-- Two users, the second with a trusted device. -/
def user : User where
  id := "u"
  googleSubId := "sub-u"
  googleEmail := "u@example.com"
  masterPasswordHash := symbolicRuntime.hashMasterPassword "hu" "user-password"
  masterKdfSalt := "su"
  autoLockMinutes := 15
  createdAt := 0

def owner : User where
  id := "v"
  googleSubId := "sub-v"
  googleEmail := "v@example.com"
  masterPasswordHash := symbolicRuntime.hashMasterPassword "hv" "owner-password"
  masterKdfSalt := "sv"
  autoLockMinutes := 15
  createdAt := 0

def device : TrustedDevice where
  id := "d"
  userId := "v"
  deviceLabel := "laptop"
  webauthnCredentialId := "credential"
  webauthnPublicKey := "public"
  counter := 0
  createdAt := 0
  lastUsedAt := none

def server : Server symbolicRuntime where
  db := { Database.empty with
    users := ⟨[user, owner], by decide⟩
    trustedDevices := ⟨[device], List.pairwise_singleton _ _⟩ }
  keys := UnlockKeyStore.empty
  sessions := fun _ => {}

/-- An assertion of the device for the challenge `challenge`. -/
def response : AuthenticationResponse where
  id := "credential"
  verify expectedChallenge _ := if expectedChallenge = "challenge" then .ok (some 1) else .ok none

/-- The first user logs in and unlocks; the device of the second one is used
with the given password. -/
def calls (password : String) : List (AuthCall symbolicRuntime) :=
  [⟨"sid", 1, .googleStart "state"⟩,
    ⟨"sid", 2, .googleCallback (some "state") (.ok ⟨"sub-u", "u@example.com"⟩)⟩,
    ⟨"sid", 3, .unlock (some "user-password")⟩,
    ⟨"sid", 4, .webauthnAuthenticateOptions "challenge"⟩,
    ⟨"sid", 5, .webauthnAuthenticate response (some password)⟩]

end Takeover

open Takeover in
/-- After a failed takeover the guard admits the session as the second user with
the key of the first. -/
theorem keysVerified_fails : ¬ KeysVerified server (calls "wrong-password") := by
  intro hverified
  have hadmits : Admits (run Server.authStep server (calls "wrong-password")) "sid" 6 "v"
      (symbolicRuntime.deriveEncryptionKey "user-password" "su") := by
    rw [admits_iff]
    refine ⟨?_, ?_, ?_⟩ <;> decide +kernel
  obtain ⟨before, call, after, hcalls, -, -, hverifies, -⟩ := hverified _ _ _ _ hadmits
  -- One case for each call that could be the source of the key.
  rcases before with _ | ⟨_, _ | ⟨_, _ | ⟨_, _ | ⟨_, _ | ⟨_, rest⟩⟩⟩⟩⟩ <;>
    simp only [calls, List.nil_append, List.cons_append, List.cons.injEq] at hcalls
  · obtain ⟨rfl, rfl⟩ := hcalls
    exact hverifies
  · obtain ⟨rfl, rfl, rfl⟩ := hcalls
    exact hverifies
  · obtain ⟨rfl, rfl, rfl, rfl⟩ := hcalls
    obtain ⟨_, _, hlogged, -⟩ := hverifies
    exact absurd hlogged (by decide +kernel)
  · obtain ⟨rfl, rfl, rfl, rfl, rfl⟩ := hcalls
    exact hverifies
  · obtain ⟨rfl, rfl, rfl, rfl, rfl, rfl⟩ := hcalls
    obtain ⟨_, found, current, -, -, ⟨hfound, hpassword, hverify⟩, -⟩ := hverifies
    obtain rfl := Option.some.inj hpassword
    have howner : (run Server.authStep server ((calls "wrong-password").take 4)).db.users.find? "v" =
        some owner := by decide +kernel
    obtain rfl := Option.some.inj (howner.symm.trans hfound)
    exact absurd hverify (by decide +kernel)
  · simp at hcalls

open Takeover in
/-- With the password of the second user the takeover unlocks, and the key is
the one it derived. -/
theorem keysVerified_of_takeovers_example :
    Provenance server (calls "owner-password") "sid" "v"
      (symbolicRuntime.deriveEncryptionKey "owner-password" "sv") := by
  have htakeovers : Along Server.authStep TakeoverUnlocks server (calls "owner-password") := by
    have hother : ∀ state call, (∀ response password,
        call.request ≠ AuthRequest.webauthnAuthenticate (R := symbolicRuntime) response password) →
        TakeoverUnlocks state call :=
      fun _ _ hne response password _ hrequest => absurd hrequest (hne response password)
    refine ⟨?_, ?_, ?_, ?_, ?_, trivial⟩
    iterate 4 exact hother _ _ fun _ _ h => by contradiction
    rintro _ _ asserted hrequest ⟨_, _, -, -, hfind, -⟩ - - -
    obtain ⟨rfl, rfl⟩ := AuthRequest.webauthnAuthenticate.inj hrequest
    have hdevice : (run Server.authStep server
        ((calls "owner-password").take 4)).db.trustedDevices.rows.find?
          (·.webauthnCredentialId = "credential") = some device := by decide +kernel
    obtain rfl := Option.some.inj (hdevice.symm.trans hfind)
    exact ⟨owner, "owner-password", by decide +kernel, rfl, by decide +kernel⟩
  refine keysVerified_of_takeovers server (calls "owner-password") rfl htakeovers "sid" 6 "v" _ ?_
  rw [admits_iff]
  refine ⟨?_, ?_, ?_⟩ <;> decide +kernel

end MyAccountController
