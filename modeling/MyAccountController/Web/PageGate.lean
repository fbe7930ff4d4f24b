import MyAccountController.Application.Logins

/-! # `proxy.ts` of the web application

Before a page is shown, the browser's cookie is sent to `/auth/me`. The gate shows the page or
sends the browser to the login page. It agrees with `UnlockedGuard`: a page that is shown can
load its data, and to a browser that was sent away the guard stays shut until its session unlocks.
-/

namespace MyAccountController

open Foundation Handler

variable {R : Runtime}

/-! ## The gate -/

/-- `NextResponse`. -/
inductive GateAnswer where
  | next
  | redirect (path : String)
  deriving DecidableEq, Repr

/-- `proxy`, from what becomes of the request to `/auth/me`. A request that is lost and one that
is refused both leave no session. -/
def proxy : Except Exception (String × Bool) → GateAnswer
  | .error _ => .redirect "/login"
  | .ok session =>
      if session.1 = "" then .redirect "/login"
      else if session.2 = false then .redirect "/login?step=unlock"
      else .next

/-- Open a page while the server can be reached. -/
def openPage (server : Server R) (sessionId : String) (now : Int) : GateAnswer × Server R :=
  let out := server.serve sessionId (AuthController.me sessionId now)
  (proxy out.1, out.2)

/-! ## Events of other sessions -/

/-- The event is no request of the session and does not end it. -/
def AppEvent.Elsewhere (sessionId : String) : AppEvent R → Prop
  | .request other _ _ | .sessionExpires other => other ≠ sessionId
  | .handleScheduledScan _ _ _ | .restart => True

/-- The events are elsewhere, and the server process goes on. -/
def KeepsProcess (sessionId : String) (events : List (AppEvent R)) : Prop :=
  ∀ event ∈ events, event.Elsewhere sessionId ∧ event ≠ .restart

/-- The entries of other sessions stay. -/
def KeepsOtherKeys (sessionId : String) (ctx ctx' : Context R) : Prop :=
  ∀ other, other ≠ sessionId → ctx'.keys other = ctx.keys other

theorem keepsOtherKeys_steps (sessionId : String) (now : Int) :
    KeptBySteps (R := R) sessionId now (KeepsOtherKeys sessionId) := by
  have hweakens := weakens_steps (R := R) sessionId now
  constructor
  case refl => exact fun _ _ _ => rfl
  case trans => exact fun a b c hab hbc other hne => (hbc other hne).trans (hab other hne)
  case withDb => exact fun _ _ _ _ => rfl
  case unlockedGuard => exact fun ctx => (hweakens.unlockedGuard ctx).otherKeys
  case oauthState => exact fun _ _ _ _ => rfl
  case challenge => exact fun _ _ _ _ => rfl
  case checkStillUnlocked => exact fun ctx => (hweakens.checkStillUnlocked ctx).otherKeys
  case updateAutoLockMinutes =>
    exact fun ctx minutes => (hweakens.updateAutoLockMinutes ctx minutes).otherKeys
  case lock => exact fun ctx => (hweakens.lock ctx).otherKeys

/-- A request leaves the entries of the other sessions alone. -/
theorem AppRequest.route_otherKeys (unicode : UnicodeData) (request : AppRequest R)
    (sessionId : String) (now : Int) (ctx : Context R) :
    KeepsOtherKeys sessionId ctx (request.route unicode sessionId now ctx).2 := by
  cases request with
  | auth request =>
      exact fun other hne => servedRoute_otherKeys (.auth request) hne
  | user request =>
      exact request.route_kept (fun _ _ _ _ => rfl) (keepsOtherKeys_steps sessionId now) unicode ctx

/-- A session stays as it is, whatever the others do. -/
theorem sessions_elsewhere (unicode : UnicodeData) (server : Server R) {sessionId : String}
    {events : List (AppEvent R)} (helsewhere : ∀ event ∈ events, event.Elsewhere sessionId) :
    (run (Server.appStep unicode) server events).sessions sessionId =
      server.sessions sessionId := by
  induction events using List.reverseRecOn with
  | nil => rfl
  | append_singleton events event ih =>
      rw [run_concat, ← ih fun other hother => helsewhere other (List.mem_append_left _ hother)]
      have hlast := helsewhere event (List.mem_append_right _ List.mem_cons_self)
      cases event with
      | request other now sent => exact Server.save_session_of_ne _ _ _ (Ne.symm hlast)
      | handleScheduledScan providers faults freshId => rfl
      | restart => rfl
      | sessionExpires other => exact Function.update_of_ne (Ne.symm hlast) _ _

/-- So does its entry, while the server process goes on. -/
theorem keys_elsewhere (unicode : UnicodeData) (server : Server R) {sessionId : String}
    {events : List (AppEvent R)} (hkeeps : KeepsProcess sessionId events) :
    (run (Server.appStep unicode) server events).keys sessionId = server.keys sessionId := by
  induction events using List.reverseRecOn with
  | nil => rfl
  | append_singleton events event ih =>
      rw [run_concat, ← ih fun other hother => hkeeps other (List.mem_append_left _ hother)]
      obtain ⟨hlast, hgoes⟩ := hkeeps event (List.mem_append_right _ List.mem_cons_self)
      cases event with
      | request other now sent =>
          exact sent.route_otherKeys unicode other now _ sessionId (Ne.symm hlast)
      | handleScheduledScan providers faults freshId => rfl
      | restart => exact absurd rfl hgoes
      | sessionExpires other => rfl

/-! ## The gate and the guard -/

section Gate

variable {server : Server R} {sessionId userId : String} {now : Int} {key : R.Key}

/-- The guard admits a session that is flagged unlocked and holds an entry within its limit. -/
theorem admits_iff_entry : Admits server sessionId now userId key ↔
    (server.sessions sessionId).loggedInAs = some userId ∧
      (server.sessions sessionId).isUnlocked = true ∧
      ∃ entry, server.keys sessionId = some entry ∧ entry.key = key ∧
        now - entry.lastActivityAt ≤ entry.autoLockMinutes * 60000 := by
  rw [admits_iff]
  refine and_congr_right fun _ => and_congr_right fun _ => ?_
  rw [UnlockKeyStore.touch_eq_some_iff]
  constructor
  · rintro ⟨after, hafter, rfl⟩
    obtain ⟨entry, hentry, hlive, rfl⟩ := (UnlockKeyStore.touch_entry_iff ..).mp hafter
    exact ⟨entry, hentry, rfl, hlive⟩
  · rintro ⟨entry, hentry, rfl, hlive⟩
    exact ⟨_, (UnlockKeyStore.touch_entry_iff ..).mpr ⟨entry, hentry, hlive, rfl⟩, rfl⟩

/-- The page of an admitted session is shown, and its entry is touched. -/
theorem openPage_of_admits (hadmits : Admits server sessionId now userId key) :
    openPage server sessionId now = (.next, server.save sessionId
      ((server.context sessionId).withKeys (server.keys.touch sessionId now).2)) := by
  obtain ⟨hlogged, hunlocked, hkey⟩ := admits_iff.mp hadmits
  have hguard : loggedInGuard (server.context sessionId) = (.ok userId, server.context sessionId) :=
    loggedInGuard_ok_iff.mpr ⟨hlogged, rfl⟩
  have hme : AuthController.me sessionId now (server.context sessionId) =
      (.ok (userId, true),
        (server.context sessionId).withKeys (server.keys.touch sessionId now).2) := by
    rw [AuthController.me, bind_of_ok hguard, AuthService.checkStillUnlocked]
    simp [bind_run, hunlocked, hkey]
  have hnamed : userId ≠ "" := by
    unfold SessionData.loggedInAs at hlogged
    simpa using (Option.filter_eq_some_iff.mp hlogged).2
  simp [openPage, Server.serve, hme, proxy, hnamed]

/-- Nobody is logged in: the browser goes to the login page, and nothing has changed. -/
theorem openPage_of_nobody (hnobody : (server.sessions sessionId).loggedInAs = none) :
    (openPage server sessionId now).1 = .redirect "/login" ∧
      ((openPage server sessionId now).2.sessions sessionId).loggedInAs = none := by
  have hguard : loggedInGuard (server.context sessionId) =
      (.error (.unauthorized "로그인이 필요합니다."), server.context sessionId) := by
    rw [loggedInGuard, state_bind, Server.context_session, hnobody]
    rfl
  have hme : AuthController.me sessionId now (server.context sessionId) =
      (.error (.unauthorized "로그인이 필요합니다."), server.context sessionId) :=
    bind_of_error hguard
  simp [openPage, Server.serve, hme, proxy, hnobody]

/-- A session that is logged in and not admitted has its flag lowered, and the browser goes to the
unlock step. -/
theorem openPage_of_locked (hlogged : (server.sessions sessionId).loggedInAs = some userId)
    (hlocked : ∀ key, ¬ Admits server sessionId now userId key) :
    (openPage server sessionId now).1 = .redirect "/login?step=unlock" ∧
      ((openPage server sessionId now).2.sessions sessionId).isUnlocked = false := by
  have hguard : loggedInGuard (server.context sessionId) = (.ok userId, server.context sessionId) :=
    loggedInGuard_ok_iff.mpr ⟨hlogged, rfl⟩
  obtain ⟨ctx, hcheck, hflag⟩ : ∃ ctx, AuthService.checkStillUnlocked sessionId now
      (server.context sessionId) = (.ok false, ctx) ∧ ctx.session.isUnlocked = false := by
    rw [AuthService.checkStillUnlocked, state_bind, Server.context_session]
    cases hunlocked : (server.sessions sessionId).isUnlocked with
    | false => exact ⟨_, rfl, hunlocked⟩
    | true =>
        cases hkey : (server.keys.touch sessionId now).1 with
        | none =>
            simp only [if_true, Handler.modify_bind, Server.context_keys, hkey]
            exact ⟨_, rfl, rfl⟩
        | some key => exact absurd (admits_iff.mpr ⟨hlogged, hunlocked, hkey⟩) (hlocked key)
  have hme : AuthController.me sessionId now (server.context sessionId) =
      (.ok (userId, false), ctx) := by
    rw [AuthController.me, bind_of_ok hguard, bind_of_ok hcheck]
    rfl
  have hnamed : userId ≠ "" := by
    unfold SessionData.loggedInAs at hlogged
    simpa using (Option.filter_eq_some_iff.mp hlogged).2
  simp [openPage, Server.serve, hme, proxy, hnamed, hflag]

/-- A session is admitted, or nobody is logged in, or it is locked. -/
theorem gate_cases : (∃ userId key, Admits server sessionId now userId key) ∨
    (server.sessions sessionId).loggedInAs = none ∨
    ∃ userId, (server.sessions sessionId).loggedInAs = some userId ∧
      ∀ key, ¬ Admits server sessionId now userId key := by
  cases hlogged : (server.sessions sessionId).loggedInAs with
  | none => exact .inr (.inl rfl)
  | some userId =>
      by_cases hadmits : ∃ key, Admits server sessionId now userId key
      · exact .inl ⟨userId, hadmits⟩
      · exact .inr (.inr ⟨userId, rfl, fun key h => hadmits ⟨key, h⟩⟩)

theorem openPage_next_iff : (openPage server sessionId now).1 = .next ↔
    ∃ userId key, Admits server sessionId now userId key := by
  constructor
  · intro hnext
    rcases @gate_cases R server sessionId now with hadmits | hnobody | ⟨userId, hlogged, hlocked⟩
    · exact hadmits
    · simp [(openPage_of_nobody hnobody).1] at hnext
    · simp [(openPage_of_locked hlogged hlocked).1] at hnext
  · rintro ⟨userId, key, hadmits⟩
    rw [openPage_of_admits hadmits]

end Gate

/-- The gate agrees with `UnlockedGuard`: what a page loads is admitted within the idle limit, and
a browser that was sent away is not admitted by this guard until its own session does more. One
that was sent to unlock still passes `LoggedInGuard`. -/
structure GateAgrees (unicode : UnicodeData) (server : Server R) (sessionId : String) (now : Int) :
    Prop where
  next_iff : (openPage server sessionId now).1 = .next ↔
    ∃ userId key, Admits server sessionId now userId key
  login_iff : (openPage server sessionId now).1 = .redirect "/login" ↔
    (server.sessions sessionId).loggedInAs = none
  loads : ∀ userId key entry, Admits server sessionId now userId key →
    server.keys sessionId = some entry → ∀ others later, KeepsProcess sessionId others →
      later - now ≤ entry.autoLockMinutes * 60000 →
        Admits (run (Server.appStep unicode) (openPage server sessionId now).2 others) sessionId
          later userId key
  shut : (openPage server sessionId now).1 ≠ .next → ∀ others : List (AppEvent R),
    (∀ event ∈ others, event.Elsewhere sessionId) → ∀ later userId key,
      ¬ Admits (run (Server.appStep unicode) (openPage server sessionId now).2 others) sessionId
        later userId key

theorem gate_agrees (unicode : UnicodeData) (server : Server R) (sessionId : String) (now : Int) :
    GateAgrees unicode server sessionId now := by
  have hcases := @gate_cases R server sessionId now
  constructor
  case next_iff => exact openPage_next_iff
  case login_iff =>
    constructor
    · intro hlogin
      rcases hcases with ⟨userId, key, hadmits⟩ | hnobody | ⟨userId, hlogged, hlocked⟩
      · simp [openPage_of_admits hadmits] at hlogin
      · exact hnobody
      · simp [(openPage_of_locked hlogged hlocked).1] at hlogin
    · exact fun hnobody => (openPage_of_nobody hnobody).1
  case loads =>
    intro userId key entry hadmits hentry others later hkeeps hlive
    obtain ⟨hlogged, hunlocked, found, hfound, rfl, hnow⟩ := admits_iff_entry.mp hadmits
    obtain rfl := Option.some.inj (hentry.symm.trans hfound)
    rw [openPage_of_admits hadmits]
    have hsession := sessions_elsewhere unicode (server.save sessionId ((server.context
      sessionId).withKeys (server.keys.touch sessionId now).2)) fun event hevent =>
        (hkeeps event hevent).1
    have hkeys := keys_elsewhere unicode (server.save sessionId ((server.context
      sessionId).withKeys (server.keys.touch sessionId now).2)) hkeeps
    refine admits_iff_entry.mpr ⟨?_, ?_, { entry with lastActivityAt := now }, ?_, rfl, hlive⟩
    · rwa [hsession, Server.save_session]
    · rwa [hsession, Server.save_session]
    · rw [hkeys]
      exact (UnlockKeyStore.touch_entry_iff ..).mpr ⟨entry, hentry, hnow, rfl⟩
  case shut =>
    intro hshut others helsewhere later userId key hadmits
    obtain ⟨hlogged, hunlocked, -⟩ := admits_iff.mp hadmits
    rw [sessions_elsewhere unicode _ helsewhere] at hlogged hunlocked
    rcases hcases with ⟨userId', key', hbefore⟩ | hnobody | ⟨userId', hbefore, hlocked⟩
    · exact hshut (congrArg Prod.fst (openPage_of_admits hbefore))
    · rw [(openPage_of_nobody hnobody).2] at hlogged
      contradiction
    · rw [(openPage_of_locked hbefore hlocked).2] at hunlocked
      contradiction

end MyAccountController
