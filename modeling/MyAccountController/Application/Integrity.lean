import MyAccountController.Application.Logins

/-! # No row is missing

The handlers look up the user of the session, the rule and the mailbox of a
candidate, and fail when one is missing. In every reachable state they are all
there, so those failures never happen: what the user typed is the only reason
for an unlock to be refused, and a candidate that is listed can be decided. A
nested write of an account's owner may reach every table, so the events make none.
-/

namespace MyAccountController

open Foundation Handler Database

variable {R : Runtime}

/-- The requests of a session of the user find the rows that they rely on. -/
structure FindsRows (server : Server R) (sessionId : String) (now : Int) (user : User) :
    Prop where
  stored : server.db.users.find? user.id = some user
  settings : (AuthController.settings (server.context sessionId)).1 = .ok user.autoLockMinutes
  unlock : ∀ password e,
    (AuthController.unlock sessionId now password (server.context sessionId)).1 = .error e →
      password = none ∧ e = .error "password must be a string" ∨
        ∃ typed, password = some typed ∧
          R.verifyMasterPassword typed user.masterPasswordHash = false ∧
          e = .unauthorized "마스터 비밀번호가 올바르지 않습니다."
  registerOptions : ∀ key, Admits server sessionId now user.id key → ∀ challenge,
    (AuthController.webauthnRegisterOptions sessionId now challenge
      (server.context sessionId)).1 =
        .ok (challenge, (server.db.trustedDevices.rows.filter (·.userId = user.id)).map
          TrustedDevice.webauthnCredentialId)
  autoLock : ∀ key, Admits server sessionId now user.id key → ∀ minutes,
    1 ≤ minutes → minutes ≤ 240 →
      (AuthController.updateAutoLockMinutes sessionId now (some minutes)
        (server.context sessionId)).1 = .ok ()
  findOwned : ∀ id e, (CandidatesService.findOwned user.id id server.db).1 = .error e →
    e = CandidatesService.candidateNotFound
  findPending : ∀ listed, (CandidatesService.findPending user.id server.db).1 = .ok listed →
    ∀ row actionType, (row, actionType) ∈ listed →
      ∃ rule, server.db.emailRules.find? row.ruleId = some rule ∧ rule.actionType = actionType

section Rows

variable {server : Server R} {sessionId : String} {now : Int} {user : User}

theorem verifiedUser_error_of_stored {ctx ctx' : Context R} {password : Option String}
    {invalid e : Exception} (hstored : ctx.db.users.find? user.id = some user)
    (hrun : AuthService.verifiedUser user.id password invalid ctx = (.error e, ctx')) :
    password = none ∧ e = .error "password must be a string" ∨
      ∃ typed, password = some typed ∧
        R.verifyMasterPassword typed user.masterPasswordHash = false ∧ e = invalid := by
  have hfound : onDatabase (Prisma.user.findUnique user.id) ctx =
      (.ok (ctx.db.users.find? user.id), ctx) := rfl
  rw [AuthService.verifiedUser, bind_of_ok hfound, hstored, expect_some_bind] at hrun
  cases password with
  | none => exact .inl ⟨rfl, (Except.error.inj (Prod.mk.inj hrun).1).symm⟩
  | some typed =>
      rw [expect_some_bind, ensure_bind] at hrun
      split at hrun
      · exact absurd (congrArg Prod.fst hrun) (by simp)
      · next hwrong =>
          refine .inr ⟨typed, rfl, Bool.eq_false_iff.mpr hwrong, ?_⟩
          exact (Except.error.inj (Prod.mk.inj hrun).1).symm

theorem unlock_error_of_stored (hlogged : (server.sessions sessionId).loggedInAs = some user.id)
    (hstored : server.db.users.find? user.id = some user) {password : Option String}
    {e : Exception} (herror : (AuthController.unlock sessionId now password
      (server.context sessionId)).1 = .error e) :
    password = none ∧ e = .error "password must be a string" ∨
      ∃ typed, password = some typed ∧
        R.verifyMasterPassword typed user.masterPasswordHash = false ∧
        e = .unauthorized "마스터 비밀번호가 올바르지 않습니다." := by
  obtain ⟨ctx', hrun⟩ := exists_run herror
  have hguard : loggedInGuard (server.context sessionId) = (.ok user.id, _) :=
    loggedInGuard_ok_iff.mpr ⟨hlogged, rfl⟩
  rw [AuthController.unlock, bind_of_ok hguard, AuthService.unlock, bind_error_iff] at hrun
  rcases hrun with hverified | ⟨⟨_, _⟩, _, _, hstore⟩
  · exact verifiedUser_error_of_stored hstored hverified
  · exact absurd (congrArg Prod.fst hstore) (by simp)

/-- A candidate that is found has its rule and its mailbox. -/
theorem findOwned_error_of_referential {db : Database} (hdb : db.Referential) {userId id : String}
    {e : Exception} (herror : (CandidatesService.findOwned userId id db).1 = .error e) :
    e = CandidatesService.candidateNotFound := by
  obtain ⟨db', hrun⟩ := exists_run herror
  unfold CandidatesService.findOwned at hrun
  rw [state_bind, Model.findFirst_bind, bind_error_iff] at hrun
  rcases hrun with hcandidate | ⟨candidate, start, hcandidate, hrun⟩
  · exact (expect_error_iff.mp hcandidate).2.1.symm
  obtain ⟨hfound, rfl⟩ := expect_ok_iff.mp hcandidate
  have hboth := hdb.emailCandidates candidate (List.mem_of_find?_eq_some hfound)
  unfold Prisma.emailCandidate at hboth
  rw [Bool.and_eq_true] at hboth
  obtain ⟨rule, hrule⟩ := Option.isSome_iff_exists.mp hboth.1
  obtain ⟨account, haccount⟩ := Option.isSome_iff_exists.mp hboth.2
  rw [hrule, haccount, expect_some_bind, expect_some_bind] at hrun
  exact absurd (congrArg Prod.fst hrun) (by simp)

/-- The action type that is listed with a candidate is the one of its rule. -/
theorem findPending_actionType {db : Database} (hdb : db.Referential) {userId : String}
    {listed : List (EmailCandidate × String)}
    (hlisted : (CandidatesService.findPending userId db).1 = .ok listed) {row : EmailCandidate}
    {actionType : String} (hrow : (row, actionType) ∈ listed) :
    ∃ rule, db.emailRules.find? row.ruleId = some rule ∧ rule.actionType = actionType := by
  obtain rfl := Except.ok.inj hlisted
  obtain ⟨candidate, hcandidate, heq⟩ := List.mem_map.mp hrow
  obtain ⟨rfl, rfl⟩ := Prod.mk.inj heq
  have hmem := (List.mem_filter.mp (List.mem_mergeSort.mp hcandidate)).1
  have hboth := hdb.emailCandidates candidate hmem
  unfold Prisma.emailCandidate at hboth
  rw [Bool.and_eq_true] at hboth
  obtain ⟨rule, hrule⟩ := Option.isSome_iff_exists.mp hboth.1
  exact ⟨rule, hrule, by rw [hrule]; rfl⟩

/-- What runs behind the guard of an admitted session, in the same database. -/
theorem unlockedGuard_run {userId : String} {key : R.Key} {α : Type}
    (hadmits : Admits server sessionId now userId key) (rest : String × R.Key → Route R α) :
    ∃ ctx, ctx.db = server.db ∧
      (unlockedGuard sessionId now >>= rest) (server.context sessionId) = rest (userId, key) ctx := by
  obtain ⟨ctx, hguard⟩ := hadmits
  have hdb := unlockedGuard_db sessionId now (server.context sessionId)
  rw [hguard] at hdb
  exact ⟨ctx, hdb, bind_of_ok hguard⟩

theorem registerOptions_of_stored {key : R.Key}
    (hadmits : Admits server sessionId now user.id key)
    (hstored : server.db.users.find? user.id = some user) (challenge : String) :
    (AuthController.webauthnRegisterOptions sessionId now challenge
      (server.context sessionId)).1 =
        .ok (challenge, (server.db.trustedDevices.rows.filter (·.userId = user.id)).map
          TrustedDevice.webauthnCredentialId) := by
  obtain ⟨ctx, hdb, hrun⟩ := unlockedGuard_run hadmits fun admitted => do
    let options ← onDatabase (WebAuthnService.createRegistrationOptions admitted.1 challenge)
    AuthController.setChallenge options.1
    pure options
  have hquery : WebAuthnService.createRegistrationOptions user.id challenge ctx.db =
      (.ok (challenge, (server.db.trustedDevices.rows.filter (·.userId = user.id)).map
        TrustedDevice.webauthnCredentialId), ctx.db) := by
    have hfound : (Prisma.user.table ctx.db).find? user.id = some user := by rwa [hdb]
    unfold WebAuthnService.createRegistrationOptions
    rw [Model.findUnique_bind, hfound, expect_some_bind, Model.findMany_bind, hdb]
    rfl
  refine (congrArg Prod.fst hrun).trans ?_
  rw [bind_of_ok (onDatabase_run.mpr ⟨_, hquery, rfl⟩)]
  rfl

theorem updateAutoLockMinutes_of_stored {key : R.Key}
    (hadmits : Admits server sessionId now user.id key)
    (hstored : server.db.users.find? user.id = some user) {minutes : Int} (hleast : 1 ≤ minutes)
    (hmost : minutes ≤ 240) :
    (AuthController.updateAutoLockMinutes sessionId now (some minutes)
      (server.context sessionId)).1 = .ok () := by
  obtain ⟨ctx, hdb, hrun⟩ := unlockedGuard_run hadmits fun admitted =>
    AuthService.updateAutoLockMinutes sessionId admitted.1 (some minutes)
  refine (congrArg Prod.fst hrun).trans ?_
  rw [← hdb] at hstored
  have hupdate : Prisma.user.update user.id (AuthService.setAutoLockMinutes minutes)
      (AuthService.setAutoLockMinutes_unindexed minutes) ctx.db =
        (.ok (AuthService.setAutoLockMinutes minutes user), _) :=
    (Model.update_ok_iff _).mpr ⟨⟨user, hstored, rfl⟩, rfl⟩
  unfold AuthService.updateAutoLockMinutes
  rw [expect_some_bind, ensure_bind, if_pos ⟨hleast, hmost⟩,
    bind_of_ok (onDatabase_run.mpr ⟨_, hupdate, rfl⟩)]
  rfl

theorem settings_of_stored (hlogged : (server.sessions sessionId).loggedInAs = some user.id)
    (hstored : server.db.users.find? user.id = some user) :
    (AuthController.settings (server.context sessionId)).1 = .ok user.autoLockMinutes := by
  have hguard : loggedInGuard (server.context sessionId) = (.ok user.id, _) :=
    loggedInGuard_ok_iff.mpr ⟨hlogged, rfl⟩
  have hfound : (Prisma.user.table server.db).find? user.id = some user := hstored
  rw [AuthController.settings, bind_of_ok hguard]
  show (AuthService.getSettings user.id server.db).1 = _
  unfold AuthService.getSettings
  rw [Model.findUnique_bind, hfound, expect_some_bind]
  rfl

theorem findsRows_of_stored (hdb : server.db.Referential)
    (hlogged : (server.sessions sessionId).loggedInAs = some user.id)
    (hstored : server.db.users.find? user.id = some user) :
    FindsRows server sessionId now user where
  stored := hstored
  settings := settings_of_stored hlogged hstored
  unlock _ _ herror := unlock_error_of_stored hlogged hstored herror
  registerOptions _ hadmits challenge := registerOptions_of_stored hadmits hstored challenge
  autoLock _ hadmits _ hleast hmost :=
    updateAutoLockMinutes_of_stored hadmits hstored hleast hmost
  findOwned _ _ herror := findOwned_error_of_referential hdb herror
  findPending _ hlisted _ _ hrow := findPending_actionType hdb hlisted hrow

end Rows

/-- After any events without a nested write, every foreign key names a row, the user of a session
is stored, and none of the user's requests fails because of a row that is missing. -/
theorem nothing_missing (unicode : UnicodeData) (events : List (AppEvent R))
    (hnested : ∀ event ∈ events, event.NoNestedWrite) (sessionId : String) (now : Int) :
    (Server.reached unicode events).db.Referential ∧
      ∀ userId, ((Server.reached unicode events).sessions sessionId).loggedInAs = some userId →
        ∃ user, user.id = userId ∧
          FindsRows (Server.reached unicode events) sessionId now user := by
  have hdb := referential_reached unicode hnested
  refine ⟨hdb, fun userId hlogged => ?_⟩
  obtain ⟨user, hstored, -⟩ := session_identified unicode hnested sessionId userId
    (SessionData.userId_of_loggedInAs hlogged)
  obtain rfl := (Table.find?_eq_some_iff.mp hstored).2
  exact ⟨user, rfl, findsRows_of_stored hdb hlogged hstored⟩

theorem nothing_missing_signup :
    (Server.reached asciiData Signup.events).db.Referential ∧
      ∀ userId, ((Server.reached asciiData Signup.events).sessions "sid").loggedInAs = some userId →
        ∃ user, user.id = userId ∧
          FindsRows (Server.reached asciiData Signup.events) "sid" 1 user :=
  nothing_missing asciiData Signup.events Signup.events_noNestedWrite "sid" 1

end MyAccountController
