import MyAccountController.Common.SymbolicRuntime
import MyAccountController.EmailAccounts.GmailOAuthService

/-! # The address a connected mailbox is stored under

Callbacks of Gmail connections take turns on the one Google client. A row is
stored under the address that its tokens open when each profile request is
authorised with credentials of the callback's own mailbox.
-/

namespace MyAccountController

open Foundation

variable {R : Runtime}

/-- The address Google names for some credentials. -/
def Google.address (google : Google) (credentials : Credentials) : Option String :=
  match google.getProfile credentials.access_token credentials.refresh_token with
  | .ok profile => present profile
  | .error _ => none

/-- The stored tokens open the mailbox of the stored address. -/
def EmailAccount.Labelled (google : Google) (tokenKey : R.Key) (row : EmailAccount) : Prop :=
  ∃ accessToken refreshToken, R.decrypt row.encryptedAccessToken tokenKey = some accessToken ∧
    R.decrypt row.encryptedRefreshToken tokenKey = some refreshToken ∧
    google.address { access_token := some accessToken, refresh_token := some refreshToken } =
      some row.displayName

/-! ## The system -/

/-- A callback with its copy of the session. -/
inductive ConnectTask (R : Runtime) where
  | arrived (session : SessionData) (oauthState code : Option String) (fresh : FreshEmailAccount R)
  | connecting (session : SessionData) (userId : String) (fresh : FreshEmailAccount R)
      (phase : ConnectPhase)
  | redirected (session : SessionData) (redirect : EmailAccountsController.ConnectRedirect)

structure ConnectStart (R : Runtime) where
  session : SessionData
  oauthState : Option String
  code : Option String
  fresh : FreshEmailAccount R

/-- The time of a turn, and the exception when what the callback waits for fails. -/
structure ConnectTurn where
  now : Int
  failure : Option Exception

namespace ConnectTask

def turn (google : Google) (tokenKey : R.Key) (input : ConnectTurn) (state : GmailState) :
    ConnectTask R → GmailState × ConnectTask R
  | arrived session oauthState code fresh =>
      match EmailAccountsController.takeState oauthState session with
      | (.ok userId, session) => (state, connecting session userId fresh (.exchanging code))
      | (.error err, session) => (state, redirected session (.error err))
  | connecting session userId fresh phase =>
      match input.failure with
      | some err => (state, redirected session (.error err))
      | none =>
          match phase.turn google tokenKey input.now fresh userId state with
          | (.ok (some next), state) => (state, connecting session userId fresh next)
          | (.ok none, state) => (state, redirected session .connected)
          | (.error err, state) => (state, redirected session (.error err))
  | redirected session redirect => (state, redirected session redirect)

end ConnectTask

namespace GmailState

/-- One move of the system. -/
def step (google : Google) (tokenKey : R.Key) : Pool GmailState (ConnectTask R) →
    Move (ConnectStart R) ConnectTurn → Pool GmailState (ConnectTask R) :=
  Pool.step
    (fun what state => (state, some (.arrived what.session what.oauthState what.code what.fresh)))
    (ConnectTask.turn google tokenKey)

end GmailState

/-- What the used credentials open is the mailbox of the callback's own tokens. -/
def Google.SameMailbox (google : Google) (own used : Credentials) : Prop :=
  ∀ email ∈ google.address used, google.address own = some email

instance (google : Google) (own used : Credentials) : Decidable (google.SameMailbox own used) :=
  inferInstanceAs (Decidable (∀ email ∈ google.address used, _))

/-- A profile request is authorised with credentials of the callback's own mailbox. -/
def ConnectTask.OwnMailbox (google : Google) (_input : ConnectTurn) (state : GmailState) :
    ConnectTask R → Prop
  | .connecting _ _ _ (.authorising tokens _ _) => google.SameMailbox tokens state.client
  | _ => True

instance (google : Google) (input : ConnectTurn) (state : GmailState) :
    ∀ task : ConnectTask R, Decidable (task.OwnMailbox google input state)
  | .connecting _ _ _ (.authorising tokens _ _) =>
      inferInstanceAs (Decidable (google.SameMailbox tokens state.client))
  | .connecting _ _ _ (.exchanging _) | .connecting _ _ _ (.asking _ _ _ _)
  | .connecting _ _ _ (.storing _) | .arrived _ _ _ _ | .redirected _ _ => isTrue trivial

/-! ## The invariant -/

/-- What a callback knows of the tokens it will store. -/
def ConnectTask.Paired (google : Google) : ConnectTask R → Prop
  | .connecting _ _ _ (.authorising tokens accessToken refreshToken) =>
      tokens.access_token = some accessToken ∧ tokens.refresh_token = some refreshToken
  | .connecting _ _ _ (.asking tokens accessToken refreshToken used) =>
      (tokens.access_token = some accessToken ∧ tokens.refresh_token = some refreshToken) ∧
        google.SameMailbox tokens used
  | .connecting _ _ _ (.storing tokens) =>
      google.address { access_token := some tokens.accessToken,
                       refresh_token := some tokens.refreshToken } = some tokens.email
  | _ => True

section Turns

variable {google : Google} {tokenKey : R.Key} {input : ConnectTurn} {state : GmailState}
  {session : SessionData} {userId : String} {fresh : FreshEmailAccount R}

theorem address_congr {a b : Credentials} (haccess : a.access_token = b.access_token)
    (hrefresh : a.refresh_token = b.refresh_token) : google.address a = google.address b := by
  unfold Google.address
  rw [haccess, hrefresh]

theorem present_eq_some {value : Option String} {text : String}
    (hpresent : present value = some text) : value = some text :=
  (Option.filter_eq_some_iff.mp hpresent).1

/-- The tokens are set on the client when both are there. -/
theorem exchanging_turn {code : Option String} {result : Except Exception (Option ConnectPhase)}
    {state' : GmailState} (hrun : (ConnectPhase.exchanging code).turn google tokenKey input.now
      fresh userId state = (result, state')) :
    state'.db = state.db ∧ ∀ next, result = .ok next → ∃ tokens accessToken refreshToken,
      next = some (.authorising tokens accessToken refreshToken) ∧
        tokens.access_token = some accessToken ∧ tokens.refresh_token = some refreshToken := by
  rw [ConnectPhase.turn] at hrun
  cases hget : google.getToken code with
  | error e =>
      rw [hget, Handler.ofExcept_error_bind] at hrun
      obtain ⟨rfl, rfl⟩ := Prod.mk.inj hrun
      exact ⟨rfl, by simp⟩
  | ok tokens =>
      rw [hget, Handler.ofExcept_ok_bind] at hrun
      cases haccess : present tokens.access_token with
      | none =>
          rw [haccess, Handler.expect_none_bind] at hrun
          obtain ⟨rfl, rfl⟩ := Prod.mk.inj hrun
          exact ⟨rfl, by simp⟩
      | some accessToken =>
          rw [haccess, Handler.expect_some_bind] at hrun
          cases hrefresh : present tokens.refresh_token with
          | none =>
              rw [hrefresh, Handler.expect_none_bind] at hrun
              obtain ⟨rfl, rfl⟩ := Prod.mk.inj hrun
              exact ⟨rfl, by simp⟩
          | some refreshToken =>
              rw [hrefresh, Handler.expect_some_bind] at hrun
              obtain ⟨rfl, rfl⟩ := Prod.mk.inj hrun
              refine ⟨rfl, fun next hnext => ?_⟩
              obtain rfl := Except.ok.inj hnext
              exact ⟨tokens, accessToken, refreshToken, rfl, present_eq_some haccess,
                present_eq_some hrefresh⟩

/-- The address is that of the credentials used. -/
theorem asking_turn {tokens used : Credentials} {accessToken refreshToken : String}
    {result : Except Exception (Option ConnectPhase)} {state' : GmailState}
    (hrun : (ConnectPhase.asking tokens accessToken refreshToken used).turn google tokenKey
      input.now fresh userId state = (result, state')) :
    state' = state ∧ ∀ next, result = .ok next → ∃ email, google.address used = some email ∧
      next = some (.storing { email, accessToken, refreshToken,
                              expiryDate := tokens.expiry_date }) := by
  rw [ConnectPhase.turn, GmailOAuthService.getProfile] at hrun
  cases hget : google.getProfile used.access_token used.refresh_token with
  | error e =>
      rw [hget, Handler.ofExcept_error_bind] at hrun
      obtain ⟨rfl, rfl⟩ := Prod.mk.inj hrun
      exact ⟨rfl, by simp⟩
  | ok profile =>
      rw [hget, Handler.ofExcept_ok_bind] at hrun
      cases hprofile : present profile with
      | none =>
          rw [hprofile, Handler.expect_none_bind] at hrun
          obtain ⟨rfl, rfl⟩ := Prod.mk.inj hrun
          exact ⟨rfl, by simp⟩
      | some email =>
          rw [hprofile, Handler.expect_some_bind] at hrun
          obtain ⟨rfl, rfl⟩ := Prod.mk.inj hrun
          refine ⟨rfl, fun next hnext => ?_⟩
          obtain rfl := Except.ok.inj hnext
          refine ⟨email, ?_, rfl⟩
          unfold Google.address
          rw [hget]
          exact hprofile

/-- The row that a callback creates. -/
theorem storing_turn (hlaws : R.AesGcmLaws) {tokens : GmailTokens}
    {result : Except Exception (Option ConnectPhase)} {state' : GmailState}
    (hrun : (ConnectPhase.storing tokens).turn google tokenKey input.now fresh userId state =
      (result, state'))
    (hpaired : google.address { access_token := some tokens.accessToken,
                                refresh_token := some tokens.refreshToken } = some tokens.email) :
    (∀ row ∈ state'.db.emailAccounts.rows,
      row ∈ state.db.emailAccounts.rows ∨ row.Labelled google tokenKey) ∧
      ∀ next, result = .ok next → next = none := by
  rw [ConnectPhase.turn] at hrun
  rcases hcreate : EmailAccountsService.createFromGmail tokenKey input.now fresh userId tokens
    state.db with ⟨e | row, db⟩
  · have hfailed : EmailAccountsController.zoomDatabase
        (EmailAccountsService.createFromGmail tokenKey input.now fresh userId tokens) state =
          (.error e, { state with db }) := by
      rw [EmailAccountsController.zoomDatabase, Handler.zoom_run, hcreate]
    rw [Handler.bind_of_error hfailed] at hrun
    obtain ⟨rfl, rfl⟩ := Prod.mk.inj hrun
    obtain rfl := EmailAccountsService.createFromGmail_error hcreate
    exact ⟨fun row hrow => .inl hrow, by simp⟩
  · have hcreated : EmailAccountsController.zoomDatabase
        (EmailAccountsService.createFromGmail tokenKey input.now fresh userId tokens) state =
          (.ok row, { state with db }) := by
      rw [EmailAccountsController.zoomDatabase, Handler.zoom_run, hcreate]
    rw [Handler.bind_of_ok hcreated] at hrun
    obtain ⟨rfl, rfl⟩ := Prod.mk.inj hrun
    refine ⟨fun stored hstored => ?_, fun next hnext => (Except.ok.inj hnext).symm⟩
    obtain ⟨-, hrows, -⟩ := EmailAccountsService.createFromGmail_ok hcreate
    rw [hrows] at hstored
    rcases List.mem_append.mp hstored with hold | hnew
    · exact .inl hold
    · obtain ⟨hrow, -⟩ := (Model.create_ok_iff _).mp hcreate
      obtain rfl := List.mem_singleton.mp hnew
      subst hrow
      exact .inr ⟨tokens.accessToken, tokens.refreshToken, hlaws.decrypt_encrypt _ _ _,
        hlaws.decrypt_encrypt _ _ _, hpaired⟩

/-- A turn keeps the pairing of the callback that takes it, and creates labelled rows only. -/
theorem paired_turn (hlaws : R.AesGcmLaws) {task : ConnectTask R} (hpaired : task.Paired google)
    (hown : task.OwnMailbox google input state) :
    (task.turn google tokenKey input state).2.Paired google ∧
      ∀ row ∈ (task.turn google tokenKey input state).1.db.emailAccounts.rows,
        row ∈ state.db.emailAccounts.rows ∨ row.Labelled google tokenKey := by
  cases task with
  | redirected session redirect => exact ⟨trivial, fun row hrow => .inl hrow⟩
  | arrived session oauthState code fresh =>
      unfold ConnectTask.turn
      dsimp only
      rcases EmailAccountsController.takeState oauthState session with ⟨e | userId, session'⟩
      · exact ⟨trivial, fun row hrow => .inl hrow⟩
      · exact ⟨trivial, fun row hrow => .inl hrow⟩
  | connecting session userId fresh phase =>
      unfold ConnectTask.turn
      dsimp only
      cases input.failure with
      | some e => exact ⟨trivial, fun row hrow => .inl hrow⟩
      | none =>
          dsimp only
          rcases hrun : phase.turn google tokenKey input.now fresh userId state with
            ⟨result, state'⟩
          cases phase with
          | exchanging code =>
              obtain ⟨hdb, hnext⟩ := exchanging_turn hrun
              rw [← hdb]
              cases result with
              | error e => exact ⟨trivial, fun row hrow => .inl hrow⟩
              | ok next =>
                  obtain ⟨tokens, accessToken, refreshToken, rfl, htokens⟩ := hnext next rfl
                  exact ⟨htokens, fun row hrow => .inl hrow⟩
          | authorising tokens accessToken refreshToken =>
              obtain ⟨rfl, rfl⟩ := Prod.mk.inj hrun
              exact ⟨⟨hpaired, hown⟩, fun row hrow => .inl hrow⟩
          | asking tokens accessToken refreshToken used =>
              obtain ⟨rfl, hnext⟩ := asking_turn hrun
              cases result with
              | error e => exact ⟨trivial, fun row hrow => .inl hrow⟩
              | ok next =>
                  obtain ⟨email, haddress, rfl⟩ := hnext next rfl
                  -- The client may have asked with other tokens, but they are for the same mailbox.
                  obtain ⟨⟨haccess, hrefresh⟩, hsame⟩ := hpaired
                  refine ⟨?_, fun row hrow => .inl hrow⟩
                  exact (address_congr haccess.symm hrefresh.symm).trans (hsame email haddress)
          | storing tokens =>
              obtain ⟨hrows, hnext⟩ := storing_turn hlaws hrun hpaired
              cases result with
              | error e => exact ⟨trivial, hrows⟩
              | ok next =>
                  obtain rfl := hnext next rfl
                  exact ⟨trivial, hrows⟩

end Turns

/-! ## Runs -/

/-- When every profile request is authorised with credentials of the callback's own
mailbox, a created row has the address that its tokens open. -/
theorem createdRows_labelled (hlaws : R.AesGcmLaws) {google : Google} {tokenKey : R.Key}
    {pool : Pool GmailState (ConnectTask R)} {moves : List (Move (ConnectStart R) ConnectTurn)}
    (htasks : pool.tasks = []) (halong : Along (GmailState.step google tokenKey)
      (Pool.TurnMeets (ConnectTask.OwnMailbox google)) pool moves) :
    ∀ row ∈ (run (GmailState.step google tokenKey) pool moves).shared.db.emailAccounts.rows,
      row ∈ pool.shared.db.emailAccounts.rows ∨ row.Labelled google tokenKey := by
  have hstable : Pool.Stable
      (fun (what : ConnectStart R) (state : GmailState) =>
        (state, some (ConnectTask.arrived what.session what.oauthState what.code what.fresh)))
      (ConnectTask.turn google tokenKey) (ConnectTask.OwnMailbox google)
      (fun state => ∀ row ∈ state.db.emailAccounts.rows,
        row ∈ pool.shared.db.emailAccounts.rows ∨ row.Labelled google tokenKey)
      (fun _ task => task.Paired google) := by
    constructor
    case start_invariant => exact fun _ _ hrows => hrows
    case start_own =>
      intro what state _ task htask
      obtain rfl := Option.some.inj htask
      trivial
    case start_other => exact fun _ _ _ _ hother => hother
    case turn_invariant =>
      intro input state task hrows hpaired hown row hrow
      rcases (paired_turn hlaws hpaired hown).2 row hrow with hold | hnew
      · exact hrows row hold
      · exact .inr hnew
    case turn_own =>
      exact fun input state task _ hpaired hown => (paired_turn hlaws hpaired hown).1
    case turn_other => exact fun _ _ _ _ _ _ _ hother => hother
  refine (hstable.run ⟨fun row hrow => .inl hrow, ?_⟩ halong).1
  rw [htasks]
  exact fun task htask => absurd htask List.not_mem_nil

/-! ## Two callbacks at once -/

namespace GmailState.TwoCallbacks

/-- A code gives two tokens of its own, and they open the mailbox named by the code. -/
def google : Google where
  getToken code := .ok { access_token := code, refresh_token := code, expiry_date := none }
  getProfile access_token _ := .ok access_token

def tokenKey : symbolicRuntime.Key := ("server", "key")

def user : User :=
  { id := "u", googleSubId := "g", googleEmail := "u@x", masterPasswordHash := "h",
    masterKdfSalt := "s", autoLockMinutes := 5, createdAt := 0 }

def loggedIn : Pool GmailState (ConnectTask symbolicRuntime) :=
  ⟨⟨{ Database.empty with users := ⟨[user], by decide⟩ }, {}⟩, []⟩

/-- A callback of a session of the user, for the mailbox named by the code. -/
def callback (id code : String) : Move (ConnectStart symbolicRuntime) ConnectTurn :=
  .start ⟨{ userId := some "u", gmailOAuthState := some "s" }, some "s", some code,
    ⟨id, "iv", "jv"⟩⟩

def turns (index count : Nat) : List (Move (ConnectStart symbolicRuntime) ConnectTurn) :=
  List.replicate count (.turn index ⟨1, none⟩)

/-- The second callback sets its tokens before the profile request of the first is authorised. -/
def overlapping : List (Move (ConnectStart symbolicRuntime) ConnectTurn) :=
  [callback "m" "a@x", callback "n" "b@x"] ++ turns 0 2 ++ turns 1 2 ++ turns 0 3

/-- The second callback sets its tokens after that. -/
def inTime : List (Move (ConnectStart symbolicRuntime) ConnectTurn) :=
  [callback "m" "a@x", callback "n" "b@x"] ++ turns 0 3 ++ turns 1 2 ++ turns 0 2 ++ turns 1 3

end GmailState.TwoCallbacks

open GmailState.TwoCallbacks in
/-- The tokens of one mailbox are stored under the address of the other. -/
theorem not_createdRows_labelled :
    ¬ ∀ row ∈
        (run (GmailState.step google tokenKey) loggedIn overlapping).shared.db.emailAccounts.rows,
      row ∈ loggedIn.shared.db.emailAccounts.rows ∨ row.Labelled google tokenKey := by
  intro hlabelled
  let stored : EmailAccount :=
    { id := "m", userId := "u", providerType := "gmail", displayName := "b@x",
      encryptedAccessToken := symbolicRuntime.encrypt "a@x" tokenKey "iv",
      encryptedRefreshToken := symbolicRuntime.encrypt "a@x" tokenKey "jv",
      tokenExpiresAt := none, isActive := true, connectedAt := 1 }
  have hstored : stored ∈ (run (GmailState.step google tokenKey) loggedIn
      overlapping).shared.db.emailAccounts.rows := by decide
  rcases hlabelled stored hstored with hold | ⟨accessToken, refreshToken, haccess, -, haddress⟩
  · exact absurd hold (by decide)
  · have hopened : symbolicRuntime.decrypt stored.encryptedAccessToken tokenKey = some "a@x" :=
      symbolicRuntime.aesGcmLaws.decrypt_encrypt "a@x" tokenKey "iv"
    obtain rfl := Option.some.inj (hopened.symm.trans haccess)
    have hown : google.address { access_token := some "a@x", refresh_token := some refreshToken } =
        some "a@x" := rfl
    exact absurd (Option.some.inj (hown.symm.trans haddress)) (by decide)

open GmailState.TwoCallbacks in
theorem createdRows_labelled_example :
    (run (GmailState.step google tokenKey) loggedIn
        inTime).shared.db.emailAccounts.rows.length = 2 ∧
      ∀ row ∈ (run (GmailState.step google tokenKey) loggedIn
          inTime).shared.db.emailAccounts.rows,
        row ∈ loggedIn.shared.db.emailAccounts.rows ∨ row.Labelled google tokenKey :=
  ⟨by decide, createdRows_labelled symbolicRuntime.aesGcmLaws rfl (by decide)⟩

end MyAccountController
