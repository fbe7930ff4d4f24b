import MyAccountController.Auth.SessionTokens
import MyAccountController.Common.SymbolicRuntime

/-! # States and challenges are accepted once

A request works on its own copy of the session, which is written back as a whole
at the end of the response. A state or challenge is taken out of one copy only,
so it is accepted once when each callback and verification has a copy that knows
of all that was issued and accepted before.
-/

namespace MyAccountController

open Foundation Handler

variable {R : Runtime}

/-! ## The law -/

/-- The state or challenge of the kind that was issued last. -/
def lastIssued (kind : TokenKind) (log : List TokenEvent) : Option String :=
  (log.filter fun event => event.kind = kind ∧ event.isAcceptance = false).getLast?.bind
    TokenEvent.leaves

/-- What was accepted, oldest event first. -/
structure SingleUse (log : List TokenEvent) : Prop where
  once : ∀ before kind token between after, log =
    before ++ .accepted kind token :: (between ++ .accepted kind token :: after) →
    .issued kind token ∈ between
  last : ∀ before kind token after, log = before ++ .accepted kind token :: after →
    lastIssued kind before = some token
  present : ∀ kind token, .accepted kind token ∈ log → token ≠ ""

/-- The state or challenge that was issued last and is not accepted yet. -/
def live (kind : TokenKind) (log : List TokenEvent) : Option String :=
  (log.filter fun event => event.kind = kind).getLast?.bind TokenEvent.leaves

/-- The events of a kind so far. -/
def eventCount (kind : TokenKind) (log : List TokenEvent) : Nat :=
  (log.filter fun event => event.kind = kind).length

section Logs

variable {kind : TokenKind} {log : List TokenEvent} {event : TokenEvent}

theorem live_concat : live kind (log ++ [event]) =
    if event.kind = kind then event.leaves else live kind log := by
  unfold live
  rw [List.filter_append]
  split
  next hkind => simp [hkind]
  next hkind => simp [hkind]

theorem eventCount_concat : eventCount kind (log ++ [event]) =
    if event.kind = kind then eventCount kind log + 1 else eventCount kind log := by
  unfold eventCount
  rw [List.filter_append]
  split
  next hkind => simp [hkind]
  next hkind => simp [hkind]

theorem lastIssued_concat : lastIssued kind (log ++ [event]) =
    if event.kind = kind ∧ event.isAcceptance = false then event.leaves
    else lastIssued kind log := by
  unfold lastIssued
  rw [List.filter_append]
  split
  next hissue => simp [hissue]
  next hissue =>
    have hnone : [event].filter (fun event => event.kind = kind ∧ event.isAcceptance = false) =
        [] := by simpa using hissue
    rw [hnone, List.append_nil]

theorem live_eq_lastIssued {token : String} (hlive : live kind log = some token) :
    lastIssued kind log = some token := by
  induction log using List.reverseRecOn with
  | nil => contradiction
  | append_singleton log event ih =>
      rw [live_concat] at hlive
      rw [lastIssued_concat]
      cases event with
      | issued kind' token' =>
          by_cases hkind : (TokenEvent.issued kind' token').kind = kind
          · rw [if_pos ⟨hkind, rfl⟩]
            rwa [if_pos hkind] at hlive
          · rw [if_neg fun h => hkind h.1]
            rw [if_neg hkind] at hlive
            exact ih hlive
      | accepted kind' token' =>
          rw [if_neg (fun h => Bool.noConfusion h.2)]
          split at hlive
          · contradiction
          · exact ih hlive

/-- What is accepted after an acceptance was issued after it. -/
theorem issued_of_live {before between : List TokenEvent} {token token' : String}
    (hlive : live kind (before ++ .accepted kind token :: between) = some token') :
    .issued kind token' ∈ between := by
  induction between using List.reverseRecOn with
  | nil =>
      rw [live_concat, if_pos (by rfl)] at hlive
      contradiction
  | append_singleton between event ih =>
      rw [← List.cons_append, ← List.append_assoc, live_concat] at hlive
      split at hlive
      next hkind =>
        cases event with
        | issued kind' token'' =>
            obtain rfl : kind' = kind := hkind
            obtain rfl := Option.some.inj hlive
            exact List.mem_append_right _ (List.mem_singleton_self _)
        | accepted kind' token'' => contradiction
      next => exact List.mem_append_left _ (ih hlive)

/-- Only what is live is accepted. -/
def AcceptsLive (log : List TokenEvent) : Prop :=
  ∀ before kind token after, log = before ++ .accepted kind token :: after →
    live kind before = some token ∧ token ≠ ""

theorem AcceptsLive.singleUse (haccepts : AcceptsLive log) : SingleUse log where
  once before kind token between after hlog := by
    rw [← List.cons_append, ← List.append_assoc] at hlog
    exact issued_of_live (haccepts _ kind token after hlog).1
  last before kind token after hlog :=
    live_eq_lastIssued (haccepts before kind token after hlog).1
  present kind token hmem := by
    obtain ⟨before, after, hlog⟩ := List.append_of_mem hmem
    exact (haccepts before kind token after hlog).2

theorem AcceptsLive.concat (haccepts : AcceptsLive log)
    (hlive : ∀ kind token, event = .accepted kind token →
      live kind log = some token ∧ token ≠ "") : AcceptsLive (log ++ [event]) := by
  intro before kind token after hlog
  rcases concat_eq_append_cons hlog with ⟨-, rfl, hevent⟩ | ⟨earlier, -, hearlier⟩
  · exact hlive kind token hevent
  · exact haccepts before kind token earlier hearlier

end Logs

/-! ## The system -/

inductive TokenWork (R : Runtime) where
  | arrived (request : TokenRequest R)
  | handling (stage : TokenStage R)
  /-- The response ends and the session is saved next. -/
  | ending
  | returned

/-- A request with its copy of the session. The number of events of a kind that the copy
knows of is not read by the program. -/
structure TokenTask (R : Runtime) where
  work : TokenWork R
  loaded : SessionData
  session : SessionData
  known : TokenKind → Nat

/-- The database, the key store and the stored session. The last two fields are not read by
the program: the events the stored session knows of, and all events so far. -/
structure TokenState (R : Runtime) where
  db : Database
  keys : UnlockKeyStore R.Key
  stored : Option SessionData
  known : TokenKind → Nat
  log : List TokenEvent

namespace TokenWork

variable (sessionId : String)

/-- What the next turn issues or accepts. -/
def event (clocked : Clocked R) : TokenWork R → Option TokenEvent
  | arrived request => request.event sessionId clocked
  | handling stage => stage.event
  | ending | returned => none

/-- The next turn of the handler. -/
def turn : TokenWork R → Handler Exception (Clocked R) (TokenWork R)
  | arrived .logout => do
      -- `req.session.destroy`: the session is not saved at the end.
      let _ ← TokenRequest.first sessionId .logout
      pure returned
  | arrived request => do
      let stage ← request.first sessionId
      pure (handling stage)
  | handling stage => do
      match ← stage.turn with
      | some next => pure (handling next)
      | none => pure ending
  | ending => pure returned
  | returned => pure returned

end TokenWork

namespace TokenTask

/-- The copy of the session after a turn with this event. -/
def afterEvent (task : TokenTask R) (log : List TokenEvent) : Option TokenEvent →
    TokenKind → Nat
  | some event => Function.update task.known event.kind (eventCount event.kind log)
  | none => task.known

end TokenTask

namespace TokenState

variable (sessionId : String)

/-- What the session store holds after this turn. -/
def save (state : TokenState R) (task : TokenTask R) : TokenState R :=
  match task.work with
  | .arrived .logout => { state with stored := none }
  | .ending =>
      if task.session = task.loaded then state
      else { state with stored := some task.session, known := task.known }
  | .arrived _ | .handling _ | .returned => state

/-- One turn, at the given time. An exception ends the response. -/
def turn (now : Int) (state : TokenState R) (task : TokenTask R) : TokenState R × TokenTask R :=
  let clocked : Clocked R := ⟨⟨state.db, state.keys, task.session⟩, now⟩
  let event := task.work.event sessionId clocked
  let out := task.work.turn sessionId clocked
  let log := state.log ++ event.toList
  ({ state.save task with db := out.2.ctx.db, keys := out.2.ctx.keys, log },
    { task with
      work := match out.1 with
        | .ok work => work
        | .error _ => .ending
      session := out.2.ctx.session
      known := task.afterEvent log event })

/-- A request with the id of a stored session begins. Without a stored session the request
gets a session of another id. -/
def start (request : TokenRequest R) (state : TokenState R) :
    TokenState R × Option (TokenTask R) :=
  (state, state.stored.map fun session =>
    { work := .arrived request, loaded := session, session, known := state.known })

/-- One move of the system. -/
def step : Pool (TokenState R) (TokenTask R) → Move (TokenRequest R) Int →
    Pool (TokenState R) (TokenTask R) :=
  Pool.step start (turn sessionId)

/-- A session in which nothing was issued yet. -/
structure New (state : TokenState R) : Prop where
  tokens : ∀ session ∈ state.stored, ∀ kind, session.token kind = none
  known : state.known = fun _ => 0
  log : state.log = []

/-- A callback or verification that would accept has a copy of the session that knows of all
events of the kind. -/
def UpToDate (now : Int) (state : TokenState R) (task : TokenTask R) : Prop :=
  ∀ event ∈ task.work.event sessionId ⟨⟨state.db, state.keys, task.session⟩, now⟩,
    event.isAcceptance = true → task.known event.kind = eventCount event.kind state.log

instance (now : Int) (state : TokenState R) (task : TokenTask R) :
    Decidable (UpToDate sessionId now state task) :=
  inferInstanceAs (Decidable (∀ event ∈ task.work.event sessionId _, _))

end TokenState

/-! ## What a turn does to the states and challenges -/

section Turns

variable {sessionId : String} {clocked : Clocked R}

theorem atNow_run {α : Type} {x : Int → Route R α} {result : Except Exception α} {ctx : Context R}
    (hrun : x clocked.now clocked.ctx = (result, ctx)) :
    atNow x clocked = (result, { clocked with ctx }) := by
  rw [atNow, hrun]

/-- A value that matches is taken out of the session, and another one is refused. -/
theorem takeOAuthState_run (oauthState : Option String) (ctx : Context R) :
    (AuthService.takeOAuthState oauthState ctx).2 =
        ctx.withSession (fun session => { session with
          oauthState := if (matchingState oauthState ctx.session.oauthState).isSome then none
            else session.oauthState }) ∧
      ((matchingState oauthState ctx.session.oauthState).isSome = false →
        ∃ err, (AuthService.takeOAuthState oauthState ctx).1 = .error err) := by
  rw [AuthService.takeOAuthState, state_bind, ensure_bind]
  unfold matchingState
  split
  next hmatches =>
    obtain ⟨state, rfl⟩ : ∃ state, oauthState = some state :=
      Option.isSome_iff_exists.mp (Option.isSome_of_any hmatches.1)
    exact ⟨rfl, by simp⟩
  next => exact ⟨rfl, fun _ => ⟨_, rfl⟩⟩

theorem takeState_run (oauthState : Option String) (session : SessionData) :
    (EmailAccountsController.takeState oauthState session).2 =
        { session with
          gmailOAuthState := if (matchingState oauthState session.gmailOAuthState).isSome then none
            else session.gmailOAuthState } ∧
      ((matchingState oauthState session.gmailOAuthState).isSome = false →
        ∃ err, (EmailAccountsController.takeState oauthState session).1 = .error err) := by
  rw [EmailAccountsController.takeState, state_bind, ensure_bind]
  unfold matchingState
  split
  next hmatches =>
    obtain ⟨state, rfl⟩ : ∃ state, oauthState = some state :=
      Option.isSome_iff_exists.mp (Option.isSome_of_any hmatches.1)
    rw [modify_bind]
    cases session.loggedInAs <;> exact ⟨rfl, nofun⟩
  next => exact ⟨rfl, fun _ => ⟨_, rfl⟩⟩

theorem takeChallenge_run (missing : Exception) (ctx : Context R) :
    AuthController.takeChallenge missing ctx =
      match present ctx.session.currentWebauthnChallenge with
      | some challenge => (.ok challenge,
          ctx.withSession fun session => { session with currentWebauthnChallenge := none })
      | none => (.error missing, ctx) := by
  rw [AuthController.takeChallenge, state_bind]
  unfold present
  cases ctx.session.currentWebauthnChallenge.filter (· ≠ "") <;> rfl

theorem tokenAfter_of_ne {kind kind' : TokenKind} {event : Option TokenEvent}
    (hkind : ∀ e ∈ event, e.kind = kind) (hne : kind' ≠ kind) (before : Option String) :
    tokenAfter event kind' before = before := by
  cases event with
  | none => rfl
  | some event => exact if_neg fun heq => hne (heq.symm.trans (hkind event rfl))

/-- A field after its value was accepted, when there was one to accept. -/
theorem tokenAfter_accepted (kind : TokenKind) (taken : Option String) (before : Option String) :
    tokenAfter (taken.map (.accepted kind)) kind before =
      if taken.isSome then none else before := by
  cases taken with
  | none => rfl
  | some token => exact if_pos rfl

theorem kind_of_mem_accepted {kind : TokenKind} {taken : Option String} :
    ∀ event ∈ taken.map (TokenEvent.accepted kind), event.kind = kind := by
  intro event hevent
  obtain ⟨token, -, rfl⟩ := Option.map_eq_some_iff.mp hevent
  rfl

theorem takeChallenge_token (missing : Exception) (ctx : Context R) (kind : TokenKind) :
    (AuthController.takeChallenge missing ctx).2.session.token kind =
      tokenAfter ((present ctx.session.currentWebauthnChallenge).map (.accepted .webauthn)) kind
        (ctx.session.token kind) := by
  rw [takeChallenge_run]
  cases present ctx.session.currentWebauthnChallenge with
  | none => rfl
  | some challenge => cases kind <;> rfl

/-- A first part changes the field of its event, and no other one. -/
theorem first_token (request : TokenRequest R) (kind : TokenKind) :
    (request.first sessionId clocked).2.ctx.session.token kind =
      tokenAfter (request.event sessionId clocked) kind (clocked.ctx.session.token kind) := by
  cases request with
  | googleStart generatedState => cases kind <;> rfl
  | registerOptions challenge =>
      rw [TokenRequest.first, bind_pure_state]
      exact keepsTokens_atNow (keepsTokens_unlockedGuard sessionId) clocked kind
  | authenticateOptions challenge => rfl
  | logout => rfl
  | other program => rfl
  | oauthStart generatedState =>
      rw [TokenRequest.first, bind_pure_state, TokenRequest.event]
      show (EmailAccountsController.oauthStart generatedState clocked.ctx.session).2.token kind = _
      rw [EmailAccountsController.oauthStart, state_bind]
      cases clocked.ctx.session.loggedInAs with
      | none => rfl
      | some userId => cases kind <;> rfl
  | googleCallback oauthState profile =>
      rw [TokenRequest.first, bind_pure_state, TokenRequest.event]
      show (AuthService.takeOAuthState oauthState clocked.ctx).2.session.token kind = _
      rw [(takeOAuthState_run oauthState clocked.ctx).1]
      cases kind with
      | login => exact (tokenAfter_accepted .login _ _).symm
      | gmail => exact (tokenAfter_of_ne kind_of_mem_accepted (by decide) _).symm
      | webauthn => exact (tokenAfter_of_ne kind_of_mem_accepted (by decide) _).symm
  | oauthCallback oauthState tokens tokenKey fresh =>
      rw [TokenRequest.first, bind_pure_state, TokenRequest.event]
      show (EmailAccountsController.takeState oauthState clocked.ctx.session).2.token kind = _
      rw [(takeState_run oauthState clocked.ctx.session).1]
      cases kind with
      | gmail => exact (tokenAfter_accepted .gmail _ _).symm
      | login => exact (tokenAfter_of_ne kind_of_mem_accepted (by decide) _).symm
      | webauthn => exact (tokenAfter_of_ne kind_of_mem_accepted (by decide) _).symm
  | authenticate response password =>
      rw [TokenRequest.first, bind_pure_state, TokenRequest.event]
      exact takeChallenge_token _ clocked.ctx kind
  | register freshId deviceLabel response =>
      rw [TokenRequest.first, TokenRequest.event]
      -- The guard runs first and may refuse, but it leaves the three values alone.
      have hguard := keepsTokens_unlockedGuard sessionId clocked.now clocked.ctx
      rcases hrun : unlockedGuard sessionId clocked.now clocked.ctx with ⟨e | admitted, ctx⟩
      · rw [hrun] at hguard
        rw [bind_of_error (atNow_run hrun)]
        exact hguard kind
      · rw [hrun] at hguard
        rw [bind_of_ok (atNow_run hrun)]
        dsimp only
        rw [bind_pure_state]
        show (AuthController.takeChallenge _ ctx).2.session.token kind = _
        rw [takeChallenge_token, hguard kind]
        have hsame := hguard .webauthn
        exact congrArg (fun stored => tokenAfter ((present stored).map (.accepted .webauthn)) kind
          (clocked.ctx.session.token kind)) hsame

/-- A later turn only remembers the challenge of its event. -/
theorem stage_token (stage : TokenStage R) (kind : TokenKind) :
    (stage.turn clocked).2.ctx.session.token kind =
      tokenAfter stage.event kind (clocked.ctx.session.token kind) := by
  rcases stage with ⟨⟨result | ⟨effect, rest⟩, halways⟩, challenge⟩ |
    ⟨result | ⟨effect, rest⟩, halways⟩
  · cases result with
    | error err => rfl
    | ok _ => cases kind <;> rfl
  · exact (halways clocked).1 kind
  · rfl
  · exact (halways clocked).1 kind

theorem turn_token (work : TokenWork R) (kind : TokenKind) :
    (work.turn sessionId clocked).2.ctx.session.token kind =
      tokenAfter (work.event sessionId clocked) kind (clocked.ctx.session.token kind) := by
  cases work with
  | ending => rfl
  | returned => rfl
  | handling stage =>
      rw [TokenWork.turn, TokenWork.event, ← stage_token]
      rcases hrun : stage.turn clocked with ⟨e | next, clocked'⟩
      · rw [bind_of_error hrun]
      · rw [bind_of_ok hrun]
        cases next <;> rfl
  | arrived request =>
      rw [TokenWork.event, ← first_token]
      cases request with
      | logout => rfl
      | _ =>
          rw [TokenWork.turn, bind_pure_state]
          nofun

theorem matchingState_eq_some {oauthState stored : Option String} {token : String}
    (htaken : matchingState oauthState stored = some token) : stored = some token ∧ token ≠ "" := by
  unfold matchingState at htaken
  split at htaken
  next hmatches =>
    rw [htaken] at hmatches
    exact ⟨hmatches.2.symm, of_decide_eq_true hmatches.1⟩
  next => contradiction

theorem present_ne_empty {stored : Option String} {token : String}
    (htaken : present stored = some token) : stored = some token ∧ token ≠ "" := by
  obtain ⟨hstored, hne⟩ := Option.filter_eq_some_iff.mp htaken
  exact ⟨hstored, of_decide_eq_true hne⟩

/-- What is accepted is in the copy of the session. -/
theorem event_accepted {work : TokenWork R} {kind : TokenKind} {token : String}
    (hevent : work.event sessionId clocked = some (.accepted kind token)) :
    clocked.ctx.session.token kind = some token ∧ token ≠ "" := by
  have hmap : ∀ {kind' : TokenKind} {taken : Option String},
      taken.map (TokenEvent.accepted kind') = some (.accepted kind token) →
        kind' = kind ∧ taken = some token := by
    intro kind' taken htaken
    obtain ⟨token', htoken, heq⟩ := Option.map_eq_some_iff.mp htaken
    obtain ⟨rfl, rfl⟩ := TokenEvent.accepted.inj heq
    exact ⟨rfl, htoken⟩
  cases work with
  | ending => contradiction
  | returned => contradiction
  | handling stage =>
      rw [TokenWork.event] at hevent
      rcases stage with ⟨⟨⟨err | done⟩ | ⟨effect, rest⟩, halways⟩, challenge⟩ | program
      · contradiction
      · cases Option.some.inj hevent
      · contradiction
      · contradiction
  | arrived request =>
      rw [TokenWork.event] at hevent
      cases request with
      | googleStart generatedState => cases Option.some.inj hevent
      | oauthStart generatedState =>
          obtain ⟨userId, -, heq⟩ := Option.map_eq_some_iff.mp hevent
          cases heq
      | googleCallback oauthState profile =>
          obtain ⟨rfl, htaken⟩ := hmap hevent
          exact matchingState_eq_some htaken
      | oauthCallback oauthState tokens tokenKey fresh =>
          obtain ⟨rfl, htaken⟩ := hmap hevent
          exact matchingState_eq_some htaken
      | authenticate response password =>
          obtain ⟨rfl, htaken⟩ := hmap hevent
          exact present_ne_empty htaken
      | register freshId deviceLabel response =>
          -- A registration takes its challenge only behind the guard.
          rw [TokenRequest.event] at hevent
          split at hevent
          · obtain ⟨rfl, htaken⟩ := hmap hevent
            exact present_ne_empty htaken
          · contradiction
      | registerOptions challenge => contradiction
      | authenticateOptions challenge => contradiction
      | logout => contradiction
      | other program => contradiction

/-- A callback or verification that accepts nothing is refused. -/
theorem first_refused {request : TokenRequest R} (haccepts : request.accepts = true)
    (hnone : request.event sessionId clocked = none) :
    ∃ err, (request.first sessionId clocked).1 = .error err := by
  have htake : ∀ {missing : Exception} {ctx : Context R},
      present ctx.session.currentWebauthnChallenge = none →
        AuthController.takeChallenge missing ctx = (.error missing, ctx) := by
    intro missing ctx hmissing
    rw [takeChallenge_run, hmissing]
  cases request with
  | googleCallback oauthState profile =>
      obtain ⟨err, herr⟩ := (takeOAuthState_run oauthState clocked.ctx).2
        (by rw [Option.map_eq_none_iff.mp hnone]; rfl)
      exact ⟨err, by rw [TokenRequest.first, bind_of_error (atNow_run (Prod.ext herr rfl))]⟩
  | oauthCallback oauthState tokens tokenKey fresh =>
      obtain ⟨err, herr⟩ := (takeState_run oauthState clocked.ctx.session).2
        (by rw [Option.map_eq_none_iff.mp hnone]; rfl)
      exact ⟨err, by rw [TokenRequest.first, bind_of_error (atNow_run (Prod.ext herr rfl))]⟩
  | authenticate response password =>
      rw [TokenRequest.first, bind_of_error (atNow_run (htake (Option.map_eq_none_iff.mp hnone)))]
      exact ⟨_, rfl⟩
  | register freshId deviceLabel response =>
      rw [TokenRequest.event] at hnone
      rw [TokenRequest.first]
      have hguard := keepsTokens_unlockedGuard sessionId clocked.now clocked.ctx
      rcases hrun : unlockedGuard sessionId clocked.now clocked.ctx with ⟨e | admitted, ctx⟩
      · rw [bind_of_error (atNow_run hrun)]
        exact ⟨e, rfl⟩
      · -- The guard has let it through and kept the tokens, so the challenge is missing after it.
        rw [hrun] at hnone hguard
        have hmissing : present ctx.session.currentWebauthnChallenge = none :=
          (congrArg present (hguard .webauthn)).trans (Option.map_eq_none_iff.mp hnone)
        rw [bind_of_ok (atNow_run hrun)]
        dsimp only
        rw [bind_of_error (atNow_run (htake hmissing))]
        exact ⟨_, rfl⟩
  | googleStart generatedState => contradiction
  | oauthStart generatedState => contradiction
  | registerOptions challenge => contradiction
  | authenticateOptions challenge => contradiction
  | logout => contradiction
  | other program => contradiction

end Turns

/-! ## The invariant -/

/-- A copy of the session that knows of all events of a kind holds what is live. -/
structure Reflects (log : List TokenEvent) (known : TokenKind → Nat) (session : SessionData) :
    Prop where
  known_le : ∀ kind, known kind ≤ eventCount kind log
  live : ∀ kind, known kind = eventCount kind log → session.token kind = live kind log

section Copies

variable {log : List TokenEvent} {known : TokenKind → Nat} {session session' : SessionData}

/-- An event of another request leaves a copy that does not know of it. -/
theorem Reflects.concat (hreflects : Reflects log known session) (event : Option TokenEvent) :
    Reflects (log ++ event.toList) known session := by
  cases event with
  | none =>
      rw [Option.toList_none, List.append_nil]
      exact hreflects
  | some event =>
      rw [Option.toList_some]
      constructor
      case known_le =>
        intro kind
        have hle := hreflects.known_le kind
        rw [eventCount_concat]
        split <;> omega
      case live =>
        intro kind hknown
        have hle := hreflects.known_le kind
        rw [eventCount_concat] at hknown
        rw [live_concat]
        split at hknown
        · omega
        next hkind =>
          rw [if_neg hkind]
          exact hreflects.live kind hknown

/-- The request's own event. -/
theorem Reflects.own (hreflects : Reflects log known session) {event : TokenEvent}
    (htoken : ∀ kind, session'.token kind = tokenAfter (some event) kind (session.token kind)) :
    Reflects (log ++ [event])
      (Function.update known event.kind (eventCount event.kind (log ++ [event]))) session' := by
  constructor
  case known_le =>
    intro kind
    by_cases hkind : kind = event.kind
    · subst hkind
      exact Nat.le_of_eq (Function.update_self _ _ _)
    · rw [Function.update_of_ne hkind]
      exact (hreflects.concat (some event)).known_le kind
  case live =>
    intro kind hknown
    rw [htoken, live_concat]
    show (if event.kind = kind then _ else _) = _
    by_cases hkind : event.kind = kind
    · rw [if_pos hkind, if_pos hkind]
    · rw [Function.update_of_ne (Ne.symm hkind), eventCount_concat, if_neg hkind] at hknown
      rw [if_neg hkind, if_neg hkind]
      exact hreflects.live kind hknown

end Copies

namespace TokenState

variable {sessionId : String} {now : Int} {state : TokenState R} {task : TokenTask R}

/-- Only what is live was accepted, and the stored session holds what is live. -/
structure Orderly (state : TokenState R) : Prop where
  accepts : AcceptsLive state.log
  stored : ∀ session ∈ state.stored, Reflects state.log state.known session

theorem turn_log : (turn sessionId now state task).1.log =
    state.log ++ (task.work.event sessionId
      ⟨⟨state.db, state.keys, task.session⟩, now⟩).toList := rfl

/-- A turn stores nothing, or drops the stored session, or saves the copy. -/
theorem save_cases (state : TokenState R) (task : TokenTask R) :
    (state.save task).stored = none ∨ state.save task = state ∨
      task.work = .ending ∧ (state.save task).stored = some task.session ∧
        (state.save task).known = task.known := by
  unfold save
  split
  · exact .inl rfl
  next hwork =>
    split
    · exact .inr (.inl rfl)
    · exact .inr (.inr ⟨hwork, rfl, rfl⟩)
  all_goals exact .inr (.inl rfl)

theorem orderly_turn (horderly : Orderly state)
    (hown : Reflects state.log task.known task.session)
    (hcurrent : UpToDate sessionId now state task) :
    Orderly (turn sessionId now state task).1 := by
  let clocked : Clocked R := ⟨⟨state.db, state.keys, task.session⟩, now⟩
  constructor
  case accepts =>
    rw [turn_log]
    cases hevent : task.work.event sessionId clocked with
    | none =>
        rw [Option.toList_none, List.append_nil]
        exact horderly.accepts
    | some event =>
        rw [Option.toList_some]
        refine horderly.accepts.concat fun kind token heq => ?_
        subst heq
        obtain ⟨htoken, hne⟩ := event_accepted hevent
        have hknown : task.known kind = eventCount kind state.log := hcurrent _ hevent rfl
        exact ⟨(hown.live kind hknown).symm.trans htoken, hne⟩
  case stored =>
    rw [turn_log]
    intro session hsession
    change session ∈ (state.save task).stored at hsession
    show Reflects _ (state.save task).known session
    rcases save_cases state task with hnone | hsame | ⟨hwork, hstored, hknown⟩
    · rw [hnone] at hsession
      contradiction
    · rw [hsame] at hsession ⊢
      exact (horderly.stored session hsession).concat _
    · rw [hstored] at hsession
      obtain rfl := Option.some.inj hsession
      rw [hknown, hwork]
      exact hown.concat none

theorem reflects_turn (hown : Reflects state.log task.known task.session) :
    Reflects (turn sessionId now state task).1.log (turn sessionId now state task).2.known
      (turn sessionId now state task).2.session := by
  have htoken := @turn_token R sessionId ⟨⟨state.db, state.keys, task.session⟩, now⟩ task.work
  rw [turn_log]
  show Reflects _ (task.afterEvent _ _) _
  cases hevent : task.work.event sessionId ⟨⟨state.db, state.keys, task.session⟩, now⟩ with
  | none =>
      rw [hevent] at htoken
      rw [Option.toList_none, List.append_nil]
      exact ⟨hown.known_le, fun kind hknown => (htoken kind).trans (hown.live kind hknown)⟩
  | some event =>
      rw [hevent] at htoken
      exact hown.own htoken

theorem stable (sessionId : String) : Pool.Stable (start (R := R)) (turn sessionId)
    (UpToDate sessionId) Orderly
    (fun state task => Reflects state.log task.known task.session) := by
  constructor
  case start_invariant => exact fun _ _ horderly => horderly
  case start_own =>
    intro request state horderly task htask
    obtain ⟨session, hsession, rfl⟩ := Option.map_eq_some_iff.mp htask
    exact horderly.stored session hsession
  case start_other => exact fun _ _ _ _ hother => hother
  case turn_invariant =>
    exact fun _ _ _ horderly hown hcurrent => orderly_turn horderly hown hcurrent
  case turn_own => exact fun _ _ _ _ hown _ => reflects_turn hown
  case turn_other =>
    intro now state task other _ _ _ hother
    rw [turn_log]
    exact hother.concat _

end TokenState

/-! ## Runs -/

/-- When each callback and verification that accepts has a copy of the session that knows of
all events of the kind, every state and challenge is accepted once. -/
theorem tokens_singleUse {sessionId : String} {pool : Pool (TokenState R) (TokenTask R)}
    {moves : List (Move (TokenRequest R) Int)} (htasks : pool.tasks = []) (hnew : pool.shared.New)
    (halong : Along (TokenState.step sessionId) (Pool.TurnMeets (TokenState.UpToDate sessionId))
      pool moves) :
    SingleUse (run (TokenState.step sessionId) pool moves).shared.log := by
  have horderly : TokenState.Orderly pool.shared := by
    obtain ⟨htokens, hknown, hlog⟩ := hnew
    constructor
    case accepts =>
      rw [hlog]
      intro before kind token after heq
      exact absurd heq.symm (List.append_ne_nil_of_right_ne_nil _ (List.cons_ne_nil _ _))
    case stored =>
      intro session hsession
      rw [hlog, hknown]
      exact ⟨fun _ => Nat.le_refl 0, fun kind _ => htokens session hsession kind⟩
  refine ((TokenState.stable sessionId).run ⟨horderly, ?_⟩ halong).1.accepts.singleUse
  rw [htasks]
  exact fun task htask => absurd htask List.not_mem_nil

/-! ## Two callbacks with one state -/

namespace TokenState.OneState

def profile : GoogleProfile := { sub := "g", email := "u@x" }

def user : User := ⟨"u", "g", "u@x", "", "", 10, 0⟩

/-- A session without states and challenges. -/
def fresh : Pool (TokenState symbolicRuntime) (TokenTask symbolicRuntime) :=
  ⟨⟨{ Database.empty with users := ⟨[user], by decide⟩ }, UnlockKeyStore.empty, some {},
    fun _ => 0, []⟩, []⟩

def turns (index count : Nat) : List (Move (TokenRequest symbolicRuntime) Int) :=
  List.replicate count (.turn index 1)

/-- A login is started, and its state is saved. -/
def started : List (Move (TokenRequest symbolicRuntime) Int) :=
  .start (.googleStart "s") :: turns 0 3

/-- Both callbacks have loaded the session before one of them has saved it. -/
def overlapping : List (Move (TokenRequest symbolicRuntime) Int) :=
  started ++ [.start (.googleCallback (some "s") (.ok profile)),
    .start (.googleCallback (some "s") (.ok profile)), .turn 1 2, .turn 2 2]

/-- A login, a Gmail connection and the start of an assertion, one after the other; then the
state of the login comes again. -/
def oneByOne : List (Move (TokenRequest symbolicRuntime) Int) :=
  started ++ .start (.googleCallback (some "s") (.ok profile)) :: turns 1 6 ++
    .start (.oauthStart "m") :: turns 2 4 ++
    .start (.oauthCallback (some "m") (.ok ⟨"u@x", "access", "refresh", none⟩)
      ("key", "salt") ⟨"mailbox", "iv", "iv"⟩) :: turns 3 6 ++
    .start (.authenticateOptions "c") :: turns 4 4 ++
    .start (.googleCallback (some "s") (.ok profile)) :: turns 5 2

theorem fresh_new : fresh.shared.New := by
  refine ⟨fun session hsession kind => ?_, rfl, rfl⟩
  obtain rfl := Option.some.inj hsession
  cases kind <;> rfl

end TokenState.OneState

open TokenState.OneState in
/-- The state is accepted by both callbacks. -/
theorem not_tokens_singleUse :
    ¬ SingleUse (run (TokenState.step "x") fresh overlapping).shared.log := by
  intro hsingle
  have hlog : (run (TokenState.step "x") fresh overlapping).shared.log =
      [.issued .login "s"] ++ .accepted .login "s" :: ([] ++ .accepted .login "s" :: []) := by
    decide
  exact absurd (hsingle.once _ _ _ _ _ hlog) List.not_mem_nil

open TokenState.OneState in
theorem tokens_singleUse_example :
    SingleUse (run (TokenState.step "x") fresh oneByOne).shared.log :=
  tokens_singleUse rfl fresh_new (by decide)

end MyAccountController
