import MyAccountController.Auth.RequestTurns
import MyAccountController.EmailAccounts.GmailOAuthService
import MyAccountController.Foundation.Program

/-! # The states and challenges of a session

Four flows put a random value into the session and look for it there later: the
app login, the Gmail connection, and the two WebAuthn ceremonies, which share a
field. The first part of a request runs without an await, and it is where a
callback or verification takes its value.
-/

namespace MyAccountController

open Foundation

variable {R : Runtime}

/-- The fields of the session that hold a state or a challenge. -/
inductive TokenKind where
  | login
  | gmail
  | webauthn
  deriving DecidableEq, Repr

def SessionData.token (session : SessionData) : TokenKind → Option String
  | .login => session.oauthState
  | .gmail => session.gmailOAuthState
  | .webauthn => session.currentWebauthnChallenge

/-- What happens to a state or challenge. -/
inductive TokenEvent where
  | issued (kind : TokenKind) (token : String)
  | accepted (kind : TokenKind) (token : String)
  deriving DecidableEq, Repr

namespace TokenEvent

def kind : TokenEvent → TokenKind
  | issued kind _ | accepted kind _ => kind

def isAcceptance : TokenEvent → Bool
  | issued _ _ => false
  | accepted _ _ => true

/-- What is in the session's field after the event. -/
def leaves : TokenEvent → Option String
  | issued _ token => some token
  | accepted _ _ => none

end TokenEvent

/-- What a field of the session holds after a turn with this event. -/
def tokenAfter (event : Option TokenEvent) (kind : TokenKind) (before : Option String) :
    Option String :=
  match event with
  | some event => if event.kind = kind then event.leaves else before
  | none => before

/-! ## Requests that touch no state or challenge -/

/-- The state of a request, and the time of its turn. -/
structure Clocked (R : Runtime) where
  ctx : Context R
  now : Int

def atNow {α : Type} (x : Int → Route R α) : Handler Exception (Clocked R) α :=
  fun clocked =>
    ((x clocked.now clocked.ctx).1, { clocked with ctx := (x clocked.now clocked.ctx).2 })

/-- Run a method that only uses the session. -/
def onSession {α : Type} (x : Handler Exception SessionData α) : Route R α :=
  Handler.zoom Context.session (fun ctx session => { ctx with session }) x

/-- The states and challenges are as before. -/
def KeepsTokens (ctx ctx' : Context R) : Prop :=
  ∀ kind, ctx'.session.token kind = ctx.session.token kind

def KeepsTokensNow (clocked clocked' : Clocked R) : Prop :=
  KeepsTokens clocked.ctx clocked'.ctx

/-- A program whose steps leave the states and challenges alone. -/
abbrev TokenFree (R : Runtime) :=
  {program : Program Exception (Clocked R) Unit // program.Always KeepsTokensNow}

namespace KeepsTokens

theorem refl (ctx : Context R) : KeepsTokens ctx ctx := fun _ => rfl

theorem trans (a b c : Context R) (hab : KeepsTokens a b) (hbc : KeepsTokens b c) :
    KeepsTokens a c :=
  fun kind => (hbc kind).trans (hab kind)

/-- A write to the session that leaves the three fields alone. -/
theorem withSession (ctx : Context R) {f : SessionData → SessionData}
    (hf : ∀ session kind, (f session).token kind = session.token kind) :
    KeepsTokens ctx (ctx.withSession f) :=
  hf ctx.session

end KeepsTokens

open Handler

theorem keepsTokens_onDatabase {α : Type} (query : Query α) :
    Keeps KeepsTokens (onDatabase (R := R) query) :=
  fun _ _ => rfl

theorem keepsTokens_atNow {α : Type} {x : Int → Route R α} (hx : ∀ now, Keeps KeepsTokens (x now)) :
    Keeps KeepsTokensNow (atNow x) :=
  fun clocked => hx clocked.now clocked.ctx

theorem keepsTokens_storeKey (sessionId : String) (now : Int) (key : R.Key) (minutes : Int) :
    Keeps KeepsTokens (AuthService.storeKey sessionId now key minutes) := by
  intro ctx kind
  cases kind <;> rfl

theorem keepsTokens_loggedInGuard : Keeps KeepsTokens (loggedInGuard (R := R)) :=
  Keeps.of_state_eq KeepsTokens.refl loggedInGuard_state

theorem keepsTokens_unlockedGuard (sessionId : String) (now : Int) :
    Keeps KeepsTokens (unlockedGuard (R := R) sessionId now) := by
  unfold unlockedGuard
  apply keeps_bind KeepsTokens.trans keepsTokens_loggedInGuard
  intro userId _ ctx _
  rw [state_bind, modify_bind]
  cases (ctx.keys.touch sessionId now).1 with
  | none =>
      intro kind
      cases kind <;> rfl
  | some key =>
      cases ctx.session.isUnlocked with
      | true => exact fun _ => rfl
      | false =>
          intro kind
          cases kind <;> rfl

section Phases

variable (sessionId : String) (now : Int)

theorem UnlockPhase.keepsTokens (password : Option String) (phase : UnlockPhase) :
    Keeps KeepsTokens (phase.turn (R := R) sessionId now password) := by
  cases phase with
  | findUser userId => exact fun _ _ => rfl
  | userFound found => cases found <;> exact fun _ _ => rfl
  | verifying user =>
      cases password with
      | none => exact fun _ _ => rfl
      | some current =>
          intro ctx
          rw [UnlockPhase.turn, expect_some_bind, ensure_bind]
          split <;> exact fun _ => rfl
  | derivingKey user current =>
      intro ctx
      rw [UnlockPhase.turn, bind_pure_state]
      exact keepsTokens_storeKey sessionId now _ _ ctx

theorem AuthenticatePhase.keepsTokens (response : AuthenticationResponse)
    (password : Option String) (phase : AuthenticatePhase) :
    Keeps KeepsTokens (phase.turn (R := R) sessionId now response password) := by
  intro ctx
  cases phase with
  | findDevice challenge => exact fun _ => rfl
  | deviceFound challenge found => cases found <;> exact fun _ => rfl
  | asserting challenge device =>
      rw [AuthenticatePhase.turn, bind_pure_state]
      exact keepsTokens_onDatabase _ ctx
  | countUse device counter =>
      rw [AuthenticatePhase.turn, bind_pure_state]
      exact keepsTokens_onDatabase _ ctx
  | useCounted device =>
      intro kind
      cases kind <;> rfl
  | unlocking phase =>
      rw [AuthenticatePhase.turn, bind_pure_state]
      exact phase.keepsTokens sessionId now password ctx

theorem ChangePhase.keepsTokens (userId : String) (currentPassword newPassword : Option String)
    (fresh : FreshSecrets R) (phase : ChangePhase R) :
    Keeps KeepsTokens (phase.turn sessionId now userId currentPassword newPassword fresh) := by
  intro ctx
  cases phase with
  | findUser => exact fun _ => rfl
  | userFound found => cases found <;> exact fun _ => rfl
  | verifying user =>
      cases currentPassword with
      | none => exact fun _ => rfl
      | some current =>
          rw [ChangePhase.turn, expect_some_bind, ensure_bind]
          split
          · rw [bind_pure_state]
            cases newPassword with
            | none => exact fun _ => rfl
            | some new =>
                rw [AuthService.newMasterPassword, expect_some_bind, ensure_bind]
                split <;> exact fun _ => rfl
          · exact fun _ => rfl
  | derivingOldKey user current new => exact fun _ => rfl
  | derivingNewKey user oldKey new => exact fun _ => rfl
  | findAccounts user oldKey newKey newHash => exact fun _ => rfl
  | transaction user oldKey newKey newHash accounts =>
      rw [ChangePhase.turn, bind_pure_state]
      exact keepsTokens_onDatabase _ ctx
  | committed user newKey =>
      rw [ChangePhase.turn, bind_pure_state]
      exact keepsTokens_storeKey sessionId now _ _ ctx

theorem CallbackPhase.keepsTokens (profile : Except Exception GoogleProfile)
    (phase : CallbackPhase) : Keeps KeepsTokens (phase.turn (R := R) profile) := by
  intro ctx
  cases phase with
  | exchanging => cases profile <;> exact fun _ => rfl
  | findUser profile => exact fun _ => rfl
  | userFound profile found =>
      cases found <;>
      · intro kind
        cases kind <;> rfl

theorem SetupPhase.keepsTokens (fresh : FreshSecrets R) (phase : SetupPhase R) :
    Keeps KeepsTokens (phase.turn sessionId now fresh) := by
  cases phase with
  | derivingKey pending password => exact fun _ _ => rfl
  | createUser user encryptionKey =>
      intro ctx
      rw [SetupPhase.turn, bind_pure_state]
      exact keepsTokens_onDatabase _ ctx
  | userCreated user encryptionKey =>
      intro ctx
      rw [SetupPhase.turn, modify_bind, bind_pure_state]
      apply KeepsTokens.trans _ _ _ ?_ (keepsTokens_storeKey sessionId now _ _ _)
      apply KeepsTokens.withSession
      intro session kind
      cases kind <;> rfl

end Phases

/-! ## Requests -/

/-- A request of the session. The answers of Google and of the WebAuthn library, and the
random values, are arguments. -/
inductive TokenRequest (R : Runtime) where
  | googleStart (generatedState : String)
  | googleCallback (oauthState : Option String) (profile : Except Exception GoogleProfile)
  | oauthStart (generatedState : String)
  | oauthCallback (oauthState : Option String) (tokens : Except Exception GmailTokens)
      (tokenKey : R.Key) (fresh : FreshEmailAccount R)
  | registerOptions (challenge : String)
  | register (freshId : String) (deviceLabel : Option String) (response : RegistrationResponse)
  | authenticateOptions (challenge : String)
  | authenticate (response : AuthenticationResponse) (password : Option String)
  | logout
  /-- A request of any other route. -/
  | other (program : TokenFree R)

/-- What is left of a request after its first part. -/
inductive TokenStage (R : Runtime) where
  /-- A challenge is remembered once the options are made. -/
  | preparing (options : TokenFree R) (challenge : String)
  | running (program : TokenFree R)

namespace TokenFree

def done : TokenFree R := ⟨pure (), trivial⟩

/-- One step. -/
def step (x : Int → Route R Unit) (hx : ∀ now, Keeps KeepsTokens (x now)) : TokenFree R :=
  ⟨Program.atomic (atNow x), Program.always_atomic (keepsTokens_atNow hx)⟩

/-- A phase after the other. -/
def turns {Phase : Type} (turn : Int → Phase → Route R (Option Phase))
    (hturn : ∀ now phase, Keeps KeepsTokens (turn now phase)) (count : Nat) (phase : Phase) :
    TokenFree R :=
  ⟨Program.ofTurns (fun phase => atNow fun now => turn now phase) count phase,
    Program.always_ofTurns (fun phase => keepsTokens_atNow fun now => hturn now phase) count phase⟩

theorem keepsTokens_pure {α : Type} {x : Route R α} (hx : Keeps KeepsTokens x) :
    Keeps KeepsTokens (do let _ ← x; pure () : Route R Unit) := by
  intro ctx
  rw [bind_pure_state]
  exact hx ctx

end TokenFree

namespace AuthService

/-- The first part of `handleGoogleCallback`. -/
def takeOAuthState (oauthState : Option String) : Route R Unit := do
  let ctx ← Handler.state
  Handler.ensure (oauthState.any (· ≠ "") ∧ oauthState = ctx.session.oauthState)
    (.badRequest "OAuth state가 일치하지 않습니다.")
  Handler.modify (·.withSession fun session => { session with oauthState := none })

end AuthService

section Requests

variable (sessionId : String)

/-- The queries of `createRegistrationOptions`. -/
def registrationOptions (userId challenge : String) : TokenFree R :=
  TokenFree.step
    (fun _ => do let _ ← onDatabase (WebAuthnService.createRegistrationOptions userId challenge))
    fun _ => TokenFree.keepsTokens_pure (keepsTokens_onDatabase _)

/-- The rest of `oauthCallback`, when Google has answered. -/
def storeTokens (tokenKey : R.Key) (fresh : FreshEmailAccount R) (userId : String)
    (tokens : Except Exception GmailTokens) : TokenFree R :=
  TokenFree.step
    (fun now => do
      let tokens ← Handler.ofExcept tokens
      let _ ← onDatabase (EmailAccountsService.createFromGmail tokenKey now fresh userId tokens))
    fun _ => by
      apply keeps_bind KeepsTokens.trans (fun _ _ => rfl)
      exact fun tokens _ ctx _ =>
        TokenFree.keepsTokens_pure (keepsTokens_onDatabase _) ctx

/-- What runs before the first await. -/
def TokenRequest.first : TokenRequest R → Handler Exception (Clocked R) (TokenStage R)
  | googleStart generatedState => do
      let _ ← atNow fun _ => AuthController.googleStart generatedState
      pure (.running TokenFree.done)
  | googleCallback oauthState profile => do
      atNow fun _ => AuthService.takeOAuthState oauthState
      pure (.running (TokenFree.turns (fun _ => CallbackPhase.turn profile)
        (fun _ => CallbackPhase.keepsTokens profile) 3 .exchanging))
  | oauthStart generatedState => do
      let _ ← atNow fun _ => onSession (EmailAccountsController.oauthStart generatedState)
      pure (.running TokenFree.done)
  | oauthCallback oauthState tokens tokenKey fresh => do
      let userId ← atNow fun _ => onSession (EmailAccountsController.takeState oauthState)
      pure (.running (storeTokens tokenKey fresh userId tokens))
  | registerOptions challenge => do
      let (userId, _) ← atNow (unlockedGuard sessionId)
      pure (.preparing (registrationOptions userId challenge) challenge)
  | register freshId deviceLabel response => do
      let (userId, _) ← atNow (unlockedGuard sessionId)
      let expectedChallenge ← atNow fun _ => AuthController.takeChallenge
        (.unauthorized "먼저 register-options를 호출해주세요.")
      pure (.running (TokenFree.step
        (fun now => do
          let _ ← onDatabase (WebAuthnService.verifyRegistration now freshId userId deviceLabel
            expectedChallenge response))
        fun _ => TokenFree.keepsTokens_pure (keepsTokens_onDatabase _)))
  | authenticateOptions challenge => pure (.preparing TokenFree.done challenge)
  | authenticate response password => do
      let expectedChallenge ← atNow fun _ => AuthController.takeChallenge
        (.unauthorized "먼저 authenticate-options를 호출해주세요.")
      pure (.running (TokenFree.turns
        (fun now => AuthenticatePhase.turn sessionId now response password)
        (fun now => AuthenticatePhase.keepsTokens sessionId now response password) 9
        (.findDevice expectedChallenge)))
  | logout => do
      atNow fun _ => AuthService.logout sessionId
      pure (.running TokenFree.done)
  | other program => pure (.running program)

/-- The next turn, answering what is left. -/
def TokenStage.turn : TokenStage R → Handler Exception (Clocked R) (Option (TokenStage R))
  | preparing ⟨.done (.ok _), _⟩ challenge => do
      atNow fun _ => AuthController.setChallenge challenge
      pure none
  | preparing ⟨.done (.error err), _⟩ _ => Handler.raise err
  | preparing ⟨.await effect rest, halways⟩ challenge => fun clocked =>
      (.ok (some (preparing ⟨rest clocked, (halways clocked).2⟩ challenge)), effect clocked)
  | running ⟨.done result, _⟩ => fun clocked => (result.map fun _ => none, clocked)
  | running ⟨.await effect rest, halways⟩ => fun clocked =>
      (.ok (some (running ⟨rest clocked, (halways clocked).2⟩)), effect clocked)

/-! ## Events -/

/-- What is accepted of a value that a callback brings back. -/
def matchingState (oauthState stored : Option String) : Option String :=
  if oauthState.any (· ≠ "") ∧ oauthState = stored then oauthState else none

/-- The state that a first part issues or accepts, or the challenge that it accepts. -/
def TokenRequest.event (clocked : Clocked R) : TokenRequest R → Option TokenEvent
  | googleStart generatedState => some (.issued .login generatedState)
  | googleCallback oauthState _ =>
      (matchingState oauthState clocked.ctx.session.oauthState).map (.accepted .login)
  | oauthStart generatedState =>
      clocked.ctx.session.loggedInAs.map fun _ => .issued .gmail generatedState
  | oauthCallback oauthState _ _ _ =>
      (matchingState oauthState clocked.ctx.session.gmailOAuthState).map (.accepted .gmail)
  | register _ _ _ =>
      match (unlockedGuard sessionId clocked.now clocked.ctx).1 with
      | .ok _ =>
          (present clocked.ctx.session.currentWebauthnChallenge).map (.accepted .webauthn)
      | .error _ => none
  | authenticate _ _ =>
      (present clocked.ctx.session.currentWebauthnChallenge).map (.accepted .webauthn)
  | registerOptions _ | authenticateOptions _ | logout | other _ => none

/-- The callbacks and verifications. -/
def TokenRequest.accepts : TokenRequest R → Bool
  | googleCallback _ _ | oauthCallback _ _ _ _ | register _ _ _ | authenticate _ _ => true
  | googleStart _ | oauthStart _ | registerOptions _ | authenticateOptions _ | logout
  | other _ => false

/-- The challenge that a turn issues. -/
def TokenStage.event : TokenStage R → Option TokenEvent
  | preparing ⟨.done (.ok _), _⟩ challenge => some (.issued .webauthn challenge)
  | preparing _ _ | running _ => none

/-! ## A request alone -/

/-- All the steps of a stage. -/
def TokenStage.program : TokenStage R → Program Exception (Clocked R) Unit
  | preparing options challenge => do
      options.val
      Program.atomic (atNow fun _ => AuthController.setChallenge challenge)
  | running program => program.val

/-- The handler of the route. -/
def TokenRequest.route (now : Int) : TokenRequest R → Route R Unit
  | googleStart generatedState => do
      let _ ← AuthController.googleStart generatedState
  | googleCallback oauthState profile => do
      let _ ← AuthService.handleGoogleCallback oauthState profile
  | oauthStart generatedState => do
      let _ ← onSession (EmailAccountsController.oauthStart generatedState)
  | oauthCallback oauthState tokens tokenKey fresh => do
      let userId ← onSession (EmailAccountsController.takeState oauthState)
      let tokens ← Handler.ofExcept tokens
      let _ ← onDatabase (EmailAccountsService.createFromGmail tokenKey now fresh userId tokens)
  | registerOptions challenge => do
      let _ ← AuthController.webauthnRegisterOptions sessionId now challenge
  | register freshId deviceLabel response => do
      let _ ← AuthController.webauthnRegister sessionId now freshId deviceLabel response
  | authenticateOptions challenge => do
      let _ ← AuthController.webauthnAuthenticateOptions challenge
  | authenticate response password =>
      AuthController.webauthnAuthenticate sessionId now response password
  | logout => AuthService.logout sessionId
  | other program => fun ctx =>
      ((program.val.alone ⟨ctx, now⟩).1, (program.val.alone ⟨ctx, now⟩).2.ctx)

theorem atNow_bind {α β : Type} (x : Int → Route R α) (f : α → Int → Route R β) :
    (atNow x >>= fun a => atNow (f a)) = atNow fun now => x now >>= fun a => f a now := by
  funext clocked
  rcases hrun : x clocked.now clocked.ctx with ⟨e | a, ctx⟩
  · have hfirst : atNow x clocked = (.error e, { clocked with ctx }) := by rw [atNow, hrun]
    rw [Handler.bind_of_error hfirst, atNow, Handler.bind_of_error hrun]
  · have hfirst : atNow x clocked = (.ok a, { clocked with ctx }) := by rw [atNow, hrun]
    rw [Handler.bind_of_ok hfirst, atNow, atNow, Handler.bind_of_ok hrun]

theorem inRow_atNow {Phase : Type} (turn : Int → Phase → Route R (Option Phase)) (count : Nat)
    (phase : Phase) : inRow (fun phase => atNow fun now => turn now phase) count phase =
      atNow fun now => inRow (turn now) count phase := by
  induction count generalizing phase with
  | zero => rfl
  | succ count ih =>
      rw [inRow]
      show (atNow fun now => turn now phase) >>= _ =
        atNow fun now => turn now phase >>= fun next => _
      rw [← atNow_bind]
      refine congrArg _ (funext fun next => ?_)
      cases next with
      | none => rfl
      | some next => exact ih next

/-- All the steps of a request. -/
def TokenRequest.program (request : TokenRequest R) : Program Exception (Clocked R) Unit := do
  let stage ← Program.atomic (request.first sessionId)
  stage.program

theorem alone_turns {Phase : Type} {turn : Int → Phase → Route R (Option Phase)}
    (hturn : ∀ now phase, Keeps KeepsTokens (turn now phase)) (count : Nat) (phase : Phase) :
    (TokenFree.turns turn hturn count phase).val.alone =
      atNow fun now => inRow (turn now) count phase := by
  show (Program.ofTurns _ count phase).alone = _
  rw [Program.alone_ofTurns, inRow_atNow]

/-- The request that runs alone is its route. -/
theorem TokenRequest.alone_program {request : TokenRequest R}
    (hflow : ∀ program, request ≠ .other program) :
    (request.program sessionId).alone = atNow fun now => request.route sessionId now := by
  have : LawfulMonad (Handler Exception (Clocked R)) := Handler.lawfulMonad
  have : LawfulMonad (Handler Exception (Context R)) := Handler.lawfulMonad
  rw [program, Program.alone_bind, Program.alone_atomic]
  cases request with
  | other program => exact absurd rfl (hflow program)
  | googleStart generatedState => rfl
  | authenticateOptions challenge => rfl
  | logout => rfl
  | oauthStart generatedState =>
      rw [first, bind_assoc]
      simp only [pure_bind]
      exact atNow_bind _ fun _ _ => pure ()
  | googleCallback oauthState profile =>
      rw [first, bind_assoc]
      simp only [pure_bind, TokenStage.program, alone_turns, atNow_bind]
      refine congrArg atNow (funext fun now => ?_)
      rw [route, ← handleGoogleCallback_inRow, AuthService.takeOAuthState]
      simp only [bind_assoc]
  | oauthCallback oauthState tokens tokenKey fresh =>
      rw [first, bind_assoc]
      simp only [pure_bind, TokenStage.program, storeTokens, TokenFree.step, Program.alone_atomic,
        atNow_bind]
      rfl
  | registerOptions challenge =>
      rw [first, bind_assoc]
      -- The options carry the challenge they were made for.
      simp only [pure_bind, TokenStage.program, registrationOptions, TokenFree.step,
        Program.alone_bind, Program.alone_atomic, atNow_bind, route,
        AuthController.webauthnRegisterOptions, WebAuthnService.createRegistrationOptions,
        onDatabase_bind, onDatabase_pure, bind_assoc]
      rfl
  | register freshId deviceLabel response =>
      rw [first, bind_assoc]
      simp only [pure_bind, TokenStage.program, TokenFree.step, Program.alone_atomic,
        atNow_bind, bind_assoc, route, AuthController.webauthnRegister]
  | authenticate response password =>
      rw [first, bind_assoc]
      simp only [pure_bind, TokenStage.program, alone_turns, atNow_bind, route]
      refine congrArg atNow (funext fun now => ?_)
      rw [← webauthnAuthenticate_inRow]

/-- The turns of a stage are the steps of its program. -/
theorem TokenStage.alone_turn (stage : TokenStage R) (clocked : Clocked R) :
    stage.program.alone clocked = match stage.turn clocked with
      | (.ok (some next), clocked') => next.program.alone clocked'
      | (.ok none, clocked') => (.ok (), clocked')
      | (.error err, clocked') => (.error err, clocked') := by
  rcases stage with ⟨⟨result | ⟨effect, rest⟩, halways⟩, challenge⟩ |
    ⟨result | ⟨effect, rest⟩, halways⟩
  · cases result <;> rfl
  · rfl
  · cases result <;> rfl
  · rfl

/-! ## Other routes -/

/-- A guard, and what it lets through. -/
def TokenFree.guarded {α : Type} (guard : Int → Route R α)
    (hguard : ∀ now, Keeps KeepsTokens (guard now)) (rest : α → TokenFree R) : TokenFree R :=
  ⟨do (rest (← Program.atomic (atNow guard))).val,
    Program.always_bind (Program.always_atomic (keepsTokens_atNow hguard))
      fun a => (rest a).property⟩

def TokenRequest.unlock (password : Option String) : TokenRequest R :=
  .other (TokenFree.guarded (fun _ => loggedInGuard) (fun _ => keepsTokens_loggedInGuard)
    fun userId => TokenFree.turns (fun now => UnlockPhase.turn sessionId now password)
      (fun now => UnlockPhase.keepsTokens sessionId now password) 4 (.findUser userId))

def TokenRequest.changeMasterPassword (currentPassword newPassword : Option String)
    (fresh : FreshSecrets R) : TokenRequest R :=
  .other (TokenFree.guarded (unlockedGuard sessionId) (keepsTokens_unlockedGuard sessionId)
    fun admitted => TokenFree.turns
      (fun now => ChangePhase.turn sessionId now admitted.1 currentPassword newPassword fresh)
      (fun now => ChangePhase.keepsTokens sessionId now admitted.1 currentPassword newPassword fresh)
      8 .findUser)

end Requests

end MyAccountController
