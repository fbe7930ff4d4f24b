import MyAccountController.Web.DeviceUnlock

/-! # Registrations that fail

The server stores a device in the middle of a registration, and nothing takes it
back. So a registration that throws has changed nothing if and only if it has
thrown before that: a lost response, or a priming that fails, leaves the device
on the server, whose credential the next registration excludes.
-/

namespace MyAccountController

open Foundation

variable {R : Runtime} {crypto : WebCrypto} {browser : Registering} {sessionId : String}
  {times : Int × Int} {challenge freshId deviceLabel masterPassword : String}

/-! ## What a failure may leave behind -/

/-- The trusted devices, the wrapped passwords of the browser and the answer to the next request
for registration options are as before. -/
structure AsBefore (app after : WebApp R) : Prop where
  devices : ∀ userId, after.server.db.trustedDevices.rows.filter (·.userId = userId) =
    app.server.db.trustedDevices.rows.filter (·.userId = userId)
  stored : after.stored = app.stored
  options : ∀ userId challenge,
    (WebAuthnService.createRegistrationOptions userId challenge after.server.db).1 =
      (WebAuthnService.createRegistrationOptions userId challenge app.server.db).1

/-- The session gets registration options for the user. -/
structure GetsOptions (browser : Registering) (sessionId : String) (now : Int) (app : WebApp R)
    (userId : String) : Prop where
  loggedIn : (app.server.sessions sessionId).loggedInAs = some userId
  unlocked : (app.server.sessions sessionId).isUnlocked = true
  inTime : (app.server.keys.touch sessionId now).1.isSome = true
  user : (app.server.db.users.find? userId).isSome = true
  options : browser.optionsDelivery = .answered

/-- The registration comes as far as the server storing the device of the response. -/
structure StoresDevice (browser : Registering) (sessionId : String) (times : Int × Int)
    (challenge freshId : String) (app : WebApp R) (userId : String)
    (response : BrowserRegistration) : Prop
    extends GetsOptions browser sessionId times.1 app userId where
  stillInTime :
    ((app.server.keys.touch sessionId times.1).2.touch sessionId times.2).1.isSome = true
  created : browser.startRegistration challenge (excludedCredentials app.server.db userId) =
    .ok response
  challenged : challenge ≠ ""
  arrives : ∀ err, browser.registerDelivery ≠ .requestLost err
  verified : ∃ info, response.verify challenge = .ok (some info) ∧ Prisma.Int4 info.2.2
  free : ∀ device ∈ app.server.db.trustedDevices.rows,
    device.id ≠ freshId ∧ device.webauthnCredentialId ≠ response.id

/-- The priming assertion is refused, or its result cannot be used to wrap the password, or the
wrapped password cannot be saved. -/
inductive PrimingFails (crypto : WebCrypto) (browser : Registering)
    (credentialId masterPassword : String) : Prop where
  | refused (err : Exception)
      (hrefused : browser.startAuthentication
        ⟨browser.primingChallenge, [credentialId], getPrfEvalSalt crypto⟩ = .error err)
  | notWrapped (assertion : Assertion) (prfOutput : List UInt8) (err : Exception)
      (hassertion : browser.startAuthentication
        ⟨browser.primingChallenge, [credentialId], getPrfEvalSalt crypto⟩ = .ok assertion)
      (hprf : assertion.prfOutput = some prfOutput)
      (hwrap : wrapMasterPassword crypto prfOutput masterPassword browser.iv = .error err)
  | notSaved (assertion : Assertion) (prfOutput : List UInt8) (err : Exception)
      (hassertion : browser.startAuthentication
        ⟨browser.primingChallenge, [credentialId], getPrfEvalSalt crypto⟩ = .ok assertion)
      (hprf : assertion.prfOutput = some prfOutput) (hsaving : browser.saving = some err)

/-- After the server has stored the device its answer is lost, or the priming fails. -/
inductive FailsAfterwards (crypto : WebCrypto) (browser : Registering) (masterPassword : String)
    (response : BrowserRegistration) : Prop where
  | responseLost (err : Exception) (hlost : browser.registerDelivery = .responseLost err)
  | priming (hprf : response.prfEnabled = true)
      (hfails : PrimingFails crypto browser response.id masterPassword)

/-! ## The steps -/

/-- A request changes neither the browser nor, when the database stays as it is whether it is
answered or refused, the database. -/
theorem apiFetch_error {α : Type} {delivery : Delivery} {route : Route R α}
    {app after : WebApp R} {err : Exception}
    (hrun : apiFetch delivery sessionId route app = (.error err, after)) :
    after = app ∨ after = { app with
      server := app.server.save sessionId (route (app.server.context sessionId)).2 } ∧
      ((∃ lost, delivery = .responseLost lost) ∨ delivery = .answered ∧
        (route (app.server.context sessionId)).1 = .error err) := by
  unfold apiFetch Server.serve at hrun
  cases delivery with
  | answered =>
      obtain ⟨hresult, rfl⟩ := Prod.mk.inj hrun
      exact .inr ⟨rfl, .inr ⟨rfl, hresult⟩⟩
  | requestLost lost => exact .inl (Prod.mk.inj hrun).2.symm
  | responseLost lost =>
      obtain ⟨-, rfl⟩ := Prod.mk.inj hrun
      exact .inr ⟨rfl, .inl ⟨lost, rfl⟩⟩

theorem apiFetch_delivery_ok {α : Type} {delivery : Delivery} {route : Route R α}
    {app after : WebApp R} {a : α}
    (hrun : apiFetch delivery sessionId route app = (.ok a, after)) : delivery = .answered := by
  cases delivery with
  | answered => rfl
  | requestLost err => exact absurd (congrArg Prod.fst hrun) (by simp [apiFetch])
  | responseLost err => exact absurd (congrArg Prod.fst hrun) (by simp [apiFetch])

/-- Asking for registration options only reads. -/
theorem webauthnRegisterOptions_db (now : Int) (ctx : Context R) :
    (AuthController.webauthnRegisterOptions sessionId now challenge ctx).2.db = ctx.db := by
  have hguarded := unlockedGuard_db sessionId now ctx
  rw [AuthController.webauthnRegisterOptions]
  rcases hguard : unlockedGuard sessionId now ctx with ⟨e | ⟨userId, key⟩, admitted⟩
  · rw [Handler.bind_of_error hguard]
    rwa [hguard] at hguarded
  · rw [hguard] at hguarded
    rw [Handler.bind_of_ok hguard, ← hguarded]
    show ((onDatabase _ >>= _) admitted).2.db = admitted.db
    rcases hfind : admitted.db.users.find? userId with _ | user
    all_goals
      simp only [Handler.bind_run, onDatabase, Handler.zoom_run,
        WebAuthnService.createRegistrationOptions, Model.findUnique_run]
      rw [show (Prisma.user.table admitted.db).find? userId = _ from hfind]
      rfl

/-- A refused registration writes nothing. -/
theorem webauthnRegister_error {now : Int} {deviceLabel : Option String}
    {response : RegistrationResponse} {ctx ctx' : Context R} {err : Exception}
    (hrun : AuthController.webauthnRegister sessionId now freshId deviceLabel response ctx =
      (.error err, ctx')) : ctx'.db = ctx.db := by
  have hguarded := unlockedGuard_db sessionId now ctx
  rw [AuthController.webauthnRegister, Handler.bind_error_iff] at hrun
  rcases hrun with hguard | ⟨⟨userId, key⟩, admitted, hguard, hrun⟩
  · rwa [hguard] at hguarded
  rw [hguard] at hguarded
  rw [← hguarded]
  rcases Handler.bind_error_iff.mp hrun with htake | ⟨expectedChallenge, taken, htake, hrun⟩
  · rw [AuthController.takeChallenge, Handler.state_bind, Handler.bind_error_iff] at htake
    rcases htake with hexpect | ⟨_, _, -, htake⟩
    · rw [(Handler.expect_error_iff.mp hexpect).2.2]
    · exact absurd (congrArg Prod.fst htake) (by simp)
  · obtain ⟨-, rfl⟩ := takeChallenge_ok_iff.mp htake
    obtain ⟨db', hverify, rfl⟩ := onDatabase_run.mp hrun
    exact WebAuthnService.verifyRegistration_error hverify

/-- A priming that fails saves nothing. -/
theorem prime_error {credentialId : String} {app after : WebApp R} {err : Exception}
    (hrun : prime crypto browser credentialId masterPassword app = (.error err, after)) :
    after = app ∧ PrimingFails crypto browser credentialId masterPassword := by
  rw [prime, Handler.bind_error_iff] at hrun
  rcases hrun with hstart | ⟨assertion, _, hstart, hrun⟩
  · obtain ⟨hrefused, rfl⟩ := Prod.mk.inj hstart
    exact ⟨rfl, .refused err hrefused⟩
  obtain ⟨hassertion, rfl⟩ := Prod.mk.inj hstart
  cases hprf : assertion.prfOutput with
  | none =>
      rw [hprf] at hrun
      exact absurd (congrArg Prod.fst hrun) (by simp)
  | some prfOutput =>
      rw [hprf] at hrun
      rcases Handler.bind_error_iff.mp hrun with hwrapping | ⟨wrapped, _, hwrapping, hsave⟩
      · obtain ⟨hwrap, rfl⟩ := Prod.mk.inj hwrapping
        exact ⟨rfl, .notWrapped assertion prfOutput err hassertion hprf hwrap⟩
      obtain ⟨-, rfl⟩ := Prod.mk.inj hwrapping
      cases hsaving : browser.saving with
      | none =>
          rw [hsaving] at hsave
          exact absurd (congrArg Prod.fst hsave) (by simp [saveWrappedMasterPassword])
      | some failure =>
          rw [hsaving] at hsave
          obtain ⟨-, rfl⟩ := Prod.mk.inj hsave
          exact ⟨rfl, .notSaved assertion prfOutput failure hassertion hprf hsaving⟩

theorem PrimingFails.raises {credentialId : String}
    (hfails : PrimingFails crypto browser credentialId masterPassword) (app : WebApp R) :
    ∃ err, prime crypto browser credentialId masterPassword app = (.error err, app) := by
  unfold prime
  cases hfails with
  | refused err hrefused =>
      rw [hrefused]
      exact ⟨err, rfl⟩
  | notWrapped assertion prfOutput err hassertion hprf hwrap =>
      rw [hassertion, Handler.ofExcept_ok_bind, hprf]
      simp only [hwrap]
      exact ⟨err, rfl⟩
  | notSaved assertion prfOutput err hassertion hprf hsaving =>
      rw [hassertion, Handler.ofExcept_ok_bind, hprf]
      simp only [hsaving]
      cases wrapMasterPassword crypto prfOutput masterPassword browser.iv with
      | error failure => exact ⟨failure, rfl⟩
      | ok wrapped => exact ⟨err, rfl⟩

/-! ## Until the device is stored -/

/-- The application after `register-options`. -/
def optionsFetched (app : WebApp R) (sessionId : String) (now : Int) (challenge : String) :
    WebApp R :=
  { app with
    server := app.server.save sessionId
      (offered (app.server.context sessionId) sessionId now challenge) }

theorem optionsFetched_context (app : WebApp R) (now : Int) :
    (optionsFetched app sessionId now challenge).server.context sessionId =
      offered (app.server.context sessionId) sessionId now challenge :=
  Server.context_save _ _ _

theorem getsOptions_iff {app optioned : WebApp R} {options : String × List String} :
    apiFetch browser.optionsDelivery sessionId
        (AuthController.webauthnRegisterOptions sessionId times.1 challenge) app =
          (.ok options, optioned) ↔
      (∃ userId, GetsOptions browser sessionId times.1 app userId ∧
        options = (challenge, excludedCredentials app.server.db userId)) ∧
      optioned = optionsFetched app sessionId times.1 challenge := by
  constructor
  · intro hfetch
    have hdelivery := apiFetch_delivery_ok hfetch
    obtain ⟨ctx, hroute, rfl⟩ := apiFetch_ok hfetch
    obtain ⟨⟨userId, hlogged, hunlocked, hinTime, huser, rfl⟩, rfl⟩ :=
      webauthnRegisterOptions_ok_iff.mp hroute
    exact ⟨⟨userId, ⟨hlogged, hunlocked, hinTime, huser, hdelivery⟩, rfl⟩, rfl⟩
  · rintro ⟨⟨userId, hgets, rfl⟩, rfl⟩
    rw [hgets.options]
    exact apiFetch_of_run (webauthnRegisterOptions_ok_iff.mpr
      ⟨⟨userId, hgets.loggedIn, hgets.unlocked, hgets.inTime, hgets.user, rfl⟩, rfl⟩)

/-- The server stores the device if and only if its route answers it. -/
theorem storesDevice_iff {app : WebApp R} {userId : String} {response : BrowserRegistration}
    (hgets : GetsOptions browser sessionId times.1 app userId)
    (hcreated : browser.startRegistration challenge (excludedCredentials app.server.db userId) =
      .ok response) (harrives : ∀ err, browser.registerDelivery ≠ .requestLost err) :
    StoresDevice browser sessionId times challenge freshId app userId response ↔
      ∃ device ctx, AuthController.webauthnRegister sessionId times.2 freshId (some deviceLabel)
        response.toRegistrationResponse
        (offered (app.server.context sessionId) sessionId times.1 challenge) =
          (.ok device, ctx) := by
  constructor
  · intro hstores
    obtain ⟨info, hverified, hcounter⟩ := hstores.verified
    have hcredential := response.reads_id _ _ hverified
    obtain ⟨device, db', hverify⟩ := @WebAuthnService.verifyRegistration_of_free times.2 freshId
      userId deviceLabel challenge response.toRegistrationResponse app.server.db info hverified
      hcounter hgets.user (hcredential ▸ hstores.free)
    exact ⟨device, _, webauthnRegister_ok_iff.mpr ⟨userId, challenge, db', hgets.loggedIn,
      hgets.unlocked, hstores.stillInTime, ⟨rfl, hstores.challenged⟩, hverify, rfl⟩⟩
  · rintro ⟨device, ctx, hregister⟩
    obtain ⟨userId', expectedChallenge, db', hlogged, -, hstill, ⟨hchallenge, hnonempty⟩,
      hverify, -⟩ := webauthnRegister_ok_iff.mp hregister
    obtain rfl := Option.some.inj hchallenge
    obtain ⟨hid, -, ⟨info, hinfo, hcounter, hcredential⟩, table, hinsert, -⟩ :=
      WebAuthnService.verifyRegistration_ok hverify
    rw [response.reads_id _ _ hinfo] at hcredential
    have hfree := (Table.insert?_eq_some_iff.mp hinsert).1
    refine ⟨hgets, hstill, hcreated, hnonempty, harrives, ⟨info, hinfo, hcounter⟩,
      fun other hother => ?_⟩
    exact ⟨fun heq => hfree other hother (.inl (heq.trans hid.symm)),
      fun heq => hfree other hother (.inr (heq.trans hcredential.symm))⟩

theorem AsBefore.of_eq {app after : WebApp R} (hstored : after.stored = app.stored)
    (hdb : after.server.db = app.server.db) : AsBefore app after := by
  refine ⟨fun userId => ?_, hstored, fun userId challenge => ?_⟩ <;> rw [hdb]

/-- A registration that throws has changed nothing, or the server has stored the device before. -/
theorem registerThisDevice_error {app after : WebApp R} {err : Exception}
    (hrun : registerThisDevice crypto browser sessionId times challenge freshId deviceLabel
      masterPassword app = (.error err, after)) :
    AsBefore app after ∨ ∃ userId response,
      StoresDevice browser sessionId times challenge freshId app userId response ∧
        FailsAfterwards crypto browser masterPassword response := by
  rw [registerThisDevice, Handler.bind_error_iff] at hrun
  -- The four steps in order: only a failure from the third on can leave the device stored.
  rcases hrun with hoptions | ⟨options, optioned, hoptions, hrun⟩
  · left
    rcases apiFetch_error hoptions with rfl | ⟨rfl, -⟩
    · exact .of_eq rfl rfl
    · exact .of_eq rfl (webauthnRegisterOptions_db times.1 _)
  obtain ⟨⟨userId, hgets, rfl⟩, rfl⟩ := getsOptions_iff.mp hoptions
  rcases Handler.bind_error_iff.mp hrun with hcreate | ⟨response, _, hcreate, hrun⟩
  · obtain ⟨-, rfl⟩ := Prod.mk.inj hcreate
    exact .inl (.of_eq rfl rfl)
  obtain ⟨hcreated, rfl⟩ := Prod.mk.inj hcreate
  rcases Handler.bind_error_iff.mp hrun with hregister | ⟨device, registered, hregister, hrun⟩
  · rcases apiFetch_error hregister with rfl | ⟨rfl, hdelivery⟩
    · exact .inl (.of_eq rfl rfl)
    rw [optionsFetched_context] at hdelivery ⊢
    rcases hroute : AuthController.webauthnRegister sessionId times.2 freshId (some deviceLabel)
      response.toRegistrationResponse (offered (app.server.context sessionId) sessionId times.1
        challenge) with ⟨refusal | device, ctx⟩
    · exact .inl (.of_eq rfl (webauthnRegister_error hroute))
    -- The route stored the device, so the request failed because its response was lost.
    rcases hdelivery with ⟨lost, hlost⟩ | ⟨-, hanswer⟩
    · have harrives : ∀ err, browser.registerDelivery ≠ .requestLost err := by simp [hlost]
      exact .inr ⟨userId, response, (storesDevice_iff hgets hcreated harrives).mpr
        ⟨device, ctx, hroute⟩, .responseLost lost hlost⟩
    · rw [hroute] at hanswer
      contradiction
  · right
    have hanswered := apiFetch_delivery_ok hregister
    have harrives : ∀ err, browser.registerDelivery ≠ .requestLost err := by simp [hanswered]
    obtain ⟨ctx, hroute, rfl⟩ := apiFetch_ok hregister
    rw [optionsFetched_context] at hroute
    refine ⟨userId, response, (storesDevice_iff hgets hcreated harrives).mpr
      ⟨device, ctx, hroute⟩, ?_⟩
    cases hprf : response.prfEnabled with
    | false =>
        rw [hprf] at hrun
        exact absurd (congrArg Prod.fst hrun) (by simp)
    | true =>
        rw [hprf] at hrun
        rcases Handler.bind_error_iff.mp hrun with hprime | ⟨_, _, -, hrun⟩
        · exact .priming hprf (prime_error hprime).2
        · exact absurd (congrArg Prod.fst hrun) (by simp)

/-! ## After the device is stored -/

/-- A registration that fails after the device has been stored leaves it behind. -/
theorem StoresDevice.leaves {app : WebApp R} {userId : String} {response : BrowserRegistration}
    (hstores : StoresDevice browser sessionId times challenge freshId app userId response)
    (hfails : FailsAfterwards crypto browser masterPassword response) :
    ∃ err after device, registerThisDevice crypto browser sessionId times challenge freshId
        deviceLabel masterPassword app = (.error err, after) ∧ device.userId = userId ∧
      device ∈ after.server.db.trustedDevices.rows ∧
        device ∉ app.server.db.trustedDevices.rows := by
  obtain ⟨device, ctx, hroute⟩ := @storesDevice_iff R browser sessionId times challenge freshId
    deviceLabel app userId response hstores.toGetsOptions hstores.created hstores.arrives |>.mp
    hstores
  obtain ⟨userId', expectedChallenge, db', hlogged, -, -, -, hverify, rfl⟩ :=
    webauthnRegister_ok_iff.mp hroute
  obtain rfl := Option.some.inj (hstores.loggedIn.symm.trans hlogged)
  obtain ⟨-, howner, -, table, hinsert, rfl⟩ := WebAuthnService.verifyRegistration_ok hverify
  obtain ⟨hfree, hrows⟩ := Table.insert?_eq_some_iff.mp hinsert
  have hnew : device ∉ app.server.db.trustedDevices.rows := fun hmem =>
    hfree device hmem (Entity.clash_of_key_eq rfl)
  have hadded : device ∈ table.rows := by
    rw [hrows]
    exact List.mem_append_right _ (List.mem_singleton_self _)
  have hoptions := (@getsOptions_iff R browser sessionId times challenge app _ _).mpr
    ⟨⟨userId, hstores.toGetsOptions, rfl⟩, rfl⟩
  rw [← optionsFetched_context] at hroute
  have hregister : registerThisDevice crypto browser sessionId times challenge freshId deviceLabel
      masterPassword app = (do
        let device ← apiFetch browser.registerDelivery sessionId
          (AuthController.webauthnRegister sessionId times.2 freshId (some deviceLabel)
            response.toRegistrationResponse)
        if response.prfEnabled then prime crypto browser response.id masterPassword
        pure { deviceId := device.id, prfSupported := response.prfEnabled } :
          Handler Exception (WebApp R) RegisterResult)
        (optionsFetched app sessionId times.1 challenge) := by
    rw [registerThisDevice, Handler.bind_of_ok hoptions, hstores.created,
      Handler.ofExcept_ok_bind]
  rw [hregister]
  cases hdelivery : browser.registerDelivery with
  | requestLost err => exact absurd hdelivery (hstores.arrives err)
  | responseLost err =>
      have hlost : apiFetch (.responseLost err) sessionId
          (AuthController.webauthnRegister sessionId times.2 freshId (some deviceLabel)
            response.toRegistrationResponse) (optionsFetched app sessionId times.1 challenge) =
          (.error err, _) := rfl
      refine ⟨err, _, device, Handler.bind_of_error hlost, howner, ?_, hnew⟩
      simp only [hroute]
      exact hadded
  | answered =>
      rw [Handler.bind_of_ok (apiFetch_of_run hroute)]
      cases hfails with
      | responseLost err hlost => exact absurd (hdelivery.symm.trans hlost) (by simp)
      | priming hprf hpriming =>
          obtain ⟨err, hraises⟩ := hpriming.raises _
          rw [hprf]
          exact ⟨err, _, device, Handler.bind_of_error hraises, howner, hadded, hnew⟩

/-- A registration that throws leaves everything as before if and only if no step fails after the
server has stored the device. -/
theorem failedRegistration_asBefore_iff {app : WebApp R} :
    (∀ err after, registerThisDevice crypto browser sessionId times challenge freshId deviceLabel
        masterPassword app = (.error err, after) → AsBefore app after) ↔
      ∀ userId response, StoresDevice browser sessionId times challenge freshId app userId response →
        ¬ FailsAfterwards crypto browser masterPassword response := by
  constructor
  · intro hbefore userId response hstores hfails
    obtain ⟨err, after, device, hrun, howner, hstored, hnew⟩ :=
      @StoresDevice.leaves R crypto browser sessionId times challenge freshId deviceLabel
        masterPassword app userId response hstores hfails
    have hmem : device ∈ after.server.db.trustedDevices.rows.filter (·.userId = userId) :=
      List.mem_filter.mpr ⟨hstored, decide_eq_true howner⟩
    rw [(hbefore err after hrun).devices userId] at hmem
    exact hnew (List.mem_filter.mp hmem).1
  · intro hsafe err after hrun
    rcases registerThisDevice_error hrun with hbefore | ⟨userId, response, hstores, hfails⟩
    · exact hbefore
    · exact absurd hfails (hsafe userId response hstores)

open LaptopRegistration in
/-- When the priming assertion is cancelled, the next registration excludes the credential that
this browser cannot unlock with. -/
theorem not_asBefore_primingCancelled :
    (register (.error (.error "NotAllowedError"))).1 = .error (.error "NotAllowedError") ∧
      (register (.error (.error "NotAllowedError"))).2.stored "credential" = none ∧
      (WebAuthnService.createRegistrationOptions "u" "again"
        (register (.error (.error "NotAllowedError"))).2.server.db).1 =
          .ok ("again", ["credential"]) ∧
      ¬ AsBefore app (register (.error (.error "NotAllowedError"))).2 := by
  refine ⟨rfl, rfl, rfl, fun hbefore => ?_⟩
  have hoptions := hbefore.options "u" "again"
  have hexcluded := congrArg (fun answer => answer.toOption.map Prod.snd) hoptions
  exact absurd hexcluded (by decide)

end MyAccountController
