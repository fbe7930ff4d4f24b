import MyAccountController.Auth.AuthService

/-! # `WebAuthnService`

The signature checks of the WebAuthn library are the field `verify` of a
response: what the library answers for it. `none` is a response that is not
verified, an error is the message of an exception.
-/

namespace MyAccountController

open Foundation

/-- `RegistrationResponseJSON`, with the credential the library reads from it. -/
structure RegistrationResponse where
  verify : (expectedChallenge : String) →
    Except String (Option (String × String × Int))

/-- `AuthenticationResponseJSON`, with the new counter the library reads from it. -/
structure AuthenticationResponse where
  id : String
  verify : (expectedChallenge : String) → (credential : TrustedDevice) →
    Except String (Option Int)

namespace WebAuthnService

/-- `createRegistrationOptions`, answering the challenge and the excluded
credentials. The challenge is drawn by the library. -/
def createRegistrationOptions (userId challenge : String) : Query (String × List String) := do
  let found ← Prisma.user.findUnique userId
  let _ ← Handler.expect found .p2025
  let existingDevices ← Prisma.trustedDevice.findMany (·.userId = userId)
  pure (challenge, existingDevices.map TrustedDevice.webauthnCredentialId)

/-- `listDevices`, newest first. -/
def listDevices (userId : String) : Query (List TrustedDevice) := do
  let devices ← Prisma.trustedDevice.findMany (·.userId = userId)
  pure (devices.mergeSort fun a b => b.createdAt ≤ a.createdAt)

/-- What the library answers, as the service reports it. -/
def verification {α : Type} (answer : Except String (Option α)) (failed : String → String)
    (unverified : String) : Query α :=
  match answer with
  | .error message => Handler.raise (.unauthorized (failed message))
  | .ok none => Handler.raise (.unauthorized unverified)
  | .ok (some info) => pure info

def verifyRegistration (now : Int) (freshId userId : String) (deviceLabel : Option String)
    (expectedChallenge : String) (response : RegistrationResponse) : Query TrustedDevice := do
  let (credentialId, publicKey, counter) ← verification (response.verify expectedChallenge)
    (fun message => "생체인증 등록 검증 실패: " ++ message) "생체인증 등록을 검증할 수 없습니다."
  let deviceLabel ← Handler.expect deviceLabel .prismaValidation
  Handler.recover
    (do
      Handler.ensure (Prisma.Int4 counter) .p2020
      Prisma.trustedDevice.create
        { id := freshId, userId, deviceLabel, webauthnCredentialId := credentialId,
          webauthnPublicKey := publicKey, counter, createdAt := now, lastUsedAt := none })
    fun err =>
      if err = .p2002 then Handler.raise (.conflict "이미 등록된 기기입니다.")
      else Handler.raise err

/-- Write the signature counter after a verified assertion. -/
def setCounter (counter now : Int) (device : TrustedDevice) : TrustedDevice :=
  { device with counter, lastUsedAt := some now }

theorem setCounter_unindexed (counter now : Int) : Table.Unindexed (setCounter counter now) :=
  ⟨fun _ => rfl, fun _ _ => Iff.rfl⟩

/-- The update of the device after a verified assertion. A counter that its column does not take
is refused. -/
def countUse (deviceId : String) (counter now : Int) : Query TrustedDevice := do
  Handler.ensure (Prisma.Int4 counter) .p2020
  Prisma.trustedDevice.update deviceId (setCounter counter now) (setCounter_unindexed counter now)

/-- `verifyAuthentication`, answering the device row as it was read. -/
def verifyAuthentication (now : Int) (expectedChallenge : String)
    (response : AuthenticationResponse) : Query TrustedDevice := do
  let found ← Prisma.trustedDevice.findFirst (·.webauthnCredentialId = response.id)
  let device ← Handler.expect found (.unauthorized "등록되지 않은 기기입니다.")
  let newCounter ← verification (response.verify expectedChallenge device)
    (fun message => "생체인증 검증 실패: " ++ message) "생체인증을 검증할 수 없습니다."
  let _ ← countUse device.id newCounter now
  pure device

def removeDevice (userId deviceId : String) : Query Unit := do
  let found ← Prisma.trustedDevice.findFirst fun device =>
    device.id = deviceId ∧ device.userId = userId
  let _ ← Handler.expect found (.notFound "등록된 기기를 찾을 수 없습니다.")
  let _ ← Prisma.trustedDevice.delete deviceId

/-! ## Outcomes -/

theorem verification_ok_iff {α : Type} {answer : Except String (Option α)}
    {failed : String → String} {unverified : String} {info : α} {db db' : Database} :
    verification answer failed unverified db = (.ok info, db') ↔
      answer = .ok (some info) ∧ db = db' := by
  unfold verification
  split <;> simp

theorem verification_error {α : Type} {answer : Except String (Option α)}
    {failed : String → String} {unverified : String} {e : Exception} {db db' : Database}
    (hrun : verification answer failed unverified db = (.error e, db')) : db' = db := by
  unfold verification at hrun
  split at hrun
  · exact (Prod.mk.inj hrun).2.symm
  · exact (Prod.mk.inj hrun).2.symm
  · simp at hrun

theorem countUse_of_int4 {deviceId : String} {counter : Int} (hcounter : Prisma.Int4 counter)
    (now : Int) (db : Database) : countUse deviceId counter now db =
      Prisma.trustedDevice.update deviceId (setCounter counter now)
        (setCounter_unindexed counter now) db := by
  rw [countUse, Handler.ensure_bind, if_pos hcounter]

theorem countUse_of_not_int4 {deviceId : String} {counter : Int}
    (hcounter : ¬ Prisma.Int4 counter) (now : Int) (db : Database) :
    countUse deviceId counter now db = (.error .p2020, db) := by
  rw [countUse, Handler.ensure_bind, if_neg hcounter]

theorem countUse_ok {deviceId : String} {counter now : Int} {db db' : Database}
    {device : TrustedDevice} (hrun : countUse deviceId counter now db = (.ok device, db')) :
    Prisma.Int4 counter ∧ db' = Prisma.trustedDevice.withTable db (db.trustedDevices.modify deviceId
      (setCounter counter now) (setCounter_unindexed counter now)) := by
  by_cases hcounter : Prisma.Int4 counter
  · rw [countUse_of_int4 hcounter] at hrun
    exact ⟨hcounter, ((Model.update_ok_iff _).mp hrun).2⟩
  · rw [countUse_of_not_int4 hcounter] at hrun
    exact absurd (congrArg Prod.fst hrun) (by simp)

theorem countUse_error {deviceId : String} {counter now : Int} {db db' : Database} {e : Exception}
    (hrun : countUse deviceId counter now db = (.error e, db')) : db' = db := by
  by_cases hcounter : Prisma.Int4 counter
  · rw [countUse_of_int4 hcounter] at hrun
    exact ((Model.update_error_iff _).mp hrun).2.2
  · rw [countUse_of_not_int4 hcounter] at hrun
    exact (congrArg Prod.snd hrun).symm

/-- A verified assertion answers a stored device and changes only that row. -/
theorem verifyAuthentication_ok {now : Int} {expectedChallenge : String}
    {response : AuthenticationResponse} {db db' : Database} {device : TrustedDevice}
    (hrun : verifyAuthentication now expectedChallenge response db = (.ok device, db')) :
    db.trustedDevices.rows.find? (·.webauthnCredentialId = response.id) = some device ∧
      ∃ counter, (response.verify expectedChallenge device = .ok (some counter) ∧
          Prisma.Int4 counter) ∧
        db' = Prisma.trustedDevice.withTable db (db.trustedDevices.modify device.id
          (setCounter counter now) (setCounter_unindexed counter now)) := by
  rw [verifyAuthentication, Handler.bind_ok_iff] at hrun
  obtain ⟨found, _, hfind, hrun⟩ := hrun
  obtain ⟨hfound, rfl⟩ := Prod.mk.inj hfind
  rw [Handler.bind_ok_iff] at hrun
  obtain ⟨device', _, hexpect, hrun⟩ := hrun
  obtain ⟨rfl, rfl⟩ := Handler.expect_ok_iff.mp hexpect
  have hfirst := Except.ok.inj hfound
  rw [Handler.bind_ok_iff] at hrun
  obtain ⟨counter, _, hverify, hrun⟩ := hrun
  obtain ⟨hanswer, rfl⟩ := verification_ok_iff.mp hverify
  rw [Handler.bind_ok_iff] at hrun
  obtain ⟨_, _, hupdate, hrun⟩ := hrun
  obtain ⟨hcounter, rfl⟩ := countUse_ok hupdate
  obtain ⟨hdevice, rfl⟩ := Prod.mk.inj hrun
  obtain rfl := Except.ok.inj hdevice
  exact ⟨hfirst, counter, ⟨hanswer, hcounter⟩, rfl⟩

/-- An assertion that is refused changes nothing. -/
theorem verifyAuthentication_error {now : Int} {expectedChallenge : String}
    {response : AuthenticationResponse} {db db' : Database} {e : Exception}
    (hrun : verifyAuthentication now expectedChallenge response db = (.error e, db')) :
    db' = db := by
  rw [verifyAuthentication, Handler.bind_error_iff] at hrun
  rcases hrun with hfind | ⟨found, _, hfind, hrun⟩
  · simp at hfind
  obtain ⟨-, rfl⟩ := Prod.mk.inj hfind
  rw [Handler.bind_error_iff] at hrun
  rcases hrun with hexpect | ⟨device, _, hexpect, hrun⟩
  · exact (Handler.expect_error_iff.mp hexpect).2.2.symm
  obtain ⟨-, rfl⟩ := Handler.expect_ok_iff.mp hexpect
  rw [Handler.bind_error_iff] at hrun
  rcases hrun with hverify | ⟨counter, _, hverify, hrun⟩
  · exact verification_error hverify
  obtain ⟨-, rfl⟩ := verification_ok_iff.mp hverify
  rw [Handler.bind_error_iff] at hrun
  rcases hrun with hupdate | ⟨_, _, -, hrun⟩
  · exact countUse_error hupdate
  · simp at hrun

/-- The first device with the credential, if the library verifies the response with it and the
counter fits its column. -/
theorem verifyAuthentication_of_find {now : Int} {expectedChallenge : String}
    {response : AuthenticationResponse} {db : Database} {device : TrustedDevice} {counter : Int}
    (hfind : db.trustedDevices.rows.find? (·.webauthnCredentialId = response.id) = some device)
    (hverify : response.verify expectedChallenge device = .ok (some counter))
    (hcounter : Prisma.Int4 counter) :
    verifyAuthentication now expectedChallenge response db = (.ok device,
      Prisma.trustedDevice.withTable db (db.trustedDevices.modify device.id
        (setCounter counter now) (setCounter_unindexed counter now))) := by
  have hstored : db.trustedDevices.find? device.id = some device :=
    Table.find?_eq_some_iff.mpr ⟨List.mem_of_find?_eq_some hfind, rfl⟩
  have hupdate : countUse device.id counter now db = (.ok (setCounter counter now device), _) :=
    (countUse_of_int4 hcounter now db).trans
      ((Model.update_ok_iff _).mpr ⟨⟨device, hstored, rfl⟩, rfl⟩)
  have hfirst : (Prisma.trustedDevice.table db).rows.find? (·.webauthnCredentialId = response.id) =
      some device := hfind
  unfold verifyAuthentication
  rw [Model.findFirst_bind, hfirst, Handler.expect_some_bind,
    Handler.bind_of_ok (verification_ok_iff.mpr ⟨hverify, rfl⟩), Handler.bind_of_ok hupdate]
  rfl

/-- A verified registration adds a device of the user with the credential that was read. -/
theorem verifyRegistration_ok {now : Int} {freshId userId : String} {deviceLabel : Option String}
    {expectedChallenge : String} {response : RegistrationResponse} {db db' : Database}
    {device : TrustedDevice}
    (hrun : verifyRegistration now freshId userId deviceLabel expectedChallenge response db =
      (.ok device, db')) :
    device.id = freshId ∧ device.userId = userId ∧
      (∃ info, response.verify expectedChallenge = .ok (some info) ∧ Prisma.Int4 info.2.2 ∧
        device.webauthnCredentialId = info.1) ∧
      ∃ table, db.trustedDevices.insert? device = some table ∧
        db' = { db with trustedDevices := table } := by
  rw [verifyRegistration, Handler.bind_ok_iff] at hrun
  obtain ⟨⟨credentialId, publicKey, counter⟩, _, hverify, hrun⟩ := hrun
  obtain ⟨hanswer, rfl⟩ := verification_ok_iff.mp hverify
  obtain ⟨label, _, hexpect, hrun⟩ := Handler.bind_ok_iff.mp hrun
  obtain ⟨-, rfl⟩ := Handler.expect_ok_iff.mp hexpect
  rcases Handler.recover_ok_iff.mp hrun with hcreate | ⟨e, _, -, hraise⟩
  · obtain ⟨_, _, hensure, hcreate⟩ := Handler.bind_ok_iff.mp hcreate
    obtain ⟨hcounter, rfl⟩ := Handler.ensure_ok_iff.mp hensure
    obtain ⟨rfl, -, table, hinsert, rfl⟩ := (Model.create_ok_iff _).mp hcreate
    exact ⟨rfl, rfl, ⟨_, hanswer, hcounter, rfl⟩, table, hinsert, rfl⟩
  · split at hraise <;> exact absurd (congrArg Prod.fst hraise) (by simp)

/-- A registration that is refused changes nothing. -/
theorem verifyRegistration_error {now : Int} {freshId userId : String}
    {deviceLabel : Option String} {expectedChallenge : String} {response : RegistrationResponse}
    {db db' : Database} {e : Exception}
    (hrun : verifyRegistration now freshId userId deviceLabel expectedChallenge response db =
      (.error e, db')) : db' = db := by
  rw [verifyRegistration, Handler.bind_error_iff] at hrun
  rcases hrun with hverify | ⟨info, _, hverify, hrun⟩
  · exact verification_error hverify
  obtain ⟨-, rfl⟩ := verification_ok_iff.mp hverify
  rcases Handler.bind_error_iff.mp hrun with hexpect | ⟨label, _, hexpect, hrun⟩
  · exact (Handler.expect_error_iff.mp hexpect).2.2.symm
  obtain ⟨-, rfl⟩ := Handler.expect_ok_iff.mp hexpect
  obtain ⟨e', middle, hcreate, hraise⟩ := Handler.recover_error_iff.mp hrun
  have hmiddle : middle = db := by
    rcases Handler.bind_error_iff.mp hcreate with hensure | ⟨_, _, hensure, hcreate⟩
    · exact (Handler.ensure_error_iff.mp hensure).2.2.symm
    · obtain ⟨-, rfl⟩ := Handler.ensure_ok_iff.mp hensure
      exact (Model.create_error _ hcreate).1
  subst hmiddle
  split at hraise <;> exact (Prod.mk.inj hraise).2.symm

/-- A verified registration of a stored user is accepted, if its credential is new and its counter
fits its column. -/
theorem verifyRegistration_of_free {now : Int} {freshId userId deviceLabel : String}
    {expectedChallenge : String} {response : RegistrationResponse} {db : Database}
    {info : String × String × Int} (hverify : response.verify expectedChallenge = .ok (some info))
    (hcounter : Prisma.Int4 info.2.2)
    (huser : (db.users.find? userId).isSome = true)
    (hfree : ∀ device ∈ db.trustedDevices.rows,
      device.id ≠ freshId ∧ device.webauthnCredentialId ≠ info.1) :
    ∃ device db', verifyRegistration now freshId userId (some deviceLabel) expectedChallenge
      response db = (.ok device, db') := by
  obtain ⟨credentialId, publicKey, counter⟩ := info
  let device : TrustedDevice :=
    ⟨freshId, userId, deviceLabel, credentialId, publicKey, counter, now, none⟩
  have hnew : db.trustedDevices.insert? device ≠ none := by
    intro hnone
    obtain ⟨other, hother, hclash⟩ := Table.insert?_eq_none_iff.mp hnone
    rcases hclash with hid | hcredential
    · exact (hfree other hother).1 hid
    · exact (hfree other hother).2 hcredential
  obtain ⟨table, hinsert⟩ := Option.ne_none_iff_exists'.mp hnew
  have hcreate : Prisma.trustedDevice.create device db =
      (.ok device, Prisma.trustedDevice.withTable db table) :=
    (Model.create_ok_iff _).mpr ⟨rfl, huser, table, hinsert, rfl⟩
  refine ⟨device, Prisma.trustedDevice.withTable db table, ?_⟩
  rw [verifyRegistration, Handler.bind_of_ok (verification_ok_iff.mpr ⟨hverify, rfl⟩)]
  refine Handler.recover_ok_iff.mpr (.inl ?_)
  rw [Handler.ensure_bind, if_pos hcounter]
  exact hcreate

theorem createRegistrationOptions_ok {userId challenge : String} {db db' : Database}
    {options : String × List String}
    (hrun : createRegistrationOptions userId challenge db = (.ok options, db')) :
    db' = db ∧ (∃ user, db.users.find? userId = some user) ∧ options =
      (challenge, (db.trustedDevices.rows.filter (·.userId = userId)).map
        TrustedDevice.webauthnCredentialId) := by
  rw [createRegistrationOptions, Model.findUnique_bind, Handler.bind_ok_iff] at hrun
  obtain ⟨user, _, hexpect, hrun⟩ := hrun
  obtain ⟨hfind, rfl⟩ := Handler.expect_ok_iff.mp hexpect
  rw [Model.findMany_bind] at hrun
  obtain ⟨hoptions, rfl⟩ := Prod.mk.inj hrun
  exact ⟨rfl, ⟨user, hfind⟩, (Except.ok.inj hoptions).symm⟩

end WebAuthnService

end MyAccountController
