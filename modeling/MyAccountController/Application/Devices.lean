import MyAccountController.Application.Logins
import MyAccountController.Web.RegistrationFailures

/-! # From registration to revocation

A device is stored by a registration in an unlocked session of its user. It stays
what it was but for its counter, until its user removes it or changes the master
password, and from then on nothing that it signs is accepted. A nested write of an
account's owner may reach the devices too, so the events make none.
-/

namespace MyAccountController

open Foundation Handler Database

variable {R : Runtime}

/-! ## One event -/

/-- The same credential of the same user; the counter and the time of its last use may differ. -/
structure SameDevice (device other : TrustedDevice) : Prop where
  id : other.id = device.id
  userId : other.userId = device.userId
  credentialId : other.webauthnCredentialId = device.webauthnCredentialId
  publicKey : other.webauthnPublicKey = device.webauthnPublicKey

namespace SameDevice

theorem refl (device : TrustedDevice) : SameDevice device device := ⟨rfl, rfl, rfl, rfl⟩

end SameDevice

namespace Database

/-- The device is stored, whatever its counter. -/
def Holds (db : Database) (device : TrustedDevice) : Prop :=
  ∃ row ∈ db.trustedDevices.rows, SameDevice device row

/-- No device is stored that was not. -/
def AddsNoDevice (db db' : Database) : Prop := ∀ device, db'.Holds device → db.Holds device

theorem AddsNoDevice.refl (db : Database) : AddsNoDevice db db := fun _ => id

theorem AddsNoDevice.trans (a b c : Database) (hab : AddsNoDevice a b) (hbc : AddsNoDevice b c) :
    AddsNoDevice a c :=
  fun device hdevice => hab device (hbc device hdevice)

theorem IdentityWrite.addsNoDevice {db db' : Database} (hwrite : IdentityWrite db db') :
    AddsNoDevice db db' := by
  cases hwrite with
  | userCreated | userChanged | reencrypted => exact AddsNoDevice.refl db
  | deviceUsed id counter now =>
      rintro device ⟨row, hrow, hsame⟩
      have hf := WebAuthnService.setCounter_unindexed counter now
      change row ∈ (db.trustedDevices.modify id _ hf).rows at hrow
      rw [Table.rows_modify] at hrow
      obtain ⟨before, hbefore, rfl⟩ := List.mem_map.mp hrow
      refine ⟨before, hbefore, ?_⟩
      split at hsame
      · exact ⟨hsame.id, hsame.userId, hsame.credentialId, hsame.publicKey⟩
      · exact hsame
  | devicesRemoved drop =>
      exact fun device ⟨row, hrow, hsame⟩ => ⟨row, List.mem_of_mem_filter hrow, hsame⟩

end Database

/-- What a request to register a device brings. -/
structure RegistrationRequest where
  freshId : String
  deviceLabel : Option String
  response : RegistrationResponse

def AppRequest.registration : AppRequest R → Option RegistrationRequest
  | .auth (.webauthnRegister freshId deviceLabel response)
  | .user (.register freshId deviceLabel response) => some ⟨freshId, deviceLabel, response⟩
  | _ => none

theorem AppRequest.route_registration {unicode : UnicodeData} {sessionId : String} {now : Int}
    {sent : AppRequest R} {registration : RegistrationRequest}
    (hregistration : sent.registration = some registration) :
    sent.route unicode sessionId now = (do
      let _ ← AuthController.webauthnRegister sessionId now registration.freshId
        registration.deviceLabel registration.response) := by
  unfold AppRequest.registration at hregistration
  split at hregistration
  · obtain rfl := Option.some.inj hregistration
    rfl
  · obtain rfl := Option.some.inj hregistration
    rfl
  · contradiction

/-- Only a registration adds a device. -/
theorem addsNoDevice_appStep {unicode : UnicodeData} {server : Server R} {event : AppEvent R}
    (hnested : event.NoNestedWrite)
    (hother : ∀ sessionId now sent, event = .request sessionId now sent →
      sent.registration = none) :
    AddsNoDevice server.db (server.appStep unicode event).db := by
  refine (Server.appStep_writes unicode server hnested).related AddsNoDevice.refl
    AddsNoDevice.trans ?_
  intro db db' hmay
  have haccount : AccountWrite db db' → AddsNoDevice db db' := fun hwrite => by
    cases hwrite <;> exact AddsNoDevice.refl db
  have hmail : MailWrite db db' → AddsNoDevice db db' := fun hwrite => by
    cases hwrite <;> exact AddsNoDevice.refl db
  rcases event with ⟨sessionId, now, request | request⟩ | ⟨providers, faults, freshId⟩ | _ | _
  · cases request with
    | webauthnRegister => exact absurd (hother _ _ _ rfl) (by simp [AppRequest.registration])
    | _ => exact IdentityWrite.addsNoDevice hmay
  · cases request with
    | account => exact haccount hmay
    | register => exact absurd (hother _ _ _ rfl) (by simp [AppRequest.registration])
    | removeDevice => exact IdentityWrite.addsNoDevice hmay
    | _ => exact hmail hmay
  · exact hmail hmay
  · exact hmay.elim
  · exact hmay.elim

/-- A registration of the user, by a session that is unlocked as the user, for the challenge that
the session was given. -/
structure Registers (server : Server R) (sessionId : String) (now : Int)
    (registration : RegistrationRequest) (device : TrustedDevice) : Prop where
  admitted : ∃ key, Admits server sessionId now device.userId key
  id : device.id = registration.freshId
  verified : ∃ challenge counter,
    (server.sessions sessionId).currentWebauthnChallenge = some challenge ∧
      registration.response.verify challenge =
        .ok (some (device.webauthnCredentialId, device.webauthnPublicKey, counter))

section Steps

variable {unicode : UnicodeData} {server : Server R} {device : TrustedDevice}

/-- The row that a verified registration stores. -/
theorem verifyRegistration_row {now : Int} {freshId userId : String} {deviceLabel : Option String}
    {expectedChallenge : String} {response : RegistrationResponse} {db db' : Database}
    (hrun : WebAuthnService.verifyRegistration now freshId userId deviceLabel expectedChallenge
      response db = (.ok device, db')) :
    ∃ counter, response.verify expectedChallenge =
      .ok (some (device.webauthnCredentialId, device.webauthnPublicKey, counter)) := by
  rw [WebAuthnService.verifyRegistration, bind_ok_iff] at hrun
  obtain ⟨⟨credentialId, publicKey, counter⟩, _, hverify, hrun⟩ := hrun
  obtain ⟨hanswer, rfl⟩ := WebAuthnService.verification_ok_iff.mp hverify
  obtain ⟨label, _, -, hrun⟩ := bind_ok_iff.mp hrun
  rcases recover_ok_iff.mp hrun with hcreate | ⟨e, _, -, hraise⟩
  · obtain ⟨_, _, -, hcreate⟩ := bind_ok_iff.mp hcreate
    obtain ⟨rfl, -⟩ := (Model.create_ok_iff _).mp hcreate
    exact ⟨counter, hanswer⟩
  · split at hraise <;> exact absurd (congrArg Prod.fst hraise) (by simp)

/-- A registration stores its device or nothing. -/
theorem registration_holds {sessionId : String} {now : Int} {sent : AppRequest R}
    {registration : RegistrationRequest} (hregistration : sent.registration = some registration)
    (hafter : (server.appStep unicode (.request sessionId now sent)).db.Holds device) :
    server.db.Holds device ∨ Registers server sessionId now registration device := by
  change ((sent.route unicode sessionId now) (server.context sessionId)).2.db.Holds device at hafter
  rw [AppRequest.route_registration hregistration, bind_pure_state] at hafter
  rcases hrun : AuthController.webauthnRegister sessionId now registration.freshId
    registration.deviceLabel registration.response (server.context sessionId)
    with ⟨e | stored, ctx'⟩
  · rw [hrun, webauthnRegister_error hrun] at hafter
    exact .inl hafter
  rw [hrun] at hafter
  obtain ⟨userId, challenge, db', hlogged, hunlocked, hkey, hchallenge, hverify, rfl⟩ :=
    webauthnRegister_ok_iff.mp hrun
  obtain ⟨hid, huser, -, table, hinsert, rfl⟩ := WebAuthnService.verifyRegistration_ok hverify
  obtain ⟨counter, hanswer⟩ := verifyRegistration_row hverify
  obtain ⟨row, hrow, hsame⟩ := hafter
  change row ∈ table.rows at hrow
  rw [(Table.insert?_eq_some_iff.mp hinsert).2, List.mem_append, List.mem_singleton] at hrow
  rcases hrow with hbefore | rfl
  · exact .inl ⟨row, hbefore, hsame⟩
  right
  obtain ⟨key, hkey⟩ := Option.isSome_iff_exists.mp hkey
  constructor
  · refine ⟨key, admits_iff.mpr ⟨?_, hunlocked, hkey⟩⟩
    rw [← hsame.userId, huser]
    exact hlogged
  · exact hsame.id.symm.trans hid
  · refine ⟨challenge, counter, hchallenge.1, ?_⟩
    rw [hanswer, hsame.credentialId, hsame.publicKey]

/-- The event takes the device from its user: the user removes it, or changes the master
password. -/
inductive Revokes (unicode : UnicodeData) (server : Server R) (device : TrustedDevice)
    (event : AppEvent R) : Prop where
  | removed (sessionId : String) (now : Int) (key : R.Key) (sent : AppRequest R)
      (hevent : event = .request sessionId now sent)
      (hadmits : Admits server sessionId now device.userId key)
      (hsent : sent = .auth (.webauthnRemove device.id) ∨ sent = .user (.removeDevice device.id))
  | changed (sessionId : String) (now : Int) (key : R.Key)
      (currentPassword newPassword : Option String) (fresh : FreshSecrets R)
      (hevent : event = .request sessionId now
        (.auth (.changeMasterPassword currentPassword newPassword fresh)))
      (hadmits : Admits server sessionId now device.userId key)
      (hok : ((AuthRequest.changeMasterPassword currentPassword newPassword fresh).route sessionId
        now (server.context sessionId)).1 = .ok ())

/-- A device that its user removes is gone, and one of another user is not removed. -/
theorem removeDevice_gone {userId deviceId : String} {db : Database} {row : TrustedDevice}
    (hrow : row ∈ (WebAuthnService.removeDevice userId deviceId db).2.trustedDevices.rows) :
    ¬ (row.id = deviceId ∧ row.userId = userId) := by
  unfold WebAuthnService.removeDevice at hrow
  rw [Model.findFirst_bind] at hrow
  cases hfound : (Prisma.trustedDevice.table db).rows.find? fun device =>
      device.id = deviceId ∧ device.userId = userId with
  | none =>
      rw [hfound] at hrow
      simpa using List.find?_eq_none.mp hfound row hrow
  | some device =>
      obtain ⟨hfind, -⟩ := Table.find?_where.mp hfound
      have hdelete : Prisma.trustedDevice.delete deviceId db = (.ok device, _) :=
        (Model.delete_ok_iff _).mpr ⟨hfind, rfl⟩
      rw [hfound, expect_some_bind, bind_pure_state, hdelete] at hrow
      have hkept : row ∈ ((Prisma.trustedDevice.table db).delete deviceId).rows := hrow
      rw [Table.rows_delete, List.mem_filter] at hkept
      have hne : ¬ Entity.key row = deviceId := by simpa using hkept.2
      exact fun hsame => hne hsame.1

/-- A new master password leaves the user no device. -/
theorem rotateKeys_gone {userId newHash : String} {secrets : List AuthService.AccountSecret}
    {oldKey newKey : R.Key} {fresh : FreshSecrets R} {now : Int} {db db' : Database}
    {revoked : Nat} (hrun : AuthService.rotateKeys userId secrets oldKey newKey newHash fresh now db =
      (.ok revoked, db')) {row : TrustedDevice} (hrow : row ∈ db'.trustedDevices.rows) :
    row.userId ≠ userId := by
  rw [AuthService.rotateKeys, bind_ok_iff] at hrun
  obtain ⟨_, db₁, -, hrun⟩ := hrun
  obtain ⟨_, db₂, -, hrun⟩ := bind_ok_iff.mp hrun
  rw [Model.deleteMany_run] at hrun
  obtain ⟨-, rfl⟩ := Prod.mk.inj hrun
  simpa using (List.mem_filter.mp hrow).2

/-- A device that was revoked is not stored any more. -/
theorem not_holds_of_revokes {event : AppEvent R}
    (hrevokes : Revokes unicode server device event) :
    ¬ (server.appStep unicode event).db.Holds device := by
  rintro ⟨row, hrow, hsame⟩
  cases hrevokes with
  | removed sessionId now key sent hevent hadmits hsent =>
      subst hevent
      have hroute : sent.route unicode sessionId now =
          AuthController.webauthnRemove sessionId now device.id := by
        rcases hsent with rfl | rfl <;> rfl
      have hserve := behindUnlockedGuard_db hadmits fun userId _ =>
        WebAuthnService.removeDevice userId device.id
      change row ∈ (server.serve sessionId (sent.route unicode sessionId now)).2.db.trustedDevices.rows
        at hrow
      rw [hroute] at hrow
      change row ∈ (server.serve sessionId (behindUnlockedGuard sessionId now fun userId _ =>
        WebAuthnService.removeDevice userId device.id)).2.db.trustedDevices.rows at hrow
      rw [behindUnlockedGuard_db hadmits] at hrow
      exact removeDevice_gone hrow ⟨hsame.id, hsame.userId⟩
  | changed sessionId now key currentPassword newPassword fresh hevent hadmits hok =>
      subst hevent
      obtain ⟨ctx', hrun⟩ := exists_run hok
      change row ∈ ((AuthRequest.changeMasterPassword currentPassword newPassword fresh).route
        sessionId now (server.context sessionId)).2.db.trustedDevices.rows at hrow
      rw [hrun] at hrow
      rcases discard_run hrun with ⟨revoked, hchange, -⟩ | ⟨e, -, herror⟩
      · obtain ⟨⟨userId, _⟩, admitted, hguard, hchange⟩ := bind_ok_iff.mp hchange
        obtain ⟨hlogged, -, -, -⟩ := unlockedGuard_ok_iff.mp hguard
        obtain ⟨user, current, new, db', -, -, hrotate, rfl⟩ :=
          AuthService.changeMasterPassword_ok hchange
        have hgone : row.userId ≠ userId := rotateKeys_gone hrotate hrow
        obtain rfl := Option.some.inj ((admits_iff.mp hadmits).1.symm.trans hlogged)
        exact hgone hsame.userId
      · contradiction

end Steps

/-! ## Runs -/

/-- Every device that is stored was registered by its user, whose session was unlocked, and its
user has neither removed it nor changed the master password since. -/
theorem device_registered (unicode : UnicodeData) (events : List (AppEvent R))
    (hnested : ∀ event ∈ events, event.NoNestedWrite) (device : TrustedDevice)
    (hstored : device ∈ (Server.reached unicode events).db.trustedDevices.rows) :
    Since (Server.appStep unicode) (Server.initial R)
      (fun before event => ∃ sessionId now sent registration,
        event = .request sessionId now sent ∧ sent.registration = some registration ∧
          Registers (Server.reached unicode before) sessionId now registration device)
      (fun server event => ¬ Revokes unicode server device event) events := by
  refine since_of_run (fun server : Server R => server.db.Holds device) ?_ ?_
    ⟨device, hstored, SameDevice.refl device⟩
  · rintro ⟨row, hrow, -⟩
    exact absurd hrow List.not_mem_nil
  intro before event hbefore hafter
  have hplain : event.NoNestedWrite := hnested event (hbefore.subset List.mem_concat_self)
  have hkept : ¬ Revokes unicode (Server.reached unicode before) device event :=
    fun hrevokes => not_holds_of_revokes hrevokes hafter
  by_cases hother : ∀ sessionId now sent, event = .request sessionId now sent →
      sent.registration = none
  · exact .inr ⟨addsNoDevice_appStep hplain hother device hafter, hkept⟩
  push Not at hother
  obtain ⟨sessionId, now, sent, rfl, hsome⟩ := hother
  obtain ⟨registration, hregistration⟩ := Option.ne_none_iff_exists'.mp hsome
  rcases registration_holds hregistration hafter with hbefore | hregisters
  · exact .inr ⟨hbefore, hkept⟩
  · exact .inl ⟨sessionId, now, sent, registration, rfl, hregistration, hregisters⟩

/-! ## A first device -/

namespace Registered

def response : RegistrationResponse where
  verify challenge := .ok (if challenge = "challenge" then some ("credential", "key", 0) else none)

/-- The session that has set up the account registers a device. -/
def events : List (AppEvent symbolicRuntime) := Signup.events ++
  [.request "sid" 1 (.auth (.webauthnRegisterOptions "challenge")),
    .request "sid" 2 (.auth (.webauthnRegister "d" (some "laptop") response))]

def device : TrustedDevice where
  id := "d"
  userId := "u"
  deviceLabel := "laptop"
  webauthnCredentialId := "credential"
  webauthnPublicKey := "key"
  counter := 0
  createdAt := 2
  lastUsedAt := none

theorem events_noNestedWrite : ∀ event ∈ events, event.NoNestedWrite := by
  simp [events, Signup.events, AppEvent.NoNestedWrite, AppRequest.NoNestedWrite]

theorem device_mem : device ∈ (Server.reached asciiData events).db.trustedDevices.rows := by
  decide +kernel

end Registered

open Registered in
theorem device_registered_here :
    Since (Server.appStep asciiData) (Server.initial symbolicRuntime)
      (fun before event => ∃ sessionId now sent registration,
        event = .request sessionId now sent ∧ sent.registration = some registration ∧
          Registers (Server.reached asciiData before) sessionId now registration device)
      (fun server event => ¬ Revokes asciiData server device event) events :=
  device_registered asciiData events events_noNestedWrite device device_mem

end MyAccountController
