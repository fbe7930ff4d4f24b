import MyAccountController.Common.Runtime
import MyAccountController.Mail.MailProvider

/-! # `GmailProvider`

The Google client and the Gmail API are parameters: they answer each request
with a result or an exception. The tokens of an account are stored encrypted
under a key of the server.
-/

namespace MyAccountController

open Foundation

/-- The credentials of an `OAuth2Client`. -/
structure GoogleCredentials where
  accessToken : Option String
  refreshToken : Option String
  expiryDate : Option Int

/-- `gmail_v1.Schema$MessagePartHeader`. -/
structure GmailHeader where
  name : Option String
  value : Option String

/-- `gmail_v1.Schema$MessagePart`. -/
inductive GmailPart where
  | mk (filename : Option String) (headers : Option (List GmailHeader))
      (parts : Option (List GmailPart))

namespace GmailPart

def filename : GmailPart → Option String
  | mk filename _ _ => filename

def headers : GmailPart → Option (List GmailHeader)
  | mk _ headers _ => headers

def parts : GmailPart → Option (List GmailPart)
  | mk _ _ parts => parts

end GmailPart

/-- `gmail_v1.Schema$Message`. -/
structure GmailMessage where
  id : String
  payload : Option GmailPart
  snippet : Option String
  internalDate : Option String

/-- One page of `messages.list`. -/
structure GmailPage where
  messageIds : Option (List String)
  nextPageToken : Option String

/-- The answers of Google to the requests of a client with some credentials. -/
structure GoogleApi where
  getAccessToken : GoogleCredentials → Except Exception GoogleCredentials
  messagesList : GoogleCredentials → (maxResults : Nat) → (q : String) → Except Exception GmailPage
  /-- `format: 'metadata'` with the named headers. -/
  messagesGet : GoogleCredentials → (id : String) → (metadataHeaders : List String) →
    Except Exception GmailMessage
  messagesTrash : GoogleCredentials → (id : String) → Except Exception Unit
  messagesModify : GoogleCredentials → (id : String) → (addLabelIds : List String) →
    Except Exception Unit

/-- What the provider takes from its surroundings. `none` is an invalid date. -/
structure GmailEnvironment (R : Runtime) where
  unicode : UnicodeData
  google : GoogleApi
  tokenKey : R.Key
  /-- `new Date(text)`. -/
  dateOfText : String → Option Int
  /-- `new Date(Number(text))`. -/
  dateOfNumber : String → Option Int
  /-- The nonce drawn when the token of an account is stored. -/
  iv : (emailAccountId : String) → R.Iv

namespace GmailProvider

variable {R : Runtime} (env : GmailEnvironment R)

/-- `this.crypto.decrypt(payload, key)`. -/
def decryptToken (payload : String) : Except Exception String :=
  match R.decrypt payload env.tokenKey with
  | some token => .ok token
  | none => .error (.error "Unsupported state or unable to authenticate data")

/-- Store a new access token. An expiry of 0 counts as none. -/
def storeToken (emailAccountId accessToken : String) (expiryDate : Option Int) : Query Unit := do
  let encryptedAccessToken := R.encrypt accessToken env.tokenKey (env.iv emailAccountId)
  let tokenExpiresAt := expiryDate.filter (· ≠ 0)
  let _ ← Prisma.emailAccount.update emailAccountId
    (EmailAccount.setAccessToken encryptedAccessToken tokenExpiresAt)
    (EmailAccount.setAccessToken_unindexed encryptedAccessToken tokenExpiresAt)

def getAuthorizedClient (emailAccountId : String) : Query GoogleCredentials := do
  let found ← Prisma.emailAccount.findUnique emailAccountId
  let account ← Handler.expect found .p2025
  let previousAccessToken ← Handler.ofExcept (decryptToken env account.encryptedAccessToken)
  let refreshToken ← Handler.ofExcept (decryptToken env account.encryptedRefreshToken)
  let credentials ← Handler.ofExcept (env.google.getAccessToken
    ⟨some previousAccessToken, some refreshToken, account.tokenExpiresAt⟩)
  match credentials.accessToken with
  | some accessToken =>
      if accessToken ≠ "" ∧ accessToken ≠ previousAccessToken then
        storeToken env emailAccountId accessToken credentials.expiryDate
  | none => pure ()
  pure credentials

/-- `headers.find((h) => h.name?.toLowerCase() === name.toLowerCase())?.value ?? ''`. -/
def header (headers : List GmailHeader) (name : String) : String :=
  let found := headers.find? fun h =>
    h.name.map env.unicode.toLowerCase = some (env.unicode.toLowerCase name)
  (found.bind GmailHeader.value).getD ""

def toRawMailMessage (message : GmailMessage) : RawMailMessage :=
  let headers := (message.payload.bind GmailPart.headers).getD []
  { externalMessageId := message.id
    sender := header env headers "From"
    subject := header env headers "Subject"
    bodyPreview := message.snippet.getD ""
    receivedAt :=
      if header env headers "Date" ≠ "" then env.dateOfText (header env headers "Date")
      else env.dateOfNumber (message.internalDate.getD "0")
    hasAttachment := ((message.payload.bind GmailPart.parts).getD []).any fun part =>
      part.filename.any (· ≠ "") }

def listCandidateMessages (emailAccountId : String) : Query (List RawMailMessage) := do
  let auth ← getAuthorizedClient env emailAccountId
  let list ← Handler.ofExcept (env.google.messagesList auth 50 "newer_than:7d")
  let messages ← Handler.ofExcept ((list.messageIds.getD []).mapM fun id =>
    env.google.messagesGet auth id ["From", "Subject", "Date"])
  pure (messages.map (toRawMailMessage env))

def applyAction (emailAccountId externalMessageId : String) (action : MailAction) :
    Query Unit := do
  let auth ← getAuthorizedClient env emailAccountId
  match action with
  | .delete => Handler.ofExcept (env.google.messagesTrash auth externalMessageId)
  | .spam => Handler.ofExcept (env.google.messagesModify auth externalMessageId ["SPAM"])

/-- The provider as the registry holds it. -/
def provider : MailProvider where
  providerType := "gmail"
  listCandidateMessages := listCandidateMessages env
  applyAction := applyAction env

/-! ## What the provider writes -/

theorem storeToken_keeps (emailAccountId accessToken : String) (expiryDate : Option Int) :
    Handler.Keeps (RefreshesToken emailAccountId)
      (storeToken env emailAccountId accessToken expiryDate) := by
  intro db
  rw [storeToken, Handler.bind_pure_state]
  unfold Model.update
  cases Prisma.emailAccount.table db |>.find? emailAccountId with
  | none => exact RefreshesToken.refl _ db
  | some row => exact .inr ⟨_, _, rfl⟩

theorem getAuthorizedClient_keeps (emailAccountId : String) :
    Handler.Keeps (RefreshesToken emailAccountId) (getAuthorizedClient env emailAccountId) := by
  have hrefl := RefreshesToken.refl emailAccountId
  have htrans := RefreshesToken.trans emailAccountId
  apply Handler.keeps_bind htrans fun db => hrefl db
  intro found _ db _
  refine Handler.keeps_bind htrans (fun db => ?_) ?_ db
  · cases found <;> exact hrefl db
  intro account _ db _
  refine Handler.keeps_bind htrans (fun db => hrefl db) ?_ db
  intro previousAccessToken _ db _
  refine Handler.keeps_bind htrans (fun db => hrefl db) ?_ db
  intro refreshToken _ db _
  refine Handler.keeps_bind htrans (fun db => hrefl db) ?_ db
  intro credentials _ db _
  cases credentials.accessToken with
  | none => exact hrefl db
  | some accessToken =>
      dsimp only
      split
      · exact Handler.keeps_bind htrans (storeToken_keeps env emailAccountId accessToken _)
          (fun _ _ db _ => hrefl db) db
      · exact hrefl db

/-- The answer of `getAuthorizedClient` as a function of the account's row. -/
def authorizedClient (found : Option EmailAccount) : Except Exception GoogleCredentials := do
  let account ← found.elim (.error .p2025) .ok
  let previousAccessToken ← decryptToken env account.encryptedAccessToken
  let refreshToken ← decryptToken env account.encryptedRefreshToken
  env.google.getAccessToken
    ⟨some previousAccessToken, some refreshToken, account.tokenExpiresAt⟩

theorem storeToken_ok {emailAccountId : String} (accessToken : String) (expiryDate : Option Int)
    {db : Database} {account : EmailAccount}
    (hfind : db.emailAccounts.find? emailAccountId = some account) :
    ∃ db', storeToken env emailAccountId accessToken expiryDate db = (.ok (), db') := by
  refine ⟨_, Handler.bind_of_ok ((Model.update_ok_iff _).mpr ⟨⟨account, hfind, rfl⟩, rfl⟩)⟩

theorem getAuthorizedClient_result (emailAccountId : String) (db : Database) :
    (getAuthorizedClient env emailAccountId db).1 =
      authorizedClient env (db.emailAccounts.find? emailAccountId) := by
  rw [getAuthorizedClient, Model.findUnique_bind]
  show ((Handler.expect (db.emailAccounts.find? emailAccountId) _ >>= _) db).1 = _
  cases hfind : db.emailAccounts.find? emailAccountId with
  | none => rfl
  | some account =>
      show ((Handler.ofExcept (decryptToken env account.encryptedAccessToken) >>= _) db).1 =
        (decryptToken env account.encryptedAccessToken >>= _)
      cases decryptToken env account.encryptedAccessToken with
      | error e => rfl
      | ok previousAccessToken =>
          show ((Handler.ofExcept (decryptToken env account.encryptedRefreshToken) >>= _) db).1 =
            (decryptToken env account.encryptedRefreshToken >>= _)
          cases decryptToken env account.encryptedRefreshToken with
          | error e => rfl
          | ok refreshToken =>
              show ((Handler.ofExcept (env.google.getAccessToken
                ⟨some previousAccessToken, some refreshToken, account.tokenExpiresAt⟩) >>= _) db).1 =
                env.google.getAccessToken
                  ⟨some previousAccessToken, some refreshToken, account.tokenExpiresAt⟩
              cases env.google.getAccessToken
                ⟨some previousAccessToken, some refreshToken, account.tokenExpiresAt⟩ with
              | error e => rfl
              | ok credentials =>
                  rw [Handler.ofExcept_ok_bind]
                  cases credentials.accessToken with
                  | none => rfl
                  | some accessToken =>
                      dsimp only
                      split
                      · obtain ⟨db', hstore⟩ :=
                          storeToken_ok env accessToken credentials.expiryDate hfind
                        rw [Handler.bind_of_ok hstore]
                        rfl
                      · rfl

/-- What is computed from the client is read from the account's row only. -/
theorem bind_client_result {α : Type} (emailAccountId : String)
    {f : GoogleCredentials → Query α} {g : GoogleCredentials → Except Exception α}
    (hf : ∀ auth db, (f auth db).1 = g auth) (db : Database) :
    ((getAuthorizedClient env emailAccountId >>= f) db).1 =
      (authorizedClient env (db.emailAccounts.find? emailAccountId) >>= g) := by
  rw [← getAuthorizedClient_result env emailAccountId db]
  rcases hrun : getAuthorizedClient env emailAccountId db with ⟨e | auth, db'⟩
  · rw [Handler.bind_of_error hrun]
    rfl
  · rw [Handler.bind_of_ok hrun]
    exact hf auth db'

/-- The messages that Google lists to a client. -/
def listedMessages (auth : GoogleCredentials) : Except Exception (List RawMailMessage) := do
  let list ← env.google.messagesList auth 50 "newer_than:7d"
  let messages ← (list.messageIds.getD []).mapM fun id =>
    env.google.messagesGet auth id ["From", "Subject", "Date"]
  pure (messages.map (toRawMailMessage env))

theorem listCandidateMessages_result (emailAccountId : String) (db : Database) :
    (listCandidateMessages env emailAccountId db).1 =
      (authorizedClient env (db.emailAccounts.find? emailAccountId) >>= listedMessages env) := by
  apply bind_client_result
  intro auth db
  rw [listedMessages]
  cases env.google.messagesList auth 50 "newer_than:7d" with
  | error e => rfl
  | ok list =>
      show ((Handler.ofExcept (List.mapM _ _) >>= _) db).1 = (List.mapM _ _ >>= _)
      cases (list.messageIds.getD []).mapM fun id =>
        env.google.messagesGet auth id ["From", "Subject", "Date"] <;> rfl

/-- Where Gmail answers for the id it is asked, an id names one listed message. -/
theorem listedMessages_named
    (hget : ∀ auth id headers message, env.google.messagesGet auth id headers = .ok message →
      message.id = id)
    {auth : GoogleCredentials} {messages : List RawMailMessage}
    (hlisted : listedMessages env auth = .ok messages) {message other : RawMailMessage}
    (hmessage : message ∈ messages) (hother : other ∈ messages)
    (hid : message.externalMessageId = other.externalMessageId) : message = other := by
  unfold listedMessages at hlisted
  cases hlist : env.google.messagesList auth 50 "newer_than:7d" with
  | error err =>
      rw [hlist] at hlisted
      contradiction
  | ok list =>
      rw [hlist] at hlisted
      replace hlisted : (((list.messageIds.getD []).mapM fun id =>
          env.google.messagesGet auth id ["From", "Subject", "Date"]) >>=
            fun full => pure (full.map (toRawMailMessage env))) = .ok messages := hlisted
      cases hmap : (list.messageIds.getD []).mapM fun id =>
          env.google.messagesGet auth id ["From", "Subject", "Date"] with
      | error err =>
          rw [hmap] at hlisted
          contradiction
      | ok full =>
          rw [hmap] at hlisted
          obtain rfl := Except.ok.inj hlisted
          obtain ⟨m, hm, rfl⟩ := List.mem_map.mp hmessage
          obtain ⟨m', hm', rfl⟩ := List.mem_map.mp hother
          obtain ⟨id, -, hgot⟩ := exists_of_mem_mapM hmap hm
          obtain ⟨id', -, hgot'⟩ := exists_of_mem_mapM hmap hm'
          have hids : id = id' := by
            rw [← hget _ _ _ _ hgot, ← hget _ _ _ _ hgot']
            exact hid
          rw [hids, hgot'] at hgot
          rw [Except.ok.inj hgot]

theorem provider_lawful : (provider env).Lawful where
  listCandidateMessages_reads emailAccountId db db' hsame := by
    show (listCandidateMessages env emailAccountId db).1 =
      (listCandidateMessages env emailAccountId db').1
    rw [listCandidateMessages_result, listCandidateMessages_result, hsame]
  listCandidateMessages emailAccountId := by
    have htrans := RefreshesToken.trans emailAccountId
    apply Handler.keeps_bind htrans (getAuthorizedClient_keeps env emailAccountId)
    intro auth _ db _
    refine Handler.keeps_bind htrans (fun db => RefreshesToken.refl _ db) ?_ db
    intro list _ db _
    refine Handler.keeps_bind htrans (fun db => RefreshesToken.refl _ db) ?_ db
    exact fun messages _ db _ => RefreshesToken.refl _ db
  applyAction emailAccountId externalMessageId action := by
    apply Handler.keeps_bind (RefreshesToken.trans emailAccountId)
      (getAuthorizedClient_keeps env emailAccountId)
    intro auth _ db _
    cases action <;> exact RefreshesToken.refl _ db

end GmailProvider

/-- The registry of the application. -/
def gmailRegistry {R : Runtime} (env : GmailEnvironment R) : MailProviderRegistry :=
  [GmailProvider.provider env]

theorem gmailRegistry_lawful {R : Runtime} (env : GmailEnvironment R) :
    (gmailRegistry env).Lawful := by
  intro provider hprovider
  rw [List.mem_singleton.mp hprovider]
  exact GmailProvider.provider_lawful env

end MyAccountController
