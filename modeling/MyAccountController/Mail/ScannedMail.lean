import MyAccountController.Mail.ScanSpec
import Mathlib.Data.List.TakeWhile

/-! # The mail that a scan misses

A scan stores the matching messages of an account up to the first pair that fails,
and it sees the messages of one page. So one unreadable `Date` header hides what
comes after it, and a full mailbox hides what is on the next page.
-/

namespace MyAccountController

open Foundation

namespace CandidatesService

/-- The rule accepts the message. -/
def Pairing.Accepted (unicode : UnicodeData) (pair : Pairing) : Prop :=
  RuleMatcher.messageMatchesRule unicode pair.message pair.rule = .ok true

/-- The index entry of the candidate for the pair. -/
def Pairing.index (pair : Pairing) : String × String :=
  (pair.rule.rule.id, pair.message.externalMessageId)

/-- The pairs before the first one that fails. -/
def reached (unicode : UnicodeData) (faults : ScanFaults) (pairs : List Pairing) : List Pairing :=
  pairs.takeWhile fun pair => ¬ pair.Fails unicode (faults.refuses pair.message)

section Rows

variable {unicode : UnicodeData} {providers : MailProviderRegistry} {faults : ScanFaults}
  {freshId : Nat → Nat → Nat → String} {server server' : MailServer}
  {accounts : List EmailAccount} {account : EmailAccount} {i : Nat}

/-- The insertions before the first failure are those of the matching pairs that are
reached. -/
theorem mem_leading_attempts (hanswers : faults.Answers) (pairs : List Pairing)
    (index : String × String) :
    index ∈ (leading (pairs.filterMap
        (attempt unicode faults freshId i account.id))).map EmailCandidate.uniqueIndex ↔
      ∃ pair ∈ reached unicode faults pairs, pair.Accepted unicode ∧ pair.index = index := by
  induction pairs with
  | nil => simp [reached, leading]
  | cons pair pairs ih =>
      have herror := @attempt_error_iff unicode faults freshId i account.id pair
      rw [hanswers.fault_eq] at herror
      unfold reached at ih ⊢
      -- The first pair fails, or its rule does not accept it, or it is inserted.
      by_cases hfails : pair.Fails unicode (faults.refuses pair.message)
      · obtain ⟨err, hattempt⟩ := herror.mpr hfails
        rw [List.filterMap_cons_some hattempt, List.takeWhile_cons_of_neg (by simpa using hfails)]
        simp [leading]
      rw [List.takeWhile_cons_of_pos (by simpa using hfails), List.exists_mem_cons_iff, ← ih]
      cases hattempt : attempt unicode faults freshId i account.id pair with
      | none =>
          have hrefused : ¬ pair.Accepted unicode := by
            rw [Pairing.Accepted, attempt_none_iff.mp hattempt]
            simp
          rw [List.filterMap_cons_none hattempt]
          exact (or_iff_right fun haccepted => hrefused haccepted.1).symm
      | some result =>
          cases result with
          | error err => exact absurd (herror.mp ⟨err, hattempt⟩) hfails
          | ok row =>
              have haccepted : pair.Accepted unicode := (attempt_ok_iff.mp hattempt).1
              have hindex : row.uniqueIndex = pair.index :=
                (proposes_of_attempt hattempt).uniqueIndex
              rw [List.filterMap_cons_some hattempt, leading, List.map_cons, List.mem_cons, hindex,
                @eq_comm _ index, and_iff_right haccepted]

/-- The rows of an account whose mail is listed. -/
theorem mem_outcome_index (hanswers : faults.Answers) {messages : List RawMailMessage}
    (hlisting : listing providers server.db account = .ok messages) (index : String × String) :
    index ∈ (accountOutcome unicode providers faults freshId server.db account i).rows.map
        EmailCandidate.uniqueIndex ↔
      ∃ pair ∈ reached unicode faults (pairings messages (server.db.activeRules account.id)),
        pair.Accepted unicode ∧ pair.index = index := by
  unfold accountOutcome
  cases hget : providers.get account.providerType with
  | error err =>
      rw [listing, hget] at hlisting
      contradiction
  | ok provider =>
      rw [hlisting, hanswers.ruleQuery i]
      by_cases hempty : server.db.activeRules account.id = []
      · simp [hempty, pairings_nil, reached]
      · simp only [hempty, if_false]
        exact mem_leading_attempts hanswers _ index

/-- A rule is a rule of one account. -/
theorem account_of_index {other : EmailAccount} {row : EmailCandidate}
    (hrow : row ∈ (accountOutcome unicode providers faults freshId server.db other i).rows)
    {rule : RuleWithConditions} {externalMessageId : String}
    (hindex : row.uniqueIndex = (rule.rule.id, externalMessageId))
    (hrule : rule ∈ server.db.activeRules account.id) : other.id = account.id := by
  obtain ⟨messages, pair, -, hpair, hattempt⟩ := mem_outcome_rows hrow
  obtain ⟨-, -, hinput⟩ := attempt_ok_iff.mp hattempt
  have hruleId : row.ruleId = pair.rule.rule.id := by rw [(candidateInput_ok_iff.mp hinput).2]
  obtain ⟨hstored, haccount, -⟩ := mem_activeRules_iff.mp (mem_pairings hpair).2
  obtain ⟨hstored', haccount', -⟩ := mem_activeRules_iff.mp hrule
  have hsame : pair.rule.rule = rule.rule :=
    server.db.emailRules.eq_of_key_eq hstored hstored' (hruleId.symm.trans (Prod.mk.inj hindex).1)
  rw [← haccount, ← haccount', hsame]

/-- After a scan a candidate of an account is stored, or was before, when the loops of
the account reach it. -/
theorem stored_iff {messages : List RawMailMessage} (hlawful : providers.Lawful)
    (hfresh : FreshCandidateIds freshId server.db) (haccounts : ScannedAccounts server.db accounts)
    (haccount : account ∈ accounts) (hanswers : faults.Answers)
    (hlisting : listing providers server.db account = .ok messages) {counts : ScanResult}
    (hrun : scanAccounts unicode providers faults freshId accounts server = (.ok counts, server'))
    {rule : RuleWithConditions} (hrule : rule ∈ server.db.activeRules account.id)
    (externalMessageId : String) :
    (rule.rule.id, externalMessageId) ∈
        server'.db.emailCandidates.rows.map EmailCandidate.uniqueIndex ↔
      (rule.rule.id, externalMessageId) ∈
          server.db.emailCandidates.rows.map EmailCandidate.uniqueIndex ∨
        ∃ pair ∈ reached unicode faults (pairings messages (server.db.activeRules account.id)),
          pair.Accepted unicode ∧ pair.index = (rule.rule.id, externalMessageId) := by
  obtain ⟨counts', server'', hrun', seen, hafter⟩ :=
    @scanAccounts_run unicode providers faults freshId accounts server hlawful hfresh haccounts
  rw [hrun] at hrun'
  obtain ⟨-, rfl⟩ := Prod.mk.inj hrun'
  have hcandidates : server'.db.emailCandidates.rows = _ := hafter.candidates
  rw [hcandidates, mem_map_collect]
  apply or_congr Iff.rfl
  constructor
  · intro hmem
    obtain ⟨row, hrow, hindex⟩ := List.mem_map.mp hmem
    obtain ⟨outcome, houtcome, hrow⟩ := List.mem_flatMap.mp hrow
    obtain ⟨⟨other, j⟩, hother, rfl⟩ := List.mem_map.mp houtcome
    obtain rfl : other = account := by
      have hid := account_of_index hrow hindex hrule
      exact List.inj_on_of_nodup_map haccounts.nodup (List.fst_mem_of_mem_zipIdx hother) haccount hid
    exact (mem_outcome_index hanswers hlisting _).mp (List.mem_map.mpr ⟨row, hrow, hindex⟩)
  · intro hreached
    obtain ⟨i, hi⟩ := exists_mem_zipIdx haccount
    have hmem := (@mem_outcome_index unicode providers faults freshId server account i hanswers
      messages hlisting (rule.rule.id, externalMessageId)).mpr hreached
    obtain ⟨row, hrow, hindex⟩ := List.mem_map.mp hmem
    refine List.mem_map.mpr ⟨row, List.mem_flatMap.mpr ⟨_, ?_, hrow⟩, hindex⟩
    exact List.mem_map.mpr ⟨(account, i), hi, rfl⟩

end Rows

/-! ## What is hidden -/

/-- Every matching pair is stored before, or comes before the first pair that fails. -/
def NoneHidden (unicode : UnicodeData) (faults : ScanFaults) (db : Database)
    (account : EmailAccount) (messages : List RawMailMessage) : Prop :=
  ∀ pair ∈ pairings messages (db.activeRules account.id), pair.Accepted unicode →
    pair.index ∈ db.emailCandidates.rows.map EmailCandidate.uniqueIndex ∨
      ∃ other ∈ reached unicode faults (pairings messages (db.activeRules account.id)),
        other.Accepted unicode ∧ other.index = pair.index

section Hidden

variable {unicode : UnicodeData} {faults : ScanFaults} {account : EmailAccount}

/-- When no pair fails, all are reached. -/
theorem reached_eq {pairs : List Pairing}
    (hnone : ∀ pair ∈ pairs, ¬ pair.Fails unicode (faults.refuses pair.message)) :
    reached unicode faults pairs = pairs := by
  unfold reached
  rw [List.takeWhile_eq_self_iff]
  intro pair hpair
  simpa using hnone pair hpair

theorem noneHidden_of_not_fails {db : Database} {messages : List RawMailMessage}
    (hnone : ∀ pair ∈ pairings messages (db.activeRules account.id),
      ¬ pair.Fails unicode (faults.refuses pair.message)) :
    NoneHidden unicode faults db account messages := by
  intro pair hpair haccepted
  refine .inr ⟨pair, ?_, haccepted, rfl⟩
  rw [reached_eq hnone]
  exact hpair

/-- A scan stores all that the rules of an account accept exactly when nothing is hidden. -/
theorem stored_iff_noneHidden {R : Runtime} {env : GmailEnvironment R} {mail : List GmailMessage}
    {server server' : MailServer} {accounts : List EmailAccount}
    {freshId : Nat → Nat → Nat → String} (hfresh : FreshCandidateIds freshId server.db)
    (haccounts : ScannedAccounts server.db accounts) (haccount : account ∈ accounts)
    (hanswers : faults.Answers)
    (hlisting : listing (gmailRegistry env) server.db account =
      .ok (mail.map (GmailProvider.toRawMailMessage env)))
    {counts : ScanResult} (hrun : scanAccounts env.unicode (gmailRegistry env) faults freshId
      accounts server = (.ok counts, server')) :
    (∀ rule ∈ server.db.activeRules account.id, ∀ message ∈ mail,
        RuleMatcher.messageMatchesRule env.unicode (GmailProvider.toRawMailMessage env message)
            rule = .ok true →
          (rule.rule.id, message.id) ∈
            server'.db.emailCandidates.rows.map EmailCandidate.uniqueIndex) ↔
      NoneHidden env.unicode faults server.db account
        (mail.map (GmailProvider.toRawMailMessage env)) := by
  have hstored := fun rule hrule => @stored_iff env.unicode (gmailRegistry env) faults freshId server
    server' accounts account _ (gmailRegistry_lawful env) hfresh haccounts haccount hanswers hlisting
    counts hrun rule hrule
  constructor
  · intro hall pair hpair haccepted
    obtain ⟨hmessage, hrule⟩ := mem_pairings hpair
    obtain ⟨message, hmem, hraw⟩ := List.mem_map.mp hmessage
    have hid : message.id = pair.message.externalMessageId := by
      rw [← hraw]
      rfl
    rw [Pairing.Accepted, ← hraw] at haccepted
    have hindex :=
      (hstored pair.rule hrule message.id).mp (hall pair.rule hrule message hmem haccepted)
    rw [hid] at hindex
    exact hindex
  · intro hhidden rule hrule message hmessage haccepted
    have hraw : GmailProvider.toRawMailMessage env message ∈
        mail.map (GmailProvider.toRawMailMessage env) := List.mem_map_of_mem hmessage
    obtain ⟨pair, hpair, hpairMessage, hpairRule⟩ := exists_pairing hraw hrule
    have hindex : pair.index = (rule.rule.id, message.id) := by
      rw [Pairing.index, hpairMessage, hpairRule]
      rfl
    rw [hstored rule hrule, ← hindex]
    apply hhidden pair hpair
    rw [Pairing.Accepted, hpairMessage, hpairRule]
    exact haccepted

end Hidden

/-! ## Invalid dates -/

/-- The `Date` header is missing or empty, or it is a date. -/
def DateReadable {R : Runtime} (env : GmailEnvironment R) (message : GmailMessage) : Prop :=
  let date := GmailProvider.header env ((message.payload.bind GmailPart.headers).getD []) "Date"
  date = "" ∨ env.dateOfText date ≠ none

section Batches

variable {R : Runtime} (env : GmailEnvironment R) (faults : ScanFaults) (batch : List GmailMessage)

/-- Every message of the batch is dated, what a rule accepts is refused as a duplicate only, and a
scan with this batch stores all of it. -/
structure StoresBatch (freshId : Nat → Nat → Nat → String) (server : MailServer)
    (accounts : List EmailAccount) (account : EmailAccount) : Prop where
  dated : ∀ message ∈ batch, (GmailProvider.toRawMailMessage env message).receivedAt ≠ none
  inserted : ∀ rule ∈ server.db.activeRules account.id, ∀ message ∈ batch,
    RuleMatcher.messageMatchesRule env.unicode (GmailProvider.toRawMailMessage env message) rule =
      .ok true → ∀ id err,
        (createCandidate (faults.refuses (GmailProvider.toRawMailMessage env message)) id
          rule.rule.id account.id (GmailProvider.toRawMailMessage env message) server.db).1 =
            .error err → err = .p2002
  stored : ∃ counts server', scanAccounts env.unicode (gmailRegistry env) faults freshId accounts
      server = (.ok counts, server') ∧
    ∀ rule ∈ server.db.activeRules account.id, ∀ message ∈ batch,
      RuleMatcher.messageMatchesRule env.unicode (GmailProvider.toRawMailMessage env message)
          rule = .ok true →
        (rule.rule.id, message.id) ∈
          server'.db.emailCandidates.rows.map EmailCandidate.uniqueIndex

/-- The dates of the batch can be read, the database refuses nothing that a rule accepts, and no
match is hidden. -/
structure Acceptable (db : Database) (account : EmailAccount) : Prop where
  dates : ∀ message ∈ batch, DateReadable env message
  taken : ∀ rule ∈ db.activeRules account.id, ∀ message ∈ batch,
    RuleMatcher.messageMatchesRule env.unicode (GmailProvider.toRawMailMessage env message) rule =
      .ok true → faults.refuses (GmailProvider.toRawMailMessage env message) = none
  unhidden : NoneHidden env.unicode faults db account
    (batch.map (GmailProvider.toRawMailMessage env))

end Batches

section Dates

variable {R : Runtime} {env : GmailEnvironment R} {faults : ScanFaults}
  {freshId : Nat → Nat → Nat → String} {server : MailServer} {account : EmailAccount}

theorem receivedAt_iff {message : GmailMessage}
    (hnumeric : env.dateOfNumber (message.internalDate.getD "0") ≠ none) :
    (GmailProvider.toRawMailMessage env message).receivedAt ≠ none ↔ DateReadable env message := by
  unfold GmailProvider.toRawMailMessage DateReadable
  dsimp only
  split
  next hdate => simp [hdate]
  next hdate => simp [not_not.mp hdate, hnumeric]

/-- The insertion of a dated message for a stored rule is refused as a duplicate only. -/
theorem createCandidate_error {db : Database} {rule : RuleWithConditions}
    {message : RawMailMessage} {id : String} {err : Exception}
    (hrule : rule ∈ db.activeRules account.id) (haccount : account ∈ db.emailAccounts.rows)
    (hdated : message.receivedAt ≠ none)
    (herror : (createCandidate none id rule.rule.id account.id message db).1 = .error err) :
    err = .p2002 := by
  obtain ⟨hstored, -, -⟩ := mem_activeRules_iff.mp hrule
  have hfoundRule : db.emailRules.find? rule.rule.id = some rule.rule :=
    Table.find?_eq_some_iff.mpr ⟨hstored, rfl⟩
  have hfoundAccount : db.emailAccounts.find? account.id = some account :=
    Table.find?_eq_some_iff.mpr ⟨haccount, rfl⟩
  cases hinput : candidateInput id rule.rule.id account.id message with
  | error _ => exact absurd (candidateInput_error hinput).1 hdated
  | ok row =>
      have hrow := (candidateInput_ok_iff.mp hinput).2
      have hreferences : Prisma.emailCandidate.references db row = true := by
        rw [hrow]
        show ((db.emailRules.find? _).isSome && (db.emailAccounts.find? _).isSome) = true
        rw [hfoundRule, hfoundAccount]
        rfl
      rcases hcreate : Prisma.emailCandidate.create row db with ⟨result, db'⟩
      have hresult : result = .error err := by
        unfold createCandidate at herror
        dsimp only at herror
        rw [hinput, Handler.ofExcept_ok_bind, hcreate] at herror
        exact herror
      rw [hresult] at hcreate
      rcases Model.create_error _ hcreate with ⟨-, ⟨-, herr⟩ | ⟨-, hnone, -⟩⟩
      · exact herr
      · rw [hreferences] at hnone
        contradiction

/-- A batch is stored exactly when each `Date` header in it is a date, the database takes what a
rule accepts, and no match is hidden. -/
theorem storesBatch_iff {batch : List GmailMessage} {accounts : List EmailAccount}
    (hnumeric : ∀ message ∈ batch, env.dateOfNumber (message.internalDate.getD "0") ≠ none)
    (hanswers : faults.Answers) (hfresh : FreshCandidateIds freshId server.db)
    (haccounts : ScannedAccounts server.db accounts) (haccount : account ∈ accounts)
    (hlisting : listing (gmailRegistry env) server.db account =
      .ok (batch.map (GmailProvider.toRawMailMessage env))) :
    StoresBatch env faults batch freshId server accounts account ↔
      Acceptable env faults batch server.db account := by
  constructor
  · rintro ⟨hdated, hinserted, counts, server', hrun, hstored⟩
    refine ⟨fun message hmessage => ?_, fun rule hrule message hmessage haccepted => ?_,
      (stored_iff_noneHidden hfresh haccounts haccount hanswers hlisting hrun).mp hstored⟩
    · exact (receivedAt_iff (hnumeric message hmessage)).mp (hdated message hmessage)
    · by_contra hrefused
      obtain ⟨err, herr⟩ := Option.ne_none_iff_exists'.mp hrefused
      refine faults.refuses_ne _ err herr (hinserted rule hrule message hmessage haccepted "" err ?_)
      rw [herr]
      rfl
  · rintro ⟨hdates, htaken, hhidden⟩
    have hdated : ∀ message ∈ batch,
        (GmailProvider.toRawMailMessage env message).receivedAt ≠ none := fun message hmessage =>
      (receivedAt_iff (hnumeric message hmessage)).mpr (hdates message hmessage)
    obtain ⟨counts, server', hrun, -⟩ := @scanAccounts_run env.unicode (gmailRegistry env) faults
      freshId accounts server (gmailRegistry_lawful env) hfresh haccounts
    refine ⟨hdated, fun rule hrule message hmessage haccepted id err herror => ?_, counts, server',
      hrun, (stored_iff_noneHidden hfresh haccounts haccount hanswers hlisting hrun).mpr hhidden⟩
    rw [htaken rule hrule message hmessage haccepted] at herror
    exact createCandidate_error hrule (haccounts.stored account haccount) (hdated message hmessage)
      herror

end Dates

namespace OneMessage

/-- A mail with the text as its `Date` header. -/
def datedMail (text : String) : GmailMessage :=
  ⟨"m", some (.mk none (some [⟨some "Date", some text⟩]) none), none, some "1000"⟩

/-- A mailbox with this mail only, and the date that its header is read as. -/
def datedEnvironment (text : String) (date : Option Int) : GmailEnvironment symbolicRuntime :=
  { environment [⟨some "Date", some text⟩] with dateOfText := fun _ => date }

theorem active : db.withConditions (rule "r" "delete_candidate") ∈ db.activeRules account.id :=
  mem_activeRules_iff.mpr ⟨by decide, rfl, rfl, rfl⟩

/-- One message that PostgreSQL takes hides nothing. -/
theorem noneHidden {message : RawMailMessage} (hdated : message.receivedAt ≠ none)
    (htaken : ScanFaults.postgres.refuses message = none) :
    NoneHidden asciiData .postgres db account [message] := by
  apply noneHidden_of_not_fails
  intro pair hpair
  obtain ⟨hmessage, hrule⟩ := mem_pairings hpair
  rw [List.mem_singleton.mp hmessage]
  rintro (hunreadable | ⟨-, hrefused | hundated⟩)
  · exact hunreadable (readable pair.rule hrule)
  · exact hrefused htaken
  · rw [List.mem_singleton.mp hmessage] at hundated
    exact hdated hundated

end OneMessage

open OneMessage in
/-- A header that is no date leaves a mail without one, and a date of the year 0 is refused by
PostgreSQL. -/
theorem not_storesBatch :
    (listing (gmailRegistry (datedEnvironment "not a date" none)) db account =
        .ok ([datedMail "not a date"].map
          (GmailProvider.toRawMailMessage (datedEnvironment "not a date" none))) ∧
      ¬ StoresBatch (datedEnvironment "not a date" none) .postgres [datedMail "not a date"] freshId
        ⟨db, [], []⟩ [account] account) ∧
    listing (gmailRegistry (datedEnvironment "0000-01-01T00:00:00Z" (some (-62167219200000)))) db
        account = .ok ([datedMail "0000-01-01T00:00:00Z"].map (GmailProvider.toRawMailMessage
          (datedEnvironment "0000-01-01T00:00:00Z" (some (-62167219200000))))) ∧
      ¬ StoresBatch (datedEnvironment "0000-01-01T00:00:00Z" (some (-62167219200000))) .postgres
        [datedMail "0000-01-01T00:00:00Z"] freshId ⟨db, [], []⟩ [account] account := by
  refine ⟨⟨by decide +kernel, fun hstores => ?_⟩, by decide +kernel, fun hstores => ?_⟩
  · exact hstores.dated _ (List.mem_singleton_self _) (by decide +kernel)
  · have hduplicate := hstores.inserted _ active _ (List.mem_singleton_self _) (by decide +kernel)
      "c" (.error "date/time field value out of range") (by decide +kernel)
    contradiction

open OneMessage in
/-- A message without a `Date` header is dated by Gmail. -/
theorem storesBatch_iff_example :
    StoresBatch (environment []) .postgres [⟨"m", some (.mk none (some []) none), none, some "1000"⟩]
      freshId ⟨db, [], []⟩ [account] account := by
  apply (storesBatch_iff (by simp [environment]) ScanFaults.postgres_answers (freshIds rfl)
    ⟨by decide, by decide⟩ (List.mem_singleton_self _) (by decide +kernel)).mpr
  refine ⟨fun message hmessage => ?_, fun rule _ message hmessage _ => ?_, ?_⟩
  · obtain rfl := List.mem_singleton.mp hmessage
    exact .inl rfl
  · rw [List.mem_singleton.mp hmessage]
    decide +kernel
  · exact noneHidden (by decide +kernel) (by decide +kernel)

/-! ## A mailbox of more than one page -/

/-- The first page of the mailbox: the newest messages, at most 50, with a token when
there are more. Each message can be read. -/
structure FirstPage {R : Runtime} (env : GmailEnvironment R) (auth : GoogleCredentials)
    (recent : List GmailMessage) (page : GmailPage) : Prop where
  listed : env.google.messagesList auth 50 "newer_than:7d" = .ok page
  newest : page.messageIds.getD [] <+: recent.map GmailMessage.id
  limited : (page.messageIds.getD []).length ≤ 50
  more : page.nextPageToken = none ↔ page.messageIds.getD [] = recent.map GmailMessage.id
  readable : ∀ message ∈ recent,
    env.google.messagesGet auth message.id ["From", "Subject", "Date"] = .ok message

/-- The listing returns each recent message once, and a scan leaves a candidate for each
that an active rule of the account accepts. -/
structure ScansMailbox {R : Runtime} (env : GmailEnvironment R) (faults : ScanFaults)
    (recent : List GmailMessage) (server : MailServer) (accounts : List EmailAccount)
    (freshId : Nat → Nat → Nat → String) (account : EmailAccount) : Prop where
  listed : ∃ messages, (GmailProvider.listCandidateMessages env account.id server.db).1 =
      .ok messages ∧ messages.Perm (recent.map (GmailProvider.toRawMailMessage env))
  stored : ∃ counts server', scanAccounts env.unicode (gmailRegistry env) faults freshId accounts
      server = (.ok counts, server') ∧
    ∀ rule ∈ server.db.activeRules account.id, ∀ message ∈ recent,
      RuleMatcher.messageMatchesRule env.unicode (GmailProvider.toRawMailMessage env message)
          rule = .ok true →
        (rule.rule.id, message.id) ∈
          server'.db.emailCandidates.rows.map EmailCandidate.uniqueIndex

section Pages

variable {R : Runtime} {env : GmailEnvironment R} {auth : GoogleCredentials}
  {recent : List GmailMessage} {page : GmailPage}

theorem mapM_readable {messages : List GmailMessage} {headers : List String}
    (hreadable : ∀ message ∈ messages,
      env.google.messagesGet auth message.id headers = .ok message) :
    (messages.map GmailMessage.id).mapM (fun id => env.google.messagesGet auth id headers) =
      .ok messages := by
  rw [mapM_ok_iff, List.forall₂_map_left_iff, List.forall₂_same]
  exact hreadable

/-- What is listed are the newest messages. -/
theorem FirstPage.listedMessages (hpage : FirstPage env auth recent page) :
    ∃ seen, seen <+: recent ∧ page.messageIds.getD [] = seen.map GmailMessage.id ∧
      GmailProvider.listedMessages env auth =
        .ok (seen.map (GmailProvider.toRawMailMessage env)) := by
  obtain ⟨seen, hseen, hids⟩ := List.prefix_map_iff.mp hpage.newest
  refine ⟨seen, hseen, hids, ?_⟩
  have hread := mapM_readable fun message hmessage => hpage.readable message (hseen.subset hmessage)
  unfold GmailProvider.listedMessages
  rw [hpage.listed]
  show (((page.messageIds.getD []).mapM fun id =>
    env.google.messagesGet auth id ["From", "Subject", "Date"]) >>= fun full =>
      pure (full.map (GmailProvider.toRawMailMessage env))) = _
  rw [hids, hread]
  rfl

/-- A mailbox with more than 50 recent messages has a second page. -/
theorem FirstPage.more_of_length (hpage : FirstPage env auth recent page)
    (hlength : 50 < recent.length) : page.nextPageToken ≠ none := by
  intro hnone
  have hlimited := hpage.limited
  rw [hpage.more.mp hnone, List.length_map] at hlimited
  omega

variable {server : MailServer} {accounts : List EmailAccount} {account : EmailAccount}
  {freshId : Nat → Nat → Nat → String} {faults : ScanFaults}

theorem listing_gmail (hgmail : account.providerType = "gmail") (db : Database) :
    listing (gmailRegistry env) db account =
      (GmailProvider.listCandidateMessages env account.id db).1 := by
  have hget : (gmailRegistry env).get account.providerType = .ok (GmailProvider.provider env) := by
    rw [hgmail]
    rfl
  unfold listing
  rw [hget]
  rfl

theorem listCandidateMessages_authorized {db : Database}
    (hauth : GmailProvider.authorizedClient env (db.emailAccounts.find? account.id) = .ok auth) :
    (GmailProvider.listCandidateMessages env account.id db).1 =
      GmailProvider.listedMessages env auth := by
  rw [GmailProvider.listCandidateMessages_result, hauth]
  rfl

/-- A scan goes through the whole mailbox exactly when it has one page, and no match
is hidden behind a pair that fails. -/
theorem scansMailbox_iff (hpage : FirstPage env auth recent page)
    (hgmail : account.providerType = "gmail")
    (hauth : GmailProvider.authorizedClient env (server.db.emailAccounts.find? account.id) =
      .ok auth)
    (hanswers : faults.Answers) (hfresh : FreshCandidateIds freshId server.db)
    (haccounts : ScannedAccounts server.db accounts) (haccount : account ∈ accounts) :
    ScansMailbox env faults recent server accounts freshId account ↔
      page.nextPageToken = none ∧ NoneHidden env.unicode faults server.db account
        (recent.map (GmailProvider.toRawMailMessage env)) := by
  obtain ⟨seen, hseen, hids, hlisted⟩ := hpage.listedMessages
  have hanswer := (@listCandidateMessages_authorized R env auth account server.db hauth).trans
    hlisted
  have hwhole : page.nextPageToken = none ↔ seen.length = recent.length := by
    rw [hpage.more, hids]
    constructor
    · intro heq
      have hlength := congrArg List.length heq
      rwa [List.length_map, List.length_map] at hlength
    · intro hlength
      rw [hseen.eq_of_length hlength]
  constructor
  · rintro ⟨⟨messages, hmessages, hperm⟩, counts, server', hrun, hstored⟩
    obtain rfl := Except.ok.inj (hanswer.symm.trans hmessages)
    have hlength := hperm.length_eq
    rw [List.length_map, List.length_map] at hlength
    obtain rfl := hseen.eq_of_length hlength
    refine ⟨hwhole.mpr rfl,
      (stored_iff_noneHidden hfresh haccounts haccount hanswers ?_ hrun).mp hstored⟩
    rw [listing_gmail hgmail]
    exact hanswer
  · rintro ⟨hlast, hhidden⟩
    obtain rfl := hseen.eq_of_length (hwhole.mp hlast)
    refine ⟨⟨_, hanswer, List.Perm.refl _⟩, ?_⟩
    obtain ⟨counts, server', hrun, -⟩ := @scanAccounts_run env.unicode (gmailRegistry env)
      faults freshId accounts server (gmailRegistry_lawful env) hfresh haccounts
    refine ⟨counts, server', hrun,
      (stored_iff_noneHidden hfresh haccounts haccount hanswers ?_ hrun).mpr hhidden⟩
    rw [listing_gmail hgmail]
    exact hanswer

end Pages

namespace OneMessage

/-- A mailbox with 51 recent messages. -/
def fullMailbox : List GmailMessage :=
  (List.range 51).map fun n => ⟨String.ofList (List.replicate n 'm'), none, none, some "1000"⟩

/-- Gmail for a mailbox of undated messages. -/
def mailboxEnvironment (recent : List GmailMessage) : GmailEnvironment symbolicRuntime :=
  { environment [] with
    google := { google [] with
      messagesList := fun _ maxResults _ => .ok
        ⟨some ((recent.map GmailMessage.id).take maxResults),
          if recent.length ≤ maxResults then none else some "next"⟩
      messagesGet := fun _ id _ => .ok ⟨id, none, none, some "1000"⟩ } }

/-- The credentials of the account. -/
def auth : GoogleCredentials := ⟨some "access", some "refresh", none⟩

end OneMessage

open OneMessage in
/-- The oldest of 51 messages is not listed. -/
theorem not_scansMailbox :
    FirstPage (mailboxEnvironment fullMailbox) auth fullMailbox
        ⟨some ((fullMailbox.map GmailMessage.id).take 50), some "next"⟩ ∧
      ¬ ScansMailbox (mailboxEnvironment fullMailbox) .postgres fullMailbox ⟨db, [], []⟩ [account]
        freshId account := by
  constructor
  · refine ⟨rfl, List.take_prefix _ _, by decide +kernel, ?_, ?_⟩
    · exact ⟨fun hnone => absurd hnone (by simp), fun heq => absurd (congrArg List.length heq)
        (by decide +kernel)⟩
    · intro message hmessage
      obtain ⟨n, -, rfl⟩ := List.mem_map.mp hmessage
      rfl
  · rintro ⟨⟨messages, hmessages, hperm⟩, -⟩
    have hlength : ((GmailProvider.listCandidateMessages (mailboxEnvironment fullMailbox) account.id
        db).1.map List.length).toOption = some 50 := by decide +kernel
    rw [hmessages] at hlength
    have hall := hperm.length_eq
    rw [Option.some.inj hlength, List.length_map] at hall
    exact absurd hall (by decide +kernel)

open OneMessage in
/-- One message fits on the page. -/
theorem scansMailbox_iff_example :
    ScansMailbox (mailboxEnvironment [⟨"m", none, none, some "1000"⟩]) .postgres
      [⟨"m", none, none, some "1000"⟩] ⟨db, [], []⟩ [account] freshId account := by
  have hpage : FirstPage (mailboxEnvironment [⟨"m", none, none, some "1000"⟩]) auth
      [⟨"m", none, none, some "1000"⟩] ⟨some ["m"], none⟩ := by
    refine ⟨rfl, List.prefix_refl _, by decide, ⟨fun _ => rfl, fun _ => rfl⟩, ?_⟩
    intro message hmessage
    rw [List.mem_singleton.mp hmessage]
    rfl
  apply (scansMailbox_iff hpage rfl (by rfl) ScanFaults.postgres_answers (freshIds rfl)
    ⟨by decide, by decide⟩ (List.mem_singleton_self _)).mpr
  exact ⟨rfl, noneHidden (by decide +kernel) (by decide +kernel)⟩

end CandidatesService

end MyAccountController
