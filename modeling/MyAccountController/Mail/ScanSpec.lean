import MyAccountController.Mail.ScanFailures

/-! # A scan as a set of proposals

When every listing succeeds, every rule can be judged and the database takes what
is inserted, a scan adds one row for each pair of an active rule and a message that
the rule accepts and that has no row, and scanning the same mail again adds none.
The order of the loops plays no role in which rows are added; in their text it does
when two messages are listed under one id.
-/

namespace MyAccountController

open Foundation

namespace ScanFaults

/-- The database answers every query, but for what is in a message. -/
structure Answers (faults : ScanFaults) : Prop where
  ruleQuery : ∀ i, faults.ruleQuery i = .none
  insert : ∀ i j k, faults.insert i j k = .none

/-- The message has a date, and the database does not refuse it. -/
def Takes (faults : ScanFaults) (message : RawMailMessage) : Prop :=
  message.receivedAt ≠ .none ∧ faults.refuses message = .none

instance (faults : ScanFaults) (message : RawMailMessage) : Decidable (faults.Takes message) :=
  inferInstanceAs (Decidable (_ ∧ _))

theorem postgres_answers : postgres.Answers := ⟨fun _ => rfl, fun _ _ _ => rfl⟩

/-- Then the position of an insertion plays no role. -/
theorem Answers.fault_eq {faults : ScanFaults} (hanswers : faults.Answers) (i j k : Nat)
    (message : RawMailMessage) : faults.fault i j k message = faults.refuses message := by
  rw [fault, hanswers.insert, Option.none_or]

end ScanFaults

namespace CandidatesService

/-- The mail that the providers list for the accounts, with a database that answers and
takes what a rule accepts. -/
structure Lists (unicode : UnicodeData) (providers : MailProviderRegistry) (faults : ScanFaults)
    (db : Database) (accounts : List EmailAccount) (mail : EmailAccount → List RawMailMessage) :
    Prop where
  answers : faults.Answers
  listed : ∀ account ∈ accounts, listing providers db account = .ok (mail account)
  taken : ∀ account ∈ accounts, ∀ rule ∈ db.activeRules account.id, ∀ message ∈ mail account,
    RuleMatcher.messageMatchesRule unicode message rule = .ok true → faults.Takes message

/-- The active rules of the accounts can be judged. -/
def RulesReadable (db : Database) (accounts : List EmailAccount) : Prop :=
  ∀ account ∈ accounts, ∀ rule ∈ db.activeRules account.id, rule.Readable

/-- The row that proposes a message under a rule of an account. -/
structure Proposes (row : EmailCandidate) (account : EmailAccount) (rule : RuleWithConditions)
    (message : RawMailMessage) : Prop where
  ruleId : row.ruleId = rule.rule.id
  emailAccountId : row.emailAccountId = account.id
  externalMessageId : row.externalMessageId = message.externalMessageId
  sender : row.sender = message.sender
  subject : row.subject = message.subject
  receivedAt : message.receivedAt = some row.receivedAt
  status : row.status = .PENDING
  processedAt : row.processedAt = none

section Specification

variable (unicode : UnicodeData) (db : Database) (accounts : List EmailAccount)
  (mail : EmailAccount → List RawMailMessage)

/-- An active rule of one of the accounts accepts a message listed for it. -/
structure Accepts (account : EmailAccount) (rule : RuleWithConditions)
    (message : RawMailMessage) : Prop where
  ofScan : account ∈ accounts
  active : rule ∈ db.activeRules account.id
  listed : message ∈ mail account
  accepted : RuleMatcher.messageMatchesRule unicode message rule = .ok true

/-- What one scan adds, and how it counts it. -/
structure ScanAdds (server : MailServer) (counts : ScanResult) (server' : MailServer) : Prop where
  kept : server.db.emailCandidates.rows <+: server'.db.emailCandidates.rows
  proposed : ∀ row ∈ addedRows server server',
    isNew EmailCandidate.uniqueIndex server.db.emailCandidates.rows row = true ∧
      ∃ account rule message, Accepts unicode server.db accounts mail account rule message ∧
        Proposes row account rule message
  complete : ∀ account rule message, Accepts unicode server.db accounts mail account rule message →
    (rule.rule.id, message.externalMessageId) ∉
        server.db.emailCandidates.rows.map EmailCandidate.uniqueIndex →
      ∃ row ∈ addedRows server server',
        row.uniqueIndex = (rule.rule.id, message.externalMessageId) ∧
        ∀ other ∈ addedRows server server', other.uniqueIndex = row.uniqueIndex → other = row
  createdCandidates : counts.createdCandidates = (addedRows server server').length
  scannedAccounts : counts.scannedAccounts =
    accounts.countP fun account => (server.db.activeRules account.id).length ≠ 0
  failedAccounts : counts.failedAccounts = 0

end Specification

section Adds

variable {unicode : UnicodeData} {providers : MailProviderRegistry} {faults : ScanFaults}
  {freshId : Nat → Nat → Nat → String} {server server' : MailServer}
  {accounts : List EmailAccount} {mail : EmailAccount → List RawMailMessage} {account : EmailAccount}
  {i : Nat}

theorem mem_leading_of_none {α : Type} {attempts : List (Except Exception α)} {a : α}
    (hnone : firstError attempts = none) (hmem : .ok a ∈ attempts) : a ∈ leading attempts := by
  induction attempts with
  | nil => contradiction
  | cons first rest ih =>
      cases first with
      | error err => contradiction
      | ok b =>
          rcases List.mem_cons.mp hmem with heq | hrest
          · rw [Except.ok.inj heq]
            exact List.mem_cons_self
          · exact List.mem_cons_of_mem _ (ih hnone hrest)

/-- No proposal fails: the rules can be judged and the database takes the messages. -/
theorem not_proposalFails_of_lists (hlists : Lists unicode providers faults server.db accounts mail)
    (hreadable : RulesReadable server.db accounts) (haccount : account ∈ accounts) :
    ¬ ProposalFails unicode providers faults server (account, i) := by
  rintro ⟨-, messages, pair, hlisting, hpair, hfails⟩
  obtain rfl := Except.ok.inj ((hlists.listed account haccount).symm.trans hlisting)
  obtain ⟨hmessage, hrule⟩ := mem_pairings hpair
  rcases hfails with hunreadable | ⟨hmatches, hfails⟩
  · exact hunreadable (hreadable account haccount pair.rule hrule)
  · obtain ⟨hdate, htaken⟩ :=
      hlists.taken account haccount pair.rule hrule pair.message hmessage hmatches
    rw [hlists.answers.fault_eq] at hfails
    exact hfails.elim (fun hfault => hfault htaken) hdate

/-- The outcome of an account whose mail is listed. -/
theorem outcome_of_lists (hlists : Lists unicode providers faults server.db accounts mail)
    (hreadable : RulesReadable server.db accounts) (haccount : account ∈ accounts) :
    let outcome := accountOutcome unicode providers faults freshId server.db account i
    outcome.failed = false ∧
      outcome.listed = decide ((server.db.activeRules account.id).length ≠ 0) ∧
      ∀ row, row ∈ outcome.rows ↔ ∃ pair ∈ pairings (mail account)
        (server.db.activeRules account.id),
          attempt unicode faults freshId i account.id pair = some (.ok row) := by
  have hlisting := hlists.listed account haccount
  have hnone : firstError (attempts unicode faults freshId i account.id (mail account)
      (server.db.activeRules account.id)) = none := by
    have hfails := @attempts_fail_iff unicode providers faults freshId server account i
      (mail account) hlisting (hlists.answers.ruleQuery i)
    simpa using mt hfails.mp (not_proposalFails_of_lists hlists hreadable haccount)
  obtain ⟨provider, hget⟩ : ∃ provider, providers.get account.providerType = .ok provider := by
    cases hget : providers.get account.providerType with
    | ok provider => exact ⟨provider, rfl⟩
    | error err =>
        rw [listing, hget] at hlisting
        contradiction
  unfold accountOutcome
  rw [hget, hlisting, hlists.answers.ruleQuery i]
  by_cases hempty : server.db.activeRules account.id = []
  · simp [hempty, pairings_nil]
  · simp only [hempty, if_false]
    refine ⟨by rw [hnone]; rfl, by simpa using hempty, fun row => ?_⟩
    constructor
    · intro hrow
      exact List.mem_filterMap.mp (mem_leading hrow)
    · intro hpair
      exact mem_leading_of_none hnone (List.mem_filterMap.mpr hpair)

theorem exists_mem_zipIdx {α : Type} {items : List α} {a : α} (hmem : a ∈ items) :
    ∃ j, (a, j) ∈ items.zipIdx := by
  obtain ⟨j, hj⟩ := List.getElem?_of_mem hmem
  exact ⟨j, List.mk_mem_zipIdx_iff_getElem?.mpr hj⟩

theorem exists_pairing {messages : List RawMailMessage} {rules : List RuleWithConditions}
    {message : RawMailMessage} {rule : RuleWithConditions} (hmessage : message ∈ messages)
    (hrule : rule ∈ rules) :
    ∃ pair ∈ pairings messages rules, pair.message = message ∧ pair.rule = rule := by
  obtain ⟨j, hj⟩ := exists_mem_zipIdx hmessage
  obtain ⟨k, hk⟩ := exists_mem_zipIdx hrule
  refine ⟨⟨message, j, rule, k⟩, List.mem_flatMap.mpr ⟨(message, j), hj, ?_⟩, rfl, rfl⟩
  exact List.mem_map.mpr ⟨(rule, k), hk, rfl⟩

/-- The rows asked for are proposals of accepted messages. -/
theorem proposes_of_attempt {pair : Pairing} {row : EmailCandidate}
    (hattempt : attempt unicode faults freshId i account.id pair = some (.ok row)) :
    Proposes row account pair.rule pair.message := by
  obtain ⟨-, -, hinput⟩ := attempt_ok_iff.mp hattempt
  obtain ⟨hdate, hrow⟩ := candidateInput_ok_iff.mp hinput
  rw [hrow]
  exact ⟨rfl, rfl, rfl, rfl, rfl, hdate, rfl, rfl⟩

theorem Proposes.uniqueIndex {row : EmailCandidate} {rule : RuleWithConditions}
    {message : RawMailMessage} (hproposes : Proposes row account rule message) :
    row.uniqueIndex = (rule.rule.id, message.externalMessageId) :=
  Prod.ext hproposes.ruleId hproposes.externalMessageId

/-- A matching message that the database takes is asked for. -/
theorem attempt_of_taken (hanswers : faults.Answers) {pair : Pairing}
    (haccepted : RuleMatcher.messageMatchesRule unicode pair.message pair.rule = .ok true)
    (htakes : faults.Takes pair.message) :
    ∃ row, attempt unicode faults freshId i account.id pair = some (.ok row) ∧
      row.uniqueIndex = (pair.rule.rule.id, pair.message.externalMessageId) := by
  obtain ⟨hdate, htaken⟩ := htakes
  obtain ⟨receivedAt, hreceived⟩ := Option.ne_none_iff_exists'.mp hdate
  obtain ⟨row, hinput⟩ : ∃ row, candidateInput (freshId i pair.messageAt pair.ruleAt)
      pair.rule.rule.id account.id pair.message = .ok row := by
    unfold candidateInput
    rw [hreceived]
    exact ⟨_, rfl⟩
  have hfault : faults.fault i pair.messageAt pair.ruleAt pair.message = none := by
    rw [hanswers.fault_eq, htaken]
  have hattempt : attempt unicode faults freshId i account.id pair = some (.ok row) :=
    attempt_ok_iff.mpr ⟨haccepted, hfault, hinput⟩
  exact ⟨row, hattempt, (proposes_of_attempt hattempt).uniqueIndex⟩

/-- The rows that the scan of the listed accounts asks for. -/
def askedRows (unicode : UnicodeData) (providers : MailProviderRegistry) (faults : ScanFaults)
    (freshId : Nat → Nat → Nat → String) (db : Database) (accounts : List EmailAccount) :
    List EmailCandidate :=
  (outcomes unicode providers faults freshId db accounts 0).flatMap AccountOutcome.rows

theorem accepts_of_asked (hlists : Lists unicode providers faults server.db accounts mail)
    (hreadable : RulesReadable server.db accounts) {row : EmailCandidate}
    (hrow : row ∈ askedRows unicode providers faults freshId server.db accounts) :
    ∃ account rule message, Accepts unicode server.db accounts mail account rule message ∧
      Proposes row account rule message := by
  obtain ⟨outcome, houtcome, hrow⟩ := List.mem_flatMap.mp hrow
  obtain ⟨⟨account, i⟩, haccount, rfl⟩ := List.mem_map.mp houtcome
  have haccount := List.fst_mem_of_mem_zipIdx haccount
  obtain ⟨-, -, hrows⟩ := @outcome_of_lists unicode providers faults freshId server accounts mail
    account i hlists hreadable haccount
  obtain ⟨pair, hpair, hattempt⟩ := (hrows row).mp hrow
  obtain ⟨hmessage, hrule⟩ := mem_pairings hpair
  exact ⟨account, pair.rule, pair.message,
    ⟨haccount, hrule, hmessage, (attempt_ok_iff.mp hattempt).1⟩, proposes_of_attempt hattempt⟩

theorem asked_of_accepts (hlists : Lists unicode providers faults server.db accounts mail)
    (hreadable : RulesReadable server.db accounts) {rule : RuleWithConditions}
    {message : RawMailMessage}
    (haccepts : Accepts unicode server.db accounts mail account rule message) :
    ∃ row ∈ askedRows unicode providers faults freshId server.db accounts,
      row.uniqueIndex = (rule.rule.id, message.externalMessageId) := by
  obtain ⟨i, hi⟩ := exists_mem_zipIdx haccepts.ofScan
  obtain ⟨-, -, hrows⟩ := @outcome_of_lists unicode providers faults freshId server accounts mail
    account i hlists hreadable haccepts.ofScan
  obtain ⟨pair, hpair, rfl, rfl⟩ := exists_pairing haccepts.listed haccepts.active
  have htakes := hlists.taken account haccepts.ofScan pair.rule haccepts.active pair.message
    haccepts.listed haccepts.accepted
  obtain ⟨row, hattempt, hindex⟩ := @attempt_of_taken unicode faults freshId account i
    hlists.answers pair haccepts.accepted htakes
  refine ⟨row, List.mem_flatMap.mpr ⟨_, List.mem_map.mpr ⟨(account, i), hi, rfl⟩, ?_⟩, hindex⟩
  exact (hrows row).mpr ⟨pair, hpair, hattempt⟩

/-- The counters of a scan of listed mail. -/
theorem counts_of_lists (hlists : Lists unicode providers faults server.db accounts mail)
    (hreadable : RulesReadable server.db accounts) :
    let outcomes := outcomes unicode providers faults freshId server.db accounts 0
    outcomes.countP AccountOutcome.listed =
        accounts.countP (fun account => (server.db.activeRules account.id).length ≠ 0) ∧
      outcomes.countP AccountOutcome.failed = 0 := by
  intro outcomes
  have houtcome : ∀ account ∈ accounts.zipIdx, _ := fun account haccount =>
    @outcome_of_lists unicode providers faults freshId server accounts mail account.1 account.2
      hlists hreadable (List.fst_mem_of_mem_zipIdx haccount)
  constructor
  · have hzip : accounts.countP (fun account => (server.db.activeRules account.id).length ≠ 0) =
        accounts.zipIdx.countP fun account =>
          (server.db.activeRules account.1.id).length ≠ 0 := by
      conv_lhs => rw [← List.zipIdx_map_fst 0 accounts]
      exact List.countP_map
    rw [hzip, show outcomes.countP AccountOutcome.listed = _ from List.countP_map]
    apply List.countP_congr
    intro account haccount
    rw [← (houtcome account haccount).2.1]
    rfl
  · rw [show outcomes.countP AccountOutcome.failed = _ from List.countP_map, List.countP_eq_zero]
    intro account haccount hfailed
    exact Bool.false_ne_true ((houtcome account haccount).1.symm.trans hfailed)

/-- A scan of listed mail adds what the rules accept. -/
theorem scanAdds_of_lists (hlawful : providers.Lawful) (hfresh : FreshCandidateIds freshId server.db)
    (haccounts : ScannedAccounts server.db accounts)
    (hlists : Lists unicode providers faults server.db accounts mail)
    (hreadable : RulesReadable server.db accounts) :
    ∃ counts server', scanAccounts unicode providers faults freshId accounts server =
        (.ok counts, server') ∧
      ScanAdds unicode accounts mail server counts server' := by
  obtain ⟨counts, server', hrun, seen, hafter⟩ :=
    @scanAccounts_run unicode providers faults freshId accounts server hlawful hfresh haccounts
  obtain ⟨hlisted, hfailed⟩ :=
    @counts_of_lists unicode providers faults freshId server accounts mail hlists hreadable
  have hadded := @addedRows_eq server server' _ hafter.candidates
  have hcollected : server'.db.emailCandidates.rows = _ := hafter.candidates
  have hkept : server.db.emailCandidates.rows <+: server'.db.emailCandidates.rows := by
    rw [hcollected]
    exact prefix_collect _ _
  refine ⟨counts, server', hrun, hkept, ?_, ?_, ?_, ?_, ?_⟩
  · intro row hrow
    rw [hadded] at hrow
    rcases mem_of_mem_collect hrow with hnil | hasked
    · contradiction
    · obtain ⟨hasked, hnew⟩ := List.mem_filter.mp hasked
      exact ⟨hnew, accepts_of_asked hlists hreadable hasked⟩
  · intro account rule message haccepts hnew
    obtain ⟨asked, hasked, hindex⟩ :=
      @asked_of_accepts unicode providers faults freshId server accounts mail account hlists
        hreadable rule message haccepts
    -- The first row of the pair is inserted, and the unique index keeps out every other.
    have hpresent : asked.uniqueIndex ∈
        (addedRows server server').map EmailCandidate.uniqueIndex := by
      rw [hadded, mem_map_collect]
      refine .inr (List.mem_map_of_mem (List.mem_filter.mpr ⟨hasked, isNew_iff.mpr ?_⟩))
      rw [hindex]
      exact hnew
    have hnodup : ((addedRows server server').map EmailCandidate.uniqueIndex).Nodup := by
      rw [hadded]
      exact nodup_collect List.nodup_nil
    obtain ⟨row, hrow, hrowIndex⟩ := List.mem_map.mp hpresent
    refine ⟨row, hrow, hrowIndex.trans hindex, fun other hother heq => ?_⟩
    exact List.inj_on_of_nodup_map hnodup hother hrow heq
  · have hcreated : counts.createdCandidates + server.db.emailCandidates.rows.length =
        0 + server'.db.emailCandidates.rows.length := hafter.createdCandidates
    rw [addedRows, List.length_drop]
    omega
  · rw [← hlisted, ← Nat.zero_add (List.countP _ _)]
    exact hafter.scannedAccounts
  · rw [show counts.failedAccounts = 0 + _ from hafter.failedAccounts, hfailed]

/-- The added rows have different keys. -/
theorem addedRows_nodup (server server' : MailServer) :
    ((addedRows server server').map EmailCandidate.uniqueIndex).Nodup := by
  have hdistinct : server'.db.emailCandidates.rows.Pairwise fun a b => ¬ Clash a b :=
    server'.db.emailCandidates.distinct
  rw [List.Nodup, List.pairwise_map]
  refine (hdistinct.sublist (List.drop_sublist _ _)).imp ?_
  exact fun hclash heq => hclash (.inr heq)

/-- A scan that accepts nothing new adds nothing. -/
theorem ScanAdds.eq_of_present {counts : ScanResult}
    (hadds : ScanAdds unicode accounts mail server counts server')
    (hpresent : ∀ account rule message,
      Accepts unicode server.db accounts mail account rule message →
        (rule.rule.id, message.externalMessageId) ∈
          server.db.emailCandidates.rows.map EmailCandidate.uniqueIndex) :
    server'.db.emailCandidates = server.db.emailCandidates ∧ counts.createdCandidates = 0 := by
  have hnone : addedRows server server' = [] := by
    rw [List.eq_nil_iff_forall_not_mem]
    intro row hrow
    obtain ⟨hnew, account, rule, message, haccepts, hproposes⟩ := hadds.proposed row hrow
    apply isNew_iff.mp hnew
    rw [hproposes.uniqueIndex]
    exact hpresent account rule message haccepts
  obtain ⟨added, hrows⟩ := hadds.kept
  have hnil : added = [] := by
    rw [← hnone, addedRows, ← hrows, List.drop_left]
  refine ⟨Table.ext ?_, ?_⟩
  · rw [← hrows, hnil, List.append_nil]
  · rw [hadds.createdCandidates, hnone]
    rfl

end Adds

/-! ## Scanning again, and in another order -/

/-- A candidate but for its id and the text of its message. -/
def withoutContent (row : EmailCandidate) : EmailCandidate :=
  { row with id := "", sender := "", subject := "", receivedAt := 0 }

/-- An external id names one message of an account. -/
def IdsNameMessages (accounts : List EmailAccount)
    (mail : EmailAccount → List RawMailMessage) : Prop :=
  ∀ account ∈ accounts, ∀ message ∈ mail account, ∀ other ∈ mail account,
    message.externalMessageId = other.externalMessageId → message = other

/-- The mail of Gmail is so, where Gmail answers for the id it is asked. -/
theorem gmail_idsNameMessages {R : Runtime} (env : GmailEnvironment R)
    (hget : ∀ auth id headers message, env.google.messagesGet auth id headers = .ok message →
      message.id = id)
    {unicode : UnicodeData} {faults : ScanFaults} {db : Database} {accounts : List EmailAccount}
    {mail : EmailAccount → List RawMailMessage}
    (hlists : Lists unicode (gmailRegistry env) faults db accounts mail) :
    IdsNameMessages accounts mail := by
  intro account haccount message hmessage other hother hid
  have hlisting := hlists.listed account haccount
  unfold listing at hlisting
  cases hprovider : (gmailRegistry env).get account.providerType with
  | error err =>
      rw [hprovider] at hlisting
      contradiction
  | ok provider =>
      rw [hprovider] at hlisting
      have hmem := List.mem_of_find?_eq_some (MailProviderRegistry.get_ok_iff.mp hprovider)
      obtain rfl := List.mem_singleton.mp hmem
      replace hlisting :
          (GmailProvider.listCandidateMessages env account.id db).1 = .ok (mail account) := hlisting
      rw [GmailProvider.listCandidateMessages_result] at hlisting
      cases hclient : GmailProvider.authorizedClient env
          (db.emailAccounts.find? account.id) with
      | error err =>
          rw [hclient] at hlisting
          contradiction
      | ok auth =>
          rw [hclient] at hlisting
          exact GmailProvider.listedMessages_named env hget hlisting hmessage hother hid

/-- The same accounts, rules, conditions, candidates and messages in another order. -/
structure Reordered (db db' : Database) (accounts accounts' : List EmailAccount)
    (mail mail' : EmailAccount → List RawMailMessage) : Prop where
  sameAccounts : accounts.Perm accounts'
  rules : db.emailRules.rows.Perm db'.emailRules.rows
  conditions : db.emailRuleConditions.rows.Perm db'.emailRuleConditions.rows
  candidates : db.emailCandidates.rows.Perm db'.emailCandidates.rows
  messages : ∀ account ∈ accounts, (mail account).Perm (mail' account)

/-- A later scan whose accounts, rules and messages are among those of this one,
over a table that still has its keys. -/
structure ScannedAgain (db db' : Database) (accounts accounts' : List EmailAccount)
    (mail mail' : EmailAccount → List RawMailMessage) (stored : Table EmailCandidate) :
    Prop where
  known : ∀ account' ∈ accounts', ∃ account ∈ accounts, account.id = account'.id ∧
    db'.activeRules account'.id = db.activeRules account.id ∧ mail' account' ⊆ mail account
  keys : stored.rows.map EmailCandidate.uniqueIndex ⊆
    db'.emailCandidates.rows.map EmailCandidate.uniqueIndex

section Again

variable {unicode : UnicodeData} {server server' : MailServer} {db' : Database}
  {accounts accounts' : List EmailAccount} {mail mail' : EmailAccount → List RawMailMessage}

theorem ScannedAgain.present {counts : ScanResult}
    (hadds : ScanAdds unicode accounts mail server counts server')
    (hagain : ScannedAgain server.db db' accounts accounts' mail mail' server'.db.emailCandidates)
    {account : EmailAccount} {rule : RuleWithConditions} {message : RawMailMessage}
    (haccepts : Accepts unicode db' accounts' mail' account rule message) :
    (rule.rule.id, message.externalMessageId) ∈
      db'.emailCandidates.rows.map EmailCandidate.uniqueIndex := by
  obtain ⟨before, hbefore, hid, hrules, hmail⟩ := hagain.known account haccepts.ofScan
  have haccepts' : Accepts unicode server.db accounts mail before rule message :=
    ⟨hbefore, hrules ▸ haccepts.active, hmail haccepts.listed, haccepts.accepted⟩
  apply hagain.keys
  by_cases hold : (rule.rule.id, message.externalMessageId) ∈
      server.db.emailCandidates.rows.map EmailCandidate.uniqueIndex
  · exact List.map_subset _ hadds.kept.subset hold
  · obtain ⟨row, hrow, hindex, -⟩ := hadds.complete before rule message haccepts' hold
    rw [← hindex]
    exact List.mem_map_of_mem (List.mem_of_mem_drop hrow)

theorem Reordered.symm {db : Database}
    (hreordered : Reordered db db' accounts accounts' mail mail') :
    Reordered db' db accounts' accounts mail' mail where
  sameAccounts := hreordered.sameAccounts.symm
  rules := hreordered.rules.symm
  conditions := hreordered.conditions.symm
  candidates := hreordered.candidates.symm
  messages account haccount :=
    (hreordered.messages account (hreordered.sameAccounts.mem_iff.mpr haccount)).symm

/-- The order plays no role in what is accepted. -/
theorem Reordered.accepts {db : Database}
    (hreordered : Reordered db db' accounts accounts' mail mail') {account : EmailAccount}
    {rule : RuleWithConditions} {message : RawMailMessage}
    (haccepts : Accepts unicode db accounts mail account rule message) :
    Accepts unicode db' accounts' mail' account (db'.withConditions rule.rule) message := by
  obtain ⟨hrow, haccount, hactive, hrule⟩ := mem_activeRules_iff.mp haccepts.active
  refine ⟨hreordered.sameAccounts.mem_iff.mp haccepts.ofScan, mem_activeRules_iff.mpr
    ⟨hreordered.rules.mem_iff.mp hrow, haccount, hactive, rfl⟩,
    (hreordered.messages account haccepts.ofScan).mem_iff.mp haccepts.listed, ?_⟩
  have hconditions := hreordered.conditions.filter fun condition => condition.ruleId = rule.rule.id
  have hmatches := haccepts.accepted
  rw [hrule] at hmatches
  exact RuleMatcher.messageMatchesRule_perm hconditions hmatches

/-- Nor in whether the rules can be judged. -/
theorem Reordered.rulesReadable {db : Database}
    (hreordered : Reordered db db' accounts accounts' mail mail')
    (hreadable : RulesReadable db accounts) : RulesReadable db' accounts' := by
  intro account haccount rule hrule
  obtain ⟨hrow, hof, hactive, heq⟩ := mem_activeRules_iff.mp hrule
  have hbefore : db.withConditions rule.rule ∈ db.activeRules account.id :=
    mem_activeRules_iff.mpr ⟨hreordered.rules.mem_iff.mpr hrow, hof, hactive, rfl⟩
  rw [heq]
  intro condition hcondition
  have hsame := hreordered.conditions.filter fun condition => condition.ruleId = rule.rule.id
  exact hreadable account (hreordered.sameAccounts.mem_iff.mpr haccount) _ hbefore condition
    (hsame.mem_iff.mpr hcondition)

theorem ScannedAgain.rulesReadable {db : Database} {stored : Table EmailCandidate}
    (hagain : ScannedAgain db db' accounts accounts' mail mail' stored)
    (hreadable : RulesReadable db accounts) : RulesReadable db' accounts' := by
  intro account haccount rule hrule
  obtain ⟨before, hbefore, -, hrules, -⟩ := hagain.known account haccount
  exact hreadable before hbefore rule (hrules ▸ hrule)

/-- Two accepted messages of one key are under the same rule and account. -/
theorem accepts_of_key {db : Database} (haccounts : ScannedAccounts db accounts)
    {account account₂ : EmailAccount} {rule rule₂ : RuleWithConditions}
    {message message₂ : RawMailMessage}
    (haccepts : Accepts unicode db accounts mail account rule message)
    (haccepts₂ : Accepts unicode db accounts mail account₂ rule₂ message₂)
    (hid : rule.rule.id = rule₂.rule.id) : account = account₂ := by
  obtain ⟨hrow, haccount, -⟩ := mem_activeRules_iff.mp haccepts.active
  obtain ⟨hrow₂, haccount₂, -⟩ := mem_activeRules_iff.mp haccepts₂.active
  have hrule : rule.rule = rule₂.rule := db.emailRules.eq_of_key_eq hrow hrow₂ hid
  apply List.inj_on_of_nodup_map haccounts.nodup haccepts.ofScan haccepts₂.ofScan
  rw [← haccount, ← haccount₂, hrule]

/-- Each added row has its counterpart in the scan in the other order. -/
theorem Reordered.counterpart {server₂ server₂' : MailServer} {counts counts₂ : ScanResult}
    (hreordered : Reordered server.db server₂.db accounts accounts' mail mail')
    (haccounts' : ScannedAccounts server₂.db accounts')
    (hadds : ScanAdds unicode accounts mail server counts server')
    (hadds₂ : ScanAdds unicode accounts' mail' server₂ counts₂ server₂') {row : EmailCandidate}
    (hrow : row ∈ addedRows server server') :
    ∃ row₂ ∈ addedRows server₂ server₂', withoutContent row₂ = withoutContent row ∧
      (IdsNameMessages accounts mail → withoutId row₂ = withoutId row) := by
  obtain ⟨hnew, account, rule, message, haccepts, hproposes⟩ := hadds.proposed row hrow
  have haccepts' := hreordered.accepts haccepts
  have hindex := hproposes.uniqueIndex
  have hnew' : (rule.rule.id, message.externalMessageId) ∉
      server₂.db.emailCandidates.rows.map EmailCandidate.uniqueIndex := by
    rw [← hindex, ← (hreordered.candidates.map EmailCandidate.uniqueIndex).mem_iff]
    exact isNew_iff.mp hnew
  -- The other scan has a row for the same rule and message id, perhaps from another message.
  obtain ⟨row₂, hrow₂, hindex₂, -⟩ := hadds₂.complete account _ message haccepts' hnew'
  obtain ⟨-, account₂, rule₂, message₂, haccepts₂, hproposes₂⟩ := hadds₂.proposed row₂ hrow₂
  have hkey : (rule₂.rule.id, message₂.externalMessageId) =
      (rule.rule.id, message.externalMessageId) :=
    hproposes₂.uniqueIndex.symm.trans hindex₂
  obtain ⟨hruleId, hmessageId⟩ := Prod.mk.inj hkey
  have haccount : account₂ = account := accepts_of_key haccounts' haccepts₂ haccepts' hruleId
  refine ⟨row₂, hrow₂, ?_, fun hnames => ?_⟩
  · ext1
    case ruleId => exact hproposes₂.ruleId.trans (hruleId.trans hproposes.ruleId.symm)
    case emailAccountId =>
      exact hproposes₂.emailAccountId.trans (haccount ▸ hproposes.emailAccountId.symm)
    case externalMessageId =>
      exact hproposes₂.externalMessageId.trans
        (hmessageId.trans hproposes.externalMessageId.symm)
    case status => exact hproposes₂.status.trans hproposes.status.symm
    case processedAt => exact hproposes₂.processedAt.trans hproposes.processedAt.symm
    all_goals rfl
  · subst haccount
    have hmessage : message₂ = message := hnames account₂ haccepts.ofScan message₂
      ((hreordered.messages account₂ haccepts.ofScan).mem_iff.mpr haccepts₂.listed) message
      haccepts.listed hmessageId
    subst hmessage
    ext1
    case id => rfl
    case ruleId => exact hproposes₂.ruleId.trans (hruleId.trans hproposes.ruleId.symm)
    case emailAccountId => exact hproposes₂.emailAccountId.trans hproposes.emailAccountId.symm
    case externalMessageId =>
      exact hproposes₂.externalMessageId.trans hproposes.externalMessageId.symm
    case sender => exact hproposes₂.sender.trans hproposes.sender.symm
    case subject => exact hproposes₂.subject.trans hproposes.subject.symm
    case receivedAt =>
      exact Option.some.inj (hproposes₂.receivedAt.symm.trans hproposes.receivedAt)
    case status => exact hproposes₂.status.trans hproposes.status.symm
    case processedAt => exact hproposes₂.processedAt.trans hproposes.processedAt.symm

end Again

/-- Scanning the same mail later adds nothing. -/
def AddsNothingAgain (unicode : UnicodeData) (accounts : List EmailAccount)
    (mail : EmailAccount → List RawMailMessage) (server server' : MailServer) : Prop :=
  ∀ providers₂ faults₂ freshId₂ accounts₂ mail₂ server₂, MailProviderRegistry.Lawful providers₂ →
    FreshCandidateIds freshId₂ server₂.db → ScannedAccounts server₂.db accounts₂ →
    Lists unicode providers₂ faults₂ server₂.db accounts₂ mail₂ →
    ScannedAgain server.db server₂.db accounts accounts₂ mail mail₂ server'.db.emailCandidates →
      ∃ counts₂ server₂', scanAccounts unicode providers₂ faults₂ freshId₂ accounts₂ server₂ =
          (.ok counts₂, server₂') ∧
        server₂'.db.emailCandidates = server₂.db.emailCandidates ∧ counts₂.createdCandidates = 0

/-- In another order rows with the same `view` are added. -/
def AddsInAnyOrder (view : EmailCandidate → EmailCandidate) (unicode : UnicodeData)
    (accounts : List EmailAccount) (mail : EmailAccount → List RawMailMessage)
    (server server' : MailServer) : Prop :=
  ∀ providers₂ faults₂ freshId₂ accounts₂ mail₂ server₂, MailProviderRegistry.Lawful providers₂ →
    FreshCandidateIds freshId₂ server₂.db → ScannedAccounts server₂.db accounts₂ →
    Lists unicode providers₂ faults₂ server₂.db accounts₂ mail₂ →
    Reordered server.db server₂.db accounts accounts₂ mail mail₂ →
      ∃ counts₂ server₂', scanAccounts unicode providers₂ faults₂ freshId₂ accounts₂ server₂ =
          (.ok counts₂, server₂') ∧
        ((addedRows server₂ server₂').map view).Perm ((addedRows server server').map view)

/-- A scan of listed mail adds what the rules accept, nothing the next time, and the same
rows in any order. -/
def ScansExactly (unicode : UnicodeData) (providers : MailProviderRegistry) (faults : ScanFaults)
    (freshId : Nat → Nat → Nat → String) (server : MailServer) (accounts : List EmailAccount)
    (mail : EmailAccount → List RawMailMessage) : Prop :=
  providers.Lawful → FreshCandidateIds freshId server.db → ScannedAccounts server.db accounts →
  Lists unicode providers faults server.db accounts mail →
    ∃ counts server', scanAccounts unicode providers faults freshId accounts server =
        (.ok counts, server') ∧
      ScanAdds unicode accounts mail server counts server' ∧
      AddsNothingAgain unicode accounts mail server server' ∧
      AddsInAnyOrder withoutId unicode accounts mail server server'

section Correct

variable {unicode : UnicodeData} {providers : MailProviderRegistry} {faults : ScanFaults}
  {freshId : Nat → Nat → Nat → String} {server server' : MailServer}
  {accounts : List EmailAccount} {mail : EmailAccount → List RawMailMessage}
  {counts : ScanResult}

theorem ScanAdds.addsNothingAgain (hadds : ScanAdds unicode accounts mail server counts server')
    (hreadable : RulesReadable server.db accounts) :
    AddsNothingAgain unicode accounts mail server server' := by
  intro providers₂ faults₂ freshId₂ accounts₂ mail₂ server₂ hlawful hfresh haccounts hlists hagain
  obtain ⟨counts₂, server₂', hrun, hadds₂⟩ :=
    scanAdds_of_lists hlawful hfresh haccounts hlists (hagain.rulesReadable hreadable)
  refine ⟨counts₂, server₂', hrun, ?_⟩
  apply hadds₂.eq_of_present
  intro account rule message haccepts
  exact hagain.present hadds haccepts

theorem Reordered.idsNameMessages {db db' : Database} {accounts' : List EmailAccount}
    {mail' : EmailAccount → List RawMailMessage}
    (hreordered : Reordered db db' accounts accounts' mail mail')
    (hnames : IdsNameMessages accounts mail) : IdsNameMessages accounts' mail' := by
  intro account haccount message hmessage other hother
  have haccount := hreordered.sameAccounts.mem_iff.mpr haccount
  have hperm := hreordered.messages account haccount
  exact hnames account haccount message (hperm.mem_iff.mpr hmessage) other
    (hperm.mem_iff.mpr hother)

/-- The rows are the same but for their ids and the text of their messages. -/
theorem ScanAdds.addsInAnyOrder (haccounts : ScannedAccounts server.db accounts)
    (hadds : ScanAdds unicode accounts mail server counts server')
    (hreadable : RulesReadable server.db accounts) :
    AddsInAnyOrder withoutContent unicode accounts mail server server' := by
  intro providers₂ faults₂ freshId₂ accounts₂ mail₂ server₂ hlawful hfresh haccounts₂ hlists
    hreordered
  obtain ⟨counts₂, server₂', hrun, hadds₂⟩ :=
    scanAdds_of_lists hlawful hfresh haccounts₂ hlists (hreordered.rulesReadable hreadable)
  refine ⟨counts₂, server₂', hrun, ?_⟩
  apply perm_map_of_mutual (fun row => (rfl : (withoutContent row).uniqueIndex = row.uniqueIndex))
    (addedRows_nodup server₂ server₂') (addedRows_nodup server server')
  · intro row hrow
    obtain ⟨row', hrow', heq, -⟩ := hreordered.symm.counterpart haccounts hadds₂ hadds hrow
    exact ⟨row', hrow', heq⟩
  · intro row hrow
    obtain ⟨row', hrow', heq, -⟩ := hreordered.counterpart haccounts₂ hadds hadds₂ hrow
    exact ⟨row', hrow', heq⟩

/-- And in the text too, when an id names one message. -/
theorem ScanAdds.addsInAnyOrder_of_named (haccounts : ScannedAccounts server.db accounts)
    (hadds : ScanAdds unicode accounts mail server counts server')
    (hreadable : RulesReadable server.db accounts) (hnames : IdsNameMessages accounts mail) :
    AddsInAnyOrder withoutId unicode accounts mail server server' := by
  intro providers₂ faults₂ freshId₂ accounts₂ mail₂ server₂ hlawful hfresh haccounts₂ hlists
    hreordered
  obtain ⟨counts₂, server₂', hrun, hadds₂⟩ :=
    scanAdds_of_lists hlawful hfresh haccounts₂ hlists (hreordered.rulesReadable hreadable)
  have hnames₂ := hreordered.idsNameMessages hnames
  refine ⟨counts₂, server₂', hrun, ?_⟩
  apply perm_map_of_mutual (fun row => (rfl : (withoutId row).uniqueIndex = row.uniqueIndex))
    (addedRows_nodup server₂ server₂') (addedRows_nodup server server')
  · intro row hrow
    obtain ⟨row', hrow', -, heq⟩ := hreordered.symm.counterpart haccounts hadds₂ hadds hrow
    exact ⟨row', hrow', heq hnames₂⟩
  · intro row hrow
    obtain ⟨row', hrow', -, heq⟩ := hreordered.counterpart haccounts₂ hadds hadds₂ hrow
    exact ⟨row', hrow', heq hnames⟩

end Correct

/-- A scan of listed mail adds one row for each accepted message without a row,
nothing the next time, and rows of the same keys in any order; the same rows, when an id
names one message. -/
theorem scanAccounts_correct {unicode : UnicodeData} {providers : MailProviderRegistry}
    {faults : ScanFaults} {freshId : Nat → Nat → Nat → String} {server : MailServer}
    {accounts : List EmailAccount} {mail : EmailAccount → List RawMailMessage}
    (hlawful : providers.Lawful) (hfresh : FreshCandidateIds freshId server.db)
    (haccounts : ScannedAccounts server.db accounts)
    (hlists : Lists unicode providers faults server.db accounts mail)
    (hreadable : RulesReadable server.db accounts) :
    ∃ counts server', scanAccounts unicode providers faults freshId accounts server =
        (.ok counts, server') ∧
      ScanAdds unicode accounts mail server counts server' ∧
      AddsNothingAgain unicode accounts mail server server' ∧
      AddsInAnyOrder withoutContent unicode accounts mail server server' ∧
      (IdsNameMessages accounts mail →
        AddsInAnyOrder withoutId unicode accounts mail server server') := by
  obtain ⟨counts, server', hrun, hadds⟩ :=
    scanAdds_of_lists hlawful hfresh haccounts hlists hreadable
  exact ⟨counts, server', hrun, hadds, hadds.addsNothingAgain hreadable,
    hadds.addsInAnyOrder haccounts hreadable, hadds.addsInAnyOrder_of_named haccounts hreadable⟩

/-! ## Mail under one id, and a rule without a value -/

namespace OneMessage

/-- Gmail, which answers a mail with the subject under the id `m` for each of the ids. -/
def oneId (subjects : List String) : GmailEnvironment symbolicRuntime :=
  { environment [] with
    google := { google [] with
      messagesList := fun _ _ _ => .ok ⟨some subjects, none⟩
      messagesGet := fun _ subject _ => .ok
        ⟨"m", some (.mk none (some [⟨some "Subject", some subject⟩]) none), none, some "1000"⟩ } }

def mails (subjects : List String) : List RawMailMessage :=
  subjects.map fun subject => ⟨"m", "", subject, "", some 1000, false⟩

/-- The condition of the first rule has the value `null`. -/
def nullDb : Database :=
  { db with
    emailRules := ⟨[rule "n" "important", rule "r" "delete_candidate"], by decide⟩
    emailRuleConditions := ⟨[⟨"d", "n", "has_emoji", .null⟩, condition "c" "r"], by decide⟩ }

/-- Mail that is listed for the account and taken by PostgreSQL. -/
theorem lists_mails {db : Database} {subjects : List String}
    (hlisted : listing (gmailRegistry (oneId subjects)) db account = .ok (mails subjects))
    (htaken : ∀ message ∈ mails subjects, ScanFaults.postgres.Takes message) :
    Lists asciiData (gmailRegistry (oneId subjects)) .postgres db [account]
      fun _ => mails subjects where
  answers := ScanFaults.postgres_answers
  listed account haccount := by
    obtain rfl := List.mem_singleton.mp haccount
    exact hlisted
  taken account _ rule _ message hmessage _ := htaken message hmessage

end OneMessage

open OneMessage in
/-- A rule with a `null` value stops the scan before the other rule of its account, and of two
mails under one id the text of the first is stored. -/
theorem not_scansExactly :
    ¬ ScansExactly asciiData (gmailRegistry (oneId ["a"])) .postgres freshId ⟨nullDb, [], []⟩
        [account] (fun _ => mails ["a"]) ∧
      ¬ ScansExactly asciiData (gmailRegistry (oneId ["a", "b"])) .postgres freshId ⟨db, [], []⟩
        [account] (fun _ => mails ["a", "b"]) := by
  constructor
  · intro hscans
    obtain ⟨counts, server', hrun, hadds, -⟩ := hscans (gmailRegistry_lawful _) (freshIds rfl)
      ⟨by decide, by decide⟩ (lists_mails (by decide +kernel) (by decide +kernel))
    have hcounts : (scanAccounts asciiData (gmailRegistry (oneId ["a"])) .postgres freshId [account]
        ⟨nullDb, [], []⟩).1 = .ok ⟨1, 0, 1⟩ := by decide +kernel
    rw [hrun] at hcounts
    have hfailed := hadds.failedAccounts
    rw [Except.ok.inj hcounts] at hfailed
    contradiction
  · intro hscans
    obtain ⟨counts, server', hrun, -, -, hordered⟩ := hscans (gmailRegistry_lawful _) (freshIds rfl)
      ⟨by decide, by decide⟩ (lists_mails (by decide +kernel) (by decide +kernel))
    obtain ⟨counts₂, server₂', hrun₂, hperm⟩ := hordered (gmailRegistry (oneId ["b", "a"])) .postgres
      freshId [account] (fun _ => mails ["b", "a"]) ⟨db, [], []⟩ (gmailRegistry_lawful _)
      (freshIds rfl) ⟨by decide, by decide⟩ (lists_mails (by decide +kernel) (by decide +kernel))
      ⟨.refl _, .refl _, .refl _, .refl _, fun _ _ => List.Perm.swap _ _ _⟩
    have hfirst : (addedRows ⟨db, [], []⟩ (scanAccounts asciiData
        (gmailRegistry (oneId ["a", "b"])) .postgres freshId [account] ⟨db, [], []⟩).2).map
          EmailCandidate.subject = ["a"] := by decide +kernel
    have hsecond : (addedRows ⟨db, [], []⟩ (scanAccounts asciiData
        (gmailRegistry (oneId ["b", "a"])) .postgres freshId [account] ⟨db, [], []⟩).2).map
          EmailCandidate.subject = ["b"] := by decide +kernel
    rw [hrun] at hfirst
    rw [hrun₂] at hsecond
    have hsubjects := hperm.map EmailCandidate.subject
    rw [List.map_map, List.map_map] at hsubjects
    have hsame : ["b"].Perm ["a"] := by
      rw [← hfirst, ← hsecond]
      exact hsubjects
    exact absurd hsame (by decide)

open OneMessage in
theorem scanAccounts_correct_example :
    ∃ counts server', scanAccounts asciiData (gmailRegistry (oneId ["a", "b"])) .postgres freshId
        [account] ⟨db, [], []⟩ = (.ok counts, server') ∧
      ScanAdds asciiData [account] (fun _ => mails ["a", "b"]) ⟨db, [], []⟩ counts server' ∧
      AddsInAnyOrder withoutContent asciiData [account] (fun _ => mails ["a", "b"]) ⟨db, [], []⟩
        server' := by
  have hreadable : RulesReadable db [account] := by
    intro account haccount
    obtain rfl := List.mem_singleton.mp haccount
    exact readable
  obtain ⟨counts, server', hrun, hadds, -, hordered, -⟩ :=
    @scanAccounts_correct asciiData (gmailRegistry (oneId ["a", "b"])) .postgres freshId
      ⟨db, [], []⟩ [account] (fun _ => mails ["a", "b"]) (gmailRegistry_lawful _) (freshIds rfl)
      ⟨by decide, by decide⟩ (lists_mails (by decide +kernel) (by decide +kernel)) hreadable
  exact ⟨counts, server', hrun, hadds, hordered⟩

end CandidatesService

end MyAccountController
