import MyAccountController.Foundation.FirstWins
import MyAccountController.Mail.CandidatesService

/-! # What a scan adds

Inside one account a scan goes through the pairs of a message and a rule, and
each pair that matches is an attempt to insert a row. The attempts before the
first one that fails are collected by the unique index of the table. Between
accounts nothing is shared but the table and the counters.
-/

namespace MyAccountController

open Foundation

/-- The entry of a candidate in `@@unique([ruleId, externalMessageId])`. -/
def EmailCandidate.uniqueIndex (candidate : EmailCandidate) : String × String :=
  (candidate.ruleId, candidate.externalMessageId)

/-- The state after the candidates were replaced and counted. -/
def ScanState.store (state : ScanState) (candidates : Table EmailCandidate)
    (createdCandidates : Nat) : ScanState where
  server := { state.server with
    db := Prisma.emailCandidate.withTable state.server.db candidates }
  counts := { state.counts with createdCandidates }

/-- The state after the provider has listed messages. -/
def ScanState.afterListing (state : ScanState) (db : Database) (emailAccountId : String)
    (messages : List RawMailMessage) : ScanState where
  server := { state.server with
    db
    listed := state.server.listed ++ messages.map fun message => (emailAccountId, message) }
  counts := { state.counts with scannedAccounts := state.counts.scannedAccounts + 1 }

/-- The stored candidates. -/
def ScanState.candidates (state : ScanState) : List EmailCandidate :=
  state.server.db.emailCandidates.rows

@[simp] theorem ScanState.candidates_store (state : ScanState) (table : Table EmailCandidate)
    (createdCandidates : Nat) : (state.store table createdCandidates).candidates = table.rows :=
  rfl

namespace CandidatesService

theorem mem_activeRules_iff {db : Database} {emailAccountId : String} {rule : RuleWithConditions} :
    rule ∈ db.activeRules emailAccountId ↔
      rule.rule ∈ db.emailRules.rows ∧ rule.rule.emailAccountId = emailAccountId ∧
        rule.rule.isActive = true ∧ rule = db.withConditions rule.rule := by
  rw [Database.activeRules, List.mem_map]
  constructor
  · rintro ⟨row, hrow, rfl⟩
    obtain ⟨hrow, hselected⟩ := List.mem_filter.mp hrow
    obtain ⟨haccount, hactive⟩ := of_decide_eq_true hselected
    exact ⟨hrow, haccount, hactive, rfl⟩
  · rintro ⟨hrow, haccount, hactive, hrule⟩
    exact ⟨rule.rule, List.mem_filter.mpr ⟨hrow, decide_eq_true ⟨haccount, hactive⟩⟩, hrule.symm⟩

/-- A message against a rule, with their positions in the loops. -/
structure Pairing where
  message : RawMailMessage
  messageAt : Nat
  rule : RuleWithConditions
  ruleAt : Nat

/-- The order of the nested loops. -/
def pairings (messages : List RawMailMessage) (rules : List RuleWithConditions) : List Pairing :=
  messages.zipIdx.flatMap fun (message, j) =>
    rules.zipIdx.map fun (rule, k) => ⟨message, j, rule, k⟩

/-! ## Attempts -/

section Attempts

variable {α : Type}

/-- The results before the first exception. -/
def leading : List (Except Exception α) → List α
  | .ok a :: rest => a :: leading rest
  | _ => []

/-- The first exception. -/
def firstError : List (Except Exception α) → Option Exception
  | [] => none
  | .ok _ :: rest => firstError rest
  | .error err :: _ => some err

/-- How a loop over the attempts ends. -/
def ending (attempts : List (Except Exception α)) : Except Exception PUnit :=
  match firstError attempts with
  | none => .ok ⟨⟩
  | some err => .error err

theorem mem_leading {attempts : List (Except Exception α)} {a : α} (hmem : a ∈ leading attempts) :
    .ok a ∈ attempts := by
  induction attempts with
  | nil => contradiction
  | cons first rest ih =>
      cases first with
      | error err => contradiction
      | ok b =>
          rcases List.mem_cons.mp hmem with rfl | hrest
          · exact List.mem_cons_self
          · exact List.mem_cons_of_mem _ (ih hrest)

theorem ending_isOk (attempts : List (Except Exception α)) :
    (ending attempts).isOk = !(firstError attempts).isSome := by
  unfold ending
  cases firstError attempts <;> rfl

end Attempts

section Account

variable (unicode : UnicodeData) (faults : ScanFaults) (freshId : Nat → Nat → Nat → String)
  (i : Nat) (emailAccountId : String)

/-- The insertion that a pair leads to when it matches. -/
def insertion (pair : Pairing) : Except Exception EmailCandidate :=
  match faults.fault i pair.messageAt pair.ruleAt pair.message with
  | some err => .error err
  | none => candidateInput (freshId i pair.messageAt pair.ruleAt) pair.rule.rule.id emailAccountId
      pair.message

/-- A pair leads to nothing, to an insertion, or to the exception of the matcher. -/
def attempt (pair : Pairing) : Option (Except Exception EmailCandidate) :=
  match RuleMatcher.messageMatchesRule unicode pair.message pair.rule with
  | .ok true => some (insertion faults freshId i emailAccountId pair)
  | .ok false => none
  | .error err => some (.error err)

/-- The attempts for account `i`, in their order. -/
def attempts (messages : List RawMailMessage) (rules : List RuleWithConditions) :
    List (Except Exception EmailCandidate) :=
  (pairings messages rules).filterMap (attempt unicode faults freshId i emailAccountId)

end Account

/-- The body of the loops for one pair. -/
def proposePair (unicode : UnicodeData) (faults : ScanFaults)
    (freshId : Nat → Nat → Nat → String) (i : Nat) (emailAccountId : String) (pair : Pairing) :
    Handler Exception ScanState Unit :=
  propose unicode (faults.fault i pair.messageAt pair.ruleAt pair.message)
    (freshId i pair.messageAt pair.ruleAt) emailAccountId pair.message pair.rule

section Loops

variable {unicode : UnicodeData} {faults : ScanFaults} {freshId : Nat → Nat → Nat → String}
  {i : Nat} {emailAccountId : String}

theorem proposeAll_eq (messages : List RawMailMessage) (rules : List RuleWithConditions) :
    proposeAll unicode faults freshId i emailAccountId messages rules =
      (pairings messages rules).forM (proposePair unicode faults freshId i emailAccountId) := by
  rw [pairings, Handler.forM_flatMap]
  have hinner : ∀ pair : RawMailMessage × Nat,
      (rules.zipIdx.map fun (rule, k) => (⟨pair.1, pair.2, rule, k⟩ : Pairing)).forM
        (proposePair unicode faults freshId i emailAccountId) =
      rules.zipIdx.forM fun (rule, k) => propose unicode (faults.fault i pair.2 k pair.1)
        (freshId i pair.2 k) emailAccountId pair.1 rule :=
    fun pair => Handler.forM_map _ _ _
  simp only [hinner]
  rfl

theorem candidateInput_ok_iff {id ruleId : String} {message : RawMailMessage}
    {row : EmailCandidate} : candidateInput id ruleId emailAccountId message = .ok row ↔
      message.receivedAt = some row.receivedAt ∧ row =
        { id, ruleId, emailAccountId
          externalMessageId := message.externalMessageId
          sender := message.sender
          subject := message.subject
          receivedAt := row.receivedAt
          status := .PENDING
          processedAt := none } := by
  unfold candidateInput
  split
  next hdate => simp [hdate]
  next receivedAt hdate =>
    rw [hdate, Except.ok.injEq]
    constructor
    · rintro rfl
      exact ⟨rfl, rfl⟩
    · rintro ⟨hreceived, hrow⟩
      rw [hrow, Option.some.inj hreceived]

theorem candidateInput_error {id ruleId : String} {message : RawMailMessage} {err : Exception}
    (herror : candidateInput id ruleId emailAccountId message = .error err) :
    message.receivedAt = none ∧ err = .prismaValidation := by
  unfold candidateInput at herror
  split at herror
  next hdate => exact ⟨hdate, (Except.error.inj herror).symm⟩
  next => contradiction

/-- A failed insertion is never taken for a duplicate. -/
theorem insertion_error {pair : Pairing} {err : Exception}
    (herror : insertion faults freshId i emailAccountId pair = .error err) : err ≠ .p2002 := by
  unfold insertion at herror
  split at herror
  next fault hfault =>
    rw [← Except.error.inj herror]
    exact faults.fault_ne hfault
  next =>
    rw [(candidateInput_error herror).2]
    decide

/-- What the database makes of the insertion. -/
theorem createCandidate_eq (pair : Pairing) (db : Database) :
    createCandidate (faults.fault i pair.messageAt pair.ruleAt pair.message)
        (freshId i pair.messageAt pair.ruleAt) pair.rule.rule.id emailAccountId pair.message db =
      (Handler.ofExcept (insertion faults freshId i emailAccountId pair) >>=
        Prisma.emailCandidate.create) db := by
  unfold createCandidate insertion
  cases faults.fault i pair.messageAt pair.ruleAt pair.message with
  | some fault => rfl
  | none =>
      cases candidateInput (freshId i pair.messageAt pair.ruleAt) pair.rule.rule.id emailAccountId
        pair.message <;> rfl

section Attempted

variable {pair : Pairing}

theorem attempt_none_iff : attempt unicode faults freshId i emailAccountId pair = none ↔
    RuleMatcher.messageMatchesRule unicode pair.message pair.rule = .ok false := by
  unfold attempt
  rcases RuleMatcher.messageMatchesRule unicode pair.message pair.rule with err | _ | _ <;> simp

theorem attempt_of_accepted
    (haccepted : RuleMatcher.messageMatchesRule unicode pair.message pair.rule = .ok true) :
    attempt unicode faults freshId i emailAccountId pair =
      some (insertion faults freshId i emailAccountId pair) := by
  unfold attempt
  rw [haccepted]

theorem attempt_of_thrown {err : Exception}
    (hthrown : RuleMatcher.messageMatchesRule unicode pair.message pair.rule = .error err) :
    attempt unicode faults freshId i emailAccountId pair = some (.error err) := by
  unfold attempt
  rw [hthrown]

theorem attempt_ok_iff {row : EmailCandidate} :
    attempt unicode faults freshId i emailAccountId pair = some (.ok row) ↔
      RuleMatcher.messageMatchesRule unicode pair.message pair.rule = .ok true ∧
        faults.fault i pair.messageAt pair.ruleAt pair.message = none ∧
        candidateInput (freshId i pair.messageAt pair.ruleAt) pair.rule.rule.id emailAccountId
          pair.message = .ok row := by
  unfold attempt insertion
  rcases RuleMatcher.messageMatchesRule unicode pair.message pair.rule with err | _ | _
  · simp
  · simp
  · cases faults.fault i pair.messageAt pair.ruleAt pair.message <;> simp

end Attempted

variable {pair : Pairing} {state : ScanState}

theorem proposePair_of_none
    (hattempt : attempt unicode faults freshId i emailAccountId pair = none) :
    proposePair unicode faults freshId i emailAccountId pair state = (.ok (), state) := by
  rw [proposePair, propose, attempt_none_iff.mp hattempt]
  rfl

/-- A matching pair is one insertion, counted when it succeeds. -/
theorem proposePair_of_accepted
    (haccepted : RuleMatcher.messageMatchesRule unicode pair.message pair.rule = .ok true) :
    proposePair unicode faults freshId i emailAccountId pair = Handler.recover
      (do
        let _ ← ScanState.onServer (MailServer.query
          (createCandidate (faults.fault i pair.messageAt pair.ruleAt pair.message)
            (freshId i pair.messageAt pair.ruleAt) pair.rule.rule.id emailAccountId pair.message))
        ScanState.count fun counts =>
          { counts with createdCandidates := counts.createdCandidates + 1 })
      fun err => if err ≠ .p2002 then Handler.raise err else pure () := by
  rw [proposePair, propose, haccepted]
  rfl

theorem onServer_query_run {α : Type} {x : Query α} {result : Except Exception α} {db : Database}
    (hrun : x state.server.db = (result, db)) :
    ScanState.onServer (MailServer.query x) state =
      (result, { state with server := { state.server with db } }) := by
  simp only [ScanState.onServer, MailServer.query, Handler.zoom_run, hrun]

theorem proposePair_of_error {err : Exception}
    (hattempt : attempt unicode faults freshId i emailAccountId pair = some (.error err)) :
    proposePair unicode faults freshId i emailAccountId pair state = (.error err, state) := by
  rcases hjudged : RuleMatcher.messageMatchesRule unicode pair.message pair.rule with
    thrown | _ | _
  · rw [attempt_of_thrown hjudged] at hattempt
    rw [proposePair, propose, hjudged, Except.error.inj (Option.some.inj hattempt)]
    rfl
  · rw [attempt_none_iff.mpr hjudged] at hattempt
    contradiction
  · rw [attempt_of_accepted hjudged] at hattempt
    have hinsertion := Option.some.inj hattempt
    have hrefused : (Handler.ofExcept (insertion faults freshId i emailAccountId pair) >>=
        Prisma.emailCandidate.create) state.server.db = (.error err, state.server.db) := by
      rw [hinsertion]
      rfl
    have hcreate := onServer_query_run ((createCandidate_eq pair state.server.db).trans hrefused)
    rw [proposePair_of_accepted hjudged, Handler.recover_error_iff, Handler.bind_of_error hcreate]
    refine ⟨err, state, rfl, ?_⟩
    rw [if_pos (insertion_error hinsertion)]
    rfl

/-- A row is collected, and counted when it is new. -/
theorem proposePair_of_ok {row : EmailCandidate}
    (hattempt : attempt unicode faults freshId i emailAccountId pair = some (.ok row))
    (hid : ∀ other ∈ state.candidates, other.id ≠ row.id)
    (hreferences : Prisma.emailCandidate.references state.server.db row = true) :
    ∃ table created, proposePair unicode faults freshId i emailAccountId pair state =
        (.ok (), state.store table created) ∧
      table.rows = addNew EmailCandidate.uniqueIndex state.candidates row ∧
      created + state.candidates.length =
        state.counts.createdCandidates + table.rows.length := by
  have haccepted := (attempt_ok_iff.mp hattempt).1
  rw [attempt_of_accepted haccepted] at hattempt
  have hcreate := @createCandidate_eq faults freshId i emailAccountId pair state.server.db
  rw [Option.some.inj hattempt] at hcreate
  rw [proposePair_of_accepted haccepted]
  by_cases hmem : row.uniqueIndex ∈ state.candidates.map EmailCandidate.uniqueIndex
  · -- The index refuses a duplicate, and the refusal is swallowed.
    refine ⟨state.server.db.emailCandidates, state.counts.createdCandidates, ?_,
      (addNew_of_mem hmem).symm, rfl⟩
    obtain ⟨other, hother, hindex⟩ := List.mem_map.mp hmem
    have hnone : (Prisma.emailCandidate.table state.server.db).insert? row = none :=
      Table.insert?_eq_none_iff.mpr ⟨other, hother, .inr hindex⟩
    have hrefused : Prisma.emailCandidate.create row state.server.db =
        (.error .p2002, state.server.db) := by
      unfold Model.create
      rw [hnone]
    have hrun := onServer_query_run (hcreate.trans hrefused)
    rw [Handler.recover_ok_iff, Handler.bind_of_error hrun]
    exact .inr ⟨.p2002, state, rfl, rfl⟩
  · have hfree : ∀ other ∈ state.candidates, ¬ Clash other row := by
      rintro other hother (hclash | hclash)
      · exact hid other hother hclash
      · exact hmem (List.mem_map.mpr ⟨other, hother, hclash⟩)
    have hinserted : state.server.db.emailCandidates.insert? row ≠ none :=
      mt Table.insert?_eq_none_iff.mp fun ⟨other, hother, hclash⟩ => hfree other hother hclash
    obtain ⟨table, hinsert⟩ := Option.ne_none_iff_exists'.mp hinserted
    have hrows := (Table.insert?_eq_some_iff.mp hinsert).2
    have hstored : Prisma.emailCandidate.create row state.server.db =
        (.ok row, Prisma.emailCandidate.withTable state.server.db table) :=
      (Model.create_ok_iff _).mpr ⟨rfl, hreferences, table, hinsert, rfl⟩
    have hrun := onServer_query_run (hcreate.trans hstored)
    refine ⟨table, state.counts.createdCandidates + 1, ?_, ?_, ?_⟩
    · rw [Handler.recover_ok_iff, Handler.bind_of_ok hrun]
      exact .inl rfl
    · rw [addNew_of_not_mem hmem]
      exact hrows
    · rw [hrows, List.length_append, List.length_singleton]
      show _ + 1 + state.server.db.emailCandidates.rows.length = _
      omega

/-- The rule and the account of every pair are stored. -/
def Referenced (db : Database) (emailAccountId : String) (pairs : List Pairing) : Prop :=
  ∀ pair ∈ pairs, (db.emailRules.find? pair.rule.rule.id).isSome ∧
    (db.emailAccounts.find? emailAccountId).isSome

/-- The loop collects the rows up to the first attempt that fails. -/
theorem proposePairs_run {pairs : List Pairing}
    (hnodup : (pairs.map fun pair => freshId i pair.messageAt pair.ruleAt).Nodup)
    (hunused : ∀ row ∈ state.candidates, ∀ pair ∈ pairs,
      row.id ≠ freshId i pair.messageAt pair.ruleAt)
    (hreferenced : Referenced state.server.db emailAccountId pairs) :
    ∃ table created, pairs.forM (proposePair unicode faults freshId i emailAccountId) state =
        (ending (pairs.filterMap (attempt unicode faults freshId i emailAccountId)),
          state.store table created) ∧
      table.rows = collect EmailCandidate.uniqueIndex state.candidates
        (leading (pairs.filterMap (attempt unicode faults freshId i emailAccountId))) ∧
      created + state.candidates.length =
        state.counts.createdCandidates + table.rows.length := by
  induction pairs generalizing state with
  | nil => exact ⟨state.server.db.emailCandidates, state.counts.createdCandidates, rfl, rfl, rfl⟩
  | cons pair pairs ih =>
      obtain ⟨hfirst, hrest⟩ := List.nodup_cons.mp hnodup
      have hunused' : ∀ row ∈ state.candidates, ∀ other ∈ pairs,
          row.id ≠ freshId i other.messageAt other.ruleAt :=
        fun row hrow other hother => hunused row hrow other (List.mem_cons_of_mem _ hother)
      have hreferenced' : Referenced state.server.db emailAccountId pairs :=
        fun other hother => hreferenced other (List.mem_cons_of_mem _ hother)
      show ∃ table created, (proposePair unicode faults freshId i emailAccountId pair >>=
        fun _ => pairs.forM _) state = _ ∧ _
      cases hattempt : attempt unicode faults freshId i emailAccountId pair with
      | none =>
          rw [List.filterMap_cons_none hattempt,
            Handler.bind_of_ok (proposePair_of_none hattempt)]
          exact ih hrest hunused' hreferenced'
      | some result =>
          rw [List.filterMap_cons_some hattempt]
          cases result with
          | error err =>
              rw [Handler.bind_of_error (proposePair_of_error hattempt)]
              exact ⟨state.server.db.emailCandidates, state.counts.createdCandidates, rfl, rfl, rfl⟩
          | ok row =>
              obtain ⟨-, -, hinput⟩ := attempt_ok_iff.mp hattempt
              obtain ⟨-, hrow⟩ := candidateInput_ok_iff.mp hinput
              have hid : row.id = freshId i pair.messageAt pair.ruleAt := by rw [hrow]
              have hreferences : Prisma.emailCandidate.references state.server.db row = true := by
                obtain ⟨hrule, haccount⟩ := hreferenced pair List.mem_cons_self
                rw [hrow]
                exact Bool.and_eq_true_iff.mpr ⟨hrule, haccount⟩
              obtain ⟨table, created, hrun, hrows, hcreated⟩ := proposePair_of_ok hattempt
                (fun other hother => hid ▸ hunused other hother pair List.mem_cons_self)
                hreferences
              -- The id that was just used is not drawn for a later pair.
              have hunused'' : ∀ other ∈ (state.store table created).candidates,
                  ∀ later ∈ pairs, other.id ≠ freshId i later.messageAt later.ruleAt := by
                intro other hother later hlater
                rw [ScanState.candidates_store, hrows] at hother
                rcases mem_of_mem_addNew hother with hold | hnew
                · exact hunused' other hold later hlater
                · rw [hnew, hid]
                  exact fun heq => hfirst (List.mem_map.mpr ⟨later, hlater, heq.symm⟩)
              obtain ⟨table', created', hloop, hrows', hcreated'⟩ :=
                @ih (state.store table created) hrest hunused'' hreferenced'
              refine ⟨table', created', ?_, ?_, ?_⟩
              · rw [Handler.bind_of_ok hrun, hloop]
                rfl
              · rw [hrows', leading, collect_cons, ← hrows]
                rfl
              · have hcreated' : created' + table.rows.length = created + table'.rows.length :=
                  hcreated'
                omega

/-- The pairs of a scan have different positions. -/
theorem pairings_positions (messages : List RawMailMessage) (rules : List RuleWithConditions) :
    (pairings messages rules).map (fun pair => (pair.messageAt, pair.ruleAt)) =
      (List.range' 0 messages.length).product (List.range' 0 rules.length) := by
  rw [pairings, List.map_flatMap, ← List.zipIdx_map_snd, ← List.zipIdx_map_snd, List.product,
    List.flatMap_map]
  congr 1
  funext message
  rw [List.map_map, List.map_map]
  rfl

/-- No id is drawn twice. -/
def DrawsOnce (freshId : Nat → Nat → Nat → String) : Prop :=
  ∀ i j k i' j' k', freshId i j k = freshId i' j' k' → i = i' ∧ j = j' ∧ k = k'

theorem pairings_nodup (hfresh : DrawsOnce freshId) (messages : List RawMailMessage)
    (rules : List RuleWithConditions) :
    ((pairings messages rules).map fun pair =>
      freshId i pair.messageAt pair.ruleAt).Nodup := by
  have hpositions : ((pairings messages rules).map fun pair =>
      (pair.messageAt, pair.ruleAt)).Nodup := by
    rw [pairings_positions]
    exact List.Nodup.product (List.nodup_range' 1) (List.nodup_range' 1)
  have hinjective : Function.Injective fun position : Nat × Nat =>
      freshId i position.1 position.2 := by
    intro a b heq
    obtain ⟨-, hj, hk⟩ := hfresh _ _ _ _ _ _ heq
    exact Prod.ext hj hk
  have hids := hpositions.map hinjective
  rwa [List.map_map] at hids

theorem mem_pairings {messages : List RawMailMessage} {rules : List RuleWithConditions}
    (hpair : pair ∈ pairings messages rules) : pair.message ∈ messages ∧ pair.rule ∈ rules := by
  obtain ⟨⟨message, j⟩, hmessage, hpair⟩ := List.mem_flatMap.mp hpair
  obtain ⟨⟨rule, k⟩, hrule, rfl⟩ := List.mem_map.mp hpair
  exact ⟨List.fst_mem_of_mem_zipIdx hmessage, List.fst_mem_of_mem_zipIdx hrule⟩

end Loops

/-! ## One account -/

/-- The database of a scan that began in `start` and has listed the messages of
the accounts seen so far. -/
structure ScannedFrom (start : Database) (seen : List String) (db : Database) : Prop where
  elsewhere : db = { start with
    emailAccounts := db.emailAccounts, emailCandidates := db.emailCandidates }
  unseen : ∀ id, id ∉ seen → db.emailAccounts.find? id = start.emailAccounts.find? id
  present : ∀ id, (db.emailAccounts.find? id).isSome = (start.emailAccounts.find? id).isSome

theorem ScannedFrom.refl (start : Database) : ScannedFrom start [] start :=
  ⟨rfl, fun _ _ => rfl, fun _ => rfl⟩

theorem ScannedFrom.activeRules {start db : Database} {seen : List String}
    (hscanned : ScannedFrom start seen db) (emailAccountId : String) :
    db.activeRules emailAccountId = start.activeRules emailAccountId := by
  rw [hscanned.elsewhere]
  rfl

theorem ScannedFrom.refresh {start db db' : Database} {seen : List String}
    (hscanned : ScannedFrom start seen db) {id : String} (hrefreshes : RefreshesToken id db db') :
    ScannedFrom start (id :: seen) db' where
  elsewhere := by
    rw [hrefreshes.elsewhere, hscanned.elsewhere]
  unseen other hother := by
    obtain ⟨hne, hother⟩ := not_or.mp (mt List.mem_cons.mpr hother)
    rw [hrefreshes.find?_of_ne hne, hscanned.unseen other hother]
  present other := by
    rw [hrefreshes.find?_isSome, hscanned.present]

theorem ScannedFrom.store {start db : Database} {seen : List String}
    (hscanned : ScannedFrom start seen db) (table : Table EmailCandidate) :
    ScannedFrom start seen (Prisma.emailCandidate.withTable db table) where
  elsewhere := by
    rw [hscanned.elsewhere]
    rfl
  unseen := hscanned.unseen
  present := hscanned.present

theorem ScannedFrom.cons {start db : Database} {seen : List String}
    (hscanned : ScannedFrom start seen db) (id : String) : ScannedFrom start (id :: seen) db where
  elsewhere := hscanned.elsewhere
  unseen other hother := hscanned.unseen other (mt (List.mem_cons_of_mem id) hother)
  present := hscanned.present

/-- What a scan that begins in some database does for one of its accounts. -/
structure AccountOutcome where
  listed : Bool
  failed : Bool
  rows : List EmailCandidate

section Account

variable (unicode : UnicodeData) (providers : MailProviderRegistry) (faults : ScanFaults)
  (freshId : Nat → Nat → Nat → String) (start : Database) (account : EmailAccount) (i : Nat)

/-- The messages that the provider of the account lists. -/
def listing : Except Exception (List RawMailMessage) := do
  let provider ← providers.get account.providerType
  (provider.listCandidateMessages account.id start).1

def accountOutcome : AccountOutcome :=
  match providers.get account.providerType, faults.ruleQuery i with
  | .error _, _ => ⟨false, true, []⟩
  | .ok _, some _ => ⟨false, true, []⟩
  | .ok _, none =>
      if start.activeRules account.id = [] then ⟨false, false, []⟩
      else
        match listing providers start account with
        | .error _ => ⟨false, true, []⟩
        | .ok messages =>
            let attempts := attempts unicode faults freshId i account.id messages
              (start.activeRules account.id)
            ⟨true, (firstError attempts).isSome, leading attempts⟩

end Account

section Account

variable {unicode : UnicodeData} {providers : MailProviderRegistry} {faults : ScanFaults}
  {freshId : Nat → Nat → Nat → String} {start : Database} {account : EmailAccount} {i : Nat}
  {seen : List String} {state : ScanState}

/-- The state after account `i`, as its outcome says. -/
structure AfterAccount (start : Database) (seen : List String) (outcome : AccountOutcome)
    (state : ScanState) (result : Except Exception Unit) (state' : ScanState) : Prop where
  result : result.isOk = !outcome.failed
  scanned : ScannedFrom start seen state'.server.db
  candidates : state'.candidates =
    collect EmailCandidate.uniqueIndex state.candidates outcome.rows
  scannedAccounts : state'.counts.scannedAccounts =
    state.counts.scannedAccounts + outcome.listed.toNat
  createdCandidates : state'.counts.createdCandidates + state.candidates.length =
    state.counts.createdCandidates + state'.candidates.length
  failedAccounts : state'.counts.failedAccounts = state.counts.failedAccounts

/-- An account that is left before its messages were listed changes nothing. -/
theorem AfterAccount.of_unlisted {failed : Bool} {result : Except Exception Unit}
    (hscanned : ScannedFrom start seen state.server.db) (hresult : result.isOk = !failed) :
    AfterAccount start seen ⟨false, failed, []⟩ state result state where
  result := hresult
  scanned := hscanned
  candidates := rfl
  scannedAccounts := rfl
  createdCandidates := rfl
  failedAccounts := rfl

/-- The rules that a pair comes from are stored, and so is its account. -/
theorem referenced_pairings {db : Database} {messages : List RawMailMessage}
    (hscanned : ScannedFrom start seen db) (haccount : account ∈ start.emailAccounts.rows) :
    Referenced db account.id (pairings messages (start.activeRules account.id)) := by
  intro pair hpair
  obtain ⟨rule, hrule, hpairRule⟩ := List.mem_map.mp (mem_pairings hpair).2
  constructor
  · have hfind : start.emailRules.find? rule.id = some rule :=
      Table.find?_eq_some_iff.mpr ⟨(List.mem_filter.mp hrule).1, rfl⟩
    rw [hscanned.elsewhere, ← hpairRule]
    show (start.emailRules.find? rule.id).isSome
    rw [hfind]
    rfl
  · have hfind : start.emailAccounts.find? account.id = some account :=
      Table.find?_eq_some_iff.mpr ⟨haccount, rfl⟩
    rw [hscanned.present, hfind]
    rfl

/-- The messages are listed, counted as a scanned account, and proposed. -/
theorem scanListed_run (hlawful : providers.Lawful) (hfresh : DrawsOnce freshId)
    (hscanned : ScannedFrom start seen state.server.db)
    (haccount : account ∈ start.emailAccounts.rows) (hunseen : account.id ∉ seen)
    (hunused : ∀ row ∈ state.candidates, ∀ j k, row.id ≠ freshId i j k)
    {provider : MailProvider} (hget : providers.get account.providerType = .ok provider) :
    ∃ result state', (do
        let messages ← ScanState.onServer (MailServer.listCandidateMessages provider account.id)
        ScanState.count fun counts => { counts with scannedAccounts := counts.scannedAccounts + 1 }
        proposeAll unicode faults freshId i account.id messages (start.activeRules account.id))
        state = (result, state') ∧
      AfterAccount start (account.id :: seen)
        (match listing providers start account with
        | .error _ => ⟨false, true, []⟩
        | .ok messages =>
            let attempts := attempts unicode faults freshId i account.id messages
              (start.activeRules account.id)
            ⟨true, (firstError attempts).isSome, leading attempts⟩) state result state' := by
  have hprovider := hlawful.get hget
  have hlisting : listing providers start account =
      (provider.listCandidateMessages account.id state.server.db).1 := by
    rw [listing, hget, hprovider.listCandidateMessages_reads account.id state.server.db start
      (hscanned.unseen account.id hunseen)]
    rfl
  rw [hlisting]
  rcases hlist : provider.listCandidateMessages account.id state.server.db with ⟨result, db⟩
  have hrefreshes : RefreshesToken account.id state.server.db db := by
    have hkeeps := hprovider.listCandidateMessages account.id state.server.db
    rwa [hlist] at hkeeps
  have hscanned' := hscanned.refresh hrefreshes
  have hcandidates := hrefreshes.emailCandidates
  -- A listing that fails adds no row; one that succeeds is followed by the loop over the pairs.
  cases result with
  | error err =>
      refine ⟨.error err, { state with server := { state.server with db } }, ?_, ?_⟩
      · have hfails : MailServer.listCandidateMessages provider account.id state.server =
            (.error err, { state.server with db }) := by
          apply Handler.bind_of_error
          simp only [MailServer.query, Handler.zoom_run, hlist]
        apply Handler.bind_of_error
        simp only [ScanState.onServer, Handler.zoom_run, hfails]
      · exact
          { result := rfl
            scanned := hscanned'
            candidates := congrArg Table.rows hcandidates
            scannedAccounts := rfl
            createdCandidates := by
              rw [show (⟨{ state.server with db }, state.counts⟩ : ScanState).candidates =
                state.candidates from congrArg Table.rows hcandidates]
            failedAccounts := rfl }
  | ok messages =>
      have hlists : MailServer.listCandidateMessages provider account.id state.server =
          (.ok messages, (state.afterListing db account.id messages).server) := by
        have hquery : MailServer.query (provider.listCandidateMessages account.id) state.server =
            (.ok messages, { state.server with db }) := by
          simp only [MailServer.query, Handler.zoom_run, hlist]
        exact Handler.bind_of_ok hquery
      have hlisted : ScanState.onServer (MailServer.listCandidateMessages provider account.id)
          state = (.ok messages, { state with
            server := (state.afterListing db account.id messages).server }) := by
        simp only [ScanState.onServer, Handler.zoom_run, hlists]
      set listed := state.afterListing db account.id messages with hstate
      have hsame : listed.candidates = state.candidates := congrArg Table.rows hcandidates
      obtain ⟨table, created, hloop, hrows, hcreated⟩ :=
        @proposePairs_run unicode faults freshId i account.id listed
          (pairings messages (start.activeRules account.id)) (pairings_nodup hfresh _ _)
          (fun row hrow pair _ => hunused row (hsame ▸ hrow) _ _)
          (referenced_pairings hscanned' haccount)
      refine ⟨ending (attempts unicode faults freshId i account.id messages
        (start.activeRules account.id)), listed.store table created, ?_, ?_⟩
      · rw [Handler.bind_of_ok hlisted, proposeAll_eq]
        exact hloop
      · rw [hsame] at hrows hcreated
        exact
          { result := ending_isOk _
            scanned := hscanned'.store table
            candidates := hrows
            scannedAccounts := rfl
            createdCandidates := hcreated
            failedAccounts := rfl }

theorem scanAccount_run (hlawful : providers.Lawful) (hfresh : DrawsOnce freshId)
    (hscanned : ScannedFrom start seen state.server.db)
    (haccount : account ∈ start.emailAccounts.rows) (hunseen : account.id ∉ seen)
    (hunused : ∀ row ∈ state.candidates, ∀ j k, row.id ≠ freshId i j k) :
    ∃ result state', scanAccount unicode providers faults freshId account i state =
        (result, state') ∧
      AfterAccount start (account.id :: seen)
        (accountOutcome unicode providers faults freshId start account i) state result state' := by
  have hseen := hscanned.cons account.id
  unfold scanAccount accountOutcome
  cases hget : providers.get account.providerType with
  | error err =>
      exact ⟨.error err, state, rfl, AfterAccount.of_unlisted hseen rfl⟩
  | ok provider =>
      rw [Handler.ofExcept_ok_bind]
      cases hfault : faults.ruleQuery i with
      | some err => exact ⟨.error err, state, rfl, AfterAccount.of_unlisted hseen rfl⟩
      | none =>
          have hrules : ScanState.onServer (MailServer.query (findActiveRules none account.id))
              state = (.ok (start.activeRules account.id), state) := by
            rw [← hscanned.activeRules]
            rfl
          rw [Handler.bind_of_ok hrules]
          by_cases hempty : start.activeRules account.id = []
          · simp only [hempty, List.length_nil, if_true]
            exact ⟨.ok (), state, rfl, AfterAccount.of_unlisted hseen rfl⟩
          · have hlength : ¬ (start.activeRules account.id).length = 0 :=
              fun h => hempty (List.length_eq_zero_iff.mp h)
            rw [if_neg hlength, if_neg hempty]
            exact scanListed_run hlawful hfresh hscanned haccount hunseen hunused hget

/-- A row that is added for an account comes from one of its active rules and one
of its listed messages. -/
theorem mem_outcome_rows {row : EmailCandidate}
    (hrow : row ∈ (accountOutcome unicode providers faults freshId start account i).rows) :
    ∃ messages pair, listing providers start account = .ok messages ∧
      pair ∈ pairings messages (start.activeRules account.id) ∧
      attempt unicode faults freshId i account.id pair = some (.ok row) := by
  unfold accountOutcome at hrow
  split at hrow
  · contradiction
  · contradiction
  · split at hrow
    · contradiction
    · split at hrow
      · contradiction
      next messages hlisting =>
        obtain ⟨pair, hpair, hattempt⟩ := List.mem_filterMap.mp (mem_leading hrow)
        exact ⟨messages, pair, hlisting, hpair, hattempt⟩

theorem outcome_row_id {row : EmailCandidate}
    (hrow : row ∈ (accountOutcome unicode providers faults freshId start account i).rows) :
    ∃ j k, row.id = freshId i j k := by
  obtain ⟨_, pair, -, -, hattempt⟩ := mem_outcome_rows hrow
  obtain ⟨-, -, hinput⟩ := attempt_ok_iff.mp hattempt
  obtain ⟨-, hrow⟩ := candidateInput_ok_iff.mp hinput
  exact ⟨pair.messageAt, pair.ruleAt, by rw [hrow]⟩

end Account

/-! ## All accounts -/

section Accounts

variable (unicode : UnicodeData) (providers : MailProviderRegistry) (faults : ScanFaults)
  (freshId : Nat → Nat → Nat → String) (start : Database)

/-- The outcomes of the accounts from position `n` on. -/
def outcomes (accounts : List EmailAccount) (n : Nat) : List AccountOutcome :=
  (accounts.zipIdx n).map fun (account, i) =>
    accountOutcome unicode providers faults freshId start account i

end Accounts

section Accounts

variable {unicode : UnicodeData} {providers : MailProviderRegistry} {faults : ScanFaults}
  {freshId : Nat → Nat → Nat → String} {start : Database}

/-- The state after the accounts with the given outcomes. -/
structure AfterAccounts (start : Database) (seen : List String) (outcomes : List AccountOutcome)
    (state state' : ScanState) : Prop where
  scanned : ScannedFrom start seen state'.server.db
  candidates : state'.candidates = collect EmailCandidate.uniqueIndex state.candidates
    (outcomes.flatMap AccountOutcome.rows)
  scannedAccounts : state'.counts.scannedAccounts =
    state.counts.scannedAccounts + outcomes.countP AccountOutcome.listed
  createdCandidates : state'.counts.createdCandidates + state.candidates.length =
    state.counts.createdCandidates + state'.candidates.length
  failedAccounts : state'.counts.failedAccounts =
    state.counts.failedAccounts + outcomes.countP AccountOutcome.failed

/-- The body of the loop over the accounts: a failure is counted. -/
def scanOne (unicode : UnicodeData) (providers : MailProviderRegistry) (faults : ScanFaults)
    (freshId : Nat → Nat → Nat → String) (account : EmailAccount × Nat) :
    Handler Exception ScanState Unit :=
  Handler.recover (scanAccount unicode providers faults freshId account.1 account.2) fun _ =>
    ScanState.count fun counts => { counts with failedAccounts := counts.failedAccounts + 1 }

/-- One account, whether it fails or not. -/
theorem scanOne_run {account : EmailAccount} {i : Nat} {seen : List String} {state : ScanState}
    (hlawful : providers.Lawful) (hfresh : DrawsOnce freshId)
    (hscanned : ScannedFrom start seen state.server.db)
    (haccount : account ∈ start.emailAccounts.rows) (hunseen : account.id ∉ seen)
    (hunused : ∀ row ∈ state.candidates, ∀ j k, row.id ≠ freshId i j k) :
    ∃ state', scanOne unicode providers faults freshId (account, i) state = (.ok (), state') ∧
      AfterAccounts start (account.id :: seen)
        [accountOutcome unicode providers faults freshId start account i] state state' := by
  obtain ⟨result, state', hrun, hafter⟩ :=
    @scanAccount_run unicode providers faults freshId start account i seen state hlawful hfresh
      hscanned haccount hunseen hunused
  generalize accountOutcome unicode providers faults freshId start account i = outcome at hafter ⊢
  have hcandidates : state'.candidates = collect EmailCandidate.uniqueIndex state.candidates
      ([outcome].flatMap AccountOutcome.rows) := by
    rw [List.flatMap_singleton]
    exact hafter.candidates
  have hlisted : [outcome].countP AccountOutcome.listed = outcome.listed.toNat := by
    cases hlisted : outcome.listed <;> simp [hlisted]
  have hfailed : [outcome].countP AccountOutcome.failed = outcome.failed.toNat := by
    cases hfailed : outcome.failed <;> simp [hfailed]
  cases result with
  | ok u =>
      have hok : outcome.failed = false := by simpa [Except.isOk, Except.toBool] using hafter.result
      refine ⟨state', by rw [scanOne, Handler.recover_ok_iff]; exact .inl hrun, ?_⟩
      exact
        { scanned := hafter.scanned
          candidates := hcandidates
          scannedAccounts := by rw [hlisted]; exact hafter.scannedAccounts
          createdCandidates := hafter.createdCandidates
          failedAccounts := by rw [hfailed, hok]; exact hafter.failedAccounts }
  | error err =>
      -- The account's own effects stay; the handler only counts the failure.
      have herror : outcome.failed = true := by simpa [Except.isOk, Except.toBool] using hafter.result
      refine ⟨{ state' with counts :=
        { state'.counts with failedAccounts := state'.counts.failedAccounts + 1 } }, ?_, ?_⟩
      · rw [scanOne, Handler.recover_ok_iff]
        exact .inr ⟨err, state', hrun, rfl⟩
      · exact
          { scanned := hafter.scanned
            candidates := hcandidates
            scannedAccounts := by rw [hlisted]; exact hafter.scannedAccounts
            createdCandidates := hafter.createdCandidates
            failedAccounts := by
              rw [hfailed, herror]
              exact congrArg (· + 1) hafter.failedAccounts }

theorem scanLoop_run {accounts : List EmailAccount} {n : Nat} {seen : List String}
    {state : ScanState} (hlawful : providers.Lawful) (hfresh : DrawsOnce freshId)
    (hscanned : ScannedFrom start seen state.server.db)
    (haccounts : ∀ account ∈ accounts, account ∈ start.emailAccounts.rows ∧ account.id ∉ seen)
    (hnodup : (accounts.map EmailAccount.id).Nodup)
    (hunused : ∀ row ∈ state.candidates, ∀ i j k, n ≤ i → row.id ≠ freshId i j k) :
    ∃ state', (accounts.zipIdx n).forM (scanOne unicode providers faults freshId) state =
        (.ok (), state') ∧
      ∃ seen', AfterAccounts start seen' (outcomes unicode providers faults freshId start accounts n)
        state state' := by
  induction accounts generalizing n seen state with
  | nil =>
      refine ⟨state, rfl, seen, ?_⟩
      exact ⟨hscanned, rfl, rfl, rfl, rfl⟩
  | cons account accounts ih =>
      obtain ⟨hfirst, hrest⟩ := List.nodup_cons.mp hnodup
      obtain ⟨haccount, hunseen⟩ := haccounts account List.mem_cons_self
      obtain ⟨middle, hrun, hmiddle⟩ := @scanOne_run unicode providers faults freshId start account n
        seen state hlawful hfresh hscanned haccount hunseen
        (fun row hrow j k => hunused row hrow n j k (Nat.le_refl n))
      have haccounts' : ∀ other ∈ accounts,
          other ∈ start.emailAccounts.rows ∧ other.id ∉ account.id :: seen := by
        intro other hother
        obtain ⟨hstored, hother'⟩ := haccounts other (List.mem_cons_of_mem _ hother)
        refine ⟨hstored, ?_⟩
        rw [List.mem_cons, not_or]
        exact ⟨fun heq => hfirst (heq ▸ List.mem_map_of_mem hother), hother'⟩
      -- The rows of this account have ids of position `n`, so the later ones stay free.
      have hunused' : ∀ row ∈ middle.candidates, ∀ i j k, n + 1 ≤ i → row.id ≠ freshId i j k := by
        intro row hrow i j k hi
        rw [hmiddle.candidates, List.flatMap_singleton] at hrow
        rcases mem_of_mem_collect hrow with hold | hnew
        · exact hunused row hold i j k (Nat.le_of_succ_le hi)
        · obtain ⟨j', k', hid⟩ := outcome_row_id hnew
          intro heq
          obtain ⟨hn, -⟩ := hfresh _ _ _ _ _ _ (hid.symm.trans heq)
          omega
      obtain ⟨state', hloop, seen', hafter⟩ :=
        @ih (n + 1) (account.id :: seen) middle hmiddle.scanned haccounts' hrest hunused'
      refine ⟨state', (Handler.bind_of_ok hrun).trans hloop, seen', ?_⟩
      have hcons : outcomes unicode providers faults freshId start (account :: accounts) n =
          [accountOutcome unicode providers faults freshId start account n] ++
            outcomes unicode providers faults freshId start accounts (n + 1) := rfl
      rw [hcons]
      exact
        { scanned := hafter.scanned
          candidates := by
            rw [hafter.candidates, hmiddle.candidates, List.flatMap_append, collect_append]
          scannedAccounts := by
            rw [hafter.scannedAccounts, hmiddle.scannedAccounts, List.countP_append, Nat.add_assoc]
          createdCandidates := by
            have := hafter.createdCandidates
            have := hmiddle.createdCandidates
            omega
          failedAccounts := by
            rw [hafter.failedAccounts, hmiddle.failedAccounts, List.countP_append,
              Nat.add_assoc] }

/-- The accounts of a scan: stored, and each once. -/
structure ScannedAccounts (db : Database) (accounts : List EmailAccount) : Prop where
  stored : ∀ account ∈ accounts, account ∈ db.emailAccounts.rows
  nodup : (accounts.map EmailAccount.id).Nodup

/-- The ids drawn for a scan repeat neither each other nor a stored id. -/
structure FreshCandidateIds (freshId : Nat → Nat → Nat → String) (db : Database) : Prop where
  drawsOnce : DrawsOnce freshId
  unused : ∀ row ∈ db.emailCandidates.rows, ∀ i j k, row.id ≠ freshId i j k

/-- A scan returns, adds the rows of the outcomes and counts them. -/
theorem scanAccounts_run {accounts : List EmailAccount} {server : MailServer}
    (hlawful : providers.Lawful) (hfresh : FreshCandidateIds freshId server.db)
    (haccounts : ScannedAccounts server.db accounts) :
    ∃ counts server', scanAccounts unicode providers faults freshId accounts server =
        (.ok counts, server') ∧
      ∃ seen, AfterAccounts server.db seen
        (outcomes unicode providers faults freshId server.db accounts 0)
        ⟨server, ⟨0, 0, 0⟩⟩ ⟨server', counts⟩ := by
  obtain ⟨state', hloop, hafter⟩ := @scanLoop_run unicode providers faults freshId server.db
    accounts 0 [] ⟨server, ⟨0, 0, 0⟩⟩ hlawful hfresh.drawsOnce (ScannedFrom.refl server.db)
    (fun account haccount => ⟨haccounts.stored account haccount, by simp⟩) haccounts.nodup
    (fun row hrow i j k _ => hfresh.unused row hrow i j k)
  refine ⟨state'.counts, state'.server, ?_, hafter⟩
  have hloop' : (accounts.zipIdx.forM fun (account, i) =>
      Handler.recover (scanAccount unicode providers faults freshId account i) fun _ =>
        ScanState.count fun counts =>
          { counts with failedAccounts := counts.failedAccounts + 1 })
      (⟨server, ⟨0, 0, 0⟩⟩ : ScanState) = (.ok (), state') := hloop
  rw [scanAccounts]
  simp only [hloop']

/-- The accounts that `scan` and `scanAll` select are stored, each once. -/
theorem scannedAccounts_filter (db : Database) (select : EmailAccount → Bool) :
    ScannedAccounts db (db.emailAccounts.rows.filter select) where
  stored _ haccount := (List.mem_filter.mp haccount).1
  nodup := (List.Sublist.map EmailAccount.id List.filter_sublist).nodup db.emailAccounts.nodup_keys

end Accounts

end CandidatesService

end MyAccountController
