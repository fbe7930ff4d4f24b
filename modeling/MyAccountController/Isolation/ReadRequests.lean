import Mathlib.Data.Fintype.EquivFin
import MyAccountController.Accounts.AccountsService
import MyAccountController.Auth.AuthController
import MyAccountController.Common.SymbolicRuntime
import MyAccountController.EmailAccounts.EmailAccountsService
import MyAccountController.Isolation.OwnRows
import MyAccountController.Mail.RulesService
import MyAccountController.Notifications.NotificationsService

/-! # What the read routes answer

Two databases that agree on the rows of a user have the same answers for a
session of the user, and a session that is not logged in reads nothing. The
summary of the notifications is the exception: it reads the candidates of all
users for anyone.
-/

namespace MyAccountController

open Foundation

variable {R : Runtime}

/-! ## The routes -/

/-- A route behind `UnlockedGuard` that only uses the database. -/
def behindUnlockedGuard {α : Type} (sessionId : String) (now : Int)
    (query : String → R.Key → Query α) : Route R α := do
  let (userId, encryptionKey) ← unlockedGuard sessionId now
  onDatabase (query userId encryptionKey)

/-- A route behind `LoggedInGuard` that only uses the database. -/
def behindLoggedInGuard {α : Type} (query : String → Query α) : Route R α := do
  let userId ← loggedInGuard
  onDatabase (query userId)

/-- A request to a route that reads. The draws of an export are its arguments. -/
inductive ReadRequest (R : Runtime) where
  | accounts (contains : String → String → Bool) (category q : Option String)
  | account (id : String)
  | exportAccounts (exportPassword : Option String) (salt : String) (iv : R.Iv)
  | emailRules (emailAccountId : Option String)
  | emailCandidates
  | importantSummary
  | emailAccounts
  | notificationsSummary
  | settings
  | webauthnDevices

namespace ReadRequest

/-- What the route answers when it does not fail. -/
def Answer : ReadRequest R → Type
  | .accounts .. => List AccountView
  | .account _ => Account × String
  | .exportAccounts .. => BackupFile
  | .emailRules _ => List RuleWithConditions
  | .emailCandidates => List (EmailCandidate × String)
  | .importantSummary => List CandidatesService.ImportantSummary
  | .emailAccounts => List EmailAccountView
  | .notificationsSummary => List NotificationCount
  | .settings => Int
  | .webauthnDevices => List TrustedDevice

def route (sessionId : String) (now : Int) : (request : ReadRequest R) → Route R request.Answer
  | .accounts contains category q => behindUnlockedGuard sessionId now fun userId _ =>
      AccountsService.findAll contains userId category q
  | .account id => behindUnlockedGuard sessionId now fun userId encryptionKey =>
      AccountsService.findOne userId id encryptionKey
  | .exportAccounts exportPassword salt iv =>
      behindUnlockedGuard sessionId now fun userId encryptionKey =>
        AccountsService.exportAccounts userId encryptionKey exportPassword now salt iv
  | .emailRules emailAccountId => behindUnlockedGuard sessionId now fun userId _ =>
      RulesService.findAll userId emailAccountId
  | .emailCandidates => behindUnlockedGuard sessionId now fun userId _ =>
      CandidatesService.findPending userId
  | .importantSummary => behindUnlockedGuard sessionId now fun userId _ =>
      CandidatesService.importantSummary userId
  | .emailAccounts => behindLoggedInGuard EmailAccountsService.findAll
  | .notificationsSummary => onDatabase NotificationsService.summary
  | .settings => AuthController.settings
  | .webauthnDevices => AuthController.webauthnDevices sessionId now

/-- The answer does not depend on the rows of other users, nor on any row when the session is
not logged in. -/
def Isolated (request : ReadRequest R) (sessionId : String) (now : Int) (ctx : Context R) : Prop :=
  ∀ db', (∀ userId, ctx.session.loggedInAs = some userId →
      db'.rowsOf userId = ctx.db.rowsOf userId) →
    (request.route sessionId now (ctx.withDb db')).1 = (request.route sessionId now ctx).1

/-- The user's candidates of the status hang on rules of the user. -/
def OwnRules (status : CandidateStatus) (userId : String) (db : Database) : Prop :=
  ∀ row ∈ db.emailCandidates.rows, row.status = status →
    db.ownsEmailAccount userId row.emailAccountId = true → db.ownsRule userId row.ruleId = true

/-- The route is not the summary of the notifications. Two routes read the rules of the user's
candidates as well, once the guard has admitted the session. -/
def ReadsOwnRows (sessionId : String) (now : Int) (ctx : Context R) : ReadRequest R → Prop
  | .notificationsSummary => False
  | .emailCandidates => ∀ userId key,
      (unlockedGuard sessionId now ctx).1 = .ok (userId, key) → OwnRules .PENDING userId ctx.db
  | .importantSummary => ∀ userId key,
      (unlockedGuard sessionId now ctx).1 = .ok (userId, key) → OwnRules .APPROVED userId ctx.db
  | .accounts .. | .account _ | .exportAccounts .. | .emailRules _ | .emailAccounts | .settings
  | .webauthnDevices => True

end ReadRequest

/-! ## Guards -/

section Guards

variable {α : Type} {sessionId : String} {now : Int} {ctx : Context R} {db' : Database}

/-- The guard does not read the database. -/
theorem unlockedGuard_withDb :
    (unlockedGuard sessionId now (ctx.withDb db')).1 = (unlockedGuard sessionId now ctx).1 := by
  have hguard : ∀ ctx : Context R, (unlockedGuard sessionId now ctx).1 =
      match ctx.session.loggedInAs, (ctx.keys.touch sessionId now).1, ctx.session.isUnlocked with
      | none, _, _ => .error (.unauthorized "로그인이 필요합니다.")
      | some userId, some key, true => .ok (userId, key)
      | some _, none, _ | some _, some _, false =>
          .error (.unauthorized "마스터 비밀번호로 잠금 해제가 필요합니다.") := by
    intro ctx
    unfold unlockedGuard loggedInGuard
    simp only [Handler.bind_run, Handler.state_run]
    cases ctx.session.loggedInAs with
    | none => rfl
    | some userId =>
        simp only [Handler.expect_some_run, Handler.modify_run]
        cases (ctx.keys.touch sessionId now).1 with
        | none => rfl
        | some key => cases ctx.session.isUnlocked <;> rfl
  rw [hguard, hguard]
  rfl

/-- The answer behind the guard, from two databases. -/
theorem behindUnlockedGuard_iff {query : String → R.Key → Query α} :
    (behindUnlockedGuard sessionId now query (ctx.withDb db')).1 =
        (behindUnlockedGuard sessionId now query ctx).1 ↔
      ∀ userId key, (unlockedGuard sessionId now ctx).1 = .ok (userId, key) →
        (query userId key db').1 = (query userId key ctx.db).1 := by
  have hanswer : ∀ ctx : Context R, (behindUnlockedGuard sessionId now query ctx).1 =
      match (unlockedGuard sessionId now ctx).1 with
      | .ok (userId, key) => (query userId key ctx.db).1
      | .error e => .error e := by
    intro ctx
    have hdb := unlockedGuard_db sessionId now ctx
    unfold behindUnlockedGuard
    rw [Handler.bind_run]
    rcases hguard : unlockedGuard sessionId now ctx with ⟨e | ⟨userId, key⟩, after⟩
    · rfl
    · rw [hguard] at hdb
      show (query userId key after.db).1 = _
      rw [hdb]
  rw [hanswer, hanswer, unlockedGuard_withDb]
  cases hguard : (unlockedGuard sessionId now ctx).1 with
  | error e => simp
  | ok pair =>
      obtain ⟨userId, key⟩ := pair
      simp

theorem behindLoggedInGuard_iff {query : String → Query α} :
    (behindLoggedInGuard query (ctx.withDb db')).1 = (behindLoggedInGuard query ctx).1 ↔
      ∀ userId, ctx.session.loggedInAs = some userId →
        (query userId db').1 = (query userId ctx.db).1 := by
  have hanswer : ∀ ctx : Context R, (behindLoggedInGuard query ctx).1 =
      (ctx.session.loggedInAs.map fun userId => (query userId ctx.db).1).getD
        (.error (.unauthorized "로그인이 필요합니다.")) := by
    intro ctx
    unfold behindLoggedInGuard loggedInGuard
    rw [Handler.bind_run, Handler.state_bind]
    cases ctx.session.loggedInAs <;> rfl
  rw [hanswer, hanswer]
  cases hlogged : ctx.session.loggedInAs with
  | none => simp [hlogged]
  | some userId => simp [hlogged]

end Guards

/-! ## Answers -/

section Answers

variable {α β : Type}

/-- Two runs answer the same when each part does. -/
theorem bind_answer {x : Query α} {f : α → Query β} {db db' : Database}
    (hx : (x db').1 = (x db).1)
    (hf : ∀ a, (x db).1 = .ok a → (f a (x db').2).1 = (f a (x db).2).1) :
    ((x >>= f) db').1 = ((x >>= f) db).1 := by
  rw [Handler.bind_run, Handler.bind_run]
  rcases hrun : x db with ⟨e | a, after⟩
  · rcases hrun' : x db' with ⟨e' | a', after'⟩
    · rw [hrun, hrun'] at hx
      exact congrArg Except.error (Except.error.inj hx)
    · rw [hrun, hrun'] at hx
      contradiction
  · rcases hrun' : x db' with ⟨e' | a', after'⟩
    · rw [hrun, hrun'] at hx
      contradiction
    · rw [hrun, hrun'] at hx
      obtain rfl := Except.ok.inj hx
      have hrest := hf a' (by rw [hrun])
      rw [hrun, hrun'] at hrest
      exact hrest

theorem expect_answer (value : Option α) (e : Exception) (db db' : Database) :
    ((Handler.expect value e : Query α) db').1 = ((Handler.expect value e : Query α) db).1 := by
  cases value <;> rfl

end Answers

/-! ## Queries about the user's own rows -/

section OwnQueries

variable {userId : String} {db db' : Database}

/-- A selection among the user's rows. -/
theorem filter_own {Row : Type} {rows rows' : List Row} {own : Row → Bool}
    (hsame : rows'.filter own = rows.filter own) {select : Row → Bool}
    (hselect : ∀ row, select row = true → own row = true) :
    rows'.filter select = rows.filter select := by
  have hself : ∀ rows : List Row, rows.filter select = (rows.filter own).filter select := by
    intro rows
    rw [List.filter_filter]
    refine List.filter_congr fun row _ => ?_
    cases hrow : select row with
    | false => simp
    | true => simp [hselect row hrow]
  rw [hself rows', hself rows, hsame]

section Same

variable (hsame : db'.rowsOf userId = db.rowsOf userId)
include hsame

theorem accounts_own (select : Account → Bool)
    (hselect : ∀ row, select row = true → row.userId = userId) :
    (Prisma.account.table db').rows.filter select = (Prisma.account.table db).rows.filter select :=
  filter_own (congrArg OwnRows.accounts hsame) fun row hrow => decide_eq_true (hselect row hrow)

theorem emailAccounts_own :
    ((Prisma.emailAccount.table db').rows.filter fun row => row.userId = userId) =
      (Prisma.emailAccount.table db).rows.filter fun row => row.userId = userId :=
  congrArg OwnRows.emailAccounts hsame

theorem owns_same (id : String) :
    db'.ownsEmailAccount userId id = db.ownsEmailAccount userId id :=
  Database.ownsEmailAccount_congr (congrArg OwnRows.emailAccounts hsame)

/-- A selection among the user's candidates. -/
theorem candidates_own (select : EmailCandidate → Bool)
    (hselect : ∀ row, select row = true → db.ownsEmailAccount userId row.emailAccountId = true) :
    db'.emailCandidates.rows.filter select = db.emailCandidates.rows.filter select := by
  apply filter_own ?_ hselect
  rw [← List.filter_congr fun row _ => owns_same hsame row.emailAccountId]
  exact congrArg OwnRows.emailCandidates hsame

/-- A rule of the user is the same row. -/
theorem rule_own {id : String} (howns : db.ownsRule userId id = true) :
    db'.emailRules.find? id = db.emailRules.find? id := by
  obtain ⟨rule, hrule, hid⟩ := Database.ownsRule_iff_mem.mp howns
  have hrule' : rule ∈ (db'.rowsOf userId).emailRules := hsame ▸ hrule
  rw [Table.find?_eq_some_iff.mpr ⟨(List.mem_filter.mp hrule).1, hid⟩,
    Table.find?_eq_some_iff.mpr ⟨(List.mem_filter.mp hrule').1, hid⟩]

/-- A rule of the user comes with the same conditions. -/
theorem withConditions_own {rule : EmailRule}
    (howns : db.ownsRule userId rule.id = true) :
    db'.withConditions rule = db.withConditions rule := by
  have hconditions := congrArg OwnRows.emailRuleConditions hsame
  unfold Database.withConditions
  congr 1
  apply @filter_own _ db.emailRuleConditions.rows db'.emailRuleConditions.rows
    (fun row => db.ownsRule userId row.ruleId)
  · rw [← List.filter_congr fun row _ =>
      @Database.ownsRule_congr db db' userId row.ruleId (congrArg OwnRows.emailRules hsame)]
    exact hconditions
  · intro row hrow
    rw [of_decide_eq_true hrow]
    exact howns

theorem findAccounts_own (contains : String → String → Bool) (category q : Option String) :
    (AccountsService.findAll contains userId category q db').1 =
      (AccountsService.findAll contains userId category q db).1 := by
  unfold AccountsService.findAll
  rw [Model.findMany_bind, Model.findMany_bind,
    accounts_own hsame _ fun row hrow => (of_decide_eq_true hrow).1]
  rfl

theorem findAccount_own (id : String) (encryptionKey : R.Key) :
    (AccountsService.findOne userId id encryptionKey db').1 =
      (AccountsService.findOne userId id encryptionKey db).1 := by
  have hfound : (AccountsService.findOwned userId id db').1 =
      (AccountsService.findOwned userId id db).1 := by
    unfold AccountsService.findOwned
    rw [Model.findFirst_bind, Model.findFirst_bind, ← List.head?_filter, ← List.head?_filter,
      accounts_own hsame _ fun row hrow => (of_decide_eq_true hrow).2]
    apply expect_answer
  exact bind_answer hfound fun account _ => bind_answer (by rfl) fun password _ => rfl

theorem exportAccounts_own (encryptionKey : R.Key) (exportPassword : Option String) (now : Int)
    (salt : String) (iv : R.Iv) :
    (AccountsService.exportAccounts userId encryptionKey exportPassword now salt iv db').1 =
      (AccountsService.exportAccounts userId encryptionKey exportPassword now salt iv db).1 := by
  unfold AccountsService.exportAccounts
  rw [Model.findMany_bind, Model.findMany_bind,
    accounts_own hsame _ fun row hrow => of_decide_eq_true hrow]
  refine bind_answer (by rfl) fun plain _ => ?_
  exact bind_answer (expect_answer _ _ _ _) fun password _ => rfl

theorem findRules_own (emailAccountId : Option String) :
    (RulesService.findAll userId emailAccountId db').1 =
      (RulesService.findAll userId emailAccountId db).1 := by
  have hrules : ∀ select : EmailRule → Bool,
      (∀ row, select row = true → db.ownsEmailAccount userId row.emailAccountId = true) →
        db'.emailRules.rows.filter select = db.emailRules.rows.filter select := by
    intro select hselect
    apply filter_own ?_ hselect
    rw [← List.filter_congr fun row _ => owns_same hsame row.emailAccountId]
    exact congrArg OwnRows.emailRules hsame
  show Except.ok (List.map db'.withConditions (db'.emailRules.rows.filter _)) =
    Except.ok (List.map db.withConditions (db.emailRules.rows.filter _))
  congr 1
  simp only [owns_same hsame]
  rw [hrules _ fun row hrow => (of_decide_eq_true hrow).1]
  apply List.map_congr_left
  intro rule hrule
  obtain ⟨hmem, hselected⟩ := List.mem_filter.mp hrule
  apply withConditions_own hsame
  have hfind : db.emailRules.find? rule.id = some rule :=
    Table.find?_eq_some_iff.mpr ⟨hmem, rfl⟩
  rw [Database.ownsRule_of_find hfind]
  exact (of_decide_eq_true hselected).1

theorem findEmailAccounts_own :
    (EmailAccountsService.findAll userId db').1 = (EmailAccountsService.findAll userId db).1 := by
  unfold EmailAccountsService.findAll
  rw [Model.findMany_bind, Model.findMany_bind, emailAccounts_own hsame]
  rfl

theorem getSettings_own :
    (AuthService.getSettings userId db').1 = (AuthService.getSettings userId db).1 := by
  have huser : db'.users.find? userId = db.users.find? userId := by
    unfold Table.find?
    rw [← List.head?_filter, ← List.head?_filter]
    exact congrArg List.head? (congrArg OwnRows.users hsame)
  unfold AuthService.getSettings
  refine bind_answer ?_ fun found _ => ?_
  · exact congrArg Except.ok huser
  · exact bind_answer (expect_answer _ _ _ _) fun user _ => rfl

theorem listDevices_own :
    (WebAuthnService.listDevices userId db').1 = (WebAuthnService.listDevices userId db).1 := by
  have hdevices : ((Prisma.trustedDevice.table db').rows.filter fun row => row.userId = userId) =
      (Prisma.trustedDevice.table db).rows.filter fun row => row.userId = userId :=
    congrArg OwnRows.trustedDevices hsame
  unfold WebAuthnService.listDevices
  rw [Model.findMany_bind, Model.findMany_bind, hdevices]
  rfl

theorem findPending_own (hrules : ReadRequest.OwnRules .PENDING userId db) :
    (CandidatesService.findPending userId db').1 = (CandidatesService.findPending userId db).1 := by
  show Except.ok (List.map _ (List.mergeSort (db'.emailCandidates.rows.filter _) _)) =
    Except.ok (List.map _ (List.mergeSort (db.emailCandidates.rows.filter _) _))
  congr 1
  simp only [owns_same hsame]
  rw [candidates_own hsame _ fun row hrow => (of_decide_eq_true hrow).2]
  apply List.map_congr_left
  intro row hrow
  obtain ⟨hmem, hselected⟩ := List.mem_filter.mp (List.mem_mergeSort.mp hrow)
  obtain ⟨hstatus, howns⟩ := of_decide_eq_true hselected
  rw [rule_own hsame (hrules row hmem hstatus howns)]

theorem importantSummary_own (hrules : ReadRequest.OwnRules .APPROVED userId db) :
    (CandidatesService.importantSummary userId db').1 =
      (CandidatesService.importantSummary userId db).1 := by
  have happroved : (db'.emailCandidates.rows.filter fun row => row.status = .APPROVED ∧
      (db'.emailRules.find? row.ruleId).any (fun rule => rule.actionType = "important") ∧
        db'.ownsEmailAccount userId row.emailAccountId) =
      db.emailCandidates.rows.filter fun row => row.status = .APPROVED ∧
        (db.emailRules.find? row.ruleId).any (fun rule => rule.actionType = "important") ∧
          db.ownsEmailAccount userId row.emailAccountId := by
    simp only [owns_same hsame]
    rw [← candidates_own hsame _ fun row hrow => (of_decide_eq_true hrow).2.2]
    refine List.filter_congr fun row hrow => ?_
    by_cases hown : row.status = .APPROVED ∧ db.ownsEmailAccount userId row.emailAccountId = true
    · have hmem : row ∈ db.emailCandidates.rows.filter fun row =>
          db.ownsEmailAccount userId row.emailAccountId := by
        rw [← candidates_own hsame (fun row => db.ownsEmailAccount userId row.emailAccountId)
          fun row hrow => hrow]
        exact List.mem_filter.mpr ⟨hrow, hown.2⟩
      rw [rule_own hsame (hrules row (List.mem_filter.mp hmem).1 hown.1 hown.2)]
    · refine decide_eq_decide.mpr ⟨fun h => ?_, fun h => ?_⟩
      · exact absurd ⟨h.1, h.2.2⟩ hown
      · exact absurd ⟨h.1, h.2.2⟩ hown
  unfold CandidatesService.importantSummary
  rw [Model.findMany_bind, Model.findMany_bind, Handler.state_bind, Handler.state_bind,
    Model.findMany_bind, Model.findMany_bind, emailAccounts_own hsame]
  show Except.ok (List.map (fun account => CandidatesService.ImportantSummary.mk _ _
    ((db'.emailCandidates.rows.filter _).countP _)) _) = _
  rw [happroved]
  rfl

end Same

/-- Another action type for a rule that is not the user's. -/
theorem exists_otherRule {ruleId : String} (hnot : db.ownsRule userId ruleId = false)
    (actionType : String) :
    ∃ db' : Database, db'.rowsOf userId = db.rowsOf userId ∧
      db'.emailCandidates = db.emailCandidates ∧ db'.emailAccounts = db.emailAccounts ∧
      (∀ id, id ≠ ruleId → db'.emailRules.find? id = db.emailRules.find? id) ∧
      ∃ rule, db'.emailRules.find? ruleId = some rule ∧ rule.actionType = actionType := by
  -- The rule keeps its mailbox, or has one that no user has connected.
  obtain ⟨stranger, hstranger⟩ :=
    Infinite.exists_notMem_finset (db.emailAccounts.rows.map EmailAccount.id).toFinset
  obtain ⟨rule, hrule⟩ : ∃ rule : EmailRule, rule = ⟨ruleId,
    ((db.emailRules.find? ruleId).map EmailRule.emailAccountId).getD stranger, .AND, actionType,
    true, 0⟩ := ⟨_, rfl⟩
  have hunowned : db.ownsEmailAccount userId rule.emailAccountId = false := by
    rw [hrule]
    dsimp only
    cases hold : db.emailRules.find? ruleId with
    | some old =>
        show db.ownsEmailAccount userId old.emailAccountId = false
        rw [← Database.ownsRule_of_find hold]
        exact hnot
    | none =>
        apply Bool.eq_false_iff.mpr
        intro howns
        obtain ⟨row, hrow, hid⟩ := Database.ownsEmailAccount_iff_mem.mp howns
        apply hstranger
        rw [List.mem_toFinset]
        exact List.mem_map.mpr ⟨row, (List.mem_filter.mp hrow).1, hid⟩
  have hid : rule.id = ruleId := by rw [hrule]
  obtain ⟨table, hinsert⟩ := Option.ne_none_iff_exists'.mp fun hnone :
      (db.emailRules.delete ruleId).insert? rule = none => by
    obtain ⟨other, hother, hclash⟩ := Table.insert?_eq_none_iff.mp hnone
    have hgone := (List.mem_filter.mp hother).2
    have hsame : other.id = ruleId := (hclash.elim id id).trans hid
    simp [Entity.key, hsame] at hgone
  have hrows : table.rows = (db.emailRules.rows.filter fun row => ! decide (key row = ruleId)) ++
    [rule] := (Table.insert?_eq_some_iff.mp hinsert).2
  refine ⟨{ db with emailRules := table }, ?_, rfl, rfl, ?_, rule, ?_, by rw [hrule]⟩
  · refine Database.rowsOf_eq rfl rfl rfl rfl ?_ rfl rfl
    show table.rows.filter _ = _
    rw [hrows, filter_append_others, filter_drop_others]
    · rfl
    · intro row hrow hkey
      have hfind : db.emailRules.find? ruleId = some row :=
        Table.find?_eq_some_iff.mpr ⟨hrow, of_decide_eq_true hkey⟩
      rw [← Database.ownsRule_of_find hfind]
      exact hnot
    · intro row hrow
      rw [List.mem_singleton.mp hrow]
      exact hunowned
  · intro id hne
    show table.find? id = _
    unfold Table.find?
    have hselect : (fun row : EmailRule => decide
        ((! decide (key row = ruleId)) = true ∧ decide (key row = id) = true)) =
          fun row => decide (key row = id) := by
      funext row
      by_cases hkey : key row = id
      · simp [hkey, hne]
      · simp [hkey]
    have hother : [rule].find? (fun row => decide (key row = id)) = none := by
      rw [List.find?_singleton, if_neg]
      exact fun hkey => hne ((of_decide_eq_true hkey).symm.trans hid)
    rw [hrows, List.find?_append, List.find?_filter, hselect, hother, Option.or_none]
  · rw [← hid]
    exact Table.find?_inserted hinsert

theorem ownRules_of_findPending (hanswers : ∀ db' : Database, db'.rowsOf userId = db.rowsOf userId →
      (CandidatesService.findPending userId db').1 = (CandidatesService.findPending userId db).1) :
    ReadRequest.OwnRules .PENDING userId db := by
  intro row hrow hstatus howns
  by_contra hnot
  obtain ⟨shown, hshown⟩ : ∃ shown, shown =
    ((db.emailRules.find? row.ruleId).map EmailRule.actionType).getD "" := ⟨_, rfl⟩
  obtain ⟨db', hsame, hcandidates, -, -, rule, hrule, htype⟩ :=
    exists_otherRule (Bool.eq_false_iff.mpr hnot) (shown ++ "!")
  have hanswer : List.map (fun row => (row,
        ((db'.emailRules.find? row.ruleId).map EmailRule.actionType).getD ""))
      (List.mergeSort (db'.emailCandidates.rows.filter fun row => row.status = .PENDING ∧
        db'.ownsEmailAccount userId row.emailAccountId) fun a b => b.receivedAt ≤ a.receivedAt) =
      List.map (fun row => (row,
        ((db.emailRules.find? row.ruleId).map EmailRule.actionType).getD ""))
      (List.mergeSort (db.emailCandidates.rows.filter fun row => row.status = .PENDING ∧
        db.ownsEmailAccount userId row.emailAccountId) fun a b => b.receivedAt ≤ a.receivedAt) :=
    Except.ok.inj (hanswers db' hsame)
  simp only [owns_same hsame, hcandidates] at hanswer
  have hlisted := List.map_inj_left.mp hanswer row (List.mem_mergeSort.mpr
    (List.mem_filter.mpr ⟨hrow, decide_eq_true ⟨hstatus, howns⟩⟩))
  have htexts : shown ++ "!" = shown := by
    rw [hrule, ← hshown] at hlisted
    exact htype ▸ (Prod.mk.inj hlisted).2
  have := congrArg String.length htexts
  rw [String.length_append] at this
  simp at this

/-- The user's approved candidates of an email account that hang on an important rule. -/
def countsAsImportant (userId emailAccountId : String) (db : Database)
    (row : EmailCandidate) : Bool :=
  row.emailAccountId = emailAccountId ∧ row.status = .APPROVED ∧
    (db.emailRules.find? row.ruleId).any (fun rule => rule.actionType = "important") ∧
      db.ownsEmailAccount userId row.emailAccountId

theorem important_same {emailAccountId : String}
    (hanswer : (CandidatesService.importantSummary userId db').1 =
      (CandidatesService.importantSummary userId db).1)
    (hsame : db'.rowsOf userId = db.rowsOf userId)
    (howns : db.ownsEmailAccount userId emailAccountId = true) :
    db'.emailCandidates.rows.countP (countsAsImportant userId emailAccountId db') =
      db.emailCandidates.rows.countP (countsAsImportant userId emailAccountId db) := by
  have hcount : ∀ db : Database, (db.emailCandidates.rows.filter fun row =>
      row.status = .APPROVED ∧
        (db.emailRules.find? row.ruleId).any (fun rule => rule.actionType = "important") ∧
          db.ownsEmailAccount userId row.emailAccountId).countP
        (fun row => row.emailAccountId = emailAccountId) =
      db.emailCandidates.rows.countP (countsAsImportant userId emailAccountId db) := by
    intro db
    rw [List.countP_filter]
    refine List.countP_congr fun row _ => ?_
    simp [countsAsImportant]
  obtain ⟨account, haccount, hid⟩ := Database.ownsEmailAccount_iff_mem.mp howns
  unfold CandidatesService.importantSummary at hanswer
  rw [Model.findMany_bind, Model.findMany_bind, Handler.state_bind, Handler.state_bind,
    Model.findMany_bind, Model.findMany_bind, emailAccounts_own hsame] at hanswer
  have hentry := List.map_inj_left.mp (Except.ok.inj hanswer) account haccount
  rw [← hcount, ← hcount, ← hid]
  exact (CandidatesService.ImportantSummary.mk.inj hentry).2.2

theorem ownRules_of_importantSummary
    (hanswers : ∀ db' : Database, db'.rowsOf userId = db.rowsOf userId →
      (CandidatesService.importantSummary userId db').1 =
        (CandidatesService.importantSummary userId db).1) :
    ReadRequest.OwnRules .APPROVED userId db := by
  intro row hrow hstatus howns
  by_contra hnot
  obtain ⟨counted, hcounted⟩ : ∃ counted, counted =
    (db.emailRules.find? row.ruleId).any (fun rule => rule.actionType = "important") := ⟨_, rfl⟩
  obtain ⟨db', hsame, hcandidates, -, helsewhere, rule, hrule, htype⟩ :=
    exists_otherRule (Bool.eq_false_iff.mpr hnot) (if counted then "" else "important")
  have hcounts := important_same (hanswers db' hsame) hsame howns
  rw [hcandidates] at hcounts
  have hother : ∀ other, other.ruleId ≠ row.ruleId →
      countsAsImportant userId row.emailAccountId db' other =
        countsAsImportant userId row.emailAccountId db other := by
    intro other hne
    unfold countsAsImportant
    rw [helsewhere _ hne, owns_same hsame]
  -- All candidates of the rule change sides, so the counts differ.
  cases counted with
  | false =>
      have hmore : ∀ other, countsAsImportant userId row.emailAccountId db other = true →
          countsAsImportant userId row.emailAccountId db' other = true := by
        intro other hold
        by_cases heq : other.ruleId = row.ruleId
        · have hcounts := (of_decide_eq_true hold).2.2.1
          rw [heq, ← hcounted] at hcounts
          contradiction
        · rwa [hother other heq]
      refine absurd hcounts (Nat.ne_of_gt (countP_lt (fun other _ => hmore other) hrow ?_ ?_))
      · simp [countsAsImportant, ← hcounted]
      · simp [countsAsImportant, hrule, htype, hstatus, owns_same hsame, howns]
  | true =>
      have hless : ∀ other, countsAsImportant userId row.emailAccountId db' other = true →
          countsAsImportant userId row.emailAccountId db other = true := by
        intro other hnew
        by_cases heq : other.ruleId = row.ruleId
        · have hcounts := (of_decide_eq_true hnew).2.2.1
          rw [heq, hrule] at hcounts
          simp [htype] at hcounts
        · rwa [← hother other heq]
      refine absurd hcounts (Nat.ne_of_lt (countP_lt (fun other _ => hless other) hrow ?_ ?_))
      · simp [countsAsImportant, hrule, htype]
      · simp [countsAsImportant, ← hcounted, hstatus, howns]

end OwnQueries

/-! ## Which routes are isolated -/

namespace ReadRequest

variable {sessionId : String} {now : Int} {ctx : Context R}

/-- A candidate of a stranger is counted for anyone. -/
theorem not_isolated_summary :
    ¬ (notificationsSummary : ReadRequest R).Isolated sessionId now ctx := by
  intro hisolated
  obtain ⟨fresh, hfresh⟩ := Infinite.exists_notMem_finset
    (ctx.db.emailCandidates.rows.map EmailCandidate.id ++
      ctx.db.emailCandidates.rows.map EmailCandidate.externalMessageId ++
      ctx.db.emailCandidates.rows.map EmailCandidate.emailAccountId ++
      ctx.db.emailAccounts.rows.map EmailAccount.id).toFinset
  simp only [List.toFinset_append, Finset.mem_union, List.mem_toFinset, not_or] at hfresh
  obtain ⟨⟨⟨hids, hmessages⟩, haccountIds⟩, haccounts⟩ := hfresh
  obtain ⟨row, hrow⟩ : ∃ row : EmailCandidate,
    row = ⟨fresh, "", fresh, fresh, "", "", 0, .PENDING, none⟩ := ⟨_, rfl⟩
  obtain ⟨table, hinsert⟩ := Option.ne_none_iff_exists'.mp fun hnone :
      ctx.db.emailCandidates.insert? row = none => by
    obtain ⟨other, hother, hclash⟩ := Table.insert?_eq_none_iff.mp hnone
    rcases hclash with hid | hindex
    · exact hids (List.mem_map.mpr ⟨other, hother, hid.trans (by rw [hrow])⟩)
    · exact hmessages (List.mem_map.mpr
        ⟨other, hother, (Prod.mk.inj hindex).2.trans (by rw [hrow])⟩)
  have hrows := (Table.insert?_eq_some_iff.mp hinsert).2
  have hsame : ∀ userId,
      ({ ctx.db with emailCandidates := table } : Database).rowsOf userId =
        ctx.db.rowsOf userId := by
    intro userId
    refine Database.rowsOf_eq rfl rfl rfl rfl rfl rfl ?_
    show table.rows.filter _ = _
    rw [hrows, filter_append_others]
    · rfl
    · intro added hadded
      rw [List.mem_singleton.mp hadded, hrow]
      apply Bool.eq_false_iff.mpr
      intro howns
      obtain ⟨account, haccount, hid⟩ := Database.ownsEmailAccount_iff_mem.mp howns
      exact haccounts (List.mem_map.mpr ⟨account, (List.mem_filter.mp haccount).1, hid⟩)
  have hanswer := hisolated { ctx.db with emailCandidates := table } fun userId _ => hsame userId
  obtain ⟨counts, hcounts⟩ : ∃ counts, NotificationsService.summary
    { ctx.db with emailCandidates := table } = (.ok counts, _) := ⟨_, rfl⟩
  have hcounts' : NotificationsService.summary ctx.db = (.ok counts, ctx.db) := by
    replace hanswer : (NotificationsService.summary { ctx.db with emailCandidates := table }).1 =
      (NotificationsService.summary ctx.db).1 := hanswer
    rw [hcounts] at hanswer
    exact Prod.ext hanswer.symm rfl
  have hcounted : fresh ∈ counts.map NotificationCount.emailAccountId := by
    apply (NotificationsService.mem_summary hcounts).mpr
    refine ⟨row, ?_, by rw [hrow], by rw [hrow]⟩
    show row ∈ table.rows
    rw [hrows]
    exact List.mem_append_right _ (List.mem_singleton_self _)
  obtain ⟨other, hother, -, haccount⟩ := (NotificationsService.mem_summary hcounts').mp hcounted
  exact haccountIds (List.mem_map.mpr ⟨other, hother, haccount⟩)

/-- Behind `UnlockedGuard`, a query about the user's own rows is isolated. -/
theorem behindUnlockedGuard_own {α : Type} {query : String → R.Key → Query α}
    (hquery : ∀ userId key db', db'.rowsOf userId = ctx.db.rowsOf userId →
      (unlockedGuard sessionId now ctx).1 = .ok (userId, key) →
        (query userId key db').1 = (query userId key ctx.db).1) (db' : Database)
    (hsame : ∀ userId, ctx.session.loggedInAs = some userId →
      db'.rowsOf userId = ctx.db.rowsOf userId) :
    (behindUnlockedGuard sessionId now query (ctx.withDb db')).1 =
      (behindUnlockedGuard sessionId now query ctx).1 := by
  apply behindUnlockedGuard_iff.mpr
  intro userId key hguard
  obtain ⟨after, hrun⟩ := Handler.exists_run hguard
  exact hquery userId key db' (hsame userId (unlockedGuard_ok_iff.mp hrun).1) hguard

/-- An isolated query behind `UnlockedGuard` answers from the user's own rows. -/
theorem own_of_behindUnlockedGuard {α : Type} {query : String → R.Key → Query α} {userId : String}
    {key : R.Key} (hguard : (unlockedGuard sessionId now ctx).1 = .ok (userId, key))
    (hisolated : ∀ db' : Database, (∀ userId, ctx.session.loggedInAs = some userId →
        db'.rowsOf userId = ctx.db.rowsOf userId) →
      (behindUnlockedGuard sessionId now query (ctx.withDb db')).1 =
        (behindUnlockedGuard sessionId now query ctx).1)
    (db' : Database) (hsame : db'.rowsOf userId = ctx.db.rowsOf userId) :
    (query userId key db').1 = (query userId key ctx.db).1 := by
  obtain ⟨after, hrun⟩ := Handler.exists_run hguard
  refine behindUnlockedGuard_iff.mp (hisolated db' fun other hother => ?_) userId key hguard
  obtain rfl := Option.some.inj ((unlockedGuard_ok_iff.mp hrun).1.symm.trans hother)
  exact hsame

end ReadRequest

open ReadRequest in
/-- A route answers a session from the rows of its user alone, or from no rows, if and only if
it is not the summary of the notifications, and the user's candidates that it reads hang on
rules of the user. -/
theorem isolated_iff (request : ReadRequest R) (sessionId : String) (now : Int)
    (ctx : Context R) :
    request.Isolated sessionId now ctx ↔ request.ReadsOwnRows sessionId now ctx := by
  cases request with
  | accounts contains category q =>
      refine iff_of_true (behindUnlockedGuard_own fun userId key db' hsame _ => ?_) trivial
      exact findAccounts_own hsame contains category q
  | account id =>
      refine iff_of_true (behindUnlockedGuard_own fun userId key db' hsame _ => ?_) trivial
      exact findAccount_own hsame id key
  | exportAccounts exportPassword salt iv =>
      refine iff_of_true (behindUnlockedGuard_own fun userId key db' hsame _ => ?_) trivial
      exact exportAccounts_own hsame key exportPassword now salt iv
  | emailRules emailAccountId =>
      refine iff_of_true (behindUnlockedGuard_own fun userId key db' hsame _ => ?_) trivial
      exact findRules_own hsame emailAccountId
  | emailCandidates =>
      constructor
      · intro hisolated userId key hguard
        exact ownRules_of_findPending (own_of_behindUnlockedGuard hguard hisolated)
      · intro hrules
        refine behindUnlockedGuard_own fun userId key db' hsame hguard => ?_
        exact findPending_own hsame (hrules userId key hguard)
  | importantSummary =>
      constructor
      · intro hisolated userId key hguard
        exact ownRules_of_importantSummary (own_of_behindUnlockedGuard hguard hisolated)
      · intro hrules
        refine behindUnlockedGuard_own fun userId key db' hsame hguard => ?_
        exact importantSummary_own hsame (hrules userId key hguard)
  | emailAccounts =>
      refine iff_of_true (fun db' hsame => behindLoggedInGuard_iff.mpr fun userId hlogged => ?_)
        trivial
      exact findEmailAccounts_own (hsame userId hlogged)
  | notificationsSummary => exact iff_of_false not_isolated_summary id
  | settings =>
      refine iff_of_true (fun db' hsame => behindLoggedInGuard_iff.mpr fun userId hlogged => ?_)
        trivial
      exact getSettings_own (hsame userId hlogged)
  | webauthnDevices =>
      have hdevices : ∀ userId (key : R.Key) (db' : Database),
          db'.rowsOf userId = ctx.db.rowsOf userId →
            (unlockedGuard sessionId now ctx).1 = .ok (userId, key) →
              (WebAuthnService.listDevices userId db').1 =
                (WebAuthnService.listDevices userId ctx.db).1 :=
        fun _ _ _ hsame _ => listDevices_own hsame
      exact iff_of_true (behindUnlockedGuard_own hdevices) trivial

/-! ## A run -/

namespace OthersCandidate

def user : User := ⟨"b", "sub-b", "b@example.com", "", "", 10, 0⟩

def mailbox : EmailAccount := ⟨"mailbox", "b", "gmail", "b@example.com", "", "", none, true, 0⟩

def rule : EmailRule := ⟨"rule", "mailbox", .AND, "important", true, 0⟩

/-- A database of another user with a scanned email account. -/
def before : Database :=
  { Database.empty with
    users := ⟨[user], by decide⟩
    emailAccounts := ⟨[mailbox], by decide⟩
    emailRules := ⟨[rule], by decide⟩ }

def candidate : EmailCandidate :=
  ⟨"candidate", "rule", "mailbox", "message", "", "", 0, .PENDING, none⟩

/-- The next scan has found a mail. -/
def after : Database := { before with emailCandidates := ⟨[candidate], by decide⟩ }

end OthersCandidate

open OthersCandidate in
/-- Without a login, the summary tells that a mail was found for another user. -/
theorem not_isolated_strangers :
    ¬ (ReadRequest.notificationsSummary : ReadRequest symbolicRuntime).Isolated "" 0
      ⟨before, .empty, {}⟩ := by
  intro hisolated
  have hanswer : (NotificationsService.summary after).1 =
      (NotificationsService.summary before).1 := by
    refine hisolated after fun userId hlogged => ?_
    contradiction
  exact absurd (Except.ok.inj hanswer) (by decide)

end MyAccountController
