import MyAccountController.Mail.CandidatesService
import MyAccountController.Prisma.Cascade
import MyAccountController.Prisma.RuleInput

/-! # `RulesService`

A rule belongs to an email account of the user. An update replaces all the
conditions or none, in one transaction.
-/

namespace MyAccountController

open Foundation

/-- The random ids of a creation: of the rule and of its conditions. -/
structure FreshRule where
  id : String
  conditionId : Nat → String

namespace RulesService

def emailAccountNotFound : Exception := .notFound "연결된 메일 계정을 찾을 수 없습니다."

def ruleNotFound : Exception := .notFound "규칙을 찾을 수 없습니다."

/-- The rules of the user's email accounts. An empty id does not restrict them. -/
def findAll (userId : String) (emailAccountId : Option String) :
    Query (List RuleWithConditions) := do
  let db ← Handler.state
  let rules ← Prisma.emailRule.findMany fun row =>
    db.ownsEmailAccount userId row.emailAccountId ∧
      ∀ id ∈ emailAccountId, id ≠ "" → row.emailAccountId = id
  pure (rules.map db.withConditions)

/-- `findFirst({ where: { id: emailAccountId, userId } })`. A condition that is
`undefined` does not restrict; a value that is no text cannot be written later. -/
def findEmailAccount (userId : String) : Option Json → Query (Option EmailAccount)
  | some (.str id) => Prisma.emailAccount.findFirst fun row => row.id = id ∧ row.userId = userId
  | none => Prisma.emailAccount.findFirst fun row => row.userId = userId
  | some _ => Handler.raise .prismaValidation

/-- The nested `conditions: { create }`. -/
def createConditions (conditionId : Nat → String) (ruleId : String)
    (inputs : List ConditionInput) : Query PUnit :=
  inputs.zipIdx.forM fun (input, i) => do
    let _ ← Prisma.emailRuleCondition.create (input.row (conditionId i) ruleId)

/-- `include: { conditions: true }` of the answered rule. -/
def included (rule : EmailRule) : Query RuleWithConditions := do
  let db ← Handler.state
  pure (db.withConditions rule)

def create (userId : String) (fresh : FreshRule) (now : Int) (data : JsObject) :
    Query RuleWithConditions := do
  let found ← findEmailAccount userId (data.get "emailAccountId")
  let _ ← Handler.expect found emailAccountNotFound
  let input ← Handler.ofExcept (RuleInput.newRule data)
  Handler.transaction do
    let rule ← Prisma.emailRule.create
      { id := fresh.id
        emailAccountId := input.emailAccountId
        logicalOperator := input.logicalOperator
        actionType := input.actionType
        isActive := true
        createdAt := now }
    createConditions fresh.conditionId rule.id input.conditions
    included rule

/-- The rule, when it is of an email account of the user. -/
def findOwned (userId id : String) : Query EmailRule := do
  let db ← Handler.state
  let rule ← Prisma.emailRule.findFirst fun row =>
    row.id = id ∧ db.ownsEmailAccount userId row.emailAccountId
  Handler.expect rule ruleNotFound

/-- `if (data.conditions) await tx.emailRuleCondition.deleteMany(...)`. -/
def dropConditions (id : String) (data : JsObject) : Query PUnit :=
  if (RuleInput.truthy data "conditions").isSome then do
    let _ ← Prisma.emailRuleCondition.deleteMany fun row => row.ruleId = id
  else pure ⟨⟩

def update (userId id : String) (conditionId : Nat → String) (data : JsObject) :
    Query RuleWithConditions := do
  let _ ← findOwned userId id
  Handler.transaction do
    dropConditions id data
    let changes ← Handler.ofExcept (RuleInput.changes data)
    let rule ← Prisma.emailRule.update id changes.apply changes.apply_unindexed
    createConditions conditionId id changes.conditions
    included rule

def remove (userId id : String) : Query Unit := do
  let _ ← findOwned userId id
  let _ ← Prisma.deleteEmailRule id

/-! ## What the methods do -/

section Outcomes

variable {userId id : String} {db db' : Database} {e : Exception}

theorem ownsEmailAccount_iff {emailAccountId : String} :
    db.ownsEmailAccount userId emailAccountId = true ↔
      ∃ account, db.emailAccounts.find? emailAccountId = some account ∧
        account.userId = userId := by
  unfold Database.ownsEmailAccount
  rw [Option.any_eq_true]
  simp only [decide_eq_true_eq]

theorem findOwned_ok_iff {rule : EmailRule} :
    findOwned userId id db = (.ok rule, db') ↔
      db.emailRules.find? id = some rule ∧
        db.ownsEmailAccount userId rule.emailAccountId = true ∧ db' = db := by
  unfold findOwned
  have hfirst : (Prisma.emailRule.table db).rows.find? (fun row =>
      row.id = id ∧ db.ownsEmailAccount userId row.emailAccountId) = some rule ↔
        db.emailRules.find? id = some rule ∧
          db.ownsEmailAccount userId rule.emailAccountId = true := Table.find?_where
  rw [Handler.state_bind, Model.findFirst_bind, Handler.expect_ok_iff, hfirst, and_assoc,
    eq_comm (a := db)]

theorem findOwned_error (hrun : findOwned userId id db = (.error e, db')) : db' = db := by
  unfold findOwned at hrun
  rw [Handler.state_bind, Model.findFirst_bind] at hrun
  exact (Handler.expect_error_iff.mp hrun).2.2.symm

/-- Conditions of one rule are added, and nothing else is written. -/
def AddsConditions (ruleId : String) (db db' : Database) : Prop :=
  ∃ added, db'.emailRuleConditions.rows = db.emailRuleConditions.rows ++ added ∧
    (∀ row ∈ added, row.ruleId = ruleId) ∧
    db' = { db with emailRuleConditions := db'.emailRuleConditions }

theorem AddsConditions.refl (ruleId : String) (db : Database) : AddsConditions ruleId db db :=
  ⟨[], (List.append_nil _).symm, by simp, rfl⟩

theorem AddsConditions.trans (ruleId : String) (a b c : Database)
    (hab : AddsConditions ruleId a b) (hbc : AddsConditions ruleId b c) :
    AddsConditions ruleId a c := by
  obtain ⟨added, hrows, hadded, hb⟩ := hab
  obtain ⟨added', hrows', hadded', hc⟩ := hbc
  refine ⟨added ++ added', ?_, ?_, ?_⟩
  · rw [hrows', hrows, List.append_assoc]
  · intro row hrow
    rcases List.mem_append.mp hrow with hrow | hrow
    · exact hadded row hrow
    · exact hadded' row hrow
  · rw [hc, hb]

theorem createConditions_keeps (conditionId : Nat → String) (ruleId : String)
    (inputs : List ConditionInput) :
    Handler.Keeps (AddsConditions ruleId) (createConditions conditionId ruleId inputs) := by
  apply Handler.keeps_forM (AddsConditions.refl ruleId) (AddsConditions.trans ruleId)
  intro item _ db
  rw [Handler.bind_pure_state]
  rcases hcreate : Prisma.emailRuleCondition.create (item.1.row (conditionId item.2) ruleId) db
    with ⟨e | row, db'⟩
  · obtain ⟨rfl, -⟩ := Model.create_error _ hcreate
    exact AddsConditions.refl ruleId db'
  · obtain ⟨-, -, table, hinsert, rfl⟩ := (Model.create_ok_iff _).mp hcreate
    refine ⟨[item.1.row (conditionId item.2) ruleId], (Table.insert?_eq_some_iff.mp hinsert).2, ?_,
      rfl⟩
    intro row hrow
    rw [List.mem_singleton.mp hrow]
    rfl

/-- The rows that a nested creation adds. -/
def newConditions (conditionId : Nat → String) (ruleId : String) (inputs : List ConditionInput) :
    List EmailRuleCondition :=
  inputs.zipIdx.map fun (input, i) => input.row (conditionId i) ruleId

theorem newConditions_content (conditionId : Nat → String) (ruleId : String)
    (inputs : List ConditionInput) :
    (newConditions conditionId ruleId inputs).map EmailRuleCondition.content =
      inputs.map ConditionInput.content := by
  unfold newConditions
  rw [List.map_map]
  show inputs.zipIdx.map (ConditionInput.content ∘ Prod.fst) = _
  rw [← List.map_map, List.zipIdx_map_fst]

/-- A creation that succeeds adds all its rows, in order. -/
theorem createConditions_ok {conditionId : Nat → String} {ruleId : String}
    {inputs : List ConditionInput} {u : PUnit}
    (hrun : createConditions conditionId ruleId inputs db = (.ok u, db')) :
    db'.emailRuleConditions.rows =
      db.emailRuleConditions.rows ++ newConditions conditionId ruleId inputs := by
  unfold createConditions at hrun
  unfold newConditions
  generalize inputs.zipIdx = items at hrun ⊢
  induction items generalizing db with
  | nil =>
      obtain ⟨-, rfl⟩ := Prod.mk.inj hrun
      exact (List.append_nil _).symm
  | cons item items ih =>
      obtain ⟨_, middle, hfirst, hrest⟩ := Handler.bind_ok_iff.mp hrun
      obtain ⟨row, _, hcreate, hpure⟩ := Handler.bind_ok_iff.mp hfirst
      obtain ⟨-, rfl⟩ := Prod.mk.inj hpure
      obtain ⟨-, -, table, hinsert, rfl⟩ := (Model.create_ok_iff _).mp hcreate
      have hrows : table.rows = db.emailRuleConditions.rows ++ [_] :=
        (Table.insert?_eq_some_iff.mp hinsert).2
      rw [ih hrest, List.map_cons, List.append_cons]
      exact congrArg (· ++ _) hrows

/-- A creation succeeds when the rule is there and the ids are new. -/
theorem createConditions_run {conditionId : Nat → String} {ruleId : String}
    {inputs : List ConditionInput} (hrule : (db.emailRules.find? ruleId).isSome = true)
    (hunnamed : ∀ input ∈ inputs, input.id = none) (hinjective : Function.Injective conditionId)
    (hunused : ∀ row ∈ db.emailRuleConditions.rows, ∀ i, row.id ≠ conditionId i) :
    ∃ db', createConditions conditionId ruleId inputs db = (.ok ⟨⟩, db') := by
  unfold createConditions
  have hnodup : (inputs.zipIdx.map Prod.snd).Nodup := by
    rw [List.zipIdx_map_snd]
    exact List.nodup_range'
  have hids : ∀ item ∈ inputs.zipIdx, item.1.id = none := fun item hitem =>
    hunnamed item.1 (List.fst_mem_of_mem_zipIdx hitem)
  have hunused' : ∀ row ∈ db.emailRuleConditions.rows, ∀ i ∈ inputs.zipIdx.map Prod.snd,
      row.id ≠ conditionId i := fun row hrow i _ => hunused row hrow i
  clear hunnamed hunused
  generalize inputs.zipIdx = items at hnodup hids hunused' ⊢
  induction items generalizing db with
  | nil => exact ⟨db, rfl⟩
  | cons item items ih =>
      obtain ⟨hnew, hrest⟩ := List.nodup_cons.mp hnodup
      have hid : (item.1.row (conditionId item.2) ruleId).id = conditionId item.2 := by
        show item.1.id.getD _ = _
        rw [hids item List.mem_cons_self]
        rfl
      have hfree : ∀ other ∈ db.emailRuleConditions.rows,
          ¬ Clash other (item.1.row (conditionId item.2) ruleId) := by
        intro other hother hclash
        have hsame : other.id = conditionId item.2 := hid ▸ hclash.elim id id
        exact hunused' other hother item.2 List.mem_cons_self hsame
      obtain ⟨table, hinsert⟩ := Option.ne_none_iff_exists'.mp fun hnone =>
        absurd (Table.insert?_eq_none_iff.mp hnone) fun ⟨other, hother, hclash⟩ =>
          hfree other hother hclash
      have hcreate : Prisma.emailRuleCondition.create (item.1.row (conditionId item.2) ruleId) db =
          (.ok _, Prisma.emailRuleCondition.withTable db table) :=
        (Model.create_ok_iff _).mpr ⟨rfl, hrule, table, hinsert, rfl⟩
      have hlater : ∀ row ∈ table.rows, ∀ i ∈ items.map Prod.snd, row.id ≠ conditionId i := by
        intro row hrow i hi heq
        rw [(Table.insert?_eq_some_iff.mp hinsert).2] at hrow
        rcases List.mem_append.mp hrow with hold | hlast
        · exact hunused' row hold i (List.mem_cons_of_mem _ hi) heq
        · rw [List.mem_singleton.mp hlast, hid] at heq
          exact hnew (hinjective heq ▸ hi)
      obtain ⟨db', hrun⟩ := @ih (Prisma.emailRuleCondition.withTable db table) hrule hrest
        (fun other hother => hids other (List.mem_cons_of_mem _ hother)) hlater
      have hfirst : (do
          let _ ← Prisma.emailRuleCondition.create (item.1.row (conditionId item.2) ruleId)
          pure ⟨⟩ : Query PUnit) db =
          (.ok ⟨⟩, Prisma.emailRuleCondition.withTable db table) := Handler.bind_of_ok hcreate
      exact ⟨db', (Handler.bind_of_ok hfirst).trans hrun⟩

theorem findEmailAccount_ok {body : Option Json} {account : EmailAccount}
    (hrun : findEmailAccount userId body db = (.ok (some account), db')) :
    db' = db ∧ account.userId = userId ∧ account ∈ db.emailAccounts.rows ∧
      ∀ text, body = some (.str text) → account.id = text := by
  unfold findEmailAccount at hrun
  split at hrun
  · obtain ⟨hfind, rfl⟩ := Prod.mk.inj hrun
    have hfind := Except.ok.inj hfind
    have hselected := List.find?_some hfind
    obtain ⟨hid, huser⟩ := of_decide_eq_true hselected
    refine ⟨rfl, huser, List.mem_of_find?_eq_some hfind, fun text htext => ?_⟩
    rw [hid]
    exact Json.str.inj (Option.some.inj htext)
  · obtain ⟨hfind, rfl⟩ := Prod.mk.inj hrun
    have hfind := Except.ok.inj hfind
    have hselected := List.find?_some hfind
    exact ⟨rfl, of_decide_eq_true hselected, List.mem_of_find?_eq_some hfind, by simp⟩
  · exact absurd (congrArg Prod.fst hrun) (by simp)

theorem findEmailAccount_state (body : Option Json) :
    (findEmailAccount userId body db).2 = db := by
  unfold findEmailAccount
  split <;> rfl

theorem newRule_emailAccountId {data : JsObject} {input : NewRule}
    (hinput : RuleInput.newRule data = .ok input) :
    data.get "emailAccountId" = some (.str input.emailAccountId) := by
  unfold RuleInput.newRule at hinput
  obtain ⟨emailAccountId, hid, hrest⟩ := AccountInput.bind_ok_iff.mp hinput
  obtain ⟨logicalOperator, -, hrest⟩ := AccountInput.bind_ok_iff.mp hrest
  obtain ⟨actionType, -, hrest⟩ := AccountInput.bind_ok_iff.mp hrest
  obtain ⟨conditions, -, hrest⟩ := AccountInput.bind_ok_iff.mp hrest
  obtain rfl := Except.ok.inj hrest
  exact AccountInput.requiredText_ok_iff.mp hid

/-- A rule of an email account of the user is added, with conditions of its own. -/
structure Creates (userId : String) (db db' : Database) (rule : EmailRule) : Prop where
  owned : db.ownsEmailAccount userId rule.emailAccountId = true
  rules : db'.emailRules.rows = db.emailRules.rows ++ [rule]
  conditions : ∃ added, db'.emailRuleConditions.rows = db.emailRuleConditions.rows ++ added ∧
    ∀ row ∈ added, row.ruleId = rule.id
  elsewhere : db' = { db with
    emailRules := db'.emailRules
    emailRuleConditions := db'.emailRuleConditions }

theorem Creates.emailCandidates {rule : EmailRule} (hcreates : Creates userId db db' rule) :
    db'.emailCandidates = db.emailCandidates := by
  rw [hcreates.elsewhere]

theorem create_ok {fresh : FreshRule} {now : Int} {data : JsObject} {created : RuleWithConditions}
    (hrun : create userId fresh now data db = (.ok created, db')) :
    Creates userId db db' created.rule := by
  rw [create, Handler.bind_ok_iff] at hrun
  obtain ⟨found, start, hfound, hrun⟩ := hrun
  obtain ⟨account, start', hexpect, hrun⟩ := Handler.bind_ok_iff.mp hrun
  obtain ⟨rfl, rfl⟩ := Handler.expect_ok_iff.mp hexpect
  obtain ⟨rfl, huser, hmem, hid⟩ := findEmailAccount_ok hfound
  obtain ⟨input, start', hinput, hrun⟩ := Handler.bind_ok_iff.mp hrun
  obtain ⟨hparsed, rfl⟩ := Prod.mk.inj hinput
  obtain ⟨rule, middle, hcreate, hrun⟩ :=
    Handler.bind_ok_iff.mp (Handler.transaction_ok_iff.mp hrun)
  obtain ⟨rfl, -, table, hinsert, rfl⟩ := (Model.create_ok_iff _).mp hcreate
  obtain ⟨_, last, hconditions, hrun⟩ := Handler.bind_ok_iff.mp hrun
  obtain ⟨added, hrows, hadded, hlast⟩ :=
    (createConditions_keeps fresh.conditionId fresh.id input.conditions).of_run hconditions
  replace hlast : last = { Prisma.emailRule.withTable start table with
    emailRuleConditions := last.emailRuleConditions } := hlast
  obtain ⟨hcreated, rfl⟩ := Prod.mk.inj hrun
  obtain rfl := Except.ok.inj hcreated
  refine ⟨?_, ?_, ⟨added, hrows, hadded⟩, ?_⟩
  · apply ownsEmailAccount_iff.mpr
    refine ⟨account, Table.find?_eq_some_iff.mpr ⟨hmem, ?_⟩, huser⟩
    exact hid _ (newRule_emailAccountId hparsed)
  · rw [hlast]
    exact (Table.insert?_eq_some_iff.mp hinsert).2
  · rw [hlast]
    rfl

theorem create_error {fresh : FreshRule} {now : Int} {data : JsObject}
    (hrun : create userId fresh now data db = (.error e, db')) : db' = db := by
  have hstate := @findEmailAccount_state userId db (data.get "emailAccountId")
  rw [create, Handler.bind_error_iff] at hrun
  rcases hrun with hfound | ⟨found, _, hfound, hrun⟩
  · rw [hfound] at hstate
    exact hstate
  rw [hfound] at hstate
  subst hstate
  rcases Handler.bind_error_iff.mp hrun with hexpect | ⟨_, _, hexpect, hrun⟩
  · exact (Handler.expect_error_iff.mp hexpect).2.2.symm
  obtain ⟨-, rfl⟩ := Handler.expect_ok_iff.mp hexpect
  rcases Handler.bind_error_iff.mp hrun with hinput | ⟨_, _, hinput, hrun⟩
  · exact (Prod.mk.inj hinput).2.symm
  obtain ⟨-, rfl⟩ := Prod.mk.inj hinput
  exact (Handler.transaction_error_iff.mp hrun).2.symm

/-- The named columns of a rule of the user are written, and its conditions are
kept or replaced. -/
structure Updates (userId id : String) (data : JsObject) (db db' : Database) : Prop where
  owned : ∃ rule, db.emailRules.find? id = some rule ∧
    db.ownsEmailAccount userId rule.emailAccountId = true
  rules : ∃ changes, RuleInput.changes data = .ok changes ∧
    db'.emailRules = db.emailRules.modify id changes.apply changes.apply_unindexed
  conditions : ∃ kept added, db'.emailRuleConditions.rows = kept ++ added ∧
    kept.Sublist db.emailRuleConditions.rows ∧
    (∀ row ∈ db.emailRuleConditions.rows, row.ruleId ≠ id → row ∈ kept) ∧
    ∀ row ∈ added, row.ruleId = id
  elsewhere : db' = { db with
    emailRules := db'.emailRules
    emailRuleConditions := db'.emailRuleConditions }

theorem Updates.emailCandidates {data : JsObject} (hupdates : Updates userId id data db db') :
    db'.emailCandidates = db.emailCandidates := by
  rw [hupdates.elsewhere]

theorem dropConditions_run {data : JsObject} {u : PUnit}
    (hrun : dropConditions id data db = (.ok u, db')) :
    ∃ drop : EmailRuleCondition → Bool, (∀ row, drop row = true → row.ruleId = id) ∧
      db' = { db with emailRuleConditions := db.emailRuleConditions.deleteWhere drop } := by
  unfold dropConditions at hrun
  split at hrun
  · obtain ⟨-, rfl⟩ := Prod.mk.inj hrun
    exact ⟨fun row => row.ruleId = id, fun row hrow => of_decide_eq_true hrow, rfl⟩
  · obtain ⟨-, rfl⟩ := Prod.mk.inj hrun
    refine ⟨fun _ => false, by simp, ?_⟩
    ext1
    case emailRuleConditions =>
      ext1
      rw [Table.rows_deleteWhere]
      simp
    all_goals rfl

theorem update_ok {conditionId : Nat → String} {data : JsObject} {updated : RuleWithConditions}
    (hrun : update userId id conditionId data db = (.ok updated, db')) :
    Updates userId id data db db' := by
  rw [update, Handler.bind_ok_iff] at hrun
  obtain ⟨rule, start, hfound, hrun⟩ := hrun
  obtain ⟨hfind, howns, hstart⟩ := findOwned_ok_iff.mp hfound
  subst start
  obtain ⟨u, dropped, hdrop, hrun⟩ :=
    Handler.bind_ok_iff.mp (Handler.transaction_ok_iff.mp hrun)
  obtain ⟨drop, hdropped, rfl⟩ := dropConditions_run hdrop
  obtain ⟨changes, dropped, hchanges, hrun⟩ := Handler.bind_ok_iff.mp hrun
  obtain ⟨hnamed, rfl⟩ := Prod.mk.inj hchanges
  obtain ⟨row, middle, hupdate, hrun⟩ := Handler.bind_ok_iff.mp hrun
  obtain ⟨-, rfl⟩ := (Model.update_ok_iff _).mp hupdate
  obtain ⟨_, last, hconditions, hrun⟩ := Handler.bind_ok_iff.mp hrun
  obtain ⟨-, rfl⟩ := Prod.mk.inj hrun
  obtain ⟨added, hrows, hadded, hlast⟩ :=
    (createConditions_keeps conditionId id changes.conditions).of_run hconditions
  have hrules : last.emailRules =
      db.emailRules.modify id changes.apply changes.apply_unindexed := by
    rw [hlast]
    rfl
  refine ⟨⟨rule, hfind, howns⟩, ⟨changes, hnamed, hrules⟩, ?_, ?_⟩
  · refine ⟨_, added, hrows, List.filter_sublist, ?_, hadded⟩
    intro row hrow hne
    apply List.mem_filter.mpr
    refine ⟨hrow, ?_⟩
    cases hdrop : drop row with
    | false => rfl
    | true => exact absurd (hdropped row hdrop) hne
  · rw [hrules]
    exact hlast

theorem update_error {conditionId : Nat → String} {data : JsObject}
    (hrun : update userId id conditionId data db = (.error e, db')) : db' = db := by
  rw [update, Handler.bind_error_iff] at hrun
  rcases hrun with hfound | ⟨rule, start, hfound, hrun⟩
  · exact findOwned_error hfound
  · obtain ⟨-, -, rfl⟩ := findOwned_ok_iff.mp hfound
    exact (Handler.transaction_error_iff.mp hrun).2.symm

theorem remove_ok {u : Unit} (hrun : remove userId id db = (.ok u, db')) :
    (∃ rule, db.emailRules.find? id = some rule ∧
      db.ownsEmailAccount userId rule.emailAccountId = true) ∧ db' = db.deleteRule id := by
  rw [remove, Handler.bind_ok_iff] at hrun
  obtain ⟨rule, start, hfound, hrun⟩ := hrun
  obtain ⟨hfind, howns, rfl⟩ := findOwned_ok_iff.mp hfound
  obtain ⟨row, last, hdelete, hrun⟩ := Handler.bind_ok_iff.mp hrun
  obtain ⟨-, rfl⟩ := Prisma.deleteEmailRule_ok_iff.mp hdelete
  obtain ⟨-, rfl⟩ := Prod.mk.inj hrun
  exact ⟨⟨rule, hfind, howns⟩, rfl⟩

theorem remove_error (hrun : remove userId id db = (.error e, db')) : db' = db := by
  rw [remove, Handler.bind_error_iff] at hrun
  rcases hrun with hfound | ⟨rule, start, hfound, hrun⟩
  · exact findOwned_error hfound
  · obtain ⟨-, -, rfl⟩ := findOwned_ok_iff.mp hfound
    rcases Handler.bind_error_iff.mp hrun with hdelete | ⟨_, _, -, hpure⟩
    · exact Prisma.deleteEmailRule_error hdelete
    · exact absurd (congrArg Prod.fst hpure) (by simp)

end Outcomes

end RulesService

end MyAccountController
