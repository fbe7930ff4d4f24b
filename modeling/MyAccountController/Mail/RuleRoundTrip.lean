import MyAccountController.Mail.RuleForm

/-! # What the edit form saves

The update creates the conditions of the form anew and refuses the columns of the
listing. What it stores are the conditions that the form holds, which are those it
shows when its text boxes are in step.
-/

namespace MyAccountController

open Foundation RulesService

/-- The form is accepted for the rule, and the listing then has the conditions that the form
holds and shows, its action and its operator. -/
def RoundTrips (text : Json → String) (userId : String) (filter : Option String)
    (conditionId : Nat → String) (db : Database) (rule : EmailRule) (form : RuleForm) : Prop :=
  ∃ answer db' rules saved,
    RulesService.update userId rule.id conditionId form.payload db = (.ok answer, db') ∧
      findAll userId filter db' = (.ok rules, db') ∧
      rules.filter (fun other => other.rule.id = rule.id) = [saved] ∧
      saved.rule.emailAccountId = rule.emailAccountId ∧
      saved.conditions.map EmailRuleCondition.content =
        form.conditions.map RuleCondition.content ∧
      saved.conditions.map (fun row => shownContent text row.content) =
        form.rows.map FormRow.shown ∧
      saved.rule.actionType = form.actionType ∧
      (2 ≤ form.conditions.length → saved.rule.logicalOperator = form.logicalOperator)

/-- The random ids of the new conditions do not repeat and are not in use. -/
structure FreshConditionIds (conditionId : Nat → String) (db : Database) : Prop where
  injective : Function.Injective conditionId
  unused : ∀ row ∈ db.emailRuleConditions.rows, ∀ i, row.id ≠ conditionId i

/-! ## The nested creation -/

namespace RuleCondition

variable {condition : RuleCondition}

theorem get_properties (hlisted : condition.listed = false) :
    condition.properties = [("conditionType", .str condition.conditionType),
      ("conditionValue", condition.conditionValue)] := by
  unfold listed at hlisted
  unfold properties
  cases hcolumns : condition.columns with
  | none => rfl
  | some columns => simp [hcolumns] at hlisted

/-- Prisma creates a condition that was made in the form. -/
theorem condition_ok (hlisted : condition.listed = false) :
    ∃ input, RuleInput.condition (.obj condition.properties) = .ok input ∧ input.id = none ∧
      input.content = condition.content := by
  refine ⟨⟨none, condition.conditionType, condition.conditionValue⟩, ?_, rfl, rfl⟩
  rw [get_properties hlisted, RuleInput.condition, if_pos (by simp [JsObject.names,
    RuleInput.conditionColumns])]
  simp [RuleInput.optionalText, RuleInput.requiredJson, AccountInput.requiredText,
    JsObject.get_cons]
  rfl

/-- Prisma refuses a condition of the listing. -/
theorem condition_error (hlisted : condition.listed = true) :
    RuleInput.condition (.obj condition.properties) = .error .prismaValidation := by
  obtain ⟨columns, hcolumns⟩ := Option.isSome_iff_exists.mp hlisted
  have hmem : "ruleId" ∈ condition.properties.names := by
    simp [properties, hcolumns, JsObject.names]
  refine if_neg fun hallowed => ?_
  exact absurd (hallowed "ruleId" hmem) (by decide)

end RuleCondition

/-- All conditions are created, when none of them came with the listing. -/
theorem conditions_ok {conditions : List RuleCondition}
    (hnone : ∀ condition ∈ conditions, condition.listed = false) :
    ∃ inputs, (conditions.map fun condition => Json.obj condition.properties).mapM
        RuleInput.condition = .ok inputs ∧
      (∀ input ∈ inputs, input.id = none) ∧
      inputs.map ConditionInput.content = conditions.map RuleCondition.content := by
  induction conditions with
  | nil => exact ⟨[], rfl, by simp, rfl⟩
  | cons condition rest ih =>
      obtain ⟨input, hinput, hid, hcontent⟩ :=
        RuleCondition.condition_ok (hnone condition List.mem_cons_self)
      obtain ⟨inputs, hinputs, hids, hall⟩ :=
        ih fun other hother => hnone other (List.mem_cons_of_mem _ hother)
      refine ⟨input :: inputs, ?_, ?_, ?_⟩
      · rw [List.map_cons]
        exact mapM_cons_ok_iff.mpr ⟨input, inputs, hinput, hinputs, rfl⟩
      · rintro other (_ | ⟨_, hother⟩)
        · exact hid
        · exact hids other hother
      · rw [List.map_cons, List.map_cons, hcontent, hall]

/-- None is created, when one of them did. -/
theorem conditions_error {conditions : List RuleCondition}
    (hsome : ∃ condition ∈ conditions, condition.listed = true) :
    ∃ e, (conditions.map fun condition => Json.obj condition.properties).mapM
      RuleInput.condition = .error e := by
  obtain ⟨condition, hcondition, hlisted⟩ := hsome
  cases hinputs : (conditions.map fun condition => Json.obj condition.properties).mapM
      RuleInput.condition with
  | error e => exact ⟨e, rfl⟩
  | ok inputs =>
      obtain ⟨input, hinput⟩ := mapM_returns_iff.mp ⟨inputs, hinputs⟩ _
        (List.mem_map_of_mem hcondition)
      rw [RuleCondition.condition_error hlisted] at hinput
      contradiction

/-! ## An update that replaces the conditions -/

section Update

variable {userId id : String} {filter : Option String} {conditionId : Nat → String}
  {db : Database} {rule : EmailRule}

theorem findAll_run : findAll userId filter db =
    (.ok ((db.emailRules.rows.filter fun row => db.ownsEmailAccount userId row.emailAccountId ∧
      ∀ id ∈ filter, id ≠ "" → row.emailAccountId = id).map db.withConditions), db) := rfl

/-- The listing has a rule of the user once. -/
theorem findAll_filter (hfound : db.emailRules.find? id = some rule)
    (howns : db.ownsEmailAccount userId rule.emailAccountId = true)
    (hfilter : ∀ id ∈ filter, id ≠ "" → rule.emailAccountId = id) :
    ((db.emailRules.rows.filter fun row => db.ownsEmailAccount userId row.emailAccountId ∧
      ∀ id ∈ filter, id ≠ "" → row.emailAccountId = id).map db.withConditions).filter
        (fun other => other.rule.id = id) = [db.withConditions rule] := by
  rw [List.filter_map]
  show ((db.emailRules.rows.filter _).filter fun row => decide (key row = id)).map _ = _
  rw [List.filter_comm, Table.filter_key hfound, List.filter_eq_self.mpr]
  · rfl
  · intro other hother
    rw [List.mem_singleton.mp hother]
    exact decide_eq_true ⟨howns, hfilter⟩

/-- The update of the user's own rule succeeds. -/
theorem update_replaces {data : JsObject} {changes : RuleChanges}
    (hfound : db.emailRules.find? id = some rule)
    (howns : db.ownsEmailAccount userId rule.emailAccountId = true)
    (hcarries : (RuleInput.truthy data "conditions").isSome = true)
    (hchanges : RuleInput.changes data = .ok changes)
    (hunnamed : ∀ input ∈ changes.conditions, input.id = none)
    (hfresh : FreshConditionIds conditionId db) :
    ∃ answer db', RulesService.update userId id conditionId data db = (.ok answer, db') ∧
      db'.emailAccounts = db.emailAccounts ∧
      db'.emailRules = db.emailRules.modify id changes.apply changes.apply_unindexed ∧
      db'.emailRuleConditions.rows.filter (fun row => row.ruleId = id) =
        newConditions conditionId id changes.conditions := by
  -- The states inside the transaction: the old conditions dropped, then the rule updated.
  obtain ⟨dropped, hdropped⟩ : ∃ dropped, dropped = Prisma.emailRuleCondition.withTable db
    (db.emailRuleConditions.deleteWhere fun row => row.ruleId = id) := ⟨_, rfl⟩
  obtain ⟨updated, hupdated⟩ : ∃ updated, updated = Prisma.emailRule.withTable dropped
    (db.emailRules.modify id changes.apply changes.apply_unindexed) := ⟨_, rfl⟩
  have hdrop : dropConditions id data db = (.ok ⟨⟩, dropped) := by
    unfold dropConditions
    rw [if_pos hcarries, hdropped]
    rfl
  have hupdate : Prisma.emailRule.update id changes.apply changes.apply_unindexed dropped =
      (.ok (changes.apply rule), updated) := by
    rw [hupdated, hdropped]
    exact (Model.update_ok_iff _).mpr ⟨⟨rule, hfound, rfl⟩, rfl⟩
  have hsome : (updated.emailRules.find? id).isSome = true := by
    rw [hupdated]
    show ((db.emailRules.modify id _ changes.apply_unindexed).find? id).isSome = true
    rw [Table.find?_modify _ hfound]
    rfl
  have hunused : ∀ row ∈ updated.emailRuleConditions.rows, ∀ i, row.id ≠ conditionId i := by
    rw [hupdated, hdropped]
    exact fun row hrow => hfresh.unused row (List.mem_filter.mp hrow).1
  obtain ⟨db', hcreated⟩ := createConditions_run hsome hunnamed hfresh.injective hunused
  obtain ⟨-, -, -, hdb'⟩ :=
    (createConditions_keeps conditionId id changes.conditions).of_run hcreated
  have hrows := createConditions_ok hcreated
  rw [hupdated, hdropped] at hdb' hrows
  refine ⟨db'.withConditions (changes.apply rule), db', ?_, ?_, ?_, ?_⟩
  · unfold RulesService.update
    rw [Handler.bind_of_ok (findOwned_ok_iff.mpr ⟨hfound, howns, rfl⟩)]
    apply Handler.transaction_ok_iff.mpr
    rw [Handler.bind_of_ok hdrop, hchanges, Handler.ofExcept_ok_bind, Handler.bind_of_ok hupdate,
      Handler.bind_of_ok hcreated]
    rfl
  · rw [hdb']
    rfl
  · rw [hdb']
    rfl
  · have hown : (newConditions conditionId id changes.conditions).filter
        (fun row => row.ruleId = id) = newConditions conditionId id changes.conditions := by
      apply List.filter_eq_self.mpr
      intro row hrow
      obtain ⟨item, -, rfl⟩ := List.mem_map.mp hrow
      exact decide_eq_true rfl
    rw [hrows, List.filter_append, hown]
    show List.filter _ (List.filter _ _) ++ _ = _
    rw [List.filter_filter, List.filter_eq_nil_iff.mpr, List.nil_append]
    simp

end Update

/-! ## The round trip -/

namespace RuleForm

variable (form : RuleForm)

theorem logicalOperator_text (operator : LogicalOperator) :
    RuleInput.logicalOperator (.str operator.text) = .ok operator := by
  cases operator <;> rfl

theorem truthy_conditions : RuleInput.truthy form.payload "conditions" =
    some (.arr (form.conditions.map fun condition => .obj condition.properties)) := by
  simp [RuleInput.truthy, payload, JsObject.get_cons, Json.truthy]

/-- What the update reads from the body. -/
theorem changes_payload : RuleInput.changes form.payload =
    ((form.conditions.map fun condition => Json.obj condition.properties).mapM
      RuleInput.condition).map fun conditions =>
        ⟨some form.submittedOperator, some form.actionType, none, conditions⟩ := by
  have haction : RuleInput.truthy form.payload "actionType" = some (.str form.actionType) := by
    have hne : form.actionType.val ≠ "" := by
      intro hempty
      exact absurd (hempty ▸ form.actionType.2) (by decide)
    simp [RuleInput.truthy, payload, JsObject.get_cons, Json.truthy, hne]
  have hoperator : RuleInput.truthy form.payload "logicalOperator" =
      some (.str form.submittedOperator.text) := by
    have hne : form.submittedOperator.text ≠ "" := by
      cases form.submittedOperator <;> decide
    simp [RuleInput.truthy, payload, JsObject.get_cons, Json.truthy, hne]
  have hactive : form.payload.get "isActive" = none := by
    simp [payload, JsObject.get_cons]
  unfold RuleInput.changes
  rw [haction, hoperator, hactive, truthy_conditions]
  have hread : (some (Json.str form.submittedOperator.text)).mapM (fun value =>
      RuleInput.logicalOperator (AccountInput.setOperand value)) =
        .ok (some form.submittedOperator) := by
    show some <$> RuleInput.logicalOperator (.str form.submittedOperator.text) = _
    rw [logicalOperator_text]
    rfl
  rw [hread]
  cases hconditions : (form.conditions.map fun condition => Json.obj condition.properties).mapM
      RuleInput.condition with
  | error e =>
      show (RuleInput.conditions _ >>= _) = _
      rw [RuleInput.conditions, hconditions]
      rfl
  | ok inputs =>
      show (RuleInput.conditions _ >>= _) = _
      rw [RuleInput.conditions, hconditions]
      rfl

variable {form} {text : Json → String} {userId : String} {filter : Option String}
  {conditionId : Nat → String} {db : Database} {rules : List RuleWithConditions}
  {rule : RuleWithConditions}

/-- A form with a condition of the listing is refused. -/
theorem not_roundTrips (hsome : ∃ condition ∈ form.conditions, condition.listed = true) :
    ¬ RoundTrips text userId filter conditionId db rule.rule form := by
  rintro ⟨answer, db', -, -, hupdate, -⟩
  obtain ⟨e, hconditions⟩ := conditions_error hsome
  rw [RulesService.update] at hupdate
  obtain ⟨_, start, -, hrun⟩ := Handler.bind_ok_iff.mp hupdate
  obtain ⟨_, dropped, -, hrun⟩ := Handler.bind_ok_iff.mp (Handler.transaction_ok_iff.mp hrun)
  obtain ⟨changes, _, hchanges, -⟩ := Handler.bind_ok_iff.mp hrun
  rw [changes_payload, hconditions] at hchanges
  exact absurd (congrArg Prod.fst hchanges) (by simp [Except.map])

/-- When the conditions were all made in the form, what it shows is what it holds if and only if
the boxes are in step. -/
theorem shown_iff (hnone : ∀ condition ∈ form.conditions, condition.listed = false) :
    form.conditions.map (fun condition => shownContent text condition.content) =
        form.rows.map FormRow.shown ↔ ∀ row ∈ form.rows, row.InStep text := by
  unfold conditions
  rw [List.map_map, List.map_inj_left]
  apply forall₂_congr
  intro row hrow
  exact FormRow.shown_eq_iff (hnone row.condition (List.mem_map_of_mem hrow))

/-- What a round trip saves is what the form shows. -/
theorem inStep_of_roundTrips (htrip : RoundTrips text userId filter conditionId db rule.rule form)
    (hnone : ∀ condition ∈ form.conditions, condition.listed = false) :
    ∀ row ∈ form.rows, row.InStep text := by
  obtain ⟨_, _, _, saved, -, -, -, -, hcontent, hshown, -⟩ := htrip
  have hsaved := congrArg (List.map (shownContent text)) hcontent
  rw [List.map_map, List.map_map] at hsaved
  exact (shown_iff hnone).mp (hsaved.symm.trans hshown)

/-- A form whose conditions were all made in it, with its boxes in step, is accepted and saved
as it is. -/
theorem roundTrips (hlisted : findAll userId filter db = (.ok rules, db)) (hrule : rule ∈ rules)
    (hfresh : FreshConditionIds conditionId db)
    (hnone : ∀ condition ∈ form.conditions, condition.listed = false)
    (hstep : ∀ row ∈ form.rows, row.InStep text) :
    RoundTrips text userId filter conditionId db rule.rule form := by
  rw [findAll_run] at hlisted
  obtain ⟨row, hrow, rfl⟩ := List.mem_map.mp (Except.ok.inj (Prod.mk.inj hlisted).1 ▸ hrule)
  obtain ⟨hmem, hselected⟩ := List.mem_filter.mp hrow
  obtain ⟨howns, hfilter⟩ := of_decide_eq_true hselected
  have hfound : db.emailRules.find? row.id = some row :=
    Table.find?_eq_some_iff.mpr ⟨hmem, rfl⟩
  obtain ⟨inputs, hinputs, hunnamed, hcontent⟩ := conditions_ok hnone
  obtain ⟨changes, hnamed, hchanges⟩ : ∃ changes : RuleChanges, changes =
      ⟨some form.submittedOperator, some form.actionType, none, inputs⟩ ∧
        RuleInput.changes form.payload = .ok changes :=
    ⟨_, rfl, by rw [changes_payload, hinputs]; rfl⟩
  have hcarries : (RuleInput.truthy form.payload "conditions").isSome = true := by
    rw [truthy_conditions]
    rfl
  have hinputs' : changes.conditions = inputs := by rw [hnamed]
  obtain ⟨answer, db', hupdate, haccounts, hrules, hconditions⟩ :=
    update_replaces hfound howns hcarries hchanges (hinputs'.symm ▸ hunnamed) hfresh
  have hsaved : db'.emailRules.find? row.id = some (changes.apply row) := by
    rw [hrules]
    exact Table.find?_modify _ hfound
  have howns' : db'.ownsEmailAccount userId (changes.apply row).emailAccountId = true := by
    unfold Database.ownsEmailAccount
    rw [haccounts]
    exact howns
  have hsame : (db'.withConditions (changes.apply row)).conditions.map EmailRuleCondition.content =
      form.conditions.map RuleCondition.content := by
    show (db'.emailRuleConditions.rows.filter fun condition => condition.ruleId = row.id).map _ = _
    rw [hconditions, newConditions_content, ← hcontent, hinputs']
  refine ⟨answer, db', _, db'.withConditions (changes.apply row), hupdate, findAll_run,
    findAll_filter hsaved howns' hfilter, rfl, hsame, ?_, ?_, ?_⟩
  · have hshown := congrArg (List.map (shownContent text)) hsame
    rw [List.map_map, List.map_map] at hshown
    exact hshown.trans ((shown_iff hnone).mpr hstep)
  · rw [hnamed]
    rfl
  · intro htwo
    have hmany : 1 < form.conditions.length := htwo
    rw [hnamed]
    show form.submittedOperator = _
    unfold submittedOperator
    rw [if_pos hmany]

end RuleForm

open RuleForm in
/-- The edit form saves what it shows if and only if all conditions that the rule had are
removed in it and its text boxes are in step. -/
theorem ruleForm_roundTrips_iff {text : Json → String} {userId : String} {filter : Option String}
    {conditionId : Nat → String} {db : Database} {rules : List RuleWithConditions}
    {rule : RuleWithConditions} {emailAccountId : String} {form : RuleForm}
    {actions : List FormAction} (hlisted : findAll userId filter db = (.ok rules, db))
    (hrule : rule ∈ rules) (hfresh : FreshConditionIds conditionId db)
    (hopened : opened text emailAccountId rule = some form) :
    RoundTrips text userId filter conditionId db rule.rule (run (act text) form actions) ↔
      RemovesAll rule actions ∧ ∀ row ∈ (run (act text) form actions).rows, row.InStep text := by
  rw [removesAll_iff hopened]
  constructor
  · intro htrip
    have hnone : ∀ condition ∈ (run (act text) form actions).conditions,
        condition.listed = false := by
      intro condition hcondition
      cases hmark : condition.listed with
      | false => rfl
      | true => exact absurd htrip (not_roundTrips ⟨condition, hcondition, hmark⟩)
    exact ⟨hnone, inStep_of_roundTrips htrip hnone⟩
  · rintro ⟨hnone, hstep⟩
    exact roundTrips hlisted hrule hfresh hnone hstep

/-! ## A rule with one condition -/

namespace RuleForm.OneCondition

def user : User := ⟨"u", "g", "me@example.com", "hash", "salt", 15, 0⟩

def mailbox : EmailAccount := ⟨"e", "u", "gmail", "me@example.com", "", "", none, true, 0⟩

def rule : EmailRule := ⟨"r", "e", .AND, "delete_candidate", true, 0⟩

def condition : EmailRuleCondition := ⟨"c", "r", "sender", .obj [("domain", .str "shop.example")]⟩

def db : Database :=
  { Database.empty with
    users := ⟨[user], by decide⟩
    emailAccounts := ⟨[mailbox], by decide⟩
    emailRules := ⟨[rule], by decide⟩
    emailRuleConditions := ⟨[condition], by decide⟩ }

/-- The text of a string; the form has no other values here. -/
def text : Json → String
  | .str written => written
  | .null | .bool _ | .num _ _ | .arr _ | .obj _ => ""

/-- The form on the rule, as it is drawn. -/
def form : RuleForm where
  emailAccountId := "e"
  initialOperator := .AND
  rows := [⟨.answered condition, some ⟨"shop.example", true⟩, rfl⟩]
  actionType := ⟨"delete_candidate", delete_candidate_mem⟩
  logicalOperator := .AND

theorem opened_eq : opened text "e" ⟨rule, [condition]⟩ = some form := by
  unfold opened
  rw [if_pos (by decide)]
  rfl

def conditionId (i : Nat) : String := String.ofList (List.replicate i 'i')

theorem freshIds : FreshConditionIds conditionId db where
  injective i j hij := by
    have := congrArg (fun text : String => text.toList.length) hij
    simpa [conditionId] using this
  unused row hrow i heq := by
    rw [List.mem_singleton.mp hrow] at heq
    have hmem : 'c' ∈ (conditionId i).toList := heq ▸ List.mem_singleton_self _
    simp [conditionId] at hmem

/-- A new condition is added, and the listed one is removed: its box stays. -/
def replaced : List FormAction := [.addCondition, .removeCondition 0]

end RuleForm.OneCondition

open RuleForm OneCondition in
/-- The unchanged form is refused. When the condition is replaced by a new one, the box shows
the old domain, and none is saved. -/
theorem not_ruleForm_roundTrips :
    findAll "u" (some "e") db = (.ok [⟨rule, [condition]⟩], db) ∧
      opened text "e" ⟨rule, [condition]⟩ = some form ∧
      ¬ RoundTrips text "u" (some "e") conditionId db rule form ∧
      ¬ RoundTrips text "u" (some "e") conditionId db rule (run (act text) form replaced) := by
  refine ⟨rfl, opened_eq, ?_, fun htrip => ?_⟩
  · rintro ⟨answer, db', _, _, hupdate, _⟩
    have herror : (RulesService.update "u" rule.id conditionId form.payload db).1.isOk = false := by
      decide +kernel
    rw [hupdate] at herror
    contradiction
  · have hstep := @inStep_of_roundTrips (run (act text) form replaced) text "u" (some "e")
      conditionId db ⟨rule, []⟩ htrip (by decide)
    exact absurd hstep (by decide)

open RuleForm OneCondition in
/-- Once a domain is typed into the box, it is in step. -/
theorem ruleForm_roundTrips_example :
    RoundTrips text "u" (some "e") conditionId db rule
      (run (act text) form (replaced ++ [.typeText 0 "news.example"])) :=
  (@ruleForm_roundTrips_iff text "u" (some "e") conditionId db [⟨rule, [condition]⟩]
    ⟨rule, [condition]⟩ "e" form _ rfl List.mem_cons_self freshIds opened_eq).mpr
      ⟨by decide, by decide⟩

end MyAccountController
