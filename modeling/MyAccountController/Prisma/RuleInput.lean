import MyAccountController.Prisma.AccountInput

/-! # The data object of a rule write

The service picks the columns of a rule out of the request body and passes the
conditions on as a nested creation, which Prisma checks against the columns of
a condition but for the id of its rule.
-/

namespace MyAccountController

open Foundation

/-- A condition to be created with its rule. -/
structure ConditionInput where
  id : Option String
  conditionType : String
  conditionValue : Json

/-- The stored row of a new condition. -/
def ConditionInput.row (input : ConditionInput) (freshId ruleId : String) : EmailRuleCondition where
  id := input.id.getD freshId
  ruleId := ruleId
  conditionType := input.conditionType
  conditionValue := input.conditionValue

/-- What a condition says. -/
def EmailRuleCondition.content (row : EmailRuleCondition) : String × Json :=
  (row.conditionType, row.conditionValue)

def ConditionInput.content (input : ConditionInput) : String × Json :=
  (input.conditionType, input.conditionValue)

/-- The columns of a new rule. -/
structure NewRule where
  emailAccountId : String
  logicalOperator : LogicalOperator
  actionType : String
  conditions : List ConditionInput

/-- The columns that an update of a rule names. -/
structure RuleChanges where
  logicalOperator : Option LogicalOperator
  actionType : Option String
  isActive : Option Bool
  conditions : List ConditionInput

def RuleChanges.apply (changes : RuleChanges) (row : EmailRule) : EmailRule :=
  { row with
    logicalOperator := changes.logicalOperator.getD row.logicalOperator
    actionType := changes.actionType.getD row.actionType
    isActive := changes.isActive.getD row.isActive }

theorem RuleChanges.apply_unindexed (changes : RuleChanges) : Table.Unindexed changes.apply :=
  ⟨fun _ => rfl, fun _ _ => Iff.rfl⟩

namespace RuleInput

def conditionColumns : List String := ["id", "conditionType", "conditionValue"]

/-- A required JSON column takes any value, a bare `null` too. -/
def requiredJson (data : JsObject) (name : String) : Except Exception Json :=
  match data.get name with
  | some value => .ok value
  | none => .error .prismaValidation

def optionalText (data : JsObject) (name : String) : Except Exception (Option String) :=
  match data.get name with
  | none => .ok none
  | some (.str value) => .ok (some value)
  | some _ => .error .prismaValidation

def condition : Json → Except Exception ConditionInput
  | .obj data => do
      if ∀ name ∈ JsObject.names data, name ∈ conditionColumns then
        let id ← optionalText data "id"
        let conditionType ← AccountInput.requiredText data "conditionType"
        let conditionValue ← requiredJson data "conditionValue"
        pure { id, conditionType, conditionValue }
      else .error .prismaValidation
  | _ => .error .prismaValidation

/-- `conditions: { create: value }`: one condition, or a list of them. -/
def conditions : Option Json → Except Exception (List ConditionInput)
  | none => .ok []
  | some (.arr items) => items.mapM condition
  | some item => do
      let input ← condition item
      pure [input]

def logicalOperator : Json → Except Exception LogicalOperator
  | .str "AND" => .ok .AND
  | .str "OR" => .ok .OR
  | _ => .error .prismaValidation

/-- The value of `data.name`, if it counts as true. -/
def truthy (data : JsObject) (name : String) : Option Json :=
  (data.get name).filter Json.truthy

/-- The row that `create` is asked for. The schema's default operator is `AND`. -/
def newRule (data : JsObject) : Except Exception NewRule := do
  let emailAccountId ← AccountInput.requiredText data "emailAccountId"
  let logicalOperator ← ((data.get "logicalOperator").map logicalOperator).getD (.ok .AND)
  let actionType ← AccountInput.requiredText data "actionType"
  let conditions ← conditions (data.get "conditions")
  pure { emailAccountId, logicalOperator, actionType, conditions }

/-- `{ ...(data.logicalOperator ? { logicalOperator } : {}), ... }`. -/
def changes (data : JsObject) : Except Exception RuleChanges := do
  let logicalOperator ← (truthy data "logicalOperator").mapM fun value =>
    logicalOperator (AccountInput.setOperand value)
  let actionType ← (truthy data "actionType").mapM fun value =>
    match AccountInput.setOperand value with
    | .str value => .ok value
    | _ => .error .prismaValidation
  let isActive ← (data.get "isActive").mapM fun value =>
    match AccountInput.setOperand value with
    | .bool value => .ok value
    | _ => .error .prismaValidation
  let conditions ← conditions (truthy data "conditions")
  pure { logicalOperator, actionType, isActive, conditions }

end RuleInput

end MyAccountController
