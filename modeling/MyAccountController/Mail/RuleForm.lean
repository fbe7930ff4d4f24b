import Mathlib.Data.List.InsertIdx
import MyAccountController.Foundation.Run
import MyAccountController.Mail.RulesService

/-! # The edit form of a rule

The form opens on a rule as the listing answers it, and submits its conditions as
they are. A condition of the listing carries the columns `id` and `ruleId` too,
and the form keeps them. The text boxes belong to the rows and not to the
conditions: a box stays while its row has one, and once something was written to
it, it no longer follows the condition beside it.
-/

namespace MyAccountController

open Foundation

/-! ## Conditions -/

/-- The values of `CONDITION_TYPES`. -/
def conditionTypes : List String :=
  ["sender", "subject_keyword", "body_keyword", "has_emoji", "has_attachment"]

/-- The values of `ACTION_TYPES`. -/
def actionTypes : List String := ["delete_candidate", "spam_candidate", "important"]

theorem delete_candidate_mem : "delete_candidate" ∈ actionTypes := List.mem_cons_self

def LogicalOperator.text : LogicalOperator → String
  | .AND => "AND"
  | .OR => "OR"

/-- The property that the text box of a condition writes, if the condition has a box. -/
def inputName (conditionType : String) : Option String :=
  if conditionType = "sender" then some "domain"
  else if conditionType = "subject_keyword" ∨ conditionType = "body_keyword" then some "contains"
  else none

/-- `value.domain ?? value.contains ?? ""`. -/
def conditionValueDefault : Json → Json
  | .obj properties =>
      (((JsObject.get properties "domain").filter (· ≠ .null)).or
        ((JsObject.get properties "contains").filter (· ≠ .null))).getD (.str "")
  | .null | .bool _ | .num _ _ | .str _ | .arr _ => .str ""

/-- `Partial<RuleCondition>`: one of the types, and a value that does not turn `equals` off. -/
structure ConditionPatch where
  conditionType : Option {value : String // value ∈ conditionTypes}
  conditionValue : Option {value : Json // RuleMatcher.expected value = .ok true}

/-- `RuleCondition`, with the columns `id` and `ruleId` if it came with the listing. One that
was made in the form has a type and a value that the form gives. -/
structure RuleCondition where
  columns : Option (String × String)
  conditionType : String
  conditionValue : Json
  made : columns = none →
    conditionType ∈ conditionTypes ∧ RuleMatcher.expected conditionValue = .ok true

namespace RuleCondition

/-- The type in the select box, which shows its first option for a type that it does not have. -/
def shownType (condition : RuleCondition) : String :=
  if condition.conditionType ∈ conditionTypes then condition.conditionType else "sender"

/-- `{ conditionType: "sender", conditionValue: {} }`. -/
def new : RuleCondition := ⟨none, "sender", .obj [], fun _ => ⟨by decide, rfl⟩⟩

/-- A condition of the listing. -/
def answered (row : EmailRuleCondition) : RuleCondition :=
  ⟨some (row.id, row.ruleId), row.conditionType, row.conditionValue, by simp⟩

/-- `{ ...condition, ...patch }`. -/
def patched (condition : RuleCondition) (patch : ConditionPatch) : RuleCondition where
  columns := condition.columns
  conditionType := (patch.conditionType.map Subtype.val).getD condition.conditionType
  conditionValue := (patch.conditionValue.map Subtype.val).getD condition.conditionValue
  made hnone := by
    obtain ⟨htype, hvalue⟩ := condition.made hnone
    obtain ⟨conditionType, conditionValue⟩ := patch
    constructor
    · cases conditionType with
      | none => exact htype
      | some chosen => exact chosen.2
    · cases conditionValue with
      | none => exact hvalue
      | some written => exact written.2

/-- The properties of the object. -/
def properties (condition : RuleCondition) : JsObject :=
  (condition.columns.toList.flatMap fun (id, ruleId) => [("id", .str id), ("ruleId", .str ruleId)]) ++
    [("conditionType", .str condition.conditionType), ("conditionValue", condition.conditionValue)]

/-- The condition came with the listing. -/
def listed (condition : RuleCondition) : Bool := condition.columns.isSome

def content (condition : RuleCondition) : String × Json :=
  (condition.conditionType, condition.conditionValue)

end RuleCondition

/-! ## Rows -/

/-- An uncontrolled text box: its text, and whether something was written to it. -/
structure TextBox where
  text : String
  dirty : Bool

namespace TextBox

/-- A new box. Its default is written to it unless it is empty. -/
def mount (default : String) : TextBox := ⟨default, default ≠ ""⟩

/-- A box that is there already, with another default. -/
def follow (box : TextBox) (default : String) : TextBox :=
  if box.dirty then box else ⟨default, false⟩

/-- The text that React knows of. It notices what is written, and not what the box follows. -/
def tracked (box : TextBox) : String := if box.dirty then box.text else ""

end TextBox

/-- A row of the form: a condition, and the text box that the page has for it. -/
structure FormRow where
  condition : RuleCondition
  box : Option TextBox
  fits : box.isSome = (inputName condition.conditionType).isSome

namespace FormRow

/-- The property to update when the text is typed into the box: none if it is the text that
React knows of. -/
def onChange (row : FormRow) (text : String) : Option String :=
  if row.box.any (·.tracked ≠ text) then inputName row.condition.conditionType else none

/-- The text is typed into the box. -/
def write (row : FormRow) (text : String) : FormRow where
  condition := row.condition
  box := row.box.map fun _ => ⟨text, true⟩
  fits := by rw [Option.isSome_map, row.fits]

section Rendering

variable (text : Json → String)

/-- The row of a condition, where a box may be there already. -/
def render (box : Option TextBox) (condition : RuleCondition) : FormRow where
  condition
  box :=
    if (inputName condition.conditionType).isSome then
      let default := text (conditionValueDefault condition.conditionValue)
      some ((box.map (·.follow default)).getD (.mount default))
    else none
  fits := by split <;> simp [*]

/-- The rows are keyed by their positions. -/
def renderAll : List FormRow → List RuleCondition → List FormRow
  | _, [] => []
  | [], condition :: rest => render text none condition :: renderAll [] rest
  | row :: rows, condition :: rest => render text row.box condition :: renderAll rows rest

theorem renderAll_conditions (rows : List FormRow) (conditions : List RuleCondition) :
    (renderAll text rows conditions).map condition = conditions := by
  induction conditions generalizing rows with
  | nil => cases rows <;> rfl
  | cons condition rest ih => cases rows <;> exact congrArg _ (ih _)

/-- The box shows the text of the condition beside it. -/
def InStep (row : FormRow) : Prop :=
  ∀ box ∈ row.box, box.text = text (conditionValueDefault row.condition.conditionValue)

instance (row : FormRow) : Decidable (row.InStep text) :=
  inferInstanceAs (Decidable (∀ box ∈ row.box, _))

end Rendering

end FormRow

/-! ## The form -/

/-- The form while a rule is edited. The select boxes hold one of their options; that of the
operator is there for two or more conditions, and starts at the rule's operator. -/
structure RuleForm where
  emailAccountId : String
  initialOperator : LogicalOperator
  rows : List FormRow
  actionType : {value : String // value ∈ actionTypes}
  logicalOperator : LogicalOperator

inductive FormAction where
  | addCondition
  | removeCondition (index : Nat)
  | chooseType (index : Nat) (conditionType : {value : String // value ∈ conditionTypes})
  | typeText (index : Nat) (text : String)
  | chooseAction (actionType : {value : String // value ∈ actionTypes})
  | chooseOperator (logicalOperator : LogicalOperator)

namespace RuleForm

def conditions (form : RuleForm) : List RuleCondition := form.rows.map FormRow.condition

section Actions

variable (text : Json → String)

/-- The form can be drawn: a condition with a box has a value to read. -/
def Draws (rule : RuleWithConditions) : Prop :=
  ∀ condition ∈ rule.conditions, (inputName condition.conditionType).isSome →
    condition.conditionValue ≠ .null

instance (rule : RuleWithConditions) : Decidable (Draws rule) :=
  inferInstanceAs (Decidable (∀ condition ∈ rule.conditions, _))

/-- The form on a rule of the listing. A select box without the rule's action shows its first
option. -/
def opened (emailAccountId : String) (rule : RuleWithConditions) : Option RuleForm :=
  if Draws rule then some
    { emailAccountId
      initialOperator := rule.rule.logicalOperator
      rows := FormRow.renderAll text [] (rule.conditions.map RuleCondition.answered)
      actionType :=
        if h : rule.rule.actionType ∈ actionTypes then ⟨rule.rule.actionType, h⟩
        else ⟨"delete_candidate", delete_candidate_mem⟩
      logicalOperator := rule.rule.logicalOperator }
  else none

/-- `setConditions`. The operator's select box goes with the second condition. -/
def setConditions (form : RuleForm) (conditions : List RuleCondition) : RuleForm :=
  { form with
    rows := FormRow.renderAll text form.rows conditions
    logicalOperator :=
      if 1 < conditions.length then form.logicalOperator else form.initialOperator }

def updateCondition (form : RuleForm) (index : Nat) (patch : ConditionPatch) : RuleForm :=
  form.setConditions text (form.conditions.modify index fun condition => condition.patched patch)

def addCondition (form : RuleForm) : RuleForm :=
  if 5 ≤ form.conditions.length then form
  else form.setConditions text (form.conditions ++ [.new])

def removeCondition (form : RuleForm) (index : Nat) : RuleForm :=
  form.setConditions text (form.conditions.eraseIdx index)

/-- `{ conditionValue: { [name]: written } }`. -/
def textPatch (name written : String) : ConditionPatch where
  conditionType := none
  conditionValue := some ⟨.obj [(name, .str written)], by
    show Except.map _ (Except.ok (JsObject.get [(name, .str written)] "equals")) = _
    rw [JsObject.get_cons]
    split <;> rfl⟩

/-- One action. The button that removes a condition is there for two or more. -/
def act (form : RuleForm) : FormAction → RuleForm
  | .addCondition => form.addCondition text
  | .removeCondition index =>
      if 1 < form.conditions.length then form.removeCondition text index else form
  | .chooseType index conditionType =>
      if (form.conditions[index]?).any (·.shownType = conditionType.val) then form
      else form.updateCondition text index ⟨some conditionType, some ⟨.obj [], rfl⟩⟩
  | .typeText index written =>
      let typed := { form with rows := form.rows.modify index fun row => row.write written }
      match (form.rows[index]?).bind fun row => row.onChange written with
      | some name => typed.updateCondition text index (textPatch name written)
      | none => typed
  | .chooseAction actionType => { form with actionType }
  | .chooseOperator logicalOperator =>
      if 1 < form.conditions.length then { form with logicalOperator } else form

end Actions

/-- `form.get("logicalOperator") ?? "AND"`. -/
def submittedOperator (form : RuleForm) : LogicalOperator :=
  if 1 < form.conditions.length then form.logicalOperator else .AND

/-- The body of the request. -/
def payload (form : RuleForm) : JsObject :=
  [("emailAccountId", .str form.emailAccountId), ("actionType", .str form.actionType),
    ("logicalOperator", .str form.submittedOperator.text),
    ("conditions", .arr (form.conditions.map fun condition => .obj condition.properties))]

end RuleForm

/-! ## What is shown -/

/-- What a condition is shown to ask for: a text, or whether something is to be there. -/
inductive ShownValue where
  | text (text : String)
  | wanted (wanted : Option Bool)
  deriving DecidableEq

/-- A row without a box says "matches if there is one". -/
def FormRow.shown (row : FormRow) : String × ShownValue :=
  (row.condition.shownType,
    (row.box.map fun box => .text box.text).getD (.wanted (some true)))

/-- What a stored condition asks for, as the form shows it. -/
def shownContent (text : Json → String) (content : String × Json) : String × ShownValue :=
  (content.1,
    if (inputName content.1).isSome then .text (text (conditionValueDefault content.2))
    else .wanted (RuleMatcher.expected content.2).toOption)

/-- For a condition that was made in the form, the two agree when the box is in step. -/
theorem FormRow.shown_eq_iff {text : Json → String} {row : FormRow}
    (hlisted : row.condition.listed = false) :
    shownContent text row.condition.content = row.shown ↔ row.InStep text := by
  have hnone : row.condition.columns = none := by
    cases hcolumns : row.condition.columns with
    | none => rfl
    | some columns => simp [RuleCondition.listed, hcolumns] at hlisted
  obtain ⟨htype, hvalue⟩ := row.condition.made hnone
  -- A row has a box exactly when the type of its condition has one.
  have hfits := row.fits
  unfold shownContent FormRow.shown FormRow.InStep RuleCondition.content RuleCondition.shownType
  dsimp only
  rw [if_pos htype]
  cases hbox : row.box with
  | none =>
      rw [hbox] at hfits
      rw [if_neg (by simp [← hfits]), hvalue]
      simp [Except.toOption]
  | some box =>
      rw [hbox] at hfits
      have hbox : (inputName row.condition.conditionType).isSome = true := hfits.symm
      rw [if_pos hbox]
      simp [eq_comm]

/-! ## The conditions that came with the listing -/

/-- Which of the conditions in the form came with the listing, after one more action. -/
def keptMarks (marks : List Bool) : FormAction → List Bool
  | .addCondition => if 5 ≤ marks.length then marks else marks ++ [false]
  | .removeCondition index => if 1 < marks.length then marks.eraseIdx index else marks
  | .chooseType _ _ | .typeText _ _ | .chooseAction _ | .chooseOperator _ => marks

/-- All conditions of the rule are removed in the form. -/
def RemovesAll (rule : RuleWithConditions) (actions : List FormAction) : Prop :=
  ∀ mark ∈ run keptMarks (rule.conditions.map fun _ => true) actions, mark = false

instance (rule : RuleWithConditions) (actions : List FormAction) :
    Decidable (RemovesAll rule actions) :=
  inferInstanceAs (Decidable (∀ mark ∈ run keptMarks _ _, _))

namespace RuleForm

variable {text : Json → String}

@[simp] theorem conditions_setConditions (form : RuleForm) (conditions : List RuleCondition) :
    (form.setConditions text conditions).conditions = conditions :=
  FormRow.renderAll_conditions text form.rows conditions

theorem conditions_opened {emailAccountId : String} {rule : RuleWithConditions} {form : RuleForm}
    (hopened : opened text emailAccountId rule = some form) :
    form.conditions = rule.conditions.map RuleCondition.answered := by
  unfold opened at hopened
  split at hopened
  · rw [← Option.some.inj hopened]
    exact FormRow.renderAll_conditions text [] _
  · contradiction

theorem marks_updateCondition (form : RuleForm) (index : Nat) (patch : ConditionPatch) :
    (form.updateCondition text index patch).conditions.map RuleCondition.listed =
      form.conditions.map RuleCondition.listed := by
  unfold updateCondition
  rw [conditions_setConditions]
  apply List.ext_getElem?
  intro i
  rw [List.getElem?_map, List.getElem?_map, List.getElem?_modify]
  cases form.conditions[i]? with
  | none => rfl
  | some condition =>
      by_cases hi : index = i
      · simp [hi, RuleCondition.listed, RuleCondition.patched]
      · simp [hi]

theorem conditions_write (form : RuleForm) (index : Nat) (written : String) :
    RuleForm.conditions { form with rows := form.rows.modify index fun row => row.write written } =
      form.conditions := by
  unfold conditions
  apply List.ext_getElem?
  intro i
  rw [List.getElem?_map, List.getElem?_map, List.getElem?_modify]
  cases form.rows[i]? with
  | none => rfl
  | some row =>
      by_cases hi : index = i
      · simp [hi, FormRow.write]
      · simp [hi]

theorem marks_act (form : RuleForm) (action : FormAction) :
    (form.act text action).conditions.map RuleCondition.listed =
      keptMarks (form.conditions.map RuleCondition.listed) action := by
  cases action with
  | addCondition =>
      rw [act, addCondition, keptMarks, List.length_map]
      split
      · rfl
      · simp [RuleCondition.new, RuleCondition.listed]
  | removeCondition index =>
      unfold act removeCondition keptMarks
      dsimp only
      rw [List.length_map]
      split
      · simp [List.eraseIdx_map]
      · rfl
  | chooseType index conditionType =>
      unfold act keptMarks
      dsimp only
      split
      · rfl
      · exact marks_updateCondition _ _ _
  | typeText index written =>
      unfold act keptMarks
      dsimp only
      split
      · rw [marks_updateCondition, conditions_write]
      · rw [conditions_write]
  | chooseAction actionType => rfl
  | chooseOperator logicalOperator =>
      unfold act keptMarks
      dsimp only
      split <;> rfl

/-- The marks tell which conditions of the form came with the listing. -/
theorem marks_run (form : RuleForm) (actions : List FormAction) :
    (run (act text) form actions).conditions.map RuleCondition.listed =
      run keptMarks (form.conditions.map RuleCondition.listed) actions := by
  induction actions generalizing form with
  | nil => rfl
  | cons action rest ih => rw [run_cons, run_cons, ih, marks_act]

theorem removesAll_iff {emailAccountId : String} {rule : RuleWithConditions} {form : RuleForm}
    (hopened : opened text emailAccountId rule = some form) (actions : List FormAction) :
    RemovesAll rule actions ↔
      ∀ condition ∈ (run (act text) form actions).conditions, condition.listed = false := by
  have hmarks : form.conditions.map RuleCondition.listed = rule.conditions.map fun _ => true := by
    rw [conditions_opened hopened, List.map_map]
    rfl
  unfold RemovesAll
  rw [← hmarks, ← @marks_run text]
  simp

end RuleForm

end MyAccountController
