import MyAccountController.Common.Exception
import MyAccountController.Common.Text
import MyAccountController.Foundation.Traversal
import MyAccountController.Prisma.Schema

/-! # Rules and messages

A rule holds of a message when one of its conditions does (`OR`) or all do
(`AND`), and a rule without conditions holds of none. A condition value is any
JSON; a property it lacks falls back to a default, but `null` has none to read
and throws.
-/

namespace MyAccountController

open Foundation

/-- A message as a provider returns it. An invalid date is `none`. -/
structure RawMailMessage where
  externalMessageId : String
  sender : String
  subject : String
  bodyPreview : String
  receivedAt : Option Int
  hasAttachment : Bool
  deriving DecidableEq, Repr

/-- `EmailRule & { conditions }`. -/
structure RuleWithConditions where
  rule : EmailRule
  conditions : List EmailRuleCondition

namespace RuleMatcher

/-- `value[name]`: `null` throws, and what is not an object has no own properties. -/
def property (value : Json) (name : String) : Except Exception (Option Json) :=
  match value with
  | .null => .error (.error ("Cannot read properties of null (reading '" ++ name ++ "')"))
  | .obj properties => .ok (JsObject.get properties name)
  | .bool _ | .num _ _ | .str _ | .arr _ => .ok none

/-- `typeof value[name] === 'string' ? value[name] : undefined`. -/
def stringProperty (value : Json) (name : String) : Except Exception (Option String) :=
  (property value name).map fun
    | some (.str text) => some text
    | _ => none

/-- `value.equals !== false`. -/
def expected (value : Json) : Except Exception Bool :=
  (property value "equals").map fun
    | some (.bool false) => false
    | _ => true

variable (unicode : UnicodeData)

/-- `!!needle && text.toLowerCase().includes(needle.toLowerCase())`. -/
def mentions (text : String) (needle : Option String) : Bool :=
  match needle with
  | none => false
  | some needle =>
      needle ≠ "" && includes (unicode.toLowerCase text) (unicode.toLowerCase needle)

def evaluateCondition (message : RawMailMessage) (condition : EmailRuleCondition) :
    Except Exception Bool :=
  let value := condition.conditionValue
  match condition.conditionType with
  | "sender" => do
      let domain ← stringProperty value "domain"
      let contains ← stringProperty value "contains"
      pure (mentions unicode message.sender (domain.or contains))
  | "subject_keyword" =>
      (stringProperty value "contains").map (mentions unicode message.subject)
  | "body_keyword" =>
      (stringProperty value "contains").map (mentions unicode message.bodyPreview)
  | "has_emoji" => (expected value).map fun expected =>
      (unicode.hasEmoji message.subject || unicode.hasEmoji message.bodyPreview) == expected
  | "has_attachment" => (expected value).map fun expected => message.hasAttachment == expected
  | _ => pure false

def messageMatchesRule (message : RawMailMessage) (rule : RuleWithConditions) :
    Except Exception Bool :=
  if rule.conditions.length = 0 then pure false
  else do
    let results ← rule.conditions.mapM (evaluateCondition unicode message)
    pure (if rule.rule.logicalOperator = .OR then results.any id else results.all id)

/-- The types of condition that read a value. -/
def knownTypes : List String :=
  ["sender", "subject_keyword", "body_keyword", "has_emoji", "has_attachment"]

end RuleMatcher

/-- The value of the condition can be read, if its type reads one. -/
def EmailRuleCondition.Readable (condition : EmailRuleCondition) : Prop :=
  condition.conditionType ∈ RuleMatcher.knownTypes → condition.conditionValue ≠ .null

instance (condition : EmailRuleCondition) : Decidable condition.Readable :=
  inferInstanceAs (Decidable (_ → _))

/-- The conditions of the rule can be read. -/
def RuleWithConditions.Readable (rule : RuleWithConditions) : Prop :=
  ∀ condition ∈ rule.conditions, condition.Readable

instance (rule : RuleWithConditions) : Decidable rule.Readable :=
  inferInstanceAs (Decidable (∀ condition ∈ rule.conditions, condition.Readable))

namespace RuleMatcher

section Properties

variable {value : Json} {name : String}

theorem property_of_ne_null (hvalue : value ≠ .null) :
    ∃ found, property value name = .ok found := by
  cases value with
  | null => contradiction
  | obj properties => exact ⟨JsObject.get properties name, rfl⟩
  | bool _ | num _ _ | str _ | arr _ => exact ⟨none, rfl⟩

theorem ne_null_of_stringProperty {text : Option String}
    (hread : stringProperty value name = .ok text) : value ≠ .null := by
  rintro rfl
  contradiction

theorem stringProperty_of_ne_null (hvalue : value ≠ .null) :
    ∃ text, stringProperty value name = .ok text := by
  obtain ⟨found, hread⟩ := @property_of_ne_null value name hvalue
  unfold stringProperty
  rw [hread]
  exact ⟨_, rfl⟩

theorem expected_of_ne_null (hvalue : value ≠ .null) :
    ∃ expected, RuleMatcher.expected value = .ok expected := by
  obtain ⟨found, hread⟩ := @property_of_ne_null value "equals" hvalue
  unfold RuleMatcher.expected
  rw [hread]
  exact ⟨_, rfl⟩

end Properties

variable {unicode : UnicodeData}

/-- Whether a condition can be judged does not depend on the message. -/
theorem evaluateCondition_returns_iff {message : RawMailMessage} {condition : EmailRuleCondition} :
    (∃ holds, evaluateCondition unicode message condition = .ok holds) ↔ condition.Readable := by
  obtain ⟨id, ruleId, conditionType, conditionValue⟩ := condition
  constructor
  · rintro ⟨holds, hholds⟩ htype rfl
    simp only [knownTypes, List.mem_cons, List.not_mem_nil, or_false] at htype
    rcases htype with rfl | rfl | rfl | rfl | rfl <;> contradiction
  · intro hreadable
    by_cases htype : conditionType ∈ knownTypes
    · have hvalue : conditionValue ≠ .null := hreadable htype
      obtain ⟨domain, hdomain⟩ := @stringProperty_of_ne_null conditionValue "domain" hvalue
      obtain ⟨contains, hcontains⟩ := @stringProperty_of_ne_null conditionValue "contains" hvalue
      obtain ⟨expected, hexpected⟩ := expected_of_ne_null hvalue
      simp only [knownTypes, List.mem_cons, List.not_mem_nil, or_false] at htype
      rcases htype with rfl | rfl | rfl | rfl | rfl <;>
        simp only [evaluateCondition, hdomain, hcontains, hexpected] <;> exact ⟨_, rfl⟩
    · simp only [knownTypes, List.mem_cons, List.not_mem_nil, or_false, not_or] at htype
      obtain ⟨hsender, hsubject, hbody, hemoji, hattachment⟩ := htype
      refine ⟨false, ?_⟩
      simp only [evaluateCondition]
      rfl

/-- A rule is judged when its conditions can be read, whatever the message. -/
theorem messageMatchesRule_returns_iff {message : RawMailMessage} {rule : RuleWithConditions} :
    (∃ accepted, messageMatchesRule unicode message rule = .ok accepted) ↔ rule.Readable := by
  have hresults : (∃ results, rule.conditions.mapM (evaluateCondition unicode message) =
      .ok results) ↔ rule.Readable := by
    rw [mapM_returns_iff]
    simp only [evaluateCondition_returns_iff]
    exact Iff.rfl
  unfold messageMatchesRule
  by_cases hnone : rule.conditions.length = 0
  · rw [if_pos hnone]
    have hreadable : rule.Readable := by
      unfold RuleWithConditions.Readable
      simp [List.length_eq_zero_iff.mp hnone]
    exact iff_of_true ⟨false, rfl⟩ hreadable
  · rw [if_neg hnone, ← hresults]
    cases rule.conditions.mapM (evaluateCondition unicode message) with
    | error e =>
        constructor
        · rintro ⟨_, herror⟩
          contradiction
        · rintro ⟨_, herror⟩
          contradiction
    | ok results => exact iff_of_true ⟨_, rfl⟩ ⟨results, rfl⟩

/-- The order of the conditions plays no role in the judgement. -/
theorem messageMatchesRule_perm {message : RawMailMessage} {rule : EmailRule}
    {conditions conditions' : List EmailRuleCondition} (hperm : conditions.Perm conditions')
    {accepted : Bool} (haccepted : messageMatchesRule unicode message ⟨rule, conditions⟩ =
      .ok accepted) :
    messageMatchesRule unicode message ⟨rule, conditions'⟩ = .ok accepted := by
  unfold messageMatchesRule at haccepted ⊢
  dsimp only at haccepted ⊢
  rw [← hperm.length_eq]
  by_cases hnone : conditions.length = 0
  · rwa [if_pos hnone] at haccepted ⊢
  · rw [if_neg hnone] at haccepted ⊢
    cases hresults : conditions.mapM (evaluateCondition unicode message) with
    | error e =>
        rw [hresults] at haccepted
        contradiction
    | ok results =>
        obtain ⟨results', hresults', hsame⟩ := mapM_perm hperm hresults
        rw [hresults] at haccepted
        rw [hresults', ← haccepted]
        have hany := @List.Perm.any_eq Bool _ _ id hsame
        have hall := @List.Perm.all_eq Bool _ _ id hsame
        show Except.ok _ = Except.ok _
        rw [hany, hall]

end RuleMatcher

end MyAccountController
