import MyAccountController.Mail.ScanFailures
import Mathlib.Logic.Relation

/-! # Attachments in a tree of parts

The payload of a message is a tree of parts, and an attachment may be a part at
any depth. The provider looks for file names among the children of the root. It
sees every attachment exactly when a message with one has one there.
-/

namespace MyAccountController

open RuleMatcher

namespace GmailPart

/-- `!!part.filename`. -/
def isFile (part : GmailPart) : Bool := part.filename.any (· ≠ "")

def IsChild (parent part : GmailPart) : Prop := part ∈ parent.parts.getD []

end GmailPart

namespace GmailMessage

/-- Some part of the tree has a file name, the root included. -/
def HasFile (message : GmailMessage) : Prop :=
  ∃ root ∈ message.payload, ∃ part,
    Relation.ReflTransGen GmailPart.IsChild root part ∧ part.isFile = true

/-- Some child of the root has a file name. -/
def HasFileOnTop (message : GmailMessage) : Prop :=
  ∃ root ∈ message.payload, ∃ part, root.IsChild part ∧ part.isFile = true

theorem HasFileOnTop.hasFile {message : GmailMessage} (htop : message.HasFileOnTop) :
    message.HasFile := by
  obtain ⟨root, hroot, part, hchild, hfile⟩ := htop
  exact ⟨root, hroot, part, .single hchild, hfile⟩

end GmailMessage

namespace GmailProvider

variable {R : Runtime} {env : GmailEnvironment R} {message : GmailMessage}

/-- The flag tells whether the message has an attachment, and the conditions on it that can
be read hold of the right messages. -/
structure SeesAttachments (env : GmailEnvironment R) (message : GmailMessage) : Prop where
  flag : (toRawMailMessage env message).hasAttachment = true ↔ message.HasFile
  absent : ∀ condition : EmailRuleCondition, condition.conditionType = "has_attachment" →
    property condition.conditionValue "equals" = .ok (some (.bool false)) →
      evaluateCondition env.unicode (toRawMailMessage env message) condition = .ok true →
        ¬ message.HasFile
  present : ∀ (condition : EmailRuleCondition) (equals : Option Json),
    condition.conditionType = "has_attachment" →
    property condition.conditionValue "equals" = .ok equals → equals ≠ some (.bool false) →
      message.HasFile →
        evaluateCondition env.unicode (toRawMailMessage env message) condition = .ok true

theorem hasAttachment_iff :
    (toRawMailMessage env message).hasAttachment = true ↔ message.HasFileOnTop := by
  unfold toRawMailMessage GmailMessage.HasFileOnTop
  cases message.payload with
  | none => simp
  | some root => simp [GmailPart.IsChild, GmailPart.isFile, List.any_eq_true]

theorem expected_of_false {value : Json}
    (hread : property value "equals" = .ok (some (.bool false))) : expected value = .ok false := by
  unfold expected
  rw [hread]
  rfl

theorem expected_of_ne {value : Json} {equals : Option Json}
    (hread : property value "equals" = .ok equals) (hne : equals ≠ some (.bool false)) :
    expected value = .ok true := by
  unfold expected
  rw [hread]
  refine congrArg Except.ok ?_
  dsimp only
  split
  · contradiction
  · rfl

theorem evaluateCondition_hasAttachment (unicode : UnicodeData) (raw : RawMailMessage)
    {condition : EmailRuleCondition} (htype : condition.conditionType = "has_attachment")
    {wanted : Bool} (hwanted : expected condition.conditionValue = .ok wanted) :
    evaluateCondition unicode raw condition = .ok (raw.hasAttachment == wanted) := by
  unfold evaluateCondition
  rw [htype]
  show (expected condition.conditionValue).map _ = _
  rw [hwanted]
  rfl

/-- The provider sees the attachments of a message exactly when it has none or one
of them is a child of the root. -/
theorem seesAttachments_iff :
    SeesAttachments env message ↔ (message.HasFile → message.HasFileOnTop) := by
  constructor
  · intro hsees hfile
    exact hasAttachment_iff.mp (hsees.flag.mpr hfile)
  · intro hontop
    have hflag : (toRawMailMessage env message).hasAttachment = true ↔ message.HasFile :=
      hasAttachment_iff.trans ⟨GmailMessage.HasFileOnTop.hasFile, hontop⟩
    refine ⟨hflag, fun condition htype hread hholds hfile => ?_,
      fun condition equals htype hread hne hfile => ?_⟩
    · rw [evaluateCondition_hasAttachment _ _ htype (expected_of_false hread), hflag.mpr hfile]
        at hholds
      exact Bool.false_ne_true (Except.ok.inj hholds)
    · rw [evaluateCondition_hasAttachment _ _ htype (expected_of_ne hread hne), hflag.mpr hfile]
      rfl

end GmailProvider

open CandidatesService.OneMessage in
/-- A document inside a nested multipart is not seen. -/
theorem GmailProvider.not_seesAttachments :
    ¬ SeesAttachments (environment [])
      ⟨"m", some (.mk none none (some [.mk none none (some [.mk (some "contract.pdf") none none])])),
        none, some "1000"⟩ := by
  intro hsees
  have hfile := hsees.flag.mpr ⟨_, rfl, .mk (some "contract.pdf") none none,
    .tail (.single (List.mem_singleton_self _)) (List.mem_singleton_self _), rfl⟩
  contradiction

end MyAccountController
