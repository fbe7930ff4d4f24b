import MyAccountController.Common.LowerCase
import MyAccountController.Mail.RuleMatcher

/-! # The domain of a sender

A sender condition searches the whole `From` header for the domain. The characters
that separate the parts of a header are in no domain name, so the condition holds
if and only if one of the parts mentions the domain: the host, in whatever place,
but also the local part and the display name.
-/

namespace MyAccountController

namespace RuleMatcher

/-! ## Headers and domains -/

/-- `local@host`, or `display-name <local@host>`. -/
inductive FromHeader where
  | address (localPart host : String)
  | named (displayName localPart host : String)

namespace FromHeader

def text : FromHeader → String
  | .address localPart host => localPart ++ "@" ++ host
  | .named displayName localPart host => displayName ++ " <" ++ localPart ++ "@" ++ host ++ ">"

def host : FromHeader → String
  | .address _ host => host
  | .named _ _ host => host

/-- The parts of the header other than the host. -/
def otherParts : FromHeader → List String
  | .address localPart _ => [localPart]
  | .named displayName localPart _ => [displayName, localPart]

end FromHeader

/-- Letters, digits, hyphens and dots. -/
def isDomainCharacter (c : Char) : Bool := c.isAlphanum || c = '-' || c = '.'

structure DomainName where
  text : String
  nonempty : text ≠ ""
  characters : text.toList.all isDomainCharacter = true

/-- A condition `{ domain }` on the sender. -/
structure HasDomain (domain : DomainName) (condition : EmailRuleCondition) : Prop where
  type : condition.conditionType = "sender"
  domain : stringProperty condition.conditionValue "domain" = .ok (some domain.text)

section Specification

variable (unicode : UnicodeData)

/-- In whatever case, the host is the domain, or ends with a dot and the domain. -/
def BelongsTo (host : String) (domain : DomainName) : Prop :=
  unicode.toLowerCase host = unicode.toLowerCase domain.text ∨
    '.' :: (unicode.toLowerCase domain.text).toList <:+ (unicode.toLowerCase host).toList

instance (host : String) (domain : DomainName) : Decidable (BelongsTo unicode host domain) :=
  inferInstanceAs (Decidable (_ ∨ _))

/-- The condition holds of the messages from the hosts of the domain only. -/
def MatchesHosts (header : FromHeader) (domain : DomainName) : Prop :=
  ∀ condition message, HasDomain domain condition → message.sender = header.text →
    (evaluateCondition unicode message condition = .ok true ↔
      BelongsTo unicode header.host domain)

/-- The part has the domain in it, in whatever case. -/
def Mentions (part : String) (domain : DomainName) : Prop :=
  includes (unicode.toLowerCase part) (unicode.toLowerCase domain.text) = true

end Specification

/-! ## The characters of a domain -/

variable {unicode : UnicodeData}

theorem isDomainCharacter_iff {c : Char} :
    isDomainCharacter c = true ↔ c.isAlphanum = true ∨ c = '-' ∨ c = '.' := by
  simp [isDomainCharacter, or_assoc]

theorem toNat_lt_of_isDomainCharacter {c : Char} (hc : isDomainCharacter c = true) :
    c.toNat < 128 := by
  rcases isDomainCharacter_iff.mp hc with halphanum | rfl | rfl
  · simp only [Char.isAlphanum, isAlpha_eq, Bool.or_eq_true, isUpper_iff, isLower_iff,
      Char.isDigit_iff_toNat] at halphanum
    have hnine : '9'.toNat = 57 := rfl
    omega
  · decide
  · decide

namespace DomainName

/-- The domain in lower case. -/
def needle (domain : DomainName) : List Char := domain.text.toList.map Char.toLower

theorem toLowerCase_eq (hlaws : unicode.AsciiLaws) (domain : DomainName) :
    (unicode.toLowerCase domain.text).toList = domain.needle := by
  rw [UnicodeData.toList_toLowerCase]
  have hcharacters := List.all_eq_true.mp domain.characters
  exact hlaws.lowerWithin (fun c hc => toNat_lt_of_isDomainCharacter (hcharacters c hc)) [] []

theorem needle_ne_nil (domain : DomainName) : domain.needle ≠ [] := by
  intro hnil
  exact domain.nonempty (String.toList_injective (List.map_eq_nil_iff.mp hnil))

/-- A character that no domain name has is not in the domain in lower case either. -/
theorem not_mem_needle (domain : DomainName) {c : Char} (hc : isDomainCharacter c = false) :
    c ∉ domain.needle := by
  intro hmem
  obtain ⟨other, hother, hlower⟩ := List.mem_map.mp hmem
  have halpha : c.isAlpha = false := by
    simp only [isDomainCharacter, Char.isAlphanum, Bool.or_eq_false_iff] at hc
    exact hc.1.1.1
  obtain rfl := (toLower_eq_iff_of_not_isAlpha halpha).mp hlower
  exact Bool.eq_false_iff.mp hc (List.all_eq_true.mp domain.characters _ hother)

end DomainName

/-! ## The parts of a header -/

/-- The domain is in the characters, lowered on their own. -/
def InStretch (unicode : UnicodeData) (domain : DomainName) (stretch : List Char) : Prop :=
  domain.needle <:+: unicode.lowerWithin [] stretch []

theorem mentions_iff_inStretch (hlaws : unicode.AsciiLaws) {part : String} {domain : DomainName} :
    Mentions unicode part domain ↔ InStretch unicode domain part.toList := by
  unfold Mentions InStretch includes
  rw [decide_eq_true_iff, domain.toLowerCase_eq hlaws, UnicodeData.toList_toLowerCase]

theorem not_inStretch_nil (domain : DomainName) : ¬ InStretch unicode domain [] := fun hoccurs =>
  domain.needle_ne_nil (List.infix_nil.mp hoccurs)

/-- What has a separator in it is found before the separator or after it. -/
theorem infix_append_cons_iff {α : Type} {part before after : List α} {separator : α}
    (hseparator : separator ∉ part) :
    part <:+: before ++ separator :: after ↔ part <:+: before ∨ part <:+: after := by
  rw [List.infix_append_iff]
  constructor
  · rintro (hbefore | hafter | ⟨first, second, rfl, hfirst, hsecond⟩)
    · exact .inl hbefore
    · rcases List.infix_cons_iff.mp hafter with hstart | hafter
      · rcases List.prefix_cons_iff.mp hstart with rfl | ⟨_, rfl, -⟩
        · exact .inl (List.nil_infix)
        · exact absurd List.mem_cons_self hseparator
      · exact .inr hafter
    · -- What goes across the separator has it inside.
      rcases List.prefix_cons_iff.mp hsecond with rfl | ⟨_, rfl, -⟩
      · rw [List.append_nil]
        exact .inl hfirst.isInfix
      · exact absurd (List.mem_append_right _ List.mem_cons_self) hseparator
  · rintro (hbefore | hafter)
    · exact .inl hbefore
    · exact .inr (.inl (List.infix_cons hafter))

/-- A separator that no domain name has divides the search. -/
theorem inStretch_append_cons_iff (hlaws : unicode.AsciiLaws) {domain : DomainName}
    {before after : List Char} {separator : Char} (hascii : separator.toNat < 128)
    (houtside : isDomainCharacter separator = false) :
    InStretch unicode domain (before ++ separator :: after) ↔
      InStretch unicode domain before ∨ InStretch unicode domain after := by
  have hsigma : 'σ' ∉ domain.needle := domain.not_mem_needle (by decide)
  have hfinal : 'ς' ∉ domain.needle := domain.not_mem_needle (by decide)
  have hseparator := domain.not_mem_needle houtside
  have hupper : separator.isUpper = false := by
    simp only [isDomainCharacter, Char.isAlphanum, isAlpha_eq, Bool.or_eq_false_iff] at houtside
    exact houtside.1.1.1.1
  -- What is around a stretch only changes the form of its sigmas, and the domain has none.
  unfold InStretch
  rw [UnicodeData.lowerWithin_append, UnicodeData.lowerWithin, hlaws.lowerChar hascii,
    toLower_of_not_isUpper hupper, List.singleton_append, infix_append_cons_iff hseparator,
    UnicodeData.infix_lowerWithin_iff hsigma hfinal [] [] before _ [],
    UnicodeData.infix_lowerWithin_iff hsigma hfinal _ [] after _ []]

/-- A header mentions the domain if and only if one of its parts does. -/
theorem mentions_header_iff (hlaws : unicode.AsciiLaws) {header : FromHeader}
    {domain : DomainName} : Mentions unicode header.text domain ↔
      Mentions unicode header.host domain ∨
        ∃ part ∈ header.otherParts, Mentions unicode part domain := by
  have hat : ∀ before after : List Char, InStretch unicode domain (before ++ '@' :: after) ↔
      InStretch unicode domain before ∨ InStretch unicode domain after := fun _ _ =>
    inStretch_append_cons_iff hlaws (by decide) (by decide)
  cases header with
  | address localPart host =>
      have htext : (FromHeader.address localPart host).text.toList =
          localPart.toList ++ '@' :: host.toList := by
        simp [FromHeader.text]
      simp only [mentions_iff_inStretch hlaws, htext, hat, FromHeader.host, FromHeader.otherParts,
        List.mem_singleton, exists_eq_left]
      exact or_comm
  | named displayName localPart host =>
      have htext : (FromHeader.named displayName localPart host).text.toList =
          displayName.toList ++ ' ' :: ([] ++ '<' :: (localPart.toList ++ '@' ::
            (host.toList ++ '>' :: []))) := by
        simp [FromHeader.text]
      rw [mentions_iff_inStretch hlaws, htext,
        inStretch_append_cons_iff hlaws (by decide) (by decide),
        inStretch_append_cons_iff hlaws (by decide) (by decide), hat,
        inStretch_append_cons_iff hlaws (by decide) (by decide)]
      simp only [mentions_iff_inStretch hlaws, FromHeader.host, FromHeader.otherParts,
        not_inStretch_nil, false_or, or_false, List.mem_cons, List.not_mem_nil, exists_eq_or_imp,
        exists_eq_left]
      rw [← or_assoc]
      exact or_comm

/-! ## When the condition is exact -/

theorem evaluateCondition_hasDomain {domain : DomainName} {condition : EmailRuleCondition}
    (hdomain : HasDomain domain condition) (message : RawMailMessage) :
    evaluateCondition unicode message condition = .ok true ↔
      Mentions unicode message.sender domain := by
  -- A value with a domain can be read, so the search for `contains` does not throw.
  obtain ⟨contains, hcontains⟩ :=
    @stringProperty_of_ne_null _ "contains" (ne_null_of_stringProperty hdomain.domain)
  have hevaluate : evaluateCondition unicode message condition =
      .ok (mentions unicode message.sender (some domain.text)) := by
    unfold evaluateCondition
    rw [hdomain.type]
    simp only [hdomain.domain, hcontains]
    rfl
  rw [hevaluate, Except.ok.injEq]
  simp only [mentions, Mentions, decide_eq_true domain.nonempty, Bool.true_and]

/-- The hosts of a domain mention it. -/
theorem BelongsTo.mentions {host : String} {domain : DomainName}
    (hbelongs : BelongsTo unicode host domain) : Mentions unicode host domain := by
  refine decide_eq_true ?_
  rcases hbelongs with hsame | hunder
  · have hinside : ∀ lowered, lowered = unicode.toLowerCase domain.text →
        (unicode.toLowerCase domain.text).toList <:+: lowered.toList := by
      rintro _ rfl
      exact List.infix_refl _
    exact hinside _ hsame
  · exact (List.infix_cons (List.infix_refl _)).trans hunder.isInfix

/-- The condition `{ domain }` as it is stored. -/
def senderDomain (domain : DomainName) : EmailRuleCondition where
  id := ""
  ruleId := ""
  conditionType := "sender"
  conditionValue := .obj [("domain", .str domain.text)]

theorem hasDomain_senderDomain (domain : DomainName) : HasDomain domain (senderDomain domain) :=
  ⟨rfl, rfl⟩

/-- A sender condition holds of the hosts of its domain only if and only if the host is one or no
part of the header mentions the domain. -/
theorem matchesHosts_iff (hlaws : unicode.AsciiLaws) (header : FromHeader) (domain : DomainName) :
    MatchesHosts unicode header domain ↔ BelongsTo unicode header.host domain ∨
      ¬ Mentions unicode header.host domain ∧
        ∀ part ∈ header.otherParts, ¬ Mentions unicode part domain := by
  constructor
  · intro hmatches
    have hexact := hmatches (senderDomain domain) ⟨"", header.text, "", "", none, false⟩
      (hasDomain_senderDomain domain) rfl
    rw [evaluateCondition_hasDomain (hasDomain_senderDomain domain)] at hexact
    by_cases hbelongs : BelongsTo unicode header.host domain
    · exact .inl hbelongs
    · have hnone := mt hexact.mp hbelongs
      rw [mentions_header_iff hlaws, not_or, not_exists] at hnone
      exact .inr ⟨hnone.1, fun part hpart hmentions => hnone.2 part ⟨hpart, hmentions⟩⟩
  · intro hcondition condition message hdomain hsender
    rw [evaluateCondition_hasDomain hdomain, hsender, mentions_header_iff hlaws]
    constructor
    · rintro (hhost | ⟨part, hpart, hmentions⟩)
      · exact hcondition.resolve_right fun hnone => hnone.1 hhost
      · exact hcondition.resolve_right fun hnone => hnone.2 part hpart hmentions
    · exact fun hbelongs => .inl hbelongs.mentions

/-! ## Two senders -/

namespace ForgedSenders

def coupang : DomainName := ⟨"coupang.com", by decide, by decide⟩

/-- A mail from the header. -/
def mail (header : FromHeader) : RawMailMessage := ⟨"m", header.text, "", "", some 0, false⟩

/-- The host only ends like the domain. -/
def lookAlike : FromHeader := .address "promo" "notcoupang.com"

/-- The display name is chosen by the sender. -/
def forgedName : FromHeader := .named "Coupang.com" "win" "evil.example"

theorem matches_strangers :
    evaluateCondition asciiData (mail lookAlike) (senderDomain coupang) = .ok true ∧
      ¬ BelongsTo asciiData lookAlike.host coupang ∧
      evaluateCondition asciiData (mail forgedName) (senderDomain coupang) = .ok true ∧
      ¬ BelongsTo asciiData forgedName.host coupang := by
  decide +kernel

end ForgedSenders

open ForgedSenders in
/-- The condition holds of a look-alike host and of a display name. -/
theorem not_matchesHosts_forged : ¬ MatchesHosts asciiData lookAlike coupang ∧
    ¬ MatchesHosts asciiData forgedName coupang := by
  obtain ⟨hlookAlike, hstranger, hforged, hstranger'⟩ := matches_strangers
  have hcoupang := hasDomain_senderDomain coupang
  exact ⟨fun hmatches => hstranger ((hmatches _ (mail lookAlike) hcoupang rfl).mp hlookAlike),
    fun hmatches => hstranger' ((hmatches _ (mail forgedName) hcoupang rfl).mp hforged)⟩

open ForgedSenders in
theorem matchesHosts_iff_example :
    MatchesHosts asciiData (.named "Coupang" "no-reply" "mail.Coupang.com") coupang :=
  (matchesHosts_iff UnicodeData.asciiData_asciiLaws _ coupang).mpr (.inl (by decide +kernel))

end RuleMatcher

end MyAccountController
