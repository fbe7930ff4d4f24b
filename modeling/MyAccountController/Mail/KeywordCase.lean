import MyAccountController.Common.LowerCase
import MyAccountController.Mail.RuleMatcher

/-! # Keywords in any case

A keyword and a text are lowered apart before the search. That finds every literal
occurrence if and only if each capital sigma of the keyword has the same form
wherever the keyword occurs; the case of ASCII letters never matters.
-/

namespace MyAccountController

namespace RuleMatcher

/-! ## Keyword conditions -/

/-- The part of a message that a keyword condition reads. -/
inductive KeywordField where
  | subject
  | bodyPreview

def KeywordField.conditionType : KeywordField → String
  | .subject => "subject_keyword"
  | .bodyPreview => "body_keyword"

def KeywordField.text : KeywordField → RawMailMessage → String
  | .subject, message => message.subject
  | .bodyPreview, message => message.bodyPreview

/-- A condition `{ contains: keyword }` on the field. -/
structure HasKeyword (field : KeywordField) (keyword : String) (condition : EmailRuleCondition) :
    Prop where
  type : condition.conditionType = field.conditionType
  contains : stringProperty condition.conditionValue "contains" = .ok (some keyword)

/-- The texts differ at most in the case of ASCII letters. -/
def SameButCase (text text' : String) : Prop :=
  text.toList.map Char.toLower = text'.toList.map Char.toLower

/-- The keyword is found wherever it occurs, and the case of ASCII letters does not matter. -/
structure FindsKeyword (unicode : UnicodeData) (keyword : String) : Prop where
  found : ∀ field condition message, HasKeyword field keyword condition →
    includes (field.text message) keyword = true →
      evaluateCondition unicode message condition = .ok true
  caseless : ∀ field keyword' condition condition' message message',
    HasKeyword field keyword condition → HasKeyword field keyword' condition' →
      SameButCase keyword keyword' → SameButCase (field.text message) (field.text message') →
        evaluateCondition unicode message' condition' = evaluateCondition unicode message condition

variable {unicode : UnicodeData} {field : KeywordField} {keyword : String}
  {condition : EmailRuleCondition}

theorem evaluateCondition_hasKeyword (hkeyword : HasKeyword field keyword condition)
    (message : RawMailMessage) : evaluateCondition unicode message condition =
      .ok (mentions unicode (field.text message) (some keyword)) := by
  unfold evaluateCondition
  rw [hkeyword.type]
  cases field <;> exact congrArg (Except.map (mentions unicode _)) hkeyword.contains

theorem mentions_iff {text needle : String} (hneedle : needle ≠ "") :
    mentions unicode text (some needle) = true ↔
      unicode.lowerWithin [] needle.toList [] <:+: unicode.lowerWithin [] text.toList [] := by
  simp only [mentions, includes, Bool.and_eq_true, decide_eq_true_eq,
    UnicodeData.toList_toLowerCase]
  exact and_iff_right hneedle

/-! ## Literal occurrences -/

/-- A keyword whose sigmas are settled is found where it occurs. -/
theorem mentions_of_settled {text : String} (hne : keyword ≠ "")
    (hsettled : unicode.settledFrom [] keyword.toList = true)
    (hoccurs : includes text keyword = true) :
    mentions unicode text (some keyword) = true := by
  obtain ⟨before, after, htext⟩ := of_decide_eq_true hoccurs
  have hplace := UnicodeData.lowerWithin_of_settled hsettled before.reverse after
  rw [mentions_iff hne, ← htext, UnicodeData.lowerWithin_append, UnicodeData.lowerWithin_append,
    List.append_nil, List.append_nil, ← hplace]
  exact ⟨_, _, rfl⟩

/-- A list that is as long as the rest of another and occurs in it is the rest, or starts with
its head. -/
theorem head?_of_occurs {α : Type} {part rest : List α} {a : α} (hoccurs : part <:+: a :: rest)
    (hlength : part.length = rest.length) (hne : part ≠ rest) : part.head? = some a := by
  rcases List.infix_cons_iff.mp hoccurs with hstart | hoccurs
  · rcases List.prefix_cons_iff.mp hstart with rfl | ⟨_, rfl, -⟩
    · exact absurd (List.length_eq_zero_iff.mp hlength.symm).symm hne
    · rfl
  · exact absurd (hoccurs.eq_of_length hlength) hne

theorem getLast?_of_occurs {α : Type} {part rest : List α} {a : α} (hoccurs : part <:+: rest ++ [a])
    (hlength : part.length = rest.length) (hne : part ≠ rest) : part.getLast? = some a := by
  have hreversed : part.reverse <:+: a :: rest.reverse := by
    have hrest := List.reverse_infix.mpr hoccurs
    rwa [List.reverse_append, List.reverse_singleton, List.singleton_append] at hrest
  rw [← List.head?_reverse]
  exact head?_of_occurs hreversed (by rw [List.length_reverse, List.length_reverse, hlength])
    fun heq => hne (List.reverse_injective heq)

/-- Some small letter is not the given one. -/
theorem exists_letter (avoided : Option Char) : ∃ letter : Char, letter.isAlpha = true ∧
    letter.toNat < 128 ∧ letter.toLower = letter ∧ avoided ≠ some letter := by
  by_cases ha : avoided = some 'a'
  · exact ⟨'b', by decide, by decide, by decide, by simp [ha]⟩
  · exact ⟨'a', by decide, by decide, by decide, ha⟩

/-- A keyword with a sigma that is not settled is missed in some text. -/
theorem not_mentions_of_unsettled (hlaws : unicode.AsciiLaws) (hne : keyword ≠ "")
    (hunsettled : unicode.settledFrom [] keyword.toList = false) :
    ∃ text, includes text keyword = true ∧ mentions unicode text (some keyword) = false := by
  rcases UnicodeData.lowerWithin_of_unsettled hunsettled with hafter | hbefore
  · -- After a letter that cannot start the occurrence, only the rest of the text is long enough.
    obtain ⟨letter, halpha, hascii, hlower, havoided⟩ :=
      exists_letter (unicode.lowerWithin [] keyword.toList []).head?
    refine ⟨String.ofList (letter :: keyword.toList), ?_, Bool.eq_false_iff.mpr fun hfound => ?_⟩
    · rw [includes, String.toList_ofList]
      exact decide_eq_true (List.infix_cons (List.infix_refl _))
    · rw [mentions_iff hne, String.toList_ofList, UnicodeData.lowerWithin, hlaws.lowerChar hascii,
        hlower] at hfound
      exact havoided (head?_of_occurs hfound (UnicodeData.length_lowerWithin _ _ _ _ _)
        (hafter letter (hlaws.cased letter halpha)).symm)
  · -- And before a letter that cannot end it, only the part up to the letter.
    obtain ⟨letter, halpha, hascii, hlower, havoided⟩ :=
      exists_letter (unicode.lowerWithin [] keyword.toList []).getLast?
    refine ⟨String.ofList (keyword.toList ++ [letter]), ?_, Bool.eq_false_iff.mpr fun hfound => ?_⟩
    · rw [includes, String.toList_ofList]
      exact decide_eq_true (List.prefix_append _ _).isInfix
    · rw [mentions_iff hne, String.toList_ofList, UnicodeData.lowerWithin_append,
        List.append_nil, UnicodeData.lowerWithin, hlaws.lowerChar hascii, hlower] at hfound
      exact havoided (getLast?_of_occurs hfound (UnicodeData.length_lowerWithin _ _ _ _ _)
        (hbefore letter (hlaws.cased letter halpha)).symm)

/-! ## The exact keywords -/

theorem SameButCase.ne_empty {text text' : String} (hsame : SameButCase text text')
    (hne : text ≠ "") : text' ≠ "" := by
  rintro rfl
  exact hne (String.toList_injective (List.map_eq_nil_iff.mp hsame))

theorem mentions_congr (hlaws : unicode.AsciiLaws) {text text' needle needle' : String}
    (htext : SameButCase text text') (hneedle : SameButCase needle needle') (hne : needle ≠ "") :
    mentions unicode text' (some needle') = mentions unicode text (some needle) := by
  have hne' := hneedle.ne_empty hne
  rw [mentions, mentions, hlaws.toLowerCase_congr htext, hlaws.toLowerCase_congr hneedle,
    decide_eq_true hne, decide_eq_true hne']

/-- The keyword as a condition on subjects. -/
def subjectKeyword (keyword : String) : EmailRuleCondition where
  id := ""
  ruleId := ""
  conditionType := "subject_keyword"
  conditionValue := .obj [("contains", .str keyword)]

theorem hasKeyword_subjectKeyword (keyword : String) :
    HasKeyword .subject keyword (subjectKeyword keyword) := ⟨rfl, rfl⟩

/-- A keyword is found wherever it occurs, in any case of its ASCII letters, if and only if its
capital sigmas are settled. -/
theorem findsKeyword_iff (hlaws : unicode.AsciiLaws) (hne : keyword ≠ "") :
    FindsKeyword unicode keyword ↔ unicode.settledFrom [] keyword.toList = true := by
  constructor
  · intro hfinds
    by_contra hunsettled
    obtain ⟨text, hoccurs, hmissed⟩ :=
      not_mentions_of_unsettled hlaws hne (Bool.eq_false_iff.mpr hunsettled)
    have hfound := hfinds.found .subject _ ⟨"", "", text, "", none, false⟩
      (hasKeyword_subjectKeyword keyword) hoccurs
    rw [evaluateCondition_hasKeyword (hasKeyword_subjectKeyword keyword)] at hfound
    exact Bool.eq_false_iff.mp hmissed (Except.ok.inj hfound)
  · intro hsettled
    refine ⟨fun field condition message hkeyword hoccurs => ?_,
      fun field keyword' condition condition' message message' hkeyword hkeyword' hsame htext => ?_⟩
    · rw [evaluateCondition_hasKeyword hkeyword, mentions_of_settled hne hsettled hoccurs]
    · rw [evaluateCondition_hasKeyword hkeyword, evaluateCondition_hasKeyword hkeyword',
        mentions_congr hlaws htext hsame hne]

/-! ## A message -/

namespace GreekOffer

/-- The character data of ASCII and the Greek capitals and small letters. -/
def greekData : UnicodeData where
  lowercase c := if 'Α' ≤ c ∧ c ≤ 'Ω' then [Char.ofNat (c.toNat + 32)] else [c.toLower]
  cased c := c.isAlpha || decide ('Α' ≤ c ∧ c ≤ 'Ω') || decide ('α' ≤ c ∧ c ≤ 'ω')
  caseIgnorable := asciiData.caseIgnorable
  extendedPictographic _ := false

theorem greekData_asciiLaws : greekData.AsciiLaws where
  lowercase c hascii := by
    have hgreek : ¬ ('Α' ≤ c ∧ c ≤ 'Ω') := by
      rintro ⟨hle, -⟩
      have hnat : 'Α'.val.toNat ≤ c.val.toNat := UInt32.le_iff_toNat_le.mp hle
      exact absurd (Nat.lt_of_le_of_lt hnat hascii) (by decide)
    exact if_neg hgreek
  cased c halpha := by simp [greekData, halpha]
  caseIgnorable := UnicodeData.asciiData_asciiLaws.caseIgnorable

/-- A mail with an offer. -/
def offer : RawMailMessage := ⟨"m", "shop@example.gr", "ΠΡΟΣΦΟΡΑ", "", some 0, false⟩

end GreekOffer

open GreekOffer in
/-- The sigma that ends the keyword is not final in the subject. -/
theorem not_findsKeyword_finalSigma :
    includes offer.subject "ΠΡΟΣ" = true ∧
      evaluateCondition greekData offer (subjectKeyword "ΠΡΟΣ") = .ok false ∧
      ¬ FindsKeyword greekData "ΠΡΟΣ" := by
  have hmissed : evaluateCondition greekData offer (subjectKeyword "ΠΡΟΣ") = .ok false := by
    decide +kernel
  refine ⟨by decide +kernel, hmissed, fun hfinds => ?_⟩
  have hfound := hfinds.found .subject _ offer (hasKeyword_subjectKeyword "ΠΡΟΣ")
    (by decide +kernel)
  exact Bool.false_ne_true (Except.ok.inj (hmissed.symm.trans hfound))

open GreekOffer in
theorem findsKeyword_iff_example : FindsKeyword greekData "ΠΡΟΣΦΟΡΑ" :=
  (findsKeyword_iff greekData_asciiLaws (by decide)).mpr (by decide +kernel)

end RuleMatcher

end MyAccountController
