import MyAccountController.Common.Text

/-! # Lower case in context

What a stretch of a text becomes in lower case depends on the text around it
through its capital sigmas alone, and only through those whose form is not settled
by the stretch itself.
-/

namespace MyAccountController

/-! ## ASCII letters -/

theorem isUpper_eq (c : Char) : c.isUpper = decide (c.val ≥ 'A'.val ∧ c.val ≤ 'Z'.val) := rfl

theorem isLower_eq (c : Char) :
    c.isLower = (decide (c.val ≥ 'a'.val) && decide (c.val ≤ 'z'.val)) := rfl

theorem isAlpha_eq (c : Char) : c.isAlpha = (c.isUpper || c.isLower) := rfl

theorem isUpper_iff {c : Char} : c.isUpper = true ↔ 65 ≤ c.toNat ∧ c.toNat ≤ 90 := by
  simp [isUpper_eq, UInt32.le_iff_toNat_le, ← Char.toNat_val]

theorem isLower_iff {c : Char} : c.isLower = true ↔ 97 ≤ c.toNat ∧ c.toNat ≤ 122 := by
  simp [isLower_eq, UInt32.le_iff_toNat_le, ← Char.toNat_val]

theorem toLower_of_not_isUpper {c : Char} (hupper : c.isUpper = false) : c.toLower = c := by
  have hrange : ¬ (c.val ≥ 'A'.val ∧ c.val ≤ 'Z'.val) := of_decide_eq_false hupper
  unfold Char.toLower
  rw [dif_neg hrange]

theorem toNat_toLower {c : Char} (hupper : c.isUpper = true) : c.toLower.toNat = c.toNat + 32 := by
  have hrange : c.val ≥ 'A'.val ∧ c.val ≤ 'Z'.val := of_decide_eq_true hupper
  have hlast := (isUpper_iff.mp hupper).2
  unfold Char.toLower
  rw [dif_pos hrange]
  show (c.val + 32).toNat = _
  rw [UInt32.toNat_add]
  show (c.toNat + 32) % 4294967296 = _
  omega

/-- A capital ASCII letter is mapped to a small one. -/
theorem isLower_toLower {c : Char} (hupper : c.isUpper = true) : c.toLower.isLower = true := by
  have hrange := isUpper_iff.mp hupper
  rw [isLower_iff, toNat_toLower hupper]
  omega

theorem toLower_toLower (c : Char) : c.toLower.toLower = c.toLower := by
  cases hupper : c.isUpper with
  | false => rw [toLower_of_not_isUpper hupper, toLower_of_not_isUpper hupper]
  | true =>
      have hlower := isLower_iff.mp (isLower_toLower hupper)
      refine toLower_of_not_isUpper (Bool.eq_false_iff.mpr fun hagain => ?_)
      have hrange := isUpper_iff.mp hagain
      omega

/-- No letter but the ASCII ones changes. -/
theorem toLower_eq_iff_of_not_isAlpha {c other : Char} (hother : other.isAlpha = false) :
    c.toLower = other ↔ c = other := by
  have hfixed : other.toLower = other := by
    refine toLower_of_not_isUpper ?_
    rw [isAlpha_eq, Bool.or_eq_false_iff] at hother
    exact hother.1
  constructor
  · intro hc
    cases hupper : c.isUpper with
    | false => rwa [toLower_of_not_isUpper hupper] at hc
    | true =>
        have hlower := isLower_toLower hupper
        rw [hc] at hlower
        rw [isAlpha_eq, hlower, Bool.or_true] at hother
        contradiction
  · rintro rfl
    exact hfixed

namespace UnicodeData

/-- What the Unicode Character Database says of ASCII. -/
structure AsciiLaws (unicode : UnicodeData) : Prop where
  lowercase : ∀ c : Char, c.toNat < 128 → unicode.lowercase c = [c.toLower]
  cased : ∀ c : Char, c.isAlpha = true → unicode.cased c = true
  caseIgnorable : ∀ c : Char, c.isAlpha = true → unicode.caseIgnorable c = false

theorem asciiData_asciiLaws : AsciiLaws asciiData where
  lowercase c _ := rfl
  cased c halpha := halpha
  caseIgnorable c halpha := by
    have hne : c ≠ '.' ∧ c ≠ ':' ∧ c ≠ '\'' := by
      refine ⟨?_, ?_, ?_⟩ <;> rintro rfl <;> exact absurd halpha (by decide)
    simp [asciiData, hne]

variable {unicode : UnicodeData}

/-- The data of a character are those of the ASCII letter in the other case. -/
theorem AsciiLaws.of_toLower (hlaws : AsciiLaws unicode) (c : Char) :
    unicode.lowercase c.toLower = unicode.lowercase c ∧
      unicode.cased c.toLower = unicode.cased c ∧
      unicode.caseIgnorable c.toLower = unicode.caseIgnorable c := by
  cases hupper : c.isUpper with
  | false =>
      rw [toLower_of_not_isUpper hupper]
      exact ⟨rfl, rfl, rfl⟩
  | true =>
      have hrange := isUpper_iff.mp hupper
      have hlower := isLower_toLower hupper
      have halpha : c.isAlpha = true := by rw [isAlpha_eq, hupper, Bool.true_or]
      have halpha' : c.toLower.isAlpha = true := by rw [isAlpha_eq, hlower, Bool.or_true]
      have hascii : c.toLower.toNat < 128 := by
        rw [toNat_toLower hupper]
        omega
      rw [hlaws.lowercase c (by omega), hlaws.lowercase _ hascii, toLower_toLower,
        hlaws.cased _ halpha, hlaws.cased _ halpha', hlaws.caseIgnorable _ halpha,
        hlaws.caseIgnorable _ halpha']
      exact ⟨rfl, rfl, rfl⟩

/-! ## Stretches of a text -/

section Stretches

variable (unicode)

/-- The lower case of a character between those read, last one first, and those to come. -/
def lowerChar (before : List Char) (c : Char) (after : List Char) : List Char :=
  if c = 'Σ' then if unicode.finalSigma before after then ['ς'] else ['σ']
  else unicode.lowercase c

/-- Lower a stretch of a text in its place. -/
def lowerWithin (before : List Char) : (stretch after : List Char) → List Char
  | [], _ => []
  | c :: stretch, after =>
      unicode.lowerChar before c (stretch ++ after) ++ lowerWithin (c :: before) stretch after

end Stretches

theorem lowerWithin_append (before first second after : List Char) :
    unicode.lowerWithin before (first ++ second) after =
      unicode.lowerWithin before first (second ++ after) ++
        unicode.lowerWithin (first.reverse ++ before) second after := by
  induction first generalizing before with
  | nil => rfl
  | cons c first ih =>
      rw [List.cons_append, lowerWithin, lowerWithin, ih, List.append_assoc, List.append_assoc,
        List.reverse_cons, List.append_assoc, List.singleton_append]

theorem lowerFrom_eq_lowerWithin (before text : List Char) :
    unicode.lowerFrom before text = unicode.lowerWithin before text [] := by
  induction text generalizing before with
  | nil => rfl
  | cons c text ih => rw [lowerFrom, lowerWithin, ih, lowerChar, List.append_nil]

theorem toList_toLowerCase (text : String) :
    (unicode.toLowerCase text).toList = unicode.lowerWithin [] text.toList [] := by
  rw [toLowerCase, String.toList_ofList, lowerFrom_eq_lowerWithin]

/-- Both small sigmas as one character. -/
def anySigma (c : Char) : Char := if c = 'ς' then 'σ' else c

/-- But for the form of its sigmas a stretch has the same lower case everywhere. -/
theorem lowerWithin_map_anySigma (before before' stretch after after' : List Char) :
    (unicode.lowerWithin before stretch after).map anySigma =
      (unicode.lowerWithin before' stretch after').map anySigma := by
  induction stretch generalizing before before' with
  | nil => rfl
  | cons c stretch ih =>
      rw [lowerWithin, lowerWithin, List.map_append, List.map_append,
        ih (c :: before) (c :: before')]
      congr 1
      unfold lowerChar
      by_cases hsigma : c = 'Σ'
      · rw [if_pos hsigma, if_pos hsigma]
        split <;> split <;> rfl
      · rw [if_neg hsigma, if_neg hsigma]

/-- What surrounds a stretch does not change how long it is in lower case. -/
theorem length_lowerWithin (before before' stretch after after' : List Char) :
    (unicode.lowerWithin before stretch after).length =
      (unicode.lowerWithin before' stretch after').length := by
  have hmap := congrArg List.length
    (unicode.lowerWithin_map_anySigma before before' stretch after after')
  rwa [List.length_map, List.length_map] at hmap

/-- A text without small sigmas is found as if both were one. -/
theorem infix_map_anySigma_iff {needle text : List Char} (hsigma : 'σ' ∉ needle)
    (hfinal : 'ς' ∉ needle) : needle <:+: text.map anySigma ↔ needle <:+: text := by
  have hfixed : ∀ c, anySigma c ∈ needle → anySigma c = c := by
    intro c hmem
    unfold anySigma at hmem ⊢
    split
    next hc =>
      rw [if_pos hc] at hmem
      exact absurd hmem hsigma
    next => rfl
  constructor
  · rintro ⟨before, after, happend⟩
    obtain ⟨start, rest, rfl, hstart, hrest⟩ := List.append_eq_map_iff.mp happend
    obtain ⟨first, middle, rfl, hfirst, hmiddle⟩ := List.append_eq_map_iff.mp hstart.symm
    have hsame : middle.map anySigma = middle.map id := List.map_congr_left fun c hc =>
      hfixed c (hmiddle ▸ List.mem_map_of_mem hc)
    rw [hmiddle, List.map_id] at hsame
    exact hsame ▸ ⟨first, rest, rfl⟩
  · intro hoccurs
    have hsame : needle.map anySigma = needle.map id := List.map_congr_left fun c hc =>
      if_neg fun (heq : c = 'ς') => hfinal (heq ▸ hc)
    rw [List.map_id] at hsame
    have hmapped := hoccurs.map anySigma
    rwa [hsame] at hmapped

/-- Where a stretch stands does not matter to the search for a text without small sigmas. -/
theorem infix_lowerWithin_iff {needle : List Char} (hsigma : 'σ' ∉ needle) (hfinal : 'ς' ∉ needle)
    (before before' stretch after after' : List Char) :
    needle <:+: unicode.lowerWithin before stretch after ↔
      needle <:+: unicode.lowerWithin before' stretch after' := by
  rw [← infix_map_anySigma_iff hsigma hfinal, lowerWithin_map_anySigma before before' stretch after
    after', infix_map_anySigma_iff hsigma hfinal]

/-! ## The form of a sigma -/

@[simp] theorem endsCased_cons (c : Char) (reading : List Char) :
    unicode.endsCased (c :: reading) =
      (unicode.cased c || unicode.caseIgnorable c && unicode.endsCased reading) := by
  unfold endsCased
  cases hignorable : unicode.caseIgnorable c with
  | true => simp [hignorable, Bool.or_assoc]
  | false => simp [hignorable]

section Settled

variable (unicode)

/-- Whether a reading ends cased is known, whatever it goes on with. -/
def decides (reading : List Char) : Bool :=
  reading.any fun c => unicode.cased c || !unicode.caseIgnorable c

/-- The form of a sigma is known from a part of what surrounds it. -/
def sigmaSettled (before after : List Char) : Bool :=
  unicode.endsCased after ||
    unicode.decides before && (unicode.decides after || !unicode.endsCased before)

/-- Each capital sigma of the text has the same form wherever the text occurs. -/
def settledFrom (before : List Char) : List Char → Bool
  | [] => true
  | c :: after =>
      (decide (c ≠ 'Σ') || unicode.sigmaSettled before after) && settledFrom (c :: before) after

end Settled

theorem endsCased_append (reading more : List Char) : unicode.endsCased (reading ++ more) =
    if unicode.decides reading then unicode.endsCased reading else unicode.endsCased more := by
  induction reading with
  | nil => rfl
  | cons c reading ih =>
      rw [List.cons_append, endsCased_cons, endsCased_cons, ih]
      have hcons : unicode.decides (c :: reading) =
          (unicode.cased c || !unicode.caseIgnorable c || unicode.decides reading) := rfl
      rw [hcons]
      cases unicode.cased c <;> cases unicode.caseIgnorable c <;> rfl

theorem decides_of_endsCased {reading : List Char} (hends : unicode.endsCased reading = true) :
    unicode.decides reading = true := by
  by_contra hundecided
  have happend := @endsCased_append unicode reading []
  rw [if_neg hundecided, List.append_nil, hends] at happend
  exact absurd happend (by simp [endsCased])

/-- A settled sigma keeps its form. -/
theorem finalSigma_append {before after : List Char}
    (hsettled : unicode.sigmaSettled before after = true) (more more' : List Char) :
    unicode.finalSigma (before ++ more) (after ++ more') = unicode.finalSigma before after := by
  unfold sigmaSettled at hsettled
  unfold finalSigma
  rw [endsCased_append, endsCased_append]
  have hafter := @decides_of_endsCased unicode after
  cases hends : unicode.endsCased after with
  | true => simp [hafter hends]
  | false =>
      rw [hends, Bool.false_or, Bool.and_eq_true] at hsettled
      rw [if_pos hsettled.1]
      cases hbefore : unicode.endsCased before with
      | false => rfl
      | true =>
          simp only [hbefore, Bool.not_true, Bool.or_false] at hsettled
          rw [if_pos hsettled.2]

/-- A stretch whose sigmas are settled has the same lower case everywhere. -/
theorem lowerWithin_of_settled {before stretch : List Char}
    (hsettled : unicode.settledFrom before stretch = true) (more after : List Char) :
    unicode.lowerWithin (before ++ more) stretch after =
      unicode.lowerWithin before stretch [] := by
  induction stretch generalizing before with
  | nil => rfl
  | cons c stretch ih =>
      rw [settledFrom, Bool.and_eq_true, Bool.or_eq_true, decide_eq_true_eq] at hsettled
      obtain ⟨hc, hrest⟩ := hsettled
      have htail := ih hrest
      rw [List.cons_append] at htail
      rw [lowerWithin, lowerWithin, htail, List.append_nil]
      congr 1
      unfold lowerChar
      by_cases hsigma : c = 'Σ'
      · rw [if_pos hsigma, if_pos hsigma,
          finalSigma_append (hc.resolve_left (not_not_intro hsigma)) more after]
      · rw [if_neg hsigma, if_neg hsigma]

/-- The sigma that is not settled, if there is one. -/
theorem exists_unsettled {before stretch : List Char}
    (hunsettled : unicode.settledFrom before stretch = false) :
    ∃ first after, stretch = first ++ 'Σ' :: after ∧
      unicode.sigmaSettled (first.reverse ++ before) after = false := by
  induction stretch generalizing before with
  | nil => exact absurd hunsettled (by simp [settledFrom])
  | cons c stretch ih =>
      rw [settledFrom, Bool.and_eq_false_iff, Bool.or_eq_false_iff, decide_eq_false_iff_not,
        not_not] at hunsettled
      rcases hunsettled with ⟨rfl, hsigma⟩ | hrest
      · exact ⟨[], stretch, rfl, hsigma⟩
      · obtain ⟨first, after, rfl, hsigma⟩ := ih hrest
        refine ⟨c :: first, after, rfl, ?_⟩
        rwa [List.reverse_cons, List.append_assoc, List.singleton_append]

/-- The same sigma with another form makes the stretch different. -/
theorem lowerWithin_ne {before before' first after more more' : List Char}
    (hform : unicode.finalSigma (first.reverse ++ before) (after ++ more) ≠
      unicode.finalSigma (first.reverse ++ before') (after ++ more')) :
    unicode.lowerWithin before (first ++ 'Σ' :: after) more ≠
      unicode.lowerWithin before' (first ++ 'Σ' :: after) more' := by
  intro heq
  rw [lowerWithin_append, lowerWithin_append] at heq
  obtain ⟨-, hrest⟩ := List.append_inj heq (length_lowerWithin _ _ _ _ _)
  rw [lowerWithin, lowerWithin] at hrest
  have hsigma := congrArg List.head? hrest
  cases hfinal : unicode.finalSigma (first.reverse ++ before) (after ++ more) <;>
    cases hfinal' : unicode.finalSigma (first.reverse ++ before') (after ++ more') <;>
    simp [lowerChar, hfinal, hfinal'] at hsigma hform

/-- A stretch with an unsettled sigma is different after any cased letter, or before any. -/
theorem lowerWithin_of_unsettled {stretch : List Char}
    (hunsettled : unicode.settledFrom [] stretch = false) :
    (∀ letter, unicode.cased letter = true →
      unicode.lowerWithin [letter] stretch [] ≠ unicode.lowerWithin [] stretch []) ∨
    ∀ letter, unicode.cased letter = true →
      unicode.lowerWithin [] stretch [letter] ≠ unicode.lowerWithin [] stretch [] := by
  obtain ⟨first, after, rfl, hsigma⟩ := exists_unsettled hunsettled
  rw [List.append_nil, sigmaSettled, Bool.or_eq_false_iff] at hsigma
  obtain ⟨hafter, hsigma⟩ := hsigma
  have hletter : ∀ letter, unicode.cased letter = true → unicode.endsCased [letter] = true := by
    intro letter hcased
    rw [endsCased_cons, hcased, Bool.true_or]
  cases hdecides : unicode.decides first.reverse with
  | false =>
      -- Alone the sigma comes after nothing cased, so it is final after the letter only.
      left
      have hbefore : unicode.endsCased first.reverse = false :=
        Bool.eq_false_iff.mpr fun hends => by simp [decides_of_endsCased hends] at hdecides
      intro letter hcased
      apply lowerWithin_ne
      rw [List.append_nil, List.append_nil, finalSigma, finalSigma, endsCased_append, hdecides,
        hletter letter hcased, hafter, hbefore]
      decide
  | true =>
      -- Alone the sigma is final, and before the letter it is not.
      right
      rw [hdecides, Bool.true_and, Bool.or_eq_false_iff, Bool.not_eq_false'] at hsigma
      intro letter hcased
      apply lowerWithin_ne
      rw [List.append_nil, List.append_nil, finalSigma, finalSigma, endsCased_append, hsigma.1,
        hletter letter hcased, hafter, hsigma.2]
      decide

/-! ## ASCII case -/

theorem AsciiLaws.endsCased_map_toLower (hlaws : AsciiLaws unicode) (reading : List Char) :
    unicode.endsCased (reading.map Char.toLower) = unicode.endsCased reading := by
  induction reading with
  | nil => rfl
  | cons c reading ih =>
      obtain ⟨-, hcased, hignorable⟩ := hlaws.of_toLower c
      rw [List.map_cons, endsCased_cons, endsCased_cons, ih, hcased, hignorable]

theorem AsciiLaws.lowerFrom_map_toLower (hlaws : AsciiLaws unicode) (before text : List Char) :
    unicode.lowerFrom (before.map Char.toLower) (text.map Char.toLower) =
      unicode.lowerFrom before text := by
  induction text generalizing before with
  | nil => rfl
  | cons c text ih =>
      have hsigma : c.toLower = 'Σ' ↔ c = 'Σ' := toLower_eq_iff_of_not_isAlpha (by decide)
      have htail := ih (c :: before)
      rw [List.map_cons] at htail
      rw [List.map_cons, lowerFrom, lowerFrom, htail, (hlaws.of_toLower c).1]
      congr 1
      by_cases hc : c = 'Σ'
      · rw [if_pos hc, if_pos (hsigma.mpr hc), finalSigma, finalSigma,
          hlaws.endsCased_map_toLower, hlaws.endsCased_map_toLower]
      · rw [if_neg hc, if_neg fun hlower => hc (hsigma.mp hlower)]

/-- An ASCII character is lowered on its own. -/
theorem AsciiLaws.lowerChar (hlaws : AsciiLaws unicode) {c : Char} (hascii : c.toNat < 128)
    (before after : List Char) : unicode.lowerChar before c after = [c.toLower] := by
  have hsigma : c ≠ 'Σ' := by
    rintro rfl
    exact absurd hascii (by decide)
  rw [UnicodeData.lowerChar, if_neg hsigma, hlaws.lowercase c hascii]

theorem AsciiLaws.lowerWithin (hlaws : AsciiLaws unicode) {stretch : List Char}
    (hascii : ∀ c ∈ stretch, c.toNat < 128) (before after : List Char) :
    unicode.lowerWithin before stretch after = stretch.map Char.toLower := by
  induction stretch generalizing before with
  | nil => rfl
  | cons c stretch ih =>
      rw [UnicodeData.lowerWithin, hlaws.lowerChar (hascii c List.mem_cons_self),
        ih fun other hother => hascii other (List.mem_cons_of_mem c hother)]
      rfl

/-- Texts that differ in the case of ASCII letters only have the same lower case. -/
theorem AsciiLaws.toLowerCase_congr (hlaws : AsciiLaws unicode) {text text' : String}
    (hcase : text.toList.map Char.toLower = text'.toList.map Char.toLower) :
    unicode.toLowerCase text = unicode.toLowerCase text' := by
  unfold toLowerCase
  rw [← hlaws.lowerFrom_map_toLower [] text.toList, hcase, hlaws.lowerFrom_map_toLower]

end UnicodeData

end MyAccountController
