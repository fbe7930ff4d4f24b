import Mathlib.Data.Rat.Floor
import Mathlib.Tactic.Linarith
import MyAccountController.Common.Exception
import MyAccountController.Foundation.FisherYates

/-! # `AccountsService.generatePassword`

One character of every active class is drawn first, then the rest from all of
them, and a Fisher–Yates shuffle spreads the first ones. The random numbers are
drawn in turn from a source, and a draw from an empty range throws.
-/

namespace MyAccountController

open Foundation

/-- A number as `JSON.parse` answers it: a literal beyond the doubles is infinite. -/
inductive JsonNumber where
  | negInfinity
  | finite (value : ℚ)
  | infinity

/-- The answers to the draws, by how many were made before. -/
structure RandomSource where
  draw : (asked max : Nat) → 0 < max → Fin max

/-- The four kinds of characters. -/
inductive CharClass where
  | uppercase
  | lowercase
  | numbers
  | symbols
  deriving DecidableEq, Repr

/-- Without the characters that are easily confused. -/
def CharClass.charset : CharClass → List Char
  | uppercase => "ABCDEFGHJKLMNPQRSTUVWXYZ".toList
  | lowercase => "abcdefghijkmnpqrstuvwxyz".toList
  | numbers => "23456789".toList
  | symbols => "!@#$%^&*()-_=+[]\x7b\x7d".toList

structure PasswordOptions where
  length : Option JsonNumber
  includeUppercase : Option Bool
  includeLowercase : Option Bool
  includeNumbers : Option Bool
  includeSymbols : Option Bool

/-- The flag of a class, on when it is absent. -/
def PasswordOptions.flag (options : PasswordOptions) : CharClass → Bool
  | .uppercase => options.includeUppercase.getD true
  | .lowercase => options.includeLowercase.getD true
  | .numbers => options.includeNumbers.getD true
  | .symbols => options.includeSymbols.getD true

namespace AccountsService

/-- `Math.min(Math.max(options.length ?? 16, 8), 64)`. -/
def passwordLength : Option JsonNumber → ℚ
  | none => 16
  | some .negInfinity => 8
  | some (.finite value) => min (max value 8) 64
  | some .infinity => 64

/-- The classes whose flag is on, in the order of the source. -/
def charsets (options : PasswordOptions) : List (List Char) :=
  (if options.includeUppercase.getD true then [CharClass.uppercase.charset] else []) ++
    (if options.includeLowercase.getD true then [CharClass.lowercase.charset] else []) ++
    (if options.includeNumbers.getD true then [CharClass.numbers.charset] else []) ++
    (if options.includeSymbols.getD true then [CharClass.symbols.charset] else [])

/-- All four when every flag is off. -/
def activeCharsets (options : PasswordOptions) : List (List Char) :=
  if (charsets options).length > 0 then charsets options
  else [CharClass.uppercase.charset, CharClass.lowercase.charset, CharClass.numbers.charset,
    CharClass.symbols.charset]

section Draws

variable (source : RandomSource)

/-- `randomInt(max)`, on the number of draws made so far. -/
def randomInt (max : Nat) : Handler Exception Nat (Fin max) := fun asked =>
  if hmax : 0 < max then (.ok (source.draw asked max hmax), asked + 1)
  else (.error (.error "ERR_OUT_OF_RANGE"), asked)

/-- `charset[randomInt(charset.length)]`. -/
def pick (charset : List Char) : Handler Exception Nat Char := do
  let index ← randomInt source charset.length
  pure (charset.get index)

/-- The loop from position `i` down to 1. -/
def shuffleLoop {α : Type} : (i : Nat) → List α → Handler Exception Nat (List α)
  | 0, chars => pure chars
  | i + 1, chars => do
      let j ← randomInt source (i + 2)
      shuffleLoop i (FisherYates.swap chars (i + 1) j)

/-- The length of an array is cut off to a whole number. The subtraction is exact in doubles. -/
def generatePassword (options : PasswordOptions) : Handler Exception Nat String := do
  let length := passwordLength options.length
  let required ← (activeCharsets options).mapM (pick source)
  let allChars := (activeCharsets options).flatten
  let remaining ← (List.replicate ⌊max (length - required.length) 0⌋₊ allChars).mapM (pick source)
  let chars ← shuffleLoop source ((required ++ remaining).length - 1) (required ++ remaining)
  pure (String.ofList chars)

end Draws

/-! ## The draws -/

section Spec

variable {source : RandomSource}

theorem randomInt_run {max : Nat} (hmax : 0 < max) (asked : Nat) :
    randomInt source max asked = (.ok (source.draw asked max hmax), asked + 1) :=
  dif_pos hmax

theorem pick_run {charset : List Char} (hcharset : charset ≠ []) (asked : Nat) :
    ∃ c ∈ charset, pick source charset asked = (.ok c, asked + 1) := by
  have hpos := List.length_pos_of_ne_nil hcharset
  refine ⟨_, List.get_mem charset (source.draw asked charset.length hpos), ?_⟩
  rw [pick, Handler.bind_of_ok (randomInt_run hpos asked)]
  rfl

/-- One character was picked from each set. -/
structure PickedFrom (chars : List Char) (sets : List (List Char)) : Prop where
  length : chars.length = sets.length
  each : ∀ charset ∈ sets, ∃ c ∈ chars, c ∈ charset
  only : ∀ c ∈ chars, ∃ charset ∈ sets, c ∈ charset

theorem PickedFrom.cons {c : Char} {charset : List Char} {chars : List Char}
    {sets : List (List Char)} (hc : c ∈ charset) (hpicked : PickedFrom chars sets) :
    PickedFrom (c :: chars) (charset :: sets) where
  length := congrArg Nat.succ hpicked.length
  each := by
    intro other hother
    cases hother with
    | head => exact ⟨c, List.mem_cons_self, hc⟩
    | tail _ hother =>
        obtain ⟨c', hc', hmem⟩ := hpicked.each other hother
        exact ⟨c', List.mem_cons_of_mem _ hc', hmem⟩
  only := by
    intro other hother
    cases hother with
    | head => exact ⟨charset, List.mem_cons_self, hc⟩
    | tail _ hother =>
        obtain ⟨set, hset, hmem⟩ := hpicked.only other hother
        exact ⟨set, List.mem_cons_of_mem _ hset, hmem⟩

theorem mapM_pick_run {sets : List (List Char)} (hsets : ∀ charset ∈ sets, charset ≠ [])
    (asked : Nat) : ∃ chars asked', sets.mapM (pick source) asked = (.ok chars, asked') ∧
      PickedFrom chars sets := by
  have hlaws : LawfulMonad (Handler Exception Nat) := Handler.lawfulMonad
  induction sets generalizing asked with
  | nil => exact ⟨[], asked, rfl, rfl, by simp, by simp⟩
  | cons charset sets ih =>
      obtain ⟨c, hc, hpick⟩ := pick_run (hsets charset List.mem_cons_self) asked
      obtain ⟨chars, asked', hchars, hpicked⟩ :=
        ih (fun other hother => hsets other (List.mem_cons_of_mem _ hother)) (asked + 1)
      refine ⟨c :: chars, asked', ?_, hpicked.cons hc⟩
      rw [List.mapM_cons, Handler.bind_of_ok hpick, Handler.bind_of_ok hchars]
      rfl

/-- What the loop draws from position `i` down. -/
def shuffleDraws (source : RandomSource) : (asked i : Nat) → List Nat
  | _, 0 => []
  | asked, i + 1 =>
      (source.draw asked (i + 2) (Nat.succ_pos _)).val :: shuffleDraws source (asked + 1) i

/-- Whatever the source, each draw is in its range. -/
theorem shuffleDraws_isDraws (asked i : Nat) :
    FisherYates.IsDraws i (shuffleDraws source asked i) := by
  induction i generalizing asked with
  | zero => rfl
  | succ i ih => exact ⟨Nat.le_of_lt_succ (source.draw _ _ _).isLt, ih (asked + 1)⟩

/-- The loop never draws from an empty range, and shuffles by its draws. -/
theorem shuffleLoop_run {α : Type} (i : Nat) (chars : List α) (asked : Nat) :
    shuffleLoop source i chars asked =
      (.ok (FisherYates.shuffle i (shuffleDraws source asked i) chars), asked + i) := by
  induction i generalizing chars asked with
  | zero => rfl
  | succ i ih =>
      rw [shuffleLoop, Handler.bind_of_ok (randomInt_run (Nat.succ_pos _) asked), ih,
        Nat.add_assoc, Nat.add_comm 1 i]
      rfl

/-! ## The password -/

/-- A class is enabled by its flag, or when every flag is off. -/
def Enabled (options : PasswordOptions) (charClass : CharClass) : Prop :=
  options.flag charClass = true ∨ ∀ other, options.flag other = false

/-- The classes in the order of the source. -/
def charClasses : List CharClass := [.uppercase, .lowercase, .numbers, .symbols]

theorem mem_charClasses (charClass : CharClass) : charClass ∈ charClasses := by
  cases charClass <;> decide

theorem charset_ne_nil (charClass : CharClass) : charClass.charset ≠ [] := by
  cases charClass <;> decide

theorem charsets_eq (options : PasswordOptions) :
    charsets options = (charClasses.filter options.flag).map CharClass.charset := by
  have hfilter : ∀ (flag : Bool) (charClass : CharClass) (rest : List CharClass),
      (if flag then charClass :: rest else rest).map CharClass.charset =
        (if flag then [charClass.charset] else []) ++ rest.map CharClass.charset := by
    intro flag charClass rest
    cases flag <;> rfl
  rw [charClasses, List.filter_cons, hfilter, List.filter_cons, hfilter, List.filter_cons, hfilter,
    List.filter_cons, hfilter, List.filter_nil, List.map_nil, List.append_nil]
  simp only [charsets, PasswordOptions.flag, List.append_assoc]
  rfl

theorem charsets_eq_nil_iff {options : PasswordOptions} :
    charsets options = [] ↔ ∀ charClass, options.flag charClass = false := by
  rw [charsets_eq, List.map_eq_nil_iff, List.filter_eq_nil_iff]
  constructor
  · exact fun hoff charClass => Bool.not_eq_true _ ▸ hoff charClass (mem_charClasses charClass)
  · exact fun hoff charClass _ => by rw [hoff charClass]; exact Bool.false_ne_true

theorem activeCharsets_eq (options : PasswordOptions) :
    activeCharsets options = (if charsets options = [] then charClasses
      else charClasses.filter options.flag).map CharClass.charset := by
  unfold activeCharsets
  split
  next hsome => rw [if_neg (List.ne_nil_of_length_pos hsome), charsets_eq]
  next hnone => rw [if_pos (List.eq_nil_of_length_eq_zero (Nat.eq_zero_of_not_pos hnone))]; rfl

theorem mem_activeCharsets_iff {options : PasswordOptions} {charset : List Char} :
    charset ∈ activeCharsets options ↔
      ∃ charClass, Enabled options charClass ∧ charClass.charset = charset := by
  rw [activeCharsets_eq, List.mem_map]
  refine exists_congr fun charClass => and_congr_left fun _ => ?_
  unfold Enabled
  rw [← charsets_eq_nil_iff]
  split
  next hoff => simp [mem_charClasses, hoff]
  next hsome => simp [mem_charClasses, hsome]

theorem length_activeCharsets (options : PasswordOptions) :
    1 ≤ (activeCharsets options).length ∧ (activeCharsets options).length ≤ 4 := by
  constructor
  · unfold activeCharsets
    split
    next hsome => exact hsome
    next => exact Nat.le_add_left _ _
  · rw [activeCharsets_eq, List.length_map]
    split
    · exact le_refl _
    · exact List.length_filter_le _ _

theorem le_passwordLength (length : Option JsonNumber) : 8 ≤ passwordLength length := by
  unfold passwordLength
  split
  · norm_num
  · norm_num
  · exact le_min (le_max_right _ _) (by norm_num)
  · norm_num

/-- Every run ends in a password of the whole part of the clamped length, with a character of
every enabled class and no other characters. A draw from an empty range would have thrown. -/
theorem generatePassword_run (source : RandomSource) (options : PasswordOptions) (asked : Nat) :
    ∃ password asked', generatePassword source options asked = (.ok password, asked') ∧
      password.toList.length = ⌊passwordLength options.length⌋₊ ∧
      (∀ charClass, Enabled options charClass → ∃ c ∈ password.toList, c ∈ charClass.charset) ∧
      ∀ c ∈ password.toList, ∃ charClass, Enabled options charClass ∧ c ∈ charClass.charset := by
  have hactive : ∀ charset ∈ activeCharsets options, charset ≠ [] := by
    intro charset hcharset
    obtain ⟨charClass, -, rfl⟩ := mem_activeCharsets_iff.mp hcharset
    exact charset_ne_nil charClass
  obtain ⟨hone, hfour⟩ := length_activeCharsets options
  have hall : (activeCharsets options).flatten ≠ [] := by
    obtain ⟨charset, hcharset⟩ := List.exists_mem_of_length_pos hone
    intro hnil
    exact hactive charset hcharset (List.flatten_eq_nil_iff.mp hnil charset hcharset)
  obtain ⟨required, asked₁, hrequired, hfirst⟩ := @mapM_pick_run source _ hactive asked
  have hreplicate : ∀ charset ∈ List.replicate
      ⌊max (passwordLength options.length - required.length) 0⌋₊ (activeCharsets options).flatten,
      charset ≠ [] := fun charset hcharset => List.eq_of_mem_replicate hcharset ▸ hall
  obtain ⟨remaining, asked₂, hremaining, hrest⟩ := @mapM_pick_run source _ hreplicate asked₁
  have hperm := FisherYates.shuffle_perm ((required ++ remaining).length - 1)
    (shuffleDraws source asked₂ ((required ++ remaining).length - 1)) (required ++ remaining)
  have hrun : generatePassword source options asked = (.ok (String.ofList (FisherYates.shuffle
      ((required ++ remaining).length - 1) (shuffleDraws source asked₂
        ((required ++ remaining).length - 1)) (required ++ remaining))),
      asked₂ + ((required ++ remaining).length - 1)) := by
    rw [generatePassword, Handler.bind_of_ok hrequired, Handler.bind_of_ok hremaining,
      Handler.bind_of_ok (shuffleLoop_run _ _ _)]
    rfl
  refine ⟨_, _, hrun, ?_, ?_, ?_⟩
  · rw [String.toList_ofList, hperm.length_eq, List.length_append, hfirst.length,
      hrest.length, List.length_replicate, hfirst.length]
    have hlength := le_passwordLength options.length
    -- There are fewer required characters than the password is long, so none is dropped.
    have hcast : ((activeCharsets options).length : ℚ) ≤ 4 := by exact_mod_cast hfour
    rw [max_eq_left (by linarith), Nat.floor_sub_natCast]
    have hfloor : 8 ≤ ⌊passwordLength options.length⌋₊ := Nat.le_floor (by exact_mod_cast hlength)
    omega
  · intro charClass henabled
    obtain ⟨c, hc, hclass⟩ := hfirst.each _
      (mem_activeCharsets_iff.mpr ⟨charClass, henabled, rfl⟩)
    rw [String.toList_ofList]
    exact ⟨c, hperm.mem_iff.mpr (List.mem_append_left _ hc), hclass⟩
  · intro c hc
    rw [String.toList_ofList, hperm.mem_iff, List.mem_append] at hc
    have hcharset : ∃ charset ∈ activeCharsets options, c ∈ charset := by
      cases hc with
      | inl hc => exact hfirst.only c hc
      | inr hc =>
          obtain ⟨charset, hcharset, hmem⟩ := hrest.only c hc
          rw [List.eq_of_mem_replicate hcharset] at hmem
          exact List.mem_flatten.mp hmem
    obtain ⟨charset, hactive, hmem⟩ := hcharset
    obtain ⟨charClass, henabled, rfl⟩ := mem_activeCharsets_iff.mp hactive
    exact ⟨charClass, henabled, hmem⟩

end Spec

/-! ## The shuffle -/

/-- The source that answers the given draws in turn. -/
def replay (draws : List Nat) : RandomSource where
  draw asked max hmax := if hlt : draws.getD asked 0 < max then ⟨_, hlt⟩ else ⟨0, hmax⟩

theorem replay_draw {draws : List Nat} {asked max : Nat} (hmax : 0 < max)
    (hlt : draws.getD asked 0 < max) :
    ((replay draws).draw asked max hmax).val = draws.getD asked 0 := by
  simp only [replay, dif_pos hlt]

theorem shuffleDraws_replay {i : Nat} {before draws : List Nat}
    (hdraws : FisherYates.IsDraws i draws) :
    shuffleDraws (replay (before ++ draws)) before.length i = draws := by
  induction i generalizing before draws with
  | zero => exact hdraws.symm
  | succ i ih =>
      obtain ⟨j, rest, rfl, hj, hrest⟩ := FisherYates.isDraws_succ_iff.mp hdraws
      have hnext : (before ++ j :: rest).getD before.length 0 = j := by simp
      have htail := @ih (before ++ [j]) rest hrest
      rw [List.append_assoc, List.length_append, List.singleton_append, List.length_singleton]
        at htail
      rw [shuffleDraws, replay_draw _ (by omega), hnext, htail]

theorem shuffleLoop_replay {α : Type} {i : Nat} {draws : List Nat}
    (hdraws : FisherYates.IsDraws i draws) (chars : List α) :
    shuffleLoop (replay draws) i chars 0 = (.ok (FisherYates.shuffle i draws chars), i) := by
  have hreplay := @shuffleDraws_replay i [] draws hdraws
  rw [List.nil_append, List.length_nil] at hreplay
  rw [shuffleLoop_run, hreplay, Nat.zero_add]

/-- The positions in the order that the loop gives them by the draws. -/
def shuffledPositions (n : Nat) (draws : List Nat) : Except Exception (List Nat) :=
  (shuffleLoop (replay draws) (n - 1) (List.range n) 0).1

/-- The loop maps the draw sequences one-to-one onto the orders of the positions, and puts the
characters in the order of their positions. -/
theorem shuffledPositions_bijOn (n : Nat) :
    Set.BijOn (shuffledPositions (n + 1)) {draws | FisherYates.IsDraws n draws}
        {result | ∃ order, result = .ok order ∧ order.Perm (List.range (n + 1))} ∧
      ∀ draws, FisherYates.IsDraws n draws → ∀ chars : List Char, chars.length = n + 1 →
        ∃ order shuffled, shuffledPositions (n + 1) draws = .ok order ∧
          shuffleLoop (replay draws) (chars.length - 1) chars 0 = (.ok shuffled, n) ∧
          shuffled.map some = order.map (chars[·]?) ∧ shuffled.Perm chars := by
  have hok : ∀ draws, FisherYates.IsDraws n draws → shuffledPositions (n + 1) draws =
      .ok (FisherYates.shuffle n draws (List.range (n + 1))) := fun draws hdraws =>
    congrArg Prod.fst (shuffleLoop_replay hdraws (List.range (n + 1)))
  have hbijOn := FisherYates.shuffle_bijOn (List.nodup_range (n := n + 1)) (by simp)
  rw [List.length_range, Nat.add_sub_cancel] at hbijOn
  refine ⟨⟨?_, ?_, ?_⟩, ?_⟩
  · exact fun draws hdraws => ⟨_, hok draws hdraws, hbijOn.mapsTo hdraws⟩
  · intro draws hdraws draws' hdraws' hsame
    rw [hok draws hdraws, hok draws' hdraws'] at hsame
    exact hbijOn.injOn hdraws hdraws' (Except.ok.inj hsame)
  · rintro _ ⟨order, rfl, hperm⟩
    obtain ⟨draws, hdraws, rfl⟩ := hbijOn.surjOn hperm
    exact ⟨draws, hdraws, hok draws hdraws⟩
  · intro draws hdraws chars hlength
    -- The characters are the image of the positions, and the shuffle commutes with maps.
    have hpositions : chars.map some = (List.range (n + 1)).map (chars[·]?) := by
      refine List.ext_getElem (by simp [hlength]) fun k hk hk' => ?_
      rw [List.length_map] at hk
      simp [hk]
    refine ⟨_, FisherYates.shuffle n draws chars, hok draws hdraws, ?_, ?_,
      FisherYates.shuffle_perm n draws chars⟩
    · rw [hlength, Nat.add_sub_cancel]
      exact shuffleLoop_replay hdraws chars
    · rw [← FisherYates.shuffle_map, ← FisherYates.shuffle_map, hpositions]

end AccountsService

end MyAccountController
