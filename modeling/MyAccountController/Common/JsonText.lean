import Mathlib.Data.List.Basic
import MyAccountController.Common.Json

/-! # JSON text

A compact printer and a reader of its output. A number is written as an integer
with a decimal exponent. Reading stops at the first character after the value,
and the printed form of a value reads back as that value.
-/

namespace MyAccountController

namespace JsonText

/-- The text delimiter `U+0022`. -/
def quote : Char := Char.ofNat 34

/-- The escape character `U+005C`. -/
def backslash : Char := Char.ofNat 92

/-! ## Printing -/

/-- One hexadecimal digit. -/
def hexDigit (n : Nat) : Char := Nat.digitChar n

/-- A character inside a text. Control characters become `\u00XX`. -/
def escape (c : Char) : List Char :=
  if c = quote then [backslash, quote]
  else if c = backslash then [backslash, backslash]
  else if c.toNat < 32 then
    [backslash, 'u', '0', '0', hexDigit (c.toNat / 16), hexDigit (c.toNat % 16)]
  else [c]

def printText (text : String) : List Char :=
  quote :: (text.toList.flatMap escape ++ [quote])

def printInt : Int → List Char
  | .ofNat n => Nat.toDigits 10 n
  | .negSucc n => '-' :: Nat.toDigits 10 (n + 1)

def printExponent (exponent : Int) : List Char :=
  if exponent = 0 then [] else 'e' :: printInt exponent

mutual

def print : Json → List Char
  | .null => ['n', 'u', 'l', 'l']
  | .bool true => ['t', 'r', 'u', 'e']
  | .bool false => ['f', 'a', 'l', 's', 'e']
  | .num mantissa exponent => printInt mantissa ++ printExponent exponent
  | .str value => printText value
  | .arr [] => ['[', ']']
  | .arr (item :: rest) => '[' :: (print item ++ printItems rest)
  | .obj [] => ['{', '}']
  | .obj (property :: rest) => '{' :: (printProperty property ++ printProperties rest)

/-- The items after the first one, with the closing bracket. -/
def printItems : List Json → List Char
  | [] => [']']
  | item :: rest => ',' :: (print item ++ printItems rest)

def printProperty : String × Json → List Char
  | (name, value) => printText name ++ ':' :: print value

/-- The properties after the first one, with the closing brace. -/
def printProperties : List (String × Json) → List Char
  | [] => ['}']
  | property :: rest => ',' :: (printProperty property ++ printProperties rest)

end

/-! ## Reading -/

def hexValue (c : Char) : Nat :=
  if c.isDigit then c.toNat - 48 else c.toNat - 87

/-- The characters up to the closing delimiter, and what follows it. -/
def readChars : List Char → Option (List Char × List Char)
  | [] => none
  | c :: rest =>
      if c = quote then some ([], rest)
      else if c = backslash then
        match rest with
        | 'u' :: _ :: _ :: high :: low :: rest =>
            (readChars rest).map fun (chars, rest) =>
              (Char.ofNat (hexValue high * 16 + hexValue low) :: chars, rest)
        | escaped :: rest =>
            (readChars rest).map fun (chars, rest) => (escaped :: chars, rest)
        | [] => none
      else (readChars rest).map fun (chars, rest) => (c :: chars, rest)

def readText : List Char → Option (String × List Char)
  | [] => none
  | c :: rest =>
      if c = quote then do
        let (chars, rest) ← readChars rest
        some (String.ofList chars, rest)
      else none

def readNat (text : List Char) : Option (Nat × List Char) :=
  match text.takeWhile Char.isDigit with
  | [] => none
  | digits => some (Nat.ofDigitChars 10 digits 0, text.dropWhile Char.isDigit)

def readInt : List Char → Option (Int × List Char)
  | '-' :: rest => (readNat rest).map fun (n, rest) => (-(n : Int), rest)
  | text => (readNat text).map fun (n, rest) => ((n : Int), rest)

def readNumber (text : List Char) : Option (Json × List Char) := do
  let (mantissa, rest) ← readInt text
  match rest with
  | 'e' :: rest => do
      let (exponent, rest) ← readInt rest
      some (.num mantissa exponent, rest)
  | rest => some (.num mantissa 0, rest)

/-- The words `null`, `true` and `false`. -/
def readWord : List Char → Option (Json × List Char)
  | 'n' :: 'u' :: 'l' :: 'l' :: rest => some (.null, rest)
  | 't' :: 'r' :: 'u' :: 'e' :: rest => some (.bool true, rest)
  | 'f' :: 'a' :: 'l' :: 's' :: 'e' :: rest => some (.bool false, rest)
  | _ => none

mutual

/-- Read a value; the fuel bounds the nesting and the number of items. -/
def read : Nat → List Char → Option (Json × List Char)
  | 0, _ => none
  | fuel + 1, text =>
      match text with
      | [] => none
      | '[' :: rest =>
          match read fuel rest with
          | some (item, rest) => do
              let (items, rest) ← readItems fuel rest
              some (.arr (item :: items), rest)
          | none =>
              match rest with
              | ']' :: rest => some (.arr [], rest)
              | _ => none
      | '{' :: rest =>
          match readProperty fuel rest with
          | some (property, rest) => do
              let (properties, rest) ← readProperties fuel rest
              some (.obj (property :: properties), rest)
          | none =>
              match rest with
              | '}' :: rest => some (.obj [], rest)
              | _ => none
      | text =>
          (readNumber text).or ((readWord text).or
            ((readText text).map fun (value, rest) => (.str value, rest)))

def readItems : Nat → List Char → Option (List Json × List Char)
  | 0, _ => none
  | fuel + 1, text =>
      match text with
      | ']' :: rest => some ([], rest)
      | ',' :: rest => do
          let (item, rest) ← read fuel rest
          let (items, rest) ← readItems fuel rest
          some (item :: items, rest)
      | _ => none

def readProperty : Nat → List Char → Option ((String × Json) × List Char)
  | 0, _ => none
  | fuel + 1, text => do
      let (name, rest) ← readText text
      match rest with
      | ':' :: rest => do
          let (value, rest) ← read fuel rest
          some ((name, value), rest)
      | _ => none

def readProperties : Nat → List Char → Option (List (String × Json) × List Char)
  | 0, _ => none
  | fuel + 1, text =>
      match text with
      | '}' :: rest => some ([], rest)
      | ',' :: rest => do
          let (property, rest) ← readProperty fuel rest
          let (properties, rest) ← readProperties fuel rest
          some (property :: properties, rest)
      | _ => none

end

/-- The text of a value. -/
def stringify (value : Json) : String := String.ofList (print value)

/-- Read a text that holds one value and nothing after it. -/
def parse (text : String) : Option Json :=
  match read (text.toList.length + 1) text.toList with
  | some (value, []) => some value
  | _ => none

/-! ## Round trip of the atoms -/

theorem readChars_escape (c : Char) (rest : List Char) :
    readChars (escape c ++ rest) =
      (readChars rest).map fun (chars, rest) => (c :: chars, rest) := by
  have hdistinct : backslash ≠ quote ∧ quote ≠ 'u' ∧ backslash ≠ 'u' := by decide
  unfold escape
  split
  next hquote =>
    subst hquote
    simp [readChars, hdistinct.1, hdistinct.2.1]
  next hquote =>
    split
    next hbackslash =>
      subst hbackslash
      simp [readChars, hdistinct.1, hdistinct.2.2]
    next hbackslash =>
      split
      next hcontrol =>
        have hhex : ∀ n < 32,
            hexValue (hexDigit (n / 16)) * 16 + hexValue (hexDigit (n % 16)) = n := by
          decide
        simp [readChars, hdistinct.1, hhex _ hcontrol]
      next hcontrol =>
        rw [List.singleton_append, readChars.eq_def]
        simp [hquote, hbackslash]

theorem readText_printText (text : String) (rest : List Char) :
    readText (printText text ++ rest) = some (text, rest) := by
  have hchars : ∀ chars : List Char,
      readChars (chars.flatMap escape ++ quote :: rest) = some (chars, rest) := by
    intro chars
    induction chars with
    | nil =>
        rw [List.flatMap_nil, List.nil_append, readChars.eq_def]
        simp
    | cons c chars ih =>
        rw [List.flatMap_cons, List.append_assoc, readChars_escape, ih]
        rfl
  simp [printText, readText, hchars]

/-- What may follow a value inside a text: nothing, a separator or a bracket. -/
def Stops (rest : List Char) : Prop :=
  ∀ c ∈ rest.head?, c.isDigit = false ∧ c ≠ 'e'

theorem readNat_toDigits (n : Nat) {rest : List Char}
    (hrest : ∀ c ∈ rest.head?, c.isDigit = false) :
    readNat (Nat.toDigits 10 n ++ rest) = some (n, rest) := by
  have hdigits : ∀ c ∈ Nat.toDigits 10 n, c.isDigit = true := fun c hc =>
    Nat.isDigit_of_mem_toDigits (by decide) (by decide) hc
  have hstop : rest.takeWhile Char.isDigit = [] ∧ rest.dropWhile Char.isDigit = rest := by
    cases rest with
    | nil => exact ⟨rfl, rfl⟩
    | cons c rest =>
        have hc := hrest c rfl
        simp [hc]
  have htake : (Nat.toDigits 10 n ++ rest).takeWhile Char.isDigit = Nat.toDigits 10 n := by
    rw [List.takeWhile_append_of_pos hdigits, hstop.1, List.append_nil]
  have hdrop : (Nat.toDigits 10 n ++ rest).dropWhile Char.isDigit = rest := by
    rw [List.dropWhile_append_of_pos hdigits, hstop.2]
  unfold readNat
  rw [htake, hdrop]
  cases hcase : Nat.toDigits 10 n with
  | nil => exact absurd hcase Nat.toDigits_ne_nil
  | cons c chars =>
      rw [← hcase]
      simp

theorem readInt_printInt (value : Int) {rest : List Char}
    (hrest : ∀ c ∈ rest.head?, c.isDigit = false) :
    readInt (printInt value ++ rest) = some (value, rest) := by
  cases value with
  | ofNat n =>
      have hread := readNat_toDigits n hrest
      have hhead : ∀ tail, Nat.toDigits 10 n ++ rest ≠ '-' :: tail := by
        intro tail heq
        cases hcase : Nat.toDigits 10 n with
        | nil => exact absurd hcase Nat.toDigits_ne_nil
        | cons c chars =>
            have hdigit : c.isDigit = true := Nat.isDigit_of_mem_toDigits (b := 10) (n := n)
              (by decide) (by decide) (by simp [hcase])
            rw [hcase] at heq
            obtain rfl : c = '-' := (List.cons.inj heq).1
            exact absurd hdigit (by decide)
      unfold printInt readInt
      split
      next tail heq => exact absurd heq (hhead tail)
      next => simp [hread]
  | negSucc n =>
      simp [printInt, readInt, readNat_toDigits (n + 1) hrest, Int.negSucc_eq]

theorem readNumber_print (mantissa exponent : Int) {rest : List Char} (hrest : Stops rest) :
    readNumber (printInt mantissa ++ printExponent exponent ++ rest) =
      some (.num mantissa exponent, rest) := by
  have hdigit : ∀ c ∈ rest.head?, c.isDigit = false := fun c hc => (hrest c hc).1
  unfold printExponent
  split
  next hzero =>
    rw [List.append_nil, readNumber, readInt_printInt mantissa hdigit]
    cases rest with
    | nil => simp [hzero]
    | cons c rest =>
        have hc := (hrest c rfl).2
        simp only [Option.bind_eq_bind, Option.bind_some, hzero]
        split
        next heq => exact absurd (List.cons.inj heq).1 hc
        next => rfl
  next =>
    rw [List.append_assoc, List.cons_append, readNumber,
      readInt_printInt mantissa (by simp)]
    simp [readInt_printInt exponent hdigit]

/-- A number starts with a digit or a sign. -/
theorem readNumber_eq_none {c : Char} (hdigit : c.isDigit = false) (hsign : c ≠ '-')
    (rest : List Char) : readNumber (c :: rest) = none := by
  have hnat : readNat (c :: rest) = none := by
    unfold readNat
    rw [List.takeWhile_cons_of_neg (by simp [hdigit])]
  have hint : readInt (c :: rest) = none := by
    unfold readInt
    split
    next heq => exact absurd (List.cons.inj heq).1 hsign
    next => rw [hnat, Option.map_none]
  rw [readNumber, hint]
  rfl

/-- Anything that does not open a bracket is read as an atom. -/
theorem read_atom (fuel : Nat) {c : Char} (harray : c ≠ '[') (hobject : c ≠ '{')
    (rest : List Char) : read (fuel + 1) (c :: rest) =
      (readNumber (c :: rest)).or ((readWord (c :: rest)).or
        ((readText (c :: rest)).map fun (value, rest) => (.str value, rest))) := by
  rw [read]
  · exact List.cons_ne_nil _ _
  · exact fun _ heq => harray (List.cons.inj heq).1
  · exact fun _ heq => hobject (List.cons.inj heq).1

theorem read_number (fuel : Nat) (mantissa exponent : Int) {rest : List Char}
    (hrest : Stops rest) : read (fuel + 1) (print (.num mantissa exponent) ++ rest) =
      some (.num mantissa exponent, rest) := by
  have hread := readNumber_print mantissa exponent hrest
  have hprint : print (.num mantissa exponent) ++ rest =
      printInt mantissa ++ printExponent exponent ++ rest := rfl
  rw [hprint]
  cases htext : printInt mantissa ++ printExponent exponent ++ rest with
  | nil =>
      rw [htext] at hread
      contradiction
  | cons c tail =>
      rw [htext] at hread
      -- What can be read as a number opens no bracket.
      have hopen : ∀ bracket, bracket.isDigit = false → bracket ≠ '-' → c ≠ bracket := by
        rintro bracket hdigit hsign rfl
        rw [readNumber_eq_none hdigit hsign] at hread
        contradiction
      rw [read_atom fuel (hopen _ (by decide) (by decide)) (hopen _ (by decide) (by decide)),
        hread, Option.some_or]

theorem read_text (fuel : Nat) (text : String) (rest : List Char) :
    read (fuel + 1) (print (.str text) ++ rest) = some (.str text, rest) := by
  have hread := readText_printText text rest
  have hprint : print (.str text) ++ rest =
      quote :: (text.toList.flatMap escape ++ [quote] ++ rest) := rfl
  have hprint' : printText text ++ rest =
      quote :: (text.toList.flatMap escape ++ [quote] ++ rest) := rfl
  rw [hprint'] at hread
  have hword : readWord (quote :: (text.toList.flatMap escape ++ [quote] ++ rest)) = none := rfl
  rw [hprint, read_atom fuel (by decide) (by decide), hread, hword,
    readNumber_eq_none (by decide) (by decide), Option.map_some, Option.none_or, Option.none_or]

theorem read_word (fuel : Nat) {value : Json} {c : Char} {word rest : List Char}
    (hprint : print value = c :: word) (hdigit : c.isDigit = false) (hsign : c ≠ '-')
    (harray : c ≠ '[') (hobject : c ≠ '{')
    (hread : readWord (c :: word ++ rest) = some (value, rest)) :
    read (fuel + 1) (print value ++ rest) = some (value, rest) := by
  rw [List.cons_append] at hread
  rw [hprint, List.cons_append, read_atom fuel harray hobject,
    readNumber_eq_none hdigit hsign, hread, Option.none_or, Option.some_or]

/-- A closing bracket does not start a value. -/
theorem read_closing (fuel : Nat) (rest : List Char) : read fuel (']' :: rest) = none := by
  cases fuel with
  | zero => rfl
  | succ fuel =>
      have htext : readText (']' :: rest) = none := rfl
      rw [read_atom fuel (by decide) (by decide), readNumber_eq_none (by decide) (by decide), htext]
      rfl

theorem readProperty_closing (fuel : Nat) (rest : List Char) :
    readProperty fuel ('}' :: rest) = none := by
  cases fuel <;> rfl

/-! ## Round trip of values -/

theorem printInt_ne_nil (value : Int) : printInt value ≠ [] := by
  cases value with
  | ofNat n => exact Nat.toDigits_ne_nil
  | negSucc n => exact List.cons_ne_nil _ _

theorem print_length_pos (value : Json) : 0 < (print value).length := by
  rw [List.length_pos_iff]
  unfold print
  split
  all_goals simp [printText, printInt_ne_nil]

theorem stops_items (items : List Json) (rest : List Char) :
    Stops (printItems items ++ rest) := by
  cases items <;> simp [Stops, printItems]

theorem stops_properties (properties : List (String × Json)) (rest : List Char) :
    Stops (printProperties properties ++ rest) := by
  cases properties <;> simp [Stops, printProperties]

mutual

/-- Reading undoes printing, with fuel for every printed character. -/
theorem read_print : ∀ (value : Json) (rest : List Char) (fuel : Nat),
    (print value).length ≤ fuel → Stops rest →
      read fuel (print value ++ rest) = some (value, rest)
  | .null, rest, fuel + 1, _, _ => read_word fuel rfl rfl (by decide) (by decide) (by decide) rfl
  | .bool true, rest, fuel + 1, _, _ =>
      read_word fuel rfl rfl (by decide) (by decide) (by decide) rfl
  | .bool false, rest, fuel + 1, _, _ =>
      read_word fuel rfl rfl (by decide) (by decide) (by decide) rfl
  | .num mantissa exponent, rest, fuel + 1, _, hrest => read_number fuel mantissa exponent hrest
  | .str text, rest, fuel + 1, _, _ => read_text fuel text rest
  | .arr [], rest, fuel + 1, _, _ => by
      simp [print, read, read_closing]
  | .arr (item :: items), rest, fuel + 1, hfuel, _ => by
      simp only [print, List.length_cons, List.length_append] at hfuel
      have hitem := read_print item (printItems items ++ rest) fuel (by omega)
        (stops_items items rest)
      have hitems := readItems_print items rest fuel (by omega)
      simp [print, read, hitem, hitems]
  | .obj [], rest, fuel + 1, _, _ => by
      simp [print, read, readProperty_closing]
  | .obj (property :: properties), rest, fuel + 1, hfuel, _ => by
      simp only [print, List.length_cons, List.length_append] at hfuel
      have hproperty := readProperty_print property (printProperties properties ++ rest) fuel
        (by omega) (stops_properties properties rest)
      have hproperties := readProperties_print properties rest fuel (by omega)
      simp [print, read, hproperty, hproperties]
  -- No value prints as nothing.
  | value, rest, 0, hfuel, _ => by
      have hpos : 0 < (print value).length := print_length_pos value
      omega

theorem readItems_print : ∀ (items : List Json) (rest : List Char) (fuel : Nat),
    (printItems items).length ≤ fuel →
      readItems fuel (printItems items ++ rest) = some (items, rest)
  | [], rest, fuel + 1, _ => by simp [printItems, readItems]
  | item :: items, rest, fuel + 1, hfuel => by
      simp only [printItems, List.length_cons, List.length_append] at hfuel
      have hitem := read_print item (printItems items ++ rest) fuel (by omega)
        (stops_items items rest)
      have hitems := readItems_print items rest fuel (by omega)
      simp [printItems, readItems, hitem, hitems]
  | [], rest, 0, hfuel => by simp [printItems] at hfuel
  | item :: items, rest, 0, hfuel => by simp [printItems] at hfuel

theorem readProperty_print : ∀ (property : String × Json) (rest : List Char) (fuel : Nat),
    (printProperty property).length ≤ fuel → Stops rest →
      readProperty fuel (printProperty property ++ rest) = some (property, rest)
  | (name, value), rest, fuel + 1, hfuel, hrest => by
      simp only [printProperty, printText, List.length_cons, List.length_append] at hfuel
      have hvalue := read_print value rest fuel (by omega) hrest
      simp [printProperty, readProperty, readText_printText, hvalue]
  | (name, value), rest, 0, hfuel, _ => by simp [printProperty] at hfuel

theorem readProperties_print : ∀ (properties : List (String × Json)) (rest : List Char)
    (fuel : Nat), (printProperties properties).length ≤ fuel →
      readProperties fuel (printProperties properties ++ rest) = some (properties, rest)
  | [], rest, fuel + 1, _ => by simp [printProperties, readProperties]
  | property :: properties, rest, fuel + 1, hfuel => by
      simp only [printProperties, List.length_cons, List.length_append] at hfuel
      have hproperty := readProperty_print property (printProperties properties ++ rest) fuel
        (by omega) (stops_properties properties rest)
      have hproperties := readProperties_print properties rest fuel (by omega)
      simp [printProperties, readProperties, hproperty, hproperties]
  | [], rest, 0, hfuel => by simp [printProperties] at hfuel
  | property :: properties, rest, 0, hfuel => by simp [printProperties] at hfuel

end

/-- `parse` undoes `stringify`. -/
theorem parse_stringify (value : Json) : parse (stringify value) = some value := by
  have hread := read_print value [] ((print value).length + 1) (by omega) (by simp [Stops])
  rw [List.append_nil] at hread
  simp [parse, stringify, hread]

example : stringify (.arr [.obj [("a", .str "b"), ("c", .null)]]) =
    "[\x7b\"a\":\"b\",\"c\":null\x7d]" := by decide

end JsonText

end MyAccountController
