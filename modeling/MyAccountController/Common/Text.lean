import Mathlib.Data.List.Infix
import MyAccountController.Common.Json

/-! # Case and search in text

`String.prototype.toLowerCase` and the emoji class of regular expressions read
the Unicode Character Database, which is a parameter. The one mapping that
depends on its surroundings, of a final capital sigma, is spelt out.
-/

namespace MyAccountController

/-- The properties of characters that the string functions read. -/
structure UnicodeData where
  /-- The full lower-case mapping of a character on its own. -/
  lowercase : Char → List Char
  cased : Char → Bool
  caseIgnorable : Char → Bool
  extendedPictographic : Char → Bool

namespace UnicodeData

variable (unicode : UnicodeData)

/-- A cased character, then case-ignorable ones up to the end of the reading. -/
def endsCased (reading : List Char) : Bool :=
  (reading.takeWhile unicode.caseIgnorable).any unicode.cased ||
    (reading.dropWhile unicode.caseIgnorable).head?.any unicode.cased

/-- `Final_Sigma`: a cased character before and none after. -/
def finalSigma (before after : List Char) : Bool :=
  unicode.endsCased before && !unicode.endsCased after

/-- Lower the characters after those already read, which come last one first. -/
def lowerFrom (before : List Char) : List Char → List Char
  | [] => []
  | c :: after =>
      (if c = 'Σ' then if unicode.finalSigma before after then ['ς'] else ['σ']
        else unicode.lowercase c) ++ lowerFrom (c :: before) after

/-- `text.toLowerCase()`. -/
def toLowerCase (text : String) : String := String.ofList (unicode.lowerFrom [] text.toList)

/-- `EMOJI_REGEX.test(text)`: some character is in `Extended_Pictographic`. -/
def hasEmoji (text : String) : Bool := text.toList.any unicode.extendedPictographic

end UnicodeData

/-- `text.includes(needle)`. -/
def includes (text needle : String) : Bool := decide (needle.toList <:+: text.toList)

/-- The character data of plain ASCII text. -/
def asciiData : UnicodeData where
  lowercase c := [c.toLower]
  cased c := c.isAlpha
  caseIgnorable c := c = '.' || c = ':' || c = '\''
  extendedPictographic _ := false

end MyAccountController
