import Uiml.Text.Character

/-!
# Words in a text

Trimming, splitting and comparing texts without regard to the case of ASCII letters. Each function
on `String` is the one on its characters, so statements about it are statements about lists.
-/

namespace Uiml.Text

/-- The characters from the first that is no blank on. -/
def dropBlanks (cs : List Char) : List Char := cs.dropWhile isBlank

/-- The characters without the blanks at either end. -/
def trimChars (cs : List Char) : List Char := (dropBlanks (dropBlanks cs).reverse).reverse

/-- The text without the blanks at either end. -/
def trim (s : String) : String := String.ofList (trimChars s.toList)

/-- Whether a text holds nothing but blanks. -/
def isBlankText (s : String) : Bool := s.toList.all isBlank

/-- The parts of a text between the occurrences of a separator; there is always at least one. -/
def split (separator : Char) (s : String) : List String :=
  (s.toList.splitOn separator).map String.ofList

/-- The words of a text: its longest runs of characters other than blanks. -/
def words (s : String) : List String :=
  ((s.toList.splitOnP isBlank).filter fun word => !word.isEmpty).map String.ofList

/-- Cuts a list at its first element of a class, which belongs to neither part. -/
def cutAt? (p : Char → Bool) (cs : List Char) : Option (List Char × List Char) :=
  match cs.dropWhile fun c => !p c with
  | [] => none
  | _ :: rest => some (cs.takeWhile fun c => !p c, rest)

/-- Cuts a text at its first character of a class, which belongs to neither part; without one the
second part is empty. -/
def cut (p : Char → Bool) (s : String) : String × String :=
  match cutAt? p s.toList with
  | some (before, after) => (String.ofList before, String.ofList after)
  | none => (s, "")

/-- The text with its ASCII letters in lower case. -/
def lowercase (s : String) : String := String.ofList (s.toList.map Char.toLower)

/-- Equality up to the case of ASCII letters. -/
def sameLetters (s t : String) : Bool := s.toList.map Char.toLower == t.toList.map Char.toLower

/-- The value of the first row of a table whose name equals the text up to the case of ASCII
letters. -/
def lookup? {α : Type} (table : List (String × α)) (s : String) : Option α :=
  (table.find? fun row => sameLetters row.1 s).map Prod.snd

end Uiml.Text
