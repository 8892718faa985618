import Mathlib.Data.Rat.Floor
import KeramikStore.Library.JsNumber

/-!
# Texts that JSON serialisation gives

The value of a field is given by its text. A number that is infinite or not a
number is written as null, and a field without a value is left out. The printing
of numbers is supplied.
-/

set_option autoImplicit false

namespace Library.JsonText

def hexDigit (n : ℕ) : Char := "0123456789abcdef".toList.getD n '0'

def escape (c : Char) : List Char :=
  if c = '"' then ['\\', '"']
  else if c = '\\' then ['\\', '\\']
  else if c.toNat = 0x08 then ['\\', 'b']
  else if c.toNat = 0x0C then ['\\', 'f']
  else if c = '\n' then ['\\', 'n']
  else if c = '\r' then ['\\', 'r']
  else if c = '\t' then ['\\', 't']
  else if c.toNat < 0x20 then
    ['\\', 'u', '0', '0', hexDigit (c.toNat / 16), hexDigit (c.toNat % 16)]
  else [c]

def string (s : String) : List Char := '"' :: s.toList.flatMap escape ++ ['"']

def number (text : JsNumber → String) : JsNumber → List Char
  | .fin q => (text (.fin q)).toList
  | _ => "null".toList

def bool (b : Bool) : List Char := (if b then "true" else "false").toList

def separated (parts : List (List Char)) : List Char := [','].intercalate parts

def array (elements : List (List Char)) : List Char := '[' :: separated elements ++ [']']

def field (name : String) (value : List Char) : List Char := string name ++ ':' :: value

def openBrace : Char := Char.ofNat 0x7B
def closeBrace : Char := Char.ofNat 0x7D

def object (fields : List (String × List Char)) : List Char :=
  openBrace :: separated (fields.map fun f => field f.1 f.2) ++ [closeBrace]

/-- An object begins with a brace and the name of its first field. -/
theorem object_head (name : String) (value : List Char) (fields : List (String × List Char)) :
    ∃ rest, object ((name, value) :: fields) = openBrace :: string name ++ rest := by
  cases fields with
  | nil => exact ⟨':' :: value ++ [closeBrace], by simp [object, separated, field]⟩
  | cons f fields =>
    refine ⟨':' :: value ++ ',' :: separated ((f :: fields).map fun f => field f.1 f.2) ++
      [closeBrace], ?_⟩
    simp [object, separated, field]

end Library.JsonText
