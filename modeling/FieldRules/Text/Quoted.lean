import FieldRules.Unicode.Additions

/-!
# Texts shown in quotes

Quotes, backslashes and the common controls have escapes of their own; a character that is not seen,
or that would join the one before it, is shown by its number.
-/

namespace FieldRules.Text

def shownByNumber : CharSet := Unicode.joining.union Unicode.invisible

def showChar (c : Char) : List Char :=
  match c with
  | '"' => ['\\', '"']
  | '\\' => ['\\', '\\']
  | '\n' => ['\\', 'n']
  | '\r' => ['\\', 'r']
  | '\t' => ['\\', 't']
  | _ =>
    if c.toNat = 0 then ['\\', '0']
    else if shownByNumber.contains c then
      ['\\', 'u', '\x7b'] ++ Nat.toDigits 16 c.toNat ++ ['\x7d']
    else [c]

def quoted (s : String) : String := String.ofList ('"' :: s.toList.flatMap showChar ++ ['"'])

def listed (items : List String) : String := "[" ++ String.intercalate ", " items ++ "]"

end FieldRules.Text
