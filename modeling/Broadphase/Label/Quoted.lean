import Broadphase.Label
import Broadphase.Label.Hidden

/-!
# Quoted labels

A text is named by itself in double quotes, so that its ends and every character
in it can be seen:

* the quote and the backslash are written after a backslash;
* the tabulator, the line feed, the carriage return and the null character have
  a letter of their own after a backslash (`\t`, `\n`, `\r` and the digit `\0`);
* any other hidden character is written as its code point, in hexadecimal
  between braces.
-/

namespace Broadphase

namespace Quoted

/-- The hexadecimal digits of a code point between braces, after `\u`. -/
def escapeCodePoint (c : Char) : List Char :=
  ['\\', 'u', '\x7b'] ++ Nat.toDigits 16 c.toNat ++ ['\x7d']

/-- A character as it is written between quotes. -/
def encodeChar (c : Char) : List Char :=
  match c with
  | '"' => ['\\', '"']
  | '\\' => ['\\', '\\']
  | '\t' => ['\\', 't']
  | '\n' => ['\\', 'n']
  | '\r' => ['\\', 'r']
  | '\x00' => ['\\', '0']
  | c => if isHidden c then escapeCodePoint c else [c]

/-- A text in double quotes. -/
def encode (s : String) : String :=
  String.ofList ('"' :: s.toList.flatMap encodeChar ++ ['"'])

end Quoted

instance : Label String := ⟨Quoted.encode⟩

end Broadphase
