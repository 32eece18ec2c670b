import Provisioner.Text.Blank
import Provisioner.Text.Unprintable

/-!
# Quoted text in messages

Messages that show a text to an operator put it in quotes. The quote, the backslash, tab and line ends are
escaped by a letter, the null character by a zero, and all else that does not show by its code point.
-/
namespace Provisioner.Text

/-- A character inside quotes. -/
def shown (c : Char) : List Char :=
  match c with
  | '"' => ['\\', '"']
  | '\\' => ['\\', '\\']
  | '\n' => ['\\', 'n']
  | '\r' => ['\\', 'r']
  | '\t' => ['\\', 't']
  | '\x00' => ['\\', '0']
  | c => if isUnprintable c then '\\' :: 'u' :: '\x7b' :: hex c.toNat ++ ['\x7d'] else [c]

/-- A text in quotes. -/
def quoted (text : String) : String :=
  String.ofList ('"' :: text.toList.flatMap shown ++ ['"'])

end Provisioner.Text
