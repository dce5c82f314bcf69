import TxGateway.Hex
import TxGateway.Text.Extending
import TxGateway.Text.Graphic

/-!
# Quoted texts

A text in double quotes in which every character can be told by the eye: a character that is not
graphic, or that would merge with the one in front of it, is written as its number.
-/

namespace TxGateway.Text

/-- A character as its number. -/
def numbered (c : Char) : List Char := ['\\', 'u', '\x7b'] ++ Hex.digits c.toNat ++ ['\x7d']

/-- A character inside of quotes. -/
def escape : Char → List Char
  | '"' => ['\\', '"']
  | '\\' => ['\\', '\\']
  | '\n' => ['\\', 'n']
  | '\r' => ['\\', 'r']
  | '\t' => ['\\', 't']
  | '\x00' => ['\\', '0']
  | c => if isExtending c || !isGraphic c then numbered c else [c]

/-- A text in quotes. -/
def quote (s : String) : String := "\"" ++ String.ofList (s.toList.flatMap escape) ++ "\""

end TxGateway.Text
