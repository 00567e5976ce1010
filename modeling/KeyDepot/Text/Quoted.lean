import KeyDepot.Text.Hidden
import KeyDepot.Text.Combining

namespace KeyDepot.Text

/-- The digits of a number in lowercase hexadecimal, without leading zeros. -/
def hexDigits (n : Nat) : String :=
  String.ofList (Nat.toDigits 16 n)

/-- One character inside double quotes. -/
def escape (c : Char) : String :=
  match c with
  | '"' => "\\\""
  | '\\' => "\\\\"
  | '\t' => "\\t"
  | '\n' => "\\n"
  | '\r' => "\\r"
  | '\x00' => "\\0"
  | other =>
    if isHidden other || isCombining other then
      "\\u\x7b" ++ hexDigits other.toNat ++ "\x7d"
    else
      other.toString

/-- The text in double quotes. -/
def quoted (text : String) : String :=
  "\"" ++ String.join (text.toList.map escape) ++ "\""

end KeyDepot.Text
