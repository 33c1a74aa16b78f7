import ModContracts.Text.Visible

/-!
# Escaped text

Quoted text for messages: what cannot be seen is written as an escape.

* `escapeChar` — a character as it stands between the quotes;
* `escaped` — a text in double quotes.
-/

namespace ModContracts.Text

/-- A character between double quotes. Tab, line feed, carriage return and NUL have short escapes,
as have the quote and the backslash; what cannot be seen is written by its code point. -/
def escapeChar (c : Char) : String :=
  match c with
  | '\t' => "\\t"
  | '\n' => "\\n"
  | '\r' => "\\r"
  | '\x00' => "\\0"
  | '"' => "\\\""
  | '\\' => "\\\\"
  | c => if isVisible c then c.toString
    else "\\u\x7b" ++ String.ofList (Nat.toDigits 16 c.toNat) ++ "\x7d"

/-- A text in double quotes. -/
def escaped (s : String) : String :=
  "\"" ++ String.join (s.toList.map escapeChar) ++ "\""

end ModContracts.Text
