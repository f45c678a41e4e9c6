import FormCodemod.Text.Printable

/-!
# Quoted texts

A text as messages quote it: between double quotes, with every character that cannot be told apart
in print written as `\\u\x7b…\x7d` with its code point in hexadecimal digits.
-/

namespace FormCodemod.Text

/-- A character as quoted texts write it. -/
def escaped (c : Char) : List Char :=
  match c with
  | '\x00' => ['\\', '0']
  | '\t' => ['\\', 't']
  | '\r' => ['\\', 'r']
  | '\n' => ['\\', 'n']
  | '\\' => ['\\', '\\']
  | '"' => ['\\', '"']
  | c =>
    if isPrintable c then [c]
    else ['\\', 'u', '\x7b'] ++ Nat.toDigits 16 c.toNat ++ ['\x7d']

/-- A text as messages quote it. -/
def quoted (text : List Char) : List Char :=
  '"' :: text.flatMap escaped ++ ['"']

end FormCodemod.Text
