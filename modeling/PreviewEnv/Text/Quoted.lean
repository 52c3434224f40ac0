import PreviewEnv.Text.Unprintable

/-!
Two quoted forms of a text. `quote` is the form used in messages: double quotes around it, short
escapes where there are any, and a code point in braces for whatever would not show. `quoteJson` is
the string form of JSON, in which only quotes, backslashes and controls are escaped.
-/

namespace PreviewEnv.Text

/-- The digits of `n` in base 16, in lower case. -/
def hex (n : Nat) : List Char := Nat.toDigits 16 n

/-- A character as a message writes it. -/
def quoteChar : Char → List Char
  | '\x22' => ['\\', '\x22']
  | '\\' => ['\\', '\\']
  | '\n' => ['\\', 'n']
  | '\r' => ['\\', 'r']
  | '\t' => ['\\', 't']
  | '\x00' => ['\\', '0']
  | c => if isUnprintable c then '\\' :: 'u' :: '\x7b' :: hex c.toNat ++ ['\x7d'] else [c]

/-- The text in double quotes, as messages show it. -/
def quote (s : String) : String :=
  .ofList ('\x22' :: s.toList.flatMap quoteChar ++ ['\x22'])

/-- A character of a JSON string. -/
def quoteJsonChar : Char → List Char
  | '\x22' => ['\\', '\x22']
  | '\\' => ['\\', '\\']
  | '\n' => ['\\', 'n']
  | '\r' => ['\\', 'r']
  | '\t' => ['\\', 't']
  | '\x08' => ['\\', 'b']
  | '\x0c' => ['\\', 'f']
  | c => if c.toNat < 0x20 then '\\' :: 'u' :: '0' :: '0' ::
      (if c.toNat < 0x10 then '0' :: hex c.toNat else hex c.toNat) else [c]

/-- The text as a JSON string. -/
def quoteJson (s : String) : String :=
  .ofList ('\x22' :: s.toList.flatMap quoteJsonChar ++ ['\x22'])

end PreviewEnv.Text
