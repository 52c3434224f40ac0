import PreviewEnv.Decimal.Layout
import PreviewEnv.Text.Blank
import PreviewEnv.Text.Quoted
import PreviewEnv.Tree.Basic

/-!
Trees as YAML text, one entry a line. Nested maps are indented by two blanks and nested arrays not
at all; a container without elements is written on the line of its key. Text is written plainly
wherever it reads back as that text.
-/

namespace PreviewEnv.Tree

/-- The characters that cannot begin a plain text. -/
def yamlIndicators : List Char :=
  [',', '[', ']', '\x7b', '\x7d', '#', '&', '*', '!', '|', '>', '\x27', '\x22', '%', '@', '\x60']

/-- The words that are read as something else but text. -/
def yamlWords : List String :=
  ["~", "null", "Null", "NULL", "true", "True", "TRUE", "false", "False", "FALSE",
    ".inf", ".Inf", ".INF", "+.inf", "+.Inf", "+.INF", "-.inf", "-.Inf", "-.INF",
    ".nan", ".NaN", ".NAN"]

/-- Whether a text could be read as a number: it begins like one. -/
def looksNumeric (cs : List Char) : Bool :=
  let unsigned := match cs with
    | '+' :: rest | '-' :: rest => rest
    | _ => cs
  match unsigned with
  | '.' :: c :: _ => c.isDigit
  | c :: _ => c.isDigit && unsigned.all fun c => c.isAlphanum || c = '.' || c = '+' || c = '-'
  | [] => false

/-- Whether a mark inside a plain text would end it: a colon before a blank or a hash sign after
one. -/
def hasPlainEnd : List Char → Bool
  | [':'] => true
  | c :: d :: rest => (c == ':' && d == ' ') || (c == ' ' && d == '#') || hasPlainEnd (d :: rest)
  | _ => false

/-- Whether the text can be written without quotes. -/
def isYamlPlain (s : String) : Bool :=
  let cs := s.toList
  let start := match cs with
    | [] => false
    | c :: rest =>
      if c = '-' || c = '?' || c = ':' then rest.head?.any (· ≠ ' ')
      else !yamlIndicators.contains c
  start && !yamlWords.contains s && !looksNumeric cs && !hasPlainEnd cs &&
    cs.head? != some ' ' && cs.getLast? != some ' ' && !s.startsWith "---" && !s.startsWith "..." &&
    cs.all fun c => c.toNat ≥ 0x20 && c.toNat ≠ 0x7f

/-- A text in YAML: plain, in single quotes or, where a control character has to be escaped, in
double quotes. -/
def yamlText (s : String) : String :=
  if isYamlPlain s then s
  else if s.toList.all fun c => c.toNat ≥ 0x20 && c.toNat ≠ 0x7f then
    .ofList ('\x27' :: s.toList.flatMap (fun c => if c = '\x27' then [c, c] else [c]) ++ ['\x27'])
  else Text.quoteJson s

def indentation (n : Nat) : String := .ofList (List.replicate n ' ')

mutual

/-- The text of a value that a key or a dash introduces, `n` being the indentation of its lines. -/
def yamlValue (n : Nat) : Tree → String
  | null => " null\n"
  | bool b => if b then " true\n" else " false\n"
  | int i => " " ++ toString i ++ "\n"
  | float x => " " ++ Decimal.Layout.compact.text x ++ "\n"
  | str s => " " ++ yamlText s ++ "\n"
  | arr [] => " []\n"
  | arr (t :: ts) => "\n" ++ yamlItems (n - 2) (indentation (n - 2)) (t :: ts)
  | map [] => " \x7b\x7d\n"
  | map (e :: es) => "\n" ++ yamlEntries n (indentation n) (e :: es)

/-- The lines of an array whose dashes are indented by `n`, the first of them by `first`. -/
def yamlItems (n : Nat) (first : String) : List Tree → String
  | [] => ""
  | map (e :: es) :: ts =>
    first ++ "- " ++ yamlEntries (n + 2) "" (e :: es) ++ yamlItems n (indentation n) ts
  | arr (u :: us) :: ts =>
    first ++ "- " ++ yamlItems (n + 2) "" (u :: us) ++ yamlItems n (indentation n) ts
  | t :: ts => first ++ "-" ++ yamlValue (n + 2) t ++ yamlItems n (indentation n) ts

/-- The lines of a map indented by `n`, the first of them by `first`. -/
def yamlEntries (n : Nat) (first : String) : List (String × Tree) → String
  | [] => ""
  | (k, t) :: es =>
    first ++ yamlText k ++ ":" ++ yamlValue (n + 2) t ++ yamlEntries n (indentation n) es

end

/-- The tree as a YAML document. -/
def yaml : Tree → String
  | map (e :: es) => yamlEntries 0 "" (e :: es)
  | arr (t :: ts) => yamlItems 0 "" (t :: ts)
  | t => ((yamlValue 0 t).drop 1).toString

end PreviewEnv.Tree
