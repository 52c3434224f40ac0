import PreviewEnv.Binary64
import PreviewEnv.Template.Token
import PreviewEnv.Text.Blank
import PreviewEnv.WordRange

/-!
Cutting a template into tokens. A minus at the inner side of a delimiter trims the white space next
to the tag; a plus there changes nothing. A tag ends with the first closing delimiter that stands
where every bracket is closed. Comments leave no token, and the text of a raw block is one token,
whatever it holds. A string or number that breaks off, or a character that no token begins with,
ends the tokens with a broken one.
-/

namespace PreviewEnv.Template

namespace Lexer

/-- What a mark at the inner side of a delimiter asks for. -/
inductive Trim where
  | keep
  | remove
deriving DecidableEq

/-- The mark at the beginning of the text, and the text after it. -/
def trimMark : List Char → Trim × List Char
  | '-' :: rest => (.remove, rest)
  | '+' :: rest => (.keep, rest)
  | rest => (.keep, rest)

/-- The tags that a delimiter opens. -/
inductive Marker where
  | variable
  | block
  | comment

/-- The text before the first opening delimiter, and what comes after it. -/
def nextMarker? : List Char → Option (List Char × Marker × List Char)
  | [] => none
  | '\x7b' :: '\x7b' :: rest => some ([], .variable, rest)
  | '\x7b' :: '%' :: rest => some ([], .block, rest)
  | '\x7b' :: '#' :: rest => some ([], .comment, rest)
  | c :: rest => (nextMarker? rest).map fun (lead, m, after) => (c :: lead, m, after)

/-- The text before the first `a` followed by `b`, and what comes after the two. -/
def cutAt? (a b : Char) : List Char → Option (List Char × List Char)
  | [] => none
  | [_] => none
  | c :: d :: rest =>
    if c = a ∧ d = b then some ([], rest)
    else (cutAt? a b (d :: rest)).map fun (lead, after) => (c :: lead, after)

def isSpace (c : Char) : Bool :=
  c = ' ' || c = '\t' || c = '\n' || c = '\r' || c = '\x0c'

/-- The rest after a word that stands at the beginning. -/
def dropWord? : List Char → List Char → Option (List Char)
  | [], cs => some cs
  | w :: ws, c :: cs => if w = c then dropWord? ws cs else none
  | _ :: _, [] => none

/-- The rest after a tag that holds one word alone, from inside its opening delimiter, and the mark
at its closing one. -/
def bareTag? (word : String) (cs : List Char) : Option (Trim × List Char) := do
  let rest ← dropWord? word.toList (cs.dropWhile isSpace)
  let (trim, rest) := trimMark (rest.dropWhile isSpace)
  let rest ← dropWord? ['%', '\x7d'] rest
  return (trim, rest)

/-- The text of a raw block with the marks at the inner sides of its end tag and after it, and what
follows the block; `done` is the text passed over, last first. -/
def rawText? : Nat → List Char → List Char → Option (List Char × Trim × Trim × List Char)
  | 0, _, _ => none
  | fuel + 1, done, cs => do
    let (lead, rest) ← cutAt? '\x7b' '%' cs
    let (before, inner) := trimMark rest
    match bareTag? "endraw" inner with
    | some (after, tail) => return (done.reverse ++ lead, before, after, tail)
    | none => rawText? fuel ('%' :: '\x7b' :: lead.reverse ++ done) rest

def lines (cs : List Char) : Nat := cs.count '\n'

def isNameStart (c : Char) : Bool := c.isAlpha || c = '_'

def isNameChar (c : Char) : Bool := c.isAlphanum || c = '_'

/-- A hexadecimal digit's value. -/
def hexDigit? (c : Char) : Option Nat :=
  if '0' ≤ c ∧ c ≤ '9' then some (c.toNat - 48)
  else if 'a' ≤ c ∧ c ≤ 'f' then some (c.toNat - 87)
  else if 'A' ≤ c ∧ c ≤ 'F' then some (c.toNat - 55)
  else none

/-- The code that so many characters write in a base, and what follows them. The first of them may
be a plus. -/
def code? (base count : Nat) (cs : List Char) : Option (Nat × List Char) := do
  let written := cs.take count
  guard (written.length = count)
  let digits := if written.head? = some '+' then written.drop 1 else written
  guard (!digits.isEmpty)
  let values ← digits.mapM hexDigit?
  guard (values.all (· < base))
  return (values.foldl (fun n d => n * base + d) 0, cs.drop count)

def isOctal (c : Char) : Bool := '0' ≤ c && c ≤ '7'

/-- The inside of a string literal up to its closing quote, escapes untouched, and what follows. -/
def stringBody? (quote : Char) : List Char → Option (List Char × List Char)
  | [] => none
  | '\\' :: c :: rest => (stringBody? quote rest).map fun (l, after) => ('\\' :: c :: l, after)
  | c :: rest =>
    if c = quote then some ([], rest)
    else (stringBody? quote rest).map fun (l, after) => (c :: l, after)

/-- The character that a short escape stands for. -/
def shortEscape? : Char → Option Char
  | '\x22' => some '\x22'
  | '\\' => some '\\'
  | '/' => some '/'
  | '\'' => some '\''
  | 'b' => some '\x08'
  | 'f' => some '\x0c'
  | 'n' => some '\n'
  | 'r' => some '\r'
  | 't' => some '\t'
  | _ => none

/-- The characters that the text after a backslash begins with, and what follows the escape: a
UTF-16 unit in four hexadecimal digits, or two units that form a pair, a character below 256 in two
hexadecimal or up to three octal digits, or a short escape. A backslash before anything else stands
for itself. -/
def escape? : List Char → Option (List Char × List Char)
  | [] => none
  | 'u' :: rest => do
    let (high, rest) ← code? 16 4 rest
    if high < 0xd800 ∨ 0xe000 ≤ high then return ([.ofNat high], rest)
    if 0xdc00 ≤ high then none
    match rest with
    | '\\' :: 'u' :: more =>
      let (low, rest) ← code? 16 4 more
      guard (0xdc00 ≤ low && low < 0xe000)
      return ([.ofNat (0x10000 + (high - 0xd800) * 0x400 + (low - 0xdc00))], rest)
    | _ => none
  | 'x' :: rest => do
    let (n, rest) ← code? 16 2 rest
    return ([.ofNat n], rest)
  | c :: rest =>
    if isOctal c then do
      let digits := (c :: rest.take 2).takeWhile isOctal
      let (n, rest) ← code? 8 digits.length (c :: rest)
      guard (n < 256)
      return ([.ofNat n], rest)
    else match shortEscape? c with
      | some d => some ([d], rest)
      | none => some (['\\', c], rest)

/-- The text that the inside of a string literal stands for. -/
def unescape? : Nat → List Char → Option (List Char)
  | 0, _ => none
  | _, [] => some []
  | fuel + 1, '\\' :: rest => do
    let (cs, rest) ← escape? rest
    return cs ++ (← unescape? fuel rest)
  | fuel + 1, c :: rest => return c :: (← unescape? fuel rest)

/-- How far a number literal has been read. -/
inductive NumberPart where
  | radix (base : Nat)
  | whole
  | fraction
  | exponent
  | exponentSign

/-- The part after one more character, if the character belongs to the literal; `after` is the
character that comes next. A point belongs to it only before a digit. -/
def NumberPart.next? (after : Option Char) : NumberPart → Char → Option NumberPart
  | whole, 'e' | whole, 'E' | fraction, 'e' | fraction, 'E' => some exponent
  | whole, '.' => if after.any Char.isDigit then some fraction else none
  | exponent, '+' | exponent, '-' => some exponentSign
  | exponent, c => if c.isDigit then some exponentSign else if c = '_' then some exponent else none
  | part, '_' => some part
  | radix base, c => match hexDigit? c with
    | some d => if d < base then some (radix base) else none
    | none => none
  | part, c => if c.isDigit then some part else none

/-- The characters of a number literal, the part that it ends in, and what follows. -/
def numberText (part : NumberPart) : List Char → List Char × NumberPart × List Char
  | [] => ([], part, [])
  | c :: rest =>
    match part.next? rest.head? c with
    | some next =>
      let (cs, last, after) := numberText next rest
      (c :: cs, last, after)
    | none => ([], part, c :: rest)

def digitsValue (base : Nat) (ds : List Char) : Nat :=
  ds.foldl (fun n c => n * base + (hexDigit? c).getD 0) 0

/-- The float that a decimal literal stands for; an exponent mark needs digits after it. -/
def floatValue? (cs : List Char) : Option Float :=
  let isMark (c : Char) := c = 'e' || c = 'E'
  let mantissa := cs.takeWhile (!isMark ·)
  let tail := (cs.dropWhile (!isMark ·)).drop 1
  let hasMark := cs.any isMark
  let (negative, exponent) := match tail with
    | '-' :: ds => (true, ds)
    | '+' :: ds => (false, ds)
    | ds => (false, ds)
  if hasMark && exponent.isEmpty then none else
  let whole := mantissa.takeWhile (· ≠ '.')
  let fraction := (mantissa.dropWhile (· ≠ '.')).drop 1
  let e : Int := digitsValue 10 exponent
  match Binary64.ofDecimal? false (digitsValue 10 (whole ++ fraction))
      ((if negative then -e else e) - fraction.length) with
  | some x => some x.toFloat
  | none => some (1.0 / 0.0)

def syntaxBroken (detail : String) : Token := .broken .syntaxError (some detail)

/-- The number at the beginning of the text, which begins with a digit. -/
def number (cs : List Char) : Token × List Char :=
  let (base, part, body) := match cs with
    | '0' :: 'b' :: rest | '0' :: 'B' :: rest => (2, NumberPart.radix 2, rest)
    | '0' :: 'o' :: rest | '0' :: 'O' :: rest => (8, NumberPart.radix 8, rest)
    | '0' :: 'x' :: rest | '0' :: 'X' :: rest => (16, NumberPart.radix 16, rest)
    | rest => (10, NumberPart.whole, rest)
  let (written, last, rest) := numberText part body
  let digits := written.filter (· ≠ '_')
  let token :=
    if written.getLast? = some '_' then syntaxBroken "'_' may not occur at end of number"
    else match last with
      | .whole | .radix _ =>
        let n := digitsValue base digits
        if digits.isEmpty || !fitsUnsigned 128 n then syntaxBroken "invalid integer (too large)"
        else .int n
      | _ => match floatValue? digits with
        | some x => .float x
        | none => syntaxBroken "invalid float"
  (token, rest)

/-- The token at the beginning of the text inside a tag, and what follows it. -/
def token : List Char → Token × List Char
  | [] => (syntaxBroken "unexpected end of input", [])
  | c :: rest =>
    match rest.head?.bind (Symbol.ofPair? c) with
    | some s => (.symbol s, rest.drop 1)
    | none => match Symbol.ofChar? c with
      | some s => (.symbol s, rest)
      | none =>
        if c = '\x22' ∨ c = '\'' then
          match stringBody? c rest with
          | none => (syntaxBroken "unexpected end of string", [])
          | some (body, after) => match unescape? (body.length + 1) body with
            | some s => (.str (.ofList s), after)
            | none => (.broken .badEscape none, [])
        else if c.isDigit then number (c :: rest)
        else if isNameStart c then
          (.name (.ofList (c :: rest.takeWhile isNameChar)), rest.dropWhile isNameChar)
        else (syntaxBroken "unexpected character", [])

/-- The kinds of tags that hold tokens. -/
inductive Tag where
  | variable
  | block

def Tag.opening : Tag → Token
  | .variable => .variableStart
  | .block => .blockStart

def Tag.closing : Tag → Token
  | .variable => .variableEnd
  | .block => .blockEnd

/-- The delimiter that ends a tag. -/
def Tag.delimiter : Tag → List Char
  | .variable => ['\x7d', '\x7d']
  | .block => ['%', '\x7d']

/-- Where in a template the next token is looked for: in its text, or within a tag at a depth of
brackets. -/
inductive Mode where
  | text
  | inside (tag : Tag) (depth : Int)

/-- The closing delimiter of a tag at the beginning of the text, with its mark, and what follows. -/
def Tag.end? (tag : Tag) (cs : List Char) : Option (Trim × List Char) :=
  let (trim, rest) := trimMark cs
  (dropWord? tag.delimiter rest).map fun after => (trim, after)

/-- By how much a token changes the depth of brackets. -/
def depthChange : Token → Int
  | .symbol .openParen | .symbol .openBracket | .symbol .openBrace => 1
  | .symbol .closeParen | .symbol .closeBracket | .symbol .closeBrace => -1
  | _ => 0

/-- The tokens from a line on; `trim` says whether the white space at the beginning of text is left
out. -/
def scan : Nat → Mode → Trim → Nat → List Char → List Located
  | 0, _, _, _, _ => []
  | fuel + 1, .text, trim, line, cs =>
    let kept := if trim = .remove then cs.dropWhile Text.isBlank else cs
    let line := line + (lines cs - lines kept)
    let textToken (s : List Char) : List Located :=
      if s.isEmpty then [] else [⟨.text (.ofList s), line⟩]
    match nextMarker? kept with
    | none => textToken kept
    | some (lead, marker, after) =>
      let (mark, inner) := trimMark after
      let tagLine := line + lines lead
      textToken (if mark = .remove then Text.trimEnd lead else lead) ++
      match marker with
      | .variable =>
        ⟨Tag.variable.opening, tagLine⟩ :: scan fuel (.inside .variable 0) .keep tagLine inner
      | .comment =>
        match cutAt? '#' '\x7d' inner with
        | none => [⟨syntaxBroken "unexpected end of comment", tagLine⟩]
        | some (comment, rest) =>
          let trim := if comment.getLast? = some '-' then Trim.remove else .keep
          scan fuel .text trim (tagLine + lines comment) rest
      | .block =>
        match bareTag? "raw" inner with
        | none =>
          ⟨Tag.block.opening, tagLine⟩ :: scan fuel (.inside .block 0) .keep tagLine inner
        | some (start, body) =>
          match rawText? (body.length + 1) [] body with
          | none => [⟨syntaxBroken "unexpected end of raw block", tagLine⟩]
          | some (raw, before, after, rest) =>
            let shown := if start = .remove then raw.dropWhile Text.isBlank else raw
            let shown := if before = .remove then Text.trimEnd shown else shown
            ⟨.text (.ofList shown), tagLine⟩ ::
              scan fuel .text after (line + lines kept - lines rest) rest
  | fuel + 1, .inside tag depth, _, line, cs =>
    let rest := cs.dropWhile isSpace
    let line := line + (lines cs - lines rest)
    match if depth = 0 then tag.end? rest else none with
    | some (trim, after) => ⟨tag.closing, line⟩ :: scan fuel .text trim line after
    | none =>
      if rest.isEmpty then [] else
      match token rest with
      | (.broken kind detail, _) => [⟨.broken kind detail, line⟩]
      | (t, after) => ⟨t, line⟩ ::
          scan fuel (.inside tag (depth + depthChange t)) .keep (line + (lines rest - lines after))
            after

end Lexer

/-- The tokens of a template. Every step of the scan but the last takes at least one character. -/
def tokens (template : List Char) : List Located :=
  Lexer.scan (template.length + 1) .text .keep 1 template

end PreviewEnv.Template
