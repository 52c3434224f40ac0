import PreviewEnv.Text.Blank

/-!
Leading dots of paths. A template may write a path with a dot in front (`.Spec.Number`), which the
template language does not know, so the dots are taken out of its actions before it is read. An
action goes from the first `{{` to the first `}}` after it. A dot is dropped where a letter or an
underscore follows, at the beginning of an action or after a blank, `(`, `|` or `,`, but not within
a string literal.
-/

namespace PreviewEnv.Template

/-- A character outside the actions of a template, or an action by what stands between its
braces. -/
inductive Segment where
  | char (c : Char)
  | action (body : List Char)
deriving DecidableEq, Repr

/-- What stands before the first `}}`, and what follows it. -/
def closeAction? : List Char → Option (List Char × List Char)
  | [] => none
  | '\x7d' :: '\x7d' :: rest => some ([], rest)
  | c :: rest => (closeAction? rest).map fun (body, after) => (c :: body, after)

theorem length_of_closeAction? {cs body after : List Char}
    (h : closeAction? cs = some (body, after)) : body.length + after.length + 2 = cs.length := by
  fun_induction closeAction? cs generalizing body after with
  | case1 => simp at h
  | case2 rest => simp only [Option.some.injEq, Prod.mk.injEq] at h; simp [← h.1, ← h.2]
  | case3 c rest _ ih =>
    obtain ⟨⟨b, a⟩, hb, he⟩ := Option.map_eq_some_iff.1 h
    simp only [Prod.mk.injEq] at he
    have := ih hb
    simp only [← he.1, ← he.2, List.length_cons]
    omega

/-- The template cut into its actions and the characters outside them. -/
def split : List Char → List Segment
  | '\x7b' :: '\x7b' :: rest =>
    match _h : closeAction? rest with
    | some (body, after) => .action body :: split after
    | none => .char '\x7b' :: .char '\x7b' :: rest.map .char
  | c :: rest => .char c :: split rest
  | [] => []
termination_by cs => cs.length
decreasing_by
  · have := length_of_closeAction? _h
    simp only [List.length_cons]
    omega
  · simp

def Segment.text : Segment → List Char
  | .char c => [c]
  | .action body => '\x7b' :: '\x7b' :: body ++ ['\x7d', '\x7d']

def join (segments : List Segment) : List Char := segments.flatMap Segment.text

/-- A string literal after its opening quote, closing quote included, and what follows it. A
backslash takes the next character with it, unless that is the end of a line. -/
def literal? (quote : Char) : List Char → Option (List Char × List Char)
  | [] => none
  | '\\' :: c :: rest =>
    if c = '\n' then none
    else (literal? quote rest).map fun (l, after) => ('\\' :: c :: l, after)
  | '\\' :: [] => none
  | c :: rest =>
    if c = quote then some ([c], rest)
    else (literal? quote rest).map fun (l, after) => (c :: l, after)

theorem length_of_literal? {quote : Char} {cs l after : List Char}
    (h : literal? quote cs = some (l, after)) : l.length + after.length = cs.length := by
  fun_induction literal? quote cs generalizing l after with
  | case1 => simp at h
  | case2 => simp at h
  | case3 c rest hc ih =>
    obtain ⟨⟨b, a⟩, hb, he⟩ := Option.map_eq_some_iff.1 h
    simp only [Prod.mk.injEq] at he
    have := ih hb
    simp only [← he.1, ← he.2, List.length_cons]
    omega
  | case4 => simp at h
  | case5 rest _ _ =>
    simp only [Option.some.injEq, Prod.mk.injEq] at h
    simp only [← h.1, ← h.2, List.length_cons, List.length_nil]
    omega
  | case6 c rest _ _ hc ih =>
    obtain ⟨⟨b, a⟩, hb, he⟩ := Option.map_eq_some_iff.1 h
    simp only [Prod.mk.injEq] at he
    have := ih hb
    simp only [← he.1, ← he.2, List.length_cons]
    omega

/-- A character after which a path may begin. -/
def isLead (c : Char) : Bool := Text.isBlank c || c = '(' || c = '|' || c = ','

/-- A character with which a path may begin. -/
def isHead (c : Char) : Bool :=
  ('a' ≤ c && c ≤ 'z') || ('A' ≤ c && c ≤ 'Z') || c = '_'

def isQuote (c : Char) : Bool := c = '\x22' || c = '\''

/-- The text of an action from some point on, without its leading dots. -/
def stripAfter : List Char → List Char
  | [] => []
  | c :: rest =>
    if isQuote c then
      match _h : literal? c rest with
      | some (l, after) => c :: l ++ stripAfter after
      | none => c :: stripAfter rest
    else match rest with
      | '.' :: d :: more => if isLead c && isHead d then c :: d :: stripAfter more
          else c :: stripAfter ('.' :: d :: more)
      | rest => c :: stripAfter rest
termination_by cs => cs.length
decreasing_by
  · have := length_of_literal? _h
    simp only [List.length_cons]
    omega
  all_goals simp only [List.length_cons]; omega

/-- The text of an action without its leading dots. -/
def stripBody : List Char → List Char
  | '.' :: d :: rest => if isHead d then d :: stripAfter rest else stripAfter ('.' :: d :: rest)
  | cs => stripAfter cs

def Segment.strip : Segment → Segment
  | .char c => .char c
  | .action body => .action (stripBody body)

/-- The template without the leading dots of its actions. -/
def stripLeadingDots (template : List Char) : List Char :=
  join ((split template).map Segment.strip)

/-- Whether the text holds anything that the template language would interpret. -/
def isTemplate : List Char → Bool
  | [] => false
  | c :: rest => (c = '\x7b' && opensTag rest.head?) || isTemplate rest
where
  /-- Whether a brace before the character opens a tag. -/
  opensTag (next : Option Char) : Bool := next = some '\x7b' || next = some '%' || next = some '#'

end PreviewEnv.Template
