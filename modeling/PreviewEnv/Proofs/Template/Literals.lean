import PreviewEnv.Template.Dots

namespace PreviewEnv.Template

/-- What may stand between two quotes of a literal: neither such a quote nor a backslash, but for a
backslash that takes the next character with it, which is not the end of a line. -/
inductive Quoted (quote : Char) : List Char → Prop
  | nil : Quoted quote []
  | plain {c : Char} {inside : List Char} : c ≠ quote → c ≠ '\\' → Quoted quote inside →
      Quoted quote (c :: inside)
  | escaped {c : Char} {inside : List Char} : c ≠ '\n' → Quoted quote inside →
      Quoted quote ('\\' :: c :: inside)

/-- The character is a quote, and the text after it goes on to the end of the literal. -/
def OpensLiteral (c : Char) (rest : List Char) : Prop :=
  isQuote c = true ∧ ∃ inside after, Quoted c inside ∧ rest = inside ++ c :: after

variable {quote c d : Char} {cs ds es inside after rest : List Char} {before : Option Char}

theorem isQuote_iff : isQuote c = true ↔ c = '"' ∨ c = '\'' := by
  simp [isQuote]

theorem ne_backslash_of_isQuote (h : isQuote c = true) : c ≠ '\\' := by
  rintro rfl
  exact absurd h (by decide)

theorem ne_dot_of_isQuote (h : isQuote c = true) : c ≠ '.' := by
  rintro rfl
  exact absurd h (by decide)

theorem literal?_cons_of_ne (hquote : c ≠ quote) (hescape : c ≠ '\\') :
    literal? quote (c :: rest) = (literal? quote rest).map fun (l, after) => (c :: l, after) := by
  rw [literal?, if_neg hquote]
  · exact fun _ _ h => absurd h hescape
  · exact fun h => absurd h hescape

theorem literal?_quote (hescape : quote ≠ '\\') :
    literal? quote (quote :: rest) = some ([quote], rest) := by
  rw [literal?, if_pos rfl]
  · exact fun _ _ h => absurd h hescape
  · exact fun h => absurd h hescape

theorem literal?_escaped (hc : c ≠ '\n') :
    literal? quote ('\\' :: c :: rest) =
      (literal? quote rest).map fun (l, after) => ('\\' :: c :: l, after) := by
  rw [literal?, if_neg hc]

theorem literal?_of_quoted (hquote : quote ≠ '\\') (h : Quoted quote inside) :
    literal? quote (inside ++ quote :: after) = some (inside ++ [quote], after) := by
  induction h with
  | nil => exact literal?_quote hquote
  | plain hc hescape _ ih =>
    rw [List.cons_append, literal?_cons_of_ne hc hescape, ih]
    rfl
  | escaped hc _ ih =>
    rw [List.cons_append, List.cons_append, literal?_escaped hc, ih]
    rfl

theorem quoted_of_literal? {l : List Char} (h : literal? quote cs = some (l, after)) :
    ∃ inside, Quoted quote inside ∧ l = inside ++ [quote] ∧ cs = inside ++ quote :: after := by
  fun_induction literal? quote cs generalizing l after with
  | case1 => cases h
  | case2 => cases h
  | case3 c rest hc ih =>
    obtain ⟨⟨l', after'⟩, hl', heq⟩ := Option.map_eq_some_iff.1 h
    cases heq
    obtain ⟨inside, hinside, rfl, rfl⟩ := ih hl'
    exact ⟨'\\' :: c :: inside, .escaped hc hinside, rfl, rfl⟩
  | case4 => cases h
  | case5 rest _ _ =>
    cases h
    exact ⟨[], .nil, rfl, rfl⟩
  | case6 c rest hbare _ hc ih =>
    obtain ⟨⟨l', after'⟩, hl', heq⟩ := Option.map_eq_some_iff.1 h
    cases heq
    obtain ⟨inside, hinside, rfl, rfl⟩ := ih hl'
    have hescape : c ≠ '\\' := by
      rintro rfl
      cases inside with
      | nil => exact hbare quote after rfl rfl
      | cons d inside => exact hbare d _ rfl rfl
    exact ⟨c :: inside, .plain hc hescape hinside, rfl, rfl⟩

/-- A quote opens a literal exactly when the end of one is found. -/
theorem opensLiteral_iff (hc : isQuote c = true) :
    OpensLiteral c rest ↔ (literal? c rest).isSome = true := by
  constructor
  · rintro ⟨-, inside, after, hinside, rfl⟩
    rw [literal?_of_quoted (ne_backslash_of_isQuote hc) hinside]
    rfl
  · intro h
    obtain ⟨⟨l, after⟩, hl⟩ := Option.isSome_iff_exists.1 h
    obtain ⟨inside, hinside, -, rfl⟩ := quoted_of_literal? hl
    exact ⟨hc, inside, after, hinside, rfl⟩

/-- Whether a leading dot comes first, after the given character or at the beginning of the
action. -/
def isLeadingDot (before : Option Char) : List Char → Bool
  | '.' :: d :: _ => before.all isLead && isHead d
  | _ => false

theorem isLeadingDot_iff :
    isLeadingDot before cs = true ↔
      (∀ c ∈ before, isLead c = true) ∧ ∃ d rest, cs = '.' :: d :: rest ∧ isHead d = true := by
  fun_cases isLeadingDot before cs with
  | case1 d rest => cases before <;> simp
  | case2 cs hcs =>
    simp only [Bool.false_eq_true, false_iff, not_and, not_exists]
    rintro - d rest rfl
    exact absurd rfl (hcs d rest)

theorem isLeadingDot_cons_iff :
    isLeadingDot before (c :: rest) = true ↔
      (∀ b ∈ before, isLead b = true) ∧ c = '.' ∧ ∃ d, rest.head? = some d ∧ isHead d = true := by
  rw [isLeadingDot_iff]
  constructor
  · rintro ⟨hlead, d, more, heq, hd⟩
    obtain ⟨rfl, rfl⟩ := List.cons.inj heq
    exact ⟨hlead, rfl, d, rfl, hd⟩
  · rintro ⟨hlead, rfl, d, hhead, hd⟩
    obtain ⟨more, rfl⟩ := List.head?_eq_some_iff.1 hhead
    exact ⟨hlead, d, more, rfl, hd⟩

theorem isLeadingDot_cons_of_ne (hc : c ≠ '.') : isLeadingDot before (c :: rest) = false := by
  rw [Bool.eq_false_iff, ne_eq, isLeadingDot_cons_iff]
  rintro ⟨-, heq, -⟩
  exact hc heq

theorem isLeadingDot_of_not_isLead (hc : isLead c = false) :
    isLeadingDot (some c) cs = false := by
  rw [Bool.eq_false_iff, ne_eq, isLeadingDot_iff]
  rintro ⟨hlead, -⟩
  exact absurd (hlead c rfl) (by simp [hc])

theorem isLead_eq_false_of_isQuote (h : isQuote c = true) : isLead c = false := by
  obtain rfl | rfl := isQuote_iff.1 h <;> decide

/-- Neither blanks nor the other leads lie among the letters, the digits and the underscore. -/
theorem isLead_eq_false_of_toNat (h : 48 ≤ c.toNat ∧ c.toNat ≤ 122) : isLead c = false := by
  rw [Bool.eq_false_iff]
  intro hlead
  simp only [isLead, Bool.or_eq_true, decide_eq_true_eq] at hlead
  rcases hlead with ((hblank | rfl) | rfl) | rfl
  · simp only [Text.isBlank, Bool.or_eq_true, Bool.and_eq_true, decide_eq_true_eq,
      beq_iff_eq] at hblank
    omega
  all_goals exact absurd h (by decide)

theorem isQuote_eq_false_of_toNat (h : 48 ≤ c.toNat ∧ c.toNat ≤ 122) : isQuote c = false := by
  rw [Bool.eq_false_iff]
  intro hquote
  obtain rfl | rfl := isQuote_iff.1 hquote <;> exact absurd h (by decide)

theorem toNat_of_isHead (h : isHead c = true) : 48 ≤ c.toNat ∧ c.toNat ≤ 122 := by
  simp only [isHead, Bool.or_eq_true, Bool.and_eq_true, decide_eq_true_eq, Char.le_def,
    UInt32.le_iff_toNat_le] at h
  rcases h with (⟨hlow, hhigh⟩ | ⟨hlow, hhigh⟩) | rfl
  · exact ⟨Nat.le_trans (by decide) hlow, hhigh⟩
  · exact ⟨Nat.le_trans (by decide) hlow, Nat.le_trans hhigh (by decide)⟩
  · decide

/-- The text of an action from some point on without its leading dots, of which the first may come
at once. -/
def stripFrom (before : Option Char) (cs : List Char) : List Char :=
  if isLeadingDot before cs then stripAfter cs.tail else stripAfter cs

theorem stripFrom_of_not_isLead (hc : isLead c = false) :
    stripFrom (some c) cs = stripAfter cs := by
  rw [stripFrom, isLeadingDot_of_not_isLead hc]
  rfl

theorem stripFrom_of_ne_dot (hc : c ≠ '.') :
    stripFrom before (c :: rest) = stripAfter (c :: rest) := by
  rw [stripFrom, isLeadingDot_cons_of_ne hc]
  rfl

/-- A literal is left as it is. -/
theorem stripAfter_literal (hquote : isQuote quote = true) (h : Quoted quote inside) :
    stripAfter (quote :: (inside ++ quote :: after)) =
      quote :: (inside ++ quote :: stripAfter after) := by
  have hl : literal? quote (inside ++ quote :: after) = some (inside ++ [quote], after) :=
    literal?_of_quoted (ne_backslash_of_isQuote hquote) h
  rw [stripAfter.eq_def]
  simp only [hquote, if_true]
  split
  next l after' hl' =>
    cases hl.symm.trans hl'
    simp
  next hnone => cases hl.symm.trans hnone

/-- A quote that opens no literal is a character like any other. -/
theorem stripAfter_of_isQuote (hquote : isQuote c = true) (h : ¬OpensLiteral c rest) :
    stripAfter (c :: rest) = c :: stripAfter rest := by
  rw [opensLiteral_iff hquote] at h
  rw [stripAfter.eq_def]
  simp only [hquote, if_true]
  split
  next l after hl => exact absurd (by rw [hl]; rfl) h
  next => rfl

theorem stripAfter_of_not_isLead (hquote : isQuote c = false) (hlead : isLead c = false) :
    stripAfter (c :: rest) = c :: stripAfter rest := by
  rw [stripAfter.eq_def]
  simp only [hquote, hlead, Bool.false_and, Bool.false_eq_true, if_false]
  split <;> rfl

theorem stripAfter_of_isHead (h : isHead c = true) :
    stripAfter (c :: rest) = c :: stripAfter rest :=
  stripAfter_of_not_isLead (isQuote_eq_false_of_toNat (toNat_of_isHead h))
    (isLead_eq_false_of_toNat (toNat_of_isHead h))

theorem stripAfter_char (h : ¬OpensLiteral c rest) :
    stripAfter (c :: rest) = c :: stripFrom (some c) rest := by
  cases hquote : isQuote c with
  | true =>
    rw [stripAfter_of_isQuote hquote h, stripFrom_of_not_isLead (isLead_eq_false_of_isQuote hquote)]
  | false =>
    rw [stripAfter.eq_def, stripFrom]
    simp only [hquote, Bool.false_eq_true, if_false]
    split
    next d more =>
      -- The character after the dot is stripped together with it, and is left as it is.
      by_cases hdot : (isLead c && isHead d) = true
      · have hd : isHead d = true := (Bool.and_eq_true_iff.1 hdot).2
        have hleading : isLeadingDot (some c) ('.' :: d :: more) = true := hdot
        rw [if_pos hdot, if_pos hleading, List.tail_cons, stripAfter_of_isHead hd]
      · have hleading : ¬isLeadingDot (some c) ('.' :: d :: more) = true := hdot
        rw [if_neg hdot, if_neg hleading]
    next hrest =>
      rw [if_neg]
      rw [isLeadingDot_iff]
      rintro ⟨-, d, more, rfl, -⟩
      exact hrest d more rfl

theorem stripBody_eq_stripFrom : stripBody cs = stripFrom none cs := by
  fun_cases stripBody cs with
  | case1 d rest hd =>
    have hdot : isLeadingDot none ('.' :: d :: rest) = true := hd
    rw [stripFrom, if_pos hdot, List.tail_cons, stripAfter_of_isHead hd]
  | case2 d rest hd =>
    have hdot : ¬isLeadingDot none ('.' :: d :: rest) = true := hd
    rw [stripFrom, if_neg hdot]
  | case3 cs hcs =>
    rw [stripFrom, if_neg]
    rw [isLeadingDot_iff]
    rintro ⟨-, d, rest, rfl, -⟩
    exact hcs d rest rfl

end PreviewEnv.Template
