import PreviewEnv.Proofs.Template.Literals

namespace PreviewEnv.Template

/-- A piece of an action: a literal by its quote and by what stands between its quotes, or a
character outside the literals. -/
inductive Piece where
  | literal (quote : Char) (inside : List Char)
  | char (c : Char)

def Piece.text : Piece → List Char
  | .literal quote inside => quote :: (inside ++ [quote])
  | .char c => [c]

def textOf (pieces : List Piece) : List Char := pieces.flatMap Piece.text

/-- The pieces that the text is read as, from left to right. A quote that opens no literal is a
character like any other. -/
inductive Scan : List Char → List Piece → Prop
  | nil : Scan [] []
  | literal {quote : Char} {inside rest : List Char} {pieces : List Piece} :
      isQuote quote = true → Quoted quote inside → Scan rest pieces →
      Scan (quote :: (inside ++ quote :: rest)) (.literal quote inside :: pieces)
  | char {c : Char} {rest : List Char} {pieces : List Piece} :
      ¬OpensLiteral c rest → Scan rest pieces → Scan (c :: rest) (.char c :: pieces)

/-- The pieces without the leading dots among the characters outside literals. -/
def undotted (before : Option Char) : List Piece → List Piece
  | [] => []
  | .literal quote inside :: pieces => .literal quote inside :: undotted (some quote) pieces
  | .char c :: pieces =>
    if isLeadingDot before (c :: textOf pieces) then undotted (some c) pieces
    else .char c :: undotted (some c) pieces

variable {quote c d : Char} {cs ds es inside rest : List Char} {before before' : Option Char}
  {pieces : List Piece}

@[simp] theorem textOf_nil : textOf [] = [] := rfl

@[simp] theorem textOf_literal :
    textOf (.literal quote inside :: pieces) = quote :: (inside ++ quote :: textOf pieces) := by
  simp [textOf, Piece.text]

@[simp] theorem textOf_char : textOf (.char c :: pieces) = c :: textOf pieces := rfl

theorem Scan.textOf_eq (h : Scan cs pieces) : textOf pieces = cs := by
  induction h with
  | nil => rfl
  | literal _ _ _ ih => rw [textOf_literal, ih]
  | char _ _ ih => rw [textOf_char, ih]

/-- Every text is read to its end. -/
theorem exists_scan (cs : List Char) : ∃ pieces, Scan cs pieces := by
  induction hn : cs.length using Nat.strongRecOn generalizing cs with
  | ind n ih =>
    cases cs with
    | nil => exact ⟨[], .nil⟩
    | cons c rest =>
      by_cases hopens : OpensLiteral c rest
      · obtain ⟨hquote, inside, after, hinside, rfl⟩ := hopens
        obtain ⟨pieces, hpieces⟩ := ih after.length (by simp at hn; omega) after rfl
        exact ⟨.literal c inside :: pieces, .literal hquote hinside hpieces⟩
      · obtain ⟨pieces, hpieces⟩ := ih rest.length (by simp at hn; omega) rest rfl
        exact ⟨.char c :: pieces, .char hopens hpieces⟩

theorem stripFrom_of_scan (h : Scan cs pieces) :
    stripFrom before cs = textOf (undotted before pieces) := by
  induction h generalizing before with
  | nil => simp [stripFrom, isLeadingDot, stripAfter, undotted]
  | @literal quote inside rest pieces hquote hinside _ ih =>
    have hafter : stripAfter rest = stripFrom (some quote) rest :=
      (stripFrom_of_not_isLead (isLead_eq_false_of_isQuote hquote)).symm
    rw [stripFrom_of_ne_dot (ne_dot_of_isQuote hquote), stripAfter_literal hquote hinside, hafter,
      ih, undotted, textOf_literal]
  | @char c rest pieces hopens hscan ih =>
    rw [undotted, hscan.textOf_eq, stripFrom]
    by_cases hdot : isLeadingDot before (c :: rest) = true
    · -- The dot goes, and none follows it at once.
      obtain ⟨-, rfl, -⟩ := isLeadingDot_cons_iff.1 hdot
      have hafter : stripAfter rest = stripFrom (some '.') rest :=
        (stripFrom_of_not_isLead (by decide)).symm
      rw [if_pos hdot, if_pos hdot, List.tail_cons, hafter, ih]
    · rw [if_neg hdot, if_neg hdot, stripAfter_char hopens, ih, textOf_char]

/-- **What stripping leaves of an action.** -/
theorem stripBody_of_scan (h : Scan cs pieces) : stripBody cs = textOf (undotted none pieces) := by
  rw [stripBody_eq_stripFrom, stripFrom_of_scan h]

/-- The second text is the first without some of its leading dots. -/
inductive FewerDots : Option Char → List Char → List Char → Prop
  | nil {before : Option Char} : FewerDots before [] []
  | keep {before : Option Char} {c : Char} {cs ds : List Char} :
      FewerDots (some c) cs ds → FewerDots before (c :: cs) (c :: ds)
  | drop {before : Option Char} {cs ds : List Char} : isLeadingDot before ('.' :: cs) = true →
      FewerDots (some '.') cs ds → FewerDots before ('.' :: cs) ds

theorem FewerDots.refl : FewerDots before cs cs := by
  induction cs generalizing before with
  | nil => exact .nil
  | cons c cs ih => exact .keep ih

theorem FewerDots.keep_through (h : FewerDots (some c) cs ds) :
    FewerDots before (es ++ c :: cs) (es ++ c :: ds) := by
  induction es generalizing before with
  | nil => exact .keep h
  | cons e es ih => exact .keep ih

theorem FewerDots.sublist (h : FewerDots before cs ds) : ds.Sublist cs := by
  induction h with
  | nil => exact .refl _
  | keep _ ih => exact ih.cons_cons _
  | drop _ _ ih => exact ih.cons _

theorem FewerDots.append (h : FewerDots before cs ds) :
    FewerDots before (cs ++ es) (ds ++ es) := by
  induction h with
  | nil => exact .refl
  | keep _ ih => exact .keep ih
  | @drop before cs ds hdot _ ih =>
    obtain ⟨hlead, -, d, hhead, hd⟩ := isLeadingDot_cons_iff.1 hdot
    have hhead' : (cs ++ es).head? = some d := by rw [List.head?_append, hhead, Option.some_or]
    exact .drop (isLeadingDot_cons_iff.2 ⟨hlead, rfl, d, hhead', hd⟩) ih

theorem fewerDots_undotted (before : Option Char) (pieces : List Piece) :
    FewerDots before (textOf pieces) (textOf (undotted before pieces)) := by
  induction pieces generalizing before with
  | nil => exact .nil
  | cons piece pieces ih =>
    cases piece with
    | literal quote inside =>
      rw [undotted, textOf_literal, textOf_literal]
      exact .keep (.keep_through (ih _))
    | char c =>
      rw [undotted, textOf_char]
      by_cases hdot : isLeadingDot before (c :: textOf pieces) = true
      · obtain ⟨-, rfl, -⟩ := isLeadingDot_cons_iff.1 hdot
        rw [if_pos hdot]
        exact .drop hdot (ih _)
      · rw [if_neg hdot, textOf_char]
        exact .keep (ih _)

/-- A text begins as before, or with what has followed its first dot. -/
theorem FewerDots.head? (h : FewerDots before cs ds) :
    ds.head? = cs.head? ∨
      isLeadingDot before cs = true ∧ ∃ d, ds.head? = some d ∧ isHead d = true := by
  cases h with
  | nil => exact .inl rfl
  | keep => exact .inl rfl
  | drop hdot h =>
    obtain ⟨-, -, d, hhead, hd⟩ := isLeadingDot_cons_iff.1 hdot
    cases h with
    | nil => cases hhead
    | keep => exact .inr ⟨hdot, d, hhead, hd⟩
    | drop hdot' => cases (isLeadingDot_of_not_isLead (by decide)).symm.trans hdot'

/-- A literal ends in the shorter text when it ends in the longer one, because none of the missing
dots follows a backslash. The second part is for a backslash that stands before both. -/
theorem FewerDots.isSome_literal? (hquote : isQuote quote = true) (h : FewerDots before cs ds) :
    (literal? quote ds).isSome = (literal? quote cs).isSome ∧
      (before = some '\\' →
        (literal? quote ('\\' :: ds)).isSome = (literal? quote ('\\' :: cs)).isSome) := by
  induction h with
  | nil => exact ⟨rfl, fun _ => rfl⟩
  | @keep before c cs ds _ ih =>
    constructor
    · by_cases hescape : c = '\\'
      · subst hescape
        exact ih.2 rfl
      · by_cases hc : c = quote
        · subst hc
          rw [literal?_quote hescape, literal?_quote hescape]
          rfl
        · rw [literal?_cons_of_ne hc hescape, literal?_cons_of_ne hc hescape, Option.isSome_map,
            Option.isSome_map, ih.1]
    · intro _
      by_cases hc : c = '\n'
      · subst hc
        rfl
      · rw [literal?_escaped hc, literal?_escaped hc, Option.isSome_map, Option.isSome_map, ih.1]
  | drop hdot _ ih =>
    constructor
    · have hne : '.' ≠ quote := (ne_dot_of_isQuote hquote).symm
      rw [literal?_cons_of_ne hne (by decide), Option.isSome_map, ih.1]
    · rintro rfl
      cases (isLeadingDot_of_not_isLead (by decide)).symm.trans hdot

theorem FewerDots.opensLiteral_iff (h : FewerDots before cs ds) :
    OpensLiteral c ds ↔ OpensLiteral c cs := by
  by_cases hquote : isQuote c = true
  · rw [Template.opensLiteral_iff hquote, Template.opensLiteral_iff hquote,
      (h.isSome_literal? hquote).1]
  · constructor <;> exact fun hopens => absurd hopens.1 hquote

/-- **Stripping moves no literal.** What is left of the text is read as what is left of its
pieces. -/
theorem scan_undotted (h : Scan cs pieces) :
    Scan (textOf (undotted before pieces)) (undotted before pieces) := by
  induction h generalizing before with
  | nil => exact .nil
  | literal hquote hinside _ ih =>
    rw [undotted, textOf_literal]
    exact .literal hquote hinside ih
  | @char c rest pieces hopens hscan ih =>
    rw [undotted]
    by_cases hdot : isLeadingDot before (c :: textOf pieces) = true
    · rw [if_pos hdot]
      exact ih
    · have hfewer : FewerDots (some c) rest (textOf (undotted (some c) pieces)) := by
        rw [← hscan.textOf_eq]
        exact fewerDots_undotted (some c) pieces
      rw [if_neg hdot, textOf_char]
      exact .char (fun hopens' => hopens (hfewer.opensLiteral_iff.1 hopens')) ih

/-- A character that does not follow a lead is followed by what it has been followed by. -/
theorem head?_undotted (hc : isLead c = false) :
    (textOf (undotted (some c) pieces)).head? = (textOf pieces).head? := by
  rcases (fewerDots_undotted (some c) pieces).head? with hhead | ⟨hdot, -⟩
  · exact hhead
  · rw [isLeadingDot_of_not_isLead hc] at hdot
    cases hdot

/-- What comes before matters to a dot at the beginning only. -/
theorem undotted_of_head (hd : (textOf pieces).head? = some d) (hne : d ≠ '.') :
    undotted before pieces = undotted before' pieces := by
  cases pieces with
  | nil => rfl
  | cons piece pieces =>
    cases piece with
    | literal => rfl
    | char c =>
      obtain rfl : c = d := Option.some.inj hd
      rw [undotted, undotted, isLeadingDot_cons_of_ne hne, isLeadingDot_cons_of_ne hne]

/-- **No leading dot is left**, nor has any come about. -/
theorem undotted_undotted : undotted before (undotted before pieces) = undotted before pieces := by
  induction pieces generalizing before with
  | nil => rfl
  | cons piece pieces ih =>
    cases piece with
    | literal quote inside => rw [undotted, undotted, ih]
    | char c =>
      by_cases hdot : isLeadingDot before (c :: textOf pieces) = true
      · -- What has followed the dot comes first now, and is not a dot itself.
        obtain ⟨-, rfl, d, hhead, hd⟩ := isLeadingDot_cons_iff.1 hdot
        rw [← head?_undotted (c := '.') (by decide)] at hhead
        have hne : d ≠ '.' := by
          rintro rfl
          exact absurd hd (by decide)
        rw [undotted, if_pos hdot, undotted_of_head hhead hne, ih]
      · have hdot' : ¬isLeadingDot before (c :: textOf (undotted (some c) pieces)) = true := by
          intro hleading
          obtain ⟨hlead, rfl, d, hhead, hd⟩ := isLeadingDot_cons_iff.1 hleading
          rw [head?_undotted (by decide)] at hhead
          exact hdot (isLeadingDot_cons_iff.2 ⟨hlead, rfl, d, hhead, hd⟩)
        rw [undotted, if_neg hdot, undotted, if_neg hdot', ih]

end PreviewEnv.Template
