import PreviewEnv.Proofs.Template.Actions
import PreviewEnv.Template.Lexer

/-!
An action that puts literals and paths together should lose the dots before its
paths, and nothing within its literals. But an action ends at the first two
closing braces in succession, also where a literal holds them.
-/

namespace PreviewEnv.Template

/-- A letter or an underscore, and the letters, digits and underscores after it. -/
structure Identifier where
  first : Char
  rest : List Char
  isHead_first : isHead first = true
  isNameChar_rest : ∀ c ∈ rest, Lexer.isNameChar c = true

/-- The characters of the identifier. -/
def Identifier.text (name : Identifier) : List Char := name.first :: name.rest

/-- A literal by its quote and by what stands between its quotes, or a path by its identifiers. -/
inductive Operand where
  | literal (quote : Char) (inside : List Char) (isQuote_quote : isQuote quote = true)
      (quoted_inside : Quoted quote inside)
  | path (first : Identifier) (others : List Identifier)

/-- The operand without the dot before a path. -/
def Operand.bare : Operand → List Char
  | .literal quote inside _ _ => quote :: (inside ++ [quote])
  | .path first others => first.text ++ others.flatMap fun name => '.' :: name.text

/-- The operand, with a dot before each identifier of a path. -/
def Operand.text : Operand → List Char
  | .literal quote inside _ _ => quote :: (inside ++ [quote])
  | .path first others => '.' :: (first.text ++ others.flatMap fun name => '.' :: name.text)

/-- What stands between two operands. -/
def tilde : List Char := [' ', '~', ' ']

/-- The action that puts the operands together. -/
def concatenation (operands : List (List Char)) : List Char :=
  '\x7b' :: '\x7b' :: ' ' :: (tilde.intercalate operands ++ [' ', '\x7d', '\x7d'])

/-- The operands with what stands after each of them, when others follow. -/
def opening (operands : List (List Char)) : List Char := operands.flatMap (· ++ tilde)

/-- The rest of an action with these operands still to come. -/
def remainder (operands : List (List Char)) : List Char :=
  operands.flatMap (tilde ++ ·) ++ [' ', '\x7d', '\x7d']

variable {c : Char} {cs ds body after rest front back text : List Char}
  {texts before' after' : List (List Char)} {operand : Operand} {operands : List Operand}

@[simp] theorem opening_cons : opening (text :: texts) = text ++ (tilde ++ opening texts) := by
  simp [opening]

@[simp] theorem remainder_nil : remainder [] = [' ', '\x7d', '\x7d'] := rfl

@[simp] theorem remainder_cons :
    remainder (text :: texts) = tilde ++ (text ++ remainder texts) := by
  simp [remainder]

theorem intercalate_cons_eq :
    tilde.intercalate (text :: texts) ++ [' ', '\x7d', '\x7d'] = text ++ remainder texts := by
  induction texts generalizing text with
  | nil => simp
  | cons next texts ih =>
    rw [List.intercalate_cons_cons, List.append_assoc, List.append_assoc, ih, remainder_cons]

theorem intercalate_append :
    tilde.intercalate (before' ++ text :: after') ++ [' ', '\x7d', '\x7d'] =
      opening before' ++ (text ++ remainder after') := by
  induction before' with
  | nil => exact intercalate_cons_eq
  | cons operand before' ih =>
    have hne : before' ++ text :: after' ≠ [] := by simp
    rw [List.cons_append, List.intercalate_cons_of_ne_nil hne, List.append_assoc,
      List.append_assoc, ih, opening_cons, List.append_assoc, List.append_assoc]

/-- An action, cut at one of its operands. -/
theorem concatenation_at :
    concatenation (before' ++ text :: after') =
      '\x7b' :: '\x7b' :: ' ' :: (opening before' ++ (text ++ remainder after')) := by
  rw [concatenation, intercalate_append]

/-- The character neither leads a path nor ends an action, and is no quote. -/
structure Plain (c : Char) : Prop where
  isLead_eq : isLead c = false
  isQuote_eq : isQuote c = false
  ne_brace : c ≠ '\x7d'

theorem plain_dot : Plain '.' := ⟨by decide, by decide, by decide⟩

theorem plain_of_toNat (h : 48 ≤ c.toNat ∧ c.toNat ≤ 122) : Plain c where
  isLead_eq := isLead_eq_false_of_toNat h
  isQuote_eq := isQuote_eq_false_of_toNat h
  ne_brace := by
    rintro rfl
    exact absurd h (by decide)

theorem toNat_of_isNameChar (h : Lexer.isNameChar c = true) : 48 ≤ c.toNat ∧ c.toNat ≤ 122 := by
  change (decide ('A' ≤ c ∧ c ≤ 'Z') || ('a' ≤ c && c ≤ 'z') || ('0' ≤ c && c ≤ '9') ||
    c = '_') = true at h
  simp only [Bool.or_eq_true, Bool.and_eq_true, decide_eq_true_eq, Char.le_def,
    UInt32.le_iff_toNat_le] at h
  rcases h with ((⟨hlow, hhigh⟩ | ⟨hlow, hhigh⟩) | ⟨hlow, hhigh⟩) | rfl
  · exact ⟨Nat.le_trans (by decide) hlow, Nat.le_trans hhigh (by decide)⟩
  · exact ⟨Nat.le_trans (by decide) hlow, hhigh⟩
  · exact ⟨hlow, Nat.le_trans hhigh (by decide)⟩
  · decide

theorem Identifier.plain (name : Identifier) : ∀ c ∈ name.text, Plain c := by
  intro c hc
  rcases List.mem_cons.1 hc with rfl | hc
  · exact plain_of_toNat (toNat_of_isHead name.isHead_first)
  · exact plain_of_toNat (toNat_of_isNameChar (name.isNameChar_rest c hc))

theorem plain_path (first : Identifier) (others : List Identifier) :
    ∀ c ∈ first.text ++ others.flatMap fun name => '.' :: name.text, Plain c := by
  intro c hc
  rcases List.mem_append.1 hc with hc | hc
  · exact first.plain c hc
  · obtain ⟨name, -, hc⟩ := List.mem_flatMap.1 hc
    rcases List.mem_cons.1 hc with rfl | hc
    · exact plain_dot
    · exact name.plain c hc

theorem stripAfter_append (h : ∀ c ∈ cs, Plain c) :
    stripAfter (cs ++ rest) = cs ++ stripAfter rest := by
  induction cs with
  | nil => rfl
  | cons c cs ih =>
    obtain ⟨hc, hcs⟩ := List.forall_mem_cons.1 h
    rw [List.cons_append, stripAfter_of_not_isLead hc.isQuote_eq hc.isLead_eq, ih hcs,
      List.cons_append]

theorem neverTwice_of_plain (h : ∀ c ∈ cs, Plain c) : NeverTwice '\x7d' cs := by
  induction cs with
  | nil => exact neverTwice_nil
  | cons c cs ih =>
    obtain ⟨hc, hcs⟩ := List.forall_mem_cons.1 h
    exact (neverTwice_cons_of_ne hc.ne_brace).2 (ih hcs)

/-- An operand after a blank loses the dot before it when it is a path, and nothing when it is a
literal. -/
theorem stripFrom_operand :
    stripFrom (some ' ') (operand.text ++ rest) = operand.bare ++ stripAfter rest := by
  cases operand with
  | literal quote inside hquote hinside =>
    have htext : quote :: (inside ++ [quote]) ++ rest = quote :: (inside ++ quote :: rest) := by
      simp
    rw [Operand.text, Operand.bare, htext, stripFrom_of_ne_dot (ne_dot_of_isQuote hquote),
      stripAfter_literal hquote hinside]
    simp
  | path first others =>
    have hdot : isLeadingDot (some ' ') ((Operand.path first others).text ++ rest) = true :=
      isLeadingDot_iff.2 ⟨by simp [isLead, Text.isBlank], _, _, rfl, first.isHead_first⟩
    rw [stripFrom, if_pos hdot, Operand.bare]
    exact stripAfter_append (plain_path first others)

theorem stripAfter_blank : stripAfter (' ' :: rest) = ' ' :: stripFrom (some ' ') rest :=
  stripAfter_char fun h => absurd h.1 (by decide)

theorem stripAfter_tilde :
    stripAfter (tilde ++ rest) = tilde ++ stripFrom (some ' ') rest := by
  have hmiddle : stripAfter ('~' :: ' ' :: rest) = '~' :: stripAfter (' ' :: rest) :=
    stripAfter_of_not_isLead (by decide) (by decide)
  rw [tilde, List.cons_append, List.cons_append, List.cons_append, List.nil_append,
    stripAfter_blank, stripFrom_of_ne_dot (by decide), hmiddle, stripAfter_blank]
  rfl

theorem stripFrom_opening :
    stripFrom (some ' ') (opening (operands.map Operand.text) ++ rest) =
      opening (operands.map Operand.bare) ++ stripFrom (some ' ') rest := by
  induction operands with
  | nil => rfl
  | cons operand operands ih =>
    simp only [List.map_cons, opening_cons, List.append_assoc]
    rw [stripFrom_operand, stripAfter_tilde, ih]

theorem neverTwice_append_cons {d : Char} (hne : d ≠ c) :
    NeverTwice c (cs ++ d :: ds) ↔ NeverTwice c cs ∧ NeverTwice c ds := by
  induction cs with
  | nil =>
    rw [List.nil_append, neverTwice_cons_of_ne hne]
    exact (and_iff_right neverTwice_nil).symm
  | cons e cs ih =>
    have hhead : (cs ++ d :: ds).head? = some c ↔ cs.head? = some c := by
      cases cs with
      | nil => simp [hne]
      | cons => rfl
    rw [List.cons_append, neverTwice_cons, neverTwice_cons, ih, hhead, and_assoc]

theorem neverTwice_opening (h : ∀ o ∈ operands, NeverTwice '\x7d' o.text)
    (hrest : NeverTwice '\x7d' rest) :
    NeverTwice '\x7d' (opening (operands.map Operand.text) ++ rest) := by
  induction operands with
  | nil => exact hrest
  | cons operand operands ih =>
    obtain ⟨hoperand, hoperands⟩ := List.forall_mem_cons.1 h
    have htilde : NeverTwice '\x7d' ('~' :: ' ' :: (opening (operands.map Operand.text) ++ rest)) :=
      (neverTwice_cons_of_ne (by decide)).2 ((neverTwice_cons_of_ne (by decide)).2 (ih hoperands))
    simp only [List.map_cons, opening_cons, List.append_assoc]
    exact (neverTwice_append_cons (by decide)).2 ⟨hoperand, htilde⟩

theorem stripLeadingDots_action (after : List Char) (h : NeverTwice '\x7d' (body ++ ['\x7d'])) :
    stripLeadingDots ('\x7b' :: '\x7b' :: (body ++ '\x7d' :: '\x7d' :: after)) =
      '\x7b' :: '\x7b' :: (stripBody body ++ '\x7d' :: '\x7d' :: stripLeadingDots after) := by
  rw [stripLeadingDots, split_action h]
  exact join_action []

/-- Some operands without two closing braces in succession, and text before the first such braces:
the action ends there. -/
theorem stripLeadingDots_opening (after : List Char) (h : ∀ o ∈ operands, NeverTwice '\x7d' o.text)
    (hfront : NeverTwice '\x7d' (front ++ ['\x7d'])) :
    stripLeadingDots ('\x7b' :: '\x7b' :: ' ' ::
        (opening (operands.map Operand.text) ++ (front ++ '\x7d' :: '\x7d' :: after))) =
      '\x7b' :: '\x7b' :: ' ' :: (opening (operands.map Operand.bare) ++
        (stripFrom (some ' ') front ++ '\x7d' :: '\x7d' :: stripLeadingDots after)) := by
  have hbody : NeverTwice '\x7d'
      (' ' :: (opening (operands.map Operand.text) ++ front) ++ ['\x7d']) := by
    rw [List.cons_append, List.append_assoc]
    exact (neverTwice_cons_of_ne (by decide)).2 (neverTwice_opening h hfront)
  have hstrip : stripBody (' ' :: (opening (operands.map Operand.text) ++ front)) =
      ' ' :: (opening (operands.map Operand.bare) ++ stripFrom (some ' ') front) := by
    rw [stripBody_eq_stripFrom, stripFrom_of_ne_dot (by decide), stripAfter_blank,
      stripFrom_opening]
  have haction := stripLeadingDots_action after hbody
  rw [hstrip] at haction
  simpa only [List.cons_append, List.append_assoc] using haction

theorem stripAfter_last : stripAfter [' '] = [' '] := by
  simp [stripAfter, isQuote]

theorem stripLeadingDots_nil : stripLeadingDots [] = [] := by
  simp [stripLeadingDots, split, join]

/-- **Literals without two closing braces in succession are left as they are**, whatever else they
hold, and the dots before the paths go. -/
theorem stripLeadingDots_concatenation (h : ∀ o ∈ operands, NeverTwice '\x7d' o.text) :
    stripLeadingDots (concatenation (operands.map Operand.text)) =
      concatenation (operands.map Operand.bare) := by
  rcases List.eq_nil_or_concat' operands with rfl | ⟨before, operand, rfl⟩
  · have hblank : NeverTwice '\x7d' ([' '] ++ ['\x7d']) :=
      (neverTwice_cons_of_ne (by decide)).2 (.singleton _)
    have hend := stripLeadingDots_opening [] h hblank
    rw [stripFrom_of_ne_dot (by decide), stripAfter_last, stripLeadingDots_nil] at hend
    exact hend
  · have hbefore : ∀ o ∈ before, NeverTwice '\x7d' o.text :=
      fun o ho => h o (List.mem_append_left _ ho)
    have hfront : NeverTwice '\x7d' (operand.text ++ [' '] ++ ['\x7d']) := by
      rw [List.append_assoc, List.singleton_append, neverTwice_append_cons (by decide)]
      exact ⟨h operand (by simp), .singleton _⟩
    have hend := stripLeadingDots_opening [] hbefore hfront
    rw [stripFrom_operand, stripAfter_last, stripLeadingDots_nil, List.append_assoc,
      List.append_assoc] at hend
    rw [List.map_append, List.map_append, List.map_singleton, List.map_singleton,
      concatenation_at, concatenation_at]
    exact hend

/-- The action of the operands ends within one of them: it holds the first two closing braces in
succession, with the given text around them. -/
structure EndsWithin (operands before : List Operand) (front back : List Char)
    (after : List Operand) : Prop where
  within : ∃ o, operands = before ++ o :: after ∧ o.text = front ++ '\x7d' :: '\x7d' :: back
  earlier : ∀ o ∈ before, NeverTwice '\x7d' o.text
  first : NeverTwice '\x7d' (front ++ ['\x7d'])

theorem exists_endsWithin (h : ¬∀ o ∈ operands, NeverTwice '\x7d' o.text) :
    ∃ before front back after, EndsWithin operands before front back after := by
  induction operands with
  | nil => exact absurd (fun _ ho => nomatch ho) h
  | cons operand operands ih =>
    by_cases hoperand : NeverTwice '\x7d' operand.text
    · obtain ⟨before, front, back, after, ⟨o, rfl, ho⟩, hearlier, hfirst⟩ :=
        ih fun hall => h (List.forall_mem_cons.2 ⟨hoperand, hall⟩)
      exact ⟨operand :: before, front, back, after,
        ⟨o, rfl, ho⟩, List.forall_mem_cons.2 ⟨hoperand, hearlier⟩, hfirst⟩
    · obtain ⟨front, back, hfirst, htext⟩ := exists_close hoperand
      exact ⟨[], front, back, operands, ⟨operand, rfl, htext⟩, List.forall_mem_nil _, hfirst⟩

/-- Only literals hold closing braces, and those not at once. -/
theorem bare_of_close (h : operand.text = front ++ '\x7d' :: '\x7d' :: back) :
    operand.bare = operand.text ∧ stripFrom (some ' ') front = stripBody front := by
  cases operand with
  | literal quote inside hquote hinside =>
    refine ⟨rfl, ?_⟩
    cases front with
    | nil =>
      obtain ⟨rfl, -⟩ := List.cons.inj h
      exact absurd hquote (by decide)
    | cons c front =>
      have hc : c ≠ '.' := by
        rw [← (List.cons.inj h).1]
        exact ne_dot_of_isQuote hquote
      rw [stripBody_eq_stripFrom, stripFrom_of_ne_dot hc, stripFrom_of_ne_dot hc]
  | path first others =>
    have hplain : ∀ c ∈ (Operand.path first others).text, Plain c :=
      List.forall_mem_cons.2 ⟨plain_dot, plain_path first others⟩
    exact absurd (h ▸ neverTwice_of_plain hplain) not_neverTwice

theorem close_inj {body' after' : List Char} (h : NeverTwice '\x7d' (body ++ ['\x7d']))
    (h' : NeverTwice '\x7d' (body' ++ ['\x7d'])) :
    body ++ '\x7d' :: '\x7d' :: after = body' ++ '\x7d' :: '\x7d' :: after' ↔
      body = body' ∧ after = after' := by
  constructor
  · intro heq
    have hclose := closeAction?_append after h
    rw [heq, closeAction?_append after' h'] at hclose
    cases hclose
    exact ⟨rfl, rfl⟩
  · rintro ⟨rfl, rfl⟩
    rfl

/-- An action that ends within a literal goes well exactly when the part of the literal before its
end has no leading dots, and the rest of the template, with the rest of the literal at its
beginning, loses the dots before the remaining paths and no others. -/
theorem EndsWithin.stripLeadingDots_iff {before after : List Operand}
    (h : EndsWithin operands before front back after) :
    stripLeadingDots (concatenation (operands.map Operand.text)) =
        concatenation (operands.map Operand.bare) ↔
      stripBody front = front ∧
        stripLeadingDots (back ++ remainder (after.map Operand.text)) =
          back ++ remainder (after.map Operand.bare) := by
  obtain ⟨o, rfl, htext⟩ := h.within
  obtain ⟨hbare, hfront⟩ := bare_of_close htext
  have hstrip : stripLeadingDots (concatenation ((before ++ o :: after).map Operand.text)) =
      '\x7b' :: '\x7b' :: ' ' :: (opening (before.map Operand.bare) ++
        (stripBody front ++ '\x7d' :: '\x7d' ::
          stripLeadingDots (back ++ remainder (after.map Operand.text)))) := by
    rw [List.map_append, List.map_cons, concatenation_at, htext, List.append_assoc,
      List.cons_append, List.cons_append, stripLeadingDots_opening _ h.earlier h.first, hfront]
  have hgoal : concatenation ((before ++ o :: after).map Operand.bare) =
      '\x7b' :: '\x7b' :: ' ' :: (opening (before.map Operand.bare) ++
        (front ++ '\x7d' :: '\x7d' :: (back ++ remainder (after.map Operand.bare)))) := by
    rw [List.map_append, List.map_cons, concatenation_at, hbare, htext, List.append_assoc,
      List.cons_append, List.cons_append]
  rw [hstrip, hgoal, List.cons_inj_right, List.cons_inj_right, List.cons_inj_right,
    List.append_cancel_left_eq, close_inj (neverTwice_stripBody h.first) h.first]

/-- **When literals are kept.** The action loses the dots before its paths and keeps its literals
exactly when no literal holds two closing braces in succession, or when what the action is cut into
at the first such braces happens to go well. -/
theorem literals_kept_iff (operands : List Operand) :
    stripLeadingDots (concatenation (operands.map Operand.text)) =
        concatenation (operands.map Operand.bare) ↔
      (∀ o ∈ operands, NeverTwice '\x7d' o.text) ∨
        ∃ before front back after, EndsWithin operands before front back after ∧
          stripBody front = front ∧
          stripLeadingDots (back ++ remainder (after.map Operand.text)) =
            back ++ remainder (after.map Operand.bare) := by
  constructor
  · intro hkept
    by_cases hall : ∀ o ∈ operands, NeverTwice '\x7d' o.text
    · exact .inl hall
    · obtain ⟨before, front, back, after, hends⟩ := exists_endsWithin hall
      exact .inr ⟨before, front, back, after, hends, hends.stripLeadingDots_iff.1 hkept⟩
  · rintro (hall | ⟨before, front, back, after, hends, hwell⟩)
    · exact stripLeadingDots_concatenation hall
    · exact hends.stripLeadingDots_iff.2 hwell

theorem quoted_of_ne {quote : Char} {inside : List Char}
    (h : ∀ c ∈ inside, c ≠ quote ∧ c ≠ '\\') : Quoted quote inside := by
  induction inside with
  | nil => exact .nil
  | cons c inside ih =>
    obtain ⟨⟨hquote, hescape⟩, hinside⟩ := List.forall_mem_cons.1 h
    exact .plain hquote hescape (ih hinside)

/-- A literal that holds two closing braces and, in what is then an action of its own, a dot. -/
def bracedLiteral : Operand :=
  .literal '"' ['\x7d', '\x7d', ' ', '\x7b', '\x7b', ' ', '.', 'x'] (by decide)
    (quoted_of_ne (by simp))

theorem literal_dot_lost :
    stripLeadingDots (concatenation ([bracedLiteral].map Operand.text)) =
        "\x7b\x7b \"\x7d\x7d \x7b\x7b x\" \x7d\x7d".toList ∧
      stripLeadingDots (concatenation ([bracedLiteral].map Operand.text)) ≠
        concatenation ([bracedLiteral].map Operand.bare) := by
  decide +kernel

end PreviewEnv.Template
