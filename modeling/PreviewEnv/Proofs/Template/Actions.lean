import Mathlib.Data.List.Chain
import Mathlib.Data.List.Forall2
import PreviewEnv.Proofs.Template.Pieces

namespace PreviewEnv.Template

variable {c d : Char} {cs ds body before after rest template : List Char}
  {segments : List Segment} {last : Option Char}

/-- The character does not come twice in succession. -/
def NeverTwice (c : Char) (cs : List Char) : Prop := cs.IsChain fun a b => ¬(a = c ∧ b = c)

theorem neverTwice_nil : NeverTwice c [] := .nil

theorem neverTwice_cons :
    NeverTwice c (d :: cs) ↔ ¬(d = c ∧ cs.head? = some c) ∧ NeverTwice c cs := by
  rw [NeverTwice, List.isChain_cons]
  constructor
  · rintro ⟨hhead, hcs⟩
    exact ⟨fun ⟨hd, hc⟩ => hhead c hc ⟨hd, rfl⟩, hcs⟩
  · rintro ⟨hhead, hcs⟩
    refine ⟨?_, hcs⟩
    rintro e he ⟨rfl, rfl⟩
    exact hhead ⟨rfl, he⟩

theorem neverTwice_cons_of_ne (hne : d ≠ c) : NeverTwice c (d :: cs) ↔ NeverTwice c cs := by
  rw [neverTwice_cons]
  exact and_iff_right fun h => hne h.1

theorem not_neverTwice : ¬NeverTwice c (before ++ c :: c :: after) := by
  intro h
  exact (List.isChain_append_cons_cons.1 h).2.1 ⟨rfl, rfl⟩

/-- Missing dots bring no two closing braces together: a letter or an underscore has followed each
of them. -/
theorem FewerDots.neverTwice (hc : isHead c = false) (h : FewerDots last cs ds)
    (hcs : NeverTwice c cs) : NeverTwice c ds := by
  induction h with
  | nil => exact hcs
  | @keep before d cs ds h ih =>
    obtain ⟨hpair, hcs⟩ := neverTwice_cons.1 hcs
    refine neverTwice_cons.2 ⟨?_, ih hcs⟩
    rintro ⟨hd, hds⟩
    rcases h.head? with hhead | ⟨-, e, he, hhead⟩
    · exact hpair ⟨hd, hhead.symm.trans hds⟩
    · cases hds.symm.trans he
      exact Bool.false_ne_true (hc.symm.trans hhead)
  | drop _ _ ih => exact ih (neverTwice_cons.1 hcs).2

theorem closeAction?_cons (h : ¬(c = '\x7d' ∧ rest.head? = some '\x7d')) :
    closeAction? (c :: rest) = (closeAction? rest).map fun (body, after) => (c :: body, after) := by
  rw [closeAction?]
  rintro rest' rfl rfl
  exact h ⟨rfl, rfl⟩

theorem closeAction?_append (after : List Char) (h : NeverTwice '\x7d' (body ++ ['\x7d'])) :
    closeAction? (body ++ '\x7d' :: '\x7d' :: after) = some (body, after) := by
  induction body with
  | nil => rfl
  | cons c body ih =>
    obtain ⟨hpair, hbody⟩ := neverTwice_cons.1 h
    have hhead : (body ++ '\x7d' :: '\x7d' :: after).head? = (body ++ ['\x7d']).head? := by
      cases body <;> rfl
    rw [List.cons_append, closeAction?_cons (by rwa [hhead]), ih hbody]
    rfl

theorem closeAction?_of_neverTwice (h : NeverTwice '\x7d' cs) : closeAction? cs = none := by
  induction cs with
  | nil => rfl
  | cons c cs ih =>
    obtain ⟨hpair, hcs⟩ := neverTwice_cons.1 h
    rw [closeAction?_cons hpair, ih hcs]
    rfl

/-- Two closing braces in succession end an action. -/
theorem exists_close (h : ¬NeverTwice c cs) :
    ∃ body after, NeverTwice c (body ++ [c]) ∧ cs = body ++ c :: c :: after := by
  induction cs with
  | nil => exact absurd neverTwice_nil h
  | cons d cs ih =>
    by_cases hpair : d = c ∧ cs.head? = some c
    · obtain ⟨rfl, hhead⟩ := hpair
      obtain ⟨after, rfl⟩ := List.head?_eq_some_iff.1 hhead
      exact ⟨[], after, .singleton _, rfl⟩
    · obtain ⟨body, after, hbody, rfl⟩ := ih fun hcs => h (neverTwice_cons.2 ⟨hpair, hcs⟩)
      refine ⟨d :: body, after, neverTwice_cons.2 ⟨?_, hbody⟩, rfl⟩
      rintro ⟨hd, hhead⟩
      refine hpair ⟨hd, ?_⟩
      cases body <;> exact hhead

/-- **Where an action ends**: at the first two closing braces in succession. -/
theorem closeAction?_eq_some_iff :
    closeAction? cs = some (body, after) ↔
      NeverTwice '\x7d' (body ++ ['\x7d']) ∧ cs = body ++ '\x7d' :: '\x7d' :: after := by
  constructor
  · intro h
    by_cases hcs : NeverTwice '\x7d' cs
    · cases h.symm.trans (closeAction?_of_neverTwice hcs)
    · obtain ⟨body', after', hbody, rfl⟩ := exists_close hcs
      cases h.symm.trans (closeAction?_append after' hbody)
      exact ⟨hbody, rfl⟩
  · rintro ⟨hbody, rfl⟩
    exact closeAction?_append after hbody

/-- The template has these segments: an action reaches from the first two opening braces in
succession to the first two closing ones after them, and what follows it is cut in the same way.
Text in which no action begins and ends has none. -/
inductive Cut : List Char → List Segment → Prop
  | outside {cs : List Char} :
      (∀ before body after,
        cs ≠ before ++ '\x7b' :: '\x7b' :: (body ++ '\x7d' :: '\x7d' :: after)) →
      Cut cs (cs.map .char)
  | action (before : List Char) {body after : List Char} {segments : List Segment} :
      NeverTwice '\x7b' (before ++ ['\x7b']) → NeverTwice '\x7d' (body ++ ['\x7d']) →
      Cut after segments →
      Cut (before ++ '\x7b' :: '\x7b' :: (body ++ '\x7d' :: '\x7d' :: after))
        (before.map .char ++ .action body :: segments)

theorem split_cons (h : ¬(c = '\x7b' ∧ rest.head? = some '\x7b')) :
    split (c :: rest) = .char c :: split rest := by
  rw [split]
  rintro rest' rfl rfl
  exact h ⟨rfl, rfl⟩

theorem split_action (h : NeverTwice '\x7d' (body ++ ['\x7d'])) :
    split ('\x7b' :: '\x7b' :: (body ++ '\x7d' :: '\x7d' :: after)) =
      .action body :: split after := by
  have hclose : closeAction? (body ++ '\x7d' :: '\x7d' :: after) = some (body, after) :=
    closeAction?_append after h
  rw [split]
  split
  next hclose' =>
    cases hclose.symm.trans hclose'
    rfl
  next hnone => cases hclose.symm.trans hnone

theorem split_of_neverTwice (h : NeverTwice '\x7d' rest) :
    split ('\x7b' :: '\x7b' :: rest) = .char '\x7b' :: .char '\x7b' :: rest.map .char := by
  rw [split]
  split
  next hclose => cases (closeAction?_of_neverTwice h).symm.trans hclose
  next => rfl

/-- A character that opens no action goes before the first of what is cut after it. -/
theorem Cut.cons (hpair : ¬(c = '\x7b' ∧ rest.head? = some '\x7b')) (h : Cut rest segments) :
    Cut (c :: rest) (.char c :: segments) := by
  cases h with
  | outside hnone =>
    refine .outside fun before body after heq => ?_
    cases before with
    | nil =>
      cases heq
      exact hpair ⟨rfl, rfl⟩
    | cons b before =>
      cases heq
      exact hnone before body after rfl
  | action before hbefore hbody hafter =>
    refine .action (c :: before) (neverTwice_cons.2 ⟨?_, hbefore⟩) hbody hafter
    rintro ⟨hc, hhead⟩
    refine hpair ⟨hc, ?_⟩
    cases before <;> exact hhead

/-- Opening braces that no closing ones follow begin no action. -/
theorem no_action_of_neverTwice (h : NeverTwice '\x7d' cs) :
    cs ≠ before ++ '\x7b' :: '\x7b' :: (body ++ '\x7d' :: '\x7d' :: after) := by
  rintro rfl
  rw [← List.cons_append, ← List.cons_append, ← List.append_assoc] at h
  exact not_neverTwice h

theorem cut_split : Cut cs (split cs) := by
  fun_induction split cs with
  | case1 rest body after hclose ih =>
    obtain ⟨hbody, rfl⟩ := closeAction?_eq_some_iff.1 hclose
    exact .action [] (.singleton _) hbody ih
  | case2 rest hnone =>
    have hrest : NeverTwice '\x7d' rest := by
      by_contra hpair
      obtain ⟨body, after, hbody, rfl⟩ := exists_close hpair
      cases hnone.symm.trans (closeAction?_append after hbody)
    refine Cut.outside fun before body after => no_action_of_neverTwice ?_
    exact (neverTwice_cons_of_ne (by decide)).2 ((neverTwice_cons_of_ne (by decide)).2 hrest)
  | case3 c rest hpair ih =>
    refine .cons ?_ ih
    rintro ⟨hc, hhead⟩
    obtain ⟨rest', hrest⟩ := List.head?_eq_some_iff.1 hhead
    exact hpair rest' hc hrest
  | case4 =>
    have hnone : ∀ before body after, [] ≠
        before ++ '\x7b' :: '\x7b' :: (body ++ '\x7d' :: '\x7d' :: after) := by
      intro before body after heq
      cases before <;> cases heq
    exact .outside hnone

theorem split_of_no_action
    (h : ∀ before body after,
      cs ≠ before ++ '\x7b' :: '\x7b' :: (body ++ '\x7d' :: '\x7d' :: after)) :
    split cs = cs.map .char := by
  induction cs with
  | nil => rw [split, List.map_nil]
  | cons c rest ih =>
    by_cases hpair : c = '\x7b' ∧ rest.head? = some '\x7b'
    · obtain ⟨rfl, hhead⟩ := hpair
      obtain ⟨rest, rfl⟩ := List.head?_eq_some_iff.1 hhead
      have hrest : NeverTwice '\x7d' rest := by
        by_contra hclose
        obtain ⟨body, after, -, rfl⟩ := exists_close hclose
        exact h [] body after rfl
      rw [split_of_neverTwice hrest]
      rfl
    · rw [split_cons hpair, ih, List.map_cons]
      intro before body after heq
      exact h (c :: before) body after (by rw [heq, List.cons_append])

theorem split_before (h : NeverTwice '\x7b' (before ++ ['\x7b'])) :
    split (before ++ '\x7b' :: '\x7b' :: rest) =
      before.map .char ++ split ('\x7b' :: '\x7b' :: rest) := by
  induction before with
  | nil => rfl
  | cons c before ih =>
    obtain ⟨hpair, hbefore⟩ := neverTwice_cons.1 h
    have hhead : (before ++ '\x7b' :: '\x7b' :: rest).head? = (before ++ ['\x7b']).head? := by
      cases before <;> rfl
    rw [List.cons_append, split_cons (by rwa [hhead]), ih hbefore]
    rfl

/-- **What a template is cut into**, in one way only. -/
theorem cut_iff : Cut cs segments ↔ split cs = segments := by
  constructor
  · intro h
    induction h with
    | outside hnone => exact split_of_no_action hnone
    | action before hbefore hbody _ ih => rw [split_before hbefore, split_action hbody, ih]
  · rintro rfl
    exact cut_split

theorem join_append {left right : List Segment} : join (left ++ right) = join left ++ join right :=
  List.flatMap_append

theorem join_map_char : join (cs.map .char) = cs := by
  induction cs with
  | nil => rfl
  | cons c cs ih => exact congrArg (c :: ·) ih

theorem join_action (before : List Char) :
    join (before.map .char ++ .action body :: segments) =
      before ++ '\x7b' :: '\x7b' :: (body ++ '\x7d' :: '\x7d' :: join segments) := by
  rw [join_append, join_map_char]
  simp [join, Segment.text]

/-- Cutting loses nothing. -/
theorem Cut.join_eq (h : Cut cs segments) : join segments = cs := by
  induction h with
  | outside => exact join_map_char
  | action before _ _ _ ih => rw [join_action, ih]

theorem map_strip_map_char : (cs.map .char).map Segment.strip = cs.map .char := by
  rw [List.map_map]
  rfl

theorem fewerDots_stripBody : FewerDots none body (stripBody body) := by
  obtain ⟨pieces, hpieces⟩ := exists_scan body
  rw [stripBody_of_scan hpieces, ← hpieces.textOf_eq]
  exact fewerDots_undotted none pieces

/-- A body without its leading dots still ends where it has ended. -/
theorem neverTwice_stripBody (h : NeverTwice '\x7d' (body ++ ['\x7d'])) :
    NeverTwice '\x7d' (stripBody body ++ ['\x7d']) :=
  fewerDots_stripBody.append.neverTwice (by decide) h

/-- **Actions stay where they are**: the new template is cut at the same places. -/
theorem Cut.strip (h : Cut cs segments) :
    Cut (join (segments.map Segment.strip)) (segments.map Segment.strip) := by
  induction h with
  | outside hnone =>
    rw [map_strip_map_char, join_map_char]
    exact .outside hnone
  | action before hbefore hbody _ ih =>
    rw [List.map_append, map_strip_map_char, List.map_cons, Segment.strip, join_action]
    exact .action before hbefore (neverTwice_stripBody hbody) ih

theorem cut_stripLeadingDots :
    Cut (stripLeadingDots template) ((split template).map Segment.strip) :=
  cut_split.strip

theorem sublist_strip (segment : Segment) : segment.strip.text.Sublist segment.text := by
  cases segment with
  | char c => exact .refl _
  | action body => exact ((fewerDots_stripBody.sublist.append_right _).cons_cons _).cons_cons _

theorem sublist_join_strip (segments : List Segment) :
    (join (segments.map Segment.strip)).Sublist (join segments) := by
  induction segments with
  | nil => exact .refl _
  | cons segment segments ih => exact (sublist_strip segment).append ih

theorem sublist_stripLeadingDots : (stripLeadingDots template).Sublist template := by
  have hjoin : join (split template) = template := cut_split.join_eq
  have hsublist := sublist_join_strip (split template)
  rwa [hjoin] at hsublist

theorem stripBody_stripBody : stripBody (stripBody body) = stripBody body := by
  obtain ⟨pieces, hpieces⟩ := exists_scan body
  rw [stripBody_of_scan hpieces, stripBody_of_scan (scan_undotted hpieces), undotted_undotted]

theorem strip_strip (segment : Segment) : segment.strip.strip = segment.strip := by
  cases segment with
  | char c => rfl
  | action body => exact congrArg Segment.action stripBody_stripBody

/-- A template without its leading dots has none. -/
theorem stripLeadingDots_stripLeadingDots :
    stripLeadingDots (stripLeadingDots template) = stripLeadingDots template := by
  have hstrip : Segment.strip ∘ Segment.strip = Segment.strip := funext strip_strip
  calc stripLeadingDots (stripLeadingDots template)
      = join (((split template).map Segment.strip).map Segment.strip) := by
        rw [stripLeadingDots, cut_iff.1 cut_stripLeadingDots]
    _ = stripLeadingDots template := by rw [List.map_map, hstrip, stripLeadingDots]

/-- The second segment is the first without its leading dots: the pieces it is read as are those of
the first, less the dots outside literals that stand at the beginning or after a lead and before a
letter or an underscore. -/
inductive Undotted : Segment → Segment → Prop
  | char {c : Char} : Undotted (.char c) (.char c)
  | action {body stripped : List Char} {pieces : List Piece} :
      Scan body pieces → Scan stripped (undotted none pieces) →
      Undotted (.action body) (.action stripped)

theorem undotted_strip (segment : Segment) : Undotted segment segment.strip := by
  cases segment with
  | char c => exact .char
  | action body =>
    obtain ⟨pieces, hpieces⟩ := exists_scan body
    refine .action hpieces ?_
    rw [stripBody_of_scan hpieces]
    exact scan_undotted hpieces

/-- The text outside the actions. -/
def outside (segments : List Segment) : List Char :=
  segments.filterMap fun
    | .char c => some c
    | .action _ => none

/-- What stands between the braces of the actions. -/
def bodies (segments : List Segment) : List (List Char) :=
  segments.filterMap fun
    | .char _ => none
    | .action body => some body

theorem outside_strip : outside (segments.map Segment.strip) = outside segments := by
  rw [outside, List.filterMap_map, outside]
  congr 1
  funext segment
  cases segment <;> rfl

theorem bodies_strip : bodies (segments.map Segment.strip) = (bodies segments).map stripBody := by
  rw [bodies, List.filterMap_map, bodies, List.map_filterMap]
  congr 1
  funext segment
  cases segment <;> rfl

/-- **Stripping takes leading dots out of actions, and does nothing else.** Doing it again changes
nothing. Characters are missing and none are new: the template is cut into as many actions as
before, with the same text around them, and each action is read as the same pieces but for its
leading dots. -/
theorem stripLeadingDots_within_actions (template : List Char) :
    stripLeadingDots (stripLeadingDots template) = stripLeadingDots template ∧
    (stripLeadingDots template).Sublist template ∧
    ∃ segments stripped,
      Cut template segments ∧ Cut (stripLeadingDots template) stripped ∧
      List.Forall₂ Undotted segments stripped ∧
      outside stripped = outside segments ∧
      (bodies stripped).length = (bodies segments).length := by
  refine ⟨stripLeadingDots_stripLeadingDots, sublist_stripLeadingDots, split template,
    (split template).map Segment.strip, cut_split, cut_stripLeadingDots, ?_, outside_strip, ?_⟩
  · rw [List.forall₂_map_right_iff, List.forall₂_same]
    exact fun segment _ => undotted_strip segment
  · rw [bodies_strip, List.length_map]

example :
    stripLeadingDots "./run \x7b\x7b .A.B \x7d\x7d and \x7b\x7b-(.C) -\x7d\x7d".toList =
      "./run \x7b\x7b A.B \x7d\x7d and \x7b\x7b-(C) -\x7d\x7d".toList := by
  decide +kernel

end PreviewEnv.Template
