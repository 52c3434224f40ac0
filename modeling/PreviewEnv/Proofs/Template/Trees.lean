import PreviewEnv.Proofs.Apply.Rendering
import PreviewEnv.Proofs.Reduce.Visits
import PreviewEnv.Template.Page

namespace PreviewEnv

open PreviewEnv.Tree (Step Earlier)

variable {engine : Template.Engine} {context t u v : Tree} {s : String} {e : ReduceError}
  {fault : TemplateError} {path : List Step}

theorem renderedLeaf_str_eq_ok_iff :
    renderedLeaf engine context (.str s) = .ok u ↔
      ∃ text, Template.render engine context s = .ok text ∧ u = .str text := by
  simp only [renderedLeaf, Reducer.onLeaf, Reducer.renderText, Traced.outcome_ofExcept]
  cases Template.render engine context s <;> simp [eq_comm]

theorem renderedLeaf_str_eq_error_iff :
    renderedLeaf engine context (.str s) = .error e ↔
      ∃ fault, Template.render engine context s = .error fault ∧ e = .template fault := by
  simp only [renderedLeaf, Reducer.onLeaf, Reducer.renderText, Traced.outcome_ofExcept]
  cases Template.render engine context s <;> simp [eq_comm]

/-- A leaf is a text, or is left as it is. -/
theorem str_or_renderedLeaf_eq_self (engine : Template.Engine) (context : Tree)
    (hs : v.isScalar = true) : (∃ s, v = .str s) ∨ renderedLeaf engine context v = .ok v := by
  cases v with
  | str s => exact .inl ⟨s, rfl⟩
  | arr | map => cases hs
  | _ => exact .inr rfl

/-- Text without any tag is rendered to itself. -/
theorem render_of_not_isTemplate (h : Template.isTemplate s.toList = false) :
    Template.render engine context s = .ok s := by
  rw [Template.render, h]
  rfl

theorem outcome_renderTree :
    (Reducer.renderTree engine context t).outcome = Tree.onLeaves (renderedLeaf engine context) t :=
  Reducer.deepMap_of_leafwise (Reducer.leafwise_renderText engine context)

/-- The tree `u` has what is rendered from the texts of `t` in their places, and is otherwise the
same: it has the same paths, lengths and keys, and the same values that are no texts. -/
structure RenderedAs (engine : Template.Engine) (context t u : Tree) : Prop where
  texts : ∀ path s, t.along? path = some (.str s) →
    ∃ text, Template.render engine context s = .ok text ∧ u.along? path = some (.str text)
  others : ∀ path v, t.along? path = some v → v.isScalar = true → (∀ s, v ≠ .str s) →
    u.along? path = some v
  lengths : ∀ path ts, t.along? path = some (.arr ts) →
    ∃ us, u.along? path = some (.arr us) ∧ us.length = ts.length
  keys : ∀ path es, t.along? path = some (.map es) →
    ∃ fs, u.along? path = some (.map fs) ∧ fs.map (·.1) = es.map (·.1)
  paths : ∀ path, t.along? path = none → u.along? path = none

/-- What a tree is rendered to, path by path. -/
theorem renderedAs_of_renderTree (h : (Reducer.renderTree engine context t).outcome = .ok u) :
    RenderedAs engine context t u := by
  rw [outcome_renderTree] at h
  constructor
  · intro path s hs
    obtain ⟨w, hw, hleaf⟩ := Tree.along?_onLeaves h hs
    rw [Tree.onLeaves_scalar rfl] at hleaf
    obtain ⟨text, htext, rfl⟩ := renderedLeaf_str_eq_ok_iff.1 hleaf
    exact ⟨text, htext, hw⟩
  · intro path v hv hscalar hne
    obtain ⟨w, hw, hleaf⟩ := Tree.along?_onLeaves h hv
    rcases str_or_renderedLeaf_eq_self engine context hscalar with ⟨s, hs⟩ | hself
    · exact absurd hs (hne s)
    · rw [Tree.onLeaves_scalar hscalar, hself] at hleaf
      cases hleaf
      exact hw
  · intro path ts hts
    obtain ⟨w, hw, hitems⟩ := Tree.along?_onLeaves h hts
    obtain ⟨us, rfl, hus⟩ := Tree.onLeaves_arr_eq_ok hitems
    exact ⟨us, hw, Tree.length_onLeaves hus⟩
  · intro path es hes
    obtain ⟨w, hw, hentries⟩ := Tree.along?_onLeaves h hes
    obtain ⟨fs, rfl, hfs⟩ := Tree.onLeaves_map_eq_ok hentries
    exact ⟨fs, hw, Tree.keys_of_onLeaves hfs⟩
  · intro path hnone
    exact Tree.along?_onLeaves_eq_none
      (fun _ _ => (Reducer.leafwise_renderText engine context).scalar) h hnone

/-- The text at the end of the path does not render, and no text before it in the order of keys and
positions fails to. -/
structure FirstFault (engine : Template.Engine) (context t : Tree) (path : List Step)
    (fault : TemplateError) : Prop where
  fails : ∃ s, t.along? path = some (.str s) ∧ Template.render engine context s = .error fault
  first : ∀ path' s fault', t.along? path' = some (.str s) →
    Template.render engine context s = .error fault' → path' = path ∨ Earlier path path'

/-- The text is at the end of the path and does not render. -/
theorem failsAt_renderedLeaf_iff :
    Tree.FailsAt (renderedLeaf engine context) t path e ↔
      ∃ s fault, t.along? path = some (.str s) ∧ Template.render engine context s = .error fault ∧
        e = .template fault := by
  constructor
  · rintro ⟨v, hv, hs, hfail⟩
    rcases str_or_renderedLeaf_eq_self engine context hs with ⟨s, rfl⟩ | hself
    · obtain ⟨fault, hfault, rfl⟩ := renderedLeaf_str_eq_error_iff.1 hfail
      exact ⟨s, fault, hv, hfault, rfl⟩
    · cases hself.symm.trans hfail
  · rintro ⟨s, fault, hs, hfault, rfl⟩
    exact ⟨.str s, hs, rfl, renderedLeaf_str_eq_error_iff.2 ⟨fault, hfault, rfl⟩⟩

/-- The leaf at which rendering stops is the first text that does not render. -/
theorem firstFailure_renderedLeaf_iff :
    Tree.FirstFailure (renderedLeaf engine context) t path e ↔
      ∃ fault, FirstFault engine context t path fault ∧ e = .template fault := by
  constructor
  · rintro ⟨hfails, hfirst⟩
    obtain ⟨s, fault, hs, hfault, rfl⟩ := failsAt_renderedLeaf_iff.1 hfails
    refine ⟨fault, ⟨⟨s, hs, hfault⟩, ?_⟩, rfl⟩
    intro path' s' fault' hs' hfault'
    exact hfirst path' _ (failsAt_renderedLeaf_iff.2 ⟨s', fault', hs', hfault', rfl⟩)
  · rintro ⟨fault, ⟨⟨s, hs, hfault⟩, hfirst⟩, rfl⟩
    refine ⟨failsAt_renderedLeaf_iff.2 ⟨s, fault, hs, hfault, rfl⟩, ?_⟩
    intro path' e' hfails
    obtain ⟨s', fault', hs', hfault', -⟩ := failsAt_renderedLeaf_iff.1 hfails
    exact hfirst path' s' fault' hs' hfault'

/-- **A tree is rendered text by text.** Rendering succeeds exactly when every text of the tree
renders, and puts what is rendered where the text has been; nothing else changes. Otherwise it
fails with the fault of the first text that does not render, in the order of keys and positions,
and with exactly the steps that lead to that text around it. A tree without any tag is left as it
is. -/
theorem renderTree_leafwise (ht : t.Ordered) :
    ((∃ u, (Reducer.renderTree engine context t).outcome = .ok u) ↔
      ∀ path s, t.along? path = some (.str s) →
        ∃ text, Template.render engine context s = .ok text) ∧
    (∀ u, (Reducer.renderTree engine context t).outcome = .ok u → RenderedAs engine context t u) ∧
    (∀ e, (Reducer.renderTree engine context t).outcome = .error e ↔
      ∃ path fault, FirstFault engine context t path fault ∧
        e = (ReduceError.template fault).along path) ∧
    ((∀ path s, t.along? path = some (.str s) → Template.isTemplate s.toList = false) →
      (Reducer.renderTree engine context t).outcome = .ok t) := by
  refine ⟨?_, fun u => renderedAs_of_renderTree, fun e => ?_, fun hplain => ?_⟩
  · rw [outcome_renderTree, Tree.exists_onLeaves_iff ht]
    constructor
    · intro hall path s hs
      obtain ⟨w, hw⟩ := hall path (.str s) hs rfl
      obtain ⟨text, htext, -⟩ := renderedLeaf_str_eq_ok_iff.1 hw
      exact ⟨text, htext⟩
    · intro hall path v hv hscalar
      rcases str_or_renderedLeaf_eq_self engine context hscalar with ⟨s, rfl⟩ | hself
      · obtain ⟨text, htext⟩ := hall path s hv
        exact ⟨.str text, renderedLeaf_str_eq_ok_iff.2 ⟨text, htext, rfl⟩⟩
      · exact ⟨v, hself⟩
  · rw [outcome_renderTree, Tree.onLeaves_eq_error_iff ht]
    constructor
    · rintro ⟨path, source, hfirst, rfl⟩
      obtain ⟨fault, hfault, rfl⟩ := firstFailure_renderedLeaf_iff.1 hfirst
      exact ⟨path, fault, hfault, rfl⟩
    · rintro ⟨path, fault, hfault, rfl⟩
      exact ⟨path, .template fault, firstFailure_renderedLeaf_iff.2 ⟨fault, hfault, rfl⟩, rfl⟩
  · rw [outcome_renderTree]
    refine Tree.onLeaves_self ht fun path v hv hscalar => ?_
    rcases str_or_renderedLeaf_eq_self engine context hscalar with ⟨s, rfl⟩ | hself
    · have hrender : Template.render engine context s = .ok s :=
        render_of_not_isTemplate (hplain path s hv)
      exact renderedLeaf_str_eq_ok_iff.2 ⟨s, hrender, rfl⟩
    · exact hself

/-- The engine that words its faults in full. -/
def fullPage : Template.Engine := Template.page .full

def reviewContext : Tree := .map [("Name", .str "pr-1"), ("Number", .int 1)]

/-- Three texts of this tree name something that the context does not have. -/
def templatedService : Tree := .map [
  ("args", .arr [
    .str "\x7b\x7b .Name \x7d\x7d",
    .map [("host", .str "web"), ("port", .str "\x7b\x7b .Port \x7d\x7d")],
    .str "\x7b\x7b .Mode \x7d\x7d"]),
  ("image", .str "web:\x7b\x7b .Tag \x7d\x7d"),
  ("replicas", .int 2)]

def portFault : TemplateError :=
  ⟨"\x7b\x7b .Port \x7d\x7d", "undefined value (in <string>:1)"⟩

/-- What the context has under this name looks like a template itself. -/
def quotingContext : Tree :=
  .map [("Name", .str "\x7b\x7b .Number \x7d\x7d"), ("Number", .int 1)]

/-- A key that looks like a template, and two texts of which one is a template. -/
def labelledService (name : String) : Tree := .map [
  ("labels", .arr [.str name, .int 2]),
  ("\x7b\x7b .Name \x7d\x7d", .str "web")]

theorem renderTree_leafwise_service :
    templatedService.Ordered ∧
      (Reducer.renderTree fullPage reviewContext templatedService).outcome =
        .error (.atKey "args" (.atIndex 1 (.atKey "port" (.template portFault)))) ∧
      (∃ path fault, FirstFault fullPage reviewContext templatedService path fault ∧
        (ReduceError.template fault).along path =
          .atKey "args" (.atIndex 1 (.atKey "port" (.template portFault)))) ∧
      (labelledService "\x7b\x7b .Name \x7d\x7d").Ordered ∧
      (Reducer.renderTree fullPage quotingContext
        (labelledService "\x7b\x7b .Name \x7d\x7d")).outcome =
          .ok (labelledService "\x7b\x7b .Number \x7d\x7d") ∧
      RenderedAs fullPage quotingContext (labelledService "\x7b\x7b .Name \x7d\x7d")
        (labelledService "\x7b\x7b .Number \x7d\x7d") := by
  have hordered : templatedService.Ordered := by decide
  have hfails : (Reducer.renderTree fullPage reviewContext templatedService).outcome =
      .error (.atKey "args" (.atIndex 1 (.atKey "port" (.template portFault)))) := by
    decide +kernel
  obtain ⟨path, fault, hfirst, heq⟩ := ((renderTree_leafwise hordered).2.2.1 _).1 hfails
  have hlabelled : (labelledService "\x7b\x7b .Name \x7d\x7d").Ordered := by decide
  have hrenders : (Reducer.renderTree fullPage quotingContext
      (labelledService "\x7b\x7b .Name \x7d\x7d")).outcome =
        .ok (labelledService "\x7b\x7b .Number \x7d\x7d") := by
    decide +kernel
  have hrendered := (renderTree_leafwise hlabelled).2.1 _ hrenders
  exact ⟨hordered, hfails, ⟨path, fault, hfirst, heq.symm⟩, hlabelled, hrenders, hrendered⟩

end PreviewEnv
