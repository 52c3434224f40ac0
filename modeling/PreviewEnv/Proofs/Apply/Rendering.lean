import PreviewEnv.Apply.Basic
import PreviewEnv.Proofs.Reduce.Leaves

namespace PreviewEnv

open PreviewEnv.Tree

namespace Reducer

theorem leafwise_renderText (engine : Template.Engine) (context : Tree) :
    (renderText engine context).Leafwise where
  arr _ := rfl
  map _ := rfl
  scalar {t u} ht h := by
    cases t with
    | str s =>
      rw [renderText, Traced.outcome_ofExcept] at h
      cases hs : Template.render engine context s <;> rw [hs] at h <;> cases h
      rfl
    | arr | map => cases ht
    | _ =>
      cases h
      rfl

end Reducer

variable {engine : Template.Engine} {context declaration rendered : Tree}
  {es : List (String × Tree)} {k s : String}

/-- What rendering makes of a leaf. -/
abbrev renderedLeaf (engine : Template.Engine) (context : Tree) : Tree → Except ReduceError Tree :=
  (Reducer.renderText engine context).onLeaf

/-- Rendering a declaration succeeds when every text in it renders. -/
theorem renderDeclaration_eq_ok_iff :
    renderDeclaration engine context declaration = .ok rendered ↔
      onLeaves (renderedLeaf engine context) declaration = .ok rendered := by
  rw [renderDeclaration, Reducer.renderTree,
    Reducer.deepMap_of_leafwise (Reducer.leafwise_renderText engine context)]
  cases onLeaves (renderedLeaf engine context) declaration <;> simp [Except.mapError]

theorem Tree.Ordered.of_render (h : renderDeclaration engine context declaration = .ok rendered)
    (hd : declaration.Ordered) : rendered.Ordered := by
  refine Ordered.onLeaves ?_ hd (renderDeclaration_eq_ok_iff.1 h)
  intro t u ht hu
  have hs := (Reducer.leafwise_renderText engine context).scalar ht hu
  cases u <;> simp_all [isScalar, Ordered]

/-- What is rendered from a map is a map. -/
theorem exists_map_of_rendered (h : renderDeclaration engine context (map es) = .ok rendered) :
    ∃ fs, rendered = map fs := by
  obtain ⟨fs, hfs, -⟩ := onLeaves_map_eq_ok (renderDeclaration_eq_ok_iff.1 h)
  exact ⟨fs, hfs⟩

/-- A text in a map is rendered to a text. -/
theorem exists_str_of_rendered (h : renderDeclaration engine context (map es) = .ok rendered)
    (hs : Entries.get? k es = some (str s)) : ∃ r, rendered.at? [k] = some (str r) := by
  obtain ⟨fs, rfl, hfs⟩ := onLeaves_map_eq_ok (renderDeclaration_eq_ok_iff.1 h)
  rcases get?_onLeaves hfs (k := k) with ⟨hnone, -⟩ | ⟨v, w, hv, hw, hleaf⟩
  · cases hs.symm.trans hnone
  · cases hs.symm.trans hv
    have hrender : renderedLeaf engine context (str s) = .ok w := hleaf
    simp only [renderedLeaf, Reducer.onLeaf, Reducer.renderText, Traced.outcome_ofExcept] at hrender
    cases hr : Template.render engine context s with
    | error e =>
      rw [hr] at hrender
      cases hrender
    | ok r =>
      rw [hr] at hrender
      cases hrender
      exact ⟨r, by rw [at?, get?_map, hw]; rfl⟩

/-- A declaration that says of what kind it is is a map. -/
theorem exists_map_of_checkedKind {kind : GroupVersionKind}
    (h : checkedKind declaration = .ok kind) : ∃ es, declaration = map es := by
  cases declaration with
  | map es => exact ⟨es, rfl⟩
  | _ => cases h

end PreviewEnv
