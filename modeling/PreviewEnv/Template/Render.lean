import PreviewEnv.Reduce.Deep
import PreviewEnv.Template.Dots

/-!
Rendering: the text of a template against a context, and every text of a tree. Text without any tag
is left as it is; keys are never rendered, nor is what has been rendered.
-/

namespace PreviewEnv

namespace Template

/-- What a template without leading dots prints against a context, or what is wrong with it. -/
abbrev Engine := List Char → Tree → Except String String

/-- The text of a template against a context. -/
def render (engine : Engine) (context : Tree) (template : String) : Except TemplateError String :=
  if isTemplate template.toList then
    (engine (stripLeadingDots template.toList) context).mapError fun fault => ⟨template, fault⟩
  else .ok template

end Template

namespace Reducer

/-- Renders a text and leaves anything else as it is. -/
def renderText (engine : Template.Engine) (context : Tree) : Reducer
  | .str s => .ofExcept <| match Template.render engine context s with
    | .ok text => .ok (.str text)
    | .error e => .error (.template e)
  | t => pure t

/-- Renders every text of a tree. -/
def renderTree (engine : Template.Engine) (context : Tree) : Reducer :=
  deepMap (renderText engine context)

end Reducer

end PreviewEnv
