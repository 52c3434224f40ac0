import PreviewEnv.Template.Eval
import PreviewEnv.Template.Grammar
import PreviewEnv.Template.Lexer
import PreviewEnv.Template.Render

/-!
An engine for a part of the template language: the statements, filters and tests of the modules
that this one imports, and no functions. What it is given beyond that it refuses.
-/

namespace PreviewEnv.Template

/-- What the statements of a template print. -/
def pageText (template : List Char) (context : Tree) : Except Fault String := do
  let stmts ← statements (tokens template)
  let frame : Frame := match context with
    | .map es => es.map fun e => (e.1, Value.ofTree e.2)
    | _ => []
  let (_, p) ← (runAll stmts).run ⟨[[], frame], ""⟩
  return p.text

/-- The engine, with its faults worded in this way. -/
def page (wording : Wording) : Engine := fun template context =>
  (pageText template context).mapError (Fault.text wording)

end PreviewEnv.Template
