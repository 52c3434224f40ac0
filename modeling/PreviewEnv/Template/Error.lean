import PreviewEnv.Text.Quoted

namespace PreviewEnv

/-- A template, as it was written, that cannot be rendered, and what is wrong with it, as the engine
words it. -/
structure TemplateError where
  template : String
  fault : String
deriving DecidableEq, Repr

def TemplateError.message (e : TemplateError) : String :=
  "failed to render template " ++ Text.quote e.template ++ ": " ++ e.fault

end PreviewEnv
