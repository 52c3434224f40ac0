import PreviewEnv.Template.Error

namespace PreviewEnv

/-- Why a reducer fails: a value of the wrong shape or a template that cannot be rendered, wrapped
by the places that lead to it. -/
inductive ReduceError where
  | notMap
  | notArrayOrMap
  | template (e : TemplateError)
  /-- A value that keeps unfolding was followed to the deepest level allowed. -/
  | unfinished
  | atIndex (index : Nat) (source : ReduceError)
  | atKey (key : String) (source : ReduceError)
  | atName (name : String) (source : ReduceError)
  | atPath (keys : List String) (source : ReduceError)
  | atStage (stage : Nat) (source : ReduceError)
deriving DecidableEq, Repr

namespace ReduceError

/-- The innermost error, without the places around it. -/
def root : ReduceError → ReduceError
  | atIndex _ e | atKey _ e | atName _ e | atPath _ e | atStage _ e => e.root
  | e => e

def isNotMap (e : ReduceError) : Bool := e.root == notMap

def isNotArrayOrMap (e : ReduceError) : Bool := e.root == notArrayOrMap

def pathText (keys : List String) : String := ".".intercalate keys

def message : ReduceError → String
  | notMap => "expected a map"
  | notArrayOrMap => "expected an array or a map"
  | template e => e.message
  | unfinished => "nested too deep"
  | atIndex i e => "error at index " ++ toString i ++ ": " ++ e.message
  | atKey k e => "error at key " ++ Text.quote k ++ ": " ++ e.message
  | atName n e => "error at name " ++ Text.quote n ++ ": " ++ e.message
  | atPath ks e => "reduce error at path " ++ pathText ks ++ ": " ++ e.message
  | atStage n e => "reducer #" ++ toString n ++ " returns an error: " ++ e.message

end ReduceError

end PreviewEnv
