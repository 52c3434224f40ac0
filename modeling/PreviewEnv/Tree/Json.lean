import PreviewEnv.Decimal.Layout
import PreviewEnv.Text.Quoted
import PreviewEnv.Tree.Basic

namespace PreviewEnv.Tree

mutual

/-- The tree as JSON text. -/
def json : Tree → String
  | null => "null"
  | bool b => if b then "true" else "false"
  | int n => toString n
  | float x => Decimal.Layout.compact.text x
  | str s => Text.quoteJson s
  | arr items => "[" ++ ",".intercalate (jsonItems items) ++ "]"
  | map es => "\x7b" ++ ",".intercalate (jsonEntries es) ++ "\x7d"

def jsonItems : List Tree → List String
  | [] => []
  | t :: ts => json t :: jsonItems ts

def jsonEntries : List (String × Tree) → List String
  | [] => []
  | (k, t) :: es => (Text.quoteJson k ++ ":" ++ json t) :: jsonEntries es

end

end PreviewEnv.Tree
