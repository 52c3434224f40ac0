import PreviewEnv.Manifest.Metadata

/-!
Objects on their way to the cluster and back. The metadata of an object are typed, and what they are
not known to hold is lost; an API version is kept together with a kind, both being text, and
anything else as it is.
-/

namespace PreviewEnv.Api

/-- An object, as far as it is typed. -/
def objectShape : Shape := .record "struct DynamicObject" .extensible
  [.mk "metadata" (.default .empty) Metadata.shape]

/-- Parts entries into those that say of what type an object is, `found` being some that came
before, and the others. If there is one that is no text or that comes twice, it is lost with those
before it, and those after it stay. -/
def takeType (found : List (String × Tree)) :
    List (String × Tree) → List (String × Tree) × List (String × Tree)
  | [] => (found, [])
  | (k, t) :: es =>
    if k ≠ "apiVersion" ∧ k ≠ "kind" then
      let (type, others) := takeType found es
      (type, (k, t) :: others)
    else if t.str?.isSome ∧ (found.lookup k).isNone then takeType ((k, t) :: found) es
    else ([], es)

/-- The entries of an object after its API version and kind have been read. One without the other is
lost. -/
def readType (es : List (String × Tree)) : List (String × Tree) :=
  let (type, others) := takeType [] es
  if type.length = 2 then type ++ others else others

/-- The object that has been read from a tree or a text. -/
def settle : Tree → Tree
  | .map es => .ofEntries (readType es)
  | t => t

/-- An object as it is sent. -/
def readObject (t : Tree) : Except String Tree := settle <$> objectShape.read t

end PreviewEnv.Api
