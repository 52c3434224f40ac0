import PreviewEnv.ResourceSet.Definition
import PreviewEnv.Tree.Yaml

/-- Prints the definition of resource sets, to be installed in a cluster. -/
def main : IO Unit := IO.print PreviewEnv.ResourceSet.definition.yaml
