import NodePressure.Settings.Format.Yaml.Node

/-!
# NodePressure.Settings.Format.Yaml - settings in YAML

Block and flow maps and lists, plain and quoted scalars and comments. There may be one document.
-/

namespace NodePressure.Settings.Yaml

/-- Reads settings in YAML; an empty text is an empty map. -/
def read (s : List Char) : Option Tree :=
  (tokens? s).bind document?

end NodePressure.Settings.Yaml
