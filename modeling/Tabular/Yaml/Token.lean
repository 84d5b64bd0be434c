/-!
# YAML tokens

The marks and scalars of a text. Block collections, whose ends show only in the layout, have tokens
for their starts and ends like flow collections.
-/

set_option autoImplicit false

namespace Tabular.Yaml

inductive Token where
  | versionDirective (major minor : Nat)
  | tagDirective (handle tagStart : List Char)
  | documentStart
  | documentEnd
  | blockSequenceStart
  | blockMappingStart
  | blockEnd
  | flowSequenceStart
  | flowSequenceEnd
  | flowMappingStart
  | flowMappingEnd
  | blockEntry
  | flowEntry
  | key
  | value
  | alias (name : List Char)
  | anchor (name : List Char)
  | tag (handle ending : List Char)
  /-- A scalar, and whether it is written without quotes or block header. -/
  | scalar (text : List Char) (plain : Bool)
  | streamEnd
deriving DecidableEq, Repr, Inhabited

end Tabular.Yaml
