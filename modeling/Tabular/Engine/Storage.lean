import Tabular.Engine

/-!
# Storage

A database keeps its content between connections. A connection starts from the content and leaves
one when it is closed.
-/

set_option autoImplicit false

namespace Tabular

structure Storage (content state : Type) where
  engine : Engine state
  connect : content → Result state
  left : state → content

end Tabular
