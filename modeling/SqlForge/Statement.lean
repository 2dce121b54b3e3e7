import SqlForge.Value

/-!
Finished statements.
-/

namespace SqlForge

/-- The text of a statement and the values of its placeholders, from left to right. -/
structure Statement where
  sql : String
  bindings : List Value := []
  deriving Inhabited

end SqlForge
