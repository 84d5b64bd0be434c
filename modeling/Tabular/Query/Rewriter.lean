import Tabular.Query.Table

/-!
# Rewriting table references

References to files are replaced by the names of the tables that hold their rows.
-/

set_option autoImplicit false

namespace Tabular.Query

/-- The rest of a query that starts at a position, with the given references replaced. -/
def splice (name : List Char) (position : Nat) (rest : List Char) : List Span → List Char
  | [] => rest
  | span :: spans =>
    rest.take (span.start - position) ++ name ++
      splice name span.stop (rest.drop (span.stop - position)) spans

/-- A query with every reference `raw` replaced by a name. -/
def replaceSpans (sql raw name : List Char) : List Char :=
  splice name 0 sql ((tableSpans sql).filter fun span => span.name == raw)

/-- A query with every reference `raw` replaced by a name. -/
def replaceReference (sql raw name : String) : String :=
  String.ofList (replaceSpans sql.toList raw.toList name.toList)

structure Rewriter where
  done : List String := []
deriving DecidableEq, Repr, Inhabited

/-- Rewrite a reference, unless it is empty, keeps its name or has been rewritten before. -/
def Rewriter.rewrite (rewriter : Rewriter) (sql raw name : String) : String × Rewriter :=
  if raw.isEmpty || raw == name || rewriter.done.contains raw then (sql, rewriter)
  else (replaceReference sql raw name, ⟨raw :: rewriter.done⟩)

end Tabular.Query
