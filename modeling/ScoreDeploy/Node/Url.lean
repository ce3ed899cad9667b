import ScoreDeploy.Text.Blank

/-!
# Addresses of a node's interfaces

A node is named by a base address. Requests go to the path `/api/v3` below it, and estimates to
`/api/v3d`. A base that already ends in such a path, or in slashes, names the same node.
-/

namespace ScoreDeploy.Node

/-- Drops copies of `/api/v3` from the front of a reversed text. -/
def dropReversedPath : List Char → List Char
  | '3' :: 'v' :: '/' :: 'i' :: 'p' :: 'a' :: '/' :: rest => dropReversedPath rest
  | cs => cs

/-- The base without slashes at its end, and then without copies of `/api/v3` there. -/
def trimmedBase (base : String) : String :=
  String.ofList (dropReversedPath (Text.dropEndWhile (· == '/') base.toList).reverse).reverse

/-- The addresses to which a client posts. -/
structure Urls where
  /-- For all requests but estimates. -/
  main : String
  /-- For estimates. -/
  debug : String
deriving DecidableEq, Repr

/-- The addresses of the node with that base. -/
def Urls.ofBase (base : String) : Urls :=
  ⟨trimmedBase base ++ "/api/v3", trimmedBase base ++ "/api/v3d"⟩

end ScoreDeploy.Node
