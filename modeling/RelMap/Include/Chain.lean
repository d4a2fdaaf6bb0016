import RelMap.Text.Part

/-!
# Chains of includes

Which navigations a query loads along with its root, as dotted paths. A chain starts at the root
and is extended one navigation at a time, and a path that is already there is not added again.
-/

namespace RelMap

/-- The separator of the navigations in a path. -/
def pathSeparator : Char := '.'

/-- The navigations of a path. -/
def pathSegments (path : String) : List String := Text.split pathSeparator path

/-- Paths to be included, and the chain that was extended last. -/
structure IncludeChains where
  /-- The paths, each once, in the order of their first mention. -/
  paths : List String := []
  /-- The path of the current chain, if there is one. -/
  current : Option String := none
  deriving DecidableEq

namespace IncludeChains

/-- No includes. -/
def empty : IncludeChains := {}

/-- The chains with one more path, which becomes the current chain. -/
def push (c : IncludeChains) (path : String) : IncludeChains :=
  { paths := if path ∈ c.paths then c.paths else c.paths ++ [path], current := some path }

/-- Start a chain at the root. -/
def start (c : IncludeChains) (navigation : String) : IncludeChains := c.push navigation

/-- Extend the current chain, or start one if there is none. -/
def extend (c : IncludeChains) (navigation : String) : IncludeChains :=
  match c.current with
  | some parent => c.push (parent ++ "." ++ navigation)
  | none => c.push navigation

end IncludeChains

end RelMap
