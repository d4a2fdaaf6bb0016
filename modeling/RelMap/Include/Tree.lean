import RelMap.Code
import RelMap.Include.Chain
import RelMap.Mapping.Registry

/-!
# Include trees

The navigations that a query loads, as a forest below its root type. Paths are merged into the tree
one after the other: a navigation that stands at its place already is followed, and any other is
added behind its siblings.
-/

namespace RelMap

/-- How a type hangs off the type that leads to it. -/
inductive IncludeKind where
  | reference
  | collection (kind : CollectionKind)
  deriving DecidableEq, Repr

/-- The name of a kind of include. -/
def IncludeKind.name : IncludeKind → String
  | .reference => "reference"
  | .collection kind => kind.name

/-- Whether an include leads to many entities. -/
def IncludeKind.isCollection : IncludeKind → Bool
  | .reference => false
  | .collection _ => true

/-- The kind of include that a navigation asks for. -/
def Navigation.includeKind : Navigation → IncludeKind
  | .reference _ => .reference
  | .collection c => .collection c.kind

/-- A navigation to be loaded, and those below it. -/
inductive IncludeNode where
  | node (navigation related : String) (kind : IncludeKind) (children : List IncludeNode)

namespace IncludeNode

/-- The name of the navigation. -/
def navigation : IncludeNode → String
  | .node n _ _ _ => n

/-- The type that the navigation leads to. -/
def related : IncludeNode → String
  | .node _ r _ _ => r

/-- How that type hangs off the one before it. -/
def kind : IncludeNode → IncludeKind
  | .node _ _ k _ => k

/-- The navigations below. -/
def children : IncludeNode → List IncludeNode
  | .node _ _ _ cs => cs

mutual

/-- Equality of nodes, as a test. -/
def beq : IncludeNode → IncludeNode → Bool
  | .node n r k cs, .node m s l ds => n == m && r == s && k == l && beqList cs ds

/-- Equality of lists of nodes, node by node. -/
def beqList : List IncludeNode → List IncludeNode → Bool
  | [], [] => true
  | a :: as, b :: bs => beq a b && beqList as bs
  | _, _ => false

end

mutual

theorem eq_of_beq : ∀ a b : IncludeNode, beq a b = true → a = b
  | .node n r k cs, .node m s l ds, h => by
    simp only [beq, Bool.and_eq_true, beq_iff_eq] at h
    rw [h.1.1.1, h.1.1.2, h.1.2, eq_of_beqList cs ds h.2]

theorem eq_of_beqList : ∀ as bs : List IncludeNode, beqList as bs = true → as = bs
  | [], [], _ => rfl
  | a :: as, b :: bs, h => by
    simp only [beqList, Bool.and_eq_true] at h
    rw [eq_of_beq a b h.1, eq_of_beqList as bs h.2]
  | [], _ :: _, h | _ :: _, [], h => by simp [beqList] at h

end

mutual

theorem beq_self : ∀ a : IncludeNode, beq a a = true
  | .node _ _ _ cs => by simp [beq, beqList_self cs]

theorem beqList_self : ∀ as : List IncludeNode, beqList as as = true
  | [] => rfl
  | a :: as => by simp [beqList, beq_self a, beqList_self as]

end

instance : DecidableEq IncludeNode := fun a b =>
  if h : beq a b = true then isTrue (eq_of_beq a b h)
  else isFalse fun e => h (e ▸ beq_self a)

mutual

/-- A node and all below it, parents before children. -/
def preorder : IncludeNode → List IncludeNode
  | .node n r k cs => .node n r k cs :: preorderList cs

/-- Several nodes and all below them. -/
def preorderList : List IncludeNode → List IncludeNode
  | [] => []
  | a :: as => preorder a ++ preorderList as

end

mutual

/-- How many nodes there are, a node and all below it. -/
def size : IncludeNode → Nat
  | .node _ _ _ cs => 1 + sizeList cs

/-- How many nodes there are in several, with all below them. -/
def sizeList : List IncludeNode → Nat
  | [] => 0
  | a :: as => size a + sizeList as

end

/-- The code of a kind of include. -/
def kindCode : IncludeKind → Code
  | .reference => [.tag 0]
  | .collection .list => [.tag 1, .tag 0]
  | .collection .set => [.tag 1, .tag 1]

mutual

/-- The code of a node. -/
def code : IncludeNode → Code
  | .node n r k cs =>
    Code.ofString n ++ Code.ofString r ++ kindCode k ++ .count cs.length :: codeList cs

/-- The codes of several nodes, one after the other. -/
def codeList : List IncludeNode → Code
  | [] => []
  | a :: as => code a ++ codeList as

end

end IncludeNode

/-- The navigations that a query loads below its root type. -/
structure IncludeTree where
  /-- The root type. -/
  root : String
  /-- The navigations of the root type. -/
  nodes : List IncludeNode := []
  deriving DecidableEq

namespace IncludeTree

/-- All nodes of a tree, parents before children. -/
def preorder (t : IncludeTree) : List IncludeNode := IncludeNode.preorderList t.nodes

/-- How many nodes a tree has, the root not counted. -/
def size (t : IncludeTree) : Nat := IncludeNode.sizeList t.nodes

/-- The code of a tree. -/
def code (t : IncludeTree) : Code :=
  Code.ofString t.root ++ .count t.nodes.length :: IncludeNode.codeList t.nodes

/-- The fingerprint of a tree for a dialect. -/
def fingerprint (dialect : String) (t : IncludeTree) : UInt64 :=
  (Code.ofString dialect ++ t.code).hash

/-- The node of a navigation, changed, or nothing where there is no such node. -/
def changeNode {ε : Type} (navigation : String) (change : IncludeNode → Except ε IncludeNode) :
    List IncludeNode → Except ε (Option (List IncludeNode))
  | [] => .ok none
  | a :: as =>
    if a.navigation = navigation then do
      let b ← change a
      return some (b :: as)
    else do
      let rest ← changeNode navigation change as
      return rest.map (a :: ·)

/-- The node that a navigation of a type asks for, without children. -/
def newNode (mapping : EntityMapping) (owner segment path : String) : Except Error IncludeNode :=
  match mapping.navigation? segment with
  | some n => .ok (.node segment n.related n.includeKind [])
  | none => .error (.mapping owner (.unknownNavigation segment path))

/-- The segments of a path followed below a type, with what is missing on the way. -/
def insertSegments (require : Resolver) (path owner : String) :
    List String → List IncludeNode → Except Error (List IncludeNode)
  | [], nodes => .ok nodes
  | segment :: segments, nodes => do
    let mapping ← require owner
    let follow (a : IncludeNode) : Except Error IncludeNode := do
      let children ← insertSegments require path a.related segments a.children
      return .node a.navigation a.related a.kind children
    match ← changeNode segment follow nodes with
    | some changed => return changed
    | none =>
      let a ← newNode mapping owner segment path
      let b ← follow a
      return nodes ++ [b]

/-- Several paths inserted one after the other. -/
def insertPaths (require : Resolver) (root : String) :
    List String → List IncludeNode → Except Error (List IncludeNode)
  | [], nodes => .ok nodes
  | path :: paths, nodes => do
    let next ← insertSegments require path root (pathSegments path) nodes
    insertPaths require root paths next

/-- The tree of some paths; the root has to be mapped even without any path. -/
def resolveFrom (require : Resolver) (root : String) (paths : List String) :
    Except Error IncludeTree := do
  let _ ← require root
  let nodes ← insertPaths require root paths []
  return { root, nodes }

/-- The tree of some paths, with the mappings of a registry. -/
def resolve (r : Registry) (root : String) (paths : List String) : Except Error IncludeTree :=
  resolveFrom r.require root paths

end IncludeTree

end RelMap
