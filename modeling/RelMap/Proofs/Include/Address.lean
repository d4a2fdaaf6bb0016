import RelMap.Include.Tree
import Mathlib.Data.List.Nodup
import Mathlib.Tactic.Lemma

/-!
# Addresses of nodes

A node of a tree is told from all others by its address: the address of the node above it, and its
own index among the nodes there. The root has the empty address.
-/

namespace RelMap

namespace IncludeNode

/-- A node stands at an address among several nodes and all below them. -/
inductive At : List IncludeNode → List Nat → IncludeNode → Prop where
  | here {nodes i a} :
    nodes[i]? = some a →
    At nodes [i] a
  | deeper {nodes i above address a} :
    nodes[i]? = some above →
    At above.children address a →
    At nodes (i :: address) a

mutual

/-- The addresses of a node and of all below it, parents before children. -/
def addresses (own : List Nat) : IncludeNode → List (List Nat)
  | .node _ _ _ children => own :: addressesList own 0 children

/-- The addresses of siblings, from an index on, and of all below them. -/
def addressesList (above : List Nat) (index : Nat) : List IncludeNode → List (List Nat)
  | [] => []
  | a :: as => addresses (above ++ [index]) a ++ addressesList above (index + 1) as

end

mutual

lemma length_preorder : ∀ a : IncludeNode, (preorder a).length = size a
  | .node _ _ _ children => by
    rw [preorder, List.length_cons, length_preorderList children, size, Nat.add_comm]

lemma length_preorderList : ∀ as : List IncludeNode, (preorderList as).length = sizeList as
  | [] => rfl
  | a :: as => by
    rw [preorderList, List.length_append, length_preorder a, length_preorderList as, sizeList]

end

mutual

lemma length_addresses (own : List Nat) :
    ∀ a : IncludeNode, (addresses own a).length = size a
  | .node _ _ _ children => by
    rw [addresses, List.length_cons, length_addressesList own 0 children, size, Nat.add_comm]

lemma length_addressesList (above : List Nat) (index : Nat) :
    ∀ as : List IncludeNode, (addressesList above index as).length = sizeList as
  | [] => rfl
  | a :: as => by
    rw [addressesList, List.length_append, length_addresses _ a,
      length_addressesList above (index + 1) as, sizeList]

end

mutual

/-- What follows the own address of a node is the address of one below it. -/
lemma at_of_mem_addresses (own : List Nat) {x : List Nat × IncludeNode} :
    ∀ a : IncludeNode, x ∈ (addresses own a).zip (preorder a) →
      x = (own, a) ∨ ∃ address, x.1 = own ++ address ∧ At a.children address x.2
  | .node navigation related kind children, hx => by
    rw [addresses, preorder, List.zip_cons_cons, List.mem_cons] at hx
    rcases hx with rfl | hx
    · exact .inl rfl
    · obtain ⟨i, address, eq, stands⟩ := at_of_mem_addressesList own 0 children hx
      rw [Nat.zero_add] at eq
      exact .inr ⟨i :: address, eq, stands⟩

/-- What follows the address above siblings is the address of one of them, or of one below. -/
lemma at_of_mem_addressesList (above : List Nat) (index : Nat) {x : List Nat × IncludeNode} :
    ∀ as : List IncludeNode, x ∈ (addressesList above index as).zip (preorderList as) →
      ∃ i address, x.1 = above ++ (index + i) :: address ∧ At as (i :: address) x.2
  | [], hx => by cases hx
  | a :: as, hx => by
    have lengths : (addresses (above ++ [index]) a).length = (preorder a).length := by
      rw [length_addresses, length_preorder]
    rw [addressesList, preorderList, List.zip_append lengths, List.mem_append] at hx
    rcases hx with hx | hx
    · rcases at_of_mem_addresses _ a hx with rfl | ⟨address, eq, stands⟩
      · exact ⟨0, [], rfl, .here rfl⟩
      · exact ⟨0, address, by rw [eq, List.append_assoc]; rfl, .deeper rfl stands⟩
    · obtain ⟨i, address, eq, stands⟩ := at_of_mem_addressesList above (index + 1) as hx
      refine ⟨i + 1, address, by rw [eq, Nat.add_right_comm, Nat.add_assoc], ?_⟩
      cases stands with
      | here hi => exact .here hi
      | deeper hi rest => exact .deeper hi rest

end

mutual

/-- No two nodes have the same address, which begins with that of the node above. -/
lemma nodup_addresses (own : List Nat) :
    ∀ a : IncludeNode, (addresses own a).Nodup ∧ ∀ q ∈ addresses own a, own <+: q
  | .node _ _ _ children => by
    obtain ⟨nodup, below⟩ := nodup_addressesList own 0 children
    rw [addresses]
    constructor
    · refine List.nodup_cons.2 ⟨fun again => ?_, nodup⟩
      obtain ⟨i, _, longer⟩ := below own again
      have lengths := longer.length_le
      rw [List.length_append, List.length_singleton] at lengths
      omega
    · intro q hq
      rcases List.mem_cons.1 hq with rfl | hq
      · exact List.prefix_rfl
      · obtain ⟨i, _, longer⟩ := below q hq
        exact (List.prefix_append own [i]).trans longer

/-- The addresses of siblings go on with different indices. -/
lemma nodup_addressesList (above : List Nat) (index : Nat) :
    ∀ as : List IncludeNode, (addressesList above index as).Nodup ∧
      ∀ q ∈ addressesList above index as, ∃ i, index ≤ i ∧ above ++ [i] <+: q
  | [] => ⟨.nil, List.forall_mem_nil _⟩
  | a :: as => by
    obtain ⟨first, below⟩ := nodup_addresses (above ++ [index]) a
    obtain ⟨others, later⟩ := nodup_addressesList above (index + 1) as
    rw [addressesList]
    constructor
    · refine List.nodup_append.2 ⟨first, others, fun q hq q' hq' same => ?_⟩
      subst same
      obtain ⟨i, le, begins⟩ := later q hq'
      have lengths : (above ++ [index]).length = (above ++ [i]).length := by
        rw [List.length_append, List.length_append, List.length_singleton, List.length_singleton]
      have same := (List.prefix_of_prefix_length_le (below q hq) begins (Nat.le_of_eq lengths)
        ).eq_of_length lengths
      have same := List.cons.inj (List.append_cancel_left same)
      omega
    · intro q hq
      rcases List.mem_append.1 hq with hq | hq
      · exact ⟨index, Nat.le_refl _, below q hq⟩
      · obtain ⟨i, le, begins⟩ := later q hq
        exact ⟨i, by omega, begins⟩

end

end IncludeNode

namespace IncludeTree

open IncludeNode (At)

/-- The addresses of the root and of all nodes, parents before children. -/
def addresses (t : IncludeTree) : List (List Nat) :=
  [] :: IncludeNode.addressesList [] 0 t.nodes

lemma length_preorder (t : IncludeTree) : t.preorder.length = t.size :=
  IncludeNode.length_preorderList t.nodes

lemma length_addresses (t : IncludeTree) : t.addresses.length = t.size + 1 :=
  congrArg (· + 1) (IncludeNode.length_addressesList [] 0 t.nodes)

/-- No two nodes have the same address. -/
lemma nodup_addresses (t : IncludeTree) : t.addresses.Nodup := by
  obtain ⟨nodup, below⟩ := IncludeNode.nodup_addressesList [] 0 t.nodes
  refine List.nodup_cons.2 ⟨fun again => ?_, nodup⟩
  obtain ⟨i, _, longer⟩ := below [] again
  exact List.cons_ne_nil i [] (List.prefix_nil.1 longer)

/-- Every node stands at its address. -/
lemma at_address {t : IncludeTree} {i : Nat} {a : IncludeNode} {q : List Nat}
    (ha : t.preorder[i]? = some a) (hq : t.addresses[i + 1]? = some q) : At t.nodes q a := by
  have pair : ((IncludeNode.addressesList [] 0 t.nodes).zip t.preorder)[i]? = some (q, a) :=
    List.getElem?_zip_eq_some.2 ⟨hq, ha⟩
  obtain ⟨i, address, eq, stands⟩ :=
    IncludeNode.at_of_mem_addressesList [] 0 t.nodes (List.mem_of_getElem? pair)
  rw [List.nil_append, Nat.zero_add] at eq
  cases eq
  exact stands

end IncludeTree

end RelMap
