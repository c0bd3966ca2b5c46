/-
  Coterie.Base.History

  Histories of nodes that are addressed by their content.  A node names its parents by their
  addresses, so that the history of an address is the same wherever its nodes are stored.

  `Linear` is a history of single parents from a base to a tip.  There is at most one between two
  addresses, and its nodes are what the tip has in its history and the base does not.
-/

import Mathlib.Data.List.Basic
import Mathlib.Logic.Function.Basic
import Mathlib.Logic.Relation

namespace History

variable {Node Address : Type}

/-- Nodes are addressed by their content, and no node is in the history of its parents. -/
structure Addressing (parents : Node → List Address) where
  address : Node → Address
  injective : Function.Injective address
  generation : Address → Nat
  older : ∀ node, ∀ parent ∈ parents node, generation parent < generation (address node)

variable {parents : Node → List Address} (addressing : Addressing parents)

namespace Addressing

/-- The first address is a parent of what the second one names. -/
def Parent (parent child : Address) : Prop :=
  ∃ node, addressing.address node = child ∧ parent ∈ parents node

/-- The first address is the second one or in its history. -/
abbrev Ancestor : Address → Address → Prop :=
  Relation.ReflTransGen addressing.Parent

/-- The nodes from a base to a tip, oldest first, each the only parent of the next. -/
inductive Linear (base : Address) : List Node → Address → Prop where
  | base : Linear base [] base
  | next {nodes : List Node} {tip : Address} {node : Node} :
      Linear base nodes tip → parents node = [tip] →
        Linear base (nodes ++ [node]) (addressing.address node)

end Addressing

variable {addressing}

namespace Addressing.Ancestor

theorem generation_le {a b : Address} (h : addressing.Ancestor a b) :
    addressing.generation a ≤ addressing.generation b := by
  induction h with
  | refl => exact Nat.le_refl _
  | tail _ hparent ih =>
      obtain ⟨node, rfl, hmem⟩ := hparent
      have hlt := addressing.older node _ hmem
      omega

/-- The history of a node: the node and the histories of its parents. -/
theorem address_iff {oid : Address} {node : Node} :
    addressing.Ancestor oid (addressing.address node) ↔
      oid = addressing.address node ∨ ∃ parent ∈ parents node, addressing.Ancestor oid parent := by
  constructor
  · intro h
    rcases Relation.ReflTransGen.cases_tail h with hself | ⟨parent, hparent, node', hnode, hmem⟩
    · exact .inl hself.symm
    · rw [addressing.injective hnode] at hmem
      exact .inr ⟨parent, hmem, hparent⟩
  · rintro (rfl | ⟨parent, hmem, h⟩)
    · exact .refl
    · exact h.tail ⟨node, rfl, hmem⟩

end Addressing.Ancestor

namespace Addressing.Linear

variable {base tip : Address} {nodes : List Node}

theorem ancestor (h : addressing.Linear base nodes tip) : addressing.Ancestor base tip := by
  induction h with
  | base => exact .refl
  | next _ hparents ih => exact ih.tail ⟨_, rfl, by rw [hparents]; exact List.mem_singleton_self _⟩

/-- A tip of a longer history is younger than the base. -/
theorem generation_lt (h : addressing.Linear base nodes tip) {node : Node}
    (hparents : parents node = [tip]) :
    addressing.generation base < addressing.generation (addressing.address node) := by
  have hle := h.ancestor.generation_le
  have hlt := addressing.older node tip (by rw [hparents]; exact List.mem_singleton_self _)
  omega

theorem eq_nil_iff (h : addressing.Linear base nodes tip) : nodes = [] ↔ tip = base := by
  cases h with
  | base => exact ⟨fun _ => rfl, fun _ => rfl⟩
  | next h hparents =>
      constructor
      · intro hnil
        rw [List.append_eq_nil_iff] at hnil
        cases hnil.2
      · intro htip
        have hlt := h.generation_lt hparents
        rw [htip] at hlt
        exact absurd hlt (Nat.lt_irrefl _)

/-- A history can begin with one more node. -/
theorem cons {node : Node} (hparents : parents node = [base])
    (h : addressing.Linear (addressing.address node) nodes tip) :
    addressing.Linear base (node :: nodes) tip := by
  induction h with
  | base => exact @next _ _ _ _ _ [] _ _ .base hparents
  | next _ hnext ih =>
      rw [← List.cons_append]
      exact ih.next hnext

/-- There is one linear history between two addresses. -/
theorem unique {nodes' : List Node} (h : addressing.Linear base nodes tip)
    (h' : addressing.Linear base nodes' tip) : nodes = nodes' := by
  induction h generalizing nodes' with
  | base => exact ((h'.eq_nil_iff).mpr rfl).symm
  | next h hparents ih =>
      rename_i front tip node
      generalize hend : addressing.address node = newest at h'
      cases h' with
      | base =>
          have hlt := h.generation_lt hparents
          rw [hend] at hlt
          exact absurd hlt (Nat.lt_irrefl _)
      | next h' hparents' =>
          rw [addressing.injective hend] at hparents ⊢
          rw [hparents', List.singleton_inj] at hparents
          rw [hparents] at h'
          rw [ih h']

/-- The nodes of a linear history are those of the tip that the base does not have. -/
theorem mem_iff (h : addressing.Linear base nodes tip) (oid : Address) :
    oid ∈ nodes.map addressing.address ↔
      addressing.Ancestor oid tip ∧ ¬ addressing.Ancestor oid base := by
  induction h with
  | base =>
      rw [List.map_nil]
      constructor
      · intro hmem
        cases hmem
      · rintro ⟨hancestor, hno⟩
        exact absurd hancestor hno
  | next h hparents ih =>
      rename_i front tip node
      rw [List.map_append, List.mem_append, ih, List.map_singleton, List.mem_singleton,
        Ancestor.address_iff, hparents]
      have hyounger : ¬ addressing.Ancestor (addressing.address node) base := by
        intro hancestor
        have hle := hancestor.generation_le
        have hlt := h.generation_lt hparents
        omega
      constructor
      · rintro (⟨hancestor, hno⟩ | rfl)
        · exact ⟨.inr ⟨tip, List.mem_singleton_self _, hancestor⟩, hno⟩
        · exact ⟨.inl rfl, hyounger⟩
      · rintro ⟨rfl | ⟨parent, hparent, hancestor⟩, hno⟩
        · exact .inr rfl
        · rw [List.mem_singleton] at hparent
          rw [hparent] at hancestor
          exact .inl ⟨hancestor, hno⟩

/-- Every node of a linear history has one parent. -/
theorem single_parent (h : addressing.Linear base nodes tip) :
    ∀ node ∈ nodes, (parents node).length = 1 := by
  induction h with
  | base => exact fun _ hmem => absurd hmem List.not_mem_nil
  | next _ hparents ih =>
      intro node hmem
      rcases List.mem_append.mp hmem with hmem | hmem
      · exact ih node hmem
      · rw [List.mem_singleton.mp hmem, hparents]
        rfl

end Addressing.Linear

end History
