import Mathlib.Data.List.Chain
import Mathlib.Data.List.Nodup

/-!
# Singly linked chains

A chain is a list of nodes laid out by a successor function: it starts at
`head`, ends at `tail`, and the successor of every node before the tail is the
next node.  The successor of the tail itself is unconstrained, which is what
lets a client append by writing that one link.
-/

namespace DriveBus.LinkedChain

variable {Node : Type*}

/-- `nodes` is the chain from `head` to `tail` along `next`. -/
structure Chain (next : Node → Node) (head tail : Node) (nodes : List Node) :
    Prop where
  head_eq : nodes.head? = some head
  tail_eq : nodes.getLast? = some tail
  linked : nodes.IsChain fun left right => next left = right

namespace Chain

variable {next next' : Node → Node} {head tail node : Node} {nodes : List Node}

theorem ne_nil (hchain : Chain next head tail nodes) : nodes ≠ [] := by
  intro hnil
  simpa [hnil] using hchain.head_eq

theorem head_mem (hchain : Chain next head tail nodes) : head ∈ nodes :=
  List.mem_of_mem_head? hchain.head_eq

theorem tail_mem (hchain : Chain next head tail nodes) : tail ∈ nodes :=
  List.mem_of_getLast? hchain.tail_eq

/-- A chain whose two ends differ has a second node, and dropping the first
one leaves the chain from its successor. -/
theorem pop (hchain : Chain next head tail nodes) (hne : head ≠ tail) :
    ∃ rest, nodes = head :: rest ∧ Chain next (next head) tail rest := by
  obtain ⟨hhead, htail, hlinked⟩ := hchain
  match nodes, hhead, htail, hlinked with
  | [only], hhead, htail, _ =>
      simp only [List.head?_cons, Option.some.injEq] at hhead
      simp only [List.getLast?_singleton, Option.some.injEq] at htail
      exact absurd (hhead.symm.trans htail) hne
  | first :: second :: rest, hhead, htail, hlinked =>
      simp only [List.head?_cons, Option.some.injEq] at hhead
      subst hhead
      rw [List.isChain_cons_cons] at hlinked
      refine ⟨second :: rest, rfl, ?_, ?_, hlinked.2⟩
      · simp [hlinked.1]
      · simpa [List.getLast?_cons_cons] using htail

/-- A chain without repetition whose two ends coincide has one node. -/
theorem eq_singleton (hchain : Chain next tail tail nodes) (hnodup : nodes.Nodup) :
    nodes = [tail] := by
  obtain ⟨hhead, htail, -⟩ := hchain
  obtain ⟨rest, rfl⟩ := List.head?_eq_some_iff.mp hhead
  cases rest with
  | nil => rfl
  | cons second rest =>
      rw [List.getLast?_cons_cons] at htail
      exact absurd (List.mem_of_getLast? htail) (List.nodup_cons.mp hnodup).1

/-- Links of nodes other than the tail decide the chain. -/
theorem congr (hchain : Chain next head tail nodes) (hnodup : nodes.Nodup)
    (hagree : ∀ node ∈ nodes, node ≠ tail → next' node = next node) :
    Chain next' head tail nodes := by
  obtain ⟨hhead, htail, hlinked⟩ := hchain
  refine ⟨hhead, htail, ?_⟩
  obtain ⟨front, rfl⟩ : ∃ front, nodes = front ++ [tail] :=
    ⟨nodes.dropLast, (List.dropLast_append_getLast? tail htail).symm⟩
  have hfront : ∀ node ∈ front, node ≠ tail := by
    intro node hmem heq
    exact (List.nodup_append.mp hnodup).2.2 node hmem tail (by simp) heq
  rw [List.isChain_iff_forall_rel_of_append_cons_cons] at hlinked ⊢
  intro left right before after hsplit
  have hleft : left ∈ front := by
    have hdrop := congrArg List.dropLast hsplit
    rw [List.dropLast_concat] at hdrop
    rw [hdrop, List.dropLast_append_cons]
    simp
  rw [hagree left (by simp [hleft]) (hfront left hleft)]
  exact hlinked hsplit

/-- Writing the tail's link and moving the tail appends one node. -/
theorem append (hchain : Chain next head tail nodes) (hnodup : nodes.Nodup)
    (hagree : ∀ node ∈ nodes, node ≠ tail → next' node = next node)
    (hlink : next' tail = node) :
    Chain next' head node (nodes ++ [node]) := by
  have hsame := hchain.congr hnodup hagree
  refine ⟨?_, by simp, ?_⟩
  · simp [List.head?_append, hsame.head_eq]
  · rw [List.isChain_append]
    refine ⟨hsame.linked, List.isChain_singleton _, ?_⟩
    intro last hlast first hfirst
    rw [Option.mem_def, hsame.tail_eq, Option.some.injEq] at hlast
    simp only [List.head?_cons, Option.mem_def, Option.some.injEq] at hfirst
    rw [← hlast, ← hfirst, hlink]

end Chain

/-- Walk from `head` along `next` until `tail`, at most `fuel` steps. -/
def follow [DecidableEq Node] (next : Node → Node) (tail : Node) :
    ℕ → Node → List Node
  | 0, node => [node]
  | fuel + 1, node =>
      if node = tail then [node] else node :: follow next tail fuel (next node)

/-- Walking a chain without repetitions visits exactly its nodes. -/
theorem Chain.follow_eq [DecidableEq Node] {next : Node → Node}
    {head tail : Node} {nodes : List Node} {fuel : ℕ}
    (hchain : Chain next head tail nodes) (hnodup : nodes.Nodup)
    (hfuel : nodes.length ≤ fuel + 1) :
    follow next tail fuel head = nodes := by
  induction fuel generalizing head nodes with
  | zero =>
      obtain ⟨node, hnode⟩ : ∃ node, nodes = [node] := by
        have hpos := List.length_pos_iff.mpr hchain.ne_nil
        exact List.length_eq_one_iff.mp (by omega)
      subst hnode
      have hhead := hchain.head_eq
      simp only [List.head?_cons, Option.some.injEq] at hhead
      simp [follow, hhead]
  | succ fuel ih =>
      rw [follow]
      split
      next heq =>
        -- A repetition-free chain from its own tail is a single node.
        subst heq
        match nodes, hchain.head_eq, hchain.tail_eq with
        | [only], hhead, _ =>
            simp only [List.head?_cons, Option.some.injEq] at hhead
            rw [hhead]
        | first :: second :: rest, hhead, htail =>
            simp only [List.head?_cons, Option.some.injEq] at hhead
            rw [List.getLast?_cons_cons] at htail
            have hmem := List.mem_of_getLast? htail
            exact absurd (hhead ▸ hmem) (List.nodup_cons.mp hnodup).1
      next hne =>
        obtain ⟨rest, rfl, hrest⟩ := hchain.pop hne
        rw [ih hrest (List.nodup_cons.mp hnodup).2 (by simpa using hfuel)]

end DriveBus.LinkedChain
