import ChatFlow.Workflow.Node

/-!
# Places in a tree

A place says which child to take on each level. A walk comes to every place of a tree once, and to
the places in their order as lists: a place before those below it, and these before the ones to the
right (`exists_places`).
-/

namespace ChatFlow.Node

variable {n : Node} {ns : List Node} {p : List Nat} {i : Nat}

/-- The node at a place; the root is at the empty one. -/
def at? : Node → List Nat → Option Node
  | n, [] => some n
  | n, i :: p => n.children[i]?.bind (·.at? p)

mutual

/-- The places of a tree, in the order of a walk. -/
def places : Node → List (List Nat)
  | ⟨_, _, _, children⟩ => [] :: placesFrom 0 children

/-- The places in children that are numbered from `i` on. -/
def placesFrom (i : Nat) : List Node → List (List Nat)
  | [] => []
  | n :: ns => n.places.map (i :: ·) ++ placesFrom (i + 1) ns

end

theorem places_eq (n : Node) : n.places = [] :: placesFrom 0 n.children := by
  cases n; rw [places]

/-! ### Which places there are -/

theorem mem_placesFrom :
    p ∈ placesFrom i ns ↔ ∃ k q c, p = (i + k) :: q ∧ ns[k]? = some c ∧ q ∈ c.places := by
  induction ns generalizing i with
  | nil => simp [placesFrom]
  | cons n ns ih =>
    rw [placesFrom, List.mem_append, List.mem_map, ih]
    constructor
    · rintro (⟨q, hq, rfl⟩ | ⟨k, q, c, rfl, hc, hq⟩)
      · exact ⟨0, q, n, rfl, rfl, hq⟩
      · exact ⟨k + 1, q, c, by rw [Nat.add_right_comm, Nat.add_assoc], hc, hq⟩
    · rintro ⟨_ | k, q, c, rfl, hc, hq⟩
      · obtain rfl : n = c := Option.some.inj hc
        exact .inl ⟨q, hq, rfl⟩
      · exact .inr ⟨k, q, c, by rw [Nat.add_right_comm, Nat.add_assoc], hc, hq⟩

theorem mem_places_iff : p ∈ n.places ↔ (n.at? p).isSome := by
  induction p generalizing n with
  | nil => simp [places_eq, at?]
  | cons i p ih =>
    rw [places_eq, List.mem_cons, mem_placesFrom, at?, Option.isSome_iff_exists]
    constructor
    · rintro (h | ⟨k, q, c, h, hc, hq⟩)
      · cases h
      · rw [Nat.zero_add] at h
        cases h
        obtain ⟨m, hm⟩ := Option.isSome_iff_exists.1 (ih.1 hq)
        exact ⟨m, by rw [hc]; exact hm⟩
    · rintro ⟨m, hm⟩
      obtain ⟨c, hc, hm⟩ := Option.bind_eq_some_iff.1 hm
      exact .inr ⟨i, p, c, by rw [Nat.zero_add], hc, ih.2 (by rw [hm]; rfl)⟩

/-! ### Their order -/

mutual

theorem pairwise_places : (n : Node) → n.places.Pairwise (· < ·)
  | ⟨id, kind, data, children⟩ => by
    rw [places, List.pairwise_cons]
    refine ⟨fun p hp => ?_, pairwise_placesFrom 0 children⟩
    obtain ⟨k, q, c, rfl, -, -⟩ := mem_placesFrom.1 hp
    exact List.nil_lt_cons _ _

theorem pairwise_placesFrom (i : Nat) : (ns : List Node) → (placesFrom i ns).Pairwise (· < ·)
  | [] => List.Pairwise.nil
  | n :: ns => by
    rw [placesFrom, List.pairwise_append, List.pairwise_map]
    refine ⟨(pairwise_places n).imp fun h => List.cons_lt_cons_iff.2 (.inr ⟨rfl, h⟩),
      pairwise_placesFrom (i + 1) ns, fun p hp q hq => ?_⟩
    obtain ⟨p, -, rfl⟩ := List.mem_map.1 hp
    obtain ⟨k, q, c, rfl, -, -⟩ := mem_placesFrom.1 hq
    exact List.cons_lt_cons_iff.2 (.inl (by omega))

end

/-! ### The nodes at them -/

mutual

theorem map_at?_places : (n : Node) → n.places.map n.at? = n.preorder.map some
  | ⟨id, kind, data, children⟩ => by
    rw [places, preorder, List.map_cons, List.map_cons]
    exact congrArg _ (map_at?_placesFrom _ [] children rfl)

/-- What is listed from some number on are the children after that many others. -/
theorem map_at?_placesFrom (m : Node) (cs : List Node) : (ns : List Node) → m.children = cs ++ ns →
    (placesFrom cs.length ns).map m.at? = (preorderAll ns).map some
  | [], _ => rfl
  | n :: ns, h => by
    have hhead : (n.places.map (cs.length :: ·)).map m.at? = n.preorder.map some := by
      rw [← map_at?_places n, List.map_map]
      refine List.map_congr_left fun p _ => ?_
      simp [at?, h]
    have htail := map_at?_placesFrom m (cs ++ [n]) ns (by rw [h, List.append_cons])
    rw [List.length_append, List.length_singleton] at htail
    rw [placesFrom, preorderAll, List.map_append, List.map_append, hhead, htail]

end

/-- A walk comes to every place of a tree once, in the order of the places. -/
theorem exists_places (n : Node) : ∃ places : List (List Nat), places.Pairwise (· < ·) ∧
    (∀ p, p ∈ places ↔ (n.at? p).isSome) ∧ n.nodes.map some = places.map n.at? :=
  ⟨n.places, pairwise_places n, fun _ => mem_places_iff, by
    rw [nodes_eq_preorder, map_at?_places]⟩

end ChatFlow.Node
