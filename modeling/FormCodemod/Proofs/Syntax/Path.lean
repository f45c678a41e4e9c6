import FormCodemod.Syntax.Node

/-!
# Paths in a tree

A *path* leads from the root of a tree to one of its nodes by the numbers of the parts on the way
down. Unlike nodes, of which two may look alike, no two paths lead to the same place. `Node.paths`
lists those that lead somewhere, in the order in which a walk meets the nodes: it is the
lexicographic order, where a path comes ahead of those that lead on from it (`pairwise_paths`,
`mem_paths_iff`).

A function that walks over a tree and looks at each node and at where it hangs is a `Node.gather`.
`gather_eq_flatMap` says what it does without recursion: it goes through the paths.
-/

namespace FormCodemod.Syntax.Node

/-- The node at the end of a path. -/
def at? : Node → List Nat → Option Node
  | n, [] => some n
  | mk _ _ parts, i :: path => parts[i]?.bind (at? · path)

/-- The node that the one at the end of a path is a part of, and its number there. -/
def above? (tree : Node) (path : List Nat) : Option (Node × Nat) :=
  path.getLast?.bind fun i => (tree.at? path.dropLast).map (·, i)

mutual

/-- The paths of a tree, in the order of a walk. -/
def paths : Node → List (List Nat)
  | mk _ _ parts => [] :: pathsFrom 0 parts

/-- The paths of some trees that are parts of one, the first of which has the given number. -/
def pathsFrom : Nat → List Node → List (List Nat)
  | _, [] => []
  | i, n :: ns => (paths n).map (i :: ·) ++ pathsFrom (i + 1) ns

end

section

variable {β : Type} (f : Option (Node × Nat) → Node → List β)

mutual

/-- What a walk gathers from a tree, given what to take from a node that is such a part of such a
    node. -/
def gather (above : Option (Node × Nat)) : Node → List β
  | mk kind span parts =>
    f above (mk kind span parts) ++ gatherParts (mk kind span parts) 0 parts

/-- What a walk gathers from parts of a node, the first of which has the given number. -/
def gatherParts (parent : Node) : Nat → List Node → List β
  | _, [] => []
  | i, n :: ns => gather (some (parent, i)) n ++ gatherParts parent (i + 1) ns

end

end

variable {tree n parent : Node} {path : List Nat} {i : Nat} {ns : List Node}

/-! ### Steps of a path -/

@[simp] theorem at?_nil (n : Node) : n.at? [] = some n := by
  rw [at?]

theorem at?_cons (n : Node) (i : Nat) (path : List Nat) :
    n.at? (i :: path) = n.parts[i]?.bind (at? · path) := by
  cases n
  rfl

theorem at?_append (tree : Node) (path rest : List Nat) :
    tree.at? (path ++ rest) = (tree.at? path).bind (at? · rest) := by
  induction path generalizing tree with
  | nil => rfl
  | cons i path ih =>
    rw [List.cons_append, at?_cons, at?_cons, Option.bind_assoc]
    congr 1
    funext part
    exact ih part

/-- A path goes on to each of the parts of the node at its end. -/
theorem at?_append_singleton (h : tree.at? path = some parent) (hi : parent.parts[i]? = some n) :
    tree.at? (path ++ [i]) = some n := by
  rw [at?_append, h, Option.bind_some, at?_cons, hi, Option.bind_some, at?_nil]

theorem above?_nil (tree : Node) : tree.above? [] = none := rfl

/-- Below the root, a node hangs at the end of the path that is shorter by one. -/
theorem above?_append_singleton (tree : Node) (path : List Nat) (i : Nat) :
    tree.above? (path ++ [i]) = (tree.at? path).map (·, i) := by
  rw [above?, List.getLast?_concat, List.dropLast_concat, Option.bind_some]

theorem above?_singleton (n : Node) (i : Nat) : n.above? [i] = some (n, i) := rfl

theorem above?_cons_cons (n : Node) (i j : Nat) (path : List Nat) :
    n.above? (i :: j :: path) = n.parts[i]?.bind (above? · (j :: path)) := by
  rw [above?, List.getLast?_cons_cons, List.dropLast_cons_cons, at?_cons]
  cases n.parts[i]? with
  | none => simp
  | some part => rfl

theorem exists_above? (hne : path ≠ []) (h : tree.at? path = some n) :
    ∃ p, tree.above? path = some p := by
  obtain ⟨init, i, rfl⟩ := (List.eq_nil_or_concat path).resolve_left hne
  rw [List.concat_eq_append] at h ⊢
  rw [at?_append] at h
  obtain ⟨parent, hparent, -⟩ := Option.bind_eq_some_iff.1 h
  exact ⟨(parent, i), by rw [above?_append_singleton, hparent, Option.map_some]⟩

theorem above?_eq_some_iff :
    tree.above? path = some (parent, i) ↔
      ∃ init, path = init ++ [i] ∧ tree.at? init = some parent := by
  constructor
  · intro h
    rcases List.eq_nil_or_concat path with rfl | ⟨init, j, rfl⟩
    · cases h
    · rw [List.concat_eq_append, above?_append_singleton] at h
      obtain ⟨m, hm, heq⟩ := Option.map_eq_some_iff.1 h
      cases heq
      exact ⟨init, List.concat_eq_append, hm⟩
  · rintro ⟨init, rfl, h⟩
    rw [above?_append_singleton, h, Option.map_some]

/-! ### The list of paths -/

mutual

/-- The paths listed are those that lead to a node. -/
theorem mem_paths_iff : ∀ (n : Node) {path : List Nat}, path ∈ n.paths ↔ (n.at? path).isSome
  | mk kind span parts, path => by
    rw [paths, List.mem_cons, mem_pathsFrom_iff 0 parts]
    cases path with
    | nil => simp
    | cons i path =>
      rw [at?]
      constructor
      · rintro (h | ⟨j, rest, h, hrest⟩)
        · cases h
        · cases h
          rwa [Nat.zero_add]
      · exact fun h => .inr ⟨i, path, by rw [Nat.zero_add], h⟩

theorem mem_pathsFrom_iff : ∀ (i : Nat) (ns : List Node) {path : List Nat},
    path ∈ pathsFrom i ns ↔
      ∃ j rest, path = (i + j) :: rest ∧ (ns[j]?.bind (at? · rest)).isSome
  | i, [], path => by simp [pathsFrom]
  | i, n :: ns, path => by
    rw [pathsFrom, List.mem_append, List.mem_map, mem_pathsFrom_iff (i + 1) ns]
    constructor
    · rintro (⟨rest, hrest, rfl⟩ | ⟨j, rest, rfl, hrest⟩)
      · exact ⟨0, rest, rfl, (mem_paths_iff n).1 hrest⟩
      · exact ⟨j + 1, rest, by rw [Nat.add_assoc, Nat.add_comm 1], hrest⟩
    · rintro ⟨j, rest, rfl, hrest⟩
      cases j with
      | zero => exact .inl ⟨rest, (mem_paths_iff n).2 hrest, rfl⟩
      | succ j => exact .inr ⟨j, rest, by rw [Nat.add_assoc, Nat.add_comm 1], hrest⟩

end

theorem mem_paths_of_at? (h : tree.at? path = some n) : path ∈ tree.paths :=
  (mem_paths_iff tree).2 (Option.isSome_of_eq_some h)

mutual

/-- The paths are listed in lexicographic order, and each but once. -/
theorem pairwise_paths : ∀ n : Node, n.paths.Pairwise (· < ·)
  | mk kind span parts => by
    rw [paths, List.pairwise_cons]
    refine ⟨fun path h => ?_, pairwise_pathsFrom 0 parts⟩
    obtain ⟨j, rest, rfl, -⟩ := (mem_pathsFrom_iff 0 parts).1 h
    exact List.nil_lt_cons _ _

theorem pairwise_pathsFrom : ∀ (i : Nat) (ns : List Node), (pathsFrom i ns).Pairwise (· < ·)
  | _, [] => .nil
  | i, n :: ns => by
    rw [pathsFrom, List.pairwise_append]
    refine ⟨?_, pairwise_pathsFrom (i + 1) ns, fun path h path' h' => ?_⟩
    · exact List.pairwise_map.2 ((pairwise_paths n).imp fun h => List.cons_lt_cons_self.2 h)
    · -- Paths into later parts begin with a greater number.
      obtain ⟨rest, -, rfl⟩ := List.mem_map.1 h
      obtain ⟨j, rest', rfl, -⟩ := (mem_pathsFrom_iff (i + 1) ns).1 h'
      exact List.cons_lt_cons_iff.2 (.inl (by omega))

end

theorem nodup_paths (n : Node) : n.paths.Nodup := by
  refine (pairwise_paths n).imp fun h => ?_
  rintro rfl
  exact List.lt_irrefl _ h

/-! ### Walks -/

section

variable {β : Type} (f : Option (Node × Nat) → Node → List β)

mutual

/-- A walk goes through the paths. The root hangs where it is said to hang, and all other nodes
    hang where the tree has them. -/
theorem gather_eq_flatMap : ∀ (above : Option (Node × Nat)) (n : Node),
    gather f above n =
      n.paths.flatMap fun path => (n.at? path).toList.flatMap (f ((n.above? path).or above))
  | above, mk kind span parts => by
    rw [gather, paths, List.flatMap_cons,
      gatherParts_eq_flatMap (mk kind span parts) above 0 parts List.drop_zero, above?_nil,
      Option.none_or, at?_nil, Option.toList_some, List.flatMap_singleton]

theorem gatherParts_eq_flatMap : ∀ (parent : Node) (above : Option (Node × Nat)) (i : Nat)
    (ns : List Node), parent.parts.drop i = ns →
    gatherParts f parent i ns =
      (pathsFrom i ns).flatMap fun path =>
        (parent.at? path).toList.flatMap (f ((parent.above? path).or above))
  | _, _, _, [], _ => rfl
  | parent, above, i, n :: ns, h => by
    have hn : parent.parts[i]? = some n := by
      rw [← List.head?_drop, h, List.head?_cons]
    have hns : parent.parts.drop (i + 1) = ns := by
      rw [← List.tail_drop, h, List.tail_cons]
    rw [gatherParts, pathsFrom, List.flatMap_append, List.flatMap_map,
      gather_eq_flatMap (some (parent, i)) n, gatherParts_eq_flatMap parent above (i + 1) ns hns]
    congr 2
    funext path
    rw [at?_cons, hn, Option.bind_some]
    cases path with
    | nil => rw [above?_singleton]; rfl
    | cons j path =>
      rw [above?_cons_cons, hn, Option.bind_some]
      cases hat : n.at? (j :: path) with
      | none => rfl
      | some m =>
        obtain ⟨p, hp⟩ := exists_above? (List.cons_ne_nil j path) hat
        rw [hp]
        rfl

end

/-- What a walk gathers comes from the nodes at the ends of paths. -/
theorem mem_gather_iff {b : β} :
    b ∈ tree.gather f none ↔ ∃ path n, tree.at? path = some n ∧ b ∈ f (tree.above? path) n := by
  rw [gather_eq_flatMap, List.mem_flatMap]
  constructor
  · rintro ⟨path, -, hb⟩
    obtain ⟨n, hn, hb⟩ := List.mem_flatMap.1 hb
    rw [Option.or_none] at hb
    exact ⟨path, n, Option.mem_toList.1 hn, hb⟩
  · rintro ⟨path, n, hn, hb⟩
    refine ⟨path, mem_paths_of_at? hn, List.mem_flatMap.2 ⟨n, Option.mem_toList.2 hn, ?_⟩⟩
    rwa [Option.or_none]

end

/-! ### The nodes of a tree -/

mutual

theorem preorder_eq_gather : ∀ (above : Option (Node × Nat)) (n : Node),
    n.preorder = n.gather (fun _ m => [m]) above
  | _, mk _ _ parts => by
    rw [preorder, gather, preorderAll_eq_gatherParts _ 0 parts, List.singleton_append]

theorem preorderAll_eq_gatherParts : ∀ (parent : Node) (i : Nat) (ns : List Node),
    preorderAll ns = gatherParts (fun _ m => [m]) parent i ns
  | _, _, [] => rfl
  | parent, i, n :: ns => by
    rw [preorderAll, gatherParts, preorder_eq_gather (some (parent, i)) n,
      preorderAll_eq_gatherParts parent (i + 1) ns]

end

/-- The nodes of a tree are those at the ends of its paths. -/
theorem mem_preorder_iff : n ∈ tree.preorder ↔ ∃ path, tree.at? path = some n := by
  rw [preorder_eq_gather none, mem_gather_iff]
  simp only [List.mem_singleton]
  exact ⟨fun ⟨path, m, hm, hn⟩ => ⟨path, hn ▸ hm⟩, fun ⟨path, h⟩ => ⟨path, n, h, rfl⟩⟩

theorem mem_preorder_of_at? (h : tree.at? path = some n) : n ∈ tree.preorder :=
  mem_preorder_iff.2 ⟨path, h⟩

theorem mem_preorder_of_mem_parts (h : parent ∈ tree.preorder) (hn : n ∈ parent.parts) :
    n ∈ tree.preorder := by
  obtain ⟨path, hpath⟩ := mem_preorder_iff.1 h
  obtain ⟨i, hi⟩ := List.mem_iff_getElem?.1 hn
  exact mem_preorder_of_at? (at?_append_singleton hpath hi)

end FormCodemod.Syntax.Node
