import FormCodemod.Proofs.Lint.Visits

/-!
# The components of a module

`Component.all` lists the components of a tree together with how each of them gets its name. The
list goes through the tree in the order of its paths (`all_eq_flatMap`), and a node and the one it
is a part of are all it takes to tell what stands in it (`mem_all_iff`). The components in it that
have a name are just those that linting hands to the rule for injected props
(`exists_mem_all_iff_exists_hands`).
-/

namespace FormCodemod

open FormCodemod.Syntax

/-- The node is what a module exports by default. -/
def Origin.isDefault (above : Option (Node × Nat)) : Bool :=
  above.any (·.1.kind = .exportDefault)

/-- How the component that a node is gets its name, where it hangs there. -/
def Origin.under (above : Option (Node × Nat)) (n : Node) : Origin :=
  if isDefault above then .defaultExport
  else if n.kind = .declarator then .variable
  else .declaration

namespace Component

variable {tree : Node} {origin : Origin} {c : Component}

/-- What the node itself adds to the list. -/
def listed (above : Option (Node × Nat)) (n : Node) : List (Origin × Component) :=
  (ofNode? n).toList.map (Origin.under above n, ·)

theorem mem_listed_iff {above : Option (Node × Nat)} {n : Node} :
    (origin, c) ∈ listed above n ↔ ofNode? n = some c ∧ origin = Origin.under above n := by
  rw [listed, List.mem_map]
  constructor
  · rintro ⟨c', hc, heq⟩
    cases heq
    exact ⟨Option.mem_toList.1 hc, rfl⟩
  · rintro ⟨hc, rfl⟩
    exact ⟨c, Option.mem_toList.2 hc, rfl⟩

mutual

theorem all_eq_gather : ∀ (above : Option (Node × Nat)) (n : Node),
    all (Origin.isDefault above) n = n.gather listed above
  | above, .mk kind span parts => by
    rw [Node.gather, ← allIn_eq_gatherParts (.mk kind span parts) 0 parts]
    by_cases hkind : kind = .exportDefault
    · cases hkind
      rfl
    · rw [all, Node.kind, decide_eq_false hkind]
      · rfl
      · exact fun heq => hkind heq

theorem allIn_eq_gatherParts : ∀ (parent : Node) (i : Nat) (ns : List Node),
    allIn (parent.kind = .exportDefault) ns = Node.gatherParts listed parent i ns
  | _, _, [] => rfl
  | parent, i, n :: ns => by
    rw [allIn, Node.gatherParts, ← all_eq_gather (some (parent, i)) n,
      ← allIn_eq_gatherParts parent (i + 1) ns]
    rfl

end

/-- The list goes through the tree in the order of its paths. -/
theorem all_eq_flatMap (tree : Node) :
    all false tree = tree.paths.flatMap fun path =>
      (tree.at? path).toList.flatMap (listed (tree.above? path)) := by
  rw [show false = Origin.isDefault none from rfl, all_eq_gather, Node.gather_eq_flatMap]
  simp only [Option.or_none]

/-- What is listed is the component that some node is, with how it gets its name where this node
    hangs. -/
theorem mem_all_iff :
    (origin, c) ∈ all false tree ↔
      ∃ path n, tree.at? path = some n ∧ ofNode? n = some c ∧
        origin = Origin.under (tree.above? path) n := by
  rw [show false = Origin.isDefault none from rfl, all_eq_gather, Node.mem_gather_iff]
  simp only [mem_listed_iff]

/-- The components with a name that are listed are those that linting hands to the rule for injected
    props. -/
theorem exists_mem_all_iff_exists_hands :
    (∃ origin, (origin, c) ∈ all false tree) ∧ c.name.isSome ↔
      ∃ path, Hands tree path (.component c) := by
  simp only [mem_all_iff]
  constructor
  · rintro ⟨⟨_, path, n, hat, hc, -⟩, hname⟩
    exact ⟨path, hands_of_ofNode? hat hc hname⟩
  · rintro ⟨path, hands⟩
    obtain ⟨n, hat, hc, hname⟩ := hands.exists_ofNode?
    exact ⟨⟨_, path, n, hat, hc, rfl⟩, hname⟩

end Component

end FormCodemod
