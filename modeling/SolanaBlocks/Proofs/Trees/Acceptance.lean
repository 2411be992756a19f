import SolanaBlocks.Palette.Standard
import SolanaBlocks.Proofs.Forest.Orderly
import SolanaBlocks.Proofs.Trees.Export
import SolanaBlocks.Proofs.Trees.Planting

/-!
# Which trees can be loaded

Stubs plant nothing, so that trees can be loaded exactly if what is left without them is well formed
and no id comes twice in it. Exported again, the workspace gives the normal form of these trees.
-/

namespace SolanaBlocks

namespace Workspace

/-! ## Stubs are passed over -/

theorem plant_of_revisited {tree : BlockTree} (stub : tree.revisited = true) (v : Workspace) :
    v.plant tree = .ok (v, none) := by
  cases tree
  cases stub
  rfl

theorem plantMembers_pruneAll {trees : List BlockTree}
    (each : ∀ tree ∈ trees, ∀ v : Workspace, v.plant tree.prune = v.plant tree) (v : Workspace) :
    v.plantMembers (pruneAll trees) = v.plantMembers trees := by
  induction trees generalizing v with
  | nil => rfl
  | cons tree rest ih =>
      obtain ⟨here, later⟩ := List.forall_mem_cons.1 each
      rw [pruneAll]
      cases stub : tree.revisited with
      | true =>
          have passed : v.plantMembers (tree :: rest) = v.plantMembers rest := by
            rw [plantMembers, plant_of_revisited stub]
            cases made : v.plantMembers rest with
            | error e => simp only [Bind.bind, Except.bind, made]
            | ok planted => simp only [Bind.bind, Except.bind, made]; rfl
          rw [passed]
          exact ih later v
      | false =>
          rw [if_neg Bool.false_ne_true, plantMembers, plantMembers, here]
          simp only [ih later]

theorem plantInputs_pruneInputs {inputs : List TreeInput}
    (each : ∀ input ∈ inputs, ∀ tree ∈ input.trees, ∀ v : Workspace,
      v.plant tree.prune = v.plant tree) (v : Workspace) (owner : BlockId) :
    v.plantInputs owner (pruneInputs inputs) = v.plantInputs owner inputs := by
  induction inputs generalizing v with
  | nil => rfl
  | cons input rest ih =>
      obtain ⟨here, later⟩ := List.forall_mem_cons.1 each
      rw [pruneInputs]
      cases input with
      | empty slot => exact ih later v
      | single slot child =>
          rw [TreeInput.prune]
          cases stub : child.revisited with
          | true =>
              rw [if_pos rfl, plantInputs, plantInputs, plant_of_revisited stub]
              exact ih later v
          | false =>
              rw [if_neg Bool.false_ne_true, plantInputs, plantInputs,
                here child (List.mem_singleton_self child)]
              simp only [ih later]
      | chain slot members =>
          have kept (v : Workspace) : v.plantMembers (pruneAll members) = v.plantMembers members :=
            plantMembers_pruneAll here v
          rw [TreeInput.prune]
          by_cases none : pruneAll members = []
          · rw [if_pos (List.isEmpty_iff.2 none), plantInputs, plantInputs, ← kept, none]
            exact ih later v
          · rw [if_neg (fun empty => none (List.isEmpty_iff.1 empty)), plantInputs, plantInputs, kept]
            simp only [ih later]

theorem plant_prune (tree : BlockTree) (v : Workspace) : v.plant tree.prune = v.plant tree := by
  induction tree using BlockTree.child_induction generalizing v with
  | step tree ih =>
      cases tree with
      | mk id type fields inputs next revisited =>
          rw [BlockTree.prune, plant, plant]
          have inner (v : Workspace) : v.plantInputs id (pruneInputs inputs) =
              v.plantInputs id inputs := plantInputs_pruneInputs ih v id
          simp only [inner]

theorem ofTrees_pruneAll (palette : Palette) (trees : List BlockTree) :
    ofTrees palette (pruneAll trees) = ofTrees palette trees := by
  rw [ofTrees, ofTrees, plantMembers_pruneAll fun tree _ => plant_prune tree]

/-! ## Loading and saving -/

theorem ofTrees_eq_ok_iff {palette : Palette} {trees : List BlockTree} {w : Workspace} :
    ofTrees palette trees = .ok w ↔
      ∃ ids, plantMembers { palette := palette } trees = .ok (w, ids) := by
  rw [ofTrees]
  cases plantMembers { palette := palette } trees with
  | error e => simp [Except.map]
  | ok planted => simp [Except.map, Prod.ext_iff]

/-- The normal form of trees that depict a workspace is what it exports. -/
theorem Planted.toTrees_eq {v w : Workspace} {m members : Seat → List BlockId}
    {trees : List BlockTree} (p : Planted v w m members trees) (start : v.roots = [])
    (distinct : ∀ type ∈ w.palette.types, (type.slots.map SlotDecl.name).Nodup) :
    w.toTrees = trees.map (BlockTree.normal w.palette none) := by
  have exports := exports_toTrees p.grown.laid p.grown.typed distinct
  have known {sub : BlockTree} (inside : sub ∈ subtreesOf trees) :
      (w.palette.get? sub.type).isSome := by
    obtain ⟨declaration, known, -⟩ := (p.depicts sub inside).fields
    rw [known]
    rfl
  -- everything in the normal forms is the normal form of something that has been planted
  have source {sub : BlockTree}
      (inside : sub ∈ subtreesOf (trees.map (BlockTree.normal w.palette none))) :
      ∃ other ∈ subtreesOf trees, ∃ follower, sub = other.normal w.palette follower := by
    obtain ⟨top, there, below⟩ := mem_subtreesOf.1 inside
    obtain ⟨tree, root, rfl⟩ := List.mem_map.1 there
    have inner (other : BlockTree) (h : other ∈ tree.subtrees) : other ∈ subtreesOf trees :=
      mem_subtreesOf.2 ⟨tree, root, h⟩
    obtain ⟨other, ho, same⟩ :=
      BlockTree.mem_subtrees_normal (fun sub h => known (inner sub h)) below
    exact ⟨other, inner other ho, same⟩
  have roots : w.roots = trees.map BlockTree.id := by rw [p.roots, start, List.nil_append]
  refine exports.depicts.eq_of_normal (fun sub inside => ?_) exports.normal (fun sub inside => ?_)
    ?_ ?_
  · obtain ⟨other, ho, follower, rfl⟩ := source inside
    exact (p.depicts other ho).normal follower
  · obtain ⟨other, ho, follower, rfl⟩ := source inside
    exact BlockTree.normal_normal (known ho) follower
  · rw [exports.ids, roots, List.map_map]
    exact List.map_congr_left fun tree _ => (tree.id_normal _ _).symm
  · rw [exports.nexts, roots, List.map_map, List.map_map]
    exact List.map_congr_left fun tree _ => (tree.next_normal _ _).symm

/-- Trees can be loaded exactly if, stubs and all below them left aside, no id comes twice and
everything is well formed; and what is saved then is their normal form. -/
theorem ofTrees_normalizes {palette : Palette}
    (slots : ∀ type ∈ palette.types, (type.slots.map SlotDecl.name).Nodup)
    {trees : List BlockTree}
    (keyed : ∀ sub ∈ subtreesOf trees, (sub.inputs.map TreeInput.slot).Nodup) :
    ((∃ w, ofTrees palette trees = .ok w) ↔
      (idsOf (pruneAll trees)).Nodup ∧
        ∀ sub ∈ subtreesOf (pruneAll trees), sub.WellFormed palette) ∧
      ∀ w, ofTrees palette trees = .ok w →
        w.toTrees = (pruneAll trees).map (BlockTree.normal palette none) := by
  obtain ⟨-, te, me, le⟩ := Orderly.empty palette
  have whole := whole_pruneAll keyed
  have each (tree : BlockTree) (h : tree ∈ pruneAll trees) : SettlesPlant palette tree :=
    settles_plant fun sub below => whole sub (mem_subtreesOf.2 ⟨tree, h, below⟩)
  have settled := settles_plantMembers le te rfl each
  have fresh : Fresh { palette := palette } (idsOf (pruneAll trees)) ↔
      (idsOf (pruneAll trees)).Nodup := by
    simp [Fresh, contains]
  have allowed := settled.ok_iff
  rw [Plantable, fresh, Prod.exists] at allowed
  rw [← ofTrees_pruneAll]
  simp only [ofTrees_eq_ok_iff]
  refine ⟨allowed, ?_⟩
  rintro w ⟨ids, loaded⟩
  obtain ⟨-, members, planted⟩ := settled.good_of_ok loaded
  have same : w.palette = palette := planted.grown.palette
  rw [planted.toTrees_eq rfl (same ▸ slots), same]

/-- A loop whose condition is a stub that names an unknown slot, loaded without any fields. -/
theorem ofTrees_normalizes_loop :
    let stub : BlockTree := .stub ⟨"loop"⟩ "controls_while"
    let loop : BlockTree := .mk ⟨"loop"⟩ "controls_while" ∅ [.single "nowhere" stub] (some ⟨"f"⟩) false
    let trees : List BlockTree :=
      [.mk ⟨"f"⟩ "process_instruction" ∅ [.chain "body" [loop, stub]] none false]
    ∃ w, ofTrees .standard trees = .ok w ∧
      w.toTrees = (pruneAll trees).map (BlockTree.normal .standard none) := by
  intro stub loop trees
  have slots : ∀ type ∈ Palette.standard.types, (type.slots.map SlotDecl.name).Nodup := by
    decide +kernel
  have keyed : ∀ sub ∈ subtreesOf trees, (sub.inputs.map TreeInput.slot).Nodup := by
    simp [trees, loop, stub, subtreesOf, BlockTree.subtrees, TreeInput.subtrees, BlockTree.inputs,
      BlockTree.stub, TreeInput.slot]
  obtain ⟨accepted, normal⟩ := ofTrees_normalizes slots keyed
  -- of the loop nothing is left but the block itself
  let bare : BlockTree := .mk ⟨"loop"⟩ "controls_while" ∅ [.empty "nowhere"] (some ⟨"f"⟩) false
  let handler : BlockTree :=
    .mk ⟨"f"⟩ "process_instruction" ∅ [.chain "body" [bare]] none false
  have pruned : subtreesOf (pruneAll trees) = [handler, bare] := by rfl
  obtain ⟨w, loaded⟩ := accepted.2 <| by
    rw [idsOf, pruned]
    refine ⟨by decide, List.forall_mem_cons.2 ⟨?_, List.forall_mem_singleton.2 ?_⟩⟩
    · refine ⟨_, rfl, fun name given => absurd given Std.ExtTreeMap.not_mem_empty,
        List.forall_mem_singleton.2 ?_⟩
      rintro _ ⟨⟩
      exact ⟨.chain "body", by rfl, rfl, List.forall_mem_singleton.2 ⟨_, rfl, rfl⟩⟩
    · refine ⟨_, rfl, fun name given => absurd given Std.ExtTreeMap.not_mem_empty,
        List.forall_mem_singleton.2 ?_⟩
      rintro _ ⟨⟩
  exact ⟨w, loaded, normal w loaded⟩

end Workspace

end SolanaBlocks
