import SolanaBlocks.Palette.Standard
import SolanaBlocks.Proofs.Forest.Forest
import SolanaBlocks.Proofs.Trees.Counts
import SolanaBlocks.Proofs.Trees.Export
import SolanaBlocks.Proofs.Trees.Planting

/-!
# Saving and loading

A workspace that edits lead to without a link back is given back by its own trees: every block with
its type, its fields and its place, and the roots in their order. Only the counts start anew. So it
has the same trees and the same code as before.
-/

namespace SolanaBlocks

namespace Workspace

variable {palette : Palette} {w v : Workspace} {members : Seat → List BlockId}

section Same

variable (hw : Laid w members []) (hv : Laid v members [])

include hw hv

/-- Blocks with the same layout have the same seats. -/
theorem seat?_eq_of_laid (id : BlockId) : v.seat? id = w.seat? id := by
  cases sits : w.seat? id with
  | some seat => exact (hv.mem_members seat id).1 ((hw.mem_members seat id).2 sits)
  | none =>
      cases sits' : v.seat? id with
      | none => rfl
      | some seat =>
          have sits'' := (hw.mem_members seat id).1 ((hv.mem_members seat id).2 sits')
          rw [sits] at sits''
          cases sits''

theorem next?_eq_of_laid (id : BlockId) : v.next? id = w.next? id := by
  cases sits : w.seat? id with
  | none =>
      rw [hw.next?_eq_none id sits, hv.next?_eq_none id]
      rw [seat?_eq_of_laid hw hv, sits]
  | some seat =>
      obtain ⟨before, after, split⟩ := List.append_of_mem ((hw.mem_members seat id).2 sits)
      have linked := hw.linked seat
      have linked' := hv.linked seat
      rw [split, Linked.append_iff] at linked linked'
      exact linked'.2.1.trans linked.2.1.symm

theorem content?_eq_of_laid (tw : Typed w) (tv : Typed v)
    (arities : ∀ seat, v.arity? seat = w.arity? seat) (seat : Seat) :
    v.content? seat = w.content? seat :=
  (hw.holds seat).eq_of_arity (hv.holds seat) fun _ _ => tw.arity_eq tv (arities seat)

/-- Layout, types and fields determine the blocks. -/
theorem blocks_eq_of_laid (tw : Typed w) (tv : Typed v) (same : v.palette = w.palette)
    (types : ∀ id, v.typeName? id = w.typeName? id) (fields : ∀ id, v.fields? id = w.fields? id) :
    v.blocks = w.blocks := by
  have blocks : SameBlocks w v := ⟨same, types, fields⟩
  apply Std.ExtTreeMap.ext_getElem?
  intro id
  exact get?_eq_of_tables (types id) (fields id) (next?_eq_of_laid hw hv id)
    (seat?_eq_of_laid hw hv id)
    fun slot => content?_eq_of_laid hw hv tw tv blocks.arity? ⟨id, slot⟩

end Same

/-- The ids in the trees of a workspace are those of its blocks, none of them twice. -/
theorem Exports.ids_spec {trees : List BlockTree} (e : Exports w members trees)
    (hw : Laid w members []) :
    (idsOf trees).Nodup ∧ ∀ id, id ∈ idsOf trees ↔ w.contains id = true := by
  have shows {tree : BlockTree} (root : tree ∈ trees) : ∀ sub ∈ tree.subtrees, Shows w members sub :=
    fun sub below => e.depicts sub (mem_subtreesOf.2 ⟨tree, root, below⟩)
  have top {tree : BlockTree} (root : tree ∈ trees) :
      w.contains tree.id = true ∧ w.seat? tree.id = none := by
    obtain ⟨alive, free, -⟩ := (hw.mem_roots tree.id).1 (e.ids ▸ List.mem_map_of_mem root)
    exact ⟨alive, free⟩
  refine ⟨nodup_idsOf hw e.depicts (fun tree root => (top root).1) (e.ids ▸ hw.roots_nodup)
    (fun tree root other root' => ?_) fun tree root => nodup_ids hw (shows root), fun id => ⟨?_, ?_⟩⟩
  · rw [owner?, owner?, (top root).2, (top root').2]
  · intro here
    obtain ⟨sub, inside, rfl⟩ := List.mem_map.1 here
    rw [contains_eq_isSome_typeName?, (e.depicts sub inside).typed]
    rfl
  · intro alive
    obtain ⟨id', below, present, free⟩ := (hw.rooted id alive).exists_top
    have root : id' ∈ trees.map BlockTree.id :=
      e.ids ▸ (hw.mem_roots id').2 ⟨present, free, List.not_mem_nil⟩
    obtain ⟨tree, here, rfl⟩ := List.mem_map.1 root
    obtain ⟨sub, inside, rfl⟩ := List.mem_map.1 ((mem_ids_iff_below hw (shows here) id).2 below)
    exact List.mem_map_of_mem (mem_subtreesOf.2 ⟨tree, here, inside⟩)

/-- The trees of an orderly workspace give its blocks and roots back. -/
theorem Orderly.ofTrees (h : Orderly palette w)
    (distinct : ∀ type ∈ palette.types, (type.slots.map SlotDecl.name).Nodup) :
    ∃ counter revision, Workspace.ofTrees palette w.toTrees = .ok (w.recount counter revision) := by
  obtain ⟨members, hw⟩ := h.laid
  have tw := h.typed
  obtain ⟨-, te, me, le⟩ := Orderly.empty palette
  have exports := exports_toTrees hw tw (h.palette ▸ distinct)
  obtain ⟨once, ids⟩ := exports.ids_spec hw
  have whole (sub : BlockTree) (inside : sub ∈ subtreesOf w.toTrees) : sub.Whole :=
    have shown := exports.depicts sub inside
    ⟨shown.given, shown.keyed, fun input given => (shown.inputs input given).filled⟩
  have each (tree : BlockTree) (root : tree ∈ w.toTrees) : SettlesPlant palette tree :=
    settles_plant fun sub below => whole sub (mem_subtreesOf.2 ⟨tree, root, below⟩)
  have settled := settles_plantMembers le te rfl each
  have plantable : Plantable { palette := palette } w.toTrees :=
    ⟨⟨once, by simp [contains]⟩, h.palette ▸ exports.depicts.wellFormed hw tw⟩
  obtain ⟨⟨v, ids'⟩, ok⟩ := settled.ok_iff.2 plantable
  obtain ⟨-, m, planted⟩ := settled.good_of_ok ok
  obtain ⟨grown, roots, depicts⟩ := planted
  dsimp only at grown roots depicts
  have palettes : v.palette = w.palette := grown.palette.trans h.palette.symm
  have roots : v.roots = w.roots := by rw [roots, exports.ids, List.nil_append]
  -- both workspaces have the blocks that the trees name, and no others
  have alike (id : BlockId) (here : id ∈ idsOf w.toTrees) : Alike w v members m id := by
    obtain ⟨sub, inside, rfl⟩ := List.mem_map.1 here
    exact (exports.depicts sub inside).alike (depicts sub inside) palettes
  have absent (id : BlockId) (missing : id ∉ idsOf w.toTrees) :
      w.contains id = false ∧ v.contains id = false := by
    rw [← Bool.not_eq_true, ← Bool.not_eq_true, ← ids, grown.contains]
    exact ⟨missing, by simpa [contains] using missing⟩
  have layout (seat : Seat) : members seat = m seat := by
    by_cases here : seat.owner ∈ idsOf w.toTrees
    · exact ((alike _ here).members seat.slot).symm
    · rw [hw.members_eq_nil (absent _ here).1, grown.laid.members_eq_nil (absent _ here).2]
  have void {u : Workspace} {id : BlockId} (missing : u.contains id = false) : u.get? id = none := by
    cases found : u.get? id with
    | none => rfl
    | some block => simp [contains_iff.2 ⟨block, found⟩] at missing
  have types (id : BlockId) : v.typeName? id = w.typeName? id := by
    by_cases here : id ∈ idsOf w.toTrees
    · exact (alike id here).typeName?
    · rw [typeName?, typeName?, void (absent id here).1, void (absent id here).2]
  have fields (id : BlockId) : v.fields? id = w.fields? id := by
    by_cases here : id ∈ idsOf w.toTrees
    · exact (alike id here).fields?
    · rw [fields?, fields?, void (absent id here).1, void (absent id here).2]
  have blocks := blocks_eq_of_laid hw (grown.laid.of_eq layout) tw grown.typed palettes types fields
  refine ⟨v.counter, v.revision, ?_⟩
  have same : v = w.recount v.counter v.revision := by
    obtain ⟨_, _, _, _, _⟩ := v
    simp_all [recount]
  rw [Workspace.ofTrees, ok, ← same]
  rfl

/-- Saved as trees and loaded again, a workspace that edits lead to is what it was: it has the same
roots and the same blocks in the same places, and so the same trees and the same code. -/
theorem ofTrees_toTrees (run : Reached palette w)
    (distinct : ∀ type ∈ palette.types, (type.slots.map SlotDecl.name).Nodup) :
    ∃ w', ofTrees palette w.toTrees = .ok w' ∧ w'.palette = w.palette ∧ w'.roots = w.roots ∧
      (∀ id, w'.get? id = w.get? id) ∧ w'.toTrees = w.toTrees ∧
      (∀ e : Emitter, e.IgnoresCounts → e.emitDocument w' = e.emitDocument w) ∧
      ∀ (types : Palette) (width : Nat),
        ({ palette := types, indentWidth := width } : Emitter).emitDocument w' =
          ({ palette := types, indentWidth := width } : Emitter).emitDocument w := by
  obtain ⟨counter, revision, loaded⟩ := run.orderly.ofTrees distinct
  refine ⟨w.recount counter revision, loaded, rfl, rfl, fun _ => rfl,
    toTrees_recount w counter revision, fun e blind => ?_, fun types width => ?_⟩
  · exact Emitter.emitDocument_recount w counter revision blind
  · exact Emitter.emitDocument_recount w counter revision
      (Emitter.ignoresCounts_of_standard types width)

/-- A handler with a loop in its body. -/
theorem ofTrees_toTrees_loop :
    let edits : List Edit := [
      .create (some ⟨"f"⟩) "process_instruction" [("name", .text "run")],
      .create none "controls_while" [],
      .create (some ⟨"yes"⟩) "logic_boolean" [],
      .bind ⟨"blk-1"⟩ "bool" (.single ⟨"yes"⟩),
      .bind ⟨"f"⟩ "body" (.chain [⟨"blk-1"⟩])]
    let w := edits.foldl (fun w edit => (w.apply edit).1) { palette := .standard }
    (∀ type ∈ Palette.standard.types, (type.slots.map SlotDecl.name).Nodup) ∧
      Reached .standard w ∧
      ∃ w', ofTrees .standard w.toTrees = .ok w' ∧ w'.roots = w.roots ∧
        ∀ id, w'.get? id = w.get? id := by
  intro edits w
  have distinct : ∀ type ∈ Palette.standard.types, (type.slots.map SlotDecl.name).Nodup := by
    decide +kernel
  have run : Reached .standard w := by
    refine .edit _ (.edit _ (.edit _ (.edit _ (.edit _ .empty ?_) ?_) ?_) ?_) ?_ <;> exact id
  obtain ⟨w', loaded, -, roots, blocks, -⟩ := ofTrees_toTrees run distinct
  exact ⟨distinct, run, w', loaded, roots, blocks⟩

end Workspace

end SolanaBlocks
