import SolanaBlocks.Emission.Document
import SolanaBlocks.Proofs.Emission.Renaming
import SolanaBlocks.Proofs.Precedence.Expressions

/-!
# The code of a root depends on its own tree

Emission looks at a block from many sides: its slots and what they hold, the blocks above it, the
owner, the links of chains. All of that stays inside the tree of a root. So a root whose tree
corresponds to that of another one, block by block, has the same code, or fails for the same reason at
the corresponding block, whatever else there is in the two workspaces and whatever the ids are.
-/

namespace SolanaBlocks

variable {f : BlockId → BlockId} {S : BlockId → Prop} {w w' : Workspace}

/-! ## Emission under other ids -/

theorem renameOutcome_map {α β : Type} (g : α → β) (outcome : Except EmitError α) :
    renameOutcome f (outcome.map g) = (renameOutcome f outcome).map g := by
  cases outcome <;> rfl

namespace Workspace.Renamed

variable (h : w.Renamed f S w')

include h

/-- Under translation an id is among translated ids if it was among them before. -/
theorem mem_map_iff {list : List BlockId} {id : BlockId} (inside : S id)
    (all : ∀ other ∈ list, S other) : f id ∈ list.map f ↔ id ∈ list := by
  constructor
  · intro again
    obtain ⟨other, ho, same⟩ := List.mem_map.1 again
    exact h.apart other id (all other ho) inside same ▸ ho
  · exact List.mem_map_of_mem

/-- The owners above a block are the translated ones. -/
theorem ancestorsFrom_eq (seen : List BlockId) (id : BlockId) (inside : S id)
    (passed : ∀ other ∈ seen, S other) :
    w'.ancestorsFrom (seen.map f) (f id) = (w.ancestorsFrom seen id).map f ∧
      ∀ other ∈ w.ancestorsFrom seen id, S other := by
  rw [Workspace.ancestorsFrom_eq, Workspace.ancestorsFrom_eq, h.seat?_eq inside]
  induction seen, id using ancestorsFrom.induct w with
  | case1 seen id none =>
      rw [seat?, none]
      simp
  | case2 seen id block found free =>
      rw [seat?, found, Option.bind_some, free]
      simp
  | case3 seen id block found seat sits again =>
      rw [seat?, found, Option.bind_some, sits]
      simp [Seat.rename, again, List.mem_map_of_mem again]
  | case4 seen id block found seat sits new ih =>
      have sits : w.seat? id = some seat := by rw [seat?, found, Option.bind_some, sits]
      have above : S seat.owner := h.closed.seat inside sits
      have later := ih above (List.forall_mem_cons.2 ⟨above, passed⟩)
      rw [← h.seat?_eq above, ← Workspace.ancestorsFrom_eq, ← Workspace.ancestorsFrom_eq] at later
      rw [sits]
      simp only [Option.map_some, Seat.rename, h.mem_map_iff above passed, if_neg new]
      exact ⟨congrArg (f seat.owner :: ·) later.1, List.forall_mem_cons.2 ⟨above, later.2⟩⟩

/-- Placement is looked at upwards, where the types are the same. -/
theorem isPlaced_eq {id : BlockId} (inside : S id) (placement : Placement) :
    Emitter.isPlaced w' (f id) placement = Emitter.isPlaced w id placement := by
  have free : (w'.seat? (f id)).isNone = (w.seat? id).isNone := by
    rw [h.seat?_eq inside, Option.isNone_map]
  have below (type : String) : w'.hasAncestorOfType (f id) type = w.hasAncestorOfType id type := by
    obtain ⟨same, all⟩ := h.ancestorsFrom_eq [] id inside (by simp)
    unfold hasAncestorOfType ancestors
    rw [← List.map_nil (f := f), same, List.any_map]
    rw [Bool.eq_iff_iff, List.any_eq_true, List.any_eq_true]
    refine exists_congr fun above => and_congr_right fun ha => ?_
    rw [Function.comp_apply, h.block above (all above ha)]
    cases w.get? above <;> exact Iff.rfl
  cases placement with
  | anywhere => rfl
  | topLevel => exact free
  | within types => simp only [Emitter.isPlaced, funext below]
  | topLevelOr types => simp only [Emitter.isPlaced, funext below, free]

end Workspace.Renamed

namespace Emitter

variable {width : Nat}

theorem emitWithin_renamed (h : w.Renamed f S w') (open_ : List BlockId) (id : BlockId)
    (inside : S id) (around : ∀ other ∈ open_, S other) :
    (standard width).emitWithin w' (open_.map f) (f id) =
      renameOutcome f ((standard width).emitWithin w open_ id) := by
  induction open_ using w.unseen_induction generalizing id with
  | step open_ ih =>
      rw [emitWithin_eq, emitWithin_eq, h.block id inside]
      cases found : w.get? id with
      | none => rfl
      | some block =>
          simp only [Option.map_some, h.mem_map_iff inside around]
          by_cases closed : id ∈ open_
          · rw [if_pos closed, if_pos closed]
            rfl
          · rw [if_neg closed, if_neg closed]
            have type : (block.rename f).type = block.type := rfl
            rw [type]
            cases (standard width).palette.get? block.type with
            | none => rfl
            | some type =>
                dsimp only
                cases rendered : (standard width).renderer? block.type with
                | none => rfl
                | some renderer =>
                    dsimp only
                    rw [h.isPlaced_eq inside]
                    split
                    · let site : Site := ⟨w, (standard width).palette, (standard width).unit, id, block⟩
                      have m : site.Mirrored f S w' := ⟨h, inside, found⟩
                      have later : ∀ child, S child →
                          (standard width).emitWithin w' (f id :: open_.map f) (f child) =
                            renameOutcome f ((standard width).emitWithin w (id :: open_) child) :=
                        fun child there => ih found closed child there
                          (List.forall_mem_cons.2 ⟨inside, around⟩)
                      rw [renameOutcome_map, ← (Site.renames_standard m rendered).run later]
                      rfl
                    · rfl

theorem emitRoot_renamed (h : w.Renamed f S w') {root : BlockId} (inside : S root) :
    (standard width).emitRoot w' (f root) = renameOutcome f ((standard width).emitRoot w root) := by
  have emitted : (standard width).emitWithin w' [] (f root) =
      renameOutcome f ((standard width).emitWithin w [] root) :=
    emitWithin_renamed h [] root inside (by simp)
  rw [emitRoot, emitRoot, renameOutcome_map]
  exact congrArg (Except.map Fragment.asRoot) emitted

end Emitter

/-! ## Corresponding trees -/

theorem Holds.rename {content : Option SlotContent} {members : List BlockId}
    (h : Holds content members) (f : BlockId → BlockId) :
    Holds (content.map (SlotContent.rename f)) (members.map f) := by
  cases h with
  | empty => exact .empty
  | single child => exact .single (f child)
  | chain head rest => exact .chain (f head) (rest.map f)

namespace Workspace

/-- The tree below a root of one workspace and the tree below a root of another one correspond to each
other block by block: `f` takes the one root to the other and no two blocks to the same one, types
and fields agree, and so does each slot, whether it holds one block, a chain or nothing, and with its
members in their order. That all blocks of the other tree are met follows from it. -/
structure Corresponds (f : BlockId → BlockId) (w w' : Workspace) (root root' : BlockId) : Prop where
  top : f root = root'
  apart : ∀ a b, w.Below a root → w.Below b root → f a = f b → a = b
  typeName? : ∀ id, w.Below id root → w'.typeName? (f id) = w.typeName? id
  fields? : ∀ id, w.Below id root → w'.fields? (f id) = w.fields? id
  slots : ∀ id slot, w.Below id root →
    (w'.content? ⟨f id, slot⟩).map (fun content => (content.arity, w'.contentMembers content)) =
      (w.content? ⟨id, slot⟩).map fun content =>
        (content.arity, (w.contentMembers content).map f)

variable {id root root' : BlockId}

/-- The tables of a workspace tell everything about its blocks, under other ids too. -/
theorem get?_eq_rename_of_tables (types : w'.typeName? (f id) = w.typeName? id)
    (fields : w'.fields? (f id) = w.fields? id) (next : w'.next? (f id) = (w.next? id).map f)
    (seats : w'.seat? (f id) = (w.seat? id).map (Seat.rename f))
    (slots : ∀ slot,
      w'.content? ⟨f id, slot⟩ = (w.content? ⟨id, slot⟩).map (SlotContent.rename f)) :
    w'.get? (f id) = (w.get? id).map (Block.rename f) := by
  refine Block.option_ext (types.trans ?_) (fields.trans ?_) (next.trans ?_) (seats.trans ?_)
    fun slot => (slots slot).trans ?_
  · rw [Option.map_map]
    rfl
  · rw [Option.map_map]
    rfl
  · rw [next?, Option.map_bind, Option.bind_map]
    rfl
  · rw [seat?, Option.map_bind, Option.bind_map]
    rfl
  · rw [content?, slot?, Option.map_bind, Option.bind_map]
    exact Option.bind_congr fun block _ => (block.getElem?_slots_rename f slot).symm

namespace Corresponds

variable {m m' : Seat → List BlockId} (c : Corresponds f w w' root root') (h : Laid w m [])
  (h' : Laid w' m' [])

include c h h'

theorem members_eq (below : w.Below id root) (slot : String) :
    m' ⟨f id, slot⟩ = (m ⟨id, slot⟩).map f := by
  have same := c.slots id slot below
  have holds := h.holds ⟨id, slot⟩
  have holds' := h'.holds ⟨f id, slot⟩
  cases held : w.content? ⟨id, slot⟩ with
  | none =>
      rw [held] at same holds
      rw [Option.map_none, Option.map_eq_none_iff] at same
      rw [holds.eq_nil_iff.2 rfl, (holds'.eq_nil_iff).2 same, List.map_nil]
  | some content =>
      rw [held, Option.map_some] at same
      obtain ⟨content', held', both⟩ := Option.map_eq_some_iff.1 same
      rw [← h.contentMembers held, ← h'.contentMembers held']
      exact congrArg Prod.snd both

theorem content?_eq (below : w.Below id root) (slot : String) :
    w'.content? ⟨f id, slot⟩ = (w.content? ⟨id, slot⟩).map (SlotContent.rename f) := by
  have holds' := h'.holds ⟨f id, slot⟩
  rw [c.members_eq h h' below slot] at holds'
  refine ((h.holds ⟨id, slot⟩).rename f).eq_of_arity holds' fun _ content' renamed held' => ?_
  obtain ⟨content, held, rfl⟩ := Option.map_eq_some_iff.1 renamed
  have same := congrArg (Option.map Prod.fst) (c.slots id slot below)
  rw [held, held'] at same
  refine (Option.some.inj same).trans ?_
  cases content <;> rfl

/-- A block that sits in the tree corresponds to one in the corresponding seat. -/
theorem seat?_of_seat {seat : Seat} (above : w.Below seat.owner root)
    (sits : w.seat? id = some seat) : w'.seat? (f id) = some (seat.rename f) := by
  refine (h'.mem_members (seat.rename f) (f id)).1 ?_
  rw [Seat.rename, c.members_eq h h' above seat.slot]
  exact List.mem_map_of_mem ((h.mem_members seat id).2 sits)

/-- What follows a block in its chain corresponds to what follows the corresponding block. -/
theorem next?_eq {seat : Seat} (above : w.Below seat.owner root) (sits : w.seat? id = some seat) :
    w'.next? (f id) = (w.next? id).map f := by
  obtain ⟨before, after, split⟩ := List.append_of_mem ((h.mem_members seat id).2 sits)
  have linked := h.linked seat
  have linked' := h'.linked ⟨f seat.owner, seat.slot⟩
  rw [c.members_eq h h' above seat.slot] at linked'
  change Linked w'.next? ((m seat).map f) none at linked'
  rw [split, Linked.append_iff, Linked.cons_iff] at linked
  rw [split, List.map_append, List.map_cons, Linked.append_iff, Linked.cons_iff] at linked'
  rw [linked.2.1, linked'.2.1, List.head?_map, Option.or_none, Option.or_none]

/-- The tree below a root is translated into the corresponding one. -/
theorem renamed (top : root ∈ w.roots) (top' : root' ∈ w'.roots) :
    w.Renamed f (fun id => w.Below id root) w' := by
  obtain ⟨-, free, -⟩ := (h.mem_roots root).1 top
  obtain ⟨-, free', -⟩ := (h'.mem_roots root').1 top'
  refine ⟨c.apart, fun id below => ?_, h.selfContained fun id seat => h.below_iff top⟩
  cases sits : w.seat? id with
  | none =>
      have same : id = root := below.eq_of_free (by rw [owner?, sits, Option.map_none])
      have nowhere : w'.seat? (f id) = none := by rw [same, c.top, free']
      refine get?_eq_rename_of_tables (c.typeName? id below) (c.fields? id below) ?_ ?_
        (c.content?_eq h h' below)
      · rw [h.next?_eq_none id sits, h'.next?_eq_none (f id) nowhere, Option.map_none]
      · rw [nowhere, sits, Option.map_none]
  | some seat =>
      have above : w.Below seat.owner root := (h.below_iff top sits).1 below
      refine get?_eq_rename_of_tables (c.typeName? id below) (c.fields? id below)
        (c.next?_eq h h' above sits) ?_ (c.content?_eq h h' below)
      rw [c.seat?_of_seat h h' above sits, sits, Option.map_some]

end Corresponds

end Workspace

/-! ## Blocks that stay as they are -/

theorem SlotContent.rename_id : SlotContent.rename id = id := by
  funext content
  cases content <;> rfl

theorem Block.rename_id : Block.rename id = id := by
  funext block
  have slots : block.slots.map (fun _ content => content.rename id) = block.slots := by
    refine Std.ExtTreeMap.ext_getElem? fun slot => ?_
    refine (block.getElem?_slots_rename id slot).trans ?_
    rw [SlotContent.rename_id, Option.map_id]
    rfl
  have seat : Seat.rename id = id := rfl
  rw [rename, slots, seat, Option.map_id, Option.map_id]
  rfl

theorem renameOutcome_id {α : Type} (outcome : Except EmitError α) :
    renameOutcome id outcome = outcome := by
  cases outcome with
  | ok a => rfl
  | error e => cases e <;> rfl

/-- Blocks that stay as they are are their own translations. -/
theorem Workspace.renamed_id (closed : w.SelfContained S)
    (same : ∀ block, S block → w'.get? block = w.get? block) : w.Renamed id S w' := by
  refine ⟨fun _ _ _ _ same => same, fun block inside => ?_, closed⟩
  rw [Block.rename_id, Option.map_id]
  exact same block inside

namespace Emitter

open Workspace (Reached)

/-- The code of a root, or the error in its place, depends on its own tree only. A corresponding tree
of another workspace has the same code, or the error about the corresponding blocks. And as long as
edits name no block of the tree, except to give its root another position, the code stays the same. -/
theorem emitRoot_of_tree (width : Nat) (run : Reached .standard w) {root : BlockId}
    (top : root ∈ w.roots) :
    (∀ (w' : Workspace) (root' : BlockId) (f : BlockId → BlockId), Reached .standard w' →
      root' ∈ w'.roots → w.Corresponds f w' root root' →
      (standard width).emitRoot w' root' = renameOutcome f ((standard width).emitRoot w root)) ∧
    ∀ edits : List Edit, (∀ edit ∈ edits, ∀ block ∈ edit.blocks, ¬ w.Below block root) →
      (standard width).emitRoot (edits.foldl (fun w edit => (w.apply edit).1) w) root =
        (standard width).emitRoot w root := by
  obtain ⟨members, laid⟩ := run.orderly.laid
  refine ⟨fun w' root' f run' top' c => ?_, fun edits elsewhere => ?_⟩
  · obtain ⟨members', laid'⟩ := run'.orderly.laid
    rw [← c.top]
    exact emitRoot_renamed (c.renamed laid laid' top top') .refl
  · have along (block : BlockId) (seat : Seat) (sits : w.seat? block = some seat) :
        w.Below block root ↔ w.Below seat.owner root := laid.below_iff top sits
    have apart : w.SelfContained fun block => ¬ w.Below block root :=
      laid.selfContained fun block seat sits => not_congr (along block seat sits)
    have alive : w.contains root = true := ((laid.mem_roots root).1 top).1
    have fresh (block : BlockId) (absent : w.contains block = false) : ¬ w.Below block root := by
      intro below
      rw [below.contains alive] at absent
      cases absent
    have spared := apart.applyEach fresh elsewhere
    have same := Workspace.renamed_id (laid.selfContained along) fun block below =>
      spared.get? block (not_not.2 below)
    have inside : w.Below root root := .refl
    exact (emitRoot_renamed same inside).trans (renameOutcome_id _)

/-- Twice a negation of a negation, under other ids and the second time beside a loop. Both have the
same code, and the second one keeps it when it comes to the front, a text is added and the loop goes. -/
theorem emitRoot_of_tree_negations :
    let small : List Edit := [
      .create (some ⟨"s"⟩) "logic_negate" [],
      .create (some ⟨"x"⟩) "logic_negate" [],
      .bind ⟨"s"⟩ "bool" (.single ⟨"x"⟩)]
    let large : List Edit := [
      .create (some ⟨"o"⟩) "controls_while" [],
      .create (some ⟨"t"⟩) "logic_negate" [],
      .create (some ⟨"y"⟩) "logic_negate" [],
      .bind ⟨"t"⟩ "bool" (.single ⟨"y"⟩)]
    let later : List Edit := [.moveRoot ⟨"t"⟩ 0, .create none "text" [], .remove ⟨"o"⟩]
    let w : Workspace := small.foldl (fun w edit => (w.apply edit).1) { palette := .standard }
    let w' : Workspace := large.foldl (fun w edit => (w.apply edit).1) { palette := .standard }
    let f (id : BlockId) : BlockId := if id = ⟨"s"⟩ then ⟨"t"⟩ else ⟨"y"⟩
    Reached .standard w ∧ Reached .standard w' ∧ ⟨"s"⟩ ∈ w.roots ∧ ⟨"t"⟩ ∈ w'.roots ∧
      w.Corresponds f w' ⟨"s"⟩ ⟨"t"⟩ ∧
      (∀ edit ∈ later, ∀ block ∈ edit.blocks, ¬ w'.Below block ⟨"t"⟩) ∧
      (standard 4).emitRoot w ⟨"s"⟩ = .ok "!!false;\n" ∧
      (standard 4).emitRoot w' ⟨"t"⟩ = .ok "!!false;\n" ∧
      (standard 4).emitRoot (later.foldl (fun w edit => (w.apply edit).1) w') ⟨"t"⟩ =
        .ok "!!false;\n" := by
  intro small large later w w' f
  have run : Reached .standard w := .edit _ (.edit _ (.edit _ .empty id) id) id
  have run' : Reached .standard w' := .edit _ (.edit _ (.edit _ (.edit _ .empty id) id) id) id
  have top : (⟨"s"⟩ : BlockId) ∈ w.roots := by decide +kernel
  have top' : (⟨"t"⟩ : BlockId) ∈ w'.roots := by decide +kernel
  have inside (block : BlockId) (below : w.Below block ⟨"s"⟩) : block = ⟨"s"⟩ ∨ block = ⟨"x"⟩ := by
    have all : ∀ block ∈ w.ids, block = ⟨"s"⟩ ∨ block = ⟨"x"⟩ := by decide +kernel
    obtain ⟨there, found⟩ := Workspace.contains_iff.1 (below.contains (by decide +kernel))
    exact all block (Workspace.mem_ids_of_get? found)
  have bare {w : Workspace} {block : BlockId}
      (empty : (w.fields? block).map (·.isEmpty) = some true) : w.fields? block = some ∅ := by
    obtain ⟨fields, known, empty⟩ := Option.map_eq_some_iff.1 empty
    rw [known, Std.ExtTreeMap.isEmpty_iff.1 empty]
  have unused {w : Workspace}
      (keys : ∀ block ∈ w.ids, ∀ slot ∈ ((w.get? block).map (·.slots.keys)).getD [], slot = "bool")
      (block : BlockId) {slot : String} (other : slot ≠ "bool") : w.content? ⟨block, slot⟩ = none := by
    refine Option.eq_none_iff_forall_ne_some.2 fun content held => other ?_
    obtain ⟨known, used⟩ := Workspace.mem_keys_of_content? held
    exact keys block known slot used
  have c : w.Corresponds f w' ⟨"s"⟩ ⟨"t"⟩ := by
    refine ⟨rfl, fun a b ha hb same => ?_, fun block below => ?_, fun block below => ?_,
      fun block slot below => ?_⟩
    · rcases inside a ha with rfl | rfl <;> rcases inside b hb with rfl | rfl <;>
        revert same <;> decide
    · rcases inside block below with rfl | rfl <;> decide +kernel
    · rcases inside block below with rfl | rfl <;>
        rw [bare (by decide +kernel), bare (by decide +kernel)]
    · by_cases used : slot = "bool"
      · subst used
        rcases inside block below with rfl | rfl <;> decide +kernel
      · rw [unused (by decide +kernel) (f block) used, unused (by decide +kernel) block used]
        rfl
  have elsewhere : ∀ edit ∈ later, ∀ block ∈ edit.blocks, ¬ w'.Below block ⟨"t"⟩ := by
    have named : ∀ edit ∈ later, ∀ block ∈ edit.blocks, block = ⟨"o"⟩ := by decide
    intro edit he block hb below
    rw [named edit he block hb] at below
    have same := below.eq_of_free (by decide +kernel)
    exact absurd same (by decide)
  have code : (standard 4).emitRoot w ⟨"s"⟩ = .ok "!!false;\n" := by decide +kernel
  have code' : (standard 4).emitRoot w' ⟨"t"⟩ = .ok "!!false;\n" := by
    rw [(emitRoot_of_tree 4 run top).1 w' ⟨"t"⟩ f run' top' c, code]
    rfl
  exact ⟨run, run', top, top', c, elsewhere, code, code',
    ((emitRoot_of_tree 4 run' top').2 later elsewhere).trans code'⟩

end Emitter

end SolanaBlocks
