import SolanaBlocks.Proofs.Emission.Visits

/-!
# No block is left out and none is rendered twice

Emission once more, this time with a record of the blocks whose renderers are invoked, in the order in
which that happens. The record changes nothing about the outcome. If a document comes out, the record
holds each block exactly once that does not lie in the data of a variant without data, and no block
that does.
-/

namespace SolanaBlocks

namespace Rendering

variable {α : Type}

/-- Runs a rendering with answers that come with records. The records are put together in the order in
which the answers are asked for. -/
def runRecorded (answer : BlockId → List BlockId × Except EmitError Fragment) :
    Rendering α → List BlockId × Except EmitError α
  | done outcome => ([], outcome)
  | request block resume =>
    let heard := answer block
    let rest := (resume heard.2).runRecorded answer
    (heard.1 ++ rest.1, rest.2)

theorem runRecorded_eq (answer : BlockId → List BlockId × Except EmitError Fragment)
    (r : Rendering α) :
    r.runRecorded answer =
      ((r.asked fun block => (answer block).2).flatMap fun block => (answer block).1,
        r.run fun block => (answer block).2) := by
  induction r with
  | done outcome => rfl
  | request block resume ih =>
      rw [runRecorded, ih]
      rfl

end Rendering

namespace Emitter

variable (e : Emitter) (w : Workspace)

/-! ## Emission with a record -/

/-- The fragment of a block, with a record of the renderers invoked for it: its own, if it passes the
checks before, and those for the blocks that its rendering asks for. -/
def emitRecorded (open_ : List BlockId) (id : BlockId) :
    List BlockId × Except EmitError Fragment :=
  match _ : e.enter w open_ id with
  | .error failure => ([], .error failure)
  | .ok (type, rendering) =>
    let run := rendering.runRecorded fun child => emitRecorded (id :: open_) child
    (id :: run.1, run.2.map (settleTier type))
termination_by w.unseen open_
decreasing_by
  obtain ⟨new, block, found⟩ := e.enter_eq_ok ‹e.enter w open_ id = _›
  exact Workspace.unseen_cons_lt found new

/-- The code of some roots, one after the other up to the first that fails. -/
def rootsRecorded : List BlockId → List BlockId × Except EmitError (List String)
  | [] => ([], .ok [])
  | id :: rest =>
    let first := e.emitRecorded w [] id
    match first.2 with
    | .error failure => (first.1, .error failure)
    | .ok fragment =>
      let later := rootsRecorded rest
      (first.1 ++ later.1, later.2.map (fragment.asRoot :: ·))

/-- The code of a workspace in one pass, with a record of the renderers invoked during it. -/
def documentRecorded : List BlockId × Except EmitError String :=
  let parts := e.rootsRecorded w w.roots
  (parts.1, parts.2.map assemble)

variable {w}

theorem emitRecorded_eq (open_ : List BlockId) (id : BlockId) :
    e.emitRecorded w open_ id =
      match e.enter w open_ id with
      | .error failure => ([], .error failure)
      | .ok (type, rendering) =>
        let run := rendering.runRecorded (e.emitRecorded w (id :: open_))
        (id :: run.1, run.2.map (settleTier type)) := by
  rw [emitRecorded]
  split
  · next failure refused => rw [refused]
  · next type rendering entered => rw [entered]

/-- The record changes nothing. -/
theorem emitRecorded_snd (open_ : List BlockId) (id : BlockId) :
    (e.emitRecorded w open_ id).2 = e.emitWithin w open_ id := by
  induction open_ using w.unseen_induction generalizing id with
  | step open_ ih =>
      rw [emitRecorded_eq, emitWithin_eq_enter]
      cases entered : e.enter w open_ id with
      | error failure => rfl
      | ok begun =>
          obtain ⟨type, rendering⟩ := begun
          obtain ⟨new, block, found⟩ := e.enter_eq_ok entered
          have answers : (fun child => (e.emitRecorded w (id :: open_) child).2) =
              e.emitWithin w (id :: open_) := funext (ih found new)
          dsimp only
          rw [Rendering.runRecorded_eq, answers]

theorem rootsRecorded_snd (ids : List BlockId) :
    (e.rootsRecorded w ids).2 = ids.mapM (e.emitRoot w) := by
  induction ids with
  | nil => rfl
  | cons id rest ih =>
      have same : (e.emitRecorded w [] id).2 = e.emit w id := e.emitRecorded_snd [] id
      rw [rootsRecorded, List.mapM_cons, ← ih, emitRoot, ← same]
      cases (e.emitRecorded w [] id).2 with
      | error failure => rfl
      | ok fragment =>
          dsimp only
          cases (e.rootsRecorded w rest).2 <;> rfl

theorem documentRecorded_snd : (e.documentRecorded w).2 = e.emitDocument w := by
  rw [emitDocument, ← rootsRecorded_snd]
  rfl

/-- The record of a block that is rendered: the block itself, and the records of those asked for. -/
theorem emitRecorded_fst {open_ : List BlockId} {id : BlockId} {type : BlockType}
    {rendering : Rendering Fragment} (entered : e.enter w open_ id = .ok (type, rendering)) :
    (e.emitRecorded w open_ id).1 =
      id :: (rendering.asked (e.emitWithin w (id :: open_))).flatMap fun child =>
        (e.emitRecorded w (id :: open_) child).1 := by
  have answers : (fun child => (e.emitRecorded w (id :: open_) child).2) =
      e.emitWithin w (id :: open_) := funext (e.emitRecorded_snd (id :: open_))
  rw [emitRecorded_eq, entered]
  dsimp only
  rw [Rendering.runRecorded_eq, answers]

/-- The record of some roots that are all rendered. -/
theorem rootsRecorded_fst {ids : List BlockId} {parts : List String}
    (ok : ids.mapM (e.emitRoot w) = .ok parts) :
    (e.rootsRecorded w ids).1 = ids.flatMap fun id => (e.emitRecorded w [] id).1 := by
  induction ids generalizing parts with
  | nil => rfl
  | cons id rest ih =>
      rw [List.mapM_cons] at ok
      obtain ⟨code, here, ok⟩ := except_bind_eq_ok_iff.1 ok
      obtain ⟨codes, later, -⟩ := except_bind_eq_ok_iff.1 ok
      obtain ⟨fragment, emitted, -⟩ := except_map_eq_ok_iff.1 here
      have same : (e.emitRecorded w [] id).2 = .ok fragment := (e.emitRecorded_snd [] id).trans emitted
      rw [rootsRecorded, same, List.flatMap_cons, ← ih later]

/-! ## What is in the record -/

variable {width : Nat}

/-- A block that is emitted has been entered, and its rendering has succeeded. -/
theorem emitWithin_entered {open_ : List BlockId} {id : BlockId} {fragment : Fragment}
    (emitted : e.emitWithin w open_ id = .ok fragment) :
    ∃ block type renderer raw, w.get? id = some block ∧ id ∉ open_ ∧
      e.palette.get? block.type = some type ∧ e.renderer? block.type = some renderer ∧
      e.enter w open_ id = .ok (type, renderer ⟨w, e.palette, e.unit, id, block⟩) ∧
      (renderer ⟨w, e.palette, e.unit, id, block⟩).run (e.emitWithin w (id :: open_)) = .ok raw := by
  obtain ⟨block, type, renderer, raw, found, new, known, rendered, ran, -⟩ := emitWithin_eq_ok emitted
  refine ⟨block, type, renderer, raw, found, new, known, rendered, ?_, ran⟩
  rw [emitWithin_eq] at emitted
  simp only [found, if_neg new, known, rendered] at emitted
  split at emitted
  · next placed => simp only [enter, found, if_neg new, known, rendered, if_pos placed]
  · cases emitted

/-- The record of what some blocks ask for has no repeats if the blocks have nothing below them in
common. -/
theorem nodup_flatMap_heard {members : Seat → List BlockId} (laid : w.Laid members [])
    {record : BlockId → List BlockId} {blocks : List BlockId} (distinct : blocks.Nodup)
    (siblings : ∀ a ∈ blocks, ∀ b ∈ blocks, w.owner? a = w.owner? b)
    (alive : ∀ block ∈ blocks, w.contains block = true)
    (each : ∀ block ∈ blocks, (record block).Nodup ∧
      ∀ other, other ∈ record block ↔ w.Heard other block) :
    (blocks.flatMap record).Nodup := by
  refine List.nodup_flatMap.2 ⟨fun block here => (each block here).1, ?_⟩
  refine distinct.imp_of_mem fun ha hb apart => List.disjoint_left.2 fun other inA inB => apart ?_
  have below := (((each _ ha).2 other).1 inA).below
  have below' := (((each _ hb).2 other).1 inB).below
  exact below.unique below' (laid.rooted other (below.contains (alive _ ha))) (siblings _ ha _ hb)

/-- Below a block that is emitted, every block that is heard is in the record once, and nothing else
is. -/
theorem emitRecorded_heard (order : w.Orderly .standard) {open_ : List BlockId} {id : BlockId}
    (alive : w.contains id = true) (apart : ∀ other ∈ open_, ¬ w.Below other id)
    (hosted : ∀ owner, w.OwnedBy id owner → w.Sound owner) {fragment : Fragment}
    (emitted : (standard width).emitWithin w open_ id = .ok fragment) :
    ((standard width).emitRecorded w open_ id).1.Nodup ∧
      ∀ other, other ∈ ((standard width).emitRecorded w open_ id).1 ↔ w.Heard other id := by
  induction open_ using w.unseen_induction generalizing id fragment with
  | step open_ ih =>
      obtain ⟨members, laid⟩ := order.laid
      have closed : id ∉ open_ := fun member => apart id member Workspace.Below.refl
      obtain ⟨sound, answered⟩ := (emitWithin_ok_iff order alive closed hosted).1 ⟨fragment, emitted⟩
      obtain ⟨block, type, renderer, raw, found, -, known, rendered, entered, ran⟩ :=
        emitWithin_entered (standard width) emitted
      have o : (Site.mk w .standard (standard width).unit id block).Orderly type :=
        ⟨order, found, known⟩
      obtain ⟨distinct, asked⟩ := o.asked_standard rfl rendered ran
      have alive' (child : BlockId) (asks : w.Asks id child) : w.contains child = true := by
        obtain ⟨slot, sits, -⟩ := asks
        exact Workspace.contains_of_seat? sits
      have each (child : BlockId) (asks : w.Asks id child) :
          ((standard width).emitRecorded w (id :: open_) child).1.Nodup ∧
            ∀ other, other ∈ ((standard width).emitRecorded w (id :: open_) child).1 ↔
              w.Heard other child := by
        have owned := asks.ownedBy
        obtain ⟨_, emitted'⟩ := answered child asks
        refine ih found closed (alive' child asks) (fun other member below => ?_)
          (fun owner owned' => ?_) emitted'
        · rcases List.mem_cons.1 member with rfl | member
          · exact laid.not_below_owner owned below
          · exact apart other member (below.tail owned)
        · cases Option.some.inj (owned.symm.trans owned')
          exact sound
      rw [emitRecorded_fst _ entered]
      refine ⟨List.nodup_cons.2 ⟨fun again => ?_, ?_⟩, fun other => ?_⟩
      · obtain ⟨child, hc, inside⟩ := List.mem_flatMap.1 again
        have asks := (asked child).1 hc
        have below := (((each child asks).2 id).1 inside).below
        exact laid.not_below_owner asks.ownedBy below
      · refine nodup_flatMap_heard laid distinct (fun a ha b hb => ?_)
          (fun child hc => alive' child ((asked child).1 hc)) fun child hc =>
            each child ((asked child).1 hc)
        exact ((asked a).1 ha).ownedBy.trans ((asked b).1 hb).ownedBy.symm
      · rw [List.mem_cons, List.mem_flatMap, Workspace.heard_iff]
        refine or_congr_right (exists_congr fun child => ?_)
        exact (and_congr_left' (asked child)).trans
          (and_congr_right fun asks => (each child asks).2 other)

/-- Whenever a document comes out, each block that exists has been rendered exactly once on the way,
apart from those that lie in the data of a variant without data, which have not been rendered. Nothing
else has been rendered. -/
theorem documentRecorded_once (w : Workspace) (width : Nat) (run : Workspace.Reached .standard w)
    {code : String} (emitted : (standard width).emitDocument w = .ok code) :
    ∃ record, (standard width).documentRecorded w = (record, .ok code) ∧
      ∀ id, (w.contains id = true → ¬ w.Hidden id → record.count id = 1) ∧
        (w.contains id = false ∨ w.Hidden id → record.count id = 0) := by
  have order := run.orderly
  obtain ⟨members, laid⟩ := order.laid
  obtain ⟨parts, ok, -⟩ := except_map_eq_ok_iff.1 emitted
  have each (root : BlockId) (top : root ∈ w.roots) :
      ((standard width).emitRecorded w [] root).1.Nodup ∧
        ∀ other, other ∈ ((standard width).emitRecorded w [] root).1 ↔ w.Heard other root := by
    obtain ⟨alive, free, -⟩ := (laid.mem_roots root).1 top
    obtain ⟨_, emitted⟩ := mapM_ok_iff.1 ⟨parts, ok⟩ root top
    obtain ⟨fragment, emitted, -⟩ := except_map_eq_ok_iff.1 emitted
    refine emitRecorded_heard order alive (by simp) (fun owner owned => ?_) emitted
    rw [Workspace.OwnedBy, Workspace.owner?, free] at owned
    cases owned
  have record : ((standard width).documentRecorded w).1 =
      w.roots.flatMap fun root => ((standard width).emitRecorded w [] root).1 :=
    rootsRecorded_fst _ ok
  have distinct : ((standard width).documentRecorded w).1.Nodup := by
    rw [record]
    refine nodup_flatMap_heard laid laid.roots_nodup (fun a ha b hb => ?_)
      (fun root top => ((laid.mem_roots root).1 top).1) each
    rw [Workspace.owner?, Workspace.owner?, ((laid.mem_roots a).1 ha).2.1,
      ((laid.mem_roots b).1 hb).2.1]
  have inside (id : BlockId) : id ∈ ((standard width).documentRecorded w).1 ↔
      w.contains id = true ∧ ¬ w.Hidden id := by
    rw [record, List.mem_flatMap]
    constructor
    · rintro ⟨root, top, here⟩
      have heard := ((each root top).2 id).1 here
      have alive := heard.below.contains ((laid.mem_roots root).1 top).1
      exact ⟨alive, (Workspace.not_hidden_iff laid alive).2 ⟨root, top, heard⟩⟩
    · rintro ⟨alive, seen⟩
      obtain ⟨root, top, heard⟩ := (Workspace.not_hidden_iff laid alive).1 seen
      exact ⟨root, top, ((each root top).2 id).2 heard⟩
  refine ⟨((standard width).documentRecorded w).1,
    Prod.ext rfl ((documentRecorded_snd _).trans emitted), fun id => ⟨fun alive seen => ?_, fun out => ?_⟩⟩
  · exact List.count_eq_one_of_mem distinct ((inside id).2 ⟨alive, seen⟩)
  · refine List.count_eq_zero.2 fun here => ?_
    obtain ⟨alive, seen⟩ := (inside id).1 here
    rcases out with dead | hidden
    · rw [alive] at dead
      cases dead
    · exact seen hidden

/-- Of two variants with a field each, one has no data. Its field is not rendered, the other is. -/
theorem documentRecorded_once_variants :
    let edits : List Edit := [
      .create (some ⟨"e"⟩) "rust_enum" [],
      .create (some ⟨"v"⟩) "enum_variant" [("type", .text "SIMPLE")],
      .create (some ⟨"f"⟩) "struct_field" [],
      .create (some ⟨"u"⟩) "enum_variant" [("type", .text "TUPLE")],
      .create (some ⟨"g"⟩) "struct_field" [],
      .bind ⟨"e"⟩ "variants" (.chain [⟨"v"⟩, ⟨"u"⟩]),
      .bind ⟨"v"⟩ "fields" (.chain [⟨"f"⟩]),
      .bind ⟨"u"⟩ "fields" (.chain [⟨"g"⟩])]
    let w : Workspace := edits.foldl (fun w edit => (w.apply edit).1) { palette := .standard }
    Workspace.Reached .standard w ∧ w.Hidden ⟨"f"⟩ ∧
      ∃ code, (standard 4).emitDocument w = .ok code ∧
        ∃ record, (standard 4).documentRecorded w = (record, .ok code) ∧
          record = [⟨"e"⟩, ⟨"v"⟩, ⟨"u"⟩, ⟨"g"⟩] ∧ record.count ⟨"f"⟩ = 0 := by
  intro edits w
  have run : Workspace.Reached .standard w := by
    refine .edit _ (.edit _ (.edit _ (.edit _ (.edit _ (.edit _ (.edit _ (.edit _ .empty
      ?_) ?_) ?_) ?_) ?_) ?_) ?_) ?_ <;> exact id
  have hidden : w.Hidden ⟨"f"⟩ := by
    have kind : (w.get? ⟨"v"⟩).map (fun block =>
        (block.type, (block.fields["type"]?).map FieldValue.display)) =
          some ("enum_variant", some "SIMPLE") := by decide +kernel
    obtain ⟨block, found, same⟩ := Option.map_eq_some_iff.1 kind
    obtain ⟨type, shape⟩ := Prod.mk.inj same
    exact ⟨⟨"f"⟩, ⟨⟨"v"⟩, "fields"⟩, .refl, by decide +kernel, rfl, block, found, type, shape⟩
  have ok : ((standard 4).emitDocument w).toOption.isSome = true := by decide +kernel
  obtain ⟨code, emitted⟩ : ∃ code, (standard 4).emitDocument w = .ok code := by
    cases outcome : (standard 4).emitDocument w with
    | error failure => simp [outcome, Except.toOption] at ok
    | ok code => exact ⟨code, rfl⟩
  have rendered : ((standard 4).documentRecorded w).1 = [⟨"e"⟩, ⟨"v"⟩, ⟨"u"⟩, ⟨"g"⟩] := by
    decide +kernel
  obtain ⟨record, same, once⟩ := documentRecorded_once w 4 run emitted
  exact ⟨run, hidden, code, emitted, record, same, (congrArg Prod.fst same).symm.trans rendered,
    (once ⟨"f"⟩).2 (.inr hidden)⟩

end Emitter

end SolanaBlocks
