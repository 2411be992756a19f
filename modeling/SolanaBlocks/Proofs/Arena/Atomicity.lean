import SolanaBlocks.Proofs.Arena.Steps
import SolanaBlocks.Proofs.Forest.Ownership
import SolanaBlocks.Proofs.Forest.Revisions

/-!
# Edits are atomic

Carried out in place, most steps of an edit that can fail come before the first change. The others
look up a block that has a seat on record, some of them after another block has left its place. They
succeed in an arena that shows a workspace, since there every seat on record is the seat of a block;
and each edit leads from such an arena to another one, even where links lead back or a removal has
left links to nothing behind.

So in place an edit comes to what it comes to on the workspace. One that is refused leaves
everything as it was, apart from a number drawn for an id, and one that succeeds is counted once.
-/

namespace SolanaBlocks

namespace Procedure

open Arena (Shows)

variable {α β γ : Type} {g g' : Arena} {w w' : Workspace} {id : BlockId}

/-! ## Procedures that change nothing when they fail -/

/-- In place the procedure finds what is to be found, or fails, and nothing has been changed. -/
def Finds (g : Arena) (p : Procedure α) (found : Except EditError α) : Prop :=
  p.run g =
    match found with
    | .ok a => .ok a g
    | .error e => .error e g

/-- In place the procedure comes to what the outcome says. If this is a workspace, the arena shows
it afterwards, and if it is an error, nothing has been changed. -/
def Carries (g : Arena) (p : Procedure α) : Except EditError (Workspace × α) → Prop
  | .ok (w', a) => ∃ g', p.run g = .ok a g' ∧ Shows g' w'
  | .error e => p.run g = .error e g

section Run

variable {p : Procedure α} {first : Procedure β} {f : β → Procedure α} {b : β} {e : EditError}

theorem run_get_bind (f : Arena → Procedure α) : (get >>= f : Procedure α).run g = (f g).run g := by
  rw [EStateM.run_bind, EStateM.run_get]

theorem run_modify_bind (change : Arena → Arena) (f : PUnit → Procedure α) :
    (modify change >>= f : Procedure α).run g = (f ⟨⟩).run (change g) := by
  rw [EStateM.run_bind, EStateM.run_modify]

theorem Finds.run_bind (found : Finds g first (.ok b)) : (first >>= f).run g = (f b).run g := by
  rw [EStateM.run_bind, found]

theorem Finds.run_bind_error (failed : Finds g first (.error e)) :
    (first >>= f).run g = .error e g := by
  rw [EStateM.run_bind, failed]

theorem run_forM_modify (step : Arena → β → Arena) (list : List β) :
    (list.forM fun b => (modify (step · b) : Procedure Unit)).run g =
      .ok () (list.foldl step g) := by
  induction list generalizing g with
  | nil => rfl
  | cons b list ih =>
      change ((modify (step · b) : Procedure Unit) >>= fun _ => list.forM _).run g = _
      rw [run_modify_bind]
      exact ih

end Run

namespace Finds

variable {first : Procedure β} {f : β → Procedure α} {found : Except EditError α}

theorem refuse (e : EditError) : Finds g (throw e : Procedure α) (.error e) := rfl

theorem done (a : α) : Finds g (pure a : Procedure α) (.ok a) := rfl

/-- A look at the arena changes nothing. -/
theorem read {f : Arena → Procedure α} (next : Finds g (f g) found) : Finds g (get >>= f) found :=
  (run_get_bind f).trans next

/-- A first look that fails is the last one. -/
theorem fails {e : EditError} (failed : Finds g first (.error e)) :
    Finds g (first >>= f) (.error e) :=
  failed.run_bind_error

/-- A first look that finds something is followed by the next. -/
theorem succeeds {b : β} (here : Finds g first (.ok b)) (next : Finds g (f b) found) :
    Finds g (first >>= f) found :=
  here.run_bind.trans next

end Finds

namespace Carries

variable {p q : Procedure α} {first : Procedure β} {f : β → Procedure α}
  {outcome : Except EditError (Workspace × α)} {result : γ → Workspace × α}

theorem of_run (same : p.run g = q.run g) (carries : Carries g q outcome) :
    Carries g p outcome := by
  cases outcome with
  | error e => exact same.trans carries
  | ok result => exact carries.imp fun _ => And.imp_left same.trans

theorem refuse (e : EditError) : Carries g (throw e : Procedure α) (.error e) := rfl

/-- Everything goes through. -/
theorem through {a : α} (run : p.run g = .ok a g') (shows : Shows g' w') :
    Carries g p (.ok (w', a)) :=
  ⟨g', run, shows⟩

/-- A look at the arena changes nothing. -/
theorem read {f : Arena → Procedure α} (next : Carries g (f g) outcome) :
    Carries g (get >>= f) outcome :=
  .of_run (run_get_bind f) next

/-- A first look that fails is the last step. -/
theorem fails {e : EditError} (failed : Finds g first (.error e)) :
    Carries g (first >>= f) (.error e) :=
  failed.run_bind_error

/-- A first look that finds something leaves the rest to be carried out. -/
theorem succeeds {b : β} (found : Finds g first (.ok b)) (next : Carries g (f b) outcome) :
    Carries g (first >>= f) outcome :=
  .of_run found.run_bind next

/-- A look that may fail, and what follows it. -/
theorem look {r : Except EditError β} {k : β → Except EditError γ} (same : Finds g first r)
    (next : ∀ b, r = .ok b → Carries g (f b) ((k b).map result)) :
    Carries g (first >>= f) ((r >>= k).map result) := by
  cases r with
  | error e => exact .fails same
  | ok b => exact .succeeds same (next b rfl)

/-- A check that lets the rest be carried out unless it applies. -/
theorem guard {c : Prop} [Decidable c] {e : EditError} {k : PUnit → Procedure α}
    {k' : PUnit → Except EditError γ} {rest : Except EditError γ}
    (next : Carries g p (rest.map result)) :
    Carries g (if c then throw e >>= k else p)
      ((if c then throw e >>= k' else rest).map result) := by
  split
  · rfl
  · exact next

end Carries

/-! ## Looking up blocks -/

theorem finds_require {node : Node} (found : g.get? id = some node) :
    Finds g (require id) (.ok node) := by
  refine .read ?_
  rw [found]
  exact .done node

theorem finds_require_error (missing : g.get? id = none) :
    Finds g (require id) (.error (.noSuchBlock id)) := by
  refine .read ?_
  rw [missing]
  exact .refuse _

theorem finds_requireType (h : Shows g w) (id : BlockId) :
    Finds g (requireType id) (w.requireType id) := by
  unfold Workspace.requireType
  rw [h.get?]
  cases found : g.get? id with
  | none => exact .fails (finds_require_error found)
  | some node =>
      refine .succeeds (finds_require found) (.read ?_)
      dsimp only [Option.map_some]
      rw [h.typeOf?]
      cases g.typeOf? node with
      | none => exact .refuse _
      | some type => exact .done type

/-! ## Operations -/

theorem finds_setFields (type : BlockType) (table : NameTable FieldValue)
    (given : List (String × FieldValue)) :
    Finds g (setFields type table given) (Workspace.setFields type table given) := by
  induction given generalizing table with
  | nil => exact .done table
  | cons pair given ih =>
      obtain ⟨name, value⟩ := pair
      unfold setFields Workspace.setFields
      split
      · exact .refuse _
      · exact ih (table.insert name value)

theorem carries_createAs (h : Shows g w) (id : BlockId) (type : String)
    (given : List (String × FieldValue)) :
    Carries g (createAs id type given)
      ((w.createAs id type given).map fun w' => (w', .created id)) := by
  unfold createAs Workspace.createAs
  have declared : w.palette.get? type = g.palette.get? type := by rw [h.palette]
  rw [h.contains, declared, h.roots]
  refine .read ?_
  cases alive : g.contains id with
  | true => exact .refuse _
  | false =>
      refine .read ?_
      cases g.palette.get? type with
      | none => exact .refuse _
      | some declaration =>
          have set : Finds g _ _ :=
            finds_setFields declaration (Workspace.defaultFields declaration) given
          dsimp only
          rw [if_neg Bool.false_ne_true]
          generalize Workspace.setFields declaration _ given = outcome at set ⊢
          cases outcome with
          | error e => exact .fails set
          | ok fields =>
              have made := h.create alive { type := type, fields := fields }
              exact .succeeds set (.through rfl (made.withRoots (g.roots ++ [id])).bump)

theorem carries_setField (h : Shows g w) (id : BlockId) (name : String) (value : FieldValue) :
    Carries g (setField id name value) ((w.setField id name value).map fun w' => (w', .done)) := by
  have set : Shows
      (g.modify id fun node => { node with fields := node.fields.insert name value })
      (w.modify id fun block => { block with fields := block.fields.insert name value }) :=
    h.modify id fun _ _ => rfl
  unfold Workspace.setField
  refine .look (finds_requireType h id) fun type known => .guard ?_
  obtain ⟨node, found⟩ := h.exists_get?_of_requireType known
  exact .succeeds (finds_require found) (.through rfl set.bump)

theorem finds_checkMembers (h : Shows g w) (owner : BlockId) (above : List BlockId) (slot : String)
    (arity : SlotArity) (before members : List BlockId) :
    Finds g (checkMembers owner above slot arity before members)
      (w.checkMembers owner above slot arity before members) := by
  induction members generalizing before with
  | nil => exact .done ()
  | cons child rest ih =>
      have known := finds_requireType h child
      unfold checkMembers Workspace.checkMembers
      cases outcome : w.requireType child with
      | error e =>
          rw [outcome] at known
          exact .fails known
      | ok type =>
          rw [outcome] at known
          refine .succeeds known ?_
          dsimp only
          split
          · exact .refuse _
          · split
            · exact .refuse _
            · cases Workspace.mismatch? arity type with
              | some mismatch => exact .refuse _
              | none => exact ih (child :: before)

theorem run_seatMembers (h : Shows g w) (owner : BlockId) (slot : String) {input : SlotInput}
    (alive : ∀ child ∈ input.members, g.contains child = true) :
    ∃ g', (seatMembers owner slot input).run g = .ok () g' ∧
      Shows g' (w.seatMembers owner slot input) := by
  match input with
  | .single child => exact ⟨_, rfl, h.fill owner slot alive (.single child)⟩
  | .chain [] => exact ⟨g, rfl, h⟩
  | .chain (head :: rest) =>
      have linked := h.linkChain (head :: rest)
      have alive' : ∀ child ∈ head :: rest, (g.linkChain (head :: rest)).contains child = true := by
        intro child hc
        rw [← linked.contains, (Workspace.sameBlocks_linkChain w (head :: rest)).contains,
          h.contains]
        exact alive child hc
      exact ⟨_, rfl, linked.fill owner slot alive' (.chain head)⟩

theorem carries_bind (h : Shows g w) (owner : BlockId) (slot : String) (input : SlotInput) :
    Carries g (bind owner slot input) ((w.bind owner slot input).map fun w' => (w', .done)) := by
  unfold Workspace.bind
  refine .look (finds_requireType h owner) fun type _ => ?_
  cases type.slot? slot with
  | none => exact .refuse _
  | some declaration =>
      refine .guard (.read ?_)
      rw [← h.ancestors]
      refine .look (finds_checkMembers h ..) fun _ checked => ?_
      have taken := h.foldl (fun child shows => shows.detach child) input.members
      obtain ⟨emptied, -⟩ := taken.release owner slot
      have blocks := (Workspace.SameBlocks.foldl Workspace.sameBlocks_detach w input.members).trans
        (Workspace.sameBlocks_release _ owner slot)
      -- The blocks on offer are there, and leaving their places takes none of them away.
      have alive : ∀ child ∈ input.members,
          ((input.members.foldl Arena.detach g).release owner slot).1.contains child = true := by
        intro child hc
        obtain ⟨-, -, type, typed, -⟩ := (Workspace.checkMembers_eq_ok_iff.1 checked).2 child hc
        rw [← emptied.contains, blocks.contains]
        exact Workspace.contains_of_typeAt? typed
      obtain ⟨g', run, shows⟩ := run_seatMembers emptied owner slot alive
      refine .through ?_ shows.bump
      rw [EStateM.run_bind, run_forM_modify Arena.detach]
      dsimp only
      rw [run_modify_bind, EStateM.run_bind, run]
      rfl

theorem carries_unbind (h : Shows g w) (owner : BlockId) (slot : String) :
    Carries g (unbind owner slot)
      ((w.unbind owner slot).map fun (w', ids) => (w', .released ids)) := by
  obtain ⟨shows, released⟩ := h.release owner slot
  unfold Workspace.unbind
  rw [h.get?]
  cases found : g.get? owner with
  | none => exact .fails (finds_require_error found)
  | some node =>
      refine .succeeds (finds_require found) (.read (.through ?_ shows.bump))
      change _ = EStateM.Result.ok (EditResult.released (w.release owner slot).2) _
      rw [released]
      rfl

theorem carries_setNext (h : Shows g w) (id : BlockId) (next : Option BlockId) :
    Carries g (setNext id next) ((w.setNext id next).map fun w' => (w', .done)) := by
  refine .read ?_
  unfold Workspace.setNext
  rw [h.seat?]
  cases sits : g.seat? id with
  | none => exact .refuse _
  | some seat =>
      obtain ⟨node, found⟩ := h.exists_get?_of_seat? sits
      have here := finds_require found
      refine .look (finds_requireType h seat.owner) fun ownerType _ => .guard ?_
      cases next with
      | none =>
          refine .read (.succeeds here ?_)
          cases link : node.next with
          | none => exact .through rfl (h.cutAfter_of_last seat found link).bump
          | some head => exact .through rfl (h.cutAfter_of_next seat found link).bump
      | some target =>
          refine .look (finds_requireType h target) fun targetType known => .guard (.read ?_)
          rw [h.linksBack]
          split
          · exact .succeeds here (.through rfl (h.link id (some target)).bump)
          · have alive : g.contains target = true :=
              Arena.contains_iff.2 (h.exists_get?_of_requireType known)
            -- The target has left its place by now, so the block had better be found.
            obtain ⟨node', found'⟩ := Arena.contains_iff.1
              ((h.contains_detach target id).trans (Arena.contains_iff.2 ⟨node, found⟩))
            have spliced := h.spliceAfter seat id alive
            rw [Arena.next?, found', Option.bind_some] at spliced
            refine .through ?_ spliced.bump
            rw [run_modify_bind, (finds_require found').run_bind]
            rfl

theorem carries_remove (h : Shows g w) (id : BlockId) :
    Carries g (remove id) ((w.remove id).map fun (w', ids) => (w', .removed ids)) := by
  have left := (h.detach id).removeFrom (fun _ hid => absurd hid List.not_mem_nil) [id]
  unfold Workspace.remove
  rw [h.get?]
  cases found : g.get? id with
  | none => exact .fails (finds_require_error found)
  | some node =>
      refine .succeeds (finds_require found) (.through ?_ left.1.bump)
      rw [run_modify_bind]
      dsimp only
      rw [run_get_bind, left.2]
      rfl

theorem carries_moveRoot (h : Shows g w) (id : BlockId) (index : Nat) :
    Carries g (moveRoot id index) ((w.moveRoot id index).map fun w' => (w', .done)) := by
  unfold Workspace.moveRoot
  refine .read ?_
  rw [h.isRoot, h.roots]
  split
  · exact .through rfl (h.withRoots _).bump
  · exact .refuse _

end Procedure

/-! ## Edits -/

namespace Arena

open Procedure (Carries)

variable {g g' : Arena} {w w' : Workspace} {edit : Edit}

theorem le_firstFree (g : Arena) (tries n : Nat) : n ≤ g.firstFree tries n := by
  induction tries generalizing n with
  | zero => exact Nat.le_refl n
  | succ tries ih =>
      unfold firstFree
      split
      · exact Nat.le_of_succ_le (ih (n + 1))
      · exact Nat.le_refl n

theorem Shows.firstFree (h : Shows g w) (tries n : Nat) :
    w.firstFree tries n = g.firstFree tries n := by
  induction tries generalizing n with
  | zero => rfl
  | succ tries ih => rw [Workspace.firstFree, Arena.firstFree, h.contains, ih]

theorem Shows.size (h : Shows g w) : w.size = g.nodes.size := by
  rw [← h.workspace_eq]
  exact Std.ExtTreeMap.size_map

/-- What an edit may come to in place, next to what it comes to on the workspace that the arena
shows: it is refused and has changed nothing, apart from a number drawn for an id, or it is counted
once. -/
def AllOrNone (g : Arena) (w : Workspace) (edit : Edit) :
    EStateM.Result EditError Arena EditResult → Prop
  | .error e g' => (∃ n ≥ g.counter, g' = { g with counter := n }) ∧
      Shows g' (w.apply edit).1 ∧ (w.apply edit).2 = .error e
  | .ok result g' => g'.revision = g.revision + 1 ∧
      Shows g' (w.apply edit).1 ∧ (w.apply edit).2 = .ok result

theorem allOrNone_of_carries {γ : Type} {p : Procedure EditResult} {outcome : Except EditError γ}
    {result : γ → Workspace × EditResult} (shows : Shows g' w')
    (drawn : ∃ n ≥ g.counter, g' = { g with counter := n })
    (carries : Carries g' p (outcome.map result))
    (applied : w.apply edit =
      match outcome.map result with
      | .ok (changed, result) => (changed, .ok result)
      | .error e => (w', .error e))
    (counted : ∀ c, outcome = .ok c → (result c).1.revision = w'.revision + 1) :
    AllOrNone g w edit (p.run g') := by
  cases outcome with
  | error e =>
      have run : p.run g' = .error e g' := carries
      rw [run]
      exact ⟨drawn, by rw [applied]; exact shows, by rw [applied]; rfl⟩
  | ok c =>
      obtain ⟨g'', run, shows'⟩ := carries
      obtain ⟨n, -, rfl⟩ := drawn
      rw [run]
      refine ⟨?_, by rw [applied]; exact shows', by rw [applied]; rfl⟩
      calc
        g''.revision = (result c).1.revision := shows'.revision.symm
        _ = w'.revision + 1 := counted c rfl
        _ = g.revision + 1 := congrArg (· + 1) shows.revision

theorem allOrNone_inPlace (h : Shows g w) (edit : Edit) :
    AllOrNone g w edit (edit.inPlace.run g) := by
  have undrawn : ∃ n ≥ g.counter, g = { g with counter := n } := ⟨g.counter, Nat.le_refl _, rfl⟩
  cases edit with
  | create id? type given =>
      cases id? with
      | none =>
          have number : w.drawNumber.1 = g.firstFree g.nodes.size (g.counter + 1) := by
            rw [← h.firstFree, ← h.size, ← h.counter]
            rfl
          have shows : Shows { g with counter := w.drawNumber.1 } w.drawNumber.2 :=
            h.withCounter w.drawNumber.1
          have drawn : ∃ n ≥ g.counter,
              { g with counter := w.drawNumber.1 } = { g with counter := n } :=
            ⟨_, number ▸ Nat.le_of_succ_le (g.le_firstFree _ _), rfl⟩
          have run : (Edit.create none type given).inPlace.run g =
              (Procedure.createAs (Workspace.numberedId w.drawNumber.1) type given).run
                { g with counter := w.drawNumber.1 } := by
            rw [number]
            rfl
          rw [run]
          exact allOrNone_of_carries shows drawn (Procedure.carries_createAs shows _ type given) rfl
            fun _ => Workspace.revision_createAs
      | some id =>
          exact allOrNone_of_carries h undrawn (Procedure.carries_createAs h id type given) rfl
            fun _ => Workspace.revision_createAs
  | setField id name value =>
      exact allOrNone_of_carries h undrawn (Procedure.carries_setField h id name value) rfl
        fun _ => Workspace.revision_setField
  | bind owner slot input =>
      refine allOrNone_of_carries h undrawn (Procedure.carries_bind h owner slot input) rfl
        fun w' ok => ?_
      obtain ⟨-, rfl⟩ := Workspace.bind_eq_ok_iff.1 ok
      exact Workspace.revision_bound _ _
  | unbind owner slot =>
      exact allOrNone_of_carries h undrawn (Procedure.carries_unbind h owner slot) rfl
        fun _ => Workspace.revision_unbind
  | setNext id next =>
      exact allOrNone_of_carries h undrawn (Procedure.carries_setNext h id next) rfl
        fun _ => Workspace.revision_setNext
  | remove id =>
      exact allOrNone_of_carries h undrawn (Procedure.carries_remove h id) rfl
        fun _ => Workspace.revision_remove
  | moveRoot id index =>
      exact allOrNone_of_carries h undrawn (Procedure.carries_moveRoot h id index) rfl
        fun _ => Workspace.revision_moveRoot

/-- Whatever an edit comes to, the arena shows the workspace that the edit leads to. -/
theorem Shows.step (h : Shows g w) (edit : Edit) : Shows (g.step edit) (w.apply edit).1 := by
  have all := allOrNone_inPlace h edit
  unfold Arena.step
  cases run : edit.inPlace.run g with
  | ok result g' =>
      rw [run] at all
      exact all.2.1
  | error e g' =>
      rw [run] at all
      exact all.2.1

theorem shows_empty (palette : Palette) :
    Shows { palette := palette } { palette := palette } where
  palette := rfl
  get? id := by simp [Workspace.get?, get?]
  seated id _ := by simp [seat?]
  roots := rfl
  counter := rfl
  revision := rfl

/-- Edit for edit, an arena goes through what the workspace goes through that it shows. -/
theorem shows_ofEdits (palette : Palette) (edits : List Edit) :
    Shows (ofEdits palette edits)
      (edits.foldl (fun w edit => (w.apply edit).1) { palette := palette }) := by
  induction edits using List.reverseRecOn with
  | nil => exact shows_empty palette
  | append_singleton edits edit ih =>
      rw [ofEdits, List.foldl_concat, List.foldl_concat]
      exact ih.step edit

theorem edited_foldl (palette : Palette) (edits : List Edit) :
    Workspace.Edited palette
      (edits.foldl (fun w edit => (w.apply edit).1) { palette := palette }) := by
  induction edits using List.reverseRecOn with
  | nil => exact .empty
  | append_singleton edits edit ih =>
      rw [List.foldl_concat]
      exact ih.edit edit

/-- Edits are atomic and counted. However edits lead to an arena, with links back and with edits
that have failed among them, every seat on record there is the seat of a block, and the arena shows
the workspace that the same edits lead to. An edit that is refused in place has changed nothing,
apart from a number drawn for an id, and one that succeeds has counted once; both times the arena
then shows what the edit comes to on the workspace. -/
theorem inPlace_atomic (palette : Palette) (edits : List Edit) (edit : Edit) :
    let g := ofEdits palette edits
    (∀ id ∈ g.seats, id ∈ g.nodes) ∧
      g.workspace = edits.foldl (fun w edit => (w.apply edit).1) { palette := palette } ∧
      Workspace.Edited palette g.workspace ∧
      match edit.inPlace.run g with
      | .error e g' => (∃ n ≥ g.counter, g' = { g with counter := n }) ∧
          g.workspace.apply edit = (g'.workspace, .error e)
      | .ok result g' => g'.revision = g.revision + 1 ∧
          g.workspace.apply edit = (g'.workspace, .ok result) := by
  intro g
  have same : g.workspace = edits.foldl (fun w edit => (w.apply edit).1) { palette := palette } :=
    (shows_ofEdits palette edits).workspace_eq
  have shows : Shows g g.workspace := same ▸ shows_ofEdits palette edits
  refine ⟨fun id sits => ?_, same, same ▸ edited_foldl palette edits, ?_⟩
  · have found := Std.ExtTreeMap.isSome_getElem?_iff_mem.2 sits
    obtain ⟨seat, here⟩ := Option.isSome_iff_exists.1 found
    obtain ⟨node, alive⟩ := shows.exists_get?_of_seat? here
    exact Std.ExtTreeMap.isSome_getElem?_iff_mem.1 (Option.isSome_of_eq_some alive)
  · have all := allOrNone_inPlace shows edit
    cases outcome : edit.inPlace.run g with
    | error e g' =>
        rw [outcome] at all
        obtain ⟨drawn, shows', refused⟩ := all
        exact ⟨drawn, Prod.ext shows'.workspace_eq.symm refused⟩
    | ok result g' =>
        rw [outcome] at all
        obtain ⟨counted, shows', succeeded⟩ := all
        exact ⟨counted, Prod.ext shows'.workspace_eq.symm succeeded⟩

/-- With a seat on record for an id that is not in use, an edit may fail half-way: the new successor
has left its place before the look-up that fails. -/
example :
    let g := (ofEdits .standard [
      .create (some ⟨"o"⟩) "process_instruction" [],
      .create (some ⟨"b"⟩) "controls_while" []]).seatAt ⟨"x"⟩ ⟨⟨"o"⟩, "body"⟩
    g.roots = [⟨"o"⟩, ⟨"b"⟩] ∧
      (match (Edit.setNext ⟨"x"⟩ (some ⟨"b"⟩)).inPlace.run g with
        | .error e g' => some (e, g'.roots)
        | .ok _ _ => none) = some (.noSuchBlock ⟨"x"⟩, [⟨"o"⟩]) := by
  decide +kernel

end Arena

end SolanaBlocks
