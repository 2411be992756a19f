import Mathlib.Data.List.Nodup
import SolanaBlocks.Palette.Standard
import SolanaBlocks.Proofs.Forest.Descent
import SolanaBlocks.Proofs.Forest.Orderly

/-!
# Workspaces are forests

Whatever edits a workspace has been through, refused ones included, its blocks form a forest: every
block is a root or sits in exactly one seat, all four records of its place agree, and everything
hangs below the roots. Only links back into a chain or to a block above it are left out.
-/

namespace SolanaBlocks

/-- Whether an edit gives a block a new successor. -/
def Edit.relinks : Edit → Bool
  | setNext _ (some _) => true
  | _ => false

namespace Workspace

variable {palette : Palette} {w : Workspace}

/-- The workspaces that edits lead to from an empty one without a link back. -/
inductive Reached (palette : Palette) : Workspace → Prop
  | empty : Reached palette { palette := palette }
  | edit {w : Workspace} (edit : Edit) :
    Reached palette w → ¬ TakesBackLink w edit → Reached palette (w.apply edit).1

/-- The blocks below the roots, going from owner to child. -/
inductive Reachable (w : Workspace) : BlockId → Prop
  | root {id : BlockId} : id ∈ w.roots → Reachable w id
  | child {owner id : BlockId} : Reachable w owner → id ∈ w.children owner → Reachable w id

/-- Places, slots, links and seats of all blocks agree and make up a forest. -/
structure Forest (w : Workspace) : Prop where
  roots_nodup : w.roots.Nodup
  mem_roots : ∀ id, id ∈ w.roots ↔ w.contains id = true ∧ w.seat? id = none
  next?_root : ∀ id ∈ w.roots, w.next? id = none
  seated : ∀ id seat, w.seat? id = some seat →
    w.contains seat.owner = true ∧ ∃ content, w.content? seat = some content ∧
      (w.contentMembers content).count id = 1
  seat?_member : ∀ seat content, w.content? seat = some content →
    ∀ id ∈ w.contentMembers content, w.seat? id = some seat
  named_alive : ∀ seat content, w.content? seat = some content →
    w.contains content.named = true
  member_alive : ∀ seat content, w.content? seat = some content →
    ∀ id ∈ w.contentMembers content, w.contains id = true
  next_alive : ∀ id next, w.next? id = some next → w.contains next = true
  walks_end : ∀ id, (w.walkChain id).revisited = none
  declared : ∀ seat content, w.content? seat = some content →
    ∃ type declaration, w.typeAt? seat.owner = some type ∧
      type.slot? seat.slot = some declaration ∧ declaration.arity = content.arity
  kinds : ∀ seat content, w.content? seat = some content →
    ∀ id ∈ w.contentMembers content,
      ∃ type, w.typeAt? id = some type ∧ type.producesValue = (content.arity == .expression)
  reachable : ∀ id, w.contains id = true → w.Reachable id

theorem Reached.orderly (run : Reached palette w) : Orderly palette w := by
  induction run with
  | empty => exact .empty palette
  | edit edit _ straight ih => exact ih.apply edit straight

/-- Only new successors may link back. -/
theorem Reached.foldl {edits : List Edit} (run : Reached palette w)
    (direct : ∀ edit ∈ edits, edit.relinks = false) :
    Reached palette (edits.foldl (fun w edit => (w.apply edit).1) w) := by
  induction edits generalizing w with
  | nil => exact run
  | cons edit edits ih =>
      obtain ⟨here, later⟩ := List.forall_mem_cons.1 direct
      refine ih (.edit edit run ?_) later
      intro back
      cases edit with
      | setNext id next =>
          cases next with
          | none => exact back
          | some target => cases here
      | _ => exact back

/-- A walk that starts anywhere in a layout follows the rest of a chain. -/
theorem Laid.revisited_walkChain {members : Seat → List BlockId} (h : Laid w members [])
    (id : BlockId) : (w.walkChain id).revisited = none := by
  cases sits : w.seat? id with
  | none =>
      have alone : Linked w.next? [id] none := ⟨h.next?_eq_none id sits, Linked.nil⟩
      rw [walkChain_of_linked alone (by simp)]
  | some seat =>
      obtain ⟨before, after, split⟩ := List.append_of_mem ((h.mem_members seat id).2 sits)
      have linked := h.linked seat
      have distinct := h.nodup seat
      rw [split] at linked distinct
      rw [walkChain_of_linked (Linked.append_iff.1 linked).2 (List.nodup_append.1 distinct).2.1]

/-- Going up to a block without a seat and back down shows that a block hangs below a root. -/
theorem Laid.reachable {members : Seat → List BlockId} (h : Laid w members []) {id : BlockId}
    (rooted : w.Rooted id) : w.Reachable id := by
  induction rooted with
  | top alive free => exact .root ((h.mem_roots _).2 ⟨alive, free, List.not_mem_nil⟩)
  | @under id seat sits _ ih =>
      exact .child ih (h.mem_children_iff.2 (Workspace.ownedBy_iff.2 ⟨seat.slot, sits⟩))

theorem Orderly.forest (h : Orderly palette w) : Forest w := by
  obtain ⟨members, laid⟩ := h.laid
  have typed := h.typed
  have mem {seat : Seat} {content : SlotContent} (held : w.content? seat = some content)
      {id : BlockId} (hid : id ∈ w.contentMembers content) : id ∈ members seat := by
    rwa [laid.contentMembers held] at hid
  have sits {seat : Seat} {content : SlotContent} (held : w.content? seat = some content)
      {id : BlockId} (hid : id ∈ w.contentMembers content) : w.seat? id = some seat :=
    (laid.mem_members seat id).1 (mem held hid)
  refine ⟨laid.roots_nodup, fun id => ?_, fun id root => ?_, fun id seat place => ?_,
    fun seat content held id => sits held, fun seat content held => ?_,
    fun seat content held id hid => laid.contains_of_mem (mem held hid), fun id next link => ?_,
    laid.revisited_walkChain, fun seat content held => ?_, fun seat content held id hid => ?_,
    fun id alive => laid.reachable (laid.rooted id alive)⟩
  · simpa using laid.mem_roots id
  · exact laid.next?_eq_none id ((laid.mem_roots id).1 root).2.1
  · have hid := (laid.mem_members seat id).2 place
    obtain ⟨content, held⟩ := laid.content?_of_mem hid
    refine ⟨contains_of_content? held, content, held, ?_⟩
    rw [laid.contentMembers held]
    exact List.count_eq_one_of_mem (laid.nodup seat) hid
  · have holds := laid.holds seat
    rw [held] at holds
    have first : content.named ∈ members seat := by
      generalize members seat = list at holds ⊢
      cases holds <;> exact List.mem_cons_self
    exact laid.contains_of_mem first
  · obtain ⟨seat, -, sits'⟩ := laid.seat?_of_next? link
    exact contains_of_seat? sits'
  · obtain ⟨declaration, declared, same⟩ := Option.map_eq_some_iff.1 (typed.declared seat content held)
    obtain ⟨type, owner, declared⟩ := Option.bind_eq_some_iff.1 declared
    exact ⟨type, declaration, owner, declared, same⟩
  · obtain ⟨arity, type, seat', known, fit⟩ := typed.fitting id seat (sits held hid)
    rw [typed.declared seat content held] at seat'
    cases seat'
    exact ⟨type, known, fit⟩

/-- Every workspace that edits lead to is a forest. -/
theorem forest_of_reached (run : Reached palette w) : Forest w :=
  run.orderly.forest

/-- A conditional goes into the body of an instruction, is refused as a condition of itself, and
gets a loop as its successor. -/
theorem forest_of_reached_successor :
    let place : List Edit := [
      .create (some ⟨"f"⟩) "process_instruction" [],
      .create none "controls_if" [],
      .create none "controls_while" [],
      .bind ⟨"f"⟩ "body" (.chain [⟨"blk-1"⟩]),
      .bind ⟨"blk-1"⟩ "if0" (.single ⟨"blk-1"⟩)]
    let before : Workspace :=
      place.foldl (fun w edit => (w.apply edit).1) { palette := .standard }
    let w := (before.apply (.setNext ⟨"blk-1"⟩ (some ⟨"blk-2"⟩))).1
    w.roots = [⟨"f"⟩] ∧ Reached .standard w ∧ Forest w := by
  intro place before w
  have straight : ¬ TakesBackLink before (.setNext ⟨"blk-1"⟩ (some ⟨"blk-2"⟩)) := by
    rintro ⟨⟨seat, sits, back⟩, -⟩
    have here : before.seat? ⟨"blk-1"⟩ = some ⟨⟨"f"⟩, "body"⟩ := by decide +kernel
    have ahead : before.linksBack ⟨⟨"f"⟩, "body"⟩ ⟨"blk-1"⟩ ⟨"blk-2"⟩ = false := by decide +kernel
    cases here.symm.trans sits
    cases ahead.symm.trans back
  have run : Reached .standard w := by
    refine .edit _ (.edit _ (.edit _ (.edit _ (.edit _ (.edit _ .empty ?_) ?_) ?_) ?_) ?_) straight <;>
      exact id
  exact ⟨by decide +kernel, run, forest_of_reached run⟩

end Workspace

end SolanaBlocks
