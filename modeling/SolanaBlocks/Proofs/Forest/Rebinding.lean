import SolanaBlocks.Palette.Standard
import SolanaBlocks.Proofs.Forest.Contents
import SolanaBlocks.Proofs.Forest.Forest

/-!
# What binding does

The blocks that are bound into a slot may come from anywhere: from the top level, from other chains,
from the slot itself in another order, or from below a block that has to leave the slot. Taking them
out one by one changes the links that the next one is found by. Still the result is told by lists
alone: the slot holds what was offered, everything else is as it was without these blocks, and what
the slot held before comes to the end of the top level.
-/

namespace SolanaBlocks

namespace Workspace

variable {palette : Palette} {w w' : Workspace} {seat : Seat} {input : SlotInput}

/-- Blocks have been put into a slot. -/
structure Rebound (w w' : Workspace) (seat : Seat) (input : SlotInput) : Prop where
  blocks : SameBlocks w w'
  content : w'.content? seat = contentOf input
  members : w'.membersAt seat = input.members
  elsewhere : ∀ other, other ≠ seat → Keeps w w' other (· ∉ input.members)
  roots : w'.roots =
    w.roots.filter (· ∉ input.members) ++ (w.membersAt seat).filter (· ∉ input.members)
  seats : ∀ id, w'.seat? id =
    if id ∈ input.members then some seat else if id ∈ w.membersAt seat then none else w.seat? id
  displaced : ∀ id ∈ w.membersAt seat, id ∉ input.members → w'.next? id = none

theorem Bound.rebound (b : Bound w w' w.membersAt seat input) (h : Laid w w.membersAt [])
    (t : Typed w) : Rebound w w' seat input := by
  refine ⟨b.blocks, b.content, ?_, fun other ne => ?_, b.roots, b.seats, fun id held given => ?_⟩
  · rw [b.laid.membersAt_eq, Function.update_self]
  · exact h.keeps b.laid t b.typed (b.blocks.arity? other) (Function.update_of_ne ne ..)
  · have free : w'.seat? id = none := by rw [b.seats, if_neg given, if_pos held]
    exact b.laid.next?_eq_none id free

/-- Binding puts the given blocks into the slot in the given order, and unbinding gives them back. -/
theorem rebound_of_reached {owner : BlockId} {slot : String} (run : Reached palette w)
    (ok : w.bind owner slot input = .ok w') :
    Rebound w w' ⟨owner, slot⟩ input ∧
      ∃ w'', w'.unbind owner slot = .ok (w'', input.members) ∧
        Trimmed w' w'' ⟨owner, slot⟩ [] input.members := by
  have orderly := run.orderly
  have laid := orderly.laid_membersAt
  have rebound : Rebound w w' ⟨owner, slot⟩ input := by
    obtain ⟨able, rfl⟩ := bind_eq_ok_iff.1 ok
    exact (able.bound laid orderly.typed).rebound laid orderly.typed
  refine ⟨rebound, ?_⟩
  have alive : w'.contains owner = true := by
    obtain ⟨able, -⟩ := bind_eq_ok_iff.1 ok
    exact (rebound.blocks.contains owner).trans able.alive.1
  rw [← rebound.members]
  exact (orderly.bind ok).exists_unbind ⟨owner, slot⟩ alive

/-- A body gets a root, the last statement of the loop that has to leave it, the first two of another
body, and two of its own statements in another order. -/
theorem rebound_of_reached_shuffle :
    let statement (id : String) : Edit := .create (some ⟨id⟩) "program_error" []
    let edits : List Edit := [
      .create (some ⟨"f"⟩) "process_instruction" [], .create (some ⟨"g"⟩) "process_instruction" [],
      .create (some ⟨"loop"⟩) "controls_while" [], statement "a", statement "b", statement "c",
      statement "x", statement "y", statement "u", statement "v", statement "z", statement "r",
      .bind ⟨"f"⟩ "body" (.chain [⟨"loop"⟩, ⟨"a"⟩, ⟨"b"⟩, ⟨"c"⟩]),
      .bind ⟨"loop"⟩ "do" (.chain [⟨"x"⟩, ⟨"y"⟩]),
      .bind ⟨"g"⟩ "body" (.chain [⟨"u"⟩, ⟨"v"⟩, ⟨"z"⟩])]
    let w := edits.foldl (fun w edit => (w.apply edit).1) { palette := .standard }
    let input : SlotInput := .chain [⟨"c"⟩, ⟨"r"⟩, ⟨"y"⟩, ⟨"v"⟩, ⟨"u"⟩, ⟨"a"⟩]
    Reached .standard w ∧ ∃ w', w.bind ⟨"f"⟩ "body" input = .ok w' ∧
      w'.roots = [⟨"f"⟩, ⟨"g"⟩, ⟨"loop"⟩, ⟨"b"⟩] ∧ w'.membersAt ⟨⟨"f"⟩, "body"⟩ = input.members ∧
      w'.membersAt ⟨⟨"loop"⟩, "do"⟩ = [⟨"x"⟩] ∧ w'.membersAt ⟨⟨"g"⟩, "body"⟩ = [⟨"z"⟩] ∧
      ∃ w'', w'.unbind ⟨"f"⟩ "body" = .ok (w'', input.members) ∧
        w''.roots = w'.roots ++ input.members := by
  intro statement edits w input
  have run : Reached .standard w := Reached.empty.foldl (by decide)
  obtain ⟨w', ok⟩ : ∃ w', w.bind ⟨"f"⟩ "body" input = .ok w' :=
    Except.exists_of_isOk (by decide +kernel)
  obtain ⟨rebound, w'', back, trimmed⟩ := rebound_of_reached run ok
  refine ⟨run, w', ok, ?_, rebound.members, ?_, ?_, w'', back, trimmed.roots⟩
  · rw [rebound.roots]
    decide +kernel
  · rw [(rebound.elsewhere _ (by decide)).members]
    decide +kernel
  · rw [(rebound.elsewhere _ (by decide)).members]
    decide +kernel

end Workspace

end SolanaBlocks
