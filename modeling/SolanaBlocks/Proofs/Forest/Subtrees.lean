import SolanaBlocks.Palette.Standard
import SolanaBlocks.Proofs.Forest.Contents
import SolanaBlocks.Proofs.Forest.Forest

/-!
# What a removal does

A removal takes a block out of its place and then deletes it and everything below it, looking for
the children of one block while others are gone already. What it lists is the subtree of the block,
each of its members once. What stays is told by the tables alone: they lose the subtree, and the one
link or slot that named the block goes on to its successor.
-/

namespace SolanaBlocks

namespace Workspace

variable {palette : Palette} {w w' : Workspace} {members : Seat → List BlockId} {seat : Seat}
  {id : BlockId} {gone : List BlockId}

/-- What goes with a block is what lies below it. -/
theorem Removed.mem_iff_below
    (r : Removed (w.detach id) (fun seat => (members seat).filter (· ≠ id)) id w' gone)
    (h : Laid w members []) (alive : w.contains id = true) (other : BlockId) :
    other ∈ gone ↔ w.Below other id := by
  constructor
  · intro went
    have present : w.contains other = true := by
      rcases r.below other went with rfl | ⟨seat, -, hs⟩
      · exact alive
      · exact h.contains_of_mem (List.mem_filter.1 hs).1
    -- Up from a block that goes, one owner after the other goes as well, as far as `id`.
    induction h.rooted other present with
    | @top other _ free =>
        rcases r.below other went with rfl | ⟨seat, -, hs⟩
        · exact .refl
        · rw [(h.mem_members seat other).1 (List.mem_filter.1 hs).1] at free
          cases free
    | @under other seat sits above ih =>
        rcases r.below other went with rfl | ⟨seat', owner, hs⟩
        · exact .refl
        · cases sits.symm.trans ((h.mem_members seat' other).1 (List.mem_filter.1 hs).1)
          exact (ih owner above.contains).head (ownedBy_iff.2 ⟨seat.slot, sits⟩)
  · intro below
    induction below using Relation.ReflTransGen.head_induction_on with
    | refl => exact r.above
    | @head other owner owned _ ih =>
        obtain ⟨slot, hs⟩ := h.ownedBy_iff.1 owned
        by_cases same : other = id
        · exact same ▸ r.above
        · exact r.complete ⟨owner, slot⟩ ih other (List.mem_filter.2 ⟨hs, decide_eq_true same⟩)

/-- A slot that loses one of its members goes on to the successor of that member if it named it, and
stays as it is otherwise. -/
theorem Keeps.content?_eq (k : Keeps w w' seat (· ≠ id)) (h : Laid w members []) :
    w'.content? seat =
      if (w.content? seat).map SlotContent.named = some id then (w.next? id).map .chain
      else w.content? seat := by
  have holds := h.holds seat
  have linked := h.linked seat
  have distinct := h.nodup seat
  rw [k.content, k.members, h.membersAt_eq]
  generalize w.content? seat = content at holds ⊢
  generalize members seat = list at holds linked distinct ⊢
  cases holds with
  | empty => simp
  | single child =>
      by_cases same : child = id
      · subst same
        have last : w.next? child = none := linked.1
        simp [SlotContent.renew, SlotContent.named, last]
      · simp [SlotContent.renew, SlotContent.named, same]
  | chain head rest =>
      by_cases same : head = id
      · subst same
        have next : w.next? head = rest.head? := by simpa using linked.1
        have others : ∀ other ∈ rest, decide (other ≠ head) = true := fun other ho =>
          decide_eq_true (ne_of_mem_of_not_mem ho (List.nodup_cons.1 distinct).1)
        rw [List.filter_cons_of_neg (by simp), List.filter_eq_self.2 others, next]
        simp [SlotContent.renew, SlotContent.named]
      · simp [SlotContent.renew, SlotContent.named, same]

/-- A block has been removed with everything below it, and what is listed is what has gone. -/
structure Uprooted (w w' : Workspace) (id : BlockId) (removed : List BlockId) : Prop where
  nodup : removed.Nodup
  mem_removed : ∀ other, other ∈ removed ↔
    Relation.ReflTransGen (fun owner child => child ∈ w.children owner) id other
  palette : w'.palette = w.palette
  contains : ∀ other, w'.contains other = true ↔ w.contains other = true ∧ other ∉ removed
  roots : w'.roots = w.roots.filter (· ∉ removed)
  seats : ∀ other, w'.seat? other = if other ∈ removed then none else w.seat? other
  blocks : ∀ other, other ∉ removed →
    w'.typeName? other = w.typeName? other ∧ w'.fields? other = w.fields? other
  members : ∀ seat, seat.owner ∉ removed →
    w'.membersAt seat = (w.membersAt seat).filter (· ≠ id)
  contents : ∀ seat, seat.owner ∉ removed → w'.content? seat =
    if (w.content? seat).map SlotContent.named = some id then (w.next? id).map .chain
    else w.content? seat
  nexts : ∀ other, other ∉ removed →
    w'.next? other = if w.next? other = some id then w.next? id else w.next? other
  chain : ∀ seat before after, w.membersAt seat = before ++ id :: after →
    w'.membersAt seat = before ++ after

/-- Out of its place and deleted with everything below it, a block is uprooted. -/
theorem Removed.uprooted
    (r : Removed (w.detach id) (fun seat => (w.membersAt seat).filter (· ≠ id)) id w' gone)
    (h : Laid w w.membersAt []) (t : Typed w) (alive : w.contains id = true)
    (distinct : gone.Nodup) : Uprooted w w' id gone := by
  have below := r.mem_iff_below h alive
  have blocks := sameBlocks_detach w id
  have detached := laid_detach h alive List.not_mem_nil
  have typed := typed_detach h t id
  have stays {other : BlockId} (ho : other ∉ gone) : other ≠ id := fun same => ho (same ▸ r.above)
  have keeps (seat : Seat) (owner : seat.owner ∉ gone) : Keeps w w' seat (· ≠ id) := by
    refine h.keeps (r.laid detached) t (r.typed detached typed) ?_ (if_neg owner)
    rw [← blocks.arity?, arity?, arity?, r.without.typeAt?, if_neg owner]
  refine ⟨distinct, fun other => (below other).trans h.below_iff_children,
    r.without.palette.trans blocks.palette, fun other => ?_, ?_, fun other => ?_,
    fun other ho => ?_, fun seat owner => (keeps seat owner).members,
    fun seat owner => (keeps seat owner).content?_eq h, fun other ho => ?_,
    fun seat before after split => ?_⟩
  · rw [r.without.contains, blocks.contains]
    exact and_comm
  · rw [r.roots, roots_detach h]
    refine List.filter_congr fun other root => ?_
    have top : other ∈ gone ↔ other = id := by
      rw [below]
      constructor
      · intro low
        refine low.eq_of_free ?_
        rw [owner?, ((h.mem_roots other).1 root).2.1, Option.map_none]
      · rintro rfl
        exact .refl
    simp only [top]
  · rw [r.without.seat?, seat?_detach h]
    by_cases ho : other ∈ gone
    · rw [if_pos ho, if_pos ho]
    · rw [if_neg ho, if_neg ho, Function.update_of_ne (stays ho)]
  · rw [← blocks.typeName?, ← blocks.fields?, r.without.typeName?, r.without.fields?, if_neg ho,
      if_neg ho]
    exact ⟨rfl, rfl⟩
  · rw [r.without.next?, if_neg ho, next?_detach h (stays ho)]
  · have owned : w.OwnedBy id seat.owner := h.ownedBy_iff.2 ⟨seat.slot, by simp [split]⟩
    have owner : seat.owner ∉ gone := fun went => h.not_below_owner owned ((below _).1 went)
    have once := h.nodup seat
    rw [split] at once
    rw [(keeps seat owner).members, split, filter_ne_split once]

/-- A removal lists the subtree of the block and takes that out of the workspace. -/
theorem uprooted_of_reached (run : Reached palette w) (alive : w.contains id = true) :
    ∃ w' removed, w.remove id = .ok (w', removed) ∧ Uprooted w w' id removed := by
  have orderly := run.orderly
  have laid := orderly.laid_membersAt
  have ok := remove_eq_ok_iff.2 ⟨alive, rfl, rfl⟩
  refine ⟨_, _, ok, ?_⟩
  obtain ⟨distinct, removed⟩ := removed_remove laid ok
  exact removed.uprooted laid orderly.typed alive distinct

/-- A loop in the midst of a body goes with its condition, its body and the loop in there. -/
theorem uprooted_of_reached_loop :
    let statement (id : String) : Edit := .create (some ⟨id⟩) "program_error" []
    let edits : List Edit := [
      .create (some ⟨"f"⟩) "process_instruction" [], .create (some ⟨"loop"⟩) "controls_while" [],
      .create (some ⟨"inner"⟩) "controls_while" [], .create (some ⟨"not"⟩) "logic_negate" [],
      .create (some ⟨"yes"⟩) "logic_boolean" [],
      statement "a", statement "b", statement "x", statement "y",
      .bind ⟨"f"⟩ "body" (.chain [⟨"a"⟩, ⟨"loop"⟩, ⟨"b"⟩]),
      .bind ⟨"loop"⟩ "bool" (.single ⟨"not"⟩), .bind ⟨"not"⟩ "bool" (.single ⟨"yes"⟩),
      .bind ⟨"loop"⟩ "do" (.chain [⟨"x"⟩, ⟨"inner"⟩]), .bind ⟨"inner"⟩ "do" (.chain [⟨"y"⟩])]
    let w := edits.foldl (fun w edit => (w.apply edit).1) { palette := .standard }
    Reached .standard w ∧ w.contains ⟨"loop"⟩ = true ∧
      ∃ w' removed, w.remove ⟨"loop"⟩ = .ok (w', removed) ∧ Uprooted w w' ⟨"loop"⟩ removed ∧
        ⟨"y"⟩ ∈ removed ∧ w'.contains ⟨"y"⟩ = false ∧
        w'.membersAt ⟨⟨"f"⟩, "body"⟩ = [⟨"a"⟩, ⟨"b"⟩] := by
  intro statement edits w
  have run : Reached .standard w := Reached.empty.foldl (by decide)
  have alive : w.contains ⟨"loop"⟩ = true := by decide +kernel
  have inner : ⟨"inner"⟩ ∈ w.children ⟨"loop"⟩ := by decide +kernel
  have last : ⟨"y"⟩ ∈ w.children ⟨"inner"⟩ := by decide +kernel
  have body : w.membersAt ⟨⟨"f"⟩, "body"⟩ = [⟨"a"⟩] ++ ⟨"loop"⟩ :: [⟨"b"⟩] := by decide +kernel
  -- What is left follows from these facts; from here on nothing should compute the edits.
  clear_value w
  obtain ⟨w', removed, ok, uprooted⟩ := uprooted_of_reached run alive
  have below : ⟨"y"⟩ ∈ removed :=
    (uprooted.mem_removed ⟨"y"⟩).2 ((Relation.ReflTransGen.single inner).tail last)
  have absent : w'.contains ⟨"y"⟩ = false := by
    rw [← Bool.not_eq_true, uprooted.contains]
    exact fun present => present.2 below
  exact ⟨run, alive, w', removed, ok, uprooted, below, absent, uprooted.chain _ _ _ body⟩

end Workspace

end SolanaBlocks
