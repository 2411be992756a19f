import SolanaBlocks.Palette.Standard
import SolanaBlocks.Proofs.Forest.Contents
import SolanaBlocks.Proofs.Forest.Forest

/-!
# What a new successor does

The new successor of a statement may be any statement that is not above it and not in front of it in
its chain: the one that follows it already, one further down, a member or the head of another chain,
a root, or a block from below the statement itself. It is taken out of its place first, and what
follows the statement is looked up after that. In terms of lists the result is the same in all
these cases.
-/

namespace SolanaBlocks

namespace Workspace

variable {palette : Palette} {w w' : Workspace} {seat : Seat} {id target : BlockId}
  {before after : List BlockId}

/-- A block has come, with everything below it, into a seat with the given list of members, and is
missing where it was before. -/
structure Joined (w w' : Workspace) (seat : Seat) (target : BlockId) (list : List BlockId) :
    Prop where
  blocks : SameBlocks w w'
  members : w'.membersAt seat = list
  content : w'.content? seat = w.content? seat
  elsewhere : ∀ other, other ≠ seat → Keeps w w' other (· ≠ target)
  roots : w'.roots = w.roots.filter (· ≠ target)
  seats : w'.seat? = Function.update w.seat? target (some seat)
  below : ∀ id, w'.Below id target ↔ w.Below id target
  subtree : ∀ other, w.Below other.owner target →
    w'.content? other = w.content? other ∧ w'.membersAt other = w.membersAt other

theorem Inserted.bump {members : Seat → List BlockId} {list : List BlockId}
    (i : Inserted w w' members seat target list) : Inserted w w'.bump members seat target list :=
  ⟨i.laid.congr rfl rfl, i.typed.congr rfl rfl, i.blocks.bump, i.roots, i.seats⟩

/-- A block that is linked in behind a member of a chain takes along what is below it and changes no
other slot but by leaving. -/
theorem Inserted.joined
    (i : Inserted w w' w.membersAt seat target
      (before ++ id :: target :: after.filter (· ≠ target)))
    (h : Laid w w.membersAt []) (t : Typed w) (chain : w.arity? seat = some .chain)
    (split : w.membersAt seat = before ++ id :: after) (alive : w.contains target = true)
    (low : target ∉ w.ancestors id) :
    Joined w w' seat target (before ++ id :: target :: after.filter (· ≠ target)) := by
  have hid : id ∈ w.membersAt seat := by
    rw [split]
    exact List.mem_append_cons_self
  have sits := (h.mem_members seat id).1 hid
  have members : w'.membersAt seat = before ++ id :: target :: after.filter (· ≠ target) := by
    rw [i.laid.membersAt_eq, Function.update_self]
  have elsewhere (other : BlockId) (ne : other ≠ target) : w'.seat? other = w.seat? other := by
    rw [i.seats, Function.update_of_ne ne]
  refine ⟨i.blocks, members, ?_, fun other ne => ?_, i.roots, i.seats, fun other => ?_,
    fun other high => ?_⟩
  · have hid' : id ∈ w'.membersAt seat := by
      rw [members]
      exact List.mem_append_cons_self
    rw [i.laid.read.content?_of_chain i.typed ((i.blocks.arity? seat).trans chain) hid',
      h.content?_of_chain t chain hid, members, split]
    cases before <;> rfl
  · exact h.keeps i.laid t i.typed (i.blocks.arity? other) (Function.update_of_ne ne ..)
  · constructor
    · intro below
      exact below.of_seats fun other ne => (elsewhere other ne).symm
    · intro below
      exact below.of_seats elsewhere
  · -- If the chain were below `target` itself, that would be an ancestor of `id`.
    have ne : other ≠ seat := by
      rintro rfl
      exact low (high.mem_ancestors (owner_mem_ancestors sits))
    have stays : ∀ member ∈ w.membersAt other, decide (member ≠ target) = true := by
      intro member hm
      refine decide_eq_true ?_
      rintro rfl
      exact h.not_below_owner (h.ownedBy_iff.2 ⟨other.slot, hm⟩) high
    refine h.same_at i.laid t i.typed (i.blocks.arity? other) ?_
    rw [Function.update_of_ne ne]
    exact List.filter_eq_self.2 stays

/-- A new successor comes between a member of a chain and what followed that, and without a
successor a member is the last of its chain. -/
theorem succession_of_reached (run : Reached palette w)
    (split : w.membersAt seat = before ++ id :: after) :
    (∀ target w', w.setNext id (some target) = .ok w' →
      target ∉ before ++ [id] → target ∉ w.ancestors id →
      Joined w w' seat target (before ++ id :: target :: after.filter (· ≠ target))) ∧
    ∀ w', w.setNext id none = .ok w' → Trimmed w w' seat (before ++ [id]) after := by
  have orderly := run.orderly
  have laid := orderly.laid_membersAt
  have typed := orderly.typed
  have hid : id ∈ w.membersAt seat := by
    rw [split]
    exact List.mem_append_cons_self
  have sits := (laid.mem_members seat id).1 hid
  constructor
  · intro target w' ok ahead low
    obtain ⟨seat', sits', chain, ⟨type, known, statement⟩, change⟩ := setNext_cases ok
    cases sits.symm.trans sits'
    have held := laid.content?_of_chain typed chain hid
    have straight := (linksBack_eq_false_iff (chainPrefix_eq laid held split)).2 ⟨low, ahead⟩
    rw [straight] at change
    have alive := contains_of_typeAt? known
    have inserted := inserted_spliceAfter laid typed chain split alive
      ⟨.chain, type, chain, known, statement⟩ low ahead
    rw [change]
    exact inserted.bump.joined laid typed chain split alive low
  · intro w' ok
    obtain ⟨seat', sits', chain, change⟩ := setNext_cases ok
    cases sits.symm.trans sits'
    have held := laid.content?_of_chain typed chain hid
    have fewer : before ++ [id] ⊆ w.membersAt seat := by
      rw [split, List.append_cons before id after]
      exact List.subset_append_left _ after
    rw [show w' = Workspace.bump (w.cutAfter seat id) from change]
    exact (shortened_cutAfter laid held split).bump.trimmed laid typed fewer

/-- Behind a loop in a body come a later member of the body, the first statement of the loop itself,
the only statement of another body, and nothing. -/
theorem succession_of_reached_loop :
    let statement (id : String) : Edit := .create (some ⟨id⟩) "program_error" []
    let edits : List Edit := [
      .create (some ⟨"f"⟩) "process_instruction" [], .create (some ⟨"g"⟩) "process_instruction" [],
      .create (some ⟨"loop"⟩) "controls_while" [], statement "a", statement "b", statement "c",
      statement "x", statement "y", statement "u",
      .bind ⟨"f"⟩ "body" (.chain [⟨"a"⟩, ⟨"loop"⟩, ⟨"b"⟩, ⟨"c"⟩]),
      .bind ⟨"loop"⟩ "do" (.chain [⟨"x"⟩, ⟨"y"⟩]), .bind ⟨"g"⟩ "body" (.chain [⟨"u"⟩])]
    let w := edits.foldl (fun w edit => (w.apply edit).1) { palette := .standard }
    let body : Seat := ⟨⟨"f"⟩, "body"⟩
    Reached .standard w ∧ w.membersAt body = [⟨"a"⟩] ++ ⟨"loop"⟩ :: [⟨"b"⟩, ⟨"c"⟩] ∧
      (∃ w', w.setNext ⟨"loop"⟩ (some ⟨"c"⟩) = .ok w' ∧
        w'.membersAt body = [⟨"a"⟩, ⟨"loop"⟩, ⟨"c"⟩, ⟨"b"⟩]) ∧
      (∃ w', w.setNext ⟨"loop"⟩ (some ⟨"x"⟩) = .ok w' ∧
        w'.membersAt body = [⟨"a"⟩, ⟨"loop"⟩, ⟨"x"⟩, ⟨"b"⟩, ⟨"c"⟩] ∧
        w'.membersAt ⟨⟨"loop"⟩, "do"⟩ = [⟨"y"⟩]) ∧
      (∃ w', w.setNext ⟨"loop"⟩ (some ⟨"u"⟩) = .ok w' ∧
        w'.membersAt body = [⟨"a"⟩, ⟨"loop"⟩, ⟨"u"⟩, ⟨"b"⟩, ⟨"c"⟩] ∧
        w'.membersAt ⟨⟨"g"⟩, "body"⟩ = []) ∧
      ∃ w', w.setNext ⟨"loop"⟩ none = .ok w' ∧ w'.membersAt body = [⟨"a"⟩, ⟨"loop"⟩] ∧
        w'.roots = w.roots ++ [⟨"b"⟩, ⟨"c"⟩] := by
  intro statement edits w body
  have run : Reached .standard w := Reached.empty.foldl (by decide)
  have split : w.membersAt body = [⟨"a"⟩] ++ ⟨"loop"⟩ :: [⟨"b"⟩, ⟨"c"⟩] := by decide +kernel
  obtain ⟨joined, trimmed⟩ := succession_of_reached run split
  have linked (target : BlockId) (ok : (w.setNext ⟨"loop"⟩ (some target)).isOk = true)
      (ahead : target ∉ [(⟨"a"⟩ : BlockId)] ++ [⟨"loop"⟩])
      (low : target ∉ w.ancestors ⟨"loop"⟩) :
      ∃ w', w.setNext ⟨"loop"⟩ (some target) = .ok w' ∧ Joined w w' body target
        ([⟨"a"⟩] ++ ⟨"loop"⟩ :: target :: [⟨"b"⟩, ⟨"c"⟩].filter (· ≠ target)) := by
    obtain ⟨w', ok⟩ := Except.exists_of_isOk ok
    exact ⟨w', ok, joined target w' ok ahead low⟩
  refine ⟨run, split, ?_, ?_, ?_, ?_⟩
  · obtain ⟨w', ok, moved⟩ := linked ⟨"c"⟩ (by decide +kernel) (by decide) (by decide +kernel)
    exact ⟨w', ok, moved.members.trans (by decide)⟩
  · obtain ⟨w', ok, moved⟩ := linked ⟨"x"⟩ (by decide +kernel) (by decide) (by decide +kernel)
    refine ⟨w', ok, moved.members.trans (by decide), ?_⟩
    rw [(moved.elsewhere _ (by decide)).members]
    decide +kernel
  · obtain ⟨w', ok, moved⟩ := linked ⟨"u"⟩ (by decide +kernel) (by decide) (by decide +kernel)
    refine ⟨w', ok, moved.members.trans (by decide), ?_⟩
    rw [(moved.elsewhere _ (by decide)).members]
    decide +kernel
  · obtain ⟨w', ok⟩ : ∃ w', w.setNext ⟨"loop"⟩ none = .ok w' :=
      Except.exists_of_isOk (by decide +kernel)
    have cut := trimmed w' ok
    exact ⟨w', ok, cut.members, cut.roots⟩

end Workspace

end SolanaBlocks
