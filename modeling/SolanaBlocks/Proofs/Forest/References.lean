import SolanaBlocks.Proofs.Forest.Forest

/-!
# References to living blocks

Links that lead back bend chains into cycles, and then the places of blocks no longer agree with
each other. What stays is weaker: every id among the roots, in a slot or in a link names a living
block, and no root comes twice. All edits keep this but one. A removal closes the gap that a block
leaves in its place, and takes the blocks below it along; a block that has been linked back to is
still named from elsewhere, by itself if it is its own successor.
-/

namespace SolanaBlocks

/-- The link or a slot of the block names `id`. -/
inductive Block.Names (block : Block) (id : BlockId) : Prop
  | link (link : block.next = some id)
  | slot (slot : String) (content : SlotContent) (held : block.slots[slot]? = some content)
    (named : content.named = id)

namespace Workspace

variable {palette : Palette} {w w' : Workspace}

/-- Whatever is named lives, and no root comes twice. -/
structure Intact (w : Workspace) : Prop where
  roots_nodup : w.roots.Nodup
  root_alive : ∀ id ∈ w.roots, w.contains id = true
  named_alive : ∀ source block id, w.get? source = some block → block.Names id →
    w.contains id = true

namespace Intact

theorem empty (palette : Palette) : Intact { palette := palette } := by
  refine ⟨List.nodup_nil, by simp, fun source block id found => ?_⟩
  simp [get?] at found

/-- Only the blocks and the roots matter. -/
theorem congr (h : Intact w) (blocks : w'.blocks = w.blocks) (distinct : w'.roots.Nodup)
    (roots : ∀ id ∈ w'.roots, w.contains id = true) : Intact w' := by
  obtain ⟨palette, _, _, counter, revision⟩ := w
  obtain ⟨palette', _, _, counter', revision'⟩ := w'
  cases blocks
  exact ⟨distinct, roots, h.named_alive⟩

theorem bump (h : Intact w) : Intact w.bump := h.congr rfl h.roots_nodup h.root_alive

theorem next_alive (h : Intact w) {id next : BlockId} (link : w.next? id = some next) :
    w.contains next = true := by
  obtain ⟨block, found, link⟩ := Option.bind_eq_some_iff.1 link
  exact h.named_alive id block next found (.link link)

theorem content_alive (h : Intact w) {owner : BlockId} {slot : String} {content : SlotContent}
    (held : w.slot? owner slot = some content) : w.contains content.named = true := by
  obtain ⟨block, found, held⟩ := Option.bind_eq_some_iff.1 held
  exact h.named_alive owner block _ found (.slot slot content held rfl)

theorem of_tables (distinct : w.roots.Nodup) (roots : ∀ id ∈ w.roots, w.contains id = true)
    (nexts : ∀ id next, w.next? id = some next → w.contains next = true)
    (contents : ∀ seat content, w.content? seat = some content →
      w.contains content.named = true) : Intact w := by
  refine ⟨distinct, roots, fun source block id found names => ?_⟩
  cases names with
  | link link => exact nexts source id ((next?_of_get? found).trans link)
  | slot slot content held named =>
      rw [← named]
      exact contents ⟨source, slot⟩ content ((content?_of_get? found slot).trans held)

end Intact

theorem sameBlocks_toTop (w : Workspace) (id : BlockId) : SameBlocks w (w.toTop id) := by
  have unlinked := sameBlocks_modify w id
    (fun block => { block with next := none, seat := none }) (fun _ => rfl) (fun _ => rfl)
  unfold toTop
  dsimp only
  split
  · exact unlinked
  · exact ⟨rfl, unlinked.typeName?, unlinked.fields?⟩

theorem sameBlocks_release (w : Workspace) (owner : BlockId) (slot : String) :
    SameBlocks w (w.release owner slot).1 := by
  unfold release
  split
  · exact .refl w
  · refine (sameBlocks_modify w owner (fun block =>
      { block with slots := block.slots.erase slot }) (fun _ => rfl) fun _ => rfl).trans ?_
    exact .foldl sameBlocks_toTop _ _

theorem sameBlocks_linkChain (w : Workspace) (list : List BlockId) :
    SameBlocks w (w.linkChain list) := by
  induction list generalizing w with
  | nil => exact .refl w
  | cons a list ih =>
      cases list with
      | nil => exact .refl w
      | cons b rest =>
          exact (sameBlocks_modify w a (fun block => { block with next := some b }) (fun _ => rfl)
            fun _ => rfl).trans (ih _)

theorem sameBlocks_setSeats (w : Workspace) (list : List BlockId) (seat : Seat) :
    SameBlocks w
      (list.foldl (fun w id => w.modify id fun block => { block with seat := some seat }) w) := by
  refine .foldl (fun w id => ?_) w list
  exact sameBlocks_modify w id _ (fun _ => rfl) fun _ => rfl

namespace Intact

/-- A changed block may name what lives. -/
theorem modify (h : Intact w) (id : BlockId) (change : Block → Block)
    (names : ∀ block named, (change block).Names named →
      block.Names named ∨ w.contains named = true) : Intact (w.modify id change) := by
  refine ⟨h.roots_nodup, fun root member => ?_, fun source block named found named' => ?_⟩
  · rw [contains_modify]
    exact h.root_alive root member
  · rw [contains_modify]
    rw [get?_modify] at found
    split at found
    · obtain ⟨before, found', rfl⟩ := Option.map_eq_some_iff.1 found
      rcases names before named named' with old | alive
      · exact h.named_alive source before named found' old
      · exact alive
    · exact h.named_alive source block named found named'

theorem setLink (h : Intact w) (id : BlockId) {change : Block → Block} {next : Option BlockId}
    (link : ∀ block, (change block).next = next) (slots : ∀ block, (change block).slots = block.slots)
    (alive : ∀ named, next = some named → w.contains named = true) :
    Intact (w.modify id change) := by
  refine h.modify id change fun block named names => ?_
  cases names with
  | link same => exact .inr (alive named ((link block).symm.trans same))
  | slot slot content held same => exact .inl (.slot slot content (slots block ▸ held) same)

theorem insertSlot (h : Intact w) (owner : BlockId) (slot : String) {content : SlotContent}
    (alive : w.contains content.named = true) :
    Intact (w.modify owner fun block => { block with slots := block.slots.insert slot content }) := by
  refine h.modify owner _ fun block named names => ?_
  cases names with
  | link same => exact .inl (.link same)
  | slot other held shown same =>
      rw [Std.ExtTreeMap.getElem?_insert] at shown
      split at shown
      · cases shown
        exact .inr (same ▸ alive)
      · exact .inl (.slot other held shown same)

theorem eraseSlot (h : Intact w) (owner : BlockId) (slot : String) :
    Intact (w.modify owner fun block => { block with slots := block.slots.erase slot }) := by
  refine h.modify owner _ fun block named names => ?_
  cases names with
  | link same => exact .inl (.link same)
  | slot other held shown same =>
      rw [Std.ExtTreeMap.getElem?_erase] at shown
      split at shown
      · cases shown
      · exact .inl (.slot other held shown same)

theorem toTop (h : Intact w) {id : BlockId} (alive : w.contains id = true) :
    Intact (w.toTop id) := by
  have unlinked : Intact (w.modify id fun block => { block with next := none, seat := none }) :=
    h.setLink id (fun _ => rfl) (fun _ => rfl) (by simp)
  unfold Workspace.toTop
  dsimp only
  split
  · exact unlinked
  · next new =>
      have absent : id ∉ w.roots := by simpa [isRoot] using new
      refine unlinked.congr rfl ?_ ?_
      · refine List.nodup_append.2 ⟨h.roots_nodup, by simp, fun root member other single => ?_⟩
        rw [List.mem_singleton.1 single]
        exact ne_of_mem_of_not_mem member absent
      · intro root member
        rw [contains_modify]
        rcases List.mem_append.1 member with old | same
        · exact h.root_alive root old
        · exact List.mem_singleton.1 same ▸ alive

theorem foldl_toTop (h : Intact w) {list : List BlockId}
    (alive : ∀ id ∈ list, w.contains id = true) : Intact (list.foldl Workspace.toTop w) := by
  induction list generalizing w with
  | nil => exact h
  | cons id list ih =>
      refine ih (h.toTop (alive id List.mem_cons_self)) fun other member => ?_
      rw [(sameBlocks_toTop w id).contains]
      exact alive other (List.mem_cons_of_mem id member)

/-- A walk along links from a living block meets living blocks only. -/
theorem walkFrom_alive (h : Intact w) (seen : List BlockId) {id : BlockId}
    (alive : w.contains id = true) : ∀ member ∈ (w.walkFrom seen id).members,
      w.contains member = true :=
  forall_mem_walkFrom (fun _ _ _ link => h.next_alive link) seen alive

theorem contentMembers_alive (h : Intact w) {content : SlotContent}
    (alive : w.contains content.named = true) : ∀ member ∈ w.contentMembers content,
      w.contains member = true := by
  cases content with
  | single child => simpa [contentMembers, SlotContent.named] using alive
  | chain head => exact h.walkFrom_alive [] alive

/-! ## Edits other than removals -/

theorem detach (h : Intact w) (id : BlockId) : Intact (w.detach id) := by
  have hands := handsOn_detach w id
  have roots := roots_detach_sublist w id
  have alive := (sameBlocks_detach w id).contains
  refine .of_tables (roots.nodup h.roots_nodup) (fun root member => ?_) (fun a b link => ?_)
    fun seat content held => ?_
  · rw [alive]
    exact h.root_alive root (roots.subset member)
  · rw [alive]
    rcases hands.nexts a b link with same | ⟨-, next⟩
    · exact h.next_alive same
    · exact h.next_alive next
  · rw [alive]
    rcases hands.contents seat content held with same | ⟨-, next, link, rfl⟩
    · exact h.content_alive same
    · exact h.next_alive link

theorem foldl_detach (h : Intact w) (list : List BlockId) :
    Intact (list.foldl Workspace.detach w) := by
  induction list generalizing w with
  | nil => exact h
  | cons id list ih => exact ih (h.detach id)

theorem release (h : Intact w) (owner : BlockId) (slot : String) :
    Intact (w.release owner slot).1 := by
  unfold Workspace.release
  split
  · exact h
  · next content held =>
      refine (h.eraseSlot owner slot).foldl_toTop ?_
      refine (h.eraseSlot owner slot).contentMembers_alive ?_
      rw [contains_modify]
      exact h.content_alive held

theorem linkChain (h : Intact w) {list : List BlockId}
    (alive : ∀ id ∈ list, w.contains id = true) : Intact (w.linkChain list) := by
  induction list generalizing w with
  | nil => exact h
  | cons a list ih =>
      cases list with
      | nil => exact h
      | cons b rest =>
          have next : w.contains b = true := alive b (by simp)
          refine ih (w := w.modify a fun block => { block with next := some b })
            (h.setLink a (fun _ => rfl) (fun _ => rfl) ?_) fun other member => ?_
          · rintro named ⟨⟩
            exact next
          · rw [contains_modify]
            exact alive other (List.mem_cons_of_mem a member)

theorem setSeats (h : Intact w) (list : List BlockId) (seat : Seat) :
    Intact (list.foldl (fun w id => w.modify id fun block => { block with seat := some seat }) w) := by
  induction list generalizing w with
  | nil => exact h
  | cons id list ih =>
      refine ih (h.modify id _ fun block named names => .inl ?_)
      cases names with
      | link same => exact .link same
      | slot slot content held same => exact .slot slot content held same

theorem seatMembers (h : Intact w) {owner : BlockId} {slot : String} {input : SlotInput}
    (alive : ∀ id ∈ input.members, w.contains id = true) :
    Intact (w.seatMembers owner slot input) := by
  cases input with
  | single child =>
      refine (h.setSeats [child] ⟨owner, slot⟩).insertSlot owner slot ?_
      rw [(sameBlocks_setSeats w [child] ⟨owner, slot⟩).contains]
      exact alive child List.mem_cons_self
  | chain children =>
      cases children with
      | nil => exact h
      | cons head rest =>
          refine ((h.linkChain alive).setSeats (head :: rest) ⟨owner, slot⟩).insertSlot owner slot ?_
          rw [(sameBlocks_setSeats _ (head :: rest) ⟨owner, slot⟩).contains]
          exact ((sameBlocks_linkChain w (head :: rest)).contains head).trans
            (alive head List.mem_cons_self)

theorem bind (h : Intact w) {owner : BlockId} {slot : String} {input : SlotInput}
    (ok : w.bind owner slot input = .ok w') : Intact w' := by
  obtain ⟨able, rfl⟩ := bind_eq_ok_iff.1 ok
  refine (((h.foldl_detach input.members).release owner slot).seatMembers fun id member => ?_).bump
  rw [(sameBlocks_release _ owner slot).contains,
    (SameBlocks.foldl sameBlocks_detach w input.members).contains]
  exact able.alive.2 id member

theorem unbind (h : Intact w) {owner : BlockId} {slot : String} {ids : List BlockId}
    (ok : w.unbind owner slot = .ok (w', ids)) : Intact w' := by
  obtain ⟨-, rfl, -⟩ := unbind_eq_ok_iff.1 ok
  exact (h.release owner slot).bump

theorem cutAfter (h : Intact w) (seat : Seat) (id : BlockId) : Intact (w.cutAfter seat id) := by
  unfold Workspace.cutAfter
  dsimp only
  split
  · exact h
  · next head link =>
      have ended : Intact (w.modify id fun block => { block with next := none }) :=
        h.setLink id (fun _ => rfl) (fun _ => rfl) (by simp)
      refine ended.foldl_toTop fun member cut => ?_
      refine ended.walkFrom_alive [] ?_ member ((List.takeWhile_sublist _).subset cut)
      rw [contains_modify]
      exact h.next_alive link

theorem setNext (h : Intact w) {id : BlockId} {next : Option BlockId}
    (ok : w.setNext id next = .ok w') : Intact w' := by
  obtain ⟨seat, sits, -, change⟩ := setNext_cases ok
  cases next with
  | none =>
      rw [show w' = Workspace.bump (w.cutAfter seat id) from change]
      exact (h.cutAfter seat id).bump
  | some target =>
      obtain ⟨⟨type, typed, -⟩, rfl⟩ := change
      have alive := contains_of_typeAt? typed
      refine Intact.bump ?_
      split
      · refine h.setLink id (fun _ => rfl) (fun _ => rfl) ?_
        rintro named ⟨⟩
        exact alive
      · unfold spliceAfter
        have detached := h.detach target
        have linked : Intact ((w.detach target).modify id fun block =>
            { block with next := some target }) := by
          refine detached.setLink id (fun _ => rfl) (fun _ => rfl) ?_
          rintro named ⟨⟩
          exact ((sameBlocks_detach w target).contains target).trans alive
        refine linked.setLink target (fun _ => rfl) (fun _ => rfl) fun named successor => ?_
        rw [contains_modify]
        exact detached.next_alive successor

theorem createAs (h : Intact w) {id : BlockId} {type : String} {given : List (String × FieldValue)}
    (ok : w.createAs id type given = .ok w') : Intact w' := by
  obtain ⟨new, declaration, fields, known, set, rfl⟩ := createAs_eq_ok_iff.1 ok
  have created := created_insert new type fields
  refine .of_tables ?_ (fun root member => ?_) (fun other next link => ?_)
    fun seat content held => ?_
  · refine List.nodup_append.2 ⟨h.roots_nodup, by simp, fun root member other single => ?_⟩
    rintro rfl
    rw [List.mem_singleton.1 single] at member
    rw [h.root_alive id member] at new
    cases new
  · rw [created.contains]
    rcases List.mem_append.1 member with old | same
    · exact .inr (h.root_alive root old)
    · exact .inl (List.mem_singleton.1 same)
  · rw [created.nexts] at link
    exact (created.contains next).2 (.inr (h.next_alive link))
  · rw [created.contents] at held
    exact (created.contains content.named).2 (.inr (h.content_alive held))

theorem setField (h : Intact w) {id : BlockId} {name : String} {value : FieldValue}
    (ok : w.setField id name value = .ok w') : Intact w' := by
  obtain ⟨type, -, -, rfl⟩ := setField_eq_ok_iff.1 ok
  refine (h.modify id _ fun block named names => .inl ?_).bump
  cases names with
  | link same => exact .link same
  | slot slot content held same => exact .slot slot content held same

theorem moveRoot (h : Intact w) {id : BlockId} {index : Nat}
    (ok : w.moveRoot id index = .ok w') : Intact w' := by
  obtain ⟨root, rfl⟩ := moveRoot_eq_ok_iff.1 ok
  have perm := perm_moved w root index
  refine Intact.bump (h.congr rfl (perm.nodup_iff.2 h.roots_nodup) fun other member => ?_)
  exact h.root_alive other (perm.mem_iff.1 member)

end Intact

/-! ## Removals -/

/-- A removal takes the blocks that it lists, and their ids leave the top level. -/
structure Purged (w w' : Workspace) (gone : List BlockId) : Prop where
  get? : ∀ id, w'.get? id = if id ∈ gone then none else w.get? id
  roots : w'.roots.Sublist w.roots
  notMem_roots : ∀ id ∈ gone, id ∉ w'.roots

theorem purged_removeAll (w : Workspace) (stack : List BlockId) :
    Purged w (w.removeAll stack).1 (w.removeAll stack).2 := by
  induction w, stack using removeAll_induction with
  | done w stack dead removed =>
      rw [removed]
      exact ⟨by simp [dropRoots, Workspace.get?], List.filter_sublist, by simp⟩
  | step w dead id rest passed alive removed ih =>
      rw [removed]
      refine ⟨fun other => ?_, ih.roots.trans List.filter_sublist, ?_⟩
      · refine (ih.get? other).trans ?_
        rw [get?_takeOut]
        by_cases same : id = other
        · simp [same]
        · rw [if_neg same]
          refine if_congr ?_ rfl rfl
          exact (List.mem_cons.trans (or_iff_right (Ne.symm same))).symm
      · refine List.forall_mem_cons.2 ⟨fun root => ?_, ih.notMem_roots⟩
        have kept := ih.roots.subset root
        simp [takeOut, dropRoots] at kept

/-- The ids of the blocks that the removal of a block takes along, the block among them. -/
def doomed (w : Workspace) (id : BlockId) : List BlockId :=
  ((w.detach id).removeAll [id]).2

/-- Once the block is out of its place, the blocks that stay name none of those that go. -/
def Severs (w : Workspace) (id : BlockId) : Prop :=
  ∀ source block named, (w.detach id).get? source = some block → block.Names named →
    named ∈ w.doomed id → source ∈ w.doomed id

/-- A removal leaves a workspace intact exactly if the blocks that stay name none of those that
go. -/
theorem Intact.remove_iff (h : Intact w) {id : BlockId} {ids : List BlockId}
    (ok : w.remove id = .ok (w', ids)) : Intact w' ↔ Severs w id := by
  have detached := h.detach id
  have purged := purged_removeAll (w.detach id) [id]
  obtain ⟨-, rfl, -⟩ := remove_eq_ok_iff.1 ok
  have found (other : BlockId) : (Workspace.bump ((w.detach id).removeAll [id]).1).get? other =
      if other ∈ w.doomed id then none else (w.detach id).get? other := purged.get? other
  have alive (other : BlockId) :
      (Workspace.bump ((w.detach id).removeAll [id]).1).contains other = true ↔
        other ∉ w.doomed id ∧ (w.detach id).contains other = true := by
    rw [contains_iff, contains_iff, found]
    by_cases gone : other ∈ w.doomed id <;> simp [gone]
  constructor
  · intro intact source block named found' names gone
    by_contra stays
    have lives := intact.named_alive source block named (by rw [found, if_neg stays, found']) names
    exact ((alive named).1 lives).1 gone
  · intro severs
    refine ⟨purged.roots.nodup detached.roots_nodup, fun root member => ?_,
      fun source block named found' names => ?_⟩
    · rw [alive]
      exact ⟨fun gone => purged.notMem_roots root gone member,
        detached.root_alive root (purged.roots.subset member)⟩
    · rw [found] at found'
      split at found'
      · cases found'
      · next stays =>
          rw [alive]
          exact ⟨fun gone => stays (severs source block named found' names gone),
            detached.named_alive source block named found' names⟩

/-- Whether an edit cuts everything that it removes off from the rest. -/
def Severed (w : Workspace) : Edit → Prop
  | .remove id => Severs w id
  | _ => True

/-- Edits other than removals keep a workspace intact. -/
theorem Intact.apply (h : Intact w) {edit : Edit} (stays : ∀ id, edit ≠ .remove id) :
    Intact (w.apply edit).1 := by
  have step := outcome_apply w edit
  generalize (w.apply edit).1 = w' at step ⊢
  cases step with
  | refused => exact h
  | drawn => exact h.congr rfl h.roots_nodup h.root_alive
  | numbered ok =>
      have drawn : Intact w.drawNumber.2 := h.congr rfl h.roots_nodup h.root_alive
      exact drawn.createAs ok
  | created ok => exact h.createAs ok
  | fieldSet ok => exact h.setField ok
  | bound ok => exact h.bind ok
  | unbound ok => exact h.unbind ok
  | linked ok => exact h.setNext ok
  | removed ok => exact absurd rfl (stays _)
  | rootMoved ok => exact h.moveRoot ok

/-- A block that does not exist takes nothing along. -/
theorem doomed_eq_nil {id : BlockId} (absent : w.contains id = false) : w.doomed id = [] := by
  rw [doomed, removeAll_of_none]
  simp [(sameBlocks_detach w id).contains, absent]

/-- Of all edits only a removal that does not sever what it removes breaks a workspace. -/
theorem Intact.apply_iff (h : Intact w) (edit : Edit) :
    Intact (w.apply edit).1 ↔ Severed w edit := by
  cases edit with
  | remove id =>
      simp only [Workspace.apply]
      cases removed : w.remove id with
      | error e =>
          have absent : w.contains id = false := by
            refine Bool.eq_false_iff.2 fun alive => ?_
            cases removed.symm.trans (remove_eq_ok_iff.2 ⟨alive, rfl, rfl⟩)
          refine iff_of_true h fun source block named found names gone => ?_
          rw [doomed_eq_nil absent] at gone
          cases gone
      | ok result => exact h.remove_iff removed
  | create | setField | bind | unbind | setNext | moveRoot =>
      exact iff_of_true (h.apply (by simp)) trivial

/-- The workspaces that edits lead to from an empty one, links back among them, if every removal
severs what it removes. -/
inductive Kept (palette : Palette) : Workspace → Prop
  | empty : Kept palette { palette := palette }
  | edit {w : Workspace} (edit : Edit) :
    Kept palette w → Severed w edit → Kept palette (w.apply edit).1

theorem Kept.intact (run : Kept palette w) : Intact w := by
  induction run with
  | empty => exact .empty palette
  | edit edit _ severed ih => exact (ih.apply_iff edit).2 severed

theorem Forest.intact (forest : Forest w) : Intact w := by
  refine .of_tables forest.roots_nodup (fun id root => ((forest.mem_roots id).1 root).1)
    forest.next_alive forest.named_alive

/-- Without a link back every removal severs what it removes. -/
theorem Reached.kept (run : Reached palette w) : Kept palette w := by
  induction run with
  | empty => exact .empty
  | edit edit run straight ih =>
      have after := (run.orderly.apply edit straight).forest.intact
      exact .edit edit ih ((ih.intact.apply_iff edit).1 after)

/-- Every id among the roots, in a slot and in a link names a living block, and no root comes twice,
as long as every removal severs what it removes. Other edits, those that link back among them, do no
harm, and a removal that does not sever always does. Without links back every removal severs. -/
theorem intact_of_kept :
    (∀ w, Kept palette w → Intact w ∧ ∀ edit, Intact (w.apply edit).1 ↔ Severed w edit) ∧
      ∀ w, Reached palette w → Kept palette w :=
  ⟨fun _ run => ⟨run.intact, run.intact.apply_iff⟩, fun _ run => run.kept⟩

/-- A loop that is made its own successor. -/
theorem intact_of_kept_loop :
    let place : List Edit := [
      .create (some ⟨"o"⟩) "process_instruction" [],
      .create (some ⟨"a"⟩) "controls_while" [],
      .bind ⟨"o"⟩ "body" (.chain [⟨"a"⟩])]
    let before : Workspace :=
      place.foldl (fun w edit => (w.apply edit).1) { palette := .standard }
    let w := (before.apply (.setNext ⟨"a"⟩ (some ⟨"a"⟩))).1
    w.next? ⟨"a"⟩ = some ⟨"a"⟩ ∧ Reached .standard before ∧ Kept .standard before ∧
      Kept .standard w ∧ Intact w := by
  intro place before w
  have run : Reached .standard before := by
    refine .edit _ (.edit _ (.edit _ .empty ?_) ?_) ?_ <;> exact id
  have kept := intact_of_kept.2 before run
  have linked : Kept .standard w := .edit _ kept trivial
  exact ⟨by decide +kernel, run, kept, linked, (intact_of_kept.1 w linked).1⟩

/-- A loop that is its own successor stays in its slot when it is removed. Emptying the slot brings
its id to the top level, and a new block with this id comes there a second time. -/
theorem not_intact_of_loop :
    let removal : List Edit := [
      .create (some ⟨"o"⟩) "process_instruction" [],
      .create (some ⟨"a"⟩) "controls_while" [],
      .bind ⟨"o"⟩ "body" (.chain [⟨"a"⟩]),
      .setNext ⟨"a"⟩ (some ⟨"a"⟩),
      .remove ⟨"a"⟩]
    let again : List Edit := [
      .unbind ⟨"o"⟩ "body",
      .create (some ⟨"a"⟩) "controls_while" []]
    let w : Workspace :=
      removal.foldl (fun w edit => (w.apply edit).1) { palette := .standard }
    let w' := again.foldl (fun w edit => (w.apply edit).1) w
    w.slot? ⟨"o"⟩ "body" = some (.chain ⟨"a"⟩) ∧ w.contains ⟨"a"⟩ = false ∧ ¬ Intact w ∧
      w'.roots = [⟨"o"⟩, ⟨"a"⟩, ⟨"a"⟩] ∧ ¬ w'.roots.Nodup := by
  intro removal again w w'
  have held : w.slot? ⟨"o"⟩ "body" = some (.chain ⟨"a"⟩) := by decide +kernel
  have gone : w.contains ⟨"a"⟩ = false := by decide +kernel
  have twice : w'.roots = [⟨"o"⟩, ⟨"a"⟩, ⟨"a"⟩] := by decide +kernel
  refine ⟨held, gone, fun intact => ?_, twice, ?_⟩
  · have alive : w.contains ⟨"a"⟩ = true := intact.content_alive held
    rw [gone] at alive
    cases alive
  · rw [twice]
    decide

end Workspace

end SolanaBlocks
