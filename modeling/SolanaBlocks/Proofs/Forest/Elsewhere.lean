import SolanaBlocks.Proofs.Forest.Descent
import SolanaBlocks.Proofs.Forest.References

/-!
# Edits elsewhere

Whatever an edit changes is found from the blocks that it names, going along slots, links and seats.
So if some blocks refer only to each other, an edit that names no others leaves the rest as it is,
and afterwards they still refer only to each other. It does not matter what shape they have: links
that lead back are no different here. Without such links the blocks of a tree are of this kind, and
so are all the others.
-/

namespace SolanaBlocks

variable {S : BlockId → Prop}

/-- The block refers only to blocks with `S`, in its slots, as its successor and as its owner. -/
structure Block.Within (S : BlockId → Prop) (block : Block) : Prop where
  slot : ∀ (slot : String) (content : SlotContent), block.slots[slot]? = some content →
    S content.named
  next : ∀ next, block.next = some next → S next
  seat : ∀ seat : Seat, block.seat = some seat → S seat.owner

namespace Block.Within

variable {block : Block} (h : block.Within S)

include h

theorem unlinked : Within S { block with next := none, seat := none } :=
  ⟨h.slot, by simp, by simp⟩

theorem setNext {next : Option BlockId} (inside : ∀ id, next = some id → S id) :
    Within S { block with next := next } :=
  ⟨h.slot, inside, h.seat⟩

theorem setSeat {seat : Seat} (inside : S seat.owner) :
    Within S { block with seat := some seat } :=
  ⟨h.slot, h.next, fun _ same => Option.some.inj same ▸ inside⟩

theorem setField (name : String) (value : FieldValue) :
    Within S { block with fields := block.fields.insert name value } :=
  ⟨h.slot, h.next, h.seat⟩

theorem eraseSlot (slot : String) : Within S { block with slots := block.slots.erase slot } := by
  refine ⟨fun other content held => ?_, h.next, h.seat⟩
  rw [Std.ExtTreeMap.getElem?_erase] at held
  split at held
  · cases held
  · exact h.slot other content held

theorem insertSlot (slot : String) {content : SlotContent} (inside : S content.named) :
    Within S { block with slots := block.slots.insert slot content } := by
  refine ⟨fun other content' held => ?_, h.next, h.seat⟩
  rw [Std.ExtTreeMap.getElem?_insert] at held
  split at held
  · cases held
    exact inside
  · exact h.slot other content' held

end Block.Within

/-- The blocks that an edit names, apart from a root that gets another position. -/
def Edit.blocks : Edit → List BlockId
  | create .. => []
  | setField id _ _ => [id]
  | bind owner _ input => owner :: input.members
  | unbind owner _ => [owner]
  | setNext id next => id :: next.toList
  | remove id => [id]
  | moveRoot _ _ => []

namespace Workspace

variable {w w' w'' : Workspace} {id : BlockId}

/-- Blocks with `S` refer only to blocks with `S`. -/
def SelfContained (S : BlockId → Prop) (w : Workspace) : Prop :=
  ∀ id block, S id → w.get? id = some block → block.Within S

namespace SelfContained

variable (h : w.SelfContained S)

include h

theorem named (seat : Seat) {content : SlotContent} (inside : S seat.owner)
    (held : w.content? seat = some content) : S content.named := by
  obtain ⟨block, found, held⟩ := Option.bind_eq_some_iff.1 held
  exact (h seat.owner block inside found).slot seat.slot content held

theorem next {next : BlockId} (inside : S id) (link : w.next? id = some next) : S next := by
  obtain ⟨block, found, link⟩ := Option.bind_eq_some_iff.1 link
  exact (h id block inside found).next next link

theorem seat {seat : Seat} (inside : S id) (sits : w.seat? id = some seat) : S seat.owner := by
  obtain ⟨block, found, sits⟩ := Option.bind_eq_some_iff.1 sits
  exact (h id block inside found).seat seat sits

theorem owner {owner : BlockId} (inside : S id) (owned : w.owner? id = some owner) : S owner := by
  obtain ⟨seat, sits, rfl⟩ := Option.map_eq_some_iff.1 owned
  exact h.seat inside sits

/-- Walks stay among such blocks. -/
theorem walkFrom (seen : List BlockId) (inside : S id) :
    ∀ member ∈ (w.walkFrom seen id).members, S member :=
  forall_mem_walkFrom (fun _ _ here link => h.next here link) seen inside

theorem contentMembers {content : SlotContent} (inside : S content.named) :
    ∀ member ∈ w.contentMembers content, S member := by
  cases content with
  | single child => simpa [Workspace.contentMembers, SlotContent.named] using inside
  | chain head => exact h.walkFrom [] inside

theorem children (inside : S id) : ∀ child ∈ w.children id, S child := by
  intro child hc
  obtain ⟨slot, content, held, member⟩ := mem_children_iff.1 hc
  exact h.contentMembers (h.named ⟨id, slot⟩ inside held) child member

end SelfContained

/-- Only blocks with `S` have changed, and they refer only to blocks with `S`. -/
structure Spares (S : BlockId → Prop) (w w' : Workspace) : Prop where
  closed : w'.SelfContained S
  get? : ∀ id, ¬ S id → w'.get? id = w.get? id

namespace Spares

theorem trans (first : Spares S w w') (second : Spares S w' w'') : Spares S w w'' :=
  ⟨second.closed, fun id outside => (second.get? id outside).trans (first.get? id outside)⟩

/-- Counters and the top level do not matter. -/
theorem congr (spares : Spares S w w') (blocks : w''.blocks = w'.blocks) : Spares S w w'' := by
  have same (id : BlockId) : w''.get? id = w'.get? id := by
    rw [Workspace.get?, blocks, Workspace.get?]
  refine ⟨fun id block inside found => ?_, fun id outside => ?_⟩
  · exact spares.closed id block inside (same id ▸ found)
  · exact (same id).trans (spares.get? id outside)

theorem refl (closed : w.SelfContained S) : Spares S w w :=
  ⟨closed, fun _ _ => rfl⟩

/-- Blocks that exist without `S` still exist. -/
theorem fresh (spares : Spares S w w') (fresh : ∀ id, w.contains id = false → S id) :
    ∀ id, w'.contains id = false → S id := by
  intro id gone
  by_contra outside
  refine outside (fresh id ?_)
  rw [Workspace.contains, Std.ExtTreeMap.contains_eq_isSome_getElem?] at gone ⊢
  exact (congrArg Option.isSome (spares.get? id outside)).symm.trans gone

/-- Steps of one kind, one after the other. -/
theorem foldl {step : Workspace → BlockId → Workspace}
    (each : ∀ {w : Workspace}, w.SelfContained S → ∀ {id}, S id → Spares S w (step w id))
    (closed : w.SelfContained S) {list : List BlockId} (inside : ∀ id ∈ list, S id) :
    Spares S w (list.foldl step w) := by
  induction list generalizing w with
  | nil => exact refl closed
  | cons id list ih =>
      have first := each closed (inside id List.mem_cons_self)
      exact first.trans (ih first.closed fun other ho => inside other (List.mem_cons_of_mem id ho))

end Spares

namespace SelfContained

variable (h : w.SelfContained S)

include h

/-! ## Small steps -/

theorem modify (inside : S id) (change : Block → Block)
    (keeps : ∀ block, block.Within S → (change block).Within S) :
    Spares S w (w.modify id change) := by
  refine ⟨fun other block inside' found => ?_, fun other outside => ?_⟩
  · rw [get?_modify] at found
    split at found
    · obtain ⟨before, found', rfl⟩ := Option.map_eq_some_iff.1 found
      exact keeps before (h other before inside' found')
    · exact h other block inside' found
  · rw [get?_modify, if_neg]
    rintro rfl
    exact outside inside

theorem takeOut (inside : S id) (passed : List BlockId) : Spares S w (w.takeOut id passed) := by
  refine ⟨fun other block inside' found => ?_, fun other outside => ?_⟩
  · rw [get?_takeOut] at found
    split at found
    · cases found
    · exact h other block inside' found
  · rw [get?_takeOut, if_neg]
    rintro rfl
    exact outside inside

theorem insert (inside : S id) (block : Block) (within : block.Within S)
    (blocks : w'.blocks = w.blocks.insert id block) : Spares S w w' := by
  have found (other : BlockId) :
      w'.get? other = if id = other then some block else w.get? other := by
    rw [get?, blocks]
    refine Std.ExtTreeMap.getElem?_insert.trans ?_
    simp only [Std.LawfulEqOrd.compare_eq_iff_eq, get?]
  refine ⟨fun other block' inside' here => ?_, fun other outside => ?_⟩
  · rw [found] at here
    split at here
    · cases here
      exact within
    · exact h other block' inside' here
  · rw [found, if_neg]
    rintro rfl
    exact outside inside

theorem toTop (inside : S id) : Spares S w (w.toTop id) := by
  have unlinked := h.modify inside _ fun _ within => within.unlinked
  unfold Workspace.toTop
  dsimp only
  split
  · exact unlinked
  · exact unlinked.congr rfl

theorem detach (inside : S id) : Spares S w (w.detach id) := by
  unfold Workspace.detach
  split
  · exact (Spares.refl h).congr rfl
  · cases sits : w.seat? id with
    | none => exact .refl h
    | some seat =>
        have unlinked := h.modify inside _ fun _ within => within.unlinked
        have above : S seat.owner := h.seat inside sits
        have successor : ∀ next, w.next? id = some next → S next := fun next => h.next inside
        dsimp only
        generalize (w.modify id fun block => { block with next := none, seat := none }) = w₁
          at unlinked ⊢
        cases held : w₁.slot? seat.owner seat.slot with
        | none => exact unlinked
        | some content =>
            have named : S content.named := unlinked.closed.named seat above held
            cases content with
            | single child =>
                dsimp only
                split
                · exact unlinked.trans <|
                    unlinked.closed.modify above _ fun _ within => within.eraseSlot seat.slot
                · exact unlinked
            | chain head =>
                dsimp only
                split
                · refine unlinked.trans (unlinked.closed.modify above _ fun _ within => ?_)
                  cases link : w.next? id with
                  | none => exact within.eraseSlot seat.slot
                  | some next => exact within.insertSlot seat.slot (successor next link)
                · split
                  · exact unlinked
                  · next previous found =>
                      have before := unlinked.closed.walkFrom [] named previous
                        (List.mem_of_find?_eq_some found)
                      exact unlinked.trans <|
                        unlinked.closed.modify before _ fun _ within => within.setNext successor

theorem release {owner : BlockId} (inside : S owner) (slot : String) :
    Spares S w (w.release owner slot).1 := by
  unfold Workspace.release
  split
  · exact .refl h
  · next content held =>
      have named : S content.named := h.named ⟨owner, slot⟩ inside held
      have emptied := h.modify inside _ fun _ within => within.eraseSlot slot
      exact emptied.trans (.foldl (fun closed _ => closed.toTop) emptied.closed
        (emptied.closed.contentMembers named))

theorem linkChain {list : List BlockId} (inside : ∀ id ∈ list, S id) :
    Spares S w (w.linkChain list) := by
  induction list generalizing w with
  | nil => exact .refl h
  | cons a list ih =>
      cases list with
      | nil => exact .refl h
      | cons b rest =>
          obtain ⟨first, later⟩ := List.forall_mem_cons.1 inside
          have linked := h.modify first (fun block => { block with next := some b })
            fun _ within => within.setNext fun _ same =>
              Option.some.inj same ▸ later b List.mem_cons_self
          exact linked.trans (ih linked.closed later)

/-- Seating blocks and naming one of them in the slot. -/
theorem fill (seat : Seat) {list : List BlockId} {content : SlotContent} (inside : S seat.owner)
    (members : ∀ id ∈ list, S id) (named : S content.named) :
    Spares S w ((list.foldl
      (fun w id => w.modify id fun block => { block with seat := some seat }) w).modify seat.owner
        fun block => { block with slots := block.slots.insert seat.slot content }) := by
  have seated : Spares S w (list.foldl
      (fun w id => w.modify id fun block => { block with seat := some seat }) w) :=
    .foldl (fun closed _ member => closed.modify member _ fun _ within => within.setSeat inside) h
      members
  exact seated.trans <|
    seated.closed.modify inside _ fun _ within => within.insertSlot seat.slot named

theorem seatMembers {owner : BlockId} {input : SlotInput} (inside : S owner) (slot : String)
    (members : ∀ id ∈ input.members, S id) : Spares S w (w.seatMembers owner slot input) := by
  match input with
  | .single child =>
      exact h.fill ⟨owner, slot⟩ inside members (members child List.mem_cons_self)
  | .chain [] => exact .refl h
  | .chain (head :: rest) =>
      have linked := h.linkChain members
      exact linked.trans <| linked.closed.fill ⟨owner, slot⟩ inside members
        (members head List.mem_cons_self)

theorem removeAll {stack : List BlockId} (inside : ∀ id ∈ stack, S id) :
    Spares S w (w.removeAll stack).1 := by
  induction w, stack using removeAll_induction with
  | done w stack dead removed =>
      rw [removed]
      exact (Spares.refl h).congr rfl
  | step w dead id rest passed alive removed ih =>
      have here : S id := inside id (by simp)
      have taken := h.takeOut here dead
      rw [removed]
      refine taken.trans (ih taken.closed fun other ho => ?_)
      rcases List.mem_append.1 ho with child | later
      · exact h.children here other (List.mem_reverse.1 child)
      · exact inside other (List.mem_append_right _ (List.mem_cons_of_mem id later))

theorem cutAfter (seat : Seat) (inside : S id) : Spares S w (w.cutAfter seat id) := by
  unfold Workspace.cutAfter
  dsimp only
  split
  · exact .refl h
  · next head link =>
      have ended := h.modify inside (fun block => { block with next := none })
        fun _ within => within.setNext (by simp)
      refine ended.trans (.foldl (fun closed _ => closed.toTop) ended.closed fun member cut => ?_)
      exact ended.closed.walkFrom [] (h.next inside link) member
        ((List.takeWhile_sublist _).subset cut)

theorem spliceAfter {seat : Seat} {target : BlockId} (above : S seat.owner) (inside : S id)
    (arrival : S target) : Spares S w (w.spliceAfter seat id target) := by
  have detached := h.detach arrival
  have linked := detached.closed.modify inside (fun block => { block with next := some target })
    fun _ within => within.setNext fun _ same => Option.some.inj same ▸ arrival
  refine (detached.trans linked).trans (linked.closed.modify arrival _ fun _ within => ?_)
  exact (within.setNext fun _ => detached.closed.next inside).setSeat above

/-! ## Edits -/

theorem bind {owner : BlockId} {slot : String} {input : SlotInput} (inside : S owner)
    (members : ∀ id ∈ input.members, S id) (ok : w.bind owner slot input = .ok w') :
    Spares S w w' := by
  obtain ⟨-, rfl⟩ := bind_eq_ok_iff.1 ok
  have detached : Spares S w (input.members.foldl Workspace.detach w) :=
    .foldl (fun closed _ => closed.detach) h members
  have released := detached.trans (detached.closed.release inside slot)
  exact (released.trans (released.closed.seatMembers inside slot members)).congr rfl

theorem unbind {owner : BlockId} {slot : String} {ids : List BlockId} (inside : S owner)
    (ok : w.unbind owner slot = .ok (w', ids)) : Spares S w w' := by
  obtain ⟨-, rfl, -⟩ := unbind_eq_ok_iff.1 ok
  exact (h.release inside slot).congr rfl

theorem setNext {next : Option BlockId} (inside : S id) (behind : ∀ target ∈ next, S target)
    (ok : w.setNext id next = .ok w') : Spares S w w' := by
  obtain ⟨seat, sits, -, change⟩ := setNext_cases ok
  cases next with
  | none =>
      rw [show w' = Workspace.bump (w.cutAfter seat id) from change]
      exact (h.cutAfter seat inside).congr rfl
  | some target =>
      obtain ⟨-, rfl⟩ := change
      have arrival : S target := behind target rfl
      have changed : Spares S w (if w.linksBack seat id target then
          w.modify id fun block => { block with next := some target }
          else w.spliceAfter seat id target) := by
        split
        · exact h.modify inside _ fun _ within => within.setNext fun _ same =>
            Option.some.inj same ▸ arrival
        · exact h.spliceAfter (h.seat inside sits) inside arrival
      exact changed.congr rfl

theorem remove {ids : List BlockId} (inside : S id) (ok : w.remove id = .ok (w', ids)) :
    Spares S w w' := by
  obtain ⟨-, rfl, -⟩ := remove_eq_ok_iff.1 ok
  have detached := h.detach inside
  exact (detached.trans (detached.closed.removeAll (by simpa using inside))).congr rfl

theorem moveRoot {index : Nat} (ok : w.moveRoot id index = .ok w') : Spares S w w' := by
  obtain ⟨-, rfl⟩ := moveRoot_eq_ok_iff.1 ok
  exact (Spares.refl h).congr rfl

theorem createAs {type : String} {given : List (String × FieldValue)}
    (fresh : ∀ id, w.contains id = false → S id) (ok : w.createAs id type given = .ok w') :
    Spares S w w' := by
  obtain ⟨new, declaration, fields, -, -, rfl⟩ := createAs_eq_ok_iff.1 ok
  exact h.insert (fresh id new) { type := type, fields := fields }
    ⟨by simp, by simp, by simp⟩ rfl

theorem setField {name : String} {value : FieldValue} (inside : S id)
    (ok : w.setField id name value = .ok w') : Spares S w w' := by
  obtain ⟨type, -, -, rfl⟩ := setField_eq_ok_iff.1 ok
  exact (h.modify inside _ fun _ within => within.setField name value).congr rfl

/-- An edit that names only blocks with `S` changes no other block. -/
theorem apply (fresh : ∀ id, w.contains id = false → S id) {edit : Edit}
    (inside : ∀ id ∈ edit.blocks, S id) : Spares S w (w.apply edit).1 := by
  have step := outcome_apply w edit
  generalize (w.apply edit).1 = w' at step ⊢
  cases step with
  | refused => exact .refl h
  | drawn => exact (Spares.refl h).congr rfl
  | numbered ok =>
      have drawn : Spares S w w.drawNumber.2 := (Spares.refl h).congr rfl
      exact drawn.trans (drawn.closed.createAs fresh ok)
  | created ok => exact h.createAs fresh ok
  | fieldSet ok => exact h.setField (inside _ List.mem_cons_self) ok
  | bound ok =>
      obtain ⟨owner, members⟩ := List.forall_mem_cons.1 inside
      exact h.bind owner members ok
  | unbound ok => exact h.unbind (inside _ List.mem_cons_self) ok
  | linked ok =>
      obtain ⟨here, behind⟩ := List.forall_mem_cons.1 inside
      exact h.setNext here (fun target same => behind target (Option.mem_toList.2 same)) ok
  | removed ok => exact h.remove (inside _ List.mem_cons_self) ok
  | rootMoved ok => exact h.moveRoot ok

/-- Edits that name only blocks with `S` change no other block. -/
theorem applyEach (fresh : ∀ id, w.contains id = false → S id) {edits : List Edit}
    (inside : ∀ edit ∈ edits, ∀ id ∈ edit.blocks, S id) :
    Spares S w (edits.foldl (fun w edit => (w.apply edit).1) w) := by
  induction edits generalizing w with
  | nil => exact .refl h
  | cons edit edits ih =>
      have first := h.apply fresh (inside edit List.mem_cons_self)
      exact first.trans <| ih first.closed (first.fresh fresh) fun other ho =>
        inside other (List.mem_cons_of_mem edit ho)

end SelfContained

/-! ## Trees -/

namespace Laid

variable {members : Seat → List BlockId} (h : Laid w members [])

include h

/-- A block that sits somewhere belongs to the tree of its owner. -/
theorem below_iff {root : BlockId} (top : root ∈ w.roots) {seat : Seat}
    (sits : w.seat? id = some seat) : w.Below id root ↔ w.Below seat.owner root := by
  have owned : w.OwnedBy id seat.owner := Workspace.ownedBy_iff.2 ⟨seat.slot, sits⟩
  refine ⟨fun below => below.to_owner ?_ owned, fun above => above.head owned⟩
  rintro rfl
  rw [((h.mem_roots id).1 top).2.1] at sits
  cases sits

/-- Links and slots lead to blocks with the same owner, so it is enough to look at owners. -/
theorem selfContained
    (along : ∀ id seat, w.seat? id = some seat → (S id ↔ S seat.owner)) : w.SelfContained S := by
  have member (seat : Seat) (inside : S seat.owner) {id : BlockId} (hid : id ∈ members seat) :
      S id := (along id seat ((h.mem_members seat id).1 hid)).2 inside
  intro id block inside found
  refine ⟨fun slot content held => ?_, fun next link => ?_, fun seat sits => ?_⟩
  · have holds := h.holds ⟨id, slot⟩
    rw [content?_of_get? found, held] at holds
    exact member ⟨id, slot⟩ inside (List.mem_of_head? holds.head?_eq)
  · obtain ⟨seat, sits, sits'⟩ := h.seat?_of_next? ((next?_of_get? found).trans link)
    exact (along next seat sits').2 ((along id seat sits).1 inside)
  · exact (along id seat ((seat?_of_get? found).trans sits)).1 inside

end Laid

end Workspace

end SolanaBlocks
