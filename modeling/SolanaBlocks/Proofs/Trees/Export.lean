import SolanaBlocks.BlockTree.Export
import SolanaBlocks.Proofs.Forest.Descent
import SolanaBlocks.Proofs.Forest.Kinds
import SolanaBlocks.Proofs.Trees.Depiction

/-!
# The export of a forest

In a forest nothing is met twice, so the trees of the roots depict the workspace, and they are in
normal form. The export of a block meets what lies below it and nothing else; as the trees below
different members and different slots have nothing in common, each of them is still unmet when its
turn comes.
-/

namespace SolanaBlocks

namespace Workspace

variable {w : Workspace} {members : Seat → List BlockId}

/-- A tree in normal form shows its block, and so does everything below it. -/
def ShowsFully (w : Workspace) (members : Seat → List BlockId) (tree : BlockTree) : Prop :=
  ∀ sub ∈ tree.subtrees, Shows w members sub ∧ sub.Normal w.palette

/-- An export shows some blocks, and has met what lies below them in addition. -/
structure Shown (w : Workspace) (members : Seat → List BlockId) (ids : List BlockId)
    (nexts : List (Option BlockId)) {before : List BlockId} (e : Export before (List BlockTree)) :
    Prop where
  depicts : ∀ tree ∈ e.value, ShowsFully w members tree
  tops : e.value.map BlockTree.id = ids
  linked : e.value.map BlockTree.next = nexts
  met : ∀ x, x ∈ e.met ↔ x ∈ before ∨ ∃ id ∈ ids, w.Below x id

/-- The export of one slot of a block. -/
def exportSlot (block : Block) (before : List BlockId)
    (visit : (met : List BlockId) → before ⊆ met → (withNext : Bool) → BlockId →
      Export met (List BlockTree))
    (slot : String) (met : List BlockId) (grown : before ⊆ met) : Export met TreeInput :=
  match block.slots[slot]? with
  | none => ⟨.empty slot, met, [], List.Subset.refl met⟩
  | some (.single child) =>
    (visit met grown false child).map fun
      | [] => .empty slot
      | tree :: _ => .single slot tree
  | some (.chain head) => (visit met grown true head).map (.chain slot)

section Slots

variable {owner : BlockId} {block : Block} (before : List BlockId)
  (visit : (met : List BlockId) → before ⊆ met → (withNext : Bool) → BlockId →
    Export met (List BlockTree))

theorem exportSlots_cons (slot : String) (rest : List String) (inputs : List TreeInput)
    (met : List BlockId) (grown : before ⊆ met) :
    exportSlots block before visit (slot :: rest) inputs met grown =
      (exportSlot block before visit slot met grown).andThen fun input =>
        exportSlots block before visit rest (input.place inputs)
          (exportSlot block before visit slot met grown).met
          (List.Subset.trans grown (exportSlot block before visit slot met grown).grows) :=
  rfl

/-- The input shows a slot fully, with everything below it. -/
structure ShowsSlot (w : Workspace) (members : Seat → List BlockId) (owner : BlockId)
    (input : TreeInput) : Prop where
  shows : ShowsInput w members owner input
  linked : input.Linked
  inner : ∀ child ∈ input.trees, ShowsFully w members child

/-- What the export of one slot shows. -/
structure SlotShown (w : Workspace) (members : Seat → List BlockId) (owner : BlockId) (slot : String)
    {met : List BlockId} (e : Export met TreeInput) : Prop where
  named : e.value.slot = slot
  shows : ShowsSlot w members owner e.value
  met : ∀ x, x ∈ e.met ↔ x ∈ met ∨ ∃ id ∈ members ⟨owner, slot⟩, w.Below x id

theorem slotShown_exportSlot (h : Laid w members []) (t : Typed w)
    (found : w.get? owner = some block) (slot : String) (met : List BlockId) (grown : before ⊆ met)
    (shown : ∀ content, w.content? ⟨owner, slot⟩ = some content →
      Shown w members (members ⟨owner, slot⟩) (followers (members ⟨owner, slot⟩))
        (visit met grown (content.arity == .chain) content.named)) :
    SlotShown w members owner slot (exportSlot block before visit slot met grown) := by
  have holds := h.holds ⟨owner, slot⟩
  have slots : w.content? ⟨owner, slot⟩ = block.slots[slot]? := by
    rw [content?, slot?, found, Option.bind_some]
  unfold exportSlot
  cases held : block.slots[slot]? with
  | none =>
      rw [slots, held] at holds
      have empty := holds.eq_nil_iff.2 rfl
      exact ⟨rfl, ⟨⟨empty, fun _ none => (by cases none), fun _ => rfl⟩, rfl,
        fun _ inside => (by cases inside)⟩, by simp [empty]⟩
  | some content =>
      have this := shown content (slots.trans held)
      have arity := t.declared ⟨owner, slot⟩ content (slots.trans held)
      rw [slots, held] at holds
      cases content with
      | single child =>
          obtain ⟨depicts, ids, nexts, reached⟩ := this
          generalize list : members ⟨owner, slot⟩ = all at holds ids nexts reached
          cases holds
          dsimp only
          change ∀ tree ∈ (visit met grown false child).value, _ at depicts
          change (visit met grown false child).value.map BlockTree.id = [child] at ids
          change (visit met grown false child).value.map BlockTree.next = _ at nexts
          change ∀ x, x ∈ (visit met grown false child).met ↔ _ at reached
          generalize visit met grown false child = e at depicts ids nexts reached ⊢
          obtain ⟨trees, met', again, grows⟩ := e
          obtain ⟨tree, rfl, rfl⟩ : ∃ tree, trees = [tree] ∧ tree.id = child := by
            simpa [List.map_eq_singleton_iff] using ids
          refine ⟨rfl, ⟨⟨list, ?_, fun none => (by cases none)⟩, nexts, depicts⟩, by rwa [list]⟩
          rintro _ ⟨⟩
          exact arity
      | chain head =>
          generalize list : members ⟨owner, slot⟩ = all at holds this
          cases holds with
          | chain _ rest =>
              obtain ⟨depicts, ids, nexts, reached⟩ := this
              refine ⟨rfl, ⟨⟨list.trans ids.symm, ?_, fun none => ?_⟩, ?_, depicts⟩, by rwa [list]⟩
              · rintro _ ⟨⟩
                exact arity
              · have none := congrArg (List.map BlockTree.id) none
                exact absurd (ids.symm.trans none) (by simp)
              · exact nexts.trans (congrArg followers ids.symm)

/-- What the export of the slots of a block shows. -/
structure SlotsShown (w : Workspace) (members : Seat → List BlockId) (owner : BlockId)
    (list : List String) (inputs : List TreeInput) {met : List BlockId}
    (e : Export met (List TreeInput)) : Prop where
  sorted : TreeInput.Sorted e.value
  slots : ∀ slot, slot ∈ e.value.map TreeInput.slot ↔
    slot ∈ inputs.map TreeInput.slot ∨ slot ∈ list
  shows : ∀ input ∈ e.value, ShowsSlot w members owner input
  met : ∀ x, x ∈ e.met ↔
    x ∈ met ∨ ∃ slot ∈ list, ∃ id ∈ members ⟨owner, slot⟩, w.Below x id

theorem slotsShown_exportSlots (h : Laid w members []) (t : Typed w)
    (found : w.get? owner = some block)
    (shown : ∀ met grown slot content, w.content? ⟨owner, slot⟩ = some content →
      (∀ id ∈ members ⟨owner, slot⟩, ∀ x, w.Below x id → x ∉ met) →
      Shown w members (members ⟨owner, slot⟩) (followers (members ⟨owner, slot⟩))
        (visit met grown (content.arity == .chain) content.named))
    (list : List String) (inputs : List TreeInput) (met : List BlockId) (grown : before ⊆ met)
    (distinct : list.Nodup) (sorted : TreeInput.Sorted inputs)
    (shows : ∀ input ∈ inputs, ShowsSlot w members owner input)
    (fresh : ∀ slot ∈ list, ∀ id ∈ members ⟨owner, slot⟩, ∀ x, w.Below x id → x ∉ met) :
    SlotsShown w members owner list inputs
      (exportSlots block before visit list inputs met grown) := by
  induction list generalizing inputs met with
  | nil => exact ⟨sorted, by simp [exportSlots], shows, by simp [exportSlots]⟩
  | cons slot rest ih =>
      obtain ⟨apart, distinct⟩ := List.nodup_cons.1 distinct
      obtain ⟨freshHere, freshLater⟩ := List.forall_mem_cons.1 fresh
      have here := slotShown_exportSlot before visit h t found slot met grown fun content held =>
        shown met grown slot content held freshHere
      rw [exportSlots_cons]
      generalize exportSlot block before visit slot met grown = this at here ⊢
      obtain ⟨named, input, reached⟩ := here
      have later := ih (this.value.place inputs) this.met (List.Subset.trans grown this.grows)
        distinct (sorted.place this.value) (fun other placed => ?_) ?_
      · refine ⟨later.sorted, fun other => ?_, later.shows, fun x => ?_⟩
        · refine (later.slots other).trans ?_
          rw [TreeInput.slot_mem_place, named, List.mem_cons]
          tauto
        · refine (later.met x).trans ?_
          rw [reached, List.exists_mem_cons_iff, or_assoc]
      · rcases TreeInput.mem_of_mem_place placed with rfl | before
        · exact input
        · exact shows other before
      · intro other ho id hid x below seen
        rcases (reached x).1 seen with old | ⟨id', hid', below'⟩
        · exact freshLater other ho id hid x below old
        · have alive := below.contains (h.contains_of_mem hid)
          have same := (h.below_unique hid hid' below below' alive).1
          exact apart (same ▸ ho)

end Slots

/-- The export of the slots of a block that has been opened. -/
def slotsOf (w : Workspace) (block : Block) {opened met : List BlockId} (grown : opened ⊆ met) :
    Export met (List TreeInput) :=
  exportSlots block opened (fun met _ withNext child => w.exportFrom met withNext child)
    (w.slotNames block) [] met grown

theorem exportFrom_alone {before : List BlockId} {id : BlockId} {block : Block} {withNext : Bool}
    (self : id :: before ⊆ id :: before) (found : w.get? id = some block) (new : id ∉ before)
    (alone : withNext = true → block.next = none) :
    (w.exportFrom before withNext id).value =
        [.mk id block.type block.fields (w.slotsOf block self).value none false] ∧
      (w.exportFrom before withNext id).met = (w.slotsOf block self).met := by
  rw [exportFrom]
  split
  · next none => simp [none] at found
  · next block' found' =>
      rw [found] at found'
      cases found'
      rw [dif_neg new]
      dsimp only
      split
      · next next link => simp [alone rfl] at link
      · exact ⟨rfl, rfl⟩

theorem exportFrom_chain {before : List BlockId} {id next : BlockId} {block : Block}
    (self : id :: before ⊆ id :: before) (found : w.get? id = some block) (new : id ∉ before)
    (link : block.next = some next) :
    (w.exportFrom before true id).value =
        .mk id block.type block.fields (w.slotsOf block self).value (some next) false ::
          (w.exportFrom (w.slotsOf block self).met true next).value ∧
      (w.exportFrom before true id).met =
        (w.exportFrom (w.slotsOf block self).met true next).met := by
  rw [exportFrom]
  split
  · next none => simp [none] at found
  · next block' found' =>
      rw [found] at found'
      cases found'
      rw [dif_neg new]
      dsimp only
      split
      · next next' link' =>
          rw [link] at link'
          cases link'
          exact ⟨rfl, rfl⟩
      · next none => exact absurd link (none next rfl)

/-- The blocks that an export from `id` on is about: the block alone, or the rest of its chain. -/
structure Stretch (w : Workspace) (withNext : Bool) (id : BlockId) (rest : List BlockId) : Prop where
  alive : ∀ other ∈ id :: rest, w.contains other = true
  owners : ∀ other ∈ rest, w.owner? other = w.owner? id
  distinct : (id :: rest).Nodup
  alone : withNext = false → rest = []
  linked : withNext = true → Linked w.next? (id :: rest) none

/-- Behind its first block a stretch goes on with the rest of a chain. -/
theorem Stretch.tail {withNext : Bool} {id next : BlockId} {rest : List BlockId}
    (stretch : Stretch w withNext id (next :: rest)) : withNext = true ∧ Stretch w true next rest := by
  cases withNext with
  | false => cases stretch.alone rfl
  | true =>
      obtain ⟨-, distinct⟩ := List.nodup_cons.1 stretch.distinct
      have linked := stretch.linked rfl
      refine ⟨rfl, fun other ho => stretch.alive other (List.mem_cons_of_mem id ho),
        fun other ho => ?_, distinct, by simp, fun _ => linked.2⟩
      rw [stretch.owners other (List.mem_cons_of_mem next ho),
        stretch.owners next List.mem_cons_self]

/-- What lies below the rest of a stretch does not lie below its first block. -/
theorem Stretch.not_below {withNext : Bool} {id other x : BlockId} {rest : List BlockId}
    (stretch : Stretch w withNext id rest) (h : Laid w members []) (ho : other ∈ rest)
    (below : w.Below x other) : ¬ w.Below x id := by
  intro under
  obtain ⟨once, -⟩ := List.nodup_cons.1 stretch.distinct
  have rooted := h.rooted x (under.contains (stretch.alive id List.mem_cons_self))
  have same := under.unique below rooted (stretch.owners other ho).symm
  exact once (same ▸ ho)

/-- The content of a slot is a block alone or a chain from its first member on. -/
theorem Laid.stretch (h : Laid w members []) {seat : Seat} {content : SlotContent}
    (held : w.content? seat = some content) :
    ∃ rest, members seat = content.named :: rest ∧
      Stretch w (content.arity == .chain) content.named rest := by
  have holds := h.holds seat
  have distinct := h.nodup seat
  have linked := h.linked seat
  have alive (id : BlockId) (hid : id ∈ members seat) := h.contains_of_mem hid
  have owners (id : BlockId) (hid : id ∈ members seat) : w.owner? id = some seat.owner := by
    rw [owner?, (h.mem_members seat id).1 hid]
    rfl
  rw [held] at holds
  generalize members seat = list at holds distinct linked alive owners
  cases holds with
  | single child => exact ⟨[], rfl, alive, by simp, distinct, fun _ => rfl, fun _ => linked⟩
  | chain head rest =>
      refine ⟨rest, rfl, alive, fun other ho => ?_, distinct, ?_, fun _ => linked⟩
      · rw [owners other (List.mem_cons_of_mem head ho), SlotContent.named,
          owners head List.mem_cons_self]
      · intro chain
        cases chain

/-- What the slots of a block add to the blocks met is what lies strictly below it. -/
theorem SlotsShown.mem_met (h : Laid w members []) {id : BlockId} {block : Block}
    {before : List BlockId} {e : Export (id :: before) (List TreeInput)}
    (found : w.get? id = some block)
    (shown : SlotsShown w members id (w.slotNames block) [] e) (x : BlockId) :
    x ∈ e.met ↔ x ∈ before ∨ w.Below x id := by
  rw [shown.met, List.mem_cons, Below.cases_top]
  have below : (∃ slot ∈ w.slotNames block, ∃ child ∈ members ⟨id, slot⟩, w.Below x child) ↔
      ∃ child, w.OwnedBy child id ∧ w.Below x child := by
    constructor
    · rintro ⟨slot, -, child, hchild, below⟩
      exact ⟨child, h.ownedBy_iff.2 ⟨slot, hchild⟩, below⟩
    · rintro ⟨child, owned, below⟩
      obtain ⟨slot, hchild⟩ := h.ownedBy_iff.1 owned
      obtain ⟨content, held⟩ := h.content?_of_mem hchild
      rw [content?, slot?, found] at held
      exact ⟨slot, mem_slotNames held, child, hchild, below⟩
  rw [below]
  tauto

/-- In an orderly workspace every slot in use is declared, so the slots of a block are those that its
type declares. -/
theorem slotNames_eq (t : Typed w) {id : BlockId} {block : Block} {type : BlockType}
    (found : w.get? id = some block) (typed : w.typeAt? id = some type) :
    w.slotNames block = type.slots.map SlotDecl.name := by
  have known : w.typeOf? block = some type := by
    rw [typeAt?, typeName?, found] at typed
    exact typed
  have unused : block.slots.keys.filter
      (fun name => !(type.slots.map SlotDecl.name).contains name) = [] := by
    apply List.filter_eq_nil_iff.2
    intro name used
    obtain ⟨content, held⟩ : ∃ content, block.slots[name]? = some content := by
      rw [Std.ExtTreeMap.mem_keys, ← Std.ExtTreeMap.isSome_getElem?_iff_mem,
        Option.isSome_iff_exists] at used
      exact used
    have arity := t.declared ⟨id, name⟩ content (by rw [content?, slot?, found]; exact held)
    rw [arity?, typed] at arity
    obtain ⟨declaration, declared, -⟩ := Option.map_eq_some_iff.1 arity
    have named : declaration.name = name := by
      simpa using List.find?_some declared
    have listed : name ∈ type.slots.map SlotDecl.name :=
      List.mem_map.2 ⟨declaration, List.mem_of_find?_eq_some declared, named⟩
    simpa using listed
  rw [slotNames, known]
  simp only [Option.map_some, Option.getD_some]
  rw [unused, List.append_nil]

/-- The slots of a block and its table of fields make up a tree that shows it. -/
theorem showsFully_mk (h : Laid w members []) (t : Typed w) {id : BlockId} {block : Block}
    {before : List BlockId} {e : Export (id :: before) (List TreeInput)}
    (found : w.get? id = some block) (shown : SlotsShown w members id (w.slotNames block) [] e)
    (next : Option BlockId) :
    ShowsFully w members (.mk id block.type block.fields e.value next false) := by
  obtain ⟨type, typed⟩ := t.known id (contains_iff.2 ⟨block, found⟩)
  have known : w.palette.get? block.type = some type := by
    rw [typeAt?, typeName?, found] at typed
    exact typed
  have fields : w.fields? id = some block.fields := by simp [fields?, found]
  have full : type.complete block.fields = block.fields :=
    BlockType.complete_eq_self fun name => (t.keyed id type block.fields typed fields name).2
  have slots (slot : String) :
      slot ∈ e.value.map TreeInput.slot ↔ slot ∈ type.slots.map SlotDecl.name := by
    rw [shown.slots, slotNames_eq t found typed]
    simp
  have here : Shows w members (.mk id block.type block.fields e.value next false) := by
    refine ⟨rfl, by simp [typeName?, found, BlockTree.id, BlockTree.type],
      ⟨type, known, fields.trans (congrArg some full.symm)⟩, shown.sorted.nodup, fun slot some => ?_,
      fun input given => (shown.shows input given).shows⟩
    have some : members ⟨id, slot⟩ ≠ [] := some
    obtain ⟨child, hchild⟩ := List.exists_mem_of_ne_nil _ some
    obtain ⟨content, held⟩ := h.content?_of_mem hchild
    rw [content?, slot?, found] at held
    exact (shown.slots slot).2 (.inr (mem_slotNames held))
  intro sub inside
  rcases BlockTree.mem_subtrees.1 inside with rfl | ⟨input, given, child, held, below⟩
  · exact ⟨here, ⟨type, known, full, slots⟩, shown.sorted, fun input given =>
      (shown.shows input given).linked⟩
  · exact (shown.shows input given).inner child held sub below

theorem shown_exportFrom (h : Laid w members []) (t : Typed w)
    (slots : ∀ id block, w.get? id = some block → (w.slotNames block).Nodup)
    {before : List BlockId} {withNext : Bool} {id : BlockId} {rest : List BlockId}
    (stretch : Stretch w withNext id rest)
    (fresh : ∀ other ∈ id :: rest, ∀ x, w.Below x other → x ∉ before) :
    Shown w members (id :: rest) (followers (id :: rest)) (w.exportFrom before withNext id) := by
  induction size : w.unseen before using Nat.strongRecOn
    generalizing before withNext id rest with
  | _ size ih =>
      subst size
      obtain ⟨block, found⟩ := contains_iff.1 (stretch.alive id List.mem_cons_self)
      have new : id ∉ before := fresh id List.mem_cons_self id Below.refl
      have fewer := unseen_cons_lt found new
      have self := List.Subset.refl (id :: before)
      have inner : SlotsShown w members id (w.slotNames block) [] (w.slotsOf block self) := by
        refine slotsShown_exportSlots (id :: before) _ h t found
          (fun met grown slot content held freshSlot => ?_) (w.slotNames block) [] (id :: before)
          (List.Subset.refl _) (slots id block found) List.Pairwise.nil (by simp)
          (fun slot _ child hchild x below seen => ?_)
        · obtain ⟨rest', list, stretch'⟩ := h.stretch held
          rw [list] at freshSlot ⊢
          exact ih _ (Nat.lt_of_le_of_lt (unseen_le_of_subset grown) fewer) stretch' freshSlot rfl
        · have owned := h.ownedBy_iff.2 ⟨slot, hchild⟩
          rcases List.mem_cons.1 seen with rfl | seen
          · exact h.not_below_owner owned below
          · exact fresh id List.mem_cons_self x
              (below.trans (Relation.ReflTransGen.single owned)) seen
      have met := inner.mem_met h found
      have tree := showsFully_mk h t found inner
      cases rest with
      | nil =>
          have alone : withNext = true → block.next = none := by
            intro chain
            have last := (stretch.linked chain).1
            rwa [next?, found] at last
          obtain ⟨value, met'⟩ := exportFrom_alone self found new alone
          refine ⟨?_, ?_, ?_, fun x => ?_⟩
          · rw [value]
            simpa using tree none
          · rw [value]
            rfl
          · rw [value]
            rfl
          · rw [met', met]
            simp
      | cons next rest =>
          obtain ⟨rfl, behind⟩ := stretch.tail
          have link : block.next = some next := by
            have first := (stretch.linked rfl).1
            rwa [next?, found] at first
          obtain ⟨value, met'⟩ := exportFrom_chain self found new link
          have unmet : ∀ other ∈ next :: rest, ∀ x, w.Below x other →
              x ∉ (w.slotsOf block self).met := by
            intro other ho x below seen
            rcases (met x).1 seen with old | under
            · exact fresh other (List.mem_cons_of_mem id ho) x below old
            · exact stretch.not_below h ho below under
          have later := ih _ (Nat.lt_of_le_of_lt
            (unseen_le_of_subset (w.slotsOf block self).grows) fewer) behind unmet rfl
          refine ⟨?_, ?_, ?_, fun x => ?_⟩
          · rw [value]
            exact List.forall_mem_cons.2 ⟨tree (some next), later.depicts⟩
          · rw [value, List.map_cons, later.tops]
            rfl
          · rw [value, List.map_cons, later.linked]
            rfl
          · rw [met', later.met, met, List.exists_mem_cons_iff (a := id), or_assoc]

theorem shown_exportAll (h : Laid w members []) (t : Typed w)
    (slots : ∀ id block, w.get? id = some block → (w.slotNames block).Nodup)
    (before : List BlockId) {ids : List BlockId}
    (tops : ∀ id ∈ ids, w.contains id = true ∧ w.seat? id = none)
    (distinct : ids.Nodup) (fresh : ∀ id ∈ ids, ∀ x, w.Below x id → x ∉ before) :
    Shown w members ids (ids.map fun _ => none) (w.exportAll before ids) := by
  induction ids generalizing before with
  | nil => exact ⟨by simp [exportAll], rfl, rfl, by simp [exportAll]⟩
  | cons id ids ih =>
      obtain ⟨once, distinct⟩ := List.nodup_cons.1 distinct
      obtain ⟨⟨alive, free⟩, tops⟩ := List.forall_mem_cons.1 tops
      obtain ⟨freshHere, freshLater⟩ := List.forall_mem_cons.1 fresh
      have alone : Stretch w false id [] :=
        ⟨by simpa using alive, by simp, by simp, fun _ => rfl, by simp⟩
      have here := shown_exportFrom h t slots alone (by simpa using freshHere)
      have unmet : ∀ other ∈ ids, ∀ x, w.Below x other →
          x ∉ (w.exportFrom before false id).met := by
        intro other ho x below seen
        rcases (here.met x).1 seen with old | ⟨same, hsame, under⟩
        · exact freshLater other ho x below old
        · rw [List.mem_singleton.1 hsame] at under
          have owners : w.owner? id = w.owner? other := by
            rw [owner?, owner?, free, (tops other ho).2]
          have equal := under.unique below (h.rooted x (under.contains alive)) owners
          exact once (equal ▸ ho)
      have later := ih _ tops distinct unmet
      have value : (w.exportAll before (id :: ids)).value =
          (w.exportFrom before false id).value ++
            (w.exportAll (w.exportFrom before false id).met ids).value := rfl
      refine ⟨?_, ?_, ?_, fun x => ?_⟩
      · rw [value]
        exact List.forall_mem_append.2 ⟨here.depicts, later.depicts⟩
      · rw [value, List.map_append, here.tops, later.tops, List.singleton_append]
      · rw [value, List.map_append, here.linked, later.linked, List.map_cons]
        rfl
      · refine (later.met x).trans ?_
        rw [here.met, List.exists_mem_cons_iff (a := id), or_assoc]
        simp

/-- The trees of a forest depict its roots, each of them in normal form. -/
structure Exports (w : Workspace) (members : Seat → List BlockId) (trees : List BlockTree) :
    Prop where
  depicts : Depicts w members trees
  normal : ∀ sub ∈ subtreesOf trees, sub.Normal w.palette
  ids : trees.map BlockTree.id = w.roots
  nexts : trees.map BlockTree.next = w.roots.map fun _ => none

theorem exports_toTrees (h : Laid w members []) (t : Typed w)
    (distinct : ∀ type ∈ w.palette.types, (type.slots.map SlotDecl.name).Nodup) :
    Exports w members w.toTrees := by
  have slots (id : BlockId) (block : Block) (found : w.get? id = some block) :
      (w.slotNames block).Nodup := by
    obtain ⟨type, typed⟩ := t.known id (contains_iff.2 ⟨block, found⟩)
    obtain ⟨name, -, known⟩ := Option.bind_eq_some_iff.1 typed
    rw [slotNames_eq t found typed]
    exact distinct type (List.mem_of_find?_eq_some known)
  obtain ⟨fully, ids, nexts, -⟩ := shown_exportAll h t slots []
    (fun id root => ⟨((h.mem_roots id).1 root).1, ((h.mem_roots id).1 root).2.1⟩) h.roots_nodup
    (by simp)
  have inside {sub : BlockTree} (here : sub ∈ subtreesOf w.toTrees) :
      Shows w members sub ∧ sub.Normal w.palette := by
    obtain ⟨tree, root, below⟩ := mem_subtreesOf.1 here
    exact fully tree root sub below
  exact ⟨fun sub here => (inside here).1, fun sub here => (inside here).2, ids, nexts⟩

end Workspace

end SolanaBlocks
