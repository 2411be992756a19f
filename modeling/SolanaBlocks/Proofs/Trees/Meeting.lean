import SolanaBlocks.Proofs.Trees.Export

/-!
# What an export meets

An export may start from any workspace, with chains bent into cycles or back to a block around them,
with links to blocks that are gone and with blocks that several slots name. It opens each block that
it meets for the first time and leaves a stub wherever it meets one again. So every block is given in
full at most once, and there are no more trees than roots and links out of the blocks that are given.
-/

namespace SolanaBlocks

namespace Workspace

variable {w : Workspace}

/-! ## Induction on exports -/

theorem exportFrom_dead (before : List BlockId) (withNext : Bool) {id : BlockId}
    (dead : w.get? id = none) :
    (w.exportFrom before withNext id).value = [] ∧
      (w.exportFrom before withNext id).met = before := by
  rw [exportFrom]
  split
  · exact ⟨rfl, rfl⟩
  · next block found => simp [found] at dead

theorem exportFrom_again (withNext : Bool) {before : List BlockId} {id : BlockId} {block : Block}
    (found : w.get? id = some block) (again : id ∈ before) :
    (w.exportFrom before withNext id).value = [.stub id block.type] ∧
      (w.exportFrom before withNext id).met = before := by
  rw [exportFrom]
  split
  · next none => simp [none] at found
  · next block' found' =>
      rw [found] at found'
      cases found'
      rw [dif_pos again]
      exact ⟨rfl, rfl⟩

/-- The input that the export of one slot of a block gives, as far as blocks are exported as `P` says:
nothing is there or what is there does not exist, one block, or a chain. -/
inductive SlotGives (P : Bool → BlockId → List BlockId → List BlockId → List BlockTree → Prop)
    (block : Block) (slot : String) (met : List BlockId) : List BlockId → TreeInput → Prop
  | empty : block.slots[slot]? = none → SlotGives P block slot met met (.empty slot)
  | missing {child : BlockId} {met' : List BlockId} : block.slots[slot]? = some (.single child) →
    P false child met met' [] → SlotGives P block slot met met' (.empty slot)
  | single {child : BlockId} {met' : List BlockId} {tree : BlockTree} {more : List BlockTree} :
    block.slots[slot]? = some (.single child) → P false child met met' (tree :: more) →
    SlotGives P block slot met met' (.single slot tree)
  | chain {head : BlockId} {met' : List BlockId} {trees : List BlockTree} :
    block.slots[slot]? = some (.chain head) → P true head met met' trees →
    SlotGives P block slot met met' (.chain slot trees)

section Induction

/- `P withNext id before met trees`: an export from `id` on that has met `before` gives `trees` and
has met `met` then. `Q block slots before met inputs inputs'`: the same for some slots of a block,
where the inputs `inputs` have been there before. -/
variable {P : Bool → BlockId → List BlockId → List BlockId → List BlockTree → Prop}
  {Q : Block → List String → List BlockId → List BlockId → List TreeInput → List TreeInput → Prop}

theorem slotGives_exportSlot {block : Block} {before : List BlockId}
    {visit : (met : List BlockId) → before ⊆ met → (withNext : Bool) → BlockId →
      Export met (List BlockTree)}
    (visits : ∀ met grown withNext id,
      P withNext id met (visit met grown withNext id).met (visit met grown withNext id).value)
    (slot : String) (met : List BlockId) (grown : before ⊆ met) :
    SlotGives P block slot met (exportSlot block before visit slot met grown).met
      (exportSlot block before visit slot met grown).value := by
  unfold exportSlot
  split
  · next held => exact .empty held
  · next child held =>
      have visited := visits met grown false child
      generalize visit met grown false child = e at visited ⊢
      obtain ⟨_ | ⟨tree, more⟩, met', again, grows⟩ := e
      · exact .missing held visited
      · exact .single held visited
  · next head held => exact .chain held (visits met grown true head)

variable (nil : ∀ {block met inputs}, Q block [] met met inputs inputs)
  (cons : ∀ {block slot slots met met₁ met' input inputs inputs'},
    SlotGives P block slot met met₁ input →
    Q block slots met₁ met' (input.place inputs) inputs' →
    Q block (slot :: slots) met met' inputs inputs')

include nil cons

theorem exportSlots_induction {block : Block} {before : List BlockId}
    {visit : (met : List BlockId) → before ⊆ met → (withNext : Bool) → BlockId →
      Export met (List BlockTree)}
    (visits : ∀ met grown withNext id,
      P withNext id met (visit met grown withNext id).met (visit met grown withNext id).value)
    (slots : List String) (inputs : List TreeInput) (met : List BlockId) (grown : before ⊆ met) :
    Q block slots met (exportSlots block before visit slots inputs met grown).met inputs
      (exportSlots block before visit slots inputs met grown).value := by
  induction slots generalizing inputs met with
  | nil => exact nil
  | cons slot slots ih =>
      rw [exportSlots_cons]
      exact cons (slotGives_exportSlot visits slot met grown) (ih _ _ _)

/-- What an export does is what it does with one block after another: it passes over one that does not
exist, names one that has been met, or opens it, exports its slots, and goes on behind it. -/
theorem exportFrom_induction
    (dead : ∀ {withNext id before}, w.get? id = none → P withNext id before before [])
    (again : ∀ {withNext id before block}, w.get? id = some block → id ∈ before →
      P withNext id before before [.stub id block.type])
    (last : ∀ {withNext id before block met inputs}, w.get? id = some block → id ∉ before →
      (withNext = true → block.next = none) →
      Q block (w.slotNames block) (id :: before) met [] inputs →
      P withNext id before met [.mk id block.type block.fields inputs none false])
    (onward : ∀ {id next before block met met' inputs rest}, w.get? id = some block → id ∉ before →
      block.next = some next → Q block (w.slotNames block) (id :: before) met [] inputs →
      P true next met met' rest →
      P true id before met' (.mk id block.type block.fields inputs (some next) false :: rest))
    (before : List BlockId) (withNext : Bool) (id : BlockId) :
    P withNext id before (w.exportFrom before withNext id).met
      (w.exportFrom before withNext id).value := by
  induction size : w.unseen before using Nat.strongRecOn generalizing before withNext id with
  | _ size ih =>
      subst size
      cases found : w.get? id with
      | none =>
          obtain ⟨value, met⟩ := exportFrom_dead before withNext found
          rw [value, met]
          exact dead found
      | some block =>
          by_cases met : id ∈ before
          · obtain ⟨value, same⟩ := exportFrom_again withNext found met
            rw [value, same]
            exact again found met
          · have fewer := unseen_cons_lt found met
            have self := List.Subset.refl (id :: before)
            have slots : Q block (w.slotNames block) (id :: before) (w.slotsOf block self).met []
                (w.slotsOf block self).value :=
              exportSlots_induction nil cons
                (fun met grown withNext child =>
                  ih _ (Nat.lt_of_le_of_lt (unseen_le_of_subset grown) fewer) met withNext child rfl)
                _ _ _ _
            by_cases more : withNext = true ∧ block.next.isSome
            · obtain ⟨rfl, isSome⟩ := more
              obtain ⟨next, link⟩ := Option.isSome_iff_exists.1 isSome
              obtain ⟨value, met'⟩ := exportFrom_chain self found met link
              rw [value, met']
              refine onward found met link slots (ih _ (Nat.lt_of_le_of_lt ?_ fewer) _ _ _ rfl)
              exact unseen_le_of_subset (w.slotsOf block self).grows
            · have alone : withNext = true → block.next = none := by
                intro chain
                simpa [chain] using more
              obtain ⟨value, met'⟩ := exportFrom_alone self found met alone
              rw [value, met']
              exact last found met alone slots

end Induction

/-! ## Each block once -/

/-- What some slots of a block name. -/
def slotLinks (block : Block) (slots : List String) : List BlockId :=
  slots.filterMap fun slot => block.slots[slot]?.map SlotContent.named

/-- What an opened block refers to: what its slots name, and the block behind it. Each of these is
visited once. -/
def links (w : Workspace) (id : BlockId) : List BlockId :=
  match w.get? id with
  | none => []
  | some block => slotLinks block (w.slotNames block) ++ block.next.toList

theorem links_of_get? {w : Workspace} {id : BlockId} {block : Block} (found : w.get? id = some block) :
    w.links id = slotLinks block (w.slotNames block) ++ block.next.toList := by
  rw [links, found]

theorem length_slotLinks_cons (block : Block) (slot : String) (slots : List String) :
    (slotLinks block (slot :: slots)).length =
      (slotLinks block [slot]).length + (slotLinks block slots).length := by
  rw [← List.length_append, slotLinks, slotLinks, slotLinks, ← List.filterMap_append,
    List.singleton_append]

end Workspace

/-- The ids of those trees that give their blocks in full. -/
def fullIds (trees : List BlockTree) : List BlockId :=
  (trees.filter fun tree => !tree.revisited).map BlockTree.id

theorem fullIds_append (trees trees' : List BlockTree) :
    fullIds (trees ++ trees') = fullIds trees ++ fullIds trees' := by
  rw [fullIds, List.filter_append, List.map_append, fullIds, fullIds]

theorem mem_fullIds {trees : List BlockTree} {id : BlockId} :
    id ∈ fullIds trees ↔ ∃ tree ∈ trees, tree.revisited = false ∧ tree.id = id := by
  simp [fullIds, and_assoc]

/-- A new input joins the others. -/
theorem TreeInput.perm_place {input : TreeInput} {inputs : List TreeInput}
    (new : input.slot ∉ inputs.map TreeInput.slot) : (input.place inputs).Perm (input :: inputs) := by
  induction inputs with
  | nil => exact .refl _
  | cons other rest ih =>
      rw [List.map_cons, List.mem_cons, not_or] at new
      rw [TreeInput.place]
      split
      · exact .refl _
      · next same => exact absurd (Std.LawfulEqCmp.eq_of_compare same) new.1
      · exact ((ih new.2).cons other).trans (.swap input other rest)

namespace Workspace

variable {w : Workspace} {met met' met'' : List BlockId}

/-- The tree gives its block in full: its type, its fields, and each of its slots. -/
structure GivesFully (w : Workspace) (tree : BlockTree) : Prop where
  given : tree.revisited = false
  block : ∃ block, w.get? tree.id = some block ∧ tree.type = block.type ∧
    tree.fields = block.fields ∧
    ∀ slot, slot ∈ tree.inputs.map TreeInput.slot ↔ slot ∈ w.slotNames block

/-- The tree only names its block, which is one of some others. -/
structure OnlyNames (w : Workspace) (among : List BlockId) (tree : BlockTree) : Prop where
  stub : tree = .stub tree.id tree.type
  typed : w.typeName? tree.id = some tree.type
  among : tree.id ∈ among

/-- Between two moments of an export some blocks have been visited, and others from there. The new
ones among them have been opened: they are those that the given trees, taken one by one, give in
full. The other trees only name what has been met by the end. -/
structure Opened (w : Workspace) (visits : Nat) (met met' : List BlockId) (trees : List BlockTree) :
    Prop where
  count_eq : ∀ id, met'.count id = met.count id + (fullIds trees).count id
  nodup : met.Nodup → met'.Nodup
  each : ∀ tree ∈ trees, w.GivesFully tree ∨ w.OnlyNames met' tree
  bounded : trees.length ≤ visits + ((fullIds trees).flatMap w.links).length

namespace Opened

variable {visits visits' : Nat} {trees trees' : List BlockTree}

theorem nil : Opened w visits met met [] :=
  ⟨fun _ => rfl, id, by simp, Nat.zero_le _⟩

theorem subset (h : Opened w visits met met' trees) : met ⊆ met' := by
  intro id hid
  rw [← List.count_pos_iff] at hid ⊢
  exact Nat.lt_of_lt_of_le hid (h.count_eq id ▸ Nat.le_add_right _ _)

theorem append (h : Opened w visits met met' trees) (h' : Opened w visits' met' met'' trees') :
    Opened w (visits + visits') met met'' (trees ++ trees') := by
  refine ⟨fun id => ?_, h'.nodup ∘ h.nodup, List.forall_mem_append.2 ⟨fun tree ht => ?_, h'.each⟩, ?_⟩
  · rw [h'.count_eq, h.count_eq, fullIds_append, List.count_append, Nat.add_assoc]
  · exact (h.each tree ht).imp_right fun names => { names with among := h'.subset names.among }
  · rw [List.length_append, fullIds_append, List.flatMap_append, List.length_append]
    have := h.bounded
    have := h'.bounded
    omega

theorem of_perm (h : Opened w visits met met' trees) (same : trees'.Perm trees) :
    Opened w visits met met' trees' := by
  have ids : (fullIds trees').Perm (fullIds trees) := (same.filter _).map _
  refine ⟨fun id => ?_, h.nodup, fun tree ht => h.each tree (same.mem_iff.1 ht), ?_⟩
  · rw [h.count_eq, ids.count_eq]
  · rw [same.length_eq, (ids.flatMap_right w.links).length_eq]
    exact h.bounded

theorem stub {id : BlockId} {block : Block} (found : w.get? id = some block) (again : id ∈ met) :
    Opened w 1 met met [.stub id block.type] := by
  refine ⟨fun other => by simp [fullIds, BlockTree.stub, BlockTree.revisited],
    fun distinct => distinct, List.forall_mem_singleton.2 (.inr ⟨rfl, ?_, again⟩), by simp⟩
  simp [typeName?, BlockTree.stub, BlockTree.id, BlockTree.type, found]

/-- A block is opened, and what it refers to is visited from there. -/
theorem enter {tree : BlockTree} (fully : w.GivesFully tree) (new : tree.id ∉ met)
    (inner : Opened w visits (tree.id :: met) met' trees) (links : visits ≤ (w.links tree.id).length) :
    Opened w 1 met met' (tree :: trees) := by
  have full : fullIds (tree :: trees) = tree.id :: fullIds trees := by simp [fullIds, fully.given]
  refine ⟨fun id => ?_, fun distinct => inner.nodup (List.nodup_cons.2 ⟨new, distinct⟩),
    List.forall_mem_cons.2 ⟨.inl fully, inner.each⟩, ?_⟩
  · rw [inner.count_eq, full, List.count_cons, List.count_cons]
    omega
  · rw [full, List.flatMap_cons, List.length_append, List.length_cons]
    have := inner.bounded
    omega

end Opened

/-- The export of a block, or of a chain from it on, visits it and then what it leads to. -/
structure OpensFrom (w : Workspace) (withNext : Bool) (met met' : List BlockId)
    (trees : List BlockTree) : Prop where
  opened : Opened w 1 met met' (subtreesOf trees)
  single : withNext = false → trees.length ≤ 1

/-- The export of some slots of a block visits what they name, and adds an input for each. -/
structure OpensSlots (w : Workspace) (block : Block) (slots : List String) (met met' : List BlockId)
    (inputs inputs' : List TreeInput) : Prop where
  added : ∃ subs, (TreeInput.subtrees inputs').Perm (subs ++ TreeInput.subtrees inputs) ∧
    Opened w (slotLinks block slots).length met met' subs
  slots : ∀ slot, slot ∈ inputs'.map TreeInput.slot ↔
    slot ∈ inputs.map TreeInput.slot ∨ slot ∈ slots

section Slots

variable {P : Bool → BlockId → List BlockId → List BlockId → List BlockTree → Prop} {block : Block}
  {slot : String} {slots : List String} {input : TreeInput} {inputs inputs' : List TreeInput}

theorem SlotGives.slot_eq (given : SlotGives P block slot met met' input) : input.slot = slot := by
  cases given <;> rfl

theorem SlotGives.opened
    (given : SlotGives (fun withNext _ => OpensFrom w withNext) block slot met met' input) :
    Opened w (slotLinks block [slot]).length met met' (subtreesOf input.trees) := by
  have one {content : SlotContent} (held : block.slots[slot]? = some content) :
      (slotLinks block [slot]).length = 1 := by
    simp [slotLinks, held]
  cases given with
  | empty held =>
      have unused : (slotLinks block [slot]).length = 0 := by simp [slotLinks, held]
      rw [unused]
      exact .nil
  | missing held visited => exact one held ▸ visited.opened
  | @single _ _ _ more held visited =>
      obtain rfl : more = [] := by simpa using visited.single rfl
      exact one held ▸ visited.opened
  | chain held visited => exact one held ▸ visited.opened

theorem OpensSlots.nil : OpensSlots w block [] met met inputs inputs :=
  ⟨⟨[], .refl _, .nil⟩, by simp⟩

theorem OpensSlots.cons (given : SlotGives (fun withNext _ => OpensFrom w withNext) block slot met met'
      input) (new : slot ∉ inputs.map TreeInput.slot)
    (later : OpensSlots w block slots met' met'' (input.place inputs) inputs') :
    OpensSlots w block (slot :: slots) met met'' inputs inputs' := by
  obtain ⟨⟨subs, same, opened⟩, all⟩ := later
  have named := given.slot_eq
  refine ⟨⟨subtreesOf input.trees ++ subs, ?_, ?_⟩, fun other => ?_⟩
  · have placed : (TreeInput.subtrees (input.place inputs)).Perm
        (subtreesOf input.trees ++ TreeInput.subtrees inputs) := by
      rw [← TreeInput.subtrees_cons, TreeInput.subtrees_eq_flatMap, TreeInput.subtrees_eq_flatMap]
      exact (TreeInput.perm_place (named ▸ new)).flatMap_right _
    rw [List.append_assoc]
    exact same.trans ((placed.append_left subs).trans (List.perm_append_comm_assoc ..))
  · rw [length_slotLinks_cons]
    exact given.opened.append opened
  · rw [all, TreeInput.slot_mem_place, named, List.mem_cons]
    tauto

end Slots

/-- A block is opened, then its slots, and then what is behind it. -/
theorem OpensSlots.opened {id : BlockId} {block : Block} {inputs : List TreeInput}
    {rest : List BlockTree} {visits : Nat} (found : w.get? id = some block) (new : id ∉ met)
    (inner : OpensSlots w block (w.slotNames block) (id :: met) met' [] inputs)
    (later : Opened w visits met' met'' (subtreesOf rest)) (next : Option BlockId)
    (behind : visits ≤ block.next.toList.length) :
    Opened w 1 met met''
      (subtreesOf (.mk id block.type block.fields inputs next false :: rest)) := by
  obtain ⟨⟨subs, same, opened⟩, slots⟩ := inner
  have fully : w.GivesFully (.mk id block.type block.fields inputs next false) :=
    ⟨rfl, block, found, rfl, rfl, fun slot => (slots slot).trans (by simp)⟩
  refine (Opened.enter fully new (opened.append later) ?_).of_perm ?_
  · rw [BlockTree.id, links_of_get? found, List.length_append]
    exact Nat.add_le_add_left behind _
  · rw [subtreesOf, BlockTree.subtrees_eq, List.cons_append]
    refine .cons _ (.append_right _ ?_)
    simpa [TreeInput.subtrees, BlockTree.inputs] using same

theorem opensFrom_exportFrom
    (distinct : ∀ type ∈ w.palette.types, (type.slots.map SlotDecl.name).Nodup)
    (before : List BlockId) (withNext : Bool) (id : BlockId) :
    OpensFrom w withNext before (w.exportFrom before withNext id).met
      (w.exportFrom before withNext id).value := by
  have names (block : Block) : (w.slotNames block).Nodup := by
    unfold slotNames
    refine List.nodup_append.2 ⟨?_, block.slots.nodup_keys.filter _, ?_⟩
    · cases known : w.typeOf? block with
      | none => exact List.nodup_nil
      | some type => exact distinct type (List.mem_of_find?_eq_some known)
    · rintro slot declared _ other rfl
      simp [declared] at other
  refine exportFrom_induction (P := fun withNext _ => OpensFrom w withNext)
    (Q := fun block slots met met' inputs inputs' => slots.Nodup →
      (∀ slot ∈ slots, slot ∉ inputs.map TreeInput.slot) →
      OpensSlots w block slots met met' inputs inputs')
    (fun _ _ => .nil) (fun given later distinct new => ?cons) (fun _ => ⟨?dead, by simp⟩)
    (fun found again => ⟨?again, by simp⟩) (fun {_ _ _ block _ _} found new _ inner => ⟨?last, by simp⟩)
    (fun {_ next _ block _ _ _ _} found new link inner later => ⟨?onward, by simp⟩) before withNext id
  case cons =>
    obtain ⟨apart, distinct⟩ := List.nodup_cons.1 distinct
    obtain ⟨newHere, newLater⟩ := List.forall_mem_cons.1 new
    refine .cons given newHere (later distinct fun other ho => ?_)
    rw [TreeInput.slot_mem_place, given.slot_eq, not_or]
    exact ⟨ne_of_mem_of_not_mem ho apart, newLater other ho⟩
  case dead => exact ⟨fun _ => rfl, fun distinct => distinct, by simp [subtreesOf], Nat.zero_le _⟩
  case again => exact .stub found again
  case last => exact (inner (names block) (by simp)).opened found new .nil none (Nat.zero_le _)
  case onward =>
    exact (inner (names block) (by simp)).opened found new later.opened (some next) (by simp [link])

theorem opened_exportAll
    (distinct : ∀ type ∈ w.palette.types, (type.slots.map SlotDecl.name).Nodup)
    (before ids : List BlockId) :
    Opened w ids.length before (w.exportAll before ids).met
      (subtreesOf (w.exportAll before ids).value) := by
  induction ids generalizing before with
  | nil => exact .nil
  | cons id ids ih =>
      have value : (w.exportAll before (id :: ids)).value =
          (w.exportFrom before false id).value ++
            (w.exportAll (w.exportFrom before false id).met ids).value := rfl
      rw [value, subtreesOf_append, List.length_cons, Nat.add_comm]
      exact (opensFrom_exportFrom distinct before false id).opened.append (ih _)

end Workspace

end SolanaBlocks
