import SolanaBlocks.Proofs.Forest.Walks
import SolanaBlocks.Proofs.Generation.Queue
import SolanaBlocks.Proofs.Trees.Meeting

/-!
# All that can be reached is exported

An export leaves a chain at the first block that it has met before, although the chain may lead on
from there. Nothing is lost by that: whoever opened that block as a member of a chain goes on behind
it, if not before then afterwards. So in the end every block that was opened leads to opened blocks
only, and these are all that can be reached from the roots. It takes that no root and no block that
sits in a slot alone has a successor, since those are exported without looking behind them.
-/

namespace SolanaBlocks

namespace Workspace

variable {w : Workspace} {met met' met'' : List BlockId} {id : BlockId}

/-! ## Where opened blocks lead -/

/-- Nothing is left to be done for an id: it has been met, or no block has it. -/
def Settled (w : Workspace) (met : List BlockId) (id : BlockId) : Prop :=
  id ∈ met ∨ w.get? id = none

/-- What the slots of a block name is settled, and so is the block behind it. -/
structure ClosedAt (w : Workspace) (met : List BlockId) (id : BlockId) : Prop where
  slots : ∀ slot content, w.content? ⟨id, slot⟩ = some content → w.Settled met content.named
  next : ∀ next, w.next? id = some next → w.Settled met next

/-- Between two moments of an export more blocks have been met, and each of the new ones leads to
settled blocks only. -/
structure Advances (w : Workspace) (met met' : List BlockId) : Prop where
  grows : met ⊆ met'
  closed : ∀ id ∈ met', id ∈ met ∨ w.ClosedAt met' id

theorem Settled.mono (settled : w.Settled met id) (grows : met ⊆ met') : w.Settled met' id :=
  settled.imp_left fun here => grows here

theorem ClosedAt.mono (closed : w.ClosedAt met id) (grows : met ⊆ met') : w.ClosedAt met' id :=
  ⟨fun slot content held => (closed.slots slot content held).mono grows,
    fun next link => (closed.next next link).mono grows⟩

theorem Advances.refl : w.Advances met met :=
  ⟨List.Subset.refl met, fun _ => .inl⟩

theorem Advances.trans (a : w.Advances met met') (a' : w.Advances met' met'') :
    w.Advances met met'' := by
  refine ⟨List.Subset.trans a.grows a'.grows, fun id hid => ?_⟩
  rcases a'.closed id hid with old | closed
  · exact (a.closed id old).imp_right fun closed => closed.mono a'.grows
  · exact .inr closed

/-- A block that has been met on the way is a new one as well once it is closed itself. -/
theorem Advances.enter (a : w.Advances (id :: met) met') (closed : w.ClosedAt met' id) :
    w.Advances met met' := by
  refine ⟨List.Subset.trans (List.subset_cons_self id met) a.grows, fun other ho => ?_⟩
  rcases a.closed other ho with old | closed'
  · rcases List.mem_cons.1 old with rfl | old
    · exact .inr closed
    · exact .inl old
  · exact .inr closed'

/-- No block that sits in a slot alone has a successor. -/
def Lone (w : Workspace) : Prop :=
  ∀ seat child, w.content? seat = some (.single child) → w.next? child = none

/-- What the export of a block, or of a chain from it on, achieves. -/
structure Covers (w : Workspace) (id : BlockId) (met met' : List BlockId) : Prop where
  advances : w.Advances met met'
  settled : w.Settled met' id

/-- What the export of some slots of a block achieves. -/
structure CoversSlots (w : Workspace) (block : Block) (slots : List String)
    (met met' : List BlockId) : Prop where
  advances : w.Advances met met'
  settled : ∀ slot ∈ slots, ∀ content, block.slots[slot]? = some content →
    w.Settled met' content.named

/-- A block that is opened, its slots, and what is behind it. -/
theorem CoversSlots.covers {block : Block} (found : w.get? id = some block)
    (inner : CoversSlots w block (w.slotNames block) (id :: met) met')
    (later : w.Advances met' met'')
    (behind : ∀ next, block.next = some next → w.Settled met'' next) :
    Covers w id met met'' := by
  have advances := inner.advances.trans later
  refine ⟨advances.enter ⟨fun slot content held => ?_, fun next link => ?_⟩,
    .inl (advances.grows List.mem_cons_self)⟩
  · rw [content?_of_get? found] at held
    exact (inner.settled slot (mem_slotNames held) content held).mono later.grows
  · exact behind next (next?_of_get? found ▸ link)

/-- One slot after another. Only what sits in a slot alone is exported without what is behind it. -/
theorem CoversSlots.cons {block : Block} {slot : String} {slots : List String} {input : TreeInput}
    (given : SlotGives (fun withNext id met met' _ =>
      (withNext = false → w.next? id = none) → Covers w id met met') block slot met met' input)
    (lone : ∀ child, block.slots[slot]? = some (SlotContent.single child) → w.next? child = none)
    (later : CoversSlots w block slots met' met'') :
    CoversSlots w block (slot :: slots) met met'' := by
  have here : w.Advances met met' ∧
      ∀ content, block.slots[slot]? = some content → w.Settled met' content.named := by
    cases given with
    | empty held => exact ⟨.refl, by simp [held]⟩
    | @missing child _ held covers | @single child _ _ _ held covers =>
        obtain ⟨advances, settled⟩ := covers fun _ => lone child held
        refine ⟨advances, fun content same => ?_⟩
        cases held.symm.trans same
        exact settled
    | @chain head _ _ held covers =>
        obtain ⟨advances, settled⟩ := covers (by simp)
        refine ⟨advances, fun content same => ?_⟩
        cases held.symm.trans same
        exact settled
  refine ⟨here.1.trans later.advances, List.forall_mem_cons.2 ⟨fun content held => ?_, later.settled⟩⟩
  exact (here.2 content held).mono later.advances.grows

theorem covers_exportFrom (lone : w.Lone) (before : List BlockId) (withNext : Bool) (id : BlockId)
    (alone : withNext = false → w.next? id = none) :
    Covers w id before (w.exportFrom before withNext id).met := by
  have singles {id : BlockId} {block : Block} (found : w.get? id = some block) (slot : String)
      (child : BlockId) (held : block.slots[slot]? = some (SlotContent.single child)) :
      w.next? child = none :=
    lone ⟨id, slot⟩ child ((content?_of_get? found slot).trans held)
  refine exportFrom_induction
    (P := fun withNext id before met _ =>
      (withNext = false → w.next? id = none) → Covers w id before met)
    (Q := fun block slots met met' _ _ =>
      (∀ slot child, block.slots[slot]? = some (SlotContent.single child) → w.next? child = none) →
        CoversSlots w block slots met met')
    (fun _ => ⟨.refl, by simp⟩)
    (fun {_ slot _ _ _ _ _ _ _} given later singles => .cons given (singles slot) (later singles))
    (fun dead _ => ⟨.refl, .inr dead⟩) (fun _ again _ => ⟨.refl, .inl again⟩)
    (fun {withNext _ _ block _ _} found _ last inner alone => ?last)
    (fun {_ next _ block _ _ _ _} found _ link inner later _ => ?onward) before withNext id alone
  case last =>
    have none : block.next = none := by
      cases withNext with
      | true => exact last rfl
      | false => exact next?_of_get? found ▸ alone rfl
    exact (inner (singles found)).covers found .refl (by simp [none])
  case onward =>
    obtain ⟨advances, settled⟩ := later (by simp)
    exact (inner (singles found)).covers found advances (by simpa [link] using settled)

theorem covers_exportAll (lone : w.Lone) (before : List BlockId) {ids : List BlockId}
    (alone : ∀ id ∈ ids, w.next? id = none) :
    w.Advances before (w.exportAll before ids).met ∧
      ∀ id ∈ ids, w.Settled (w.exportAll before ids).met id := by
  induction ids generalizing before with
  | nil => exact ⟨.refl, by simp⟩
  | cons id ids ih =>
      obtain ⟨here, later⟩ := List.forall_mem_cons.1 alone
      obtain ⟨advances, settled⟩ := covers_exportFrom lone before false id fun _ => here
      obtain ⟨advances', settled'⟩ := ih (w.exportFrom before false id).met later
      exact ⟨advances.trans advances',
        List.forall_mem_cons.2 ⟨settled.mono advances'.grows, settled'⟩⟩

/-! ## Nothing is lost -/

/-- If what has been met is closed, a walk from a settled id stays with settled ids. -/
theorem settled_of_mem_walkFrom (closed : ∀ id ∈ met, w.ClosedAt met id) (seen : List BlockId)
    (id : BlockId) (settled : w.Settled met id) :
    ∀ other ∈ (w.walkFrom seen id).members, w.Settled met other := by
  refine forall_mem_walkFrom (fun id next settled link => ?_) seen settled
  rcases settled with here | dead
  · exact (closed id here).next next link
  · simp [next?, dead] at link

/-- What has been met, if it is closed and has the roots in it, leaves out nothing that exists and can
be reached. -/
theorem Reachable.settled (closed : ∀ id ∈ met, w.ClosedAt met id)
    (roots : ∀ id ∈ w.roots, w.Settled met id) (reached : w.Reachable id) : w.Settled met id := by
  induction reached with
  | root top => exact roots _ top
  | @child owner id _ child ih =>
      obtain ⟨slot, content, held, inside⟩ := mem_children_iff.1 child
      have named : w.Settled met content.named := by
        rcases ih with here | dead
        · exact (closed owner here).slots slot content held
        · simp [content?, slot?, dead] at held
      cases content with
      | single other => exact List.mem_singleton.1 inside ▸ named
      | chain head => exact settled_of_mem_walkFrom closed [] head named id inside

/-! ## Nothing else is exported -/

/-- Everything that a chain leads to belongs to it. -/
theorem mem_walkChain_of_linked {head : BlockId}
    (linked : Relation.ReflTransGen (fun a b => w.next? a = some b) head id) :
    id ∈ (w.walkChain head).members := by
  induction linked with
  | refl =>
      exact (List.takeWhile_sublist _).subset
        (head_mem_takeWhile_walkFrom (p := fun _ => true) List.not_mem_nil rfl)
  | tail _ link ih => exact (next_mem_walkFrom link ih).resolve_left List.not_mem_nil

/-- Whatever an export from here on meets can be reached: the block itself, and behind it what its
chain leads to if the export goes on there. -/
def Leads (w : Workspace) (withNext : Bool) (id : BlockId) : Prop :=
  w.Reachable id ∧ (withNext = true →
    ∀ other, Relation.ReflTransGen (fun a b => w.next? a = some b) id other → w.Reachable other)

/-- What a slot of a block names leads to children of the block. -/
theorem Reachable.leads (seat : Seat) {content : SlotContent} (owner : w.Reachable seat.owner)
    (held : w.content? seat = some content) :
    w.Leads (content.arity == .chain) content.named := by
  have child (other : BlockId) (inside : other ∈ w.contentMembers content) : w.Reachable other :=
    .child owner (mem_children_iff.2 ⟨seat.slot, content, held, inside⟩)
  cases content with
  | single other => exact ⟨child other (List.mem_singleton.2 rfl), by simp [SlotContent.arity]⟩
  | chain head =>
      exact ⟨child head (mem_walkChain_of_linked .refl),
        fun _ other linked => child other (mem_walkChain_of_linked linked)⟩

theorem reachable_exportFrom (before : List BlockId) (withNext : Bool) (id : BlockId)
    (leads : w.Leads withNext id) :
    ∀ other ∈ (w.exportFrom before withNext id).met, other ∈ before ∨ w.Reachable other := by
  have slots {id : BlockId} {block : Block} (found : w.get? id = some block)
      (reached : w.Reachable id) (slot : String) (content : SlotContent)
      (held : block.slots[slot]? = some content) :
      w.Leads (content.arity == .chain) content.named :=
    reached.leads ⟨id, slot⟩ ((content?_of_get? found slot).trans held)
  -- the block itself has been met when its slots are exported
  have self {id : BlockId} {before met : List BlockId} (reached : w.Reachable id)
      (inner : ∀ other ∈ met, other ∈ id :: before ∨ w.Reachable other) :
      ∀ other ∈ met, other ∈ before ∨ w.Reachable other := by
    intro other ho
    rcases inner other ho with old | new
    · exact (List.mem_cons.1 old).elim (fun same => .inr (same ▸ reached)) .inl
    · exact .inr new
  refine exportFrom_induction
    (P := fun withNext id before met _ =>
      w.Leads withNext id → ∀ other ∈ met, other ∈ before ∨ w.Reachable other)
    (Q := fun (block : Block) _ met met' _ _ =>
      (∀ (slot : String) (content : SlotContent), block.slots[slot]? = some content →
        w.Leads (content.arity == .chain) content.named) →
      ∀ other ∈ met', other ∈ met ∨ w.Reachable other)
    (fun _ _ => .inl) (fun given later leads => ?cons) (fun _ _ _ => .inl)
    (fun _ _ _ _ => .inl)
    (fun found _ _ inner leads => self leads.1 (inner (slots found leads.1)))
    (fun {_ next _ _ _ _ _ _} found _ link inner later leads => ?onward) before withNext id leads
  case cons =>
    intro other ho
    rcases later leads other ho with old | new
    · cases given with
      | empty held => exact .inl old
      | missing held visited | single held visited => exact visited (leads _ _ held) other old
      | chain held visited => exact visited (leads _ _ held) other old
    · exact .inr new
  case onward =>
    have step := (next?_of_get? found).trans link
    have behind : w.Leads true next :=
      ⟨leads.2 rfl next (.single step), fun _ other linked => leads.2 rfl other (.head step linked)⟩
    intro other ho
    rcases later behind other ho with old | new
    · exact self leads.1 (inner (slots found leads.1)) other old
    · exact .inr new

theorem reachable_exportAll (before : List BlockId) {ids : List BlockId}
    (reached : ∀ id ∈ ids, w.Reachable id) :
    ∀ other ∈ (w.exportAll before ids).met, other ∈ before ∨ w.Reachable other := by
  induction ids generalizing before with
  | nil => exact fun _ => .inl
  | cons id ids ih =>
      obtain ⟨here, later⟩ := List.forall_mem_cons.1 reached
      intro other ho
      rcases ih (w.exportFrom before false id).met later other ho with old | new
      · exact reachable_exportFrom before false id ⟨here, by simp⟩ other old
      · exact .inr new

/-! ## The export of any workspace -/

/-- Whatever the slots and links of a workspace refer to, its export opens no block twice, each of its
trees gives a block in full or names one that is given in full, and there are no more trees than roots
and links out of the blocks that are given. If no root and no block that sits in a slot alone has a
successor, the blocks that are given in full are those that exist among the ids in the work queue.
That the export ends is what its recursion on the blocks not yet met shows. -/
theorem toTrees_opens_each_once (w : Workspace)
    (distinct : ∀ type ∈ w.palette.types, (type.slots.map SlotDecl.name).Nodup) :
    (fullIds (subtreesOf w.toTrees)).Nodup ∧
      (∀ sub ∈ subtreesOf w.toTrees,
        w.GivesFully sub ∨ w.OnlyNames (fullIds (subtreesOf w.toTrees)) sub) ∧
      (subtreesOf w.toTrees).length ≤
        w.roots.length + ((fullIds (subtreesOf w.toTrees)).flatMap w.links).length ∧
      ((∀ id ∈ w.roots, w.next? id = none) →
        (∀ seat child, w.content? seat = some (.single child) → w.next? child = none) →
        ∀ id, id ∈ fullIds (subtreesOf w.toTrees) ↔ id ∈ w.workQueue ∧ w.contains id = true) := by
  have opened := opened_exportAll distinct [] w.roots
  have same : (w.exportAll [] w.roots).met.Perm (fullIds (subtreesOf w.toTrees)) :=
    List.perm_iff_count.2 fun id =>
      (opened.count_eq id).trans (by rw [List.count_nil, Nat.zero_add]; rfl)
  refine ⟨same.nodup_iff.1 (opened.nodup List.nodup_nil), fun sub inside => ?_, opened.bounded,
    fun roots lone id => ?_⟩
  · exact (opened.each sub inside).imp_right fun names =>
      { names with among := same.mem_iff.1 names.among }
  · rw [mem_workQueue_iff, contains_iff]
    constructor
    · intro full
      refine ⟨?_, ?_⟩
      · have reached :=
          reachable_exportAll [] (fun id => Reachable.root (w := w)) id (same.mem_iff.2 full)
        exact reached.resolve_left List.not_mem_nil
      · obtain ⟨sub, inside, given, rfl⟩ := mem_fullIds.1 full
        rcases opened.each sub inside with fully | names
        · obtain ⟨block, found, -⟩ := fully.block
          exact ⟨block, found⟩
        · rw [names.stub] at given
          cases given
    · rintro ⟨reached, block, found⟩
      obtain ⟨advances, settled⟩ := covers_exportAll lone [] roots
      have closed (id : BlockId) (met : id ∈ (w.exportAll [] w.roots).met) :
          w.ClosedAt (w.exportAll [] w.roots).met id :=
        (advances.closed id met).resolve_left List.not_mem_nil
      rcases reached.settled closed settled with met | dead
      · exact same.mem_iff.1 met
      · rw [found] at dead
        cases dead

/-- A chain whose two members lead to each other sits in the body of a root, and the body of its first
member names the root again. The root is listed twice, another one does not exist, and neither does
what a slot names. Each of the three blocks is given once, in the order in which they are met. -/
theorem toTrees_opens_each_once_damaged :
    let slots (list : List (String × SlotContent)) : NameTable SlotContent := .ofList list
    let block (next : Option BlockId) (held : List (String × SlotContent)) : Block :=
      { type := "loop", fields := ∅, next := next, slots := slots held }
    let w : Workspace :=
      { palette := ⟨[{ id := "loop", category := "",
                       slots := [.chain "body", .expression "while" "true"] }]⟩
        blocks := .ofList [
          ((⟨"a"⟩ : BlockId), block none [("body", .chain ⟨"b"⟩), ("while", .single ⟨"gone"⟩)]),
          (⟨"b"⟩, block (some ⟨"c"⟩) [("body", .chain ⟨"a"⟩)]),
          (⟨"c"⟩, block (some ⟨"b"⟩) [])]
        roots := [⟨"a"⟩, ⟨"a"⟩, ⟨"nowhere"⟩] }
    (∀ type ∈ w.palette.types, (type.slots.map SlotDecl.name).Nodup) ∧
      (∀ id ∈ w.roots, w.next? id = none) ∧
      (∀ seat child, w.content? seat = some (.single child) → w.next? child = none) ∧
      (subtreesOf w.toTrees).map (fun sub => (sub.id.text, sub.revisited)) =
        [("a", false), ("b", false), ("a", true), ("c", false), ("b", true), ("a", true)] ∧
      ∀ id, id ∈ fullIds (subtreesOf w.toTrees) ↔ id ∈ w.workQueue ∧ w.contains id = true := by
  intro slots block w
  have distinct : ∀ type ∈ w.palette.types, (type.slots.map SlotDecl.name).Nodup := by
    decide +kernel
  have roots : ∀ id ∈ w.roots, w.next? id = none := by decide +kernel
  have lone : ∀ seat child, w.content? seat = some (.single child) → w.next? child = none := by
    have missing : ∀ id ∈ w.ids, ∀ slot ∈ ((w.get? id).map fun block => block.slots.keys).getD [],
        ∀ child ∈ w.ids, w.content? ⟨id, slot⟩ ≠ some (.single child) := by decide +kernel
    intro seat child held
    obtain ⟨owner, slot⟩ := mem_keys_of_content? held
    cases dead : w.get? child with
    | none => rw [next?, dead, Option.bind_none]
    | some block =>
        exact absurd held (missing seat.owner owner seat.slot slot child (mem_ids_of_get? dead))
  exact ⟨distinct, roots, lone, by decide +kernel,
    (toTrees_opens_each_once w distinct).2.2.2 roots lone⟩

end Workspace

end SolanaBlocks
