import SolanaBlocks.Proofs.Forest.Ownership

/-!
# Statements are linked to statements

A link may lead anywhere once chains have been bent, but only from one statement to another, and a
slot for a chain names a statement. This holds of all that live; an id that is named after its block
has been removed says nothing. So no walk along links comes to a block that stands for a value.
-/

namespace SolanaBlocks

namespace Workspace

variable {w w' : Workspace} {seat : Seat} {id target : BlockId}

/-- The block is of a type that stands for no value. -/
def IsStatement (w : Workspace) (id : BlockId) : Prop :=
  ∃ type, w.typeAt? id = some type ∧ type.producesValue = false

theorem SameBlocks.isStatement_iff (h : SameBlocks w w') : w'.IsStatement id ↔ w.IsStatement id := by
  rw [IsStatement, IsStatement, h.typeAt?]

/-- What fits a seat in a chain is a statement. -/
theorem Fits.isStatement (fits : w.Fits id seat) (chain : w.arity? seat = some .chain) :
    w.IsStatement id := by
  obtain ⟨arity, type, declared, typed, fit⟩ := fits
  rw [chain] at declared
  cases declared
  exact ⟨type, typed, fit⟩

/-- What fits a seat for a value is none. -/
theorem Fits.not_isStatement (fits : w.Fits id seat) (value : w.arity? seat = some .expression) :
    ¬ w.IsStatement id := by
  obtain ⟨arity, type, declared, typed, fit⟩ := fits
  rw [value] at declared
  cases declared
  rintro ⟨type', typed', statement⟩
  rw [typed] at typed'
  cases typed'
  rw [statement] at fit
  cases fit

/-- Blocks fit their places, and links and slots for chains name statements as far as what they name
lives. -/
structure Matched (w : Workspace) : Prop where
  typed : Typed w
  link : ∀ id next, w.next? id = some next →
    w.IsStatement id ∧ (w.contains next = true → w.IsStatement next)
  head : ∀ seat head, w.content? seat = some (.chain head) → w.contains head = true →
    w.IsStatement head

namespace Matched

/-- A move keeps this if the links and names that it brings are of the kind. -/
theorem of_move (h : Matched w) (blocks : SameBlocks w w')
    (nexts : ∀ id next, w'.next? id = some next → w.next? id = some next ∨
      w.IsStatement id ∧ (w.contains next = true → w.IsStatement next))
    (contents : ∀ seat content, w'.content? seat = some content → w.content? seat = some content ∨
      w.arity? seat = some content.arity ∧
        ∀ head, content = .chain head → w.contains head = true → w.IsStatement head)
    (seats : ∀ id seat, w'.seat? id = some seat → w.seat? id = some seat ∨ w.Fits id seat) :
    Matched w' := by
  refine ⟨h.typed.of_move blocks (fun seat content held => ?_) seats, fun id next link => ?_,
    fun seat head held alive => ?_⟩
  · rcases contents seat content held with same | ⟨arity, -⟩
    · exact .inl ⟨content, same, rfl⟩
    · exact .inr arity
  · rw [blocks.isStatement_iff, blocks.isStatement_iff, blocks.contains]
    rcases nexts id next link with same | new
    · exact h.link id next same
    · exact new
  · rw [blocks.contains] at alive
    rw [blocks.isStatement_iff]
    rcases contents seat _ held with same | ⟨-, new⟩
    · exact h.head seat head same alive
    · exact new head rfl alive

/-- So does a move that only takes away. -/
theorem of_fewer (h : Matched w) (blocks : SameBlocks w w')
    (nexts : ∀ id next, w'.next? id = some next → w.next? id = some next)
    (contents : ∀ seat content, w'.content? seat = some content → w.content? seat = some content)
    (seats : ∀ id seat, w'.seat? id = some seat → w.seat? id = some seat) : Matched w' :=
  h.of_move blocks (fun id next link => .inl (nexts id next link))
    (fun seat content held => .inl (contents seat content held))
    fun id seat sits => .inl (seats id seat sits)

/-- All this is told by the palette and the blocks alone. -/
theorem congr (h : Matched w) (palette : w'.palette = w.palette) (blocks : w'.blocks = w.blocks) :
    Matched w' := by
  obtain ⟨palette, blocks, _, _, _⟩ := w
  obtain ⟨_, _, _, _, _⟩ := w'
  cases palette
  cases blocks
  exact ⟨h.typed.congr rfl rfl, h.link, h.head⟩

/-- What lives on a walk that starts with a statement is a statement. -/
theorem isStatement_of_mem_walk (h : Matched w) {head : BlockId} {seen : List BlockId}
    (start : w.contains head = true → w.IsStatement head) (hid : id ∈ (w.walkFrom seen head).members)
    (alive : w.contains id = true) : w.IsStatement id := by
  rcases eq_or_linked_of_mem_walkFrom hid with rfl | ⟨a, link⟩
  · exact start alive
  · exact (h.link a id link).2 alive

theorem raised (h : Matched w) {list : List BlockId} (r : Raised w w' list) : Matched w' := by
  refine h.of_fewer r.blocks (fun id next link => ?_) (fun seat content held => ?_)
    fun id seat sits => ?_
  · rw [r.nexts] at link
    split at link
    · cases link
    · exact link
  · rwa [r.contents] at held
  · rw [r.seats] at sits
    split at sits
    · cases sits
    · exact sits

/-! ## Single moves -/

theorem detach (h : Matched w) (id : BlockId) : Matched (w.detach id) := by
  have hands := handsOn_detach w id
  refine h.of_move (sameBlocks_detach w id) (fun a b link => ?_) (fun seat content held => ?_)
    fun other seat sits => .inl ((unseats_detach w id).seat?_eq sits)
  · rcases hands.nexts a b link with same | ⟨before, after⟩
    · exact .inl same
    · exact .inr ⟨(h.link a id before).1, (h.link id b after).2⟩
  · rcases hands.contents seat content held with same | ⟨before, next, link, rfl⟩
    · exact .inl same
    · have arity := h.typed.declared seat _ before
      refine .inr ⟨arity, ?_⟩
      rintro head ⟨⟩
      exact (h.link id next link).2

/-- Blocks that fit a slot may fill it. -/
theorem filled (h : Matched w) {input : SlotInput} (f : Filled w w' seat input)
    (arity : w.arity? seat = some input.arity) (fits : ∀ id ∈ input.members, w.Fits id seat) :
    Matched w' := by
  have statement {id : BlockId} (hid : id ∈ input.members) {list : List BlockId}
      (chain : input = .chain list) : w.IsStatement id := by
    refine (fits id hid).isStatement ?_
    rw [arity, chain]
    rfl
  refine h.of_move f.blocks (fun a b link => ?_) (fun other content held => ?_)
    fun id other sits => ?_
  · by_cases ha : a ∈ input.members
    · have hb := (f.linked.next_mem ha link).resolve_right (Option.some_ne_none b ∘ Eq.symm)
      cases chain : input with
      | single child =>
          rw [chain] at ha hb
          have linked := f.linked
          rw [chain] at linked
          rw [List.mem_singleton.1 ha, linked.1] at link
          cases link
      | chain list => exact .inr ⟨statement ha chain, fun _ => statement hb chain⟩
    · rw [f.nexts a ha] at link
      exact .inl link
  · rw [f.contents, Function.update_apply] at held
    split at held
    · next same =>
        subst same
        refine .inr ⟨by rw [arity, arity_contentOf held], ?_⟩
        rintro head rfl -
        match input, held with
        | .chain (first :: rest), rfl => exact statement List.mem_cons_self rfl
    · exact .inl held
  · rw [f.seats] at sits
    split at sits
    · next hid =>
        cases sits
        exact .inr (fits id hid)
    · exact .inl sits

/-- A statement may be linked in behind a member of a chain. -/
theorem spliced (h : Matched w) (s : Spliced w w' seat id target)
    (chain : w.arity? seat = some .chain) (member : w.IsStatement id) (fits : w.Fits target seat) :
    Matched w' := by
  have statement := fits.isStatement chain
  refine h.of_move s.blocks (fun a b link => ?_) (fun other content held => ?_)
    fun other seat' sits => ?_
  · rw [s.nexts, Function.update_apply, Function.update_apply] at link
    split at link
    · exact .inr ⟨‹a = target› ▸ statement, (h.link id b link).2⟩
    · split at link
      · cases link
        exact .inr ⟨‹a = id› ▸ member, fun _ => statement⟩
      · exact .inl link
  · rw [s.contents] at held
    exact .inl held
  · rw [s.seats, Function.update_apply] at sits
    split at sits
    · cases sits
      exact .inr (‹other = target› ▸ fits)
    · exact .inl sits

/-- A statement may be linked to any other. -/
theorem relinked (h : Matched w) (r : Relinked w w' id (some target)) (member : w.IsStatement id)
    (statement : w.IsStatement target) : Matched w' := by
  refine h.of_move r.blocks (fun a b link => ?_) (fun other content held => .inl (r.contents ▸ held))
    fun other seat sits => .inl (r.seats ▸ sits)
  rw [r.nexts, Function.update_apply] at link
  split at link
  · cases link
    exact .inr ⟨‹a = id› ▸ member, fun _ => statement⟩
  · exact .inl link

/-- A new block may be any whose id nothing refers to. -/
theorem created (h : Matched w) {type : String} {fields : NameTable FieldValue}
    (c : Created w w' id type fields) {declaration : BlockType}
    (known : w.palette.get? type = some declaration)
    (keyed : ∀ name, name ∈ fields ↔ (declaration.field? name).isSome)
    (unlinked : ∀ other, w.next? other ≠ some id)
    (unnamed : ∀ seat, w.content? seat ≠ some (.chain id)) : Matched w' := by
  have before {other : BlockId} (alive : w'.contains other = true) (ne : other ≠ id) :
      w.contains other = true :=
    ((c.contains other).1 alive).resolve_left ne
  have stays {other : BlockId} (statement : w.IsStatement other) : w'.IsStatement other := by
    obtain ⟨type, typed, value⟩ := statement
    refine ⟨type, ?_, value⟩
    rw [c.typeAt?, if_neg, typed]
    rintro rfl
    have alive := contains_of_typeAt? typed
    rw [c.new] at alive
    cases alive
  refine ⟨c.typed h.typed known keyed, fun other next link => ?_, fun seat head held alive => ?_⟩
  · rw [c.nexts] at link
    obtain ⟨source, reached⟩ := h.link other next link
    refine ⟨stays source, fun alive => stays (reached (before alive ?_))⟩
    rintro rfl
    exact unlinked other link
  · rw [c.contents] at held
    refine stays (h.head seat head held (before alive ?_))
    rintro rfl
    exact unnamed seat held

theorem setField (h : Matched w) {type : BlockType} {name : String} (known : w.typeAt? id = some type)
    (declared : (type.field? name).isSome) (value : FieldValue) :
    Matched (w.modify id fun block => { block with fields := block.fields.insert name value }) := by
  have statement {other : BlockId} (known : w.IsStatement other) : IsStatement
      (w.modify id fun block => { block with fields := block.fields.insert name value }) other := by
    obtain ⟨type, typed, statement⟩ := known
    exact ⟨type, by rw [typeAt?_modify w id _ fun _ => by rfl, typed], statement⟩
  refine ⟨typed_setField h.typed known declared value, fun other next link => ?_,
    fun seat head held alive => ?_⟩
  · rw [next?_modify_of_eq w id _ fun _ => by rfl] at link
    obtain ⟨source, reached⟩ := h.link other next link
    refine ⟨statement source, fun alive => statement (reached ?_)⟩
    rwa [contains_modify] at alive
  · rw [content?_modify_of_eq w id _ fun _ => by rfl] at held
    rw [contains_modify] at alive
    exact statement (h.head seat head held alive)

end Matched

end Workspace

end SolanaBlocks
