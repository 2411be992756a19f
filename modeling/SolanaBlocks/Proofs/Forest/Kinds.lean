import SolanaBlocks.Proofs.Forest.Chain

/-!
# What fits where

Every block has a type of the palette, every slot in use is declared with the kind of its content,
and a block stands for a value exactly if it sits in a slot for one. Types stay with their blocks,
so a move keeps all this if whatever it puts somewhere fits there.
-/

namespace SolanaBlocks

/-- The kind of slot that holds such content. -/
def SlotContent.arity : SlotContent → SlotArity
  | single _ => .expression
  | chain _ => .chain

/-- The first block in a slot. -/
def SlotContent.named : SlotContent → BlockId
  | single child => child
  | chain head => head

/-- What is in a slot is named by its first member. -/
theorem Holds.head?_eq {content : SlotContent} {members : List BlockId}
    (h : Holds (some content) members) : members.head? = some content.named := by
  cases h <;> rfl

/-- A chain is named by the first of its members. -/
theorem Holds.eq_chain {content : SlotContent} {members : List BlockId}
    (h : Holds (some content) members) (chain : content.arity = .chain) :
    content = .chain members.headI := by
  cases h with
  | single child => cases chain
  | chain head rest => rfl

/-- What a slot holds is told by its members and by its kind. -/
theorem Holds.eq_of_arity {content content' : Option SlotContent} {members : List BlockId}
    (h : Holds content members) (h' : Holds content' members)
    (same : ∀ c c', content = some c → content' = some c' → c'.arity = c.arity) :
    content' = content := by
  cases h with
  | empty => exact h'.eq_nil_iff.1 rfl
  | single child =>
      cases h' with
      | single => rfl
      | chain => cases same _ _ rfl rfl
  | chain head rest =>
      cases h' with
      | single => cases same _ _ rfl rfl
      | chain => rfl

namespace Workspace

/-- The declaration of a block's type. -/
def typeAt? (w : Workspace) (id : BlockId) : Option BlockType :=
  (w.typeName? id).bind w.palette.get?

/-- The kind of slot that a seat is in. -/
def arity? (w : Workspace) (seat : Seat) : Option SlotArity :=
  ((w.typeAt? seat.owner).bind fun type => type.slot? seat.slot).map SlotDecl.arity

/-- A block stands for a value exactly if the seat is for one. -/
def Fits (w : Workspace) (id : BlockId) (seat : Seat) : Prop :=
  ∃ arity type, w.arity? seat = some arity ∧ w.typeAt? id = some type ∧
    type.producesValue = (arity == .expression)

variable {w w' : Workspace}

theorem requireType_eq_ok_iff {id : BlockId} {type : BlockType} :
    w.requireType id = .ok type ↔ w.typeAt? id = some type := by
  unfold requireType typeAt? typeName? typeOf?
  cases w.get? id with
  | none => simp
  | some block =>
      simp only [Option.map_some, Option.bind_some]
      cases w.palette.get? block.type <;> simp

theorem contains_of_typeAt? {id : BlockId} {type : BlockType} (h : w.typeAt? id = some type) :
    w.contains id = true := by
  obtain ⟨name, named, -⟩ := Option.bind_eq_some_iff.1 h
  rw [contains_eq_isSome_typeName?, named]
  rfl

theorem contains_of_arity? {seat : Seat} {arity : SlotArity} (h : w.arity? seat = some arity) :
    w.contains seat.owner = true := by
  obtain ⟨_, declared, -⟩ := Option.map_eq_some_iff.1 h
  obtain ⟨_, typed, -⟩ := Option.bind_eq_some_iff.1 declared
  exact contains_of_typeAt? typed

/-- Whether a kind of slot has something against a type. -/
theorem mismatch?_eq_none_iff {arity : SlotArity} {type : BlockType} :
    mismatch? arity type = none ↔ type.producesValue = (arity == .expression) := by
  unfold mismatch?
  cases arity <;> cases type.producesValue <;> decide

namespace SameBlocks

theorem typeAt? (h : SameBlocks w w') (id : BlockId) : w'.typeAt? id = w.typeAt? id := by
  rw [Workspace.typeAt?, Workspace.typeAt?, h.typeName?, h.palette]

theorem arity? (h : SameBlocks w w') (seat : Seat) : w'.arity? seat = w.arity? seat := by
  rw [Workspace.arity?, Workspace.arity?, h.typeAt?]

theorem fits_iff (h : SameBlocks w w') {id : BlockId} {seat : Seat} :
    w'.Fits id seat ↔ w.Fits id seat := by
  rw [Fits, Fits, h.arity?, h.typeAt?]

end SameBlocks

/-- Types, fields, slots and seats go together. -/
structure Typed (w : Workspace) : Prop where
  known : ∀ id, w.contains id = true → ∃ type, w.typeAt? id = some type
  declared : ∀ seat content, w.content? seat = some content → w.arity? seat = some content.arity
  fitting : ∀ id seat, w.seat? id = some seat → w.Fits id seat
  keyed : ∀ id type fields, w.typeAt? id = some type → w.fields? id = some fields →
    ∀ name, name ∈ fields ↔ (type.field? name).isSome

/-- What is in a slot of the same kind is of the same kind. -/
theorem Typed.arity_eq (h : Typed w) (h' : Typed w') {seat : Seat}
    (same : w'.arity? seat = w.arity? seat) {content content' : SlotContent}
    (held : w.content? seat = some content) (held' : w'.content? seat = some content') :
    content'.arity = content.arity := by
  have arity := h'.declared seat content' held'
  rw [same, h.declared seat content held] at arity
  exact (Option.some.inj arity).symm

/-- All this is told by the palette and the blocks alone. -/
theorem Typed.congr (h : Typed w) (palette : w'.palette = w.palette)
    (blocks : w'.blocks = w.blocks) : Typed w' := by
  obtain ⟨palette, blocks, _, _, _⟩ := w
  obtain ⟨_, _, _, _, _⟩ := w'
  cases palette
  cases blocks
  exact ⟨h.known, h.declared, h.fitting, h.keyed⟩

/-- A move keeps blocks and slots together if what it puts somewhere fits there. -/
theorem Typed.of_move (h : Typed w) (blocks : SameBlocks w w')
    (contents : ∀ seat content', w'.content? seat = some content' →
      (∃ content, w.content? seat = some content ∧ content.arity = content'.arity) ∨
        w.arity? seat = some content'.arity)
    (seats : ∀ id seat, w'.seat? id = some seat → w.seat? id = some seat ∨ w.Fits id seat) :
    Typed w' := by
  refine ⟨fun id alive => ?_, fun seat content' held => ?_, fun id seat sits => ?_,
    fun id type fields typed given => ?_⟩
  · rw [blocks.contains] at alive
    rw [blocks.typeAt?]
    exact h.known id alive
  · rw [blocks.arity?]
    rcases contents seat content' held with ⟨content, held, same⟩ | fits
    · rw [h.declared seat content held, same]
    · exact fits
  · rw [blocks.fits_iff]
    rcases seats id seat sits with sits | fits
    · exact h.fitting id seat sits
    · exact fits
  · rw [blocks.typeAt?] at typed
    rw [blocks.fields?] at given
    exact h.keyed id type fields typed given

end Workspace

end SolanaBlocks
