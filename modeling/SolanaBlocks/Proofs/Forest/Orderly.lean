import SolanaBlocks.Proofs.Forest.Creation
import SolanaBlocks.Proofs.Forest.Moves
import SolanaBlocks.Proofs.Forest.Outcomes
import SolanaBlocks.Proofs.Forest.Removal
import SolanaBlocks.Proofs.Forest.Splice

/-!
# Edits keep order

A workspace is orderly when its blocks go together with their types and slots and it has a layout in
which nothing floats. Every edit leads from an orderly workspace to an orderly one, refused or not,
with one exception: a new successor that leads back into its own chain or to a block above it is
linked as it stands.
-/

namespace SolanaBlocks

namespace Workspace

variable {palette : Palette} {w w' : Workspace}

/-- Everything is in its place and fits there, by the declarations of a palette. -/
structure Orderly (palette : Palette) (w : Workspace) : Prop where
  palette : w.palette = palette
  typed : Typed w
  laid : ∃ members, Laid w members []

namespace Orderly

/-- Order is told by the palette, the blocks and the top level. -/
theorem congr (h : Orderly palette w) (same : w'.palette = w.palette) (blocks : w'.blocks = w.blocks)
    (roots : w'.roots = w.roots) : Orderly palette w' := by
  obtain ⟨members, laid⟩ := h.laid
  exact ⟨same.trans h.palette, h.typed.congr same blocks, members, laid.congr blocks roots⟩

theorem bump (h : Orderly palette w) : Orderly palette w.bump := h.congr rfl rfl rfl

theorem empty (palette : Palette) : Orderly palette { palette := palette } := by
  have absent (id : BlockId) : ({ palette := palette } : Workspace).get? id = none := by
    simp [get?]
  have none (id : BlockId) : ({ palette := palette } : Workspace).contains id = false := by
    simp [contains]
  refine ⟨rfl, ⟨?_, ?_, ?_, ?_⟩, fun _ => [], ?_⟩
  · simp [none]
  · simp [content?, slot?, absent]
  · simp [seat?, absent]
  · simp [fields?, absent]
  · refine ⟨List.nodup_nil, ?_, ?_, ?_, fun _ => List.nodup_nil, fun _ => Linked.nil, ?_, fun _ => ?_,
      ?_⟩
    · simp [none]
    · simp
    · simp [seat?, absent]
    · simp [next?, absent]
    · simp [content?, slot?, absent, Holds.empty]
    · simp [none]

theorem createAs (h : Orderly palette w) {id : BlockId} {type : String} {given : List (String × FieldValue)}
    (ok : w.createAs id type given = .ok w') : Orderly palette w' := by
  obtain ⟨new, declaration, fields, known, set, rfl⟩ := createAs_eq_ok_iff.1 ok
  have created := created_insert new type fields
  obtain ⟨members, laid⟩ := h.laid
  exact ⟨h.palette, created.typed h.typed known fun _ => mem_setFields set, members,
    created.laid laid⟩

theorem setField (h : Orderly palette w) {id : BlockId} {name : String} {value : FieldValue}
    (ok : w.setField id name value = .ok w') : Orderly palette w' := by
  obtain ⟨type, typed, declared, rfl⟩ := setField_eq_ok_iff.1 ok
  obtain ⟨members, laid⟩ := h.laid
  exact bump ⟨h.palette, typed_setField h.typed typed declared value, members,
    laid_setField laid id name value⟩

theorem bind (h : Orderly palette w) {owner : BlockId} {slot : String} {input : SlotInput}
    (ok : w.bind owner slot input = .ok w') : Orderly palette w' := by
  obtain ⟨able, rfl⟩ := bind_eq_ok_iff.1 ok
  obtain ⟨members, laid⟩ := h.laid
  have bound := able.bound laid h.typed
  exact ⟨bound.blocks.palette.trans h.palette, bound.typed, _, bound.laid⟩

theorem unbind (h : Orderly palette w) {owner : BlockId} {slot : String} {ids : List BlockId}
    (ok : w.unbind owner slot = .ok (w', ids)) : Orderly palette w' := by
  obtain ⟨-, rfl, -⟩ := unbind_eq_ok_iff.1 ok
  obtain ⟨members, laid⟩ := h.laid
  obtain ⟨emptied, -⟩ := released laid ⟨owner, slot⟩
  exact bump ⟨emptied.blocks.palette.trans h.palette, emptied.typed h.typed, _, emptied.laid⟩

theorem remove (h : Orderly palette w) {id : BlockId} {ids : List BlockId}
    (ok : w.remove id = .ok (w', ids)) : Orderly palette w' := by
  obtain ⟨alive, -⟩ := remove_eq_ok_iff.1 ok
  obtain ⟨members, laid⟩ := h.laid
  have detached := laid_detach laid alive List.not_mem_nil
  have typed := typed_detach laid h.typed id
  obtain ⟨-, removed⟩ := removed_remove laid ok
  have same := removed.without.palette.trans (sameBlocks_detach w id).palette
  exact ⟨same.trans h.palette, removed.typed detached typed, _, removed.laid detached⟩

theorem moveRoot (h : Orderly palette w) {id : BlockId} {index : Nat}
    (ok : w.moveRoot id index = .ok w') : Orderly palette w' := by
  obtain ⟨root, rfl⟩ := moveRoot_eq_ok_iff.1 ok
  obtain ⟨members, laid⟩ := h.laid
  refine bump ⟨h.palette, h.typed.congr (by rfl) (by rfl), members, ?_⟩
  exact laid.of_tables (fun _ => by rfl) (by rfl) (by rfl) (by rfl) (perm_moved w root index)

theorem setNext (h : Orderly palette w) {id : BlockId} {next : Option BlockId}
    (ok : w.setNext id next = .ok w')
    (straight : ∀ seat target, next = some target → w.seat? id = some seat →
      w.linksBack seat id target = false) : Orderly palette w' := by
  obtain ⟨members, laid⟩ := h.laid
  obtain ⟨seat, sits, chain, change⟩ := setNext_cases ok
  obtain ⟨before, after, split⟩ := List.append_of_mem ((laid.mem_members seat id).2 sits)
  have held := laid.content?_of_chain h.typed chain ((laid.mem_members seat id).2 sits)
  cases next with
  | none =>
      rw [show w' = Workspace.bump (w.cutAfter seat id) from change]
      have cut := shortened_cutAfter laid held split
      exact bump ⟨cut.blocks.palette.trans h.palette, cut.typed h.typed, _, cut.laid⟩
  | some target =>
      obtain ⟨⟨type, typed, statement⟩, change⟩ := change
      have low := straight seat target rfl sits
      rw [low] at change
      rw [change]
      obtain ⟨low, ahead⟩ := (linksBack_eq_false_iff (chainPrefix_eq laid held split)).1 low
      have spliced := inserted_spliceAfter laid h.typed chain split (contains_of_typeAt? typed)
        ⟨.chain, type, chain, typed, statement⟩ low ahead
      exact bump ⟨spliced.blocks.palette.trans h.palette, spliced.typed, _, spliced.laid⟩

end Orderly

/-- An edit that links a block back: to itself, to an earlier member of its chain, or to a block
above it. -/
def TakesBackLink (w : Workspace) : Edit → Prop
  | .setNext id (some target) =>
    (∃ seat, w.seat? id = some seat ∧ w.linksBack seat id target = true) ∧
      ∃ w', w.setNext id (some target) = .ok w'
  | _ => False

/-- Edits keep order, whether they are carried out or refused, unless they link a block back. -/
theorem Orderly.apply (h : Orderly palette w) (edit : Edit) (straight : ¬ TakesBackLink w edit) :
    Orderly palette (w.apply edit).1 := by
  have step := outcome_apply w edit
  generalize (w.apply edit).1 = w' at step ⊢
  cases step with
  | refused => exact h
  | drawn => exact h.congr rfl rfl rfl
  | numbered ok =>
      have drawn : Orderly palette w.drawNumber.2 := h.congr rfl rfl rfl
      exact drawn.createAs ok
  | created ok => exact h.createAs ok
  | fieldSet ok => exact h.setField ok
  | bound ok => exact h.bind ok
  | unbound ok => exact h.unbind ok
  | @linked id next _ ok =>
      refine h.setNext ok fun seat target same sits => ?_
      subst same
      by_contra back
      exact straight ⟨⟨seat, sits, by simpa using back⟩, _, ok⟩
  | removed ok => exact h.remove ok
  | rootMoved ok => exact h.moveRoot ok

end Workspace

end SolanaBlocks
