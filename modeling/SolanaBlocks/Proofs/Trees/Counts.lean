import SolanaBlocks.BlockTree.Export
import SolanaBlocks.Emission.Document
import SolanaBlocks.Proofs.Emission.Steps

/-!
# What the counts are not for

The number of changes and the number drawn for the last id are read by edits alone. Neither the
export of a workspace nor its code depends on them, as long as renderers of one's own leave them
alone; the standard ones do.
-/

namespace SolanaBlocks

/-- The same blocks with other counts. -/
def Workspace.recount (w : Workspace) (counter revision : Nat) : Workspace :=
  { w with counter := counter, revision := revision }

/-- The same site in a workspace with other counts. -/
def Site.recount (site : Site) (counter revision : Nat) : Site :=
  { site with workspace := site.workspace.recount counter revision }

section Export

variable (w : Workspace) (counter revision : Nat)

-- walks and exports look blocks up and nothing else, so both sides unfold to the same recursion
theorem exportFrom_recount : (w.recount counter revision).exportFrom = w.exportFrom := by
  with_unfolding_all rfl

theorem exportAll_recount (before ids : List BlockId) :
    (w.recount counter revision).exportAll before ids = w.exportAll before ids := by
  induction ids generalizing before with
  | nil => rfl
  | cons id ids ih =>
      rw [Workspace.exportAll, Workspace.exportAll, exportFrom_recount]
      simp only [ih]

theorem toTrees_recount : (w.recount counter revision).toTrees = w.toTrees :=
  congrArg Export.value (exportAll_recount w counter revision [] w.roots)

end Export

/-- A renderer that reads blocks but not counts. -/
def Renderer.IgnoresCounts (renderer : Renderer) : Prop :=
  ∀ (site : Site) (counter revision : Nat),
    renderer (site.recount counter revision) = renderer site

/-- An emitter all of whose renderers leave the counts alone. -/
def Emitter.IgnoresCounts (e : Emitter) : Prop :=
  ∀ type renderer, e.renderer? type = some renderer → renderer.IgnoresCounts

theorem ignoresCounts_structField : Renderer.IgnoresCounts Renderers.structField := by
  intro site counter revision
  have owner : (site.recount counter revision).owner? =
      site.owner?.map (Site.recount · counter revision) := by
    change (site.workspace.owner? site.id).bind (fun owner => (site.workspace.get? owner).map _) =
      Option.map _ ((site.workspace.owner? site.id).bind fun owner =>
        (site.workspace.get? owner).map _)
    cases site.workspace.owner? site.id with
    | none => rfl
    | some owner =>
        simp only [Option.bind_some]
        cases site.workspace.get? owner <;> rfl
  unfold Renderers.structField
  rw [owner]
  cases site.owner? <;> rfl

theorem ignoresCounts_standard {type : String} {renderer : Renderer}
    (standard : Renderers.standard? type = some renderer) : renderer.IgnoresCounts := by
  by_cases field : type = "struct_field"
  · subst field
    cases standard
    exact ignoresCounts_structField
  · intro site counter revision
    unfold Renderers.standard? at standard
    split at standard <;> cases standard
    case h_3 => exact absurd rfl field
    all_goals with_unfolding_all rfl

theorem Emitter.ignoresCounts_of_standard (palette : Palette) (width : Nat) :
    Emitter.IgnoresCounts { palette := palette, indentWidth := width } :=
  fun _ _ => ignoresCounts_standard

namespace Emitter

variable {e : Emitter} (w : Workspace) (counter revision : Nat)

theorem emitWithin_recount (blind : e.IgnoresCounts) (open_ : List BlockId) (id : BlockId) :
    e.emitWithin (w.recount counter revision) open_ id = e.emitWithin w open_ id := by
  induction open_ using w.unseen_induction generalizing id with
  | step open_ ih =>
      have same : (w.recount counter revision).get? id = w.get? id := rfl
      rw [emitWithin_eq, emitWithin_eq, same]
      cases found : w.get? id with
      | none => rfl
      | some block =>
          dsimp only
          by_cases opened : id ∈ open_
          · rw [if_pos opened, if_pos opened]
          rw [if_neg opened, if_neg opened]
          cases e.palette.get? block.type with
          | none => rfl
          | some type =>
              cases rendered : e.renderer? block.type with
              | none => rfl
              | some renderer =>
                  have inner : (e.emitWithin (w.recount counter revision) (id :: open_)) =
                      e.emitWithin w (id :: open_) :=
                    funext (ih found opened)
                  have placed : isPlaced (w.recount counter revision) id type.placement =
                      isPlaced w id type.placement := by
                    with_unfolding_all rfl
                  have site := blind block.type renderer rendered ⟨w, e.palette, e.unit, id, block⟩
                    counter revision
                  dsimp only
                  rw [placed, inner]
                  exact congrArg (fun r : Rendering Fragment =>
                    if isPlaced w id type.placement then
                      (r.run (e.emitWithin w (id :: open_))).map (settleTier type)
                    else .error (.misplaced id block.type (.against type.placement))) site

theorem emitDocument_recount (blind : e.IgnoresCounts) :
    e.emitDocument (w.recount counter revision) = e.emitDocument w := by
  unfold emitDocument
  congr 2
  funext id
  unfold emitRoot emit
  rw [emitWithin_recount w counter revision blind]

end Emitter

end SolanaBlocks
