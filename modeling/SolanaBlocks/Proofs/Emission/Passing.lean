import SolanaBlocks.Proofs.Emission.Nesting

/-!
# Errors that are passed on

A renderer that asks for another block may hear of an error. All standard renderers then fail with
that error. For renderers of this kind the blocks that are being rendered around a block matter in one
way only: the outcome is the one that the block has by itself, or one of these blocks has been asked
for again and the error says which.
-/

namespace SolanaBlocks

namespace Rendering

variable {α β : Type}

/-- If the rendering hears of an error, it fails with this error, whatever else it asks for. -/
def PassesErrors : Rendering α → Prop
  | done _ => True
  | request _ resume =>
    (∀ failure answer, (resume (.error failure)).run answer = .error failure) ∧
      ∀ fragment, (resume (.ok fragment)).PassesErrors

/-- Other answers make no other outcome, apart from some errors. -/
theorem PassesErrors.run_eq_or {r : Rendering α} (passes : r.PassesErrors)
    {answer answer' : BlockId → Except EmitError Fragment} {Turned : EmitError → Prop}
    (same : ∀ id, answer id = answer' id ∨ ∃ failure, Turned failure ∧ answer id = .error failure) :
    r.run answer = r.run answer' ∨
      ∃ failure, Turned failure ∧ r.run answer = .error failure := by
  induction r with
  | done outcome => exact .inl rfl
  | request block resume ih =>
      rw [run_request, run_request]
      rcases same block with same | ⟨failure, turned, heard⟩
      · rw [same]
        cases answer' block with
        | error failure => exact .inl ((passes.1 failure _).trans (passes.1 failure _).symm)
        | ok fragment => exact ih _ (passes.2 fragment)
      · rw [heard]
        exact .inr ⟨failure, turned, passes.1 failure answer⟩

namespace PassesErrors

variable {r t : Rendering α} {f : α → Rendering β}

theorem pure (a : α) : (Pure.pure a : Rendering α).PassesErrors := trivial

theorem fail (failure : EmitError) : (Rendering.fail failure : Rendering α).PassesErrors := trivial

theorem fragment (block : BlockId) : (Rendering.fragment block).PassesErrors :=
  ⟨fun _ _ => rfl, fun _ => trivial⟩

theorem bind (first : r.PassesErrors) (next : ∀ a, (f a).PassesErrors) : (r >>= f).PassesErrors := by
  change (r.bind f).PassesErrors
  induction r with
  | done outcome =>
      cases outcome with
      | ok a => exact next a
      | error failure => trivial
  | request block resume ih =>
      refine ⟨fun failure answer => ?_, fun fragment => ih _ (first.2 fragment)⟩
      have ran := run_bind answer (resume (.error failure)) f
      rwa [first.1 failure answer] at ran

/-- What is read without asking makes no difference. -/
theorem read {outcome : Except EmitError α} (next : ∀ a, (f a).PassesErrors) :
    (ofExcept outcome >>= f).PassesErrors :=
  bind (r := ofExcept outcome) trivial next

theorem ite {c : Prop} [Decidable c] (then_ : r.PassesErrors) (else_ : t.PassesErrors) :
    (if c then r else t).PassesErrors := by
  split
  · exact then_
  · exact else_

end PassesErrors

end Rendering

/-! ## Slots -/

namespace Site

open Rendering (PassesErrors)

variable (site : Site)

theorem passesErrors_value? (slot : String) (tier : Tier) :
    (site.value? slot tier).PassesErrors := by
  refine .read fun declaration => ?_
  split
  · exact .ite (.fail _) (.pure none)
  · exact .fail _
  · exact .read fun _ => .ite (.bind (.fragment _) fun _ => .pure _) (.fail _)

theorem passesErrors_value (slot : String) (tier : Tier) : (site.value slot tier).PassesErrors := by
  refine .bind (site.passesErrors_value? slot tier) fun content => ?_
  split
  · exact .pure _
  · refine .read fun declaration => ?_
    split
    · exact .pure _
    · exact .fail _

theorem passesErrors_fragmentsFrom (slot : String) (seen : List BlockId) (id : BlockId) :
    (site.fragmentsFrom slot seen id).PassesErrors := by
  induction seen using site.workspace.unseen_induction generalizing id with
  | step seen ih =>
      rw [fragmentsFrom_eq]
      split
      · exact .fail _
      · next new =>
          split
          · exact .fail _
          · next member found =>
              refine .read fun type => .ite (.fail _) (.bind (.fragment id) fun fragment => ?_)
              split
              · exact .pure _
              · next next link =>
                  exact .bind (ih found new next) fun _ => .pure _

theorem passesErrors_fragments (slot : String) : (site.fragments slot).PassesErrors := by
  refine .read fun declaration => ?_
  split
  · exact .ite (.fail _) (.pure [])
  · exact .fail _
  · exact site.passesErrors_fragmentsFrom slot [] _

theorem passesErrors_flatStatements (slot : String) : (site.flatStatements slot).PassesErrors :=
  .bind (site.passesErrors_fragments slot) fun _ => .pure _

theorem passesErrors_statements (slot : String) : (site.statements slot).PassesErrors :=
  .bind (site.passesErrors_flatStatements slot) fun _ => .pure _

end Site

/-! ## Standard renderers -/

namespace Renderers

open Rendering (PassesErrors)
open Palette.Standard (conditionalArms conditionSlot bodySlot)

variable (site : Site)

theorem passesErrors_structField : (structField site).PassesErrors := by
  refine .read fun name => .read fun type => ?_
  split
  · exact .ite (.read fun _ => .ite (.pure _) (.pure _)) (.ite (.pure _) (.pure _))
  · exact .pure _

theorem passesErrors_enumVariant : (enumVariant site).PassesErrors := by
  refine .read fun name => .read fun shape => ?_
  split
  · exact .bind (site.passesErrors_fragments _) fun _ => .pure _
  · exact .bind (site.passesErrors_statements _) fun _ => .pure _
  · exact .pure _

theorem passesErrors_pdaSeed : (pdaSeed site).PassesErrors := by
  refine .read fun raw => ?_
  dsimp only
  split
  · exact .pure _
  · exact .fail _
  · exact .pure _

theorem passesErrors_binary (symbol : String) (tier : Tier) (associativity : Associativity) :
    (binary site symbol tier associativity).PassesErrors :=
  .bind (site.passesErrors_value _ _) fun _ => .bind (site.passesErrors_value _ _) fun _ => .pure _

theorem passesErrors_mathOperation : (mathOperation site).PassesErrors := by
  refine .read fun operation => ?_
  split <;> exact passesErrors_binary site _ _ _

theorem passesErrors_logicOperation : (logicOperation site).PassesErrors := by
  refine .read fun op => ?_
  split <;> exact passesErrors_binary site _ _ _

theorem passesErrors_conditionalArm (arm : Nat) : (conditionalArm site arm).PassesErrors := by
  unfold conditionalArm
  by_cases zero : arm = 0
  · simp only [if_pos zero]
    refine .bind (.bind (site.passesErrors_value _ _) fun _ => .pure _) fun condition => ?_
    cases condition with
    | none => exact .ite (.fail _) (.pure "")
    | some code => exact .bind (site.passesErrors_statements _) fun _ => .pure _
  · simp only [if_neg zero]
    refine .bind (site.passesErrors_value? _ _) fun condition => ?_
    cases condition with
    | none => exact .ite (.fail _) (.pure "")
    | some code => exact .bind (site.passesErrors_statements _) fun _ => .pure _

theorem passesErrors_conditionalArmsFrom (arms : List Nat) :
    (conditionalArmsFrom site arms).PassesErrors := by
  induction arms with
  | nil => exact .pure ""
  | cons arm rest ih =>
      exact .bind (passesErrors_conditionalArm site arm) fun _ => .bind ih fun _ => .pure _

theorem passesErrors_conditional : (conditional site).PassesErrors :=
  .bind (passesErrors_conditionalArmsFrom site _) fun _ =>
    .ite (.bind (site.passesErrors_statements _) fun _ => .pure _) (.pure _)

/-- All standard renderers pass errors on. -/
theorem passesErrors_standard {type : String} {renderer : Renderer}
    (rendered : standard? type = some renderer) : (renderer site).PassesErrors := by
  unfold standard? at rendered
  split at rendered <;> cases rendered
  · exact .read fun _ => .bind (site.passesErrors_flatStatements _) fun _ => .pure _
  · exact .read fun _ => .bind (site.passesErrors_statements _) fun _ => .pure _
  · exact passesErrors_structField site
  · exact .read fun _ => .bind (site.passesErrors_statements _) fun _ => .pure _
  · exact passesErrors_enumVariant site
  · exact .read fun _ => .bind (site.passesErrors_statements _) fun _ =>
      .bind (site.passesErrors_statements _) fun _ => .pure _
  · exact .read fun _ => .pure _
  · exact .bind (site.passesErrors_value _ _) fun _ => .pure _
  · exact .read fun _ => .ite (.fail _) (.read fun _ => .pure _)
  · exact .read fun _ => .read fun _ => .pure _
  · exact .read fun _ => .read fun _ => .pure _
  · exact .read fun _ => .read fun _ => .bind (site.passesErrors_value _ _) fun _ => .pure _
  · exact .read fun _ => .read fun _ => .pure _
  · exact .read fun _ => .bind (site.passesErrors_fragments _) fun _ => .pure _
  · exact passesErrors_pdaSeed site
  · exact .read fun _ => .bind (site.passesErrors_value _ _) fun _ =>
      .bind (site.passesErrors_fragments _) fun _ => .pure _
  · exact .read fun _ => .bind (site.passesErrors_fragments _) fun _ => .ite (.pure _) (.pure _)
  · exact .read fun _ => .bind (site.passesErrors_fragments _) fun _ =>
      .bind (site.passesErrors_value _ _) fun _ => .pure _
  · exact .read fun _ => .pure _
  · exact .read fun _ => .pure _
  · exact passesErrors_conditional site
  · exact .read fun _ => .bind (site.passesErrors_value _ _) fun _ =>
      .bind (site.passesErrors_value _ _) fun _ => .bind (site.passesErrors_value _ _) fun _ =>
        .bind (site.passesErrors_statements _) fun _ => .pure _
  · exact .bind (site.passesErrors_value _ _) fun _ =>
      .bind (site.passesErrors_statements _) fun _ => .pure _
  · exact passesErrors_mathOperation site
  · exact .read fun _ => .pure _
  · exact .read fun _ => passesErrors_binary site _ _ _
  · exact passesErrors_logicOperation site
  · exact .bind (site.passesErrors_value _ _) fun _ => .pure _
  · exact .read fun _ => .pure _
  · exact .read fun _ => .pure _
  · exact .read fun _ => .pure _

end Renderers

/-! ## Emission -/

namespace Emitter

/-- All renderers of the emitter pass errors on, wherever they work. -/
def PassesErrors (e : Emitter) : Prop :=
  ∀ type renderer, e.renderer? type = some renderer → ∀ site, (renderer site).PassesErrors

theorem passesErrors_of_standard (palette : Palette) (width : Nat) :
    PassesErrors { palette := palette, indentWidth := width } :=
  fun _ _ rendered site => Renderers.passesErrors_standard site rendered

/-- With more blocks that are being rendered around it, a block has the same outcome, or one of those
that have been added has been asked for. -/
theorem emitWithin_eq_or_cyclic {e : Emitter} (passes : e.PassesErrors) (w : Workspace)
    {less more : List BlockId} (sub : less ⊆ more) (id : BlockId) :
    e.emitWithin w more id = e.emitWithin w less id ∨
      ∃ met, (met ∈ more ∧ met ∉ less) ∧ e.emitWithin w more id = .error (.cyclic met) := by
  induction more using w.unseen_induction generalizing less id with
  | step more ih =>
      rw [emitWithin_eq, emitWithin_eq]
      cases found : w.get? id with
      | none => exact .inl rfl
      | some block =>
          dsimp only
          by_cases met : id ∈ more
          · by_cases before : id ∈ less
            · rw [if_pos met, if_pos before]
              exact .inl rfl
            · rw [if_pos met]
              exact .inr ⟨id, ⟨met, before⟩, rfl⟩
          rw [if_neg met, if_neg (mt (sub ·) met)]
          cases e.palette.get? block.type with
          | none => exact .inl rfl
          | some type =>
              cases rendered : e.renderer? block.type with
              | none => exact .inl rfl
              | some renderer =>
                  dsimp only
                  split
                  · have answers (child : BlockId) :
                        e.emitWithin w (id :: more) child = e.emitWithin w (id :: less) child ∨
                          ∃ failure, (∃ met, (met ∈ more ∧ met ∉ less) ∧ failure = .cyclic met) ∧
                            e.emitWithin w (id :: more) child = .error failure := by
                      obtain same | ⟨asked, ⟨added, new⟩, failed⟩ :=
                        ih found met (List.cons_subset_cons id sub) child
                      · exact .inl same
                      · have ⟨other, absent⟩ := not_or.1 (mt List.mem_cons.2 new)
                        have turned := (List.mem_cons.1 added).resolve_left other
                        exact .inr ⟨_, ⟨asked, ⟨turned, absent⟩, rfl⟩, failed⟩
                    obtain same | ⟨_, ⟨asked, turned, rfl⟩, failed⟩ :=
                      (passes _ _ rendered ⟨w, e.palette, e.unit, id, block⟩).run_eq_or answers
                    · exact .inl (congrArg _ same)
                    · exact .inr ⟨asked, turned, by rw [failed]; rfl⟩
                  · exact .inl rfl

end Emitter

end SolanaBlocks
