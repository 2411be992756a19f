import Mathlib.Data.List.Nodup
import SolanaBlocks.Session.Display

/-!
# The display over whole runs

Apart from its banner a display shows a page: code, where it comes from, and the revision it belongs
to. A success that still counts brings a page of its own; nothing else touches the page on show.

Pages are ordered by revision and, at one revision, refined code comes after generated code. A
success still counts exactly if the page on show yields to its own in this order, so what is on show
in the end is the greatest page of all successes, in whatever order they came in.
-/

namespace SolanaBlocks

namespace Display

/-- What happens to a display: the outcome of generating or of refining a revision comes in, or the
banner is dismissed. -/
inductive Step where
  | generation (revision : Nat) (outcome : Except EmitError String)
  | refinement (revision : Nat) (outcome : Except RefinementError String)
  | dismissal

/-- What a display shows beside its banner. -/
structure Page where
  code : String
  source : Source
  revision : Nat
deriving DecidableEq, Repr

/-- The page on show. -/
def page (d : Display) : Page where
  code := d.code
  source := d.source
  revision := d.revision

/-- The display after a step. -/
def take (d : Display) : Step → Display
  | .generation revision outcome => d.applyGeneration revision outcome
  | .refinement revision outcome => d.applyRefinement revision outcome
  | .dismissal => d.dismiss

/-- Whether the outcome that comes in with a step still counts. -/
def accepts (d : Display) : Step → Bool
  | .generation revision _ => d.takesGeneration revision
  | .refinement revision _ => d.takesRefinement revision
  | .dismissal => false

/-- A new display after some steps. -/
def run (steps : List Step) : Display :=
  steps.foldl take {}

/-- The page that a success brings. Failures and dismissals bring none. -/
def Step.page? : Step → Option Page
  | .generation revision (.ok code) => some ⟨code, .generated, revision⟩
  | .refinement revision (.ok code) => some ⟨code, .refined, revision⟩
  | _ => none

/-- The pages that the successes among some steps bring. -/
def pages (steps : List Step) : List Page :=
  steps.filterMap Step.page?

/-! ## The order of pages -/

/-- A page yields to those of later revisions, and of its own revision to all if it is generated and
to refined ones if it is refined. -/
def Page.YieldsTo (p q : Page) : Prop :=
  p.revision < q.revision ∨
    p.revision = q.revision ∧ (p.source = .refined → q.source = .refined)

namespace Page.YieldsTo

variable {p q r : Page}

theorem refl (p : Page) : p.YieldsTo p := .inr ⟨rfl, id⟩

theorem trans (h : p.YieldsTo q) (h' : q.YieldsTo r) : p.YieldsTo r := by
  rcases h with later | ⟨same, refined⟩ <;> rcases h' with later' | ⟨same', refined'⟩
  · exact .inl (Nat.lt_trans later later')
  · exact .inl (same' ▸ later)
  · exact .inl (same ▸ later')
  · exact .inr ⟨same.trans same', refined' ∘ refined⟩

theorem of_not (h : ¬ p.YieldsTo q) : q.YieldsTo p := by
  unfold YieldsTo at h ⊢
  rw [not_or, not_and, Classical.not_imp] at h
  rcases Nat.lt_or_eq_of_le (Nat.le_of_not_lt h.1) with later | same
  · exact .inl later
  · exact .inr ⟨same, fun _ => (h.2 same.symm).1⟩

theorem revision_le (h : p.YieldsTo q) : p.revision ≤ q.revision := by
  rcases h with later | ⟨same, -⟩
  · exact Nat.le_of_lt later
  · exact Nat.le_of_eq same

/-- Pages that yield to each other stand at one place of the order. -/
theorem antisymm (h : p.YieldsTo q) (h' : q.YieldsTo p) :
    p.revision = q.revision ∧ p.source = q.source := by
  have same := Nat.le_antisymm h.revision_le h'.revision_le
  have refined : p.source = .refined ↔ q.source = .refined := by
    rcases h with later | ⟨-, forth⟩ <;> rcases h' with later' | ⟨-, back⟩
    · omega
    · omega
    · omega
    · exact ⟨forth, back⟩
  refine ⟨same, ?_⟩
  cases hp : p.source <;> cases hq : q.source <;> simp_all

end Page.YieldsTo

/-! ## Steps -/

variable {d : Display} {steps steps' : List Step}

/-- Every page is at least as late as the one that a new display shows. -/
theorem page_new_yieldsTo (p : Page) : (page {}).YieldsTo p := by
  rcases Nat.eq_zero_or_pos p.revision with first | later
  · exact .inr ⟨first.symm, by simp [page]⟩
  · exact .inl later

/-- A success still counts if the page on show yields to its own. -/
theorem accepts_iff {step : Step} {p : Page} (brings : step.page? = some p) :
    d.accepts step = true ↔ d.page.YieldsTo p := by
  match step, brings with
  | .generation revision (.ok code), rfl =>
      cases from_ : d.source <;>
        simp [accepts, takesGeneration, Page.YieldsTo, page, from_, Nat.le_iff_lt_or_eq]
  | .refinement revision (.ok code), rfl =>
      simp [accepts, takesRefinement, Page.YieldsTo, page, Nat.le_iff_lt_or_eq]

/-- The page of a success that still counts comes on show. -/
theorem page_take_of_accepts {step : Step} {p : Page} (brings : step.page? = some p)
    (accepted : d.accepts step = true) : (d.take step).page = p := by
  match step, brings with
  | .generation revision (.ok code), rfl => exact congrArg page (if_pos accepted)
  | .refinement revision (.ok code), rfl => exact congrArg page (if_pos accepted)

/-- An outcome that comes too late changes nothing. -/
theorem page_take_of_not_accepts {step : Step} (late : d.accepts step = false) :
    (d.take step).page = d.page := by
  match step, late with
  | .generation revision outcome, late => exact congrArg page (if_neg (by simpa [accepts] using late))
  | .refinement revision outcome, late => exact congrArg page (if_neg (by simpa [accepts] using late))
  | .dismissal, _ => rfl

/-- Whatever brings no page leaves the one on show. -/
theorem page_take_of_page?_eq_none {step : Step} (nothing : step.page? = none) :
    (d.take step).page = d.page := by
  cases counts : d.accepts step with
  | false => exact page_take_of_not_accepts counts
  | true =>
      match step, nothing with
      | .generation revision (.error error), _ => exact (congrArg page (if_pos counts)).trans rfl
      | .refinement revision (.error error), _ => exact (congrArg page (if_pos counts)).trans rfl
      | .dismissal, _ => rfl

/-- The page on show stays, or yields to that of a success that still counts. -/
theorem page_take_cases (d : Display) (step : Step) :
    (d.take step).page = d.page ∨
      d.accepts step = true ∧ step.page? = some (d.take step).page ∧
        d.page.YieldsTo (d.take step).page := by
  cases brings : step.page? with
  | none => exact .inl (page_take_of_page?_eq_none brings)
  | some p =>
      cases counts : d.accepts step with
      | false => exact .inl (page_take_of_not_accepts counts)
      | true =>
          have shown := page_take_of_accepts brings counts
          exact .inr ⟨rfl, by rw [shown], shown ▸ (accepts_iff brings).1 counts⟩

theorem page_yieldsTo_take (d : Display) (step : Step) : d.page.YieldsTo (d.take step).page := by
  rcases page_take_cases d step with same | ⟨-, -, yields⟩
  · rw [same]
    exact .refl _
  · exact yields

/-! ## Runs -/

theorem pages_cons (step : Step) (steps : List Step) :
    pages (step :: steps) = step.page?.toList ++ pages steps := by
  unfold pages
  rw [List.filterMap_cons]
  cases step.page? <;> rfl

/-- The page on show never yields to an earlier one. -/
theorem page_yieldsTo_foldl (d : Display) (steps : List Step) :
    d.page.YieldsTo (steps.foldl take d).page := by
  induction steps generalizing d with
  | nil => exact .refl _
  | cons step steps ih => exact (page_yieldsTo_take d step).trans (ih (d.take step))

/-- No success brings a page later than the one on show in the end. -/
theorem yieldsTo_foldl_of_mem (d : Display) {p : Page} (brought : p ∈ pages steps) :
    p.YieldsTo (steps.foldl take d).page := by
  induction steps generalizing d with
  | nil => cases brought
  | cons step steps ih =>
      rw [pages_cons, List.mem_append, Option.mem_toList] at brought
      rcases brought with here | later
      · refine Page.YieldsTo.trans ?_ (page_yieldsTo_foldl (d.take step) steps)
        cases counts : d.accepts step with
        | true =>
            rw [page_take_of_accepts here counts]
            exact .refl p
        | false =>
            rw [page_take_of_not_accepts counts]
            refine .of_not fun yields => ?_
            rw [(accepts_iff here).2 yields] at counts
            cases counts
      · exact ih (d.take step) later

/-- The page on show in the end has been there from the start, or a success has brought it. -/
theorem page_foldl_cases (d : Display) (steps : List Step) :
    (steps.foldl take d).page = d.page ∨ (steps.foldl take d).page ∈ pages steps := by
  induction steps generalizing d with
  | nil => exact .inl rfl
  | cons step steps ih =>
      rw [List.foldl_cons, pages_cons, List.mem_append, Option.mem_toList]
      rcases ih (d.take step) with kept | brought
      · rw [kept]
        exact (page_take_cases d step).imp_right fun shown => .inl shown.2.1
      · exact .inr (.inr brought)

/-- As soon as there is a success, one of them has brought the page on show. -/
theorem page_foldl_mem (d : Display) (first : ∀ p, d.page.YieldsTo p) (success : pages steps ≠ []) :
    (steps.foldl take d).page ∈ pages steps := by
  induction steps generalizing d with
  | nil => exact absurd rfl success
  | cons step steps ih =>
      rw [List.foldl_cons]
      cases brings : step.page? with
      | none =>
          have kept : (d.take step).page = d.page := page_take_of_page?_eq_none brings
          have rest : pages (step :: steps) = pages steps := by rw [pages_cons, brings]; rfl
          rw [rest] at success ⊢
          exact ih (d.take step) (kept ▸ first) success
      | some p =>
          have shown := page_take_of_accepts brings ((accepts_iff brings).2 (first p))
          rw [pages_cons, brings]
          rcases page_foldl_cases (d.take step) steps with kept | brought
          · exact List.mem_append_left _ (by simp [kept, shown])
          · exact List.mem_append_right _ brought

/-- Successes that can be told apart by the place of their pages in the order: generations of one
revision bring the same code, and refinements are of different revisions. -/
structure Distinct (steps : List Step) : Prop where
  generations : ∀ p ∈ pages steps, ∀ q ∈ pages steps, p.source = .generated →
    q.source = .generated → p.revision = q.revision → p.code = q.code
  refinements : (((pages steps).filter (·.source = .refined)).map Page.revision).Nodup

/-- Of pages brought at one place of the order there is only one. -/
theorem Distinct.eq_of_place (distinct : Distinct steps) {p q : Page} (hp : p ∈ pages steps)
    (hq : q ∈ pages steps) (place : p.revision = q.revision ∧ p.source = q.source) : p = q := by
  obtain ⟨revision, source⟩ := place
  cases origin : p.source with
  | generated =>
      have code := distinct.generations p hp q hq origin (source ▸ origin) revision
      cases p
      cases q
      simp_all
  | refined =>
      refine List.inj_on_of_nodup_map distinct.refinements ?_ ?_ revision
      · simpa [origin] using hp
      · simpa [← source, origin] using hq

/-- What a display shows in the end is told by the successes alone, whatever else comes in and in
whatever order. -/
theorem page_run_eq (distinct : Distinct steps) (same : ∀ p, p ∈ pages steps ↔ p ∈ pages steps') :
    (run steps').page = (run steps).page := by
  by_cases success : pages steps = []
  · have none : pages steps' = [] := by
      rw [List.eq_nil_iff_forall_not_mem]
      intro p hp
      rw [← same, success] at hp
      cases hp
    have still {steps : List Step} (nothing : pages steps = []) : (run steps).page = page {} := by
      refine (page_foldl_cases {} steps).resolve_right fun brought => ?_
      rw [nothing] at brought
      cases brought
    rw [still success, still none]
  · have success' : pages steps' ≠ [] := by
      obtain ⟨p, hp⟩ := List.exists_mem_of_ne_nil _ success
      exact List.ne_nil_of_mem ((same p).1 hp)
    have shown := page_foldl_mem {} page_new_yieldsTo success
    have shown' := (same _).2 (page_foldl_mem {} page_new_yieldsTo success')
    refine distinct.eq_of_place shown' shown (Page.YieldsTo.antisymm ?_ ?_)
    · exact yieldsTo_foldl_of_mem {} shown'
    · exact yieldsTo_foldl_of_mem {} ((same _).1 shown)

/-- Refined code is never replaced by what was generated for its own revision or an earlier one. -/
theorem not_accepts_generation {code : String} {revision earlier : Nat}
    (shown : (Page.mk code .refined revision).YieldsTo d.page) (early : earlier ≤ revision)
    (outcome : Except EmitError String) : d.accepts (.generation earlier outcome) = false := by
  refine Bool.eq_false_iff.2 fun accepted => ?_
  have success : (Step.generation earlier (.ok "")).page? = some ⟨"", .generated, earlier⟩ := rfl
  have yields : d.page.YieldsTo ⟨"", .generated, earlier⟩ := (accepts_iff success).1 accepted
  rcases shown.trans yields with later | ⟨-, refined⟩
  · exact Nat.not_le_of_lt later early
  · cases refined rfl

theorem run_append (steps steps' : List Step) : run (steps ++ steps') = steps'.foldl take (run steps) :=
  List.foldl_append

/-- No step takes the display back to an earlier revision. A step leaves code, source and revision
alone, or it is a success that still counts and puts its own on show; failures and dismissals leave
them alone. Once refined code has come on show, nothing generated for its revision or an earlier one
counts any more. In the end the greatest page of all successes is on show, in whatever order the
steps came. -/
theorem page_run_greatest :
    (∀ steps step, (run steps).revision ≤ (run (steps ++ [step])).revision ∧
      ((run (steps ++ [step])).page = (run steps).page ∨
        (run steps).accepts step = true ∧ step.page? = some (run (steps ++ [step])).page) ∧
      (step.page? = none → (run (steps ++ [step])).page = (run steps).page)) ∧
    (∀ steps later revision code, (run steps).accepts (.refinement revision (.ok code)) = true →
      ∀ earlier ≤ revision, ∀ outcome,
        (run (steps ++ .refinement revision (.ok code) :: later)).accepts
          (.generation earlier outcome) = false) ∧
    ∀ steps, Distinct steps →
      (∀ steps', steps.Perm steps' → (run steps').page = (run steps).page) ∧
      (pages steps = [] → (run steps).page = page {}) ∧
      (pages steps ≠ [] → (run steps).page ∈ pages steps ∧
        ∀ p ∈ pages steps, p.YieldsTo (run steps).page) := by
  refine ⟨fun steps step => ?_, fun steps later revision code accepted earlier early outcome => ?_,
    fun steps distinct => ⟨fun steps' order => ?_, fun nothing => ?_, fun success => ?_⟩⟩
  · rw [run_append]
    refine ⟨(page_yieldsTo_take _ step).revision_le, ?_, page_take_of_page?_eq_none⟩
    exact (page_take_cases _ step).imp_right fun shown => ⟨shown.1, shown.2.1⟩
  · have shown : (Page.mk code .refined revision).YieldsTo
        (run (steps ++ .refinement revision (.ok code) :: later)).page := by
      rw [run_append, List.foldl_cons, ← page_take_of_accepts rfl accepted]
      exact page_yieldsTo_foldl _ later
    exact not_accepts_generation shown early outcome
  · exact page_run_eq distinct fun p => (order.filterMap _).mem_iff
  · refine (page_foldl_cases {} steps).resolve_right fun brought => ?_
    rw [nothing] at brought
    cases brought
  · exact ⟨page_foldl_mem {} page_new_yieldsTo success, fun p => yieldsTo_foldl_of_mem {}⟩

/-- A refinement beats the generation of its revision, a later generation that fails only puts up a
banner, and one that comes in late does not count. -/
theorem page_run_greatest_refined :
    let before : List Step := [.generation 3 (.ok "generated")]
    let after : List Step := [
      .generation 5 (.error (.missingSlot ⟨"a"⟩ "body")),
      .dismissal,
      .refinement 4 (.error .emptyResponse),
      .generation 2 (.ok "old")]
    let steps := before ++ .refinement 3 (.ok "refined") :: after
    (run before).accepts (.refinement 3 (.ok "refined")) = true ∧ Distinct steps ∧
      (run steps).accepts (.generation 3 (.ok "again")) = false ∧
      pages steps ≠ [] ∧ (run steps).page = ⟨"refined", .refined, 3⟩ ∧
      (∀ p ∈ pages steps, p.YieldsTo (run steps).page) ∧
      (run steps.reverse).page = (run steps).page := by
  intro before after steps
  have accepted : (run before).accepts (.refinement 3 (.ok "refined")) = true := by decide
  have distinct : Distinct steps := ⟨by decide, by decide⟩
  have success : pages steps ≠ [] := by decide
  obtain ⟨order, -, greatest⟩ := page_run_greatest.2.2 steps distinct
  exact ⟨accepted, distinct,
    page_run_greatest.2.1 before after 3 "refined" accepted 3 (Nat.le_refl 3) (.ok "again"), success,
    by decide, (greatest success).2, order _ (List.reverse_perm steps).symm⟩

end Display

end SolanaBlocks
