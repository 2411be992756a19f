import SolanaBlocks.Proofs.Session.Display

/-!
# Outcomes that come in late

A display counts outcomes by the revision of the code on show. A success brings code of its own
revision on show, so from then on everything older is shut out for good. A failure only puts up a
banner: the code on show stays, and with it the revision that later outcomes are measured by. So a
failure shuts out what is older than itself only if code of its own revision was on show already;
otherwise an older outcome that comes in after it may still take its banner away.
-/

namespace SolanaBlocks

namespace Display

/-- The revision of the outcome that comes in with a step. -/
def Step.revision? : Step → Option Nat
  | .generation revision _ | .refinement revision _ => some revision
  | .dismissal => none

/-- Outcomes of revisions below `revision` change nothing any more after some steps, whatever else
comes in before them. -/
def ShutsOut (steps : List Step) (revision : Nat) : Prop :=
  ∀ later late older, Step.revision? late = some older → older < revision →
    run (steps ++ later ++ [late]) = run (steps ++ later)

variable {d : Display} {steps : List Step} {step : Step} {revision : Nat}

theorem revision_le_of_accepts (outcome : step.revision? = some revision)
    (accepted : d.accepts step = true) : d.revision ≤ revision := by
  match step, outcome with
  | .generation _ _, rfl =>
      cases from_ : d.source with
      | generated => simpa [accepts, takesGeneration, from_] using accepted
      | refined =>
          have later : d.revision < revision := by
            simpa [accepts, takesGeneration, from_] using accepted
          exact Nat.le_of_lt later
  | .refinement _ _, rfl => simpa [accepts, takesRefinement] using accepted

theorem take_of_not_accepts (late : d.accepts step = false) (outcome : step.revision?.isSome) :
    d.take step = d := by
  match step, outcome with
  | .generation _ _, _ => exact if_neg (by simpa [accepts] using late)
  | .refinement _ _, _ => exact if_neg (by simpa [accepts] using late)

/-- What is older than the code on show changes nothing. -/
theorem take_of_revision_lt (outcome : step.revision? = some revision)
    (older : revision < d.revision) : d.take step = d := by
  refine take_of_not_accepts (Bool.eq_false_iff.2 fun accepted => ?_) (outcome ▸ rfl)
  exact Nat.not_le_of_lt older (revision_le_of_accepts outcome accepted)

/-- A failure that still counts puts up a banner. -/
theorem banner_take_of_failure (outcome : step.revision? = some revision)
    (failure : step.page? = none) (accepted : d.accepts step = true) :
    (d.take step).banner ≠ none := by
  match step, outcome, failure with
  | .generation r (.error error), _, _ =>
      have up : d.take (.generation r (.error error)) = d.showBanner (.generation error) :=
        if_pos accepted
      exact up ▸ Option.some_ne_none _
  | .refinement r (.error error), _, _ =>
      have up : d.take (.refinement r (.error error)) = d.showBanner (.refinement error) :=
        if_pos accepted
      exact up ▸ Option.some_ne_none _

/-- A refinement that is not older than the code on show takes the banner away. -/
theorem banner_take_refinement {code : String} (counts : d.revision ≤ revision) :
    (d.take (.refinement revision (.ok code))).banner = none := by
  have shown : d.take (.refinement revision (.ok code)) = showCode .refined revision code :=
    if_pos (decide_eq_true counts)
  rw [shown]
  rfl

theorem revision_le_run_append (steps later : List Step) :
    (run steps).revision ≤ (run (steps ++ later)).revision := by
  rw [run_append]
  exact (page_yieldsTo_foldl (run steps) later).revision_le

theorem run_concat (steps : List Step) (step : Step) :
    run (steps ++ [step]) = (run steps).take step :=
  run_append steps [step]

/-- Whatever is older than the code on show is shut out. -/
theorem ShutsOut.of_revision_le (shown : revision ≤ (run steps).revision) :
    ShutsOut steps revision := by
  intro later late older outcome early
  rw [run_concat]
  refine take_of_revision_lt outcome ?_
  calc older < revision := early
    _ ≤ (run steps).revision := shown
    _ ≤ (run (steps ++ later)).revision := revision_le_run_append steps later

/-- Under a banner nothing that is as new as the code on show is shut out. -/
theorem ShutsOut.revision_le (shut : ShutsOut steps revision)
    (banner : (run steps).banner ≠ none) : revision ≤ (run steps).revision := by
  by_contra newer
  -- a refinement of the code on show comes in, older than the banner
  have kept := shut [] (.refinement (run steps).revision (.ok "")) _ rfl (Nat.lt_of_not_le newer)
  rw [List.append_nil, run_concat] at kept
  exact banner (kept ▸ banner_take_refinement (Nat.le_refl _))

/-- A success that has been accepted shuts out everything older than itself. A failure that has been
accepted does so exactly if code of its own revision is on show. -/
theorem shutsOut_of_accepts (outcome : step.revision? = some revision)
    (accepted : (run steps).accepts step = true) :
    (step.page?.isSome = true → ShutsOut (steps ++ [step]) revision) ∧
      (step.page? = none →
        (ShutsOut (steps ++ [step]) revision ↔ (run steps).revision = revision)) := by
  refine ⟨fun success => ?_, fun failure => ?_⟩
  · obtain ⟨p, brings⟩ := Option.isSome_iff_exists.1 success
    have own : p.revision = revision := by
      match step, brings, outcome with
      | .generation _ (.ok _), rfl, rfl => rfl
      | .refinement _ (.ok _), rfl, rfl => rfl
    have shown : (run (steps ++ [step])).page = p := by
      rw [run_concat]
      exact page_take_of_accepts brings accepted
    exact .of_revision_le (Nat.le_of_eq (own ▸ congrArg Page.revision shown).symm)
  · have shown : (run (steps ++ [step])).revision = (run steps).revision := by
      rw [run_concat]
      exact congrArg Page.revision (page_take_of_page?_eq_none failure)
    constructor
    · intro shut
      have banner : (run (steps ++ [step])).banner ≠ none := by
        rw [run_concat]
        exact banner_take_of_failure outcome failure accepted
      exact Nat.le_antisymm (revision_le_of_accepts outcome accepted)
        (shown ▸ shut.revision_le banner)
    · intro same
      exact .of_revision_le (Nat.le_of_eq (shown ▸ same).symm)

/-- The banner of a failed refinement stays if code of its revision was on show, and may be taken
away by something older if not. -/
theorem shutsOut_of_accepts_refinement :
    let code : Step := .generation 3 (.ok "code")
    let failure (revision : Nat) : Step := .refinement revision (.error .emptyResponse)
    ((run [code]).accepts (failure 3) = true ∧ ShutsOut [code, failure 3] 3) ∧
      (run [code]).accepts (failure 5) = true ∧ ¬ ShutsOut [code, failure 5] 5 := by
  intro code failure
  have counts : (run [code]).accepts (failure 3) = true := by decide
  have counts' : (run [code]).accepts (failure 5) = true := by decide
  exact ⟨⟨counts, ((shutsOut_of_accepts rfl counts).2 rfl).2 rfl⟩, counts',
    fun shut => absurd (((shutsOut_of_accepts rfl counts').2 rfl).1 shut) (by decide)⟩

/-- The failure to generate a revision is accepted, and then the code of an older revision comes in
and takes its banner away. -/
theorem not_shutsOut_of_failure :
    ¬ ∀ steps step revision, Step.revision? step = some revision →
      (run steps).accepts step = true → ShutsOut (steps ++ [step]) revision := by
  intro all
  have shut := all [.generation 3 (.ok "three")]
    (.generation 5 (.error (.missingField ⟨"blk-9"⟩ "name"))) 5 rfl (by decide)
  exact absurd (shut [] (.generation 4 (.ok "older")) 4 rfl (by decide)) (by decide)

end Display

end SolanaBlocks
