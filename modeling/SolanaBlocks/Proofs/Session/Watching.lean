import SolanaBlocks.Proofs.Session.Interleaving

/-!
# No change is lost on a watcher

An edit announces its changes before it lets the lock go, so at any time the revision announced last
is that of the workspace without changes that are still to be announced, and this is the workspace
itself when the lock is free. As long as nothing more is announced, this workspace stays.

A watcher looks at all announcements when changes have rested, and copies the workspace afterwards.
Whatever is announced later it has not seen. So if it has seen everything when it waits again, then
it has generated from the workspace as it is.
-/

namespace SolanaBlocks.Interleaving

variable {e : Emitter} {pacing : Pacing} {w : Workspace} {s s' : State}

/-! ## Announcements -/

namespace State

theorem rest_of_held {found : Workspace} (held : s.lock = .held found) : s.rest = found := by
  unfold rest
  rw [held]

theorem rest_of_told (told : s.lock = .told) : s.rest = s.workspace := by
  unfold rest
  rw [told]

theorem rest_of_free (free : s.lock = .free) : s.rest = s.workspace := by
  unfold rest
  rw [free]

/-- The revision announced last is that of the workspace without the changes that have not been
announced, and those have come on top of it. -/
structure Announced (s : State) : Prop where
  revision : s.announced = s.rest.revision
  onward : s.rest.Onward s.workspace

end State

theorem State.Announced.step (announced : s.Announced) (step : Step e pacing s s') :
    s'.Announced := by
  obtain ⟨revision, onward⟩ := announced
  cases step with
  | lock living free => exact ⟨revision.trans (congrArg _ (State.rest_of_free free)), .refl _⟩
  | @edit found held edit =>
      rw [State.rest_of_held held] at revision onward
      have still : State.rest { s with workspace := (s.workspace.apply edit).1 } = found :=
        State.rest_of_held held
      exact ⟨still ▸ revision, still ▸ onward.trans (s.workspace.onward_apply edit)⟩
  | announce held changed => exact ⟨rfl, .refl _⟩
  | pass held same =>
      rw [State.rest_of_held held] at revision
      exact ⟨revision.trans same.symm, .refl _⟩
  | unlock told => exact ⟨revision.trans (congrArg _ (State.rest_of_told told)), .refl _⟩
  | _ => exact ⟨revision, onward⟩

/-- Without a further announcement the workspace stays, but for changes that are still to be
announced. -/
theorem Step.rest_unchanged (step : Step e pacing s s') (announced : s.Announced) :
    s'.announcements = s.announcements + 1 ∨
      s'.announcements = s.announcements ∧ s.rest.Unchanged s'.rest := by
  cases step with
  | lock living free => exact .inr ⟨rfl, State.rest_of_free free ▸ .refl _⟩
  | @edit found held edit =>
      have still : State.rest { s with workspace := (s.workspace.apply edit).1 } = found :=
        State.rest_of_held held
      exact .inr ⟨rfl, State.rest_of_held held ▸ still ▸ .refl _⟩
  | announce held changed => exact .inl rfl
  | pass held same =>
      have onward := announced.onward
      rw [State.rest_of_held held] at onward ⊢
      exact .inr ⟨rfl, onward.unchanged same⟩
  | unlock told => exact .inr ⟨rfl, State.rest_of_told told ▸ .refl _⟩
  | _ => exact .inr ⟨rfl, .refl _⟩

/-! ## Watchers -/

namespace Watcher

variable {watcher watcher' : Watcher}

/-- There is nothing to do for a watcher: the workspace is what it was started on, or what it
generated from last. -/
def Current (s : State) (watcher : Watcher) : Prop :=
  watcher.begun.Unchanged s.rest ∨ ∃ copy, watcher.last = some copy ∧ copy.Unchanged s.rest

variable (e pacing) in
/-- How far a watcher has come. It sees announcements after they are made; what it is generating
from is the last that it generates from; when it waits, its last outcome has come in; and if it
waits or generates and has seen everything, then it is current. -/
structure Abreast (s : State) (watcher : Watcher) : Prop where
  seen_le : watcher.seen ≤ s.announcements
  last : ∀ draft, watcher.phase = .generating draft → watcher.last = some draft.copy
  handedIn : watcher.phase = .waiting → ∀ copy, watcher.last = some copy →
    .generation copy.revision (e.generate pacing copy).code ∈ s.outcomes
  current : watcher.phase = .waiting ∨ (∃ draft, watcher.phase = .generating draft) →
    watcher.seen = s.announcements → watcher.Current s

theorem Current.later (current : watcher.Current s) (unchanged : s.rest.Unchanged s'.rest) :
    watcher.Current s' := by
  rcases current with still | ⟨copy, generated, still⟩
  · exact .inl (still.trans unchanged)
  · exact .inr ⟨copy, generated, still.trans unchanged⟩

/-- Nothing more is known about a watcher that neither waits for a change nor generates. -/
theorem Abreast.of_phase (seen : watcher.seen ≤ s.announcements) (busy : watcher.phase ≠ .waiting)
    (free : ∀ draft, watcher.phase ≠ .generating draft) : watcher.Abreast e pacing s where
  seen_le := seen
  last draft generating := absurd generating (free draft)
  handedIn waiting := absurd waiting busy
  current phase := by
    rcases phase with waiting | ⟨draft, generating⟩
    · exact absurd waiting busy
    · exact absurd generating (free draft)

/-- A watcher that does nothing keeps up: what it has to look at has been announced. -/
theorem Abreast.step (abreast : watcher.Abreast e pacing s) (announced : s.Announced)
    (step : Step e pacing s s') : watcher.Abreast e pacing s' where
  seen_le := by
    rcases step.rest_unchanged announced with more | ⟨same, -⟩
    · exact more ▸ Nat.le_succ_of_le abreast.seen_le
    · exact same ▸ abreast.seen_le
  last := abreast.last
  handedIn waiting copy generated := by
    have known := abreast.handedIn waiting copy generated
    cases step with
    | turn before after here turn => exact List.mem_append_left _ known
    | _ => exact known
  current phase seen := by
    rcases step.rest_unchanged announced with more | ⟨same, unchanged⟩
    · exact absurd (seen.trans more) (Nat.ne_of_lt (Nat.lt_succ_of_le abreast.seen_le))
    · exact (abreast.current phase (seen.trans same)).later unchanged

/-- A watcher keeps up by what it does. -/
theorem Abreast.turn {news : List Display.Step} (abreast : watcher.Abreast e pacing s)
    (turn : watcher.Turn e pacing s watcher' news) (tasks : List Task) :
    watcher'.Abreast e pacing { s with tasks := tasks, outcomes := s.outcomes ++ news } := by
  cases turn with
  | notice attends unseen => exact .of_phase (Nat.le_refl _) nofun nofun
  | settle resting => exact .of_phase (Nat.le_refl _) nofun nofun
  | stop waiting seen closed => exact .of_phase abreast.seen_le nofun nofun
  | begin settled free =>
      refine ⟨abreast.seen_le, fun draft generating => ?_, nofun, fun phase seen => ?_⟩
      · cases generating
        rfl
      · refine .inr ⟨s.workspace, rfl, ?_⟩
        exact (State.rest_of_free free).symm ▸ Workspace.Unchanged.refl s.workspace
  | @generate draft next _ generating turn =>
      have current (seen : watcher.seen = s.announcements) : watcher.Current s :=
        abreast.current (.inr ⟨draft, generating⟩) seen
      have last := abreast.last draft generating
      cases turn with
      | pause copy pauses =>
          refine ⟨abreast.seen_le, fun draft paused => ?_, nofun, fun _ seen => current seen⟩
          cases paused
          exact last
      | publish copy =>
          refine ⟨abreast.seen_le, nofun, fun _ copy' generated => ?_, fun _ seen => current seen⟩
          cases last.symm.trans generated
          exact List.mem_append_right _ (List.mem_singleton.2 rfl)

end Watcher

/-! ## Runs -/

variable (e pacing) in
/-- Every watcher keeps up with what is announced. -/
structure Watched (s : State) : Prop where
  announced : s.Announced
  abreast : ∀ watcher, .background watcher ∈ s.tasks → watcher.Abreast e pacing s

theorem Watched.step (watched : Watched e pacing s) (step : Step e pacing s s') :
    Watched e pacing s' := by
  refine ⟨watched.announced.step step, fun watcher present => ?_⟩
  have idle (known : .background watcher ∈ s.tasks) : watcher.Abreast e pacing s' :=
    (watched.abreast watcher known).step watched.announced step
  cases step with
  | begin living begins =>
      rcases List.mem_append.1 present with known | new
      · exact idle known
      · cases List.mem_singleton.1 new
        cases begins
        refine ⟨Nat.le_refl _, nofun, nofun, fun _ _ => .inl (.refl s.rest)⟩
  | @turn before after next task news here turn =>
      rcases mem_tasks_of_turn here present with known | left
      · exact idle known
      · cases turn with
        | @watch earlier _ _ turn =>
            cases List.mem_singleton.1 left
            have acting : .background earlier ∈ s.tasks :=
              here ▸ List.mem_append_right before List.mem_cons_self
            exact (watched.abreast earlier acting).turn turn _
        | @generate draft next news turn => cases next <;> simp at left
        | ask copy settings service instruction => cases List.mem_singleton.1 left
        | answer revision refinement => cases left
  | _ => exact idle present

theorem Run.watched {past : List State} (run : Run e pacing w (s :: past)) :
    Watched e pacing s :=
  @Run.invariant e pacing w s (fun _ s => Watched e pacing s)
    ⟨⟨rfl, .refl w⟩, fun _ present => (List.not_mem_nil present).elim⟩
    (fun _ _ _ _ watched step => watched.step step) past run

/-- When the lock is free, the revision of the workspace is the one announced last. A watcher that
waits for a change and has seen every announcement has nothing to do: the workspace, without changes
that are still to be announced, is the one that it was started on, or the one that it generated from
last, and the outcome of this has come in. -/
theorem Run.current_of_waiting {past : List State} (run : Run e pacing w (s :: past)) :
    (s.lock = .free → s.announced = s.workspace.revision) ∧
      (s.announced = s.workspace.revision → s.rest.Unchanged s.workspace) ∧
      ∀ watcher, .background watcher ∈ s.tasks → watcher.phase = .waiting →
        watcher.seen = s.announcements →
        watcher.begun.Unchanged s.rest ∨
          ∃ copy, watcher.last = some copy ∧ copy.Unchanged s.rest ∧
            .generation copy.revision (e.generate pacing copy).code ∈ s.outcomes := by
  obtain ⟨⟨revision, onward⟩, abreast⟩ := run.watched
  refine ⟨fun free => ?_, fun same => ?_, fun watcher present waiting seen => ?_⟩
  · exact revision.trans (congrArg _ (State.rest_of_free free))
  · exact onward.unchanged (same.symm.trans revision)
  · obtain ⟨-, -, handedIn, current⟩ := abreast watcher present
    rcases current (.inl waiting) seen with still | ⟨copy, generated, still⟩
    · exact .inl still
    · exact .inr ⟨copy, generated, still, handedIn waiting copy generated⟩

/-- A watcher on an empty workspace notices that a block has been created. When it waits again it
has generated from the workspace with the block. -/
theorem Run.current_of_waiting_created :
    let w : Workspace := { palette := .standard }
    let e : Emitter := { palette := .standard }
    let w' := (w.apply (.create (some ⟨"a"⟩) "logic_boolean" [])).1
    ∃ s past watcher, Run e {} w (s :: past) ∧ .background watcher ∈ s.tasks ∧
      watcher.phase = .waiting ∧ watcher.seen = s.announcements ∧ s.rest = w' ∧
      ∃ copy, watcher.last = some copy ∧ copy.Unchanged w' ∧
        .generation copy.revision (e.generate {} copy).code ∈ s.outcomes := by
  intro w e w'
  have pauses : draft e {} w' = ⟨w', 0⟩ := congrArg (Draft.mk w') (by decide +kernel)
  have changed : w'.revision = w.revision + 1 := by decide +kernel
  have started : Run e {} w
      [{ workspace := w, announced := 0, tasks := [.background { seen := 0, begun := w }] },
        .start w] :=
    .step .start (.begin rfl .background)
  obtain ⟨past, edited⟩ := started.edit_changed rfl rfl [.create (some ⟨"a"⟩) "logic_boolean" []]
    (changed ▸ Nat.succ_ne_self _)
  have noticed := edited.step (.turn [] [] rfl (.watch (.notice (.inl rfl) nofun)))
  have settled := noticed.step (.turn [] [] rfl (.watch (.settle rfl)))
  have begun := settled.step (.turn [] [] rfl (.watch (.begin rfl rfl)))
  have handsIn : Draft.Turn e {} (draft e {} w') none
      [.generation w'.revision (e.generate {} w').code] := pauses ▸ .publish w'
  have run := begun.step (.turn [] [] rfl (.watch (.generate rfl handsIn)))
  rcases (current_of_waiting run).2.2 _ List.mem_cons_self rfl rfl with still | generated
  · exact absurd still.revision_eq (changed ▸ Nat.succ_ne_self _)
  · exact ⟨_, _, _, run, List.mem_cons_self, rfl, rfl, rfl, generated⟩

end SolanaBlocks.Interleaving
