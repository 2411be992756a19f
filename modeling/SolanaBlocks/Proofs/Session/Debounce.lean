import Mathlib.Logic.Relation
import SolanaBlocks.Session.Debounce

/-!
# What a receiver may return

A sender changes a value and closes in the end; a receiver calls for the value again and again. At
one instant either of them may act first, and a receiver whose window is over may as well look at a
change that has just been made. Time passes only when a receiver in a call can do nothing, but
between calls it passes as it likes.

In a call that has looked at a change, everything else that it has not looked at has been made just
now, since time would not have passed over it. So when the window is over, no change lies in it.

For a schedule of changes there may be several answers, if some of them happen at one instant. What
is computed for a schedule is one of them.
-/

namespace SolanaBlocks.Debounce

open Relation

variable {α : Type}

/-- A receiver is between two calls, or in one: it waits for a change, or it has observed one and
waits for changes to rest. -/
inductive Call where
  | idle
  | waiting (begun : Nat)
  | resting (begun observed : Nat)

/-- When a call has begun. -/
def Call.begun? : Call → Option Nat
  | .idle => none
  | .waiting begun | .resting begun _ => some begun

/-- A channel and its receiver at some point of time: the value on the channel, all changes since
the receiver was created, how many of them it has seen and how many when its last call began, and
what it has returned. -/
structure State (α : Type) where
  now : Nat := 0
  value : α
  changes : List (Nat × α) := []
  closed : Bool := false
  seen : Nat := 0
  known : Nat := 0
  call : Call := .idle
  returned : List (Nat × Option α) := []

namespace State

/-- A new receiver. -/
def start (value : α) : State α where
  value := value

/-- The same at another time. -/
def atTime (s : State α) (time : Nat) : State α :=
  { s with now := time }

/-- A change is made. -/
def send (s : State α) (value : α) : State α :=
  { s with value := value, changes := s.changes ++ [(s.now, value)] }

/-- A call begins. -/
def begin (s : State α) : State α :=
  { s with known := s.seen, call := .waiting s.now }

/-- A call observes what it has not seen yet. -/
def observe (s : State α) (begun : Nat) : State α :=
  { s with seen := s.changes.length, call := .resting begun s.now }

/-- A call returns, and has seen everything. -/
def answer (s : State α) (result : Option α) : State α :=
  { s with
    seen := s.changes.length
    call := .idle
    returned := s.returned ++ [(s.now, result)] }

end State

section Steps

variable (window : Nat)

/-- How a call may end. When its window is over it returns the value on the channel. It does not
wait for this once the sender has closed and there is nothing to observe; if it has not observed
anything either, it returns nothing. -/
inductive Ends (s : State α) : Option α → Prop
  | settled {begun observed : Nat} (resting : s.call = .resting begun observed)
    (due : observed + waitTime window ≤ s.now) : Ends s (some s.value)
  | flushed {begun observed : Nat} (resting : s.call = .resting begun observed)
    (seen : s.seen = s.changes.length) (closed : s.closed = true) : Ends s (some s.value)
  | finished {begun : Nat} (waiting : s.call = .waiting begun)
    (seen : s.seen = s.changes.length) (closed : s.closed = true) : Ends s none

/-- What a receiver in a call may do next. -/
inductive Turn (s : State α) : State α → Prop
  | observe {begun : Nat} (calling : s.call.begun? = some begun)
    (unseen : s.seen ≠ s.changes.length) : Turn s (s.observe begun)
  | answer {result : Option α} (ends : Ends window s result) : Turn s (s.answer result)

/-- What may happen next. Time does not pass over a receiver that can do something. -/
inductive Step : State α → State α → Prop
  | send {s : State α} (living : s.closed = false) (value : α) : Step s (s.send value)
  | close (s : State α) : Step s { s with closed := true }
  | pass {s : State α} (still : ∀ s', ¬ Turn window s s') : Step s (s.atTime (s.now + 1))
  | begin {s : State α} (idle : s.call = .idle) : Step s s.begin
  | turn {s s' : State α} (turn : Turn window s s') : Step s s'

/-- How one state leads to another. -/
abbrev Leads : State α → State α → Prop := ReflTransGen (Step window)

/-- A call rests since it has observed a new change. It could do so when the change was made, or
when it began itself if that was later. What it has not observed yet has been made just now. -/
structure Rests (s : State α) (begun observed : Nat) : Prop where
  new : s.known < s.seen
  last : ∃ change, (s.changes.take s.seen).getLast? = some change ∧ observed = max begun change.1
  seen : ∀ change ∈ s.changes.take s.seen, change.1 ≤ observed
  unseen : ∀ change ∈ s.changes.drop s.seen, change.1 = s.now
  past : observed ≤ s.now
  within : s.now ≤ observed + waitTime window

/-- What holds at any time. Outside of a rest the newest change that the receiver has seen is the
one that it has returned last. -/
structure Sound (s : State α) : Prop where
  known : s.known ≤ s.seen
  seen : s.seen ≤ s.changes.length
  past : ∀ change ∈ s.changes, change.1 ≤ s.now
  value : ∀ change, s.changes.getLast? = some change → change.2 = s.value
  waiting : ∀ begun, s.call = .waiting begun →
    begun ≤ s.now ∧ ∀ change ∈ s.changes.drop s.seen, max begun change.1 = s.now
  resting : ∀ begun observed, s.call = .resting begun observed → Rests window s begun observed
  returned : (∀ begun observed, s.call ≠ .resting begun observed) →
    (s.returned.filterMap Prod.snd).getLast? = (s.changes.take s.seen).getLast?.map Prod.snd

end Steps

variable {window : Nat} {s s' : State α}

/-! ## Steps -/

theorem Turn.seen_of_still (still : ∀ s', ¬ Turn window s s') {begun : Nat}
    (calling : s.call.begun? = some begun) : s.seen = s.changes.length :=
  Decidable.byContradiction fun unseen => still _ (.observe calling unseen)

namespace Sound

theorem start (value : α) : Sound window (.start value) where
  known := Nat.le_refl 0
  seen := Nat.le_refl 0
  past _ none := (List.not_mem_nil none).elim
  value _ none := nomatch none
  waiting _ idle := nomatch idle
  resting _ _ idle := nomatch idle
  returned _ := rfl

theorem send (sound : Sound window s) (value : α) : Sound window (s.send value) where
  known := sound.known
  seen := by
    rw [State.send, List.length_append]
    exact Nat.le_add_right_of_le sound.seen
  past := by
    rw [State.send, List.forall_mem_append]
    exact ⟨sound.past, by simp⟩
  value := by simp [State.send]
  waiting begun waiting := by
    obtain ⟨past, unseen⟩ := sound.waiting begun waiting
    rw [State.send, List.drop_append_of_le_length sound.seen, List.forall_mem_append]
    exact ⟨past, unseen, by simp [past]⟩
  resting begun observed resting := by
    obtain ⟨new, last, seen, unseen, past, within⟩ := sound.resting begun observed resting
    constructor
    · exact new
    · rwa [State.send, List.take_append_of_le_length sound.seen]
    · rwa [State.send, List.take_append_of_le_length sound.seen]
    · rw [State.send, List.drop_append_of_le_length sound.seen, List.forall_mem_append]
      exact ⟨unseen, by simp⟩
    · exact past
    · exact within
  returned calm := by
    rw [State.send, List.take_append_of_le_length sound.seen]
    exact sound.returned calm

theorem close (sound : Sound window s) : Sound window { s with closed := true } where
  known := sound.known
  seen := sound.seen
  past := sound.past
  value := sound.value
  waiting := sound.waiting
  resting begun observed resting := { sound.resting begun observed resting with }
  returned := sound.returned

theorem pass (sound : Sound window s) (still : ∀ s', ¬ Turn window s s') :
    Sound window (s.atTime (s.now + 1)) where
  known := sound.known
  seen := sound.seen
  past change made := Nat.le_succ_of_le (sound.past change made)
  value := sound.value
  waiting begun waiting := by
    -- time would not pass if there were anything to observe
    have all := Turn.seen_of_still still (congrArg Call.begun? waiting)
    refine ⟨Nat.le_succ_of_le (sound.waiting begun waiting).1, ?_⟩
    simp [State.atTime, all]
  resting begun observed resting := by
    have all := Turn.seen_of_still still (congrArg Call.begun? resting)
    have inside : s.now < observed + waitTime window :=
      Nat.lt_of_not_le fun due => still _ (.answer (.settled resting due))
    have rests := sound.resting begun observed resting
    exact
      { rests with
        unseen := by simp [State.atTime, all]
        past := Nat.le_succ_of_le rests.past
        within := inside }
  returned := sound.returned

theorem begin (sound : Sound window s) (idle : s.call = .idle) : Sound window s.begin where
  known := Nat.le_refl _
  seen := sound.seen
  past := sound.past
  value := sound.value
  waiting begun waiting := by
    cases waiting
    exact ⟨Nat.le_refl _, fun change unseen =>
      Nat.max_eq_left (sound.past change (List.mem_of_mem_drop unseen))⟩
  resting _ _ waiting := nomatch waiting
  returned _ := sound.returned fun _ _ resting => nomatch idle.symm.trans resting

/-- What a call has not observed could not be observed before. -/
theorem unseen (sound : Sound window s) {begun : Nat} (calling : s.call.begun? = some begun)
    {change : Nat × α} (unseen : change ∈ s.changes.drop s.seen) : max begun change.1 = s.now := by
  cases doing : s.call with
  | idle => cases doing ▸ calling
  | waiting begun' =>
      cases doing ▸ calling
      exact (sound.waiting begun doing).2 change unseen
  | resting begun' observed =>
      cases doing ▸ calling
      have rests := sound.resting begun observed doing
      obtain ⟨last, -, rfl⟩ := rests.last
      rw [rests.unseen change unseen]
      exact Nat.max_eq_right (Nat.le_trans (Nat.le_max_left begun last.1) rests.past)

theorem observe (sound : Sound window s) {begun : Nat} (calling : s.call.begun? = some begun)
    (unseen : s.seen ≠ s.changes.length) : Sound window (s.observe begun) where
  known := Nat.le_trans sound.known sound.seen
  seen := Nat.le_refl _
  past := sound.past
  value := sound.value
  waiting _ resting := nomatch resting
  resting begun' observed resting := by
    cases resting
    have left : s.changes.drop s.seen ≠ [] :=
      mt List.drop_eq_nil_iff.1 fun all => unseen (Nat.le_antisymm sound.seen all)
    have newest := sound.unseen calling (List.getLast_mem left)
    constructor
    · exact Nat.lt_of_le_of_lt sound.known (Nat.lt_of_le_of_ne sound.seen unseen)
    · refine ⟨_, ?_, newest.symm⟩
      rw [State.observe, List.take_length, List.getLast_drop, List.getLast?_eq_some_getLast]
    · rw [State.observe, List.take_length]
      exact sound.past
    · simp [State.observe]
    · exact Nat.le_refl _
    · exact Nat.le_add_right _ _
  returned calm := absurd rfl (calm begun s.now)

/-- A call returns nothing but what has been sent last. -/
theorem newest (sound : Sound window s) {value : α} (ends : Ends window s (some value)) :
    ∃ time, s.changes.getLast? = some (time, value) := by
  obtain ⟨begun, observed, resting, rfl⟩ :
      ∃ begun observed, s.call = .resting begun observed ∧ s.value = value := by
    cases ends with
    | settled resting due => exact ⟨_, _, resting, rfl⟩
    | flushed resting seen closed => exact ⟨_, _, resting, rfl⟩
  obtain ⟨change, last, -⟩ := (sound.resting begun observed resting).last
  have made : s.changes ≠ [] := by
    intro none
    simp [none] at last
  have newest := List.getLast?_eq_some_getLast made
  exact ⟨_, by rw [newest, ← sound.value _ newest]⟩

/-- A call that returns nothing leaves nothing behind. -/
theorem nothing (sound : Sound window s) (ends : Ends window s none) : s.closed = true ∧
    (s.returned.filterMap Prod.snd).getLast? = s.changes.getLast?.map Prod.snd := by
  cases ends with
  | @finished begun waiting seen closed =>
      have calm : ∀ begun observed, s.call ≠ .resting begun observed :=
        fun _ _ resting => nomatch waiting.symm.trans resting
      refine ⟨closed, ?_⟩
      rw [sound.returned calm, seen, List.take_length]

theorem answer (sound : Sound window s) {result : Option α} (ends : Ends window s result) :
    Sound window (s.answer result) where
  known := Nat.le_trans sound.known sound.seen
  seen := Nat.le_refl _
  past := sound.past
  value := sound.value
  waiting _ idle := nomatch idle
  resting _ _ idle := nomatch idle
  returned _ := by
    rw [State.answer, List.take_length, List.filterMap_append]
    cases result with
    | none => simpa using (sound.nothing ends).2
    | some value =>
        obtain ⟨time, newest⟩ := sound.newest ends
        simp [newest]

theorem step (sound : Sound window s) (step : Step window s s') : Sound window s' := by
  cases step with
  | send living value => exact sound.send value
  | close => exact sound.close
  | pass still => exact sound.pass still
  | begin idle => exact sound.begin idle
  | turn turn =>
      cases turn with
      | observe calling unseen => exact sound.observe calling unseen
      | answer ends => exact sound.answer ends

theorem leads (sound : Sound window s) (leads : Leads window s s') : Sound window s' := by
  induction leads with
  | refl => exact sound
  | tail _ step ih => exact ih.step step

end Sound

/-- A step puts on record at most how a call ends. -/
theorem Step.returned (step : Step window s s') {answer : Nat × Option α}
    (known : answer ∈ s'.returned) :
    answer ∈ s.returned ∨ s.now = answer.1 ∧ Ends window s answer.2 := by
  cases step with
  | turn turn =>
      cases turn with
      | observe calling unseen => exact .inl known
      | answer ends =>
          rcases List.mem_append.1 known with before | new
          · exact .inl before
          · cases List.mem_singleton.1 new
            exact .inr ⟨rfl, ends⟩
  | _ => exact .inl known

/-- Whatever is on record was returned by a call that ended. -/
theorem exists_ends_of_mem_returned {first : State α} (fresh : first.returned = [])
    (leads : Leads window first s) {answer : Nat × Option α} (known : answer ∈ s.returned) :
    ∃ t, Leads window first t ∧ Leads window t s ∧ t.now = answer.1 ∧ Ends window t answer.2 := by
  induction leads with
  | refl => simp [fresh] at known
  | tail leads step ih =>
      rcases step.returned known with before | ⟨now, ends⟩
      · obtain ⟨t, since, later, ended⟩ := ih before
        exact ⟨t, since, later.tail step, ended⟩
      · exact ⟨_, leads, .single step, now, ends⟩

/-! ## Schedules -/

/-- The sender still lives and the receiver has seen everything. -/
structure Calm (s : State α) : Prop where
  living : s.closed = false
  seen : s.seen = s.changes.length

/-- The changes to come are in order, and the sender closes after them. -/
def InTime (now : Nat) : List (Nat × α) → (close : Nat) → Prop
  | [], close => now ≤ close
  | (time, _) :: rest, close => now ≤ time ∧ InTime time rest close

theorem inTime_onTime (now : Nat) (changes : List (Nat × α)) (close : Nat) :
    InTime now (onTime now changes close).1 (onTime now changes close).2 := by
  induction changes generalizing now with
  | nil => exact Nat.le_max_left now close
  | cons change changes ih => exact ⟨Nat.le_max_left now change.1, ih (max now change.1)⟩

/-- How a receiver waits for what is to come: it has not observed anything that it has not returned,
or it has just observed the value that is pending. -/
def Pends (window : Nat) (s : State α) : Option (Nat × α) → Prop
  | none => ∃ begun, s.call = .waiting begun
  | some (due, value) =>
    (∃ begun, s.call = .resting begun s.now) ∧ due = s.now + waitTime window ∧ value = s.value

/-- Time passes while a receiver in a call has nothing to do. -/
theorem leads_at {time : Nat} (later : s.now ≤ time)
    (still : ∀ now < time, ∀ s', ¬ Turn window (s.atTime now) s') :
    Leads window s (s.atTime time) := by
  induction later with
  | refl => exact .refl
  | @step time later ih =>
      have before := ih fun now early => still now (Nat.lt_succ_of_lt early)
      exact before.tail (.pass (still time (Nat.lt_succ_self time)))

namespace Calm

theorem leads_waiting (calm : Calm s) (window : Nat) {begun time : Nat}
    (waiting : s.call = .waiting begun) (later : s.now ≤ time) :
    Leads window s (s.atTime time) := by
  refine leads_at later fun now _ s' => ?_
  rintro (⟨-, unseen⟩ | ⟨resting, due⟩ | ⟨resting, -, closed⟩ | ⟨-, -, closed⟩)
  · exact unseen calm.seen
  · cases waiting.symm.trans resting
  · cases waiting.symm.trans resting
  · cases calm.living.symm.trans closed

theorem leads_resting (calm : Calm s) {begun observed time : Nat}
    (resting : s.call = .resting begun observed) (later : s.now ≤ time)
    (within : time ≤ observed + waitTime window) : Leads window s (s.atTime time) := by
  refine leads_at later fun now early s' => ?_
  rintro (⟨-, unseen⟩ | ⟨resting', due⟩ | ⟨-, -, closed⟩ | ⟨waiting, -, -⟩)
  · exact unseen calm.seen
  · cases resting.symm.trans resting'
    exact Nat.not_le_of_lt (Nat.lt_of_lt_of_le early within) due
  · cases calm.living.symm.trans closed
  · cases resting.symm.trans waiting

end Calm

/-- A call returns, and the next one begins at once. -/
def State.again (s : State α) (result : Option α) : State α :=
  (s.answer result).begin

/-- It may happen that the changes are made, the sender closes, and the answers are returned. -/
def Plays (window : Nat) (s : State α) (changes : List (Nat × α))
    (answers : List (Nat × Option α)) : Prop :=
  ∃ s', Leads window s s' ∧ s'.closed = true ∧ s'.changes = s.changes ++ changes ∧
    s'.returned = s.returned ++ answers

namespace Plays

variable {begun time : Nat} {changes : List (Nat × α)} {answers : List (Nat × Option α)}

/-- The sender has closed. -/
theorem finished (closed : s.closed = true) (seen : s.seen = s.changes.length)
    (waiting : s.call = .waiting begun) : Plays window s [] [(s.now, none)] := by
  refine ⟨_, .single (.turn (.answer (.finished waiting seen closed))), closed, ?_, rfl⟩
  exact (List.append_nil s.changes).symm

/-- The sender closes. -/
theorem close (wait : Leads window s (s.atTime time))
    (plays : Plays window { s.atTime time with closed := true } changes answers) :
    Plays window s changes answers := by
  obtain ⟨s', leads, result⟩ := plays
  exact ⟨s', (wait.tail (.close _)).trans leads, result⟩

/-- A change is made, and observed at once. -/
theorem change (calm : Calm s) (calling : s.call.begun? = some begun)
    (wait : Leads window s (s.atTime time)) (value : α)
    (plays : Plays window (((s.atTime time).send value).observe begun) changes answers) :
    Plays window s ((time, value) :: changes) answers := by
  obtain ⟨s', leads, closed, made, returned⟩ := plays
  have living : (s.atTime time).closed = false := calm.living
  have sent := wait.tail (.send living value)
  have unseen : s.seen ≠ (s.changes ++ [(time, value)]).length := by simp [calm.seen]
  refine ⟨s', (sent.tail (.turn (.observe calling unseen))).trans leads, closed, ?_, returned⟩
  simp [made, State.observe, State.send, State.atTime]

/-- A call returns, and the next one begins. -/
theorem again (wait : Leads window s (s.atTime time)) {result : Option α}
    (ends : Ends window (s.atTime time) result)
    (plays : Plays window ((s.atTime time).again result) changes answers) :
    Plays window s changes ((time, result) :: answers) := by
  obtain ⟨s', leads, closed, made, returned⟩ := plays
  have ended := wait.tail (.turn (.answer ends))
  refine ⟨s', (ended.tail (.begin rfl)).trans leads, closed, made, ?_⟩
  simp [returned, State.again, State.begin, State.answer, State.atTime]

/-- A call rests for a window, and the next one begins. -/
theorem settled (calm : Calm s) (resting : s.call = .resting begun s.now)
    (plays : Plays window ((s.atTime (s.now + waitTime window)).again (some s.value)) changes
      answers) :
    Plays window s changes ((s.now + waitTime window, some s.value) :: answers) := by
  have wait : Leads window s (s.atTime (s.now + waitTime window)) :=
    calm.leads_resting resting (Nat.le_add_right _ _) (Nat.le_refl _)
  exact .again wait (.settled resting (Nat.le_refl _)) plays

end Plays

/-- What a receiver returns for a schedule may happen. -/
theorem plays_settleFrom (calm : Calm s) {pending : Option (Nat × α)}
    {changes : List (Nat × α)} {close : Nat} (pends : Pends window s pending)
    (order : InTime s.now changes close) :
    Plays window s changes (settleFrom window pending changes close) := by
  fun_induction settleFrom window pending changes close generalizing s with
  | case1 close =>
      obtain ⟨begun, waiting⟩ := pends
      exact .close (calm.leads_waiting window waiting order) (.finished rfl calm.seen waiting)
  | case2 due value close =>
      obtain ⟨⟨begun, resting⟩, rfl, rfl⟩ := pends
      rcases Nat.le_total (s.now + waitTime window) close with due | early
      · rw [Nat.min_eq_left due]
        refine .settled calm resting ?_
        have calm' : Calm ((s.atTime (s.now + waitTime window)).again (some s.value)) :=
          ⟨calm.living, rfl⟩
        exact .close (calm'.leads_waiting window rfl due) (.finished rfl rfl rfl)
      · -- the sender closes first, so the call does not wait for the end of its window
        have wait := calm.leads_resting resting order early
        have flushed : Ends window { s.atTime close with closed := true } (some s.value) :=
          .flushed resting calm.seen rfl
        rw [Nat.min_eq_right early]
        exact .close wait (.again .refl flushed (.finished rfl rfl rfl))
  | case3 time value rest close ih =>
      obtain ⟨begun, waiting⟩ := pends
      have wait := calm.leads_waiting window waiting order.1
      refine .change calm (congrArg Call.begun? waiting) wait value ?_
      exact ih ⟨calm.living, rfl⟩ ⟨⟨begun, rfl⟩, rfl, rfl⟩ order.2
  | case4 due old time value rest close early ih =>
      obtain ⟨⟨begun, resting⟩, rfl, rfl⟩ := pends
      have within : time ≤ s.now + waitTime window := by omega
      have wait := calm.leads_resting resting order.1 within
      refine .change calm (congrArg Call.begun? resting) wait value ?_
      exact ih ⟨calm.living, rfl⟩ ⟨⟨begun, rfl⟩, rfl, rfl⟩ order.2
  | case5 due old time value rest close late ih =>
      obtain ⟨⟨begun, resting⟩, rfl, rfl⟩ := pends
      -- the change comes when the window is over, so it is left to the next call
      have due : s.now + waitTime window ≤ time := by omega
      refine .settled calm resting ?_
      have calm' : Calm ((s.atTime (s.now + waitTime window)).again (some s.value)) :=
        ⟨calm.living, rfl⟩
      refine .change calm' rfl (calm'.leads_waiting window rfl due) value ?_
      exact ih ⟨calm.living, rfl⟩ ⟨⟨_, rfl⟩, rfl, rfl⟩ order.2

/-- A call that began at the beginning, when a change was made, has rested for a window. -/
def rested (window : Nat) (initial value : α) : State α :=
  (((State.start initial).begin.send value).observe 0).atTime (waitTime window)

theorem leads_rested (window : Nat) (initial value : α) :
    Leads window (.start initial) (rested window initial value) := by
  have called : Leads window (.start initial) (State.start initial).begin :=
    .single (.begin rfl)
  have sent := called.tail (.send rfl value)
  have observed := sent.tail (.turn (.observe rfl (Nat.zero_ne_one)))
  refine observed.trans (Calm.leads_resting ⟨rfl, rfl⟩ rfl (Nat.zero_le _) ?_)
  exact Nat.le_add_left _ _

/-- A receiver that is in a call and has observed a new change rests for no longer than the window,
where it could observe a change when it was made or, if that was later, when the call began; and
whatever it has not observed has been made just now. What it has returned was returned by a call
that ended. If the sender lives, a call ends exactly when the window is over. A value that it
returns is the one sent last. It returns nothing only if the sender has closed, and then the value
returned last is the one sent last, if there is any. What is returned for a schedule is one of the
things that may happen. -/
theorem ends_window_after_change (window : Nat) (initial : α) :
    (∀ s : State α, Leads window (.start initial) s →
      (∀ begun observed, s.call = .resting begun observed → Rests window s begun observed) ∧
      (∀ answer ∈ s.returned, ∃ t, Leads window (.start initial) t ∧ Leads window t s ∧
        t.now = answer.1 ∧ Ends window t answer.2) ∧
      ∀ result, Ends window s result →
        (s.closed = false → ∃ begun observed, s.call = .resting begun observed ∧
          s.now = observed + waitTime window) ∧
        (∀ value, result = some value → ∃ time, s.changes.getLast? = some (time, value)) ∧
        (result = none → s.closed = true ∧
          (s.returned.filterMap Prod.snd).getLast? = s.changes.getLast?.map Prod.snd)) ∧
    ∀ changes close, ∃ s, Leads window (.start initial) s ∧ s.closed = true ∧
      s.changes = (onTime 0 changes close).1 ∧ s.returned = settle window changes close := by
  refine ⟨fun s leads => ?_, fun changes close => ?_⟩
  · have sound := (Sound.start initial).leads leads
    refine ⟨sound.resting, fun _ => exists_ends_of_mem_returned rfl leads,
      fun result ends => ⟨fun living => ?_, ?_, ?_⟩⟩
    · cases ends with
      | @settled begun observed resting due =>
          have within := (sound.resting begun observed resting).within
          exact ⟨begun, observed, resting, Nat.le_antisymm within due⟩
      | flushed resting seen closed => cases living.symm.trans closed
      | finished waiting seen closed => cases living.symm.trans closed
    · rintro value rfl
      exact sound.newest ends
    · rintro rfl
      exact sound.nothing ends
  · have called : Leads window (.start initial) (State.start initial).begin :=
      .single (.begin rfl)
    have calm : Calm (State.start initial).begin := ⟨rfl, rfl⟩
    have plays : Plays window (State.start initial).begin
        (onTime 0 changes close).1 (settle window changes close) :=
      plays_settleFrom calm ⟨0, rfl⟩ (inTime_onTime 0 changes close)
    obtain ⟨s, leads, result⟩ := plays
    exact ⟨s, called.trans leads, result⟩

/-- A change is made at the beginning, and a window of two milliseconds after it the call returns.
The next one returns nothing, as the sender has closed. -/
theorem ends_window_after_change_two :
    ∃ s s' : State Nat, Leads 2 (.start 0) s ∧ Leads 2 s s' ∧
      (s.now = 2 ∧ s.closed = false ∧ Ends 2 s (some 7) ∧
        (∃ begun observed, s.call = .resting begun observed ∧ Rests 2 s begun observed ∧
          s.now = observed + waitTime 2) ∧ ∃ time, s.changes.getLast? = some (time, 7)) ∧
      Ends 2 s' none ∧ s'.closed = true ∧
        (s'.returned.filterMap Prod.snd).getLast? = s'.changes.getLast?.map Prod.snd := by
  have leads : Leads 2 (.start 0) (rested 2 0 7) := leads_rested 2 0 7
  have ends : Ends 2 (rested 2 0 7) (some 7) := .settled rfl (by decide)
  have leads' : Leads 2 (rested 2 0 7) { (rested 2 0 7).again (some 7) with closed := true } :=
    .tail (.tail (.single (.turn (.answer ends))) (.begin rfl)) (.close _)
  have ends' : Ends 2 { (rested 2 0 7).again (some 7) with closed := true } none :=
    .finished rfl rfl rfl
  obtain ⟨resting, -, ended⟩ := (ends_window_after_change 2 0).1 _ leads
  obtain ⟨begun, observed, rests, due⟩ := (ended _ ends).1 rfl
  have nothing := (((ends_window_after_change 2 0).1 _ (leads.trans leads')).2.2 _ ends').2.2 rfl
  exact ⟨_, _, leads, leads', ⟨rfl, rfl, ends, ⟨begun, observed, rests, resting _ _ rests, due⟩,
    (ended _ ends).2.1 7 rfl⟩, ends', nothing⟩

/-- A window of more than thirty years is cut short. -/
theorem ends_before_window :
    settle 946080000001 [(0, 1)] 946080000010 =
      [(946080000000, some 1), (946080000010, none)] ∧
    ¬ ∀ s : State Nat, Leads 946080000001 (.start 0) s → ∀ result, Ends 946080000001 s result →
        s.closed = false → ∃ begun observed, s.call = .resting begun observed ∧
          s.now = observed + 946080000001 := by
  refine ⟨by decide, fun claimed => ?_⟩
  have ends : Ends 946080000001 (rested 946080000001 0 1) (some 1) := .settled rfl (by decide)
  obtain ⟨begun, observed, resting, due⟩ := claimed _ (leads_rested _ 0 1) _ ends rfl
  cases resting
  revert due
  decide

end SolanaBlocks.Debounce
