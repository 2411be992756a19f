import Mathlib.Data.List.Chain
import Mathlib.Data.Nat.Find
import SolanaBlocks.Palette.Standard
import SolanaBlocks.Proofs.Forest.Walks

/-!
# Walks against the sequence of links

Links that are followed one after the other give a sequence of ids. It stops where a block has no
successor or an id belongs to no block, and otherwise it goes round a cycle for ever. A walk is this
sequence up to its end, or up to the first id that comes a second time, so it is never longer than
the workspace is large, but for one id that may belong to no block. The part of a chain up to one of
its members is the front of the walk, wherever the links lead behind it.
-/

namespace SolanaBlocks

section Sequences

variable {α : Type}

/-- The element that `n` links lead to from `a`, if there are as many. -/
def follow (next : α → Option α) (a : α) : Nat → Option α
  | 0 => some a
  | n + 1 => (follow next a n).bind next

/-- A sequence comes to an element for another time. -/
def ComesAgain (course : Nat → Option α) (n : Nat) (a : α) : Prop :=
  course n = some a ∧ ∃ m < n, course m = some a

/-- A sequence comes to some element twice. -/
def Repeats (course : Nat → Option α) : Prop :=
  ∃ n a, ComesAgain course n a

/-- The first element that a sequence comes to for another time. -/
def FirstRepeat (course : Nat → Option α) (a : α) : Prop :=
  ∃ n, ComesAgain course n a ∧ ∀ m < n, ∀ b, ¬ ComesAgain course m b

variable {next : α → Option α} {course : Nat → Option α} {a b : α} {l : List α} {stop : Option α}

theorem repeats_iff_exists_firstRepeat : Repeats course ↔ ∃ a, FirstRepeat course a := by
  classical
  constructor
  · intro again
    obtain ⟨a, here⟩ := Nat.find_spec again
    exact ⟨a, Nat.find again, here, fun m early b earlier => Nat.find_min again early ⟨b, earlier⟩⟩
  · rintro ⟨a, n, here, -⟩
    exact ⟨n, a, here⟩

/-- A sequence that runs along a list without repeats comes to nothing twice before the end of the
list, and from there on it either begins to repeat itself or is over. -/
theorem firstRepeat_iff (along : ∀ n < l.length, course n = l[n]?) (distinct : l.Nodup)
    (known : ∀ a, course l.length = some a → a ∈ l)
    (done : course l.length = none → ∀ n ≥ l.length, course n = none) :
    FirstRepeat course a ↔ course l.length = some a := by
  have once {m n : Nat} {b : α} (early : m < n) (here : n < l.length) (first : course m = some b)
      (second : course n = some b) : False := by
    rw [along m (early.trans here)] at first
    rw [along n here] at second
    exact early.ne ((List.getElem?_inj (early.trans here) distinct).1 (first.trans second.symm))
  have again (b : α) (back : course l.length = some b) : ComesAgain course l.length b := by
    obtain ⟨m, here, there⟩ := List.getElem_of_mem (known b back)
    exact ⟨back, m, here, (along m here).trans (there ▸ List.getElem?_eq_getElem here)⟩
  constructor
  · rintro ⟨n, ⟨second, m, early, first⟩, least⟩
    rcases lt_trichotomy n l.length with here | rfl | late
    · exact (once early here first second).elim
    · exact second
    · cases back : course l.length with
      | none => exact absurd (done back n late.le) (by simp [second])
      | some b => exact absurd (again b back) (least l.length late b)
  · intro back
    refine ⟨l.length, again a back, ?_⟩
    rintro n here b ⟨second, m, early, first⟩
    exact once early here first second

theorem follow_succ_of_link (link : next a = some b) (n : Nat) :
    follow next a (n + 1) = follow next b n := by
  induction n with
  | zero => exact link
  | succ n ih => rw [follow, ih, follow]

theorem follow_eq_none {m n : Nat} (none : follow next a m = none) (later : n ≥ m) :
    follow next a n = .none := by
  induction later with
  | refl => exact none
  | step _ ih => rw [follow, ih, Option.bind_none]

/-- The links run along a list that is linked, and behind it they lead to where the list stops. -/
theorem Linked.follow_eq (linked : Linked next l stop) (starts : l.head?.or stop = some a) :
    (∀ n < l.length, follow next a n = l[n]?) ∧ follow next a l.length = stop := by
  induction l generalizing a with
  | nil => exact ⟨fun n early => absurd early n.not_lt_zero, starts.symm⟩
  | cons b l ih =>
      cases starts
      obtain ⟨link, linked⟩ := linked
      cases target : l.head?.or stop with
      | none =>
          obtain ⟨empty, rfl⟩ := Option.or_eq_none_iff.1 target
          obtain rfl := List.head?_eq_none_iff.1 empty
          refine ⟨fun n early => ?_, link⟩
          obtain rfl : n = 0 := by simpa using early
          rfl
      | some c =>
          obtain ⟨along, behind⟩ := ih linked target
          have step := follow_succ_of_link (link.trans target)
          refine ⟨fun n early => ?_, (step l.length).trans behind⟩
          cases n with
          | zero => rfl
          | succ n => exact (step n).trans (along n (Nat.lt_of_succ_lt_succ early))

/-- Each element of a linked list leads to the one behind it, and the last one to `stop`. -/
theorem Linked.isChain (linked : Linked next l stop) :
    l.IsChain fun a b => next a = some b := by
  induction l with
  | nil => exact .nil
  | cons a l ih =>
      cases l with
      | nil => exact .singleton a
      | cons b l => exact .cons_cons linked.1 (ih linked.2)

theorem Linked.next_getLast (linked : Linked next l stop) (last : l.getLast? = some a) :
    next a = stop := by
  obtain ⟨before, rfl⟩ := List.getLast?_eq_some_iff.1 last
  exact (append_iff.1 linked).2.1

end Sequences

namespace Workspace

variable {w : Workspace} {id head : BlockId} {seen : List BlockId} {seat : Seat}

theorem unseen_nil (w : Workspace) : w.unseen [] = w.size := by
  rw [unseen, ids, size, ← Std.ExtTreeMap.length_keys]
  simp

/-- What a walk is that comes to `id` when it has passed `seen`: it goes along the links from `id`
as long as they lead to blocks it has not passed, and stops at the first that it has. -/
structure Courses (w : Workspace) (seen : List BlockId) (id : BlockId) (walk : ChainWalk) :
    Prop where
  starts : walk.members.head?.or walk.revisited = some id
  linked : Linked w.next? walk.members walk.revisited
  passed : ∀ other, walk.revisited = some other → other ∈ seen ∨ other ∈ walk.members
  short : walk.members.length ≤ w.unseen seen + 1

/-- One link more in front of a walk. -/
theorem Courses.step {next : BlockId} {walk : ChainWalk}
    (courses : w.Courses (id :: seen) next walk) (new : id ∉ seen) (link : w.next? id = some next) :
    w.Courses seen id { walk with members := id :: walk.members } where
  starts := rfl
  linked := ⟨link.trans courses.starts.symm, courses.linked⟩
  passed other back := by
    rcases courses.passed other back with before | there
    · rcases List.mem_cons.1 before with rfl | before
      · exact .inr List.mem_cons_self
      · exact .inl before
    · exact .inr (List.mem_cons_of_mem id there)
  short := by
    obtain ⟨block, alive, -⟩ := Option.bind_eq_some_iff.1 link
    have fewer := unseen_cons_lt alive new
    have := courses.short
    rw [List.length_cons]
    omega

theorem courses_walkFrom (w : Workspace) (seen : List BlockId) (id : BlockId) :
    w.Courses seen id (w.walkFrom seen id) := by
  induction seen, id using walk_induction w with
  | again seen id passed =>
      rw [walkFrom_eq, if_pos passed]
      refine ⟨rfl, trivial, fun other back => ?_, Nat.zero_le _⟩
      cases back
      exact .inl passed
  | last seen id new none =>
      rw [walkFrom_eq, if_neg new, none]
      exact ⟨rfl, ⟨none, trivial⟩, fun _ back => (nomatch back), Nat.succ_le_succ (Nat.zero_le _)⟩
  | step seen id next new link ih =>
      rw [walkFrom_eq, if_neg new, link]
      exact ih.step new link

/-- A block without a successor, or no block at all. -/
theorem next?_eq_none_iff :
    w.next? id = none ↔
      w.get? id = none ∨ ∃ block, w.get? id = some block ∧ block.next = none := by
  cases found : w.get? id <;> simp [next?, found]

theorem head?_walkChain (w : Workspace) (head : BlockId) :
    (w.walkChain head).members.head? = some head := by
  rw [walkChain, walkFrom_eq, if_neg List.not_mem_nil]
  cases w.next? head <;> rfl

/-- The members of a chain up to one of them are the front of the walk that ends with it. -/
theorem chainPrefix_isPrefix (held : w.slot? seat.owner seat.slot = some (.chain head))
    (member : id ∈ (w.walkChain head).members) :
    w.chainPrefix seat id <+: (w.walkChain head).members ∧
      (w.chainPrefix seat id).getLast? = some id := by
  obtain ⟨before, after, split⟩ := List.append_of_mem member
  rw [chainPrefix_of_walk held split, split]
  exact ⟨⟨after, by simp⟩, List.getLast?_concat⟩

/-- A walk along a chain, measured against the sequence of links from its head. -/
structure ExactWalk (w : Workspace) (head : BlockId) (walk : ChainWalk) : Prop where
  /-- It comes to an end, at the latest when it has passed every block. -/
  ends : walk.members.length ≤ w.size + 1
  distinct : walk.members.Nodup
  starts : walk.members.head? = some head
  linked : walk.members.IsChain fun id next => w.next? id = some next
  repeats : walk.revisited.isSome = true ↔ Repeats (follow w.next? head)
  first : ∀ id, walk.revisited = some id ↔ FirstRepeat (follow w.next? head) id
  back : ∀ id, walk.revisited = some id →
    ∃ last, walk.members.getLast? = some last ∧ w.next? last = some id
  final : walk.revisited = none →
    ∃ last, walk.members.getLast? = some last ∧
      (w.get? last = none ∨ ∃ block, w.get? last = some block ∧ block.next = none)

theorem exactWalk_walkChain (w : Workspace) (head : BlockId) :
    w.ExactWalk head (w.walkChain head) := by
  have courses : w.Courses [] head (w.walkChain head) := courses_walkFrom w [] head
  have distinct := w.nodup_walkChain head
  have starts := head?_walkChain w head
  generalize w.walkChain head = walk at courses distinct starts
  obtain ⟨along, behind⟩ := courses.linked.follow_eq courses.starts
  have first (id : BlockId) :
      walk.revisited = some id ↔ FirstRepeat (follow w.next? head) id := by
    rw [← behind]
    refine (firstRepeat_iff along distinct (fun other back => ?_) fun none n late => ?_).symm
    · exact (courses.passed other (behind.symm.trans back)).resolve_left List.not_mem_nil
    · exact follow_eq_none none late
  have last : ∃ last, walk.members.getLast? = some last ∧ w.next? last = walk.revisited := by
    cases ends : walk.members.getLast? with
    | none => rw [List.getLast?_eq_none_iff.1 ends] at starts; cases starts
    | some last => exact ⟨last, rfl, courses.linked.next_getLast ends⟩
  refine ⟨unseen_nil w ▸ courses.short, distinct, starts, courses.linked.isChain, ?_, first, ?_, ?_⟩
  · rw [repeats_iff_exists_firstRepeat, Option.isSome_iff_exists]
    exact exists_congr first
  · exact fun id back => back ▸ last
  · exact fun none => by simpa only [← next?_eq_none_iff] using none ▸ last

/-- A walk goes along the links from its head until they end or come to a block for the second time,
however they lead, and it says which of the two has happened. The part of a chain up to a member is
the front of that walk. -/
theorem walkChain_exact (w : Workspace) (head : BlockId) :
    w.ExactWalk head (w.walkChain head) ∧
      ∀ (seat : Seat) (id : BlockId), w.slot? seat.owner seat.slot = some (.chain head) →
        id ∈ (w.walkChain head).members →
        w.chainPrefix seat id <+: (w.walkChain head).members ∧
          (w.chainPrefix seat id).getLast? = some id :=
  ⟨exactWalk_walkChain w head, fun _ _ held member => chainPrefix_isPrefix held member⟩

/-- The body of a loop leads on to the loop itself, whose own chain is bent into a cycle. -/
theorem walkChain_exact_nested :
    let edits : List Edit := [
      .create (some ⟨"o"⟩) "process_instruction" [],
      .create (some ⟨"a"⟩) "controls_while" [],
      .create (some ⟨"l"⟩) "controls_while" [],
      .create (some ⟨"m"⟩) "controls_while" [],
      .create (some ⟨"n"⟩) "controls_while" [],
      .bind ⟨"o"⟩ "body" (.chain [⟨"a"⟩, ⟨"l"⟩]),
      .bind ⟨"l"⟩ "do" (.chain [⟨"m"⟩, ⟨"n"⟩]),
      .setNext ⟨"n"⟩ (some ⟨"l"⟩),
      .setNext ⟨"l"⟩ (some ⟨"a"⟩)]
    let w : Workspace := edits.foldl (fun w edit => (w.apply edit).1) { palette := .standard }
    w.walkChain ⟨"m"⟩ = { members := [⟨"m"⟩, ⟨"n"⟩, ⟨"l"⟩, ⟨"a"⟩], revisited := some ⟨"l"⟩ } ∧
      FirstRepeat (follow w.next? ⟨"m"⟩) ⟨"l"⟩ ∧
      w.slot? ⟨"l"⟩ "do" = some (.chain ⟨"m"⟩) ∧ ⟨"n"⟩ ∈ (w.walkChain ⟨"m"⟩).members ∧
      w.chainPrefix ⟨⟨"l"⟩, "do"⟩ ⟨"n"⟩ <+: (w.walkChain ⟨"m"⟩).members ∧
      (w.chainPrefix ⟨⟨"l"⟩, "do"⟩ ⟨"n"⟩).getLast? = some ⟨"n"⟩ := by
  intro edits w
  have walk : w.walkChain ⟨"m"⟩ =
      { members := [⟨"m"⟩, ⟨"n"⟩, ⟨"l"⟩, ⟨"a"⟩], revisited := some ⟨"l"⟩ } := by decide +kernel
  have held : w.slot? ⟨"l"⟩ "do" = some (.chain ⟨"m"⟩) := by decide +kernel
  have member : ⟨"n"⟩ ∈ (w.walkChain ⟨"m"⟩).members := by decide +kernel
  obtain ⟨walks, upTo⟩ := walkChain_exact w ⟨"m"⟩
  have again : FirstRepeat (follow w.next? ⟨"m"⟩) ⟨"l"⟩ :=
    (walks.first ⟨"l"⟩).1 (congrArg ChainWalk.revisited walk)
  exact ⟨walk, again, held, member, upTo ⟨⟨"l"⟩, "do"⟩ ⟨"n"⟩ held member⟩

end Workspace

end SolanaBlocks
