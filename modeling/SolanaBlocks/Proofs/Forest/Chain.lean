import Mathlib.Data.List.Basic
import SolanaBlocks.Proofs.Forest.Tables

/-!
# Chains as lists

`Linked next l stop` says that the links run through the list `l` one after the other and lead to
`stop` at its end. A chain of statements is a list that is linked up to nothing; walking from its
first member gives the list back and meets nothing twice.
-/

namespace SolanaBlocks

/-- The links run through a list from each element to the one behind it, and from the last to
`stop`. -/
def Linked {α : Type} (next : α → Option α) : List α → Option α → Prop
  | [], _ => True
  | a :: rest, stop => next a = rest.head?.or stop ∧ Linked next rest stop

namespace Linked

variable {α : Type} {next next' : α → Option α} {a b : α} {l r : List α} {stop : Option α}

@[simp] theorem nil : Linked next [] stop := trivial

theorem cons_iff : Linked next (a :: l) stop ↔ next a = l.head?.or stop ∧ Linked next l stop :=
  Iff.rfl

theorem append_iff :
    Linked next (l ++ r) stop ↔ Linked next l (r.head?.or stop) ∧ Linked next r stop := by
  induction l with
  | nil => simp
  | cons a l ih =>
      rw [List.cons_append, cons_iff, cons_iff, ih, List.head?_append, Option.or_assoc, and_assoc]

theorem congr (h : ∀ a ∈ l, next' a = next a) : Linked next' l stop ↔ Linked next l stop := by
  induction l with
  | nil => simp
  | cons a l ih =>
      obtain ⟨here, later⟩ := List.forall_mem_cons.1 h
      rw [cons_iff, cons_iff, here, ih later]

/-- What a list leads to from one of its elements is another one, or what it stops at. -/
theorem next_mem (linked : Linked next l stop) (ha : a ∈ l) (link : next a = some b) :
    b ∈ l ∨ stop = some b := by
  induction l with
  | nil => cases ha
  | cons c l ih =>
      obtain ⟨first, linked⟩ := linked
      rcases List.mem_cons.1 ha with rfl | ha
      · rw [link] at first
        cases l with
        | nil => exact .inr first.symm
        | cons d l =>
            cases first
            exact .inl (by simp)
      · exact (ih linked ha).imp_left (List.mem_cons_of_mem c)

/-- Links outside a list do not matter to it. -/
theorem update_of_notMem [DecidableEq α] {value : Option α} (h : a ∉ l) :
    Linked (Function.update next a value) l stop ↔ Linked next l stop :=
  congr fun _ hb => Function.update_of_ne (ne_of_mem_of_not_mem hb h) _ _

/-- A new link from one of its elements ends the list there. -/
theorem update_last [DecidableEq α] {value : Option α} (h : Linked next (l ++ a :: r) stop)
    (distinct : (l ++ a :: r).Nodup) : Linked (Function.update next a value) (l ++ [a]) value := by
  have new : a ∉ l := fun ha => (List.nodup_append.1 distinct).2.2 a ha a List.mem_cons_self rfl
  rw [append_iff, update_of_notMem new]
  exact ⟨(append_iff.1 h).1, by simp [cons_iff]⟩

/-- Of a list without repeats only the last element leads to `stop`. -/
theorem next_ne_of_notMem (h : Linked next (l ++ [a]) stop) (ha : a ∉ l) (distinct : l.Nodup)
    (hb : b ∈ l.dropLast) : next b ≠ some a := by
  induction l with
  | nil => simp at hb
  | cons c l ih =>
      rw [List.cons_append, cons_iff] at h
      obtain ⟨once, distinct⟩ := List.nodup_cons.1 distinct
      cases l with
      | nil => simp at hb
      | cons d l =>
          rw [List.dropLast_cons_cons, List.mem_cons] at hb
          rcases hb with rfl | hb
          · rw [h.1]
            rintro ⟨⟩
            simp at ha
          · exact ih h.2 (fun hd => ha (List.mem_cons_of_mem c hd)) distinct hb

/-- When an element leaves a list, only what led to it leads elsewhere: to what it led to itself. -/
theorem next_of_bridge [DecidableEq α] (linked : Linked next (l ++ a :: r) none)
    (linked' : Linked next' (l ++ r) none) (distinct : (l ++ a :: r).Nodup) (hb : b ∈ l ++ r) :
    next' b = if next b = some a then next a else next b := by
  induction l with
  | nil =>
      obtain ⟨once, -⟩ := List.nodup_cons.1 distinct
      have past : next b ≠ some a := fun link =>
        (next_mem linked.2 hb link).elim once fun stop => by cases stop
      obtain ⟨before, after, rfl⟩ := List.append_of_mem hb
      rw [List.nil_append, append_iff] at linked'
      rw [if_neg past]
      exact linked'.2.1.trans (append_iff.1 linked.2).2.1.symm
  | cons c l ih =>
      rw [List.cons_append, List.nodup_cons] at distinct
      rw [List.cons_append, cons_iff] at linked linked'
      rcases List.mem_cons.1 hb with rfl | hb
      · rw [linked.1, linked'.1]
        cases l with
        | nil => simpa using (cons_iff.1 linked.2).1.symm
        | cons d l =>
            have ne : d ≠ a := by
              rintro rfl
              simp at distinct
            simp [ne]
      · exact ih linked.2 linked'.2 distinct.2 hb

end Linked

namespace Workspace

variable {w : Workspace}

/-- A walk in terms of links alone. -/
theorem walkFrom_eq (seen : List BlockId) (id : BlockId) :
    w.walkFrom seen id =
      if id ∈ seen then { members := [], revisited := some id }
      else
        match w.next? id with
        | none => { members := [id] }
        | some next =>
          let rest := w.walkFrom (id :: seen) next
          { rest with members := id :: rest.members } := by
  rw [walkFrom]
  split
  · rfl
  · unfold next?
    split
    · next none => simp [none]
    · next block found => cases link : block.next <;> simp [found, link]

/-- Walks are taken link by link until one comes to an end or to a block that has been passed. -/
theorem walk_induction (w : Workspace) {motive : List BlockId → BlockId → Prop}
    (again : ∀ seen id, id ∈ seen → motive seen id)
    (last : ∀ seen id, id ∉ seen → w.next? id = none → motive seen id)
    (step : ∀ seen id next, id ∉ seen → w.next? id = some next → motive (id :: seen) next →
      motive seen id) (seen : List BlockId) (id : BlockId) : motive seen id := by
  induction seen, id using walkFrom.induct w with
  | case1 seen id passed => exact again seen id passed
  | case2 seen id new absent =>
      exact last seen id new (by rw [next?, absent, Option.bind_none])
  | case3 seen id new block found none =>
      exact last seen id new (by rw [next?, found, Option.bind_some, none])
  | case4 seen id new block found next link ih =>
      exact step seen id next new (by rw [next?, found, Option.bind_some, link]) ih

/-- What goes along with every link goes along with walks. -/
theorem forall_mem_walkFrom {P : BlockId → Prop}
    (along : ∀ id next, P id → w.next? id = some next → P next) (seen : List BlockId) {id : BlockId}
    (start : P id) : ∀ member ∈ (w.walkFrom seen id).members, P member := by
  induction seen, id using walk_induction w with
  | again seen id passed => simp [walkFrom_eq, passed]
  | last seen id new none => simpa [walkFrom_eq, new, none] using start
  | step seen id next new link ih =>
      rw [walkFrom_eq, if_neg new, link]
      exact List.forall_mem_cons.2 ⟨start, ih (along id next start link)⟩

/-- A walk along a list without repeats that is linked up to nothing gives the list. -/
theorem walkFrom_of_linked {seen rest : List BlockId} {id : BlockId}
    (linked : Linked w.next? (id :: rest) none) (distinct : (id :: rest).Nodup)
    (new : ∀ other ∈ id :: rest, other ∉ seen) :
    w.walkFrom seen id = { members := id :: rest } := by
  induction rest generalizing seen id with
  | nil =>
      rw [walkFrom_eq, if_neg (new id List.mem_cons_self), linked.1]
      rfl
  | cons next rest ih =>
      obtain ⟨once, later⟩ := List.nodup_cons.1 distinct
      rw [walkFrom_eq, if_neg (new id List.mem_cons_self), linked.1]
      have tail : w.walkFrom (id :: seen) next = { members := next :: rest } := by
        apply ih linked.2 later
        intro other hother hseen
        rcases List.mem_cons.1 hseen with rfl | hseen
        · exact once hother
        · exact new other (List.mem_cons_of_mem id hother) hseen
      change ({ w.walkFrom (id :: seen) next with
        members := id :: (w.walkFrom (id :: seen) next).members } : ChainWalk) = _
      rw [tail]

theorem walkChain_of_linked {head : BlockId} {rest : List BlockId}
    (linked : Linked w.next? (head :: rest) none) (distinct : (head :: rest).Nodup) :
    w.walkChain head = { members := head :: rest } :=
  walkFrom_of_linked linked distinct fun _ _ => List.not_mem_nil

end Workspace

/-- How the blocks of a seat are told by what its slot holds: none, one alone, or a chain named by
its first member. -/
inductive Holds : Option SlotContent → List BlockId → Prop
  | empty : Holds none []
  | single (child : BlockId) : Holds (some (.single child)) [child]
  | chain (head : BlockId) (rest : List BlockId) : Holds (some (.chain head)) (head :: rest)

theorem Holds.eq_nil_iff {content : Option SlotContent} {members : List BlockId}
    (h : Holds content members) : members = [] ↔ content = none := by
  cases h <;> simp

/-- As before, but for a chain that may have lost all its members, so that the slot names a block that
is none of them. -/
inductive Opens : Option SlotContent → List BlockId → Prop
  | holds {content : Option SlotContent} {members : List BlockId} :
    Holds content members → Opens content members
  | lost (head : BlockId) : Opens (some (.chain head)) []

/-- Blocks in a seat are told by what its slot holds. -/
theorem Opens.of_mem {content : Option SlotContent} {members : List BlockId} {id : BlockId}
    (h : Opens content members) (hid : id ∈ members) : Holds content members := by
  cases h with
  | holds holds => exact holds
  | lost head => cases hid

theorem Opens.eq_nil {members : List BlockId} (h : Opens none members) : members = [] := by
  cases h with
  | holds holds => exact holds.eq_nil_iff.2 rfl

theorem Opens.mem_single {child : BlockId} {members : List BlockId}
    (h : Opens (some (.single child)) members) : child ∈ members := by
  cases h with
  | holds holds =>
      cases holds
      exact List.mem_cons_self

/-- A slot for a chain goes on naming the first of its members when others join behind it. -/
theorem Opens.insert_behind {content : Option SlotContent} {before after : List BlockId}
    {id other : BlockId} (h : Opens content (before ++ id :: after))
    (chain : ∀ child, content ≠ some (.single child)) :
    Opens content (before ++ id :: other :: after) := by
  have holds := h.of_mem (show id ∈ before ++ id :: after by simp)
  generalize list : before ++ id :: after = members at holds
  cases holds with
  | empty => simp at list
  | single child => exact absurd rfl (chain child)
  | chain head rest =>
      cases before with
      | nil =>
          cases list
          exact .holds (.chain _ _)
      | cons first before =>
          cases list
          exact .holds (.chain _ _)

/-- The last members may go, unless one of them is alone in a slot for a value. -/
theorem Opens.left {content : Option SlotContent} {kept rest : List BlockId}
    (h : Opens content (kept ++ rest))
    (alone : ∀ child, content = some (.single child) → child ∈ kept) : Opens content kept := by
  cases kept with
  | nil =>
      cases content with
      | none => exact .holds .empty
      | some content =>
          cases content with
          | single child => simpa using alone child rfl
          | chain head => exact .lost head
  | cons first kept =>
      have holds := h.of_mem (List.mem_cons_self : first ∈ first :: (kept ++ rest))
      generalize list : (first :: kept) ++ rest = members at holds
      cases holds with
      | empty => cases list
      | single child =>
          obtain ⟨rfl, none⟩ := List.cons_eq_cons.1 list
          obtain ⟨rfl, -⟩ := List.append_eq_nil_iff.1 none
          exact .holds (.single first)
      | chain head tail =>
          cases list
          exact .holds (.chain first kept)

theorem Holds.contentMembers {w : Workspace} {content : SlotContent} {members : List BlockId}
    (h : Holds (some content) members) (linked : Linked w.next? members none)
    (distinct : members.Nodup) : w.contentMembers content = members := by
  cases h with
  | single child => rfl
  | chain head rest =>
      rw [Workspace.contentMembers, Workspace.walkChain_of_linked linked distinct]

end SolanaBlocks
