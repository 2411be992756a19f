import Mathlib.Data.List.Perm.Subperm
import Mathlib.Logic.Function.Iterate
import SolanaBlocks.Proofs.Emission.Steps
import SolanaBlocks.Proofs.Forest.Walks

/-!
# Emission comes to an end

To render a block means to ask for other blocks, so calls of the emitter nest. Here emission is
spelled out as a process that does one thing at a time and keeps its own books: the renderings that
wait for an answer, and the render stack, on which a block is put before its rendering and from which
it is taken afterwards, whatever came of it. Nothing in the process itself says that it ends.

It does, for every workspace and all renderers: a call comes back after finitely many steps, with the
answer that `emitWithin` gives and with the stack it found. On the way no block is rendered inside its
own rendering, so there are never more levels than blocks.
-/

namespace SolanaBlocks

namespace Emitter

/-! ## The process -/

/-- A block whose rendering waits for the fragment of another one, and how it goes on then. -/
structure Pending where
  id : BlockId
  type : BlockType
  resume : Except EmitError Fragment → Rendering Fragment

/-- What is done next: a block is asked for, a renderer works, or an answer is handed back. -/
inductive Turn where
  | call (id : BlockId)
  | render (id : BlockId) (type : BlockType) (rendering : Rendering Fragment)
  | answer (outcome : Except EmitError Fragment)

/-- Emission under way: the turn, the renderings that wait, innermost first, and the render stack. -/
structure Process where
  turn : Turn
  waiting : List Pending
  stack : List BlockId

/-- The blocks that are being rendered inside each other, innermost first. -/
def Process.path (p : Process) : List BlockId :=
  match p.turn with
  | .render id _ _ => id :: p.waiting.map Pending.id
  | _ => p.waiting.map Pending.id

variable (e : Emitter) (w : Workspace)

/-- What a call does before it renders: the checks, and the start of the rendering. -/
def enter (stack : List BlockId) (id : BlockId) :
    Except EmitError (BlockType × Rendering Fragment) :=
  match w.get? id with
  | none => .error (.dangling id)
  | some block =>
    if id ∈ stack then .error (.cyclic id)
    else
      match e.palette.get? block.type with
      | none => .error (.unknownType id block.type)
      | some type =>
        match e.renderer? block.type with
        | none => .error (.noRenderer id block.type)
        | some renderer =>
          if isPlaced w id type.placement then
            .ok (type, renderer ⟨w, e.palette, e.unit, id, block⟩)
          else .error (.misplaced id block.type (.against type.placement))

/-- One step. A process that has handed its answer to nobody stays as it is. -/
def step (p : Process) : Process :=
  match p.turn with
  | .call id =>
    match e.enter w p.stack id with
    | .error failure => { p with turn := .answer (.error failure) }
    | .ok (type, rendering) => { p with turn := .render id type rendering, stack := id :: p.stack }
  | .render id type (.done outcome) =>
    { p with turn := .answer (outcome.map (settleTier type)), stack := p.stack.erase id }
  | .render id type (.request child resume) =>
    { p with turn := .call child, waiting := ⟨id, type, resume⟩ :: p.waiting }
  | .answer outcome =>
    match p.waiting with
    | [] => p
    | next :: waiting =>
      { p with turn := .render next.id next.type (next.resume outcome), waiting := waiting }

variable {w}

theorem enter_eq_ok {stack : List BlockId} {id : BlockId} {type : BlockType}
    {rendering : Rendering Fragment} (entered : e.enter w stack id = .ok (type, rendering)) :
    id ∉ stack ∧ ∃ block, w.get? id = some block := by
  unfold enter at entered
  split at entered
  · cases entered
  · next block found =>
      split at entered
      · cases entered
      · next new => exact ⟨new, block, found⟩

/-- A block that is being rendered already is not entered again. -/
theorem enter_of_mem {stack : List BlockId} {id : BlockId} {block : Block}
    (found : w.get? id = some block) (met : id ∈ stack) :
    e.enter w stack id = .error (.cyclic id) := by
  unfold enter
  rw [found]
  exact if_pos met

theorem emitWithin_eq_enter (stack : List BlockId) (id : BlockId) :
    e.emitWithin w stack id =
      match e.enter w stack id with
      | .error failure => .error failure
      | .ok (type, rendering) =>
        (rendering.run (e.emitWithin w (id :: stack))).map (settleTier type) := by
  rw [emitWithin_eq, enter]
  cases w.get? id with
  | none => rfl
  | some block =>
      dsimp only
      by_cases met : id ∈ stack
      · rw [if_pos met, if_pos met]
      rw [if_neg met, if_neg met]
      cases e.palette.get? block.type with
      | none => rfl
      | some type =>
          cases e.renderer? block.type with
          | none => rfl
          | some renderer =>
              dsimp only
              by_cases placed : isPlaced w id type.placement = true
              · rw [if_pos placed, if_pos placed]
              · rw [if_neg placed, if_neg placed]

variable {waiting : List Pending} {stack : List BlockId} {id child : BlockId} {block : Block}
  {type : BlockType} {rendering : Rendering Fragment}
  {resume : Except EmitError Fragment → Rendering Fragment} {outcome : Except EmitError Fragment}

theorem step_call_refused {failure : EmitError} (refused : e.enter w stack id = .error failure) :
    e.step w ⟨.call id, waiting, stack⟩ = ⟨.answer (.error failure), waiting, stack⟩ := by
  simp only [step, refused]

theorem step_call_entered (entered : e.enter w stack id = .ok (type, rendering)) :
    e.step w ⟨.call id, waiting, stack⟩ = ⟨.render id type rendering, waiting, id :: stack⟩ := by
  simp only [step, entered]

theorem step_done :
    e.step w ⟨.render id type (.done outcome), waiting, id :: stack⟩ =
      ⟨.answer (outcome.map (settleTier type)), waiting, stack⟩ := by
  simp only [step, List.erase_cons_head]

theorem step_request :
    e.step w ⟨.render id type (.request child resume), waiting, stack⟩ =
      ⟨.call child, ⟨id, type, resume⟩ :: waiting, stack⟩ :=
  rfl

theorem step_answer :
    e.step w ⟨.answer outcome, ⟨id, type, resume⟩ :: waiting, stack⟩ =
      ⟨.render id type (resume outcome), waiting, stack⟩ :=
  rfl

/-! ## Runs -/

variable (w)

/-- The process comes from `p` to `q`, and all is good on the way, at both ends too. -/
def Comes (good : Process → Prop) (p q : Process) : Prop :=
  ∃ n, (e.step w)^[n] p = q ∧ ∀ i ≤ n, good ((e.step w)^[i] p)

variable {e w}

namespace Comes

variable {good good' : Process → Prop} {p q r : Process}

theorem refl (here : good p) : e.Comes w good p p := by
  refine ⟨0, rfl, fun i hi => ?_⟩
  cases Nat.le_zero.1 hi
  exact here

/-- One step more at the beginning. -/
theorem head (here : good p) (later : e.Comes w good (e.step w p) q) : e.Comes w good p q := by
  obtain ⟨n, ends, fine⟩ := later
  refine ⟨n + 1, ends, fun i hi => ?_⟩
  cases i with
  | zero => exact here
  | succ i => exact fine i (Nat.le_of_succ_le_succ hi)

theorem trans (first : e.Comes w good p q) (later : e.Comes w good q r) : e.Comes w good p r := by
  obtain ⟨n, ends, fine⟩ := first
  induction n generalizing p with
  | zero =>
      cases ends
      exact later
  | succ n ih =>
      refine .head (fine 0 (Nat.zero_le _)) (ih (p := e.step w p) ends fun i hi => ?_)
      exact fine (i + 1) (Nat.succ_le_succ hi)

theorem mono (weaker : ∀ p, good p → good' p) (run : e.Comes w good p q) :
    e.Comes w good' p q := by
  obtain ⟨n, ends, fine⟩ := run
  exact ⟨n, ends, fun i hi => weaker _ (fine i hi)⟩

end Comes

/-! ## Inside a call -/

/-- The process is inside a call, or at one of its ends: what was waiting still waits, and the blocks
rendered since then are distinct living blocks, which stand on the stack on top of what was there. -/
def Inside (w : Workspace) (waiting : List Pending) (stack : List BlockId) (p : Process) : Prop :=
  ∃ inner : List BlockId, p.path = inner ++ waiting.map Pending.id ∧ p.stack = inner ++ stack ∧
    inner.Nodup ∧ ∀ id ∈ inner, id ∉ stack ∧ ∃ block, w.get? id = some block

theorem inside_call : Inside w waiting stack ⟨.call id, waiting, stack⟩ :=
  ⟨[], rfl, rfl, List.nodup_nil, by simp⟩

theorem inside_answer : Inside w waiting stack ⟨.answer outcome, waiting, stack⟩ :=
  ⟨[], rfl, rfl, List.nodup_nil, by simp⟩

theorem inside_render (found : w.get? id = some block) (new : id ∉ stack) :
    Inside w waiting stack ⟨.render id type rendering, waiting, id :: stack⟩ :=
  ⟨[id], rfl, rfl, by simp, by simpa [found] using new⟩

/-- Inside a call made by a rendering one is inside the call that is being rendered. -/
theorem Inside.outer {p : Process} (found : w.get? id = some block) (new : id ∉ stack)
    (inside : Inside w (⟨id, type, resume⟩ :: waiting) (id :: stack) p) :
    Inside w waiting stack p := by
  obtain ⟨inner, path, stacked, distinct, fresh⟩ := inside
  refine ⟨inner ++ [id], by rw [path]; simp, by rw [stacked]; simp, ?_, ?_⟩
  · refine List.nodup_append.2 ⟨distinct, by simp, fun other ho same hs => ?_⟩
    cases List.mem_singleton.1 hs
    exact fun h => (fresh other ho).1 (h ▸ List.mem_cons_self)
  · intro other ho
    rcases List.mem_append.1 ho with inside | own
    · have apart := fresh other inside
      exact ⟨fun there => apart.1 (List.mem_cons_of_mem id there), apart.2⟩
    · cases List.mem_singleton.1 own
      exact ⟨new, block, found⟩

/-- Distinct living blocks are at most as many as there are blocks. -/
theorem length_le_size {inner : List BlockId} (distinct : inner.Nodup)
    (alive : ∀ id ∈ inner, ∃ block, w.get? id = some block) : inner.length ≤ w.size := by
  have among : inner ⊆ w.ids := fun id hi => Workspace.mem_ids.2 (alive id hi)
  have total : w.ids.length = w.size := Std.ExtTreeMap.length_keys
  exact total ▸ (List.subperm_of_subset distinct among).length_le

/-! ## Calls come back -/

/-- A renderer at work comes to its answer and takes its block from the stack, if every call it may
make comes back. -/
theorem render_comes (found : w.get? id = some block) (new : id ∉ stack)
    (calls : ∀ waiting child,
      e.Comes w (Inside w waiting (id :: stack)) ⟨.call child, waiting, id :: stack⟩
        ⟨.answer (e.emitWithin w (id :: stack) child), waiting, id :: stack⟩)
    (rendering : Rendering Fragment) :
    e.Comes w (Inside w waiting stack) ⟨.render id type rendering, waiting, id :: stack⟩
      ⟨.answer ((rendering.run (e.emitWithin w (id :: stack))).map (settleTier type)), waiting,
        stack⟩ := by
  induction rendering with
  | done outcome =>
      refine .head (inside_render found new) ?_
      rw [step_done]
      exact .refl inside_answer
  | request child resume ih =>
      -- the renderer waits for the child and goes on with whatever comes back
      have asks := (calls (⟨id, type, resume⟩ :: waiting) child).mono fun _ => Inside.outer found new
      have hears : e.Comes w (Inside w waiting stack)
          ⟨.answer (e.emitWithin w (id :: stack) child), ⟨id, type, resume⟩ :: waiting, id :: stack⟩
          ⟨.render id type (resume (e.emitWithin w (id :: stack) child)), waiting, id :: stack⟩ := by
        refine .head (inside_answer.outer found new) ?_
        rw [step_answer]
        exact .refl (inside_render found new)
      refine .head (inside_render found new) ?_
      rw [step_request]
      exact asks.trans (hears.trans (ih (e.emitWithin w (id :: stack) child)))

/-- Every call comes back with the answer of `emitWithin` and leaves the stack as it was. -/
theorem call_comes (waiting : List Pending) (stack : List BlockId) (id : BlockId) :
    e.Comes w (Inside w waiting stack) ⟨.call id, waiting, stack⟩
      ⟨.answer (e.emitWithin w stack id), waiting, stack⟩ := by
  induction stack using w.unseen_induction generalizing waiting id with
  | step stack ih =>
      rw [emitWithin_eq_enter]
      refine .head inside_call ?_
      cases entered : e.enter w stack id with
      | error failure =>
          rw [step_call_refused e entered]
          exact .refl inside_answer
      | ok begun =>
          obtain ⟨type, rendering⟩ := begun
          rw [step_call_entered e entered]
          obtain ⟨new, block, found⟩ := e.enter_eq_ok entered
          exact render_comes found new (ih found new) rendering

end Emitter

/-! ## Chains -/

namespace Rendering

variable {α β : Type} (answer : BlockId → Except EmitError Fragment)

/-- The blocks that a rendering asks for, in order, if it is given these answers. -/
def asked : Rendering α → List BlockId
  | done _ => []
  | request block resume => block :: (resume (answer block)).asked

theorem asked_bind (r : Rendering α) (f : α → Rendering β) :
    (r >>= f).asked answer =
      r.asked answer ++
        match r.run answer with
        | .ok a => (f a).asked answer
        | .error _ => [] := by
  change (r.bind f).asked answer = _
  induction r with
  | done outcome => cases outcome <;> rfl
  | request block resume ih => exact congrArg (block :: ·) (ih (answer block))

@[simp] theorem asked_ofExcept (outcome : Except EmitError α) :
    (ofExcept outcome).asked answer = [] := rfl

@[simp] theorem asked_fail (failure : EmitError) : (fail failure : Rendering α).asked answer = [] :=
  rfl

@[simp] theorem asked_pure (a : α) : (pure a : Rendering α).asked answer = [] := rfl

@[simp] theorem asked_fragment (block : BlockId) : (fragment block).asked answer = [block] := rfl

end Rendering

namespace Site

open Rendering (asked_bind asked_ofExcept asked_fail asked_pure asked_fragment)

variable (site : Site) (slot : String) (answer : BlockId → Except EmitError Fragment)

/-- A loop over a chain as a plain case distinction. -/
theorem fragmentsFrom_eq (seen : List BlockId) (id : BlockId) :
    site.fragmentsFrom slot seen id =
      if id ∈ seen then .fail (.cyclic id)
      else
        match site.workspace.get? id with
        | none => .fail (.dangling id)
        | some member => do
          let type ← .ofExcept (site.moveTo id member).type
          if type.producesValue then
            .fail (.wrongContent site.id slot id .valueAsStatement)
          else
            let fragment ← .fragment id
            match member.next with
            | none => return [fragment.code]
            | some next =>
              let rest ← site.fragmentsFrom slot (id :: seen) next
              return fragment.code :: rest := by
  rw [fragmentsFrom]
  split
  · rfl
  · split
    · next absent => rw [absent]
    · next member found => exact found ▸ rfl

/-- A loop that comes to a new block asks for nothing, or for this block and then at most for what it
asks for from the next one on. -/
theorem asked_fragmentsFrom_cases {seen : List BlockId} {id : BlockId} (new : id ∉ seen) :
    let asked := (site.fragmentsFrom slot seen id).asked answer
    asked = [] ∨ asked = [id] ∨ ∃ next, site.workspace.next? id = some next ∧
      asked = id :: (site.fragmentsFrom slot (id :: seen) next).asked answer := by
  intro asked
  have asked_eq : asked = (site.fragmentsFrom slot seen id).asked answer := rfl
  rw [fragmentsFrom_eq, if_neg new] at asked_eq
  cases found : site.workspace.get? id with
  | none =>
      rw [found] at asked_eq
      exact .inl asked_eq
  | some member =>
      rw [found] at asked_eq
      simp only [asked_bind, asked_ofExcept, Rendering.run_ofExcept, List.nil_append] at asked_eq
      cases known : (site.moveTo id member).type with
      | error failure =>
          rw [known] at asked_eq
          exact .inl asked_eq
      | ok type =>
          rw [known] at asked_eq
          dsimp only at asked_eq
          split at asked_eq
          · exact .inl asked_eq
          · rw [asked_bind, asked_fragment, Rendering.run_fragment] at asked_eq
            cases heard : answer id with
            | error failure =>
                rw [heard] at asked_eq
                exact .inr (.inl asked_eq)
            | ok fragment =>
                rw [heard] at asked_eq
                dsimp only at asked_eq
                split at asked_eq
                · exact .inr (.inl asked_eq)
                · next next link =>
                    refine .inr (.inr ⟨next, by rw [Workspace.next?, found]; exact link, ?_⟩)
                    rw [asked_eq, asked_bind]
                    cases (site.fragmentsFrom slot (id :: seen) next).run answer <;> simp

/-- What a loop over a chain asks for is what a walk along the chain meets first. -/
theorem asked_fragmentsFrom (seen : List BlockId) (id : BlockId) :
    (site.fragmentsFrom slot seen id).asked answer <+: (site.workspace.walkFrom seen id).members := by
  induction seen, id using Workspace.walk_induction site.workspace with
  | again seen id passed =>
      rw [fragmentsFrom_eq, if_pos passed]
      exact List.nil_prefix
  | last seen id new none =>
      rw [Workspace.walkFrom_eq, if_neg new, none]
      rcases site.asked_fragmentsFrom_cases slot answer new with asked | asked | ⟨next, link, -⟩
      · rw [asked]
        exact List.nil_prefix
      · exact asked ▸ List.prefix_refl [id]
      · cases none.symm.trans link
  | step seen id next new link ih =>
      rw [Workspace.walkFrom_eq, if_neg new, link]
      rcases site.asked_fragmentsFrom_cases slot answer new with asked | asked | ⟨next', link', asked⟩
      · rw [asked]
        exact List.nil_prefix
      · rw [asked]
        exact List.prefix_append [id] _
      · cases link.symm.trans link'
        rw [asked]
        exact (List.prefix_cons_inj id).2 ih

/-- The loop over the chain in a slot asks for the first members of the chain, each of them once, and
a slot that holds no chain is not looped over. -/
theorem asked_fragments :
    ((site.fragments slot).asked answer).Nodup ∧
      ∀ id ∈ (site.fragments slot).asked answer, ∃ head,
        site.block.slots[slot]? = some (.chain head) ∧
          (site.fragments slot).asked answer <+: (site.workspace.walkChain head).members := by
  unfold fragments
  rw [asked_bind, asked_ofExcept, Rendering.run_ofExcept, List.nil_append]
  cases site.slotDecl slot with
  | error failure => simp
  | ok declaration =>
      dsimp only
      cases site.block.slots[slot]? with
      | none => cases declaration.required <;> simp
      | some content =>
          cases content with
          | single child => simp
          | chain head =>
              have first := site.asked_fragmentsFrom slot answer [] head
              have distinct := site.workspace.nodup_walkChain head
              exact ⟨distinct.sublist first.sublist, fun id hi => ⟨head, rfl, first⟩⟩

end Site

namespace Emitter

variable (e : Emitter) (w : Workspace)

/-- Emission comes to an end and leaves the render stack as it was. A call of the emitter, made with
any renderings waiting and any stack, comes back after finitely many steps with the same renderings
waiting, the same stack, and the outcome of `emitWithin`, be it a fragment or an error. At every step
until then the blocks that are being rendered inside each other since the call are distinct living
blocks that were not on the stack, hence no more than there are blocks, and they are what stands on
the stack above what was there; a call for a block on the stack is turned down at once. A loop over a
chain asks for no block twice. -/
theorem call_returns :
    (∀ waiting stack id, ∃ n,
      (e.step w)^[n] ⟨.call id, waiting, stack⟩ =
        ⟨.answer (e.emitWithin w stack id), waiting, stack⟩ ∧
      ∀ i ≤ n, ∃ inner,
        ((e.step w)^[i] ⟨.call id, waiting, stack⟩).path = inner ++ waiting.map Pending.id ∧
        ((e.step w)^[i] ⟨.call id, waiting, stack⟩).stack = inner ++ stack ∧
        inner.Nodup ∧ (∀ id ∈ inner, id ∉ stack ∧ ∃ block, w.get? id = some block) ∧
        inner.length ≤ w.size) ∧
    (∀ waiting stack id block, w.get? id = some block → id ∈ stack →
      e.step w ⟨.call id, waiting, stack⟩ = ⟨.answer (.error (.cyclic id)), waiting, stack⟩) ∧
    ∀ (site : Site) slot answer, ((site.fragments slot).asked answer).Nodup ∧
      ∀ id ∈ (site.fragments slot).asked answer, ∃ head,
        site.block.slots[slot]? = some (.chain head) ∧
          (site.fragments slot).asked answer <+: (site.workspace.walkChain head).members := by
  refine ⟨fun waiting stack id => ?_, fun waiting stack id block found met => ?_,
    fun site slot answer => site.asked_fragments slot answer⟩
  · obtain ⟨n, ends, inside⟩ := call_comes (e := e) (w := w) waiting stack id
    refine ⟨n, ends, fun i hi => ?_⟩
    obtain ⟨inner, path, stacked, distinct, fresh⟩ := inside i hi
    exact ⟨inner, path, stacked, distinct, fresh,
      length_le_size distinct fun id hi => (fresh id hi).2⟩
  · exact step_call_refused e (e.enter_of_mem found met)

/-- A negation that has been put into itself: its rendering asks for the block that is being rendered,
is turned down, and comes back with the error and an empty stack. -/
theorem call_returns_cyclic :
    let negation : Block :=
      { type := "logic_negate", fields := ∅, slots := Std.ExtTreeMap.insert ∅ "bool" (.single ⟨"b"⟩) }
    let w : Workspace :=
      { palette := .standard, blocks := Std.ExtTreeMap.insert ∅ ⟨"b"⟩ negation, roots := [⟨"b"⟩] }
    let e : Emitter := { palette := .standard }
    (∃ n, (e.step w)^[n] ⟨.call ⟨"b"⟩, [], []⟩ = ⟨.answer (.error (.cyclic ⟨"b"⟩)), [], []⟩) ∧
      w.get? ⟨"b"⟩ = some negation ∧ (⟨"b"⟩ : BlockId) ∈ [(⟨"b"⟩ : BlockId)] ∧
      e.step w ⟨.call ⟨"b"⟩, [], [⟨"b"⟩]⟩ = ⟨.answer (.error (.cyclic ⟨"b"⟩)), [], [⟨"b"⟩]⟩ := by
  intro negation w e
  have found : w.get? ⟨"b"⟩ = some negation := rfl
  have met : (⟨"b"⟩ : BlockId) ∈ [(⟨"b"⟩ : BlockId)] := List.mem_singleton_self _
  have emitted : e.emitWithin w [] ⟨"b"⟩ = .error (.cyclic ⟨"b"⟩) := by decide +kernel
  obtain ⟨returns, refused, -⟩ := call_returns e w
  obtain ⟨n, ends, -⟩ := returns [] [] ⟨"b"⟩
  exact ⟨⟨n, emitted ▸ ends⟩, found, met, refused [] [⟨"b"⟩] ⟨"b"⟩ negation found met⟩

end Emitter

end SolanaBlocks
