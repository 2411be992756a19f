import SolanaBlocks.Emission.Error
import SolanaBlocks.Emission.Fragment

/-!
# Renderings

To render a block means to ask for the fragments of other blocks, one after the other, and to put
an answer together. A rendering is this conversation as a value: it is finished, or it waits for one
more fragment and says how to go on with it. What answers the requests is left open, so the same
rendering can be run for its code or for a record of what it asked.
-/

namespace SolanaBlocks

/-- A rendering that ends in an `α` or an error. -/
inductive Rendering (α : Type) : Type where
  | done (outcome : Except EmitError α)
  | request (block : BlockId) (resume : Except EmitError Fragment → Rendering α)

namespace Rendering

variable {α β : Type}

/-- One rendering after another; an error ends the whole. -/
def bind : Rendering α → (α → Rendering β) → Rendering β
  | done (.ok a), f => f a
  | done (.error e), _ => done (.error e)
  | request block resume, f => request block fun answer => (resume answer).bind f

instance : Monad Rendering where
  pure a := done (.ok a)
  bind := bind

/-- A rendering that fails. -/
def fail (e : EmitError) : Rendering α := done (.error e)

/-- A result that needs no other block. -/
def ofExcept (outcome : Except EmitError α) : Rendering α := done outcome

/-- Asks for the fragment of a block. -/
def fragment (block : BlockId) : Rendering Fragment := request block done

/-- Runs a rendering with answers to its requests. -/
def run (answer : BlockId → Except EmitError Fragment) : Rendering α → Except EmitError α
  | done outcome => outcome
  | request block resume => (resume (answer block)).run answer

@[simp] theorem run_done (answer : BlockId → Except EmitError Fragment)
    (outcome : Except EmitError α) : (done outcome).run answer = outcome := rfl

@[simp] theorem run_request (answer : BlockId → Except EmitError Fragment) (block : BlockId)
    (resume : Except EmitError Fragment → Rendering α) :
    (request block resume).run answer = (resume (answer block)).run answer := rfl

@[simp] theorem run_pure (answer : BlockId → Except EmitError Fragment) (a : α) :
    (pure a : Rendering α).run answer = .ok a := rfl

theorem run_bind (answer : BlockId → Except EmitError Fragment) (r : Rendering α)
    (f : α → Rendering β) :
    (r >>= f).run answer =
      match r.run answer with
      | .ok a => (f a).run answer
      | .error e => .error e := by
  change (r.bind f).run answer = _
  induction r with
  | done outcome => cases outcome <;> rfl
  | request block resume ih => exact ih (answer block)

end Rendering

end SolanaBlocks
