import SolanaBlocks.Emission.Emitter

/-!
# Documents

A document is the code of all roots in their order. An expression at the top level is written as a
statement of its own, and the document ends with exactly one line feed unless it is empty.
-/

namespace SolanaBlocks

/-- A fragment as it stands at the top level. -/
def Fragment.asRoot (fragment : Fragment) : String :=
  if fragment.tier.isSome then fragment.wrap Tier.loosest ++ ";\n" else fragment.code

/-- The document made of the code of the roots. -/
def assemble (parts : List String) : String :=
  let joined := Text.trimRight (String.join parts)
  if joined.isEmpty then "" else joined ++ "\n"

namespace Emitter

/-- The fragments of blocks, one after the other up to the first that fails, and that failure. -/
def renderRoots (e : Emitter) (w : Workspace) :
    List BlockId → List (BlockId × Fragment) × Option EmitError
  | [] => ([], none)
  | id :: rest =>
    match e.emit w id with
    | .error failure => ([], some failure)
    | .ok fragment =>
      let (rendered, failure) := e.renderRoots w rest
      ((id, fragment) :: rendered, failure)

/-- The code of one root. -/
def emitRoot (e : Emitter) (w : Workspace) (id : BlockId) : Except EmitError String :=
  (e.emit w id).map Fragment.asRoot

/-- The code of a workspace in one pass. -/
def emitDocument (e : Emitter) (w : Workspace) : Except EmitError String :=
  (w.roots.mapM (e.emitRoot w)).map assemble

/-- The failure that a pass over some roots ends with decides what their code is. -/
theorem mapM_emitRoot (e : Emitter) (w : Workspace) (ids : List BlockId) :
    ids.mapM (e.emitRoot w) =
      match e.renderRoots w ids with
      | (_, some failure) => .error failure
      | (rendered, none) => .ok (rendered.map fun (_, fragment) => fragment.asRoot) := by
  induction ids with
  | nil => rfl
  | cons id rest ih =>
    rw [List.mapM_cons, ih, renderRoots, emitRoot]
    cases e.emit w id with
    | error failure => rfl
    | ok fragment => rcases e.renderRoots w rest with ⟨rendered, _ | failure⟩ <;> rfl

end Emitter

end SolanaBlocks
