import SolanaBlocks.Emission.Document
import SolanaBlocks.Proofs.Emission.Passing

/-!
# Chains are emitted member by member

The code in a chain slot is the code of the members, each as it is by itself, in the order in which a
walk meets them. A chain that runs into itself or into a block that is being rendered has no code. If
every member ends its last line, the body made of them is indented member by member.
-/

namespace SolanaBlocks

/-! ## Lines -/

namespace Text

/-- A text of whole lines and the same text with `unit` before each line that is not blank. -/
inductive Indents (unit : List Char) : List Char → List Char → Prop
  | nil : Indents unit [] []
  | line (line : List Char) {rest rest' : List Char} (whole : '\n' ∉ line)
      (later : Indents unit rest rest') :
    Indents unit (line ++ '\n' :: rest)
      ((if line.all isBlank then line else unit ++ line) ++ '\n' :: rest')

theorem lines_line {line : List Char} (whole : '\n' ∉ line) (rest : List Char) :
    lines (line ++ '\n' :: rest) = (line ++ ['\n']) :: lines rest := by
  induction line with
  | nil => simp [lines]
  | cons c line ih =>
      have other : c ≠ '\n' := fun same => whole (same ▸ List.mem_cons_self)
      rw [List.cons_append, lines, if_neg other, ih fun there => whole (List.mem_cons_of_mem c there)]
      rfl

theorem indentLine_line (unit line : List Char) :
    indentLine unit (line ++ ['\n']) =
      (if line.all isBlank then line else unit ++ line) ++ ['\n'] := by
  have feed : isBlank '\n' = true := by decide
  rw [indentLine, List.all_append]
  cases blank : line.all isBlank <;> simp [feed]

/-- Indentation treats whole lines apart from what follows them. -/
theorem Indents.append {unit cs out : List Char} (indents : Indents unit cs out) (rest : List Char) :
    (lines (cs ++ rest)).flatMap (indentLine unit) =
      out ++ (lines rest).flatMap (indentLine unit) := by
  induction indents with
  | nil => rfl
  | line line whole later ih =>
      rw [List.append_assoc, List.cons_append, lines_line whole, List.flatMap_cons, indentLine_line, ih]
      simp

/-- A text that does not break off in the middle of a line. -/
def EndsLine (cs : List Char) : Prop := ∀ c, cs.getLast? = some c → c = '\n'

theorem endsLine_nil : EndsLine [] := by
  simp [EndsLine]

theorem exists_indents (unit : List Char) {cs : List Char} (ended : EndsLine cs) :
    ∃ out, Indents unit cs out := by
  induction cs with
  | nil => exact ⟨[], .nil⟩
  | cons c cs ih =>
      obtain ⟨out, later⟩ := ih fun last there => ended last (by simp [List.getLast?_cons, there])
      by_cases feed : c = '\n'
      · subst feed
        exact ⟨_, .line [] List.not_mem_nil later⟩
      · cases later with
        | nil => exact absurd (ended c rfl) feed
        | line line whole later =>
            have whole' : '\n' ∉ c :: line := by simp [whole, Ne.symm feed]
            exact ⟨_, .line (c :: line) whole' later⟩

theorem EndsLine.indents (unit : String) {code : String} (ended : EndsLine code.toList) :
    Indents unit.toList code.toList (indent unit code).toList := by
  obtain ⟨out, indents⟩ := exists_indents unit.toList ended
  have same := indents.append []
  simp only [List.append_nil, lines, List.flatMap_nil] at same
  rwa [toList_indent, same]

theorem endsLine_of_getLast? {cs : List Char} (ended : cs.getLast? = some '\n') : EndsLine cs :=
  fun _ last => Option.some.inj (last.symm.trans ended)

theorem indents_indent (unit : String) {code : String} (ended : code.toList.getLast? = some '\n') :
    Indents unit.toList code.toList (indent unit code).toList :=
  (endsLine_of_getLast? ended).indents unit

/-- Texts of whole lines are indented apart from what follows them. -/
theorem indent_append {unit whole : String} (ended : EndsLine whole.toList) (rest : String) :
    indent unit (whole ++ rest) = indent unit whole ++ indent unit rest := by
  apply String.toList_inj.1
  rw [toList_indent, String.toList_append, (ended.indents unit).append, String.toList_append,
    toList_indent unit rest]

/-- Texts of whole lines are indented one by one. -/
theorem indent_join (unit : String) {codes : List String}
    (ended : ∀ code ∈ codes, code.toList.getLast? = some '\n') :
    indent unit (String.join codes) = String.join (codes.map (indent unit)) := by
  induction codes with
  | nil => rfl
  | cons code codes ih =>
      obtain ⟨here, later⟩ := List.forall_mem_cons.1 ended
      rw [List.map_cons, String.join_cons, String.join_cons,
        indent_append (endsLine_of_getLast? here), ih later]

end Text

/-! ## Loops over a chain -/

namespace Site

variable {site : Site} {answer : BlockId → Except EmitError Fragment} {slot : String}
  {codes : List String}

/-- A loop over a chain that succeeds has come to a new block, and what it has been answered about this
block is its first code; the rest comes from the next block on. -/
theorem fragmentsFrom_eq_ok {seen : List BlockId} {id : BlockId}
    (ran : (site.fragmentsFrom slot seen id).run answer = .ok codes) :
    id ∉ seen ∧ ∃ fragment, answer id = .ok fragment ∧
      ((site.workspace.next? id = none ∧ codes = [fragment.code]) ∨
        ∃ next rest, site.workspace.next? id = some next ∧
          (site.fragmentsFrom slot (id :: seen) next).run answer = .ok rest ∧
          codes = fragment.code :: rest) := by
  rw [fragmentsFrom_eq] at ran
  split at ran
  · cases ran
  · next new =>
      refine ⟨new, ?_⟩
      split at ran
      · cases ran
      · next member found =>
          obtain ⟨type, -, ran⟩ := (Rendering.run_bind_eq_ok_iff _).1 ran
          split at ran
          · cases ran
          obtain ⟨fragment, answered, ran⟩ := (Rendering.run_bind_eq_ok_iff _).1 ran
          refine ⟨fragment, answered, ?_⟩
          rw [Workspace.next?, found, Option.bind_some]
          split at ran
          · next last =>
              cases ran
              exact .inl ⟨last, rfl⟩
          · next next link =>
              obtain ⟨rest, later, ran⟩ := (Rendering.run_bind_eq_ok_iff _).1 ran
              cases ran
              exact .inr ⟨next, rest, link, later, rfl⟩

/-- Its codes are those of the members of the walk, which meets nothing twice. -/
theorem codes_of_fragmentsFrom {seen : List BlockId} {id : BlockId}
    (ran : (site.fragmentsFrom slot seen id).run answer = .ok codes) :
    (site.workspace.walkFrom seen id).revisited = none ∧
      (site.workspace.walkFrom seen id).members.Forall₂
        (fun member code => (answer member).map Fragment.code = .ok code) codes := by
  induction seen, id using Workspace.walk_induction site.workspace generalizing codes with
  | again seen id passed => exact absurd passed (fragmentsFrom_eq_ok ran).1
  | last seen id new none =>
      rw [Workspace.walkFrom_eq, if_neg new, none]
      obtain ⟨-, fragment, answered, ⟨-, rfl⟩ | ⟨next, _, link, -⟩⟩ := fragmentsFrom_eq_ok ran
      · exact ⟨rfl, .cons (by rw [answered]; rfl) .nil⟩
      · cases none.symm.trans link
  | step seen id next new link ih =>
      rw [Workspace.walkFrom_eq, if_neg new, link]
      obtain ⟨-, fragment, answered, ⟨none, -⟩ | ⟨next', rest, link', later, rfl⟩⟩ :=
        fragmentsFrom_eq_ok ran
      · cases none.symm.trans link
      · cases link.symm.trans link'
        obtain ⟨ended, codes⟩ := ih later
        exact ⟨ended, .cons (by rw [answered]; rfl) codes⟩

theorem fragments_eq_ok (ran : (site.fragments slot).run answer = .ok codes) :
    (site.block.slots[slot]? = none ∧ codes = []) ∨
      ∃ head, site.block.slots[slot]? = some (.chain head) ∧
        (site.fragmentsFrom slot [] head).run answer = .ok codes := by
  obtain ⟨declaration, -, ran⟩ := (Rendering.run_bind_eq_ok_iff _).1 ran
  split at ran
  · next empty =>
      split at ran
      · cases ran
      · cases ran
        exact .inl ⟨empty, rfl⟩
  · cases ran
  · next head held => exact .inr ⟨head, held, ran⟩

theorem run_statements (ran : (site.fragments slot).run answer = .ok codes) :
    (site.statements slot).run answer = .ok (Text.indent site.unit (String.join codes)) := by
  rw [statements, flatStatements]
  simp [Rendering.run_bind, ran, indent]

end Site

/-! ## Emission -/

namespace Emitter

variable {e : Emitter} {w : Workspace} {open_ : List BlockId}

/-- What a block is emitted as while others are being rendered is what it is emitted as by itself, and
it is none of these others. -/
theorem emit_of_emitWithin (passes : e.PassesErrors) {id : BlockId} {fragment : Fragment}
    (emitted : e.emitWithin w open_ id = .ok fragment) :
    id ∉ open_ ∧ e.emit w id = .ok fragment := by
  obtain ⟨-, -, -, -, -, closed, -⟩ := emitWithin_eq_ok emitted
  refine ⟨closed, ?_⟩
  obtain same | ⟨_, -, failed⟩ := emitWithin_eq_or_cyclic passes w (List.nil_subset open_) id
  · exact same.symm.trans emitted
  · cases failed.symm.trans emitted

/-- A chain with code is a chain of blocks that have code by themselves. -/
theorem alone_of_fragmentsFrom (passes : e.PassesErrors) (site : Site) {slot : String}
    {head : BlockId} {codes : List String}
    (ran : (site.fragmentsFrom slot [] head).run (e.emitWithin site.workspace open_) = .ok codes) :
    (site.workspace.walkChain head).revisited = none ∧
      (∀ member ∈ (site.workspace.walkChain head).members, member ∉ open_) ∧
        (site.workspace.walkChain head).members.Forall₂
          (fun member code => (e.emit site.workspace member).map Fragment.code = .ok code) codes := by
  obtain ⟨once, codes⟩ := Site.codes_of_fragmentsFrom ran
  refine ⟨once, (List.forall₂_and_left _ _).1 (codes.imp fun member code answered => ?_)⟩
  obtain ⟨fragment, emitted, rfl⟩ := except_map_eq_ok_iff.1 answered
  obtain ⟨closed, alone⟩ := emit_of_emitWithin passes emitted
  exact ⟨closed, by rw [alone]; rfl⟩

/-- Chains are emitted member by member, in order. If the renderers pass errors on, then wherever a
slot is rendered and whatever is being rendered around it:

* if there is code for the chain, a walk along the chain meets no block twice, and the codes are what
  its members are emitted as by themselves;
* a chain that runs into itself or into a block that is being rendered has no code;
* if all members end with a line feed, the body is made of the codes of the members, with one unit
  before each of their lines that is not blank. -/
theorem fragments_compose (passes : e.PassesErrors) (w : Workspace) (open_ : List BlockId)
    (id : BlockId) (block : Block) (slot : String) :
    let site : Site := ⟨w, e.palette, e.unit, id, block⟩
    let outcome := (site.fragments slot).run (e.emitWithin w open_)
    (∀ codes, outcome = .ok codes →
      (block.slots[slot]? = none ∧ codes = []) ∨
        ∃ head, block.slots[slot]? = some (.chain head) ∧ (w.walkChain head).revisited = none ∧
          (w.walkChain head).members.Forall₂
            (fun member code => (e.emit w member).map Fragment.code = .ok code) codes) ∧
    (∀ head, block.slots[slot]? = some (.chain head) →
      (w.walkChain head).revisited.isSome ∨ (∃ member ∈ (w.walkChain head).members, member ∈ open_) →
        ∃ failure, outcome = .error failure) ∧
    ∀ codes, outcome = .ok codes → (∀ code ∈ codes, code.toList.getLast? = some '\n') →
      ∃ bodies, codes.Forall₂
          (fun code body => Text.Indents e.unit.toList code.toList body.toList) bodies ∧
        (site.statements slot).run (e.emitWithin w open_) = .ok (String.join bodies) := by
  intro site outcome
  refine ⟨fun codes ran => ?_, fun head held stuck => ?_, fun codes ran ended => ?_⟩
  · refine (Site.fragments_eq_ok ran).imp_right fun ⟨head, held, ran⟩ => ?_
    obtain ⟨once, -, codes⟩ := alone_of_fragmentsFrom passes site ran
    exact ⟨head, held, once, codes⟩
  · cases result : outcome with
    | error failure => exact ⟨failure, rfl⟩
    | ok codes =>
        obtain ⟨empty, -⟩ | ⟨_, held', ran⟩ := Site.fragments_eq_ok result
        · cases held.symm.trans empty
        · cases held.symm.trans held'
          obtain ⟨once, closed, -⟩ := alone_of_fragmentsFrom passes site ran
          obtain again | ⟨member, there, met⟩ := stuck
          · exact absurd once (Option.isSome_iff_ne_none.1 again)
          · exact absurd met (closed member there)
  · refine ⟨codes.map (Text.indent e.unit), ?_, ?_⟩
    · rw [List.forall₂_map_right_iff, List.forall₂_same]
      exact fun code there => Text.indents_indent e.unit (ended code there)
    · rw [Site.run_statements ran, Text.indent_join _ ended]

/-- The body of a handler that is being rendered, with an error and a loop in it. -/
theorem fragments_compose_handler :
    let seat : Seat := ⟨⟨"h"⟩, "body"⟩
    let handler : Block :=
      { type := "process_instruction", fields := ∅
        slots := Std.ExtTreeMap.insert ∅ "body" (.chain ⟨"a"⟩) }
    let error : Block := { type := "program_error", fields := ∅, next := some ⟨"b"⟩, seat := seat }
    let loop : Block := { type := "controls_while", fields := ∅, seat := seat }
    let w : Workspace :=
      { palette := .standard
        blocks := (Std.ExtTreeMap.insert ∅ ⟨"h"⟩ handler).insert ⟨"a"⟩ error |>.insert ⟨"b"⟩ loop
        roots := [⟨"h"⟩] }
    let e : Emitter := { palette := .standard }
    let codes := ["return Err(ProgramError::InvalidInstructionData);\n", "while false \x7b\n\x7d\n"]
    let site : Site := ⟨w, .standard, e.unit, ⟨"h"⟩, handler⟩
    e.PassesErrors ∧ (w.walkChain ⟨"a"⟩).revisited = none ∧
      (w.walkChain ⟨"a"⟩).members.Forall₂
        (fun member code => (e.emit w member).map Fragment.code = .ok code) codes ∧
      ∃ bodies, codes.Forall₂
          (fun code body => Text.Indents e.unit.toList code.toList body.toList) bodies ∧
        (site.statements "body").run (e.emitWithin w [⟨"h"⟩]) = .ok (String.join bodies) := by
  intro seat handler error loop w e codes site
  have passes : e.PassesErrors := passesErrors_of_standard _ _
  have ran : (site.fragments "body").run (e.emitWithin w [⟨"h"⟩]) = .ok codes := by decide +kernel
  have held : handler.slots["body"]? = some (.chain ⟨"a"⟩) := by decide +kernel
  obtain ⟨ordered, -, indented⟩ := fragments_compose passes w [⟨"h"⟩] ⟨"h"⟩ handler "body"
  obtain ⟨empty, -⟩ | ⟨head, held', once, alone⟩ := ordered codes ran
  · cases held.symm.trans empty
  · cases held.symm.trans held'
    exact ⟨passes, once, alone, indented codes ran (by decide)⟩

end Emitter

end SolanaBlocks
