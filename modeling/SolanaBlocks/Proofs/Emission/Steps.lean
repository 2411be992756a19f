import SolanaBlocks.Emission.Emitter

/-!
# What a successful emission has gone through

A rendering that succeeds has succeeded in each of its steps. From this comes what is known of a
field that was read, of a slot that was rendered, and of a block that was emitted.
-/

namespace SolanaBlocks

theorem except_bind_eq_ok_iff {ε α β : Type} {x : Except ε α} {f : α → Except ε β} {b : β} :
    (x >>= f) = .ok b ↔ ∃ a, x = .ok a ∧ f a = .ok b := by
  cases x <;> simp [bind, Except.bind]

theorem except_map_eq_ok_iff {ε α β : Type} {x : Except ε α} {f : α → β} {b : β} :
    x.map f = .ok b ↔ ∃ a, x = .ok a ∧ f a = b := by
  cases x <;> simp [Except.map]

theorem exists_except_map_eq_ok_iff {ε α β : Type} {x : Except ε α} {f : α → β} :
    (∃ b, x.map f = .ok b) ↔ ∃ a, x = .ok a := by
  cases x <;> simp [Except.map]

namespace Rendering

variable {α β : Type} (answer : BlockId → Except EmitError Fragment)

@[simp] theorem run_ofExcept (outcome : Except EmitError α) :
    (ofExcept outcome).run answer = outcome := rfl

@[simp] theorem run_fail (e : EmitError) : (fail e : Rendering α).run answer = .error e := rfl

@[simp] theorem run_fragment (block : BlockId) : (fragment block).run answer = answer block := rfl

theorem run_bind_eq_ok_iff {r : Rendering α} {f : α → Rendering β} {b : β} :
    (r >>= f).run answer = .ok b ↔ ∃ a, r.run answer = .ok a ∧ (f a).run answer = .ok b := by
  rw [run_bind]
  cases r.run answer with
  | error e => simp
  | ok a => simp

end Rendering

namespace Site

open Rendering (run_bind_eq_ok_iff run_ofExcept)

variable {site : Site}

theorem fieldDecl_eq_ok_iff {name : String} {field : FieldDecl} :
    site.fieldDecl name = .ok field ↔
      ∃ type, site.palette.get? site.block.type = some type ∧ type.field? name = some field := by
  unfold fieldDecl Site.type
  cases site.palette.get? site.block.type with
  | none => simp [except_bind_eq_ok_iff]
  | some type =>
      simp only [except_bind_eq_ok_iff, Except.ok.injEq, exists_eq_left', Option.some.injEq]
      cases type.field? name <;> simp [throw, throwThe, MonadExceptOf.throw, pure, Except.pure]

theorem slotDecl_eq_ok_iff {slot : String} {declaration : SlotDecl} :
    site.slotDecl slot = .ok declaration ↔
      ∃ type, site.palette.get? site.block.type = some type ∧
        type.slot? slot = some declaration := by
  unfold slotDecl Site.type
  cases site.palette.get? site.block.type with
  | none => simp [except_bind_eq_ok_iff]
  | some type =>
      simp only [except_bind_eq_ok_iff, Except.ok.injEq, exists_eq_left', Option.some.injEq]
      cases type.slot? slot <;> simp [throw, throwThe, MonadExceptOf.throw, pure, Except.pure]

theorem choice_eq_ok {name raw : String} (read : site.choice name = .ok raw) :
    ∃ field, site.fieldDecl name = .ok field ∧ raw = (site.fieldValue field).display ∧
      ∀ options, field.options? = some options → raw ∈ options.map Choice.value := by
  obtain ⟨field, declared, read⟩ := except_bind_eq_ok_iff.1 read
  refine ⟨field, declared, ?_⟩
  dsimp only at read
  split at read
  · next open_ =>
      cases read
      refine ⟨rfl, fun options listed => ?_⟩
      rw [open_] at listed
      cases listed
  · next options listed =>
      split at read
      · cases read
      split at read
      · next member =>
          cases read
          refine ⟨rfl, fun others same => ?_⟩
          cases listed.symm.trans same
          simpa using member
      · cases read

theorem text_eq_ok {name code : String} (read : site.text name = .ok code) :
    ∃ field, site.fieldDecl name = .ok field ∧
      if field.identifier then
        code = Text.trim (site.fieldValue field).display ∧ Text.isIdentifier code
      else code = (site.fieldValue field).display := by
  obtain ⟨field, declared, read⟩ := except_bind_eq_ok_iff.1 read
  refine ⟨field, declared, ?_⟩
  dsimp only at read
  split at read
  · cases read
  split at read
  · next checked =>
      rw [if_pos checked]
      split at read
      · next name => cases read; exact ⟨rfl, name⟩
      · cases read
  · next free =>
      rw [if_neg free]
      cases read
      rfl

theorem number_eq_ok {name : String} {number : BinaryNumber} (read : site.number name = .ok number) :
    ∃ field, site.fieldDecl name = .ok field ∧ number.isFinite ∧
      ((site.block.fields[name]?).getD field.default).number?.map BinaryNumber.ofFloat =
        some number := by
  obtain ⟨field, declared, read⟩ := except_bind_eq_ok_iff.1 read
  refine ⟨field, declared, ?_⟩
  dsimp only at read
  split at read
  · next found => cases read; exact ⟨rfl, found⟩
  · cases read

/-- A text field that need not be an identifier is read as it is. -/
theorem text_of_free {name : String} {field : FieldDecl} (declared : site.fieldDecl name = .ok field)
    (free : field.identifier = false)
    (filled : field.required → Text.trim (site.fieldValue field).display ≠ "") :
    site.text name = .ok (site.fieldValue field).display := by
  unfold text
  simp only [declared, bind, Except.bind, free, Bool.false_eq_true, if_false]
  split
  · next missing =>
      obtain ⟨required, blank⟩ := Bool.and_eq_true_iff.1 missing
      exact absurd (String.isEmpty_iff.1 blank) (filled required)
  · rfl

theorem number_of_finite {name : String} {field : FieldDecl} {number : BinaryNumber}
    (declared : site.fieldDecl name = .ok field) (finite : number.isFinite)
    (held : ((site.block.fields[name]?).getD field.default).number?.map BinaryNumber.ofFloat =
      some number) :
    site.number name = .ok number := by
  unfold Site.number
  simp only [declared, bind, Except.bind, held]
  cases number with
  | finite negative significand exponent => rfl
  | _ => cases finite

/-- What the code of a slot is: that of a block that stands for a value, or the code that the slot
declares for the case that it is empty. -/
theorem value_run_eq_ok {slot code : String} {required : Tier}
    {answer : BlockId → Except EmitError Fragment}
    (rendered : (site.value slot required).run answer = .ok code) :
    ∃ declaration, site.slotDecl slot = .ok declaration ∧
      ((site.block.slots[slot]? = none ∧ declaration.defaultCode = some code) ∨
        ∃ child block type fragment, site.block.slots[slot]? = some (.single child) ∧
          site.workspace.get? child = some block ∧
          site.palette.get? block.type = some type ∧ type.producesValue ∧
          answer child = .ok fragment ∧ code = fragment.wrap required) := by
  obtain ⟨content, rendered, finished⟩ := (run_bind_eq_ok_iff answer).1 rendered
  obtain ⟨declaration, declared, rendered⟩ := (run_bind_eq_ok_iff answer).1 rendered
  rw [run_ofExcept] at declared
  refine ⟨declaration, declared, ?_⟩
  split at rendered
  · next empty =>
      split at rendered
      · cases rendered
      cases rendered
      obtain ⟨declaration', declared', finished⟩ := (run_bind_eq_ok_iff answer).1 finished
      rw [run_ofExcept, declared] at declared'
      cases declared'
      split at finished
      · next stated => cases finished; exact .inl ⟨empty, stated⟩
      · cases finished
  · cases rendered
  · next child held =>
      obtain ⟨⟨block, type⟩, resolved, rendered⟩ := (run_bind_eq_ok_iff answer).1 rendered
      rw [run_ofExcept] at resolved
      dsimp only at rendered
      split at rendered
      · next produces =>
          obtain ⟨fragment, answered, rendered⟩ := (run_bind_eq_ok_iff answer).1 rendered
          cases rendered
          cases finished
          refine .inr ⟨child, block, type, fragment, held, ?_⟩
          unfold resolve at resolved
          split at resolved
          · cases resolved
          · next found =>
              unfold Site.type at resolved
              split at resolved
              · cases resolved
              · next known =>
                  cases resolved
                  exact ⟨found, known, produces, answered, rfl⟩
      · cases rendered

end Site

namespace Emitter

variable {e : Emitter} (w : Workspace)

/-- Emission as a plain case distinction. -/
theorem emitWithin_eq (open_ : List BlockId) (id : BlockId) :
    e.emitWithin w open_ id =
      match w.get? id with
      | none => .error (.dangling id)
      | some block =>
        if id ∈ open_ then .error (.cyclic id)
        else
          match e.palette.get? block.type with
          | none => .error (.unknownType id block.type)
          | some type =>
            match e.renderer? block.type with
            | none => .error (.noRenderer id block.type)
            | some renderer =>
              if isPlaced w id type.placement then
                ((renderer ⟨w, e.palette, e.unit, id, block⟩).run
                  (e.emitWithin w (id :: open_))).map (settleTier type)
              else .error (.misplaced id block.type (.against type.placement)) := by
  rw [emitWithin]
  split
  · next none => rw [none]
  · next block found =>
      rw [found]
      rfl

variable {w}

theorem emitWithin_eq_ok {open_ : List BlockId} {id : BlockId} {fragment : Fragment}
    (emitted : e.emitWithin w open_ id = .ok fragment) :
    ∃ block type renderer raw, w.get? id = some block ∧ id ∉ open_ ∧
      e.palette.get? block.type = some type ∧ e.renderer? block.type = some renderer ∧
      (renderer ⟨w, e.palette, e.unit, id, block⟩).run (e.emitWithin w (id :: open_)) = .ok raw ∧
      fragment = settleTier type raw := by
  rw [emitWithin_eq] at emitted
  split at emitted
  · cases emitted
  · next block found =>
      split at emitted
      · cases emitted
      · next closed =>
          split at emitted
          · cases emitted
          · next type known =>
              split at emitted
              · cases emitted
              · next renderer rendered =>
                  split at emitted
                  · obtain ⟨raw, ran, rfl⟩ := except_map_eq_ok_iff.1 emitted
                    exact ⟨block, type, renderer, raw, found, closed, known, rendered, ran, rfl⟩
                  · cases emitted

/-- A block that has passed the checks all blocks share is what its renderer makes of it. -/
theorem emitWithin_of_run {open_ : List BlockId} {id : BlockId} {block : Block} {type : BlockType}
    {renderer : Renderer} {outcome : Except EmitError Fragment} (found : w.get? id = some block)
    (closed : id ∉ open_) (known : e.palette.get? block.type = some type)
    (rendered : e.renderer? block.type = some renderer) (placed : isPlaced w id type.placement)
    (ran : (renderer ⟨w, e.palette, e.unit, id, block⟩).run (e.emitWithin w (id :: open_)) =
      outcome) :
    e.emitWithin w open_ id = outcome.map (settleTier type) := by
  rw [emitWithin_eq, found]
  simp only [closed, known, rendered, placed, if_false, if_true, ran]

end Emitter

end SolanaBlocks
