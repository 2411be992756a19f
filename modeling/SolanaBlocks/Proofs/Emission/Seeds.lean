import SolanaBlocks.Proofs.Emission.Checks
import SolanaBlocks.Proofs.Grammar.Escapes
import SolanaBlocks.Proofs.Precedence.Expressions

/-!
# Quoted seeds

A seed between quotes is meant to become a byte string. With double quotes around it the text is taken
over as it is, and with single quotes the double quotes in it get a backslash. What the text itself
escapes is not looked at, so the outcome is a byte string exactly if the text is a proper content to
begin with. A single quote that is not closed makes the whole the name of a number.
-/

namespace SolanaBlocks

open Grammar Renderers

/-- The value of a seed without the blanks around it. -/
def Block.seed (block : Block) : String :=
  Text.trim (block.fieldValue "value" (.text "seed_value")).display

/-- Text between quotes with only complete escapes, where `allowed` says what may stand for itself.
Between single quotes a double quote does so too, and it has no escape. -/
def WellQuoted (allowed : Char → Prop) (text : List Char) : Prop :=
  (∃ inner, text = '\'' :: (inner ++ ['\'']) ∧
    Escaped (fun code => ByteEscape code ∧ code ≠ ['"']) (fun c => allowed c ∨ c = '"') inner) ∨
  ∃ inner, text = '"' :: (inner ++ ['"']) ∧
    Escaped ByteEscape (fun c => allowed c ∧ c ≠ '"') inner

section

variable {allowed : Char → Prop} {text content inner : List Char}

theorem isByteString_iff :
    IsByteString allowed ('b' :: '"' :: (content ++ ['"'])) ↔
      Escaped ByteEscape (fun c => allowed c ∧ c ≠ '"') content := by
  simp [IsByteString]

theorem wellQuoted_single :
    WellQuoted allowed ('\'' :: (inner ++ ['\''])) ↔
      Escaped (fun code => ByteEscape code ∧ code ≠ ['"']) (fun c => allowed c ∨ c = '"') inner := by
  simp [WellQuoted]

theorem wellQuoted_double :
    WellQuoted allowed ('"' :: (inner ++ ['"'])) ↔
      Escaped ByteEscape (fun c => allowed c ∧ c ≠ '"') inner := by
  simp [WellQuoted]

/-- The content of a quoted seed. -/
theorem Renderers.SeedForm.of_eq_quoted (form : SeedForm.of text = .quoted content) :
    (∃ inner, text = '\'' :: (inner ++ ['\'']) ∧ content = escapeQuotes inner) ∨
      text = '"' :: (content ++ ['"']) := by
  unfold SeedForm.of at form
  split at form
  · next rest =>
      split at form
      · next closed =>
          cases form
          have whole := List.dropLast_append_getLast? '\'' closed
          exact .inl ⟨rest.dropLast, by rw [whole], rfl⟩
      · cases form
  · next rest =>
      split at form
      · cases form
      · next before _ shape =>
          cases form
          have whole := congrArg List.reverse shape
          rw [List.reverse_reverse, List.reverse_cons] at whole
          exact .inr (by rw [whole])
      · cases form
  · cases form

/-- What is taken for a name does not stand between quotes. -/
theorem not_wellQuoted_of_binding (form : SeedForm.of text = .binding) :
    ¬ WellQuoted allowed text := by
  unfold SeedForm.of at form
  rintro (⟨inner, rfl, -⟩ | ⟨inner, rfl, -⟩)
  · simp at form
  · split at form
    · next same => exact absurd same (by simp)
    · split at form <;> cases form
    · next double => exact double _ rfl

end

namespace Emitter

variable {w : Workspace} {width : Nat} {open_ : List BlockId} {id : BlockId} {block : Block}

theorem emitWithin_seed (found : w.get? id = some block) (closed : id ∉ open_)
    (type : block.type = "pda_seed") (placed : w.hasAncestorOfType id "create_pda")
    (visible : block.seed ≠ "") :
    (standard width).emitWithin w open_ id =
      match SeedForm.of block.seed.toList with
      | .quoted content => .ok { code := "b\"" ++ String.ofList content ++ "\"" }
      | .unclosed => .error (.invalidField id "value" block.seed .unclosedSeed)
      | .binding => .ok { code := "&" ++ block.seed ++ ".to_le_bytes()" } := by
  obtain ⟨declaration, known, below, states, field⟩ :
      ∃ declaration, Palette.standard.get? block.type = some declaration ∧
        declaration.placement = .within ["create_pda"] ∧ declaration.producesValue = false ∧
        declaration.field? "value" =
          some { FieldDecl.ofText "value" "seed_value" with required := true } := by
    rw [type]
    exact ⟨_, rfl, rfl, rfl, rfl⟩
  have rendered : (standard width).renderer? block.type = some pdaSeed := by
    rw [type]
    rfl
  let site : Site := ⟨w, .standard, (standard width).unit, id, block⟩
  have read : site.text "value" = .ok (block.fieldValue "value" (.text "seed_value")).display :=
    Site.text_of_free (Site.fieldDecl_eq_ok_iff.2 ⟨declaration, known, field⟩) rfl fun _ => visible
  have ran : (pdaSeed site).run ((standard width).emitWithin w (id :: open_)) =
      match SeedForm.of block.seed.toList with
      | .quoted content => .ok { code := "b\"" ++ String.ofList content ++ "\"" }
      | .unclosed => .error (.invalidField id "value" block.seed .unclosedSeed)
      | .binding => .ok { code := "&" ++ block.seed ++ ".to_le_bytes()" } := by
    rw [pdaSeed, Rendering.run_bind, Rendering.run_ofExcept, read]
    dsimp only
    rw [← Block.seed]
    cases SeedForm.of block.seed.toList <;> rfl
  rw [emitWithin_of_run found closed known rendered (by rw [below]; simp [isPlaced, placed]) ran]
  cases SeedForm.of block.seed.toList <;> simp [Except.map, settleTier, states]

/-- A quoted seed without its closing double quote is an error, and any other is a byte string exactly
if the text between its quotes is a proper content. -/
theorem seed_emitWithin (w : Workspace) (width : Nat) (open_ : List BlockId) (id : BlockId)
    (block : Block) (found : w.get? id = some block) (closed : id ∉ open_)
    (type : block.type = "pda_seed") (placed : w.hasAncestorOfType id "create_pda")
    (quoted : block.seed.toList.head? = some '\'' ∨ block.seed.toList.head? = some '"') :
    (¬ ClosesQuote block.seed.toList → (standard width).emitWithin w open_ id =
      .error (.invalidField id "value" block.seed .unclosedSeed)) ∧
    (ClosesQuote block.seed.toList →
      ∃ code, (standard width).emitWithin w open_ id = .ok ⟨code, none⟩ ∧
        ∀ allowed, IsByteString allowed code.toList ↔ WellQuoted allowed block.seed.toList) := by
  have visible : block.seed ≠ "" := by
    intro nothing
    rw [nothing] at quoted
    rcases quoted with quoted | quoted <;> cases quoted
  rw [emitWithin_seed found closed type placed visible, closesQuote_iff]
  cases form : SeedForm.of block.seed.toList with
  | unclosed => exact ⟨fun _ => rfl, fun other => absurd rfl other⟩
  | quoted content =>
      refine ⟨fun unclosed => absurd (by simp) unclosed, fun _ => ⟨_, rfl, fun allowed => ?_⟩⟩
      have code : ("b\"" ++ String.ofList content ++ "\"").toList =
          'b' :: '"' :: (content ++ ['"']) := by simp
      rw [code, isByteString_iff]
      rcases SeedForm.of_eq_quoted form with ⟨inner, same, rfl⟩ | same
      · rw [same, wellQuoted_single, escaped_escapeQuotes_iff]
      · rw [same, wellQuoted_double]
  | binding =>
      refine ⟨fun unclosed => absurd (by simp) unclosed, fun _ => ⟨_, rfl, fun allowed => ?_⟩⟩
      refine iff_of_false ?_ (not_wellQuoted_of_binding form)
      rintro ⟨content, spelled, -⟩
      simp at spelled

/-- A seed in single quotes with a double quote in it. -/
theorem seed_emitWithin_single :
    let pda : Block :=
      { type := "create_pda", fields := ∅
        slots := Std.ExtTreeMap.insert ∅ "seeds" (.chain ⟨"s"⟩) }
    let seed : Block :=
      { type := "pda_seed", fields := Std.ExtTreeMap.insert ∅ "value" (.text " 'a\"b' ")
        seat := some ⟨⟨"p"⟩, "seeds"⟩ }
    let w : Workspace :=
      { palette := .standard
        blocks := Std.ExtTreeMap.insert (Std.ExtTreeMap.insert ∅ ⟨"p"⟩ pda) ⟨"s"⟩ seed
        roots := [⟨"p"⟩] }
    let code := "b\"a\\\"b\""
    w.get? ⟨"s"⟩ = some seed ∧ (⟨"s"⟩ : BlockId) ∉ ([⟨"p"⟩] : List BlockId) ∧
      seed.type = "pda_seed" ∧ w.hasAncestorOfType ⟨"s"⟩ "create_pda" ∧
      seed.seed.toList.head? = some '\'' ∧
      (standard 4).emitWithin w [⟨"p"⟩] ⟨"s"⟩ = .ok ⟨code, none⟩ ∧
      ∀ allowed, IsByteString allowed code.toList ↔ WellQuoted allowed seed.seed.toList := by
  intro pda seed w code
  have found : w.get? ⟨"s"⟩ = some seed := rfl
  have closed : (⟨"s"⟩ : BlockId) ∉ ([⟨"p"⟩] : List BlockId) := by decide
  have placed : w.hasAncestorOfType ⟨"s"⟩ "create_pda" := by decide +kernel
  have quoted : seed.seed.toList.head? = some '\'' := by decide +kernel
  have closes : ClosesQuote seed.seed.toList := closesQuote_iff.2 (by decide +kernel)
  have emitted : (standard 4).emitWithin w [⟨"p"⟩] ⟨"s"⟩ = .ok ⟨code, none⟩ := by decide +kernel
  obtain ⟨code', emitted', complete⟩ :=
    (seed_emitWithin w 4 [⟨"p"⟩] _ _ found closed rfl placed (.inl quoted)).2 closes
  cases emitted.symm.trans emitted'
  exact ⟨found, closed, rfl, placed, quoted, emitted, complete⟩

/-- A seed in double quotes with another double quote in it, which nothing escapes. -/
theorem exists_broken_seed :
    ∃ (w : Workspace) (seed : Block) (code : String),
      w.get? ⟨"s"⟩ = some seed ∧ seed.type = "pda_seed" ∧
      w.hasAncestorOfType ⟨"s"⟩ "create_pda" ∧ seed.seed = "\"a\"b\"" ∧
      (standard 4).emitWithin w [⟨"p"⟩] ⟨"s"⟩ = .ok ⟨code, none⟩ ∧
      ∀ allowed, ¬ IsByteString allowed code.toList := by
  let pda : Block :=
    { type := "create_pda", fields := ∅
      slots := Std.ExtTreeMap.insert ∅ "seeds" (.chain ⟨"s"⟩) }
  let seed : Block :=
    { type := "pda_seed", fields := Std.ExtTreeMap.insert ∅ "value" (.text "\"a\"b\"")
      seat := some ⟨⟨"p"⟩, "seeds"⟩ }
  let w : Workspace :=
    { palette := .standard
      blocks := Std.ExtTreeMap.insert (Std.ExtTreeMap.insert ∅ ⟨"p"⟩ pda) ⟨"s"⟩ seed
      roots := [⟨"p"⟩] }
  refine ⟨w, seed, "b\"a\"b\"", rfl, rfl, by decide +kernel, by decide +kernel, by decide +kernel,
    fun allowed string => ?_⟩
  have escaped := (@isByteString_iff allowed ['a', '"', 'b']).1 string
  have behind := (escaped.of_cons (by decide)).2
  exact (behind.of_cons (by decide)).1.2 rfl

end Emitter

end SolanaBlocks
