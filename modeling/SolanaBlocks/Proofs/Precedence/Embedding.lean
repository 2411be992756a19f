import SolanaBlocks.Proofs.Precedence.SignOperand

/-!
# Expressions inside statements

Where a statement puts the expression of a slot among operators of its own, the whole reads as those
operators around the tree of the slot: the comparison that counts accounts, the range and the step
of a counted loop, and the borrow of the data of a call. A step that is a negative literal loses its
sign, and the range is walked backwards.
-/

namespace SolanaBlocks

open Grammar

/-! ## Counted loops -/

/-- How far apart the turns of a loop are whose step is a literal below zero. -/
def stepSize? : Expr → Option String
  | .number true digits =>
    match (Decimal.readFloat? ("-" ++ digits)).map BinaryNumber.ofFloat with
    | some number =>
      if number.isBelowZero then some (FieldValue.numberText number.neg) else none
    | none => none
  | _ => none

/-- What a counted loop runs over. -/
def loopRange (start stop step : Expr) : Expr :=
  match stepSize? step with
  | some size =>
    .callWith (.call (.binary .through stop start) "rev") "step_by"
      (.cast (.number false size) "usize")
  | none => .callWith (.binary .through start stop) "step_by" (.cast step "usize")

theorem Text.trim_eq_self {s : String} (visible : ∀ c ∈ s.toList, Text.isBlank c = false) :
    Text.trim s = s := by
  have keep : ∀ cs : List Char, (∀ c ∈ cs, Text.isBlank c = false) →
      cs.dropWhile Text.isBlank = cs := by
    intro cs visible
    cases cs with
    | nil => rfl
    | cons c cs => simp [visible c List.mem_cons_self]
  apply String.toList_inj.1
  rw [Text.toList_trim, Text.dropBlanks, Text.dropBlanksRight, keep _ visible,
    keep _ fun c member => visible c (List.mem_reverse.1 member), List.reverse_reverse]

theorem isBlank_of_mem_numeral {digits : List Char} (numeral : Decimal.Numeral digits) :
    ∀ c ∈ digits, Text.isBlank c = false := by
  cases numeral with
  | whole some digits => exact fun c member => Text.isBlank_digit (digits c member)
  | point some digits fraction behind =>
      intro c member
      rcases List.mem_append.1 member with member | member
      · exact Text.isBlank_digit (digits c member)
      rcases List.mem_cons.1 member with rfl | member
      · decide
      · exact Text.isBlank_digit (behind c member)

/-- The head of a loop is decided by the tree of its step. -/
theorem countedHead_eq {step : String} {tree : Expr} (operand : SignOperand step tree)
    (name start stop : String) :
    (stepSize? tree = none ∧ Renderers.countedHead name start stop step =
      s!"for {name} in ({start}..={stop}).step_by({step} as usize) \x7b\n") ∨
    ∃ size, stepSize? tree = some size ∧ Decimal.Numeral size.toList ∧
      Renderers.countedHead name start stop step =
        s!"for {name} in ({stop}..={start}).rev().step_by({size} as usize) \x7b\n" := by
  unfold Renderers.countedHead
  cases operand with
  | bare bare other =>
      left
      refine ⟨?_, ?_⟩
      · unfold stepSize?
        split
        · exact absurd rfl (other _)
        · rfl
      · split
        · next number found =>
            obtain ⟨x, read, rfl⟩ := Option.map_eq_some_iff.1 found
            refine if_neg fun below => ?_
            have first := head_of_isBelowZero read below
            rw [bare.head_trim] at first
            obtain ⟨c, rest, spelled, plain, -⟩ := bare
            rw [spelled] at first
            exact plain (Option.some.inj first)
        · rfl
  | @literal digits x significand exponent numeral spelled read finite =>
      have whole : Text.trim step = step := by
        refine Text.trim_eq_self ?_
        rw [spelled, List.forall_mem_cons]
        exact ⟨by decide, isBlank_of_mem_numeral numeral⟩
      have same : "-" ++ String.ofList digits = step :=
        String.toList_inj.1 (by rw [spelled, String.toList_append, String.toList_ofList,
          String.toList_ofList, List.singleton_append])
      have size : stepSize? (.number true (String.ofList digits)) =
          if (BinaryNumber.ofFloat x).isBelowZero then
            some (FieldValue.numberText (BinaryNumber.ofFloat x).neg)
          else none := by
        simp only [stepSize?, same, read, Option.map_some]
      rw [size, whole, read]
      dsimp only [Option.map_some]
      split
      · right
        refine ⟨_, rfl, ?_, rfl⟩
        rw [finite]
        obtain ⟨digits, written, spelled⟩ :=
          @Decimal.numberText_toList (.finite false significand exponent) rfl
        have positive : (BinaryNumber.finite false significand exponent).isBelowZero = false := rfl
        rw [positive] at spelled
        change Decimal.Numeral (FieldValue.numberText (.finite false significand exponent)).toList
        rw [spelled]
        exact written.numeral
      · exact .inl ⟨rfl, rfl⟩

/-- What a loop runs over, by the tree of its step. -/
inductive LoopCode (start stop step : String) (tree : Expr) : String → Prop where
  | forward (unsigned : stepSize? tree = none) :
    LoopCode start stop step tree
      ("(" ++ start ++ "..=" ++ stop ++ ").step_by(" ++ step ++ " as usize)")
  | backward {size : String} (signed : stepSize? tree = some size)
      (numeral : Decimal.Numeral size.toList) :
    LoopCode start stop step tree
      ("(" ++ stop ++ "..=" ++ start ++ ").rev().step_by(" ++ size ++ " as usize)")

theorem countedHead_range {step : String} {tree : Expr} (operand : SignOperand step tree)
    (name start stop : String) :
    ∃ range, LoopCode start stop step tree range ∧
      Renderers.countedHead name start stop step =
        "for " ++ name ++ " in " ++ range ++ " \x7b\n" := by
  rcases countedHead_eq operand name start stop with ⟨unsigned, head⟩ | ⟨size, signed, numeral, head⟩
  · refine ⟨_, .forward unsigned, head.trans ?_⟩
    simp [toString, ← String.toList_inj]
  · refine ⟨_, .backward signed numeral, head.trans ?_⟩
    simp [toString, ← String.toList_inj]

theorem reads_one : Reads .primary "1".toList (.number false "1") :=
  .numeral (.whole (by decide) (List.all_eq_true.1 (by decide)))

theorem reads_two : Reads .primary "2".toList (.number false "2") :=
  .numeral (.whole (by decide) (List.all_eq_true.1 (by decide)))

/-- The comparison of the number of accounts with a bound. -/
theorem reads_count {code : String} {least : Expr} (reads : Reads .sum code.toList least) :
    ReadsAs ("accounts.len() < " ++ code)
      (.binary .lt (.call (.name "accounts") "len") least) := by
  have count : Reads .primary "accounts.len()".toList (.call (.name "accounts") "len") :=
    (Reads.name (by decide : Text.isIdentifier "accounts")).call
      (by decide : Text.isIdentifier "len")
  have compared := Reads.binary .lt (count.loosen (by decide)) reads
  refine Reads.readsAs ?_
  simpa [Operator.symbol] using compared.loosen (by decide : Operator.level .lt ≤ Level.range)

/-- A range in parentheses, with what is called on it. -/
theorem reads_steps {start stop step : String} {a b c : Expr}
    (first : Reads .disjunction start.toList a) (last : Reads .disjunction stop.toList b)
    (size : Reads .cast step.toList c) :
    ReadsAs ("(" ++ start ++ "..=" ++ stop ++ ").step_by(" ++ step ++ " as usize)")
        (.callWith (.binary .through a b) "step_by" (.cast c "usize")) ∧
      ReadsAs ("(" ++ start ++ "..=" ++ stop ++ ").rev().step_by(" ++ step ++ " as usize)")
        (.callWith (.call (.binary .through a b) "rev") "step_by" (.cast c "usize")) := by
  have range := (first.through last).group
  have cast := (size.cast (by decide : Text.isIdentifier "usize")).loosen
    (by decide : Level.cast ≤ Level.range)
  have forward := range.callWith cast (by decide : Text.isIdentifier "step_by")
  have backward := (range.call (by decide : Text.isIdentifier "rev")).callWith cast
    (by decide : Text.isIdentifier "step_by")
  have loose : Level.primary ≤ Level.range := by decide
  refine ⟨Reads.readsAs ?_, Reads.readsAs ?_⟩
  · simpa using forward.loosen loose
  · simpa using backward.loosen loose

theorem Fragment.wrap_settleTier {type : BlockType} {raw : Fragment} {tier : Tier}
    (produces : type.producesValue) (tiered : raw.tier = some tier) (required : Tier) :
    (Emitter.settleTier type raw).wrap required = raw.wrap required := by
  simp [Fragment.wrap, Emitter.settleTier, produces, tiered]

namespace Emitter

variable {w : Workspace} {width : Nat} {open_ : List BlockId} {id : BlockId} {block : Block}
  {fragment : Fragment}

theorem signOperand_emitWithin {tree : Expr} (found : w.get? id = some block)
    (expression : block.type ∈ Palette.Standard.expressionIds)
    (emitted : (standard width).emitWithin w open_ id = .ok fragment)
    (denotes : Denotes w id tree) : SignOperand (fragment.wrap .unary) tree := by
  obtain ⟨block', type, renderer, raw, found', closed, known, rendered, ran, rfl⟩ :=
    emitWithin_eq_ok emitted
  cases found.symm.trans found'
  let site : Site := ⟨w, .standard, (standard width).unit, id, block⟩
  have palette : site.palette = .standard := rfl
  obtain ⟨shown, tier, -, expresses⟩ := Site.expresses_standard palette
    (expressive_emitWithin w width (id :: open_)) found expression rendered ran
  rw [Fragment.wrap_settleTier (producesValue_of_expression known expression) expresses.tier_eq]
  exact Site.signOperand_standard palette found expression rendered ran denotes

end Emitter

namespace Site

variable {site : Site} {width : Nat} {open_ : List BlockId} {raw : Fragment}
  (palette : site.palette = .standard)

include palette

/-- The code in front of which a loop looks for a minus. -/
theorem signOperand_value {slot default code : String} {empty tree : Expr}
    (declared : (Palette.standard.get? site.block.type).bind (BlockType.slot? · slot) =
      some (.expression slot default))
    (bare : Bare default.toList) (positive : ∀ digits, empty ≠ .number true digits)
    (denotes : DenotesIn site.workspace site.block slot empty tree)
    (rendered : (site.value slot .unary).run
      ((Emitter.standard width).emitWithin site.workspace open_) = .ok code) :
    SignOperand code tree := by
  rcases standard_value palette declared rendered with
    ⟨nothing, rfl⟩ | ⟨child, block, fragment, held, found, expression, answered, rfl⟩
  · cases denotes.unique (.empty nothing)
    exact .bare bare positive
  · cases denotes with
    | empty nothing => rw [nothing] at held; cases held
    | filled held' content =>
        cases held.symm.trans held'
        exact Emitter.signOperand_emitWithin found expression answered content

/-! ## Statements -/

omit palette in
theorem validateAccounts_run {answer : BlockId → Except EmitError Fragment}
    (ran : (Renderers.validateAccounts site).run answer = .ok raw) :
    ∃ least after,
      (site.value "min_accounts" (operandTier .relational .none .right)).run answer = .ok least ∧
      raw.code = "let account_iter = &mut accounts.iter();\nif " ++ ("accounts.len() < " ++ least) ++
        " \x7b\n" ++ after := by
  obtain ⟨least, leastRan, ran⟩ := (Rendering.run_bind_eq_ok_iff _).1 ran
  cases ran
  let after := site.unit ++ "return Err(ProgramError::NotEnoughAccountKeys);\n\x7d\n"
  refine ⟨least, after, leastRan, ?_⟩
  simp [after, Renderers.guard, toString, ← String.toList_inj]

omit palette in
theorem countedLoop_run {answer : BlockId → Except EmitError Fragment}
    (ran : (Renderers.countedLoop site).run answer = .ok raw) :
    ∃ name start stop step body, site.text "var" = .ok name ∧
      (site.value "start" .disjunction).run answer = .ok start ∧
      (site.value "end" .disjunction).run answer = .ok stop ∧
      (site.value "step" .unary).run answer = .ok step ∧
      (site.statements "do").run answer = .ok body ∧
      raw.code = Renderers.countedHead name start stop step ++ body ++ "\x7d\n" := by
  obtain ⟨name, named, ran⟩ := (Rendering.run_bind_eq_ok_iff _).1 ran
  obtain ⟨start, startRan, ran⟩ := (Rendering.run_bind_eq_ok_iff _).1 ran
  obtain ⟨stop, stopRan, ran⟩ := (Rendering.run_bind_eq_ok_iff _).1 ran
  obtain ⟨step, stepRan, ran⟩ := (Rendering.run_bind_eq_ok_iff _).1 ran
  obtain ⟨body, bodyRan, ran⟩ := (Rendering.run_bind_eq_ok_iff _).1 ran
  rw [Rendering.run_pure, Except.ok.injEq] at ran
  subst ran
  exact ⟨name, start, stop, step, body, named, startRan, stopRan, stepRan, bodyRan, rfl⟩

/-- What a loop runs over, by the tree in its slot for the step. -/
theorem countedLoop_range (type : site.block.type = "controls_for")
    (ran : (Renderers.countedLoop site).run
      ((Emitter.standard width).emitWithin site.workspace open_) = .ok raw) :
    ∃ name start stop step tree range body,
      (site.value "start" .disjunction).run
        ((Emitter.standard width).emitWithin site.workspace open_) = .ok start ∧
      (site.value "end" .disjunction).run
        ((Emitter.standard width).emitWithin site.workspace open_) = .ok stop ∧
      (site.value "step" .unary).run
        ((Emitter.standard width).emitWithin site.workspace open_) = .ok step ∧
      DenotesIn site.workspace site.block "step" (.number false "1") tree ∧
      LoopCode start stop step tree range ∧
      raw.code = "for " ++ name ++ " in " ++ range ++ " \x7b\n" ++ (body ++ "\x7d\n") := by
  obtain ⟨name, start, stop, step, body, -, startRan, stopRan, stepRan, -, spelled⟩ :=
    countedLoop_run ran
  obtain ⟨tree, inside, -⟩ := reads_value palette (Emitter.expressive_emitWithin _ width open_)
    (by rw [type]; rfl) reads_one stepRan
  have operand := signOperand_value palette (by rw [type]; rfl) ⟨'1', [], rfl, by decide, by decide⟩
    (by simp) inside stepRan
  obtain ⟨range, code, head⟩ := countedHead_range operand name start stop
  refine ⟨name, start, stop, step, tree, range, body, startRan, stopRan, stepRan, inside, code, ?_⟩
  rw [spelled, head, String.append_assoc]

omit palette in
theorem callProgram_run {answer : BlockId → Except EmitError Fragment}
    (ran : (Renderers.callProgram site).run answer = .ok raw) :
    ∃ program data after, (site.value "data" .unary).run answer = .ok data ∧
      raw.code = "invoke(\n" ++ site.unit ++ "&Instruction::new_with_bytes(\n" ++
        site.unit ++ site.unit ++ program ++ ",\n" ++
        site.unit ++ site.unit ++ ("&" ++ data) ++ ",\n" ++ after := by
  obtain ⟨program, -, ran⟩ := (Rendering.run_bind_eq_ok_iff _).1 ran
  obtain ⟨accounts, -, ran⟩ := (Rendering.run_bind_eq_ok_iff _).1 ran
  obtain ⟨data, dataRan, ran⟩ := (Rendering.run_bind_eq_ok_iff _).1 ran
  cases ran
  let after := site.unit ++ site.unit ++ "&[" ++ ", ".intercalate accounts ++ "],\n" ++
    site.unit ++ "),\n" ++
    site.unit ++ "&[" ++ ", ".intercalate (accounts.map fun account => account ++ ".clone()") ++
    "],\n" ++ ")?;\n"
  refine ⟨Text.trim program, data, after, dataRan, ?_⟩
  simp only [toString, after, String.append_assoc]

theorem reads_validateAccounts (type : site.block.type = "validate_accounts")
    (ran : (Renderers.validateAccounts site).run
      ((Emitter.standard width).emitWithin site.workspace open_) = .ok raw) :
    ∃ condition after least,
      DenotesIn site.workspace site.block "min_accounts" (.number false "2") least ∧
      raw.code = "let account_iter = &mut accounts.iter();\nif " ++ condition ++ " \x7b\n" ++ after ∧
      ReadsAs condition (.binary .lt (.call (.name "accounts") "len") least) := by
  obtain ⟨code, after, leastRan, spelled⟩ := validateAccounts_run ran
  obtain ⟨tree, inside, reads⟩ := reads_value palette (Emitter.expressive_emitWithin _ width open_)
    (by rw [type]; rfl) reads_two leastRan
  exact ⟨_, after, tree, inside, spelled, reads_count (reads.loosen (by decide))⟩

theorem reads_countedLoop (type : site.block.type = "controls_for")
    (ran : (Renderers.countedLoop site).run
      ((Emitter.standard width).emitWithin site.workspace open_) = .ok raw) :
    ∃ name range after start stop step,
      DenotesIn site.workspace site.block "start" (.number false "0") start ∧
      DenotesIn site.workspace site.block "end" (.number false "0") stop ∧
      DenotesIn site.workspace site.block "step" (.number false "1") step ∧
      raw.code = "for " ++ name ++ " in " ++ range ++ " \x7b\n" ++ after ∧
      ReadsAs range (loopRange start stop step) := by
  obtain ⟨name, start, stop, step, c, range, body, startRan, stopRan, stepRan, inStep, code,
    spelled⟩ := countedLoop_range palette type ran
  have expressive := Emitter.expressive_emitWithin site.workspace width open_
  obtain ⟨a, inStart, startReads⟩ :=
    reads_value palette expressive (by rw [type]; rfl) reads_zero startRan
  obtain ⟨b, inStop, stopReads⟩ :=
    reads_value palette expressive (by rw [type]; rfl) reads_zero stopRan
  refine ⟨name, range, _, a, b, c, inStart, inStop, inStep, spelled, ?_⟩
  rw [loopRange]
  cases code with
  | forward unsigned =>
      obtain ⟨c', inStep', stepReads⟩ :=
        reads_value palette expressive (by rw [type]; rfl) reads_one stepRan
      cases inStep.unique inStep'
      rw [unsigned]
      exact (reads_steps startReads stopReads (stepReads.loosen (by decide))).1
  | @backward size signed numeral =>
      have literal : Reads .primary size.toList (.number false size) := by
        simpa using Reads.numeral numeral
      rw [signed]
      exact (reads_steps stopReads startReads (literal.loosen (by decide))).2

theorem reads_callProgram (type : site.block.type = "cpi_call")
    (ran : (Renderers.callProgram site).run
      ((Emitter.standard width).emitWithin site.workspace open_) = .ok raw) :
    ∃ program borrowed after data,
      DenotesIn site.workspace site.block "data" .emptyList data ∧
      raw.code = "invoke(\n" ++ site.unit ++ "&Instruction::new_with_bytes(\n" ++
        site.unit ++ site.unit ++ program ++ ",\n" ++
        site.unit ++ site.unit ++ borrowed ++ ",\n" ++ after ∧
      ReadsAs borrowed (.signed .borrow data) := by
  obtain ⟨program, code, after, dataRan, spelled⟩ := callProgram_run ran
  obtain ⟨data, inside, reads⟩ := reads_value palette
    (Emitter.expressive_emitWithin site.workspace width open_) (by rw [type]; rfl)
    (by simpa using Reads.emptyList) dataRan
  exact ⟨program, "&" ++ code, after, data, inside, spelled, reads.readsAs_borrow (by simp)⟩

end Site

namespace Emitter

/-- The code of an expression reads as the tree of its blocks, and so does the code of an
expression inside a statement, with the operators of the statement around it. -/
theorem readsAs_emitWithin (w : Workspace) (width : Nat) (open_ : List BlockId) (id : BlockId)
    (block : Block) (fragment : Fragment) (found : w.get? id = some block)
    (emitted : (standard width).emitWithin w open_ id = .ok fragment) :
    (block.type ∈ Palette.Standard.expressionIds →
      ∃ tree, (∀ e, Denotes w id e ↔ e = tree) ∧ ReadsAs fragment.code tree) ∧
    (block.type = "validate_accounts" →
      ∃ condition after least,
        (∀ e, DenotesIn w block "min_accounts" (.number false "2") e ↔ e = least) ∧
        fragment.code =
          "let account_iter = &mut accounts.iter();\nif " ++ condition ++ " \x7b\n" ++ after ∧
        ReadsAs condition (.binary .lt (.call (.name "accounts") "len") least)) ∧
    (block.type = "controls_for" →
      ∃ name range after start stop step,
        (∀ e, DenotesIn w block "start" (.number false "0") e ↔ e = start) ∧
        (∀ e, DenotesIn w block "end" (.number false "0") e ↔ e = stop) ∧
        (∀ e, DenotesIn w block "step" (.number false "1") e ↔ e = step) ∧
        fragment.code = "for " ++ name ++ " in " ++ range ++ " \x7b\n" ++ after ∧
        ReadsAs range (loopRange start stop step)) ∧
    (block.type = "cpi_call" →
      ∃ program borrowed after data,
        (∀ e, DenotesIn w block "data" .emptyList e ↔ e = data) ∧
        fragment.code = "invoke(\n" ++ (standard width).unit ++ "&Instruction::new_with_bytes(\n" ++
          (standard width).unit ++ (standard width).unit ++ program ++ ",\n" ++
          (standard width).unit ++ (standard width).unit ++ borrowed ++ ",\n" ++ after ∧
        ReadsAs borrowed (.signed .borrow data)) := by
  obtain ⟨block', type, renderer, raw, found', closed, known, rendered, ran, rfl⟩ :=
    emitWithin_eq_ok emitted
  cases found.symm.trans found'
  let site : Site := ⟨w, .standard, (standard width).unit, id, block⟩
  have palette : site.palette = .standard := rfl
  refine ⟨fun expression => ?_, fun counts => ?_, fun loops => ?_, fun calls => ?_⟩
  · obtain ⟨tree, tier, denotes, expresses⟩ :=
      expressive_emitWithin w width open_ id block _ found expression emitted
    refine ⟨tree, denotes.iff_eq, (expresses.reads.loosen ?_).readsAs⟩
    exact Nat.le_trans (Tier.level_mono expresses.tier_le)
      (by decide : Tier.disjunction.level ≤ Level.range)
  · have same : Renderers.standard? block.type = some Renderers.validateAccounts := by
      rw [counts]; rfl
    cases rendered.symm.trans same
    obtain ⟨condition, after, least, inside, code, reads⟩ :=
      Site.reads_validateAccounts palette counts ran
    exact ⟨condition, after, least, inside.iff_eq, code, reads⟩
  · have same : Renderers.standard? block.type = some Renderers.countedLoop := by
      rw [loops]; rfl
    cases rendered.symm.trans same
    obtain ⟨name, range, after, start, stop, step, inStart, inStop, inStep, code, reads⟩ :=
      Site.reads_countedLoop palette loops ran
    exact ⟨name, range, after, start, stop, step, inStart.iff_eq, inStop.iff_eq, inStep.iff_eq,
      code, reads⟩
  · have same : Renderers.standard? block.type = some Renderers.callProgram := by
      rw [calls]; rfl
    cases rendered.symm.trans same
    obtain ⟨program, borrowed, after, data, inside, code, reads⟩ :=
      Site.reads_callProgram palette calls ran
    exact ⟨program, borrowed, after, data, inside.iff_eq, code, reads⟩

/-- The negation of a conjunction with nothing in its slots. -/
theorem readsAs_emitWithin_negation :
    let conjunction : Block := { type := "logic_operation", fields := ∅ }
    let negation : Block :=
      { type := "logic_negate", fields := ∅, slots := Std.ExtTreeMap.insert ∅ "bool" (.single ⟨"b"⟩) }
    let w : Workspace :=
      { palette := .standard
        blocks := Std.ExtTreeMap.insert (Std.ExtTreeMap.insert ∅ ⟨"a"⟩ negation) ⟨"b"⟩ conjunction
        roots := [⟨"a"⟩] }
    w.get? ⟨"a"⟩ = some negation ∧
      (standard 4).emitWithin w [] ⟨"a"⟩ = .ok ⟨"!(false && false)", some .unary⟩ ∧
      negation.type ∈ Palette.Standard.expressionIds ∧
      ∃ tree, (∀ e, Denotes w ⟨"a"⟩ e ↔ e = tree) ∧ ReadsAs "!(false && false)" tree := by
  intro conjunction negation w
  have found : w.get? ⟨"a"⟩ = some negation := rfl
  have emitted : (standard 4).emitWithin w [] ⟨"a"⟩ = .ok ⟨"!(false && false)", some .unary⟩ := by
    decide +kernel
  have expression : negation.type ∈ Palette.Standard.expressionIds := by decide
  exact ⟨found, emitted, expression,
    (readsAs_emitWithin w 4 [] _ _ _ found emitted).1 expression⟩

end Emitter

end SolanaBlocks
