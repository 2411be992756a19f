import SolanaBlocks.Proofs.Emission.Chains
import SolanaBlocks.Proofs.Grammar.Escapes
import SolanaBlocks.Proofs.Precedence.Expressions

/-!
# Text literals

A text block is emitted as one string literal on one line, and reading the literal gives back the text
in its field. Indentation only adds to the beginnings of lines, so the literal stays as it is however
deep the statement around it ends up.
-/

namespace SolanaBlocks

/-! ## Indentation around one line -/

namespace Text

/-- Code that goes on with the next line, if there is any. -/
def BeginsLine (cs : List Char) : Prop := ∀ c, cs.head? = some c → c = '\n'

variable {unit : String}

theorem Indents.endsLine {unit cs out : List Char} (indents : Indents unit cs out) :
    EndsLine out := by
  induction indents with
  | nil => exact endsLine_nil
  | @line line rest rest' whole later ih =>
      intro c last
      cases rest' with
      | nil =>
          rw [List.getLast?_concat] at last
          exact (Option.some.inj last).symm
      | cons d rest' =>
          rw [List.getLast?_append, List.getLast?_cons_cons] at last
          exact ih c (by simpa using last)

theorem endsLine_indent (unit : String) {whole : String} (ended : EndsLine whole.toList) :
    EndsLine (indent unit whole).toList :=
  (ended.indents unit).endsLine

theorem BeginsLine.eq {cs : List Char} (begun : BeginsLine cs) :
    cs = [] ∨ ∃ rest, cs = '\n' :: rest := by
  cases cs with
  | nil => exact .inl rfl
  | cons c rest => exact .inr ⟨rest, by rw [begun c rfl]⟩

/-- A line feed with nothing before it stays alone on its line. -/
theorem indentLine_lines_feed (unit rest : List Char) :
    (lines ('\n' :: rest)).flatMap (indentLine unit) =
      '\n' :: (lines rest).flatMap (indentLine unit) := by
  have feed : lines ('\n' :: rest) = ['\n'] :: lines rest := lines_line List.not_mem_nil rest
  have bare : indentLine unit ['\n'] = ['\n'] := indentLine_line unit []
  rw [feed, List.flatMap_cons, bare, List.singleton_append]

theorem beginsLine_indent (unit : String) {more : String} (begun : BeginsLine more.toList) :
    BeginsLine (indent unit more).toList := by
  intro c first
  rw [toList_indent] at first
  rcases begun.eq with nothing | ⟨rest, spelled⟩
  · rw [nothing] at first
    cases first
  · rw [spelled, indentLine_lines_feed] at first
    exact (Option.some.inj first).symm

theorem lines_eq_singleton {line : List Char} (whole : '\n' ∉ line) (some : line ≠ []) :
    lines line = [line] := by
  induction line with
  | nil => exact absurd rfl some
  | cons c line ih =>
      have other : c ≠ '\n' := (List.ne_of_not_mem_cons whole).symm
      rw [lines, if_neg other]
      cases line with
      | nil => rfl
      | cons d line => rw [ih (List.not_mem_of_not_mem_cons whole) (List.cons_ne_nil d line)]

/-- A line that is not blank gets a unit in front of it. -/
theorem indent_line {line more : String} (whole : '\n' ∉ line.toList)
    (visible : line.toList.all isBlank = false) (begun : BeginsLine more.toList) :
    indent unit (line ++ more) = unit ++ line ++ indent unit more := by
  apply String.toList_inj.1
  simp only [toList_indent, String.toList_append]
  rcases begun.eq with nothing | ⟨rest, spelled⟩
  · have some : line.toList ≠ [] := by
      intro nothing
      rw [nothing] at visible
      cases visible
    rw [nothing, List.append_nil, lines_eq_singleton whole some]
    simp [indentLine, visible, lines]
  · rw [spelled, lines_line whole, List.flatMap_cons, indentLine_line, indentLine_lines_feed,
      if_neg (by simp [visible])]
    simp

/-- However often code is indented, a piece of a line that is not blank stays as it is: only the front
of its line grows. -/
theorem indent_iterate {whole front piece more : String} (ended : EndsLine whole.toList)
    (first : '\n' ∉ front.toList) (last : '\n' ∉ piece.toList)
    (visible : piece.toList.all isBlank = false) (begun : BeginsLine more.toList)
    (level : '\n' ∉ unit.toList) (n : Nat) :
    (indent unit)^[n] (whole ++ (front ++ piece ++ more)) =
      (indent unit)^[n] whole ++
        (String.join (List.replicate n unit) ++ front ++ piece ++ (indent unit)^[n] more) := by
  induction n generalizing whole front more with
  | zero => simp
  | succ n ih =>
      have line : '\n' ∉ (front ++ piece).toList := by simp [first, last]
      have shown : (front ++ piece).toList.all isBlank = false := by simp [visible]
      have deeper : '\n' ∉ (unit ++ front).toList := by simp [level, first]
      have units : String.join (List.replicate (n + 1) unit) =
          String.join (List.replicate n unit) ++ unit := by
        simp [List.replicate_succ']
      simp only [Function.iterate_succ_apply]
      rw [indent_append ended, indent_line line shown begun, units]
      have next := ih (endsLine_indent unit ended) deeper (beginsLine_indent unit begun)
      simp only [String.append_assoc] at next ⊢
      exact next

/-- Any code is made up of whole lines and the front of another line. -/
theorem exists_front (code : String) :
    ∃ whole front, code = whole ++ front ∧ EndsLine whole.toList ∧ '\n' ∉ front.toList := by
  suffices chars : ∀ cs : List Char,
      ∃ whole front, cs = whole ++ front ∧ EndsLine whole ∧ '\n' ∉ front by
    obtain ⟨whole, front, spelled, ended, first⟩ := chars code.toList
    exact ⟨String.ofList whole, String.ofList front, String.toList_inj.1 (by simpa using spelled),
      by simpa using ended, by simpa using first⟩
  intro cs
  induction cs with
  | nil => exact ⟨[], [], rfl, endsLine_nil, List.not_mem_nil⟩
  | cons c cs ih =>
      obtain ⟨whole, front, rfl, ended, first⟩ := ih
      cases whole with
      | cons d whole => exact ⟨c :: d :: whole, front, rfl, by simpa [EndsLine] using ended, first⟩
      | nil =>
          by_cases feed : c = '\n'
          · exact ⟨[c], front, rfl, by simp [EndsLine, feed], first⟩
          · exact ⟨[], c :: front, rfl, endsLine_nil,
              List.not_mem_cons_of_ne_of_not_mem (Ne.symm feed) first⟩

/-- Any code is made up of the rest of a line and what begins with the next line. -/
theorem exists_rest (code : String) :
    ∃ rest more, code = rest ++ more ∧ '\n' ∉ rest.toList ∧ BeginsLine more.toList := by
  let inLine (c : Char) : Bool := c != '\n'
  have split := @List.takeWhile_append_dropWhile _ inLine code.toList
  refine ⟨String.ofList (code.toList.takeWhile inLine), String.ofList (code.toList.dropWhile inLine),
    String.toList_inj.1 (by simp [split]), ?_, ?_⟩
  · intro member
    rw [String.toList_ofList] at member
    exact absurd (List.mem_takeWhile_imp member) (by decide)
  · intro c first
    rw [String.toList_ofList] at first
    have stop := List.head?_dropWhile_not inLine code.toList
    rw [first] at stop
    simpa [inLine] using stop

/-- A piece of one line is kept by any number of indentations of the code around it. -/
def KeptByIndent (unit piece : String) : Prop :=
  ∀ before after, ∃ whole front rest more, before = whole ++ front ∧ EndsLine whole.toList ∧
    '\n' ∉ front.toList ∧ after = rest ++ more ∧ '\n' ∉ rest.toList ∧ BeginsLine more.toList ∧
    ∀ n, (indent unit)^[n] (before ++ piece ++ after) =
      (indent unit)^[n] whole ++
        (String.join (List.replicate n unit) ++ front ++ piece ++ rest ++ (indent unit)^[n] more)

theorem keptByIndent {piece : String} (level : '\n' ∉ unit.toList) (line : '\n' ∉ piece.toList)
    (visible : piece.toList.all isBlank = false) : KeptByIndent unit piece := by
  intro before after
  obtain ⟨whole, front, before_eq, ended, first⟩ := exists_front before
  obtain ⟨rest, more, after_eq, last, begun⟩ := exists_rest after
  refine ⟨whole, front, rest, more, before_eq, ended, first, after_eq, last, begun, fun n => ?_⟩
  have kept := indent_iterate ended first (by simp [line, last] : '\n' ∉ (piece ++ rest).toList)
    (by simp [visible]) begun level n
  rw [before_eq, after_eq]
  simp only [String.append_assoc] at kept ⊢
  exact kept

end Text

/-- One string literal on one line that reads as `value`. -/
structure TextLiteral (value code : String) : Prop where
  escaped : ∃ content, code.toList = '"' :: (content ++ ['"']) ∧
    Grammar.Escaped Grammar.TextEscape Grammar.OnLine content
  token : ∀ rest, Grammar.token? (code.toList ++ rest) = some (.text value, rest)

theorem textLiteral_quote (value : String) : TextLiteral value (Text.quote value) where
  escaped := ⟨_, String.toList_ofList, Grammar.escaped_quote value.toList⟩
  token rest := by
    rw [Text.quote, String.toList_ofList, Grammar.token?_quote, String.ofList_toList]

theorem TextLiteral.keptByIndent {value code unit : String} (literal : TextLiteral value code)
    (level : '\n' ∉ unit.toList) : Text.KeptByIndent unit code := by
  obtain ⟨content, spelled, escaped⟩ := literal.escaped
  refine Text.keptByIndent level ?_ ?_
  · rw [spelled]
    simp [escaped.feed_not_mem]
  · have visible : Text.isBlank '"' = false := by decide
    simp [spelled, visible]

namespace Emitter

theorem feed_not_mem_unit (e : Emitter) : '\n' ∉ e.unit.toList := by
  simp [unit]

/-- The code of a text block is a literal of its text, and stays the same at any depth. -/
theorem textLiteral_emitWithin (w : Workspace) (width : Nat) (open_ : List BlockId) (id : BlockId)
    (block : Block) (found : w.get? id = some block) (closed : id ∉ open_)
    (type : block.type = "text") :
    ∃ code, (standard width).emitWithin w open_ id = .ok ⟨code, some .atomic⟩ ∧
      TextLiteral (block.fieldValue "text" (.text "")).display code ∧
      Text.KeptByIndent (standard width).unit code := by
  obtain ⟨declaration, known, anywhere, produces, field⟩ :
      ∃ declaration, Palette.standard.get? block.type = some declaration ∧
        declaration.placement = .anywhere ∧ declaration.producesValue ∧
        declaration.field? "text" = some (.ofText "text" "") := by
    rw [type]
    exact ⟨_, rfl, rfl, rfl, rfl⟩
  have rendered : (standard width).renderer? block.type = some Renderers.textLiteral := by
    rw [type]
    rfl
  let site : Site := ⟨w, .standard, (standard width).unit, id, block⟩
  let value := (block.fieldValue "text" (.text "")).display
  have read : site.text "text" = .ok value :=
    Site.text_of_free (Site.fieldDecl_eq_ok_iff.2 ⟨declaration, known, field⟩) rfl
      (by simp [FieldDecl.ofText])
  have ran : (Renderers.textLiteral site).run ((standard width).emitWithin w (id :: open_)) =
      .ok { code := Text.quote value, tier := some .atomic } := by
    rw [Renderers.textLiteral, Rendering.run_bind, Rendering.run_ofExcept, read]
    rfl
  have literal := textLiteral_quote value
  refine ⟨Text.quote value, ?_, literal, literal.keptByIndent (feed_not_mem_unit _)⟩
  rw [emitWithin_of_run found closed known rendered (by rw [anywhere]; rfl) ran]
  simp [Except.map, settleTier, produces]

/-- A text that is a quote, a backslash and a line feed. -/
theorem textLiteral_emitWithin_breaks :
    let block : Block :=
      { type := "text", fields := Std.ExtTreeMap.insert ∅ "text" (.text "\"\\\n") }
    let w : Workspace :=
      { palette := .standard, blocks := Std.ExtTreeMap.insert ∅ ⟨"t"⟩ block, roots := [⟨"t"⟩] }
    let code := "\"\\\"\\\\\\n\""
    w.get? ⟨"t"⟩ = some block ∧ (⟨"t"⟩ : BlockId) ∉ ([] : List BlockId) ∧ block.type = "text" ∧
      (standard 4).emitWithin w [] ⟨"t"⟩ = .ok ⟨code, some .atomic⟩ ∧
      TextLiteral "\"\\\n" code ∧ Text.KeptByIndent "    " code := by
  intro block w code
  have found : w.get? ⟨"t"⟩ = some block := rfl
  have emitted : (standard 4).emitWithin w [] ⟨"t"⟩ = .ok ⟨code, some .atomic⟩ := by decide +kernel
  obtain ⟨code', emitted', literal, kept⟩ :=
    textLiteral_emitWithin w 4 [] _ _ found List.not_mem_nil rfl
  cases emitted.symm.trans emitted'
  exact ⟨found, List.not_mem_nil, rfl, emitted, literal, kept⟩

end Emitter

end SolanaBlocks
