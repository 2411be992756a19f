import SolanaBlocks.Proofs.Grammar.Literals

/-!
# Escapes

Between the quotes of a literal a backslash begins an escape, and other characters stand for
themselves. A text that is quoted as a literal has only complete escapes. For a byte string whose
content is taken over from elsewhere this depends on the content: with single quotes around it, the
double quotes in it get a backslash, and that is a complete escape only if no backslash comes before.
-/

namespace SolanaBlocks.Grammar

/-- Text in which each backslash begins a complete escape and all other characters are plain. -/
inductive Escaped (escape : List Char → Prop) (plain : Char → Prop) : List Char → Prop where
  | nil : Escaped escape plain []
  | plain {c cs} (shown : plain c) (other : c ≠ '\\') (rest : Escaped escape plain cs) :
      Escaped escape plain (c :: cs)
  | escape {code cs} (complete : escape code) (rest : Escaped escape plain cs) :
      Escaped escape plain ('\\' :: (code ++ cs))

namespace Escaped

variable {escape : List Char → Prop} {plain : Char → Prop} {c : Char} {cs ds : List Char}

theorem append (first : Escaped escape plain cs) (second : Escaped escape plain ds) :
    Escaped escape plain (cs ++ ds) := by
  induction first with
  | nil => exact second
  | plain shown other rest ih => exact .plain shown other ih
  | escape complete rest ih =>
      rw [List.cons_append, List.append_assoc]
      exact .escape complete ih

theorem flatMap {α : Type} {f : α → List Char} (each : ∀ a, Escaped escape plain (f a))
    (as : List α) : Escaped escape plain (as.flatMap f) := by
  induction as with
  | nil => exact .nil
  | cons a as ih =>
      rw [List.flatMap_cons]
      exact (each a).append ih

theorem of_cons (escaped : Escaped escape plain (c :: cs)) (other : c ≠ '\\') :
    plain c ∧ Escaped escape plain cs := by
  cases escaped with
  | plain shown _ rest => exact ⟨shown, rest⟩
  | escape => exact absurd rfl other

theorem of_backslash (escaped : Escaped escape plain ('\\' :: cs)) :
    ∃ code rest, cs = code ++ rest ∧ escape code ∧ Escaped escape plain rest := by
  cases escaped with
  | plain _ other => exact absurd rfl other
  | escape complete rest => exact ⟨_, _, rfl, complete, rest⟩

end Escaped

/-! ## Quoted texts -/

/-- The escapes of text literals, the backslash apart. -/
inductive TextEscape : List Char → Prop where
  | single {c d} (known : escape? c = some d) : TextEscape [c]
  | code {digits} (some : digits ≠ []) (few : digits.length ≤ 6)
      (hex : ∀ d ∈ digits, (Text.hexValue? d).isSome) :
      TextEscape ('u' :: '\x7b' :: (digits ++ ['\x7d']))

/-- Characters that neither end a text literal nor its line. -/
def OnLine (c : Char) : Prop := c ≠ '"' ∧ c ≠ '\n' ∧ c ≠ '\r'

theorem isSome_hexValue?_of_mem {n : Nat} {d : Char} (member : d ∈ Text.hexDigits n) :
    (Text.hexValue? d).isSome := by
  have digit (n : Nat) (small : n < 16) : (Text.hexValue? n.digitChar).isSome := by
    rw [hexValue?_digitChar n small]
    rfl
  induction n using Nat.strongRecOn with
  | _ n ih =>
      rcases Nat.lt_or_ge n 16 with small | more
      · rw [Text.hexDigits, Nat.toDigits_of_lt_base small, List.mem_singleton] at member
        exact member ▸ digit n small
      · rw [Text.hexDigits, Nat.toDigits_of_base_le (by decide) more] at member
        rcases List.mem_append.1 member with member | member
        · exact ih (n / 16) (Nat.div_lt_self (by omega) (by decide)) member
        · rw [List.mem_singleton.1 member]
          exact digit _ (Nat.mod_lt n (by decide))

theorem escaped_quoteChar (c : Char) : Escaped TextEscape OnLine (Text.quoteChar c) := by
  have single {c d : Char} (known : escape? c = some d) : Escaped TextEscape OnLine ['\\', c] :=
    @Escaped.escape _ _ [c] [] (.single known) .nil
  unfold Text.quoteChar
  split
  · exact single rfl
  split
  · exact single rfl
  split
  · exact single rfl
  split
  · exact single rfl
  split
  · exact single rfl
  split
  · exact single rfl
  split
  · next carriage feed quote slash _ => exact .plain ⟨quote, feed, carriage⟩ slash .nil
  · have complete : TextEscape ('u' :: '\x7b' :: (Text.hexDigits c.toNat ++ ['\x7d'])) :=
      .code Nat.toDigits_ne_nil (length_hexDigits_le c) fun _ => isSome_hexValue?_of_mem
    simpa using Escaped.escape complete .nil

/-- In a quoted text all escapes are complete. -/
theorem escaped_quote (content : List Char) :
    Escaped TextEscape OnLine (content.flatMap Text.quoteChar) :=
  .flatMap escaped_quoteChar content

/-- Such content stays on its line. -/
theorem Escaped.feed_not_mem {content : List Char} (escaped : Escaped TextEscape OnLine content) :
    '\n' ∉ content := by
  induction escaped with
  | nil => exact List.not_mem_nil
  | plain shown _ rest ih => exact List.not_mem_cons_of_ne_of_not_mem shown.2.1.symm ih
  | escape complete rest ih =>
      refine List.not_mem_cons_of_ne_of_not_mem (by decide) (List.not_mem_append ?_ ih)
      cases complete with
      | single known =>
          rw [List.mem_singleton]
          rintro rfl
          cases known
      | code some few hex =>
          have inside : '\n' ∉ _ := fun member => absurd (hex _ member) (by decide)
          simp [inside]

/-! ## Byte strings -/

/-- The escapes of byte strings, the backslash apart; the last one continues the string on the next
line. -/
inductive ByteEscape : List Char → Prop where
  | single {c d} (known : escape? c = some d) : ByteEscape [c]
  | code {first second} (high : (Text.hexValue? first).isSome)
      (low : (Text.hexValue? second).isSome) : ByteEscape ['x', first, second]
  | line : ByteEscape ['\n']

/-- Code that is one byte string from end to end, where `allowed` says what may stand for itself. -/
def IsByteString (allowed : Char → Prop) (code : List Char) : Prop :=
  ∃ content, code = 'b' :: '"' :: (content ++ ['"']) ∧
    Escaped ByteEscape (fun c => allowed c ∧ c ≠ '"') content

/-- Text with a backslash before each double quote. -/
def escapeQuotes (cs : List Char) : List Char :=
  cs.flatMap fun c => if c = '"' then ['\\', '"'] else [c]

theorem escapeQuotes_cons {c : Char} (other : c ≠ '"') (cs : List Char) :
    escapeQuotes (c :: cs) = c :: escapeQuotes cs := by
  simp [escapeQuotes, other]

theorem escapeQuotes_append {code : List Char} (free : '"' ∉ code) (cs : List Char) :
    escapeQuotes (code ++ cs) = code ++ escapeQuotes cs := by
  induction code with
  | nil => rfl
  | cons c code ih =>
      have other := List.ne_of_not_mem_cons free
      rw [List.cons_append, escapeQuotes_cons other.symm, ih (List.not_mem_of_not_mem_cons free),
        List.cons_append]

/-- What a text without backslashes comes from is this text, and there is no double quote in it. -/
theorem eq_append_of_escapeQuotes_eq {code cs rest : List Char} (plain : '\\' ∉ code)
    (same : escapeQuotes cs = code ++ rest) :
    ∃ cs', cs = code ++ cs' ∧ rest = escapeQuotes cs' ∧ '"' ∉ code := by
  induction code generalizing cs with
  | nil => exact ⟨cs, rfl, same.symm, List.not_mem_nil⟩
  | cons c code ih =>
      have other := List.ne_of_not_mem_cons plain
      cases cs with
      | nil => cases same
      | cons d cs =>
          by_cases quote : d = '"'
          · subst quote
            exact absurd (List.cons.inj same).1 other
          · rw [escapeQuotes_cons quote] at same
            obtain ⟨rfl, later⟩ := List.cons.inj same
            obtain ⟨cs', rfl, rest, free⟩ := ih (List.not_mem_of_not_mem_cons plain) later
            exact ⟨cs', rfl, rest, List.not_mem_cons_of_ne_of_not_mem (Ne.symm quote) free⟩

theorem ByteEscape.not_mem {code : List Char} (escape : ByteEscape code) {c : Char}
    (named : c = '"' ∨ c = '\\') (other : code ≠ [c]) : c ∉ code := by
  have hexless : Text.hexValue? c = none := by
    rcases named with rfl | rfl <;> decide
  cases escape with
  | single known => simpa [eq_comm] using other
  | code high low =>
      simp only [List.mem_cons, List.not_mem_nil, or_false, not_or]
      refine ⟨?_, ?_, ?_⟩
      · rcases named with rfl | rfl <;> decide
      · rintro rfl
        rw [hexless] at high
        cases high
      · rintro rfl
        rw [hexless] at low
        cases low
  | line => rcases named with rfl | rfl <;> decide

section

variable {allowed : Char → Prop}

/-- Behind a backslash only an escape that is no double quote stays complete, as such a quote gets a
backslash of its own. -/
theorem exists_escape_of_escapeQuotes {cs : List Char}
    (escaped : Escaped ByteEscape (fun c => allowed c ∧ c ≠ '"') ('\\' :: escapeQuotes cs)) :
    ∃ code ds, cs = code ++ ds ∧ (ByteEscape code ∧ code ≠ ['"']) ∧
      Escaped ByteEscape (fun c => allowed c ∧ c ≠ '"') (escapeQuotes ds) := by
  obtain ⟨code, rest, split, complete, others⟩ := escaped.of_backslash
  by_cases double : code = ['\\']
  · subst double
    cases cs with
    | nil => cases split
    | cons d ds =>
        by_cases quote : d = '"'
        · subst quote
          cases split
          exact absurd rfl (others.of_cons (by decide)).1.2
        · rw [escapeQuotes_cons quote] at split
          cases split
          exact ⟨['\\'], ds, rfl, ⟨complete, by decide⟩, others⟩
  · obtain ⟨ds, rfl, rfl, free⟩ :=
      eq_append_of_escapeQuotes_eq (complete.not_mem (.inr rfl) double) split
    exact ⟨code, ds, rfl, ⟨complete, fun single => free (by simp [single])⟩, others⟩

/-- Text between single quotes becomes the content of a byte string exactly if its own escapes are
complete, where a double quote stands for itself and is not what a backslash escapes. -/
theorem escaped_escapeQuotes_iff (inner : List Char) :
    Escaped ByteEscape (fun c => allowed c ∧ c ≠ '"') (escapeQuotes inner) ↔
      Escaped (fun code => ByteEscape code ∧ code ≠ ['"']) (fun c => allowed c ∨ c = '"') inner := by
  constructor
  · intro escaped
    -- an escape takes up several characters at once, so the induction is on the length
    induction size : inner.length using Nat.strongRecOn generalizing inner with
    | _ size ih =>
        subst size
        cases inner with
        | nil => exact .nil
        | cons c cs =>
            by_cases quote : c = '"'
            · subst quote
              obtain ⟨code, rest, split, complete, others⟩ := escaped.of_backslash
              obtain rfl : rest = escapeQuotes cs := by
                cases complete <;> cases split
                rfl
              exact .plain (.inr rfl) (by decide) (ih cs.length (by simp) cs others rfl)
            rw [escapeQuotes_cons quote] at escaped
            by_cases slash : c = '\\'
            · subst slash
              obtain ⟨code, ds, rfl, complete, others⟩ := exists_escape_of_escapeQuotes escaped
              have shorter : ds.length < ('\\' :: (code ++ ds)).length := by
                rw [List.length_cons, List.length_append]
                omega
              exact .escape complete (ih ds.length shorter ds others rfl)
            · obtain ⟨⟨shown, -⟩, others⟩ := escaped.of_cons slash
              exact .plain (.inl shown) slash (ih cs.length (by simp) cs others rfl)
  · intro escaped
    induction escaped with
    | nil => exact .nil
    | @plain c cs shown other rest ih =>
        by_cases quote : c = '"'
        · subst quote
          exact .escape (.single rfl) ih
        · rw [escapeQuotes_cons quote]
          exact .plain ⟨shown.resolve_right quote, quote⟩ other ih
    | @escape code cs complete rest ih =>
        have free := complete.1.not_mem (.inl rfl) complete.2
        rw [escapeQuotes_cons (by decide), escapeQuotes_append free]
        exact .escape complete.1 ih

end

end SolanaBlocks.Grammar
