import SolanaBlocks.Proofs.Decimal.Numerals
import SolanaBlocks.Proofs.Grammar.Tokens
import SolanaBlocks.Text.Quoted

/-!
# Literals as tokens

A numeral is one token. So is a quoted text, and the content of the token is the text.
-/

namespace SolanaBlocks.Grammar

open Decimal

theorem isNameChar_of_isDigit {c : Char} (digit : c.isDigit) : Text.isNameChar c := by
  simp [Text.isNameChar, Char.isAlphanum, digit]

theorem not_isDigit_of_ends {rest : List Char} (ended : ends rest) :
    ¬ rest.head?.any Char.isDigit := by
  intro digit
  refine not_isNameChar_of_ends ended ?_
  cases rest with
  | nil => exact digit
  | cons c rest => exact isNameChar_of_isDigit digit

theorem splitNumeral_append {numeral rest : List Char} (shape : Numeral numeral)
    (ended : ends rest) : splitNumeral (numeral ++ rest) = (numeral, rest) := by
  cases shape with
  | whole some digits =>
      obtain ⟨taken, left⟩ := takeWhile_isDigit digits (not_isDigit_of_ends ended)
      rw [splitNumeral, taken, left]
      split
      · next d rest =>
          have other : d.isDigit = false := by simpa [ends] using ended
          simp [other]
      · rfl
  | @point ds es some digits fraction behind =>
      have stop : ¬ ('.' :: es ++ rest).head?.any Char.isDigit := by simp
      obtain ⟨taken, left⟩ := takeWhile_isDigit digits stop
      cases es with
      | nil => exact absurd rfl fraction
      | cons e es =>
          have others : ∀ d ∈ es, d.isDigit := fun d member =>
            behind d (List.mem_cons_of_mem e member)
          have tail := takeWhile_isDigit others (not_isDigit_of_ends ended)
          have digit : e.isDigit := behind e List.mem_cons_self
          rw [splitNumeral, List.append_assoc, taken, left]
          simp [digit, tail]

theorem token?_numeral {numeral rest : List Char} (shape : Numeral numeral) (ended : ends rest) :
    token? (numeral ++ rest) = some (.number (String.ofList numeral), rest) := by
  obtain ⟨d, tail, rfl, digit⟩ := shape.head
  have split := splitNumeral_append shape ended
  rw [List.cons_append] at split ⊢
  simp [token?, digit, split, not_isNameChar_of_ends ended]

theorem hexValue?_digitChar : ∀ n < 16, Text.hexValue? n.digitChar = some n := by
  decide

theorem readText_hexDigit {n : Nat} (digit : n < 16) (count value : Nat) (cs : List Char) :
    readText (.digits count value) (n.digitChar :: cs) =
      readText (.digits (count + 1) (16 * value + n)) cs := by
  have brace : n.digitChar ≠ '\x7d' := by
    have none : ∀ n < 16, n.digitChar ≠ '\x7d' := by decide
    exact none n digit
  simp [readText, brace, hexValue?_digitChar n digit]

theorem readText_hexDigits (n count value : Nat) (cs : List Char) :
    readText (.digits count value) (Text.hexDigits n ++ cs) =
      readText (.digits (count + (Text.hexDigits n).length)
        (16 ^ (Text.hexDigits n).length * value + n)) cs := by
  induction n using Nat.strongRecOn generalizing cs with
  | _ n ih =>
      rcases Nat.lt_or_ge n 16 with digit | more
      · rw [Text.hexDigits, Nat.toDigits_of_lt_base digit]
        simpa using readText_hexDigit digit count value cs
      · have last : n % 16 < 16 := Nat.mod_lt n (by decide)
        have split : Text.hexDigits n = Text.hexDigits (n / 16) ++ [(n % 16).digitChar] :=
          Nat.toDigits_of_base_le (by decide) more
        rw [split, List.append_assoc, List.singleton_append,
          ih (n / 16) (Nat.div_lt_self (by omega) (by decide)), readText_hexDigit last]
        simp only [List.length_append, List.length_singleton]
        congr 2
        rw [Nat.pow_succ]
        have whole := Nat.div_add_mod n 16
        rw [Nat.mul_add, ← Nat.mul_assoc, Nat.mul_comm 16, Nat.add_assoc, whole]

theorem length_hexDigits_le (c : Char) : (Text.hexDigits c.toNat).length ≤ 6 := by
  rw [Text.hexDigits, Nat.length_toDigits_le_iff (by decide) (by decide)]
  have valid := c.valid
  simp only [UInt32.isValidChar, Nat.isValidChar] at valid
  have same : c.val.toNat = c.toNat := rfl
  omega

theorem readText_code (c : Char) (cs : List Char) :
    readText (.digits 0 0) (Text.hexDigits c.toNat ++ '\x7d' :: cs) =
      (readText .plain cs).map (Prod.map (c :: ·) id) := by
  have few := length_hexDigits_le c
  have some : 0 < (Text.hexDigits c.toNat).length := Nat.length_toDigits_pos
  have valid : c.toNat.isValidChar := c.valid
  rw [readText_hexDigits]
  simp [readText, few, some, valid, Char.ofNat_toNat]

theorem readText_quoteChar (c : Char) (cs : List Char) :
    readText .plain (Text.quoteChar c ++ cs) =
      (readText .plain cs).map (Prod.map (c :: ·) id) := by
  unfold Text.quoteChar
  split
  · next zero =>
      have same : c = Char.ofNat 0 := by
        rw [← Char.ofNat_toNat c, zero]
      subst same
      rfl
  split
  · next same => subst same; rfl
  split
  · next same => subst same; rfl
  split
  · next same => subst same; rfl
  split
  · next same => subst same; rfl
  split
  · next same => subst same; rfl
  split
  · next quote slash _ => simp [readText, quote, slash]
  · have start : ['\\', 'u', '\x7b'] ++ Text.hexDigits c.toNat ++ ['\x7d'] ++ cs =
        '\\' :: 'u' :: '\x7b' :: (Text.hexDigits c.toNat ++ '\x7d' :: cs) := by simp
    rw [start, ← readText_code]
    rfl

theorem readText_quote (content rest : List Char) :
    readText .plain (content.flatMap Text.quoteChar ++ '"' :: rest) = some (content, rest) := by
  induction content with
  | nil => rfl
  | cons c content ih =>
      rw [List.flatMap_cons, List.append_assoc, readText_quoteChar, ih]
      rfl

theorem token?_quote (content rest : List Char) :
    token? (Text.quoteChars content ++ rest) = some (.text (String.ofList content), rest) := by
  have code : Text.quoteChars content ++ rest =
      '"' :: (content.flatMap Text.quoteChar ++ '"' :: rest) := by simp [Text.quoteChars]
  rw [code]
  change (readText .plain _).map _ = _
  rw [readText_quote]
  rfl

end SolanaBlocks.Grammar
