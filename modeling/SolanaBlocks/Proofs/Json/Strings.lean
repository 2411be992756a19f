import SolanaBlocks.Json.Reader

/-!
# Strings read back

Every character is read back from the way it is written inside a string, the escaped ones included,
so every string reads as itself whatever comes after its closing quote.
-/

namespace SolanaBlocks.Json

theorem hexValue?_hexDigit {n : Nat} (small : n < 16) : hexValue? (hexDigit n) = some n := by
  have all : ∀ n < 16, hexValue? (hexDigit n) = some n := by decide
  exact all n small

/-- Two digits in base sixteen after two zeros. -/
theorem readHex4_hexDigit {n : Nat} (small : n < 256) (rest : List Char) :
    readHex4 ('0' :: '0' :: hexDigit (n / 16) :: hexDigit (n % 16) :: rest) = .ok (n, rest) := by
  have zero : hexValue? '0' = some 0 := by decide
  have high : hexValue? (hexDigit (n / 16)) = some (n / 16) := hexValue?_hexDigit (by omega)
  have low : hexValue? (hexDigit (n % 16)) = some (n % 16) := hexValue?_hexDigit (by omega)
  have whole : ((0 * 16 + 0) * 16 + n / 16) * 16 + n % 16 = n := by omega
  simp [readHex4, zero, high, low, Nat.div_add_mod']

/-- A control character is read back from its number. -/
theorem readEscape_unicode {c : Char} (control : c.toNat < 0x20) (rest : List Char) :
    readEscape false ('u' :: '0' :: '0' :: hexDigit (c.toNat / 16) :: hexDigit (c.toNat % 16) ::
      rest) = .ok (c, rest) := by
  have read := readHex4_hexDigit (show c.toNat < 256 by omega) rest
  have low : ¬ 0xDC00 ≤ c.toNat := by omega
  have high : c.toNat < 0xD800 := by omega
  simp [readEscape, readUnicodeEscape, read, bind, Except.bind, low, high, Char.ofNat_toNat, pure,
    Except.pure]

/-- One character of a string, before anything else. -/
theorem readCharsWithin_escapeChar (c : Char) (fuel : Nat) (rest : List Char) :
    readCharsWithin false (fuel + 1) (escapeChar c ++ rest) =
      (readCharsWithin false fuel rest).map fun (cs, rest) => (c :: cs, rest) := by
  have eq_of_toNat {n : Nat} (same : c.toNat = n) : c = Char.ofNat n := by
    rw [← same, Char.ofNat_toNat]
  have escaped {code : List Char} (read : readEscape false (code ++ rest) = .ok (c, rest)) :
      readCharsWithin false (fuel + 1) ('\\' :: code ++ rest) =
        (readCharsWithin false fuel rest).map fun (cs, rest) => (c :: cs, rest) := by
    simp only [List.cons_append, readCharsWithin, read]
    cases more : readCharsWithin false fuel rest <;>
      simp [bind, Except.bind, more, Except.map, pure, Except.pure]
  unfold escapeChar
  split
  · next quote => exact escaped (by rw [quote]; rfl)
  split
  · next backslash => exact escaped (by rw [backslash]; rfl)
  split
  · next backspace => exact escaped (eq_of_toNat backspace ▸ rfl)
  split
  · next tab => exact escaped (tab ▸ rfl)
  split
  · next line => exact escaped (line ▸ rfl)
  split
  · next page => exact escaped (eq_of_toNat page ▸ rfl)
  split
  · next return_ => exact escaped (return_ ▸ rfl)
  split
  · next control => exact escaped (readEscape_unicode control rest)
  · next quote backslash _ _ _ _ _ plain =>
      rw [List.singleton_append, readCharsWithin, if_neg plain]
      · cases more : readCharsWithin false fuel rest <;>
          simp [bind, Except.bind, Except.map, pure, Except.pure]
      · exact quote
      · exact backslash

theorem readCharsWithin_flatMap (cs : List Char) {fuel : Nat} (enough : cs.length < fuel)
    (after : List Char) :
    readCharsWithin false fuel (cs.flatMap escapeChar ++ '"' :: after) = .ok (cs, after) := by
  induction cs generalizing fuel with
  | nil =>
      obtain ⟨fuel, rfl⟩ := Nat.exists_eq_add_one_of_ne_zero (Nat.ne_of_gt enough)
      rfl
  | cons c cs ih =>
      obtain ⟨fuel, rfl⟩ := Nat.exists_eq_add_one_of_ne_zero (Nat.ne_zero_of_lt enough)
      rw [List.flatMap_cons, List.append_assoc, readCharsWithin_escapeChar,
        ih (by simpa using enough)]
      rfl

theorem length_le_length_flatMap (cs : List Char) :
    cs.length ≤ (cs.flatMap escapeChar).length := by
  have some (c : Char) : 1 ≤ (escapeChar c).length := by
    unfold escapeChar
    (repeat' split) <;> simp
  induction cs with
  | nil => simp
  | cons c cs ih =>
      have := some c
      simp only [List.flatMap_cons, List.length_append, List.length_cons]
      omega

theorem writeText_append (s : String) (after : List Char) :
    writeText s ++ after = '"' :: (s.toList.flatMap escapeChar ++ '"' :: after) := by
  simp [writeText]

/-- A string is read back after its opening quote. -/
theorem readChars_flatMap (s : String) (after : List Char) :
    readChars false (s.toList.flatMap escapeChar ++ '"' :: after) = .ok (s, after) := by
  have shorter := length_le_length_flatMap s.toList
  have enough : s.toList.length < (s.toList.flatMap escapeChar ++ '"' :: after).length + 1 := by
    rw [List.length_append]
    omega
  rw [readChars, readCharsWithin_flatMap s.toList enough]
  simp [bind, Except.bind, pure, Except.pure]

end SolanaBlocks.Json
