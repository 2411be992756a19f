import SolanaBlocks.Text.Identifier

/-!
# Variables named after types

The variable for a type is named by the type's name in small letters, with underscores between the
words. If the type has a name that can be used, so has the variable: only a reserved word can come
out of the small letters that was not there before, and the ending that is then put behind it
contains an underscore, which no reserved word does. Since no capital is left there is nothing more
to do, and a name that has been made this way stays as it is.
-/

namespace SolanaBlocks.Text

variable {cs ds : List Char} {c : Char} {name : String}

/-! ## The characters of names -/

/-- What a look at all ASCII characters shows of them. -/
theorem of_ascii {P : Char → Prop} (all : ∀ n < 0x80, P (Char.ofNat n)) (ascii : c.toNat < 0x80) :
    P c := by
  rw [← Char.ofNat_toNat c]
  exact all c.toNat ascii

theorem toNat_lt_of_isNameChar (named : isNameChar c = true) : c.toNat < 0x80 := by
  rw [isNameChar_eq, Bool.or_eq_true] at named
  rcases named with start | digit
  · rcases isNameStart_iff.1 start with letter | rfl
    · omega
    · decide
  · simp only [Char.isDigit, Bool.and_eq_true, decide_eq_true_eq, ge_iff_le,
      UInt32.le_iff_toNat_le] at digit
    simp at digit
    omega

/-- The characters of names other than capitals. -/
def isPlain (c : Char) : Bool := isNameChar c && !isCapital c

theorem isNameChar_of_isPlain (plain : isPlain c = true) : isNameChar c = true :=
  (Bool.and_eq_true_iff.1 plain).1

theorem isCapital_of_isPlain (plain : isPlain c = true) : isCapital c = false := by
  simpa using (Bool.and_eq_true_iff.1 plain).2

theorem isPlain_toLower (named : isNameChar c = true) : isPlain c.toLower = true :=
  of_ascii (P := fun c => isNameChar c = true → isPlain c.toLower = true) (by decide +kernel)
    (toNat_lt_of_isNameChar named) named

theorem toLower_of_isPlain (plain : isPlain c = true) : c.toLower = c :=
  of_ascii (P := fun c => isPlain c = true → c.toLower = c) (by decide +kernel)
    (toNat_lt_of_isNameChar (isNameChar_of_isPlain plain)) plain

/-- Small letters start names where capitals do, and no capital becomes an underscore. -/
theorem start_toLower (start : isNameStart c = true) :
    isNameStart c.toLower = true ∧ (c.toLower = '_' → c = '_') :=
  of_ascii
    (P := fun c =>
      isNameStart c = true → isNameStart c.toLower = true ∧ (c.toLower = '_' → c = '_'))
    (by decide +kernel) (toNat_lt_of_isNameChar (isNameChar_of_isNameStart start)) start

theorem toSmall_of_isNameChar (named : isNameChar c = true) : toSmall c = [c.toLower] :=
  if_pos (toNat_lt_of_isNameChar named)

/-- The small form of a name letter by letter. -/
theorem toSmallAfter_of_named (before : List Char) (named : ∀ c ∈ cs, isNameChar c = true) :
    toSmallAfter before cs = cs.map Char.toLower := by
  induction cs generalizing before with
  | nil => rfl
  | cons c cs ih =>
      obtain ⟨here, later⟩ := List.forall_mem_cons.1 named
      have noSigma : c.toNat ≠ 0x3A3 := by
        have := toNat_lt_of_isNameChar here
        omega
      rw [toSmallAfter, if_neg noSigma, toSmall_of_isNameChar here, ih (c :: before) later]
      rfl

/-! ## The words of a name -/

/-- The second text is the first one with underscores inserted. -/
inductive Underscored : List Char → List Char → Prop
  | nil : Underscored [] []
  | keep (c : Char) {cs ds : List Char} : Underscored cs ds → Underscored (c :: cs) (c :: ds)
  | insert {cs ds : List Char} : Underscored cs ds → Underscored cs ('_' :: ds)

theorem Underscored.length_le (underscored : Underscored cs ds) : cs.length ≤ ds.length := by
  induction underscored with
  | nil => exact Nat.le_refl 0
  | keep c _ ih => exact Nat.succ_le_succ ih
  | insert _ ih => exact Nat.le_succ_of_le ih

theorem snakeAfter_cons (previous c : Char) (cs : List Char) (named : isNameChar c = true) :
    snakeAfter previous (c :: cs) = c.toLower :: snakeAfter c cs ∨
      isCapital c = true ∧ snakeAfter previous (c :: cs) = '_' :: c.toLower :: snakeAfter c cs := by
  rw [snakeAfter, toSmall_of_isNameChar named]
  cases capital : isCapital c <;> cases startsWord previous cs.head? <;> simp

/-- Behind the first character of a name, underscores are inserted into the small form. -/
theorem underscored_snakeAfter (previous : Char) (named : ∀ c ∈ cs, isNameChar c = true) :
    Underscored (cs.map Char.toLower) (snakeAfter previous cs) := by
  induction cs generalizing previous with
  | nil => exact .nil
  | cons c cs ih =>
      obtain ⟨here, later⟩ := List.forall_mem_cons.1 named
      have rest : Underscored (c.toLower :: cs.map Char.toLower) (c.toLower :: snakeAfter c cs) :=
        .keep c.toLower (ih c later)
      rcases snakeAfter_cons previous c cs here with joined | ⟨-, apart⟩
      · exact joined ▸ rest
      · exact apart ▸ rest.insert

theorem isPlain_snakeAfter (previous : Char) (named : ∀ c ∈ cs, isNameChar c = true) :
    ∀ c ∈ snakeAfter previous cs, isPlain c = true := by
  induction cs generalizing previous with
  | nil => exact fun _ none => absurd none List.not_mem_nil
  | cons c cs ih =>
      obtain ⟨here, later⟩ := List.forall_mem_cons.1 named
      have rest : ∀ d ∈ c.toLower :: snakeAfter c cs, isPlain d = true :=
        List.forall_mem_cons.2 ⟨isPlain_toLower here, ih c later⟩
      rcases snakeAfter_cons previous c cs here with joined | ⟨-, apart⟩
      · exact joined ▸ rest
      · rw [apart]
        exact List.forall_mem_cons.2 ⟨by decide +kernel, rest⟩

/-- Where there are no capitals, nothing changes. -/
theorem snakeAfter_eq_self (previous : Char) (plain : ∀ c ∈ cs, isPlain c = true) :
    snakeAfter previous cs = cs := by
  induction cs generalizing previous with
  | nil => rfl
  | cons c cs ih =>
      obtain ⟨here, later⟩ := List.forall_mem_cons.1 plain
      rcases snakeAfter_cons previous c cs (isNameChar_of_isPlain here) with joined | ⟨capital, -⟩
      · rw [joined, toLower_of_isPlain here, ih c later]
      · rw [isCapital_of_isPlain here] at capital
        cases capital

theorem snakeChars_eq_self (plain : ∀ c ∈ cs, isPlain c = true) : snakeChars cs = cs := by
  cases cs with
  | nil => rfl
  | cons c cs =>
      obtain ⟨here, later⟩ := List.forall_mem_cons.1 plain
      rw [snakeChars, toSmall_of_isNameChar (isNameChar_of_isPlain here), toLower_of_isPlain here,
        snakeAfter_eq_self c later]
      rfl

/-! ## Names -/

/-- The words of a name, before anything is put behind them. -/
structure WordsOf (name words : String) : Prop where
  underscored : Underscored (lowercase name).toList words.toList
  plain : ∀ c ∈ words.toList, isPlain c = true
  starts : words.toList.head?.any isNameStart = true
  several : words ≠ "_"

theorem wordsOf_snakeChars (valid : isIdentifier name = true) :
    WordsOf name (String.ofList (snakeChars name.toList)) := by
  obtain ⟨first, rest, spelled, start, others, lone, -⟩ := isIdentifier_iff.1 valid
  have here : isNameChar first = true := isNameChar_of_isNameStart start
  have named : ∀ c ∈ first :: rest, isNameChar c = true := List.forall_mem_cons.2 ⟨here, others⟩
  have words : snakeChars (first :: rest) = first.toLower :: snakeAfter first rest := by
    rw [snakeChars, toSmall_of_isNameChar here]
    rfl
  have underscored := underscored_snakeAfter first others
  rw [spelled, words]
  constructor
  · rw [lowercase, spelled, toSmallAfter_of_named [] named]
    simpa using underscored.keep first.toLower
  · rw [String.toList_ofList]
    exact List.forall_mem_cons.2 ⟨isPlain_toLower here, isPlain_snakeAfter first others⟩
  · rw [String.toList_ofList]
    exact (start_toLower start).1
  · intro single
    have chars := congrArg String.toList single
    rw [String.toList_ofList] at chars
    obtain ⟨head, tail⟩ := List.cons.inj chars
    -- a lone underscore has nothing behind it, so it was one before
    have short := underscored.length_le
    rw [tail, List.length_map] at short
    have none : rest = [] := List.eq_nil_of_length_eq_zero (Nat.le_zero.1 short)
    apply lone
    rw [← String.toList_inj, spelled, none, (start_toLower start).2 head]
    rfl

theorem underscore_not_mem_of_reserved {word : String} (reserved : word ∈ reservedWords) :
    '_' ∉ word.toList := by
  have all : ∀ word ∈ reservedWords, '_' ∉ word.toList := by decide +kernel
  exact all word reserved

namespace WordsOf

variable {words : String}

/-- A text of the same characters that begins as the words do is a name, unless it is reserved. -/
theorem isIdentifier_append (h : WordsOf name words) (ending : String)
    (plain : ∀ c ∈ ending.toList, isPlain c = true) (several : words ++ ending ≠ "_")
    (free : words ++ ending ∉ reservedWords) : isIdentifier (words ++ ending) = true := by
  have starts := h.starts
  cases spelled : words.toList with
  | nil => simp [spelled] at starts
  | cons first rest =>
      rw [spelled] at starts
      have all := h.plain
      rw [spelled] at all
      refine isIdentifier_iff.2
        ⟨first, rest ++ ending.toList, ?_, starts, fun c hc => isNameChar_of_isPlain ?_, several, free⟩
      · rw [String.toList_append, spelled, List.cons_append]
      · rcases List.mem_append.1 hc with inside | behind
        · exact all c (List.mem_cons_of_mem first inside)
        · exact plain c behind

theorem isIdentifier_iff (h : WordsOf name words) :
    isIdentifier words = true ↔ words ∉ reservedWords := by
  constructor
  · intro valid
    obtain ⟨_, _, -, -, -, -, free⟩ := Text.isIdentifier_iff.1 valid
    exact free
  · intro free
    have valid := h.isIdentifier_append "" (fun c none => absurd none (by simp))
    rw [String.append_empty] at valid
    exact valid h.several free

/-- What the variable is called. -/
theorem ended (h : WordsOf name words) :
    (if isIdentifier words then words else words ++ "_data") =
      if words ∈ reservedWords then words ++ "_data" else words := by
  by_cases reserved : words ∈ reservedWords
  · rw [if_pos reserved, if_neg fun valid => h.isIdentifier_iff.1 valid reserved]
  · rw [if_neg reserved, if_pos (h.isIdentifier_iff.2 reserved)]

end WordsOf

/-- The name of a variable is the words of the type's name, and an ending if they are reserved. -/
theorem exists_wordsOf (valid : isIdentifier name = true) :
    ∃ words, WordsOf name words ∧
      snakeCase name = if words ∈ reservedWords then words ++ "_data" else words :=
  ⟨_, wordsOf_snakeChars valid, (wordsOf_snakeChars valid).ended⟩

theorem plain_ending : ∀ c ∈ "_data".toList, isPlain c = true :=
  List.all_eq_true.1 (by decide +kernel)

theorem isPlain_snakeCase (valid : isIdentifier name = true) :
    ∀ c ∈ (snakeCase name).toList, isPlain c = true := by
  obtain ⟨words, h, called⟩ := exists_wordsOf valid
  rw [called]
  split
  · rw [String.toList_append]
    exact List.forall_mem_append.2 ⟨h.plain, plain_ending⟩
  · exact h.plain

theorem isIdentifier_snakeCase (valid : isIdentifier name = true) :
    isIdentifier (snakeCase name) = true := by
  obtain ⟨words, h, called⟩ := exists_wordsOf valid
  rw [called]
  split
  · have inside : '_' ∈ (words ++ "_data").toList := by
      rw [String.toList_append]
      exact List.mem_append_right _ (by decide)
    refine h.isIdentifier_append "_data" plain_ending (fun lone => ?_) fun reserved => ?_
    · have longer : 5 ≤ (words ++ "_data").length := by
        rw [String.length_append]
        exact Nat.le_add_left 5 words.length
      rw [lone] at longer
      exact absurd longer (by decide)
    · exact underscore_not_mem_of_reserved reserved inside
  · next free => exact h.isIdentifier_iff.2 free

theorem snakeCase_eq_self (valid : isIdentifier name = true)
    (plain : ∀ c ∈ name.toList, isPlain c = true) : snakeCase name = name := by
  rw [snakeCase, snakeChars_eq_self plain, String.ofList_toList, if_pos valid]

/-- A type with a usable name gives its variable one: neither empty nor a lone underscore nor
reserved, without capitals, and the small form of the type's name with underscores inserted, an
ending behind it exactly if that is reserved. Naming a variable after the name again changes
nothing. -/
theorem snakeCase_of_isIdentifier (name : String) (valid : isIdentifier name = true) :
    isIdentifier (snakeCase name) = true ∧
      (snakeCase name ≠ "" ∧ snakeCase name ≠ "_" ∧ snakeCase name ∉ reservedWords) ∧
      (∀ c ∈ (snakeCase name).toList, isCapital c = false) ∧
      (∃ words : String, Underscored (lowercase name).toList words.toList ∧
        snakeCase name = if words ∈ reservedWords then words ++ "_data" else words) ∧
      snakeCase (snakeCase name) = snakeCase name := by
  have usable := isIdentifier_snakeCase valid
  have plain := isPlain_snakeCase valid
  obtain ⟨words, h, called⟩ := exists_wordsOf valid
  obtain ⟨first, rest, spelled, -, -, lone, free⟩ := Text.isIdentifier_iff.1 usable
  have filled : snakeCase name ≠ "" := by
    intro empty
    rw [empty] at spelled
    cases spelled
  refine ⟨usable, ⟨filled, lone, free⟩, ?_, ⟨words, h.underscored, called⟩, ?_⟩
  · exact fun c inside => isCapital_of_isPlain (plain c inside)
  · exact snakeCase_eq_self usable plain

/-- Acronyms and digits. -/
example : snakeCase "RPCNode2Account_Info" = "rpc_node2_account_info" := by decide +kernel

/-- A type whose name is reserved once it is in small letters. -/
theorem snakeCase_of_isIdentifier_reserved :
    isIdentifier "Match" = true ∧ lowercase "Match" = "match" ∧ "match" ∈ reservedWords ∧
      snakeCase "Match" = "match_data" ∧ isIdentifier (snakeCase "Match") = true ∧
      snakeCase (snakeCase "Match") = snakeCase "Match" := by
  have valid : isIdentifier "Match" = true := by decide +kernel
  obtain ⟨usable, -, -, -, stays⟩ := snakeCase_of_isIdentifier "Match" valid
  exact ⟨valid, by decide +kernel, by decide, by decide +kernel, usable, stays⟩

end SolanaBlocks.Text
