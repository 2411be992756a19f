import SolanaBlocks.Proofs.Json.Numbers
import SolanaBlocks.Proofs.Json.Strings

/-!
# What is written is read

A JSON value written over many lines is read back with its arrays, objects and strings as they were.
Numbers come back as whatever their written forms stand for, a float without a value as `null`, and
what nests deeper than the reader goes is not read at all.
-/

namespace SolanaBlocks

/-! ## Results without their faults -/

theorem Except.ok_bind {ε α β : Type} (a : α) (f : α → Except ε β) : (Except.ok a >>= f) = f a :=
  rfl

theorem Except.toOption_bind {ε α β : Type} (x : Except ε α) (f : α → Except ε β) :
    (x >>= f).toOption = x.toOption.bind fun a => (f a).toOption := by
  cases x <;> rfl

theorem Except.toOption_map {ε α β : Type} (x : Except ε α) (f : α → β) :
    (x.map f).toOption = x.toOption.map f := by
  cases x <;> rfl

namespace Json

/-! ## Depth -/

mutual

/-- How deep arrays and objects nest in a value. -/
def depth : Json → Nat
  | array items => depthItems items + 1
  | object entries => depthEntries entries + 1
  | _ => 0

/-- How deep the items of an array nest. -/
def depthItems : List Json → Nat
  | [] => 0
  | item :: rest => max item.depth (depthItems rest)

/-- How deep the entries of an object nest. -/
def depthEntries : List (String × Json) → Nat
  | [] => 0
  | (_, value) :: rest => max value.depth (depthEntries rest)

end

/-- Induction from the parts of a value to the value. -/
theorem part_induction {motive : Json → Prop} (leaf : ∀ v, v.depth = 0 → motive v)
    (array : ∀ items, (∀ v ∈ items, motive v) → motive (array items))
    (object : ∀ entries, (∀ entry ∈ entries, motive entry.2) → motive (object entries)) :
    ∀ v, motive v
  | .array items => array items fun v _ => part_induction leaf array object v
  | .object entries => object entries fun entry _ => part_induction leaf array object entry.2
  | .null => leaf .null rfl
  | .bool b => leaf (.bool b) rfl
  | .integer n => leaf (.integer n) rfl
  | .float x => leaf (.float x) rfl
  | .text s => leaf (.text s) rfl
termination_by v => sizeOf v
decreasing_by
  · have := List.sizeOf_lt_of_mem ‹v ∈ items›
    simp only [Json.array.sizeOf_spec]
    omega
  · have := List.sizeOf_lt_of_mem ‹entry ∈ entries›
    have : sizeOf entry.2 < sizeOf entry := by cases entry; simp
    simp only [Json.object.sizeOf_spec]
    omega

/-! ## Reading again -/

/-- What the written form of a number is read as. -/
def readBack? (v : Json) : Option Json := (read v.compact).toOption

mutual

/-- What is read once a value has been written, if nothing nests too deep. -/
def reread? : Json → Option Json
  | null => some null
  | bool b => some (bool b)
  | integer n => readBack? (integer n)
  | float x => readBack? (float x)
  | text s => some (text s)
  | array items => (rereadItems? items).map array
  | object entries => (rereadEntries? entries).map object

/-- What is read of the items of an array. -/
def rereadItems? : List Json → Option (List Json)
  | [] => some []
  | item :: rest => (reread? item).bind fun item => (rereadItems? rest).map (item :: ·)

/-- What is read of the entries of an object. -/
def rereadEntries? : List (String × Json) → Option (List (String × Json))
  | [] => some []
  | (key, value) :: rest =>
    (reread? value).bind fun value => (rereadEntries? rest).map ((key, value) :: ·)

end

/-- What is read of an entry of an object. -/
def rereadPair? (entry : String × Json) : Option (String × Json) :=
  entry.2.reread?.map fun v => (entry.1, v)

theorem rereadItems?_eq_mapM (items : List Json) : rereadItems? items = items.mapM reread? := by
  induction items with
  | nil => rfl
  | cons item rest ih =>
      rw [rereadItems?, ih, List.mapM_cons]
      cases reread? item <;> cases rest.mapM reread? <;> rfl

theorem rereadEntries?_eq_mapM (entries : List (String × Json)) :
    rereadEntries? entries = entries.mapM rereadPair? := by
  induction entries with
  | nil => rfl
  | cons entry rest ih =>
      rw [rereadEntries?, ih, List.mapM_cons, rereadPair?]
      cases reread? entry.2 <;> cases rest.mapM rereadPair? <;> rfl

/-- What is read once a value has been written, by a reader that goes so deep. -/
def within? (limit : Nat) (v : Json) : Option Json :=
  if v.depth ≤ limit then v.reread? else none

/-- The same for an entry of an object. -/
def entryWithin? (limit : Nat) (entry : String × Json) : Option (String × Json) :=
  (within? limit entry.2).map fun v => (entry.1, v)

theorem within?_leaf {v : Json} (leaf : v.depth = 0) (limit : Nat) :
    v.within? limit = v.reread? := by
  simp [within?, leaf]

theorem within?_array_zero (items : List Json) : (array items).within? 0 = none := by
  simp [within?, depth]

theorem within?_object_zero (entries : List (String × Json)) :
    (object entries).within? 0 = none := by
  simp [within?, depth]

/-- Parts that are read under limits of their own are read together under the greater one. -/
theorem gate_bind {α β γ : Type} {p q : Prop} [Decidable p] [Decidable q] (x : Option α)
    (y : Option β) (f : α → β → γ) :
    ((if p then x else none).bind fun a => (if q then y else none).map (f a)) =
      if p ∧ q then x.bind fun a => y.map (f a) else none := by
  by_cases here : p <;> by_cases later : q <;> simp [here, later]

theorem within?_array (limit : Nat) (items : List Json) :
    (array items).within? (limit + 1) = (items.mapM (within? limit)).map array := by
  have each : items.mapM (within? limit) =
      if depthItems items ≤ limit then rereadItems? items else none := by
    induction items with
    | nil => rfl
    | cons item rest ih =>
        have here : (if item.depth ≤ limit then item.reread? else none) = within? limit item := rfl
        simp only [depthItems, Nat.max_le, rereadItems?, ← gate_bind, ← ih, List.mapM_cons, here]
        cases within? limit item <;> cases rest.mapM (within? limit) <;> rfl
  rw [each, within?, depth, reread?]
  simp only [Nat.add_le_add_iff_right]
  split <;> rfl

theorem within?_object (limit : Nat) (entries : List (String × Json)) :
    (object entries).within? (limit + 1) = (entries.mapM (entryWithin? limit)).map object := by
  have each : entries.mapM (entryWithin? limit) =
      if depthEntries entries ≤ limit then rereadEntries? entries else none := by
    induction entries with
    | nil => rfl
    | cons entry rest ih =>
        obtain ⟨key, value⟩ := entry
        have here : (if value.depth ≤ limit then value.reread? else none) =
            within? limit value := rfl
        simp only [depthEntries, Nat.max_le, rereadEntries?, ← gate_bind, ← ih, List.mapM_cons,
          entryWithin?, here]
        cases within? limit value <;> cases rest.mapM (entryWithin? limit) <;> rfl
  rw [each, within?, depth, reread?]
  simp only [Nat.add_le_add_iff_right]
  split <;> rfl

/-! ## The written text -/

/-- The characters that a reader passes over between values. -/
def IsGap (c : Char) : Prop := c = ' ' ∨ c = '\n' ∨ c = '\t' ∨ c = '\r'

instance (c : Char) : Decidable (IsGap c) :=
  inferInstanceAs (Decidable (_ ∨ _ ∨ _ ∨ _))

theorem skipBlanks_cons {c : Char} (solid : ¬ IsGap c) (cs : List Char) :
    skipBlanks (c :: cs) = c :: cs := by
  simp only [IsGap, not_or] at solid
  simp [skipBlanks, solid]

theorem skipBlanks_newLine (level : Nat) (cs : List Char) :
    skipBlanks (newLine level ++ cs) = skipBlanks cs := by
  have spaces (n : Nat) : skipBlanks (List.replicate n ' ' ++ cs) = skipBlanks cs := by
    induction n with
    | zero => rfl
    | succ n ih => rw [List.replicate_succ, List.cons_append, ← ih]; rfl
  rw [newLine, List.cons_append, ← spaces (2 * level)]
  rfl

theorem writeFloat_unbounded {x : Float} (unbounded : ¬ (float x).IsNumber) :
    writeFloat x = "null".toList := by
  unfold IsNumber at unbounded
  unfold writeFloat Decimal.exchange?
  split
  · next same => simp [same, BinaryNumber.isFinite] at unbounded
  · rfl

/-- A text that starts with a character that is neither a blank nor a closing bracket. -/
def StartsValue (cs : List Char) : Prop :=
  ∃ c rest, cs = c :: rest ∧ ¬ IsGap c ∧ c ≠ ']'

theorem startsValue_cons {c : Char} {rest : List Char} (solid : ¬ IsGap c ∧ c ≠ ']') :
    StartsValue (c :: rest) :=
  ⟨c, rest, rfl, solid⟩

theorem startsValue_number {v : Json} (number : v.IsNumber) (after : List Char) :
    StartsValue (writeLeaf v ++ after) := by
  obtain ⟨numeral, proper, written⟩ := writeLeaf_number number
  rw [written]
  cases numeral.negative with
  | true => exact startsValue_cons (by decide)
  | false =>
      obtain ⟨d, rest, spelled⟩ := List.exists_cons_of_ne_nil proper.whole.1
      have digit : d.isDigit := proper.whole.2 d (by rw [spelled]; exact List.mem_cons_self)
      rw [Numeral.text, spelled]
      refine startsValue_cons ⟨?_, isDigit_ne digit rfl⟩
      simp only [IsGap, not_or]
      exact ⟨isDigit_ne digit rfl, isDigit_ne digit rfl, isDigit_ne digit rfl, isDigit_ne digit rfl⟩

theorem startsValue_writeLeaf {v : Json} (leaf : v.depth = 0) (after : List Char) :
    StartsValue (writeLeaf v ++ after) := by
  cases v with
  | null => exact startsValue_cons (by decide)
  | bool b => cases b <;> exact startsValue_cons (by decide)
  | integer n => exact startsValue_number (v := .integer n) trivial after
  | float x =>
      by_cases number : (float x).IsNumber
      · exact startsValue_number number after
      · rw [writeLeaf, writeFloat_unbounded number]
        exact startsValue_cons (by decide)
  | text s => exact startsValue_cons (by decide)
  | array items => cases leaf
  | object entries => cases leaf

theorem writePages_leaf {v : Json} (leaf : v.depth = 0) (level : Nat) (after : List Char) :
    writePages level after v = writeLeaf v ++ after := by
  cases v with
  | array items => cases leaf
  | object entries => cases leaf
  | _ => rfl

/-- A value starts with a character that is neither a blank nor a closing bracket. -/
theorem startsValue_writePages (level : Nat) (after : List Char) (v : Json) :
    StartsValue (writePages level after v) := by
  cases v with
  | array items => cases items <;> exact startsValue_cons (by decide)
  | object entries => cases entries <;> exact startsValue_cons (by decide)
  | _ => exact startsValue_writeLeaf rfl after

/-- What is written is longer than what stands behind it. -/
theorem length_writePages (v : Json) :
    ∀ level after, after.length < (writePages level after v).length := by
  have items (rest : List Json) (ih : ∀ item ∈ rest, ∀ level after,
      after.length < (writePages level after item).length) (level : Nat) (after : List Char) :
      after.length ≤ (writePagesItems level after rest).length := by
    induction rest with
    | nil => exact Nat.le_refl _
    | cons item rest later =>
        have here := ih item List.mem_cons_self level (writePagesItems level after rest)
        have := later fun other member => ih other (List.mem_cons_of_mem _ member)
        simp only [writePagesItems, List.length_cons, List.length_append]
        omega
  have entries (rest : List (String × Json)) (ih : ∀ entry ∈ rest, ∀ level after,
      after.length < (writePages level after entry.2).length) (level : Nat) (after : List Char) :
      after.length ≤ (writePagesEntries level after rest).length := by
    induction rest with
    | nil => exact Nat.le_refl _
    | cons entry rest later =>
        have here := ih entry List.mem_cons_self level (writePagesEntries level after rest)
        have := later fun other member => ih other (List.mem_cons_of_mem _ member)
        simp only [writePagesEntries, List.length_cons, List.length_append]
        omega
  induction v using part_induction with
  | array list ih =>
      intro level after
      cases list with
      | nil => simp only [writePages, writeLeaf, List.length_append, List.length_cons]; omega
      | cons item rest =>
          have here := ih item List.mem_cons_self (level + 1)
            (writePagesItems (level + 1) (newLine level ++ ']' :: after) rest)
          have later := items rest (fun other member => ih other (List.mem_cons_of_mem _ member))
            (level + 1) (newLine level ++ ']' :: after)
          simp only [writePages, List.length_cons, List.length_append] at here later ⊢
          omega
  | object list ih =>
      intro level after
      cases list with
      | nil => simp only [writePages, writeLeaf, List.length_append, List.length_cons]; omega
      | cons entry rest =>
          have here := ih entry List.mem_cons_self (level + 1)
            (writePagesEntries (level + 1) (newLine level ++ '\x7d' :: after) rest)
          have later := entries rest (fun other member => ih other (List.mem_cons_of_mem _ member))
            (level + 1) (newLine level ++ '\x7d' :: after)
          simp only [writePages, List.length_cons, List.length_append] at here later ⊢
          omega
  | leaf v leaf =>
      intro level after
      rw [writePages_leaf leaf, List.length_append]
      obtain ⟨c, rest, spelled, -⟩ := startsValue_writeLeaf leaf []
      rw [List.append_nil] at spelled
      rw [spelled, List.length_cons]
      omega

/-- A value is read as its text says, whatever blanks are in front of it. -/
theorem readValueWithin_skip (lenient : Bool) (fuel depth : Nat) {cs cs' : List Char}
    (same : skipBlanks cs = skipBlanks cs') :
    readValueWithin lenient fuel depth cs = readValueWithin lenient fuel depth cs' := by
  cases fuel with
  | zero => rfl
  | succ fuel =>
      rw [readValueWithin.eq_def, readValueWithin.eq_def lenient _ _ cs']
      dsimp only
      rw [same]

theorem readItemsWithin_skip (lenient : Bool) (fuel depth : Nat) {cs cs' : List Char}
    (same : skipBlanks cs = skipBlanks cs') :
    readItemsWithin lenient fuel depth cs = readItemsWithin lenient fuel depth cs' := by
  cases fuel with
  | zero => rfl
  | succ fuel =>
      rw [readItemsWithin, readItemsWithin, readValueWithin_skip lenient fuel depth same]

theorem endsNumber_cons {c : Char} {cs : List Char}
    (other : ¬ c.isDigit ∧ c ≠ '.' ∧ c ≠ 'e' ∧ c ≠ 'E') : EndsNumber (c :: cs) := by
  rintro _ ⟨⟩
  exact other

/-- A value is read from its text, as far as the reader goes. -/
def ReadsFromPages (v : Json) : Prop :=
  ∀ level limit fuel after, EndsNumber after → 2 * (writePages level after v).length + 2 ≤ fuel →
    (readValueWithin false fuel limit (writePages level after v)).toOption =
      (v.within? limit).map fun v => (v, after)

theorem readBack?_number {v : Json} (number : v.IsNumber) {numeral : Numeral}
    (proper : numeral.Proper)
    (written : writeLeaf v = Decimal.minus numeral.negative ++ numeral.text) :
    readBack? v = numeral.value.toOption := by
  have line : v.compact.toList = Decimal.minus numeral.negative ++ (numeral.text ++ []) := by
    cases v with
    | integer n => simp [compact, writeLine, written]
    | float x => simp [compact, writeLine, written]
    | _ => cases number
  have read := readValueWithin_numeral proper (show EndsNumber [] from nofun)
    (2 * v.compact.toList.length + 1) depthLimit
  rw [← line] at read
  rw [readBack?, Json.read, Except.toOption_bind, readValue, read]
  cases numeral.value <;> rfl

/-- A float without a value is written as `null`. -/
theorem readBack?_unbounded {x : Float} (unbounded : ¬ (float x).IsNumber) :
    readBack? (float x) = some null := by
  have line : (float x).compact = "null" := by
    simp [compact, writeLine, writeLeaf, writeFloat_unbounded unbounded]
  rw [readBack?, line]
  rfl

/-- A finite float is read as a float, if as anything. -/
theorem readBack?_finite {x : Float} (finite : (float x).IsNumber) {v : Json}
    (read : readBack? (float x) = some v) : ∃ y, v = float y := by
  obtain ⟨numeral, proper, broken, written⟩ := writeFloat_finite finite
  rw [readBack?_number finite proper written] at read
  cases same : numeral.value with
  | error fault =>
      rw [same] at read
      cases read
  | ok v =>
      rw [same] at read
      cases read
      exact Numeral.value_of_broken broken same

theorem readsFromPages_leaf {v : Json} (leaf : v.depth = 0) : ReadsFromPages v := by
  intro level limit fuel after ends enough
  obtain ⟨fuel, rfl⟩ := Nat.exists_eq_add_one_of_ne_zero (show fuel ≠ 0 by omega)
  rw [writePages_leaf leaf, within?_leaf leaf]
  have number (number : v.IsNumber) (same : v.reread? = readBack? v) :
      (readValueWithin false (fuel + 1) limit (writeLeaf v ++ after)).toOption =
        v.reread?.map fun v => (v, after) := by
    obtain ⟨numeral, proper, written⟩ := writeLeaf_number number
    rw [written, List.append_assoc, readValueWithin_numeral proper ends, Except.toOption_map, same,
      readBack?_number number proper written]
  cases v with
  | null => rfl
  | bool b => cases b <;> rfl
  | integer n => exact number trivial rfl
  | float x =>
      by_cases finite : (float x).IsNumber
      · exact number finite rfl
      · rw [reread?, readBack?_unbounded finite, writeLeaf, writeFloat_unbounded finite]
        rfl
  | text s =>
      rw [writeLeaf, writeText_append]
      simp only [readValueWithin, skipBlanks_cons (c := '"') (by decide), readChars_flatMap]
      rfl
  | array items => cases leaf
  | object entries => cases leaf

/-- What stands behind an item of an array. -/
theorem endsNumber_writePagesItems (level below : Nat) (after : List Char) (rest : List Json) :
    EndsNumber (writePagesItems level (newLine below ++ after) rest) := by
  cases rest with
  | nil => exact endsNumber_cons (by decide)
  | cons item rest => exact endsNumber_cons (by decide)

theorem readItemsWithin_writePages (limit level below : Nat) (after : List Char)
    (rest : List Json) {item : Json} (reads : ∀ v ∈ item :: rest, ReadsFromPages v) {fuel : Nat}
    (enough : 2 * (writePages level (writePagesItems level (newLine below ++ ']' :: after) rest)
      item).length + 3 ≤ fuel) :
    (readItemsWithin false fuel limit (writePages level
      (writePagesItems level (newLine below ++ ']' :: after) rest) item)).toOption =
      ((item :: rest).mapM (within? limit)).map fun items => (items, after) := by
  induction rest generalizing item fuel with
  | nil =>
      obtain ⟨fuel, rfl⟩ := Nat.exists_eq_add_one_of_ne_zero (show fuel ≠ 0 by omega)
      have first := reads item List.mem_cons_self level limit fuel _
        (endsNumber_writePagesItems level below (']' :: after) []) (by omega)
      have closing : skipBlanks (newLine below ++ ']' :: after) = ']' :: after := by
        rw [skipBlanks_newLine, skipBlanks_cons (by decide)]
      rw [readItemsWithin, Except.toOption_bind, first, List.mapM_cons]
      cases within? limit item with
      | none => rfl
      | some item =>
          simp only [Option.map_some, Option.bind_some, writePagesItems, closing]
          rfl
  | cons next rest ih =>
      obtain ⟨fuel, rfl⟩ := Nat.exists_eq_add_one_of_ne_zero (show fuel ≠ 0 by omega)
      have first := reads item List.mem_cons_self level limit fuel _
        (endsNumber_writePagesItems level below (']' :: after) (next :: rest)) (by omega)
      have shorter := length_writePages item level
        (writePagesItems level (newLine below ++ ']' :: after) (next :: rest))
      simp only [writePagesItems, List.cons_append, List.length_cons, List.length_append]
        at shorter enough first ⊢
      have later := ih (List.forall_mem_cons.1 reads).2 (show _ ≤ fuel by omega)
      rw [readItemsWithin, Except.toOption_bind, first, List.mapM_cons]
      cases within? limit item with
      | none => rfl
      | some item =>
          have blank := skipBlanks_newLine level
            (writePages level (writePagesItems level (newLine below ++ ']' :: after) rest) next)
          simp only [Option.map_some, Option.bind_some, skipBlanks_cons (c := ',') (by decide)]
          rw [Except.toOption_bind, readItemsWithin_skip false fuel limit blank, later]
          cases (next :: rest).mapM (within? limit) <;> rfl

/-- The text of an entry: its key, a colon and its value. -/
def writeEntry (level : Nat) (after : List Char) (entry : String × Json) : List Char :=
  writeText entry.1 ++ ':' :: ' ' :: writePages level after entry.2

theorem readKey_writeText (key : String) (after : List Char) :
    readKey false (writeText key ++ after) = .ok (key, after) := by
  rw [writeText_append, readKey, skipBlanks_cons (c := '"') (by decide)]
  exact readChars_flatMap key after

theorem readKey_skip (lenient : Bool) {cs cs' : List Char} (same : skipBlanks cs = skipBlanks cs') :
    readKey lenient cs = readKey lenient cs' := by
  rw [readKey, readKey, same]

theorem readEntriesWithin_skip (lenient : Bool) (fuel depth : Nat) {cs cs' : List Char}
    (same : skipBlanks cs = skipBlanks cs') :
    readEntriesWithin lenient fuel depth cs = readEntriesWithin lenient fuel depth cs' := by
  cases fuel with
  | zero => rfl
  | succ fuel => rw [readEntriesWithin, readEntriesWithin, readKey_skip lenient same]

/-- What stands behind an entry of an object. -/
theorem endsNumber_writePagesEntries (level below : Nat) (after : List Char)
    (rest : List (String × Json)) :
    EndsNumber (writePagesEntries level (newLine below ++ after) rest) := by
  cases rest with
  | nil => exact endsNumber_cons (by decide)
  | cons entry rest => exact endsNumber_cons (by decide)

theorem writePagesEntries_cons (level : Nat) (after : List Char) (entry : String × Json)
    (rest : List (String × Json)) :
    writePagesEntries level after (entry :: rest) =
      ',' :: (newLine level ++ writeEntry level (writePagesEntries level after rest) entry) := by
  simp [writePagesEntries, writeEntry]

/-- The value of an entry is read after its key and its colon. -/
theorem readValueWithin_entry {entry : String × Json} (reads : ReadsFromPages entry.2)
    (limit level fuel : Nat) {after : List Char} (ends : EndsNumber after)
    (enough : 2 * (writeEntry level after entry).length ≤ fuel) :
    (readValueWithin false fuel limit (' ' :: writePages level after entry.2)).toOption =
      (within? limit entry.2).map fun v => (v, after) := by
  have blank : skipBlanks (' ' :: writePages level after entry.2) =
      skipBlanks (writePages level after entry.2) := rfl
  simp only [writeEntry, List.length_append, List.length_cons] at enough
  rw [readValueWithin_skip false fuel limit blank]
  exact reads level limit fuel after ends (by omega)

theorem readEntriesWithin_writePages (limit level below : Nat) (after : List Char)
    (rest : List (String × Json)) {entry : String × Json}
    (reads : ∀ other ∈ entry :: rest, ReadsFromPages other.2) {fuel : Nat}
    (enough : 2 * (writeEntry level
      (writePagesEntries level (newLine below ++ '\x7d' :: after) rest) entry).length + 1 ≤ fuel) :
    (readEntriesWithin false fuel limit (writeEntry level
      (writePagesEntries level (newLine below ++ '\x7d' :: after) rest) entry)).toOption =
      ((entry :: rest).mapM (entryWithin? limit)).map fun entries => (entries, after) := by
  have colon (cs : List Char) : readColon (':' :: cs) = .ok cs := rfl
  induction rest generalizing entry fuel with
  | nil =>
      obtain ⟨fuel, rfl⟩ := Nat.exists_eq_add_one_of_ne_zero (show fuel ≠ 0 by omega)
      have value := readValueWithin_entry (reads entry List.mem_cons_self) limit level fuel
        (endsNumber_writePagesEntries level below ('\x7d' :: after) []) (by omega)
      have closing : skipBlanks (newLine below ++ '\x7d' :: after) = '\x7d' :: after := by
        rw [skipBlanks_newLine, skipBlanks_cons (by decide)]
      rw [readEntriesWithin, writeEntry]
      simp only [readKey_writeText, Except.ok_bind, colon]
      rw [Except.toOption_bind, value, List.mapM_cons, entryWithin?]
      cases within? limit entry.2 with
      | none => rfl
      | some v =>
          simp only [Option.map_some, Option.bind_some, writePagesEntries, closing]
          rfl
  | cons next rest ih =>
      obtain ⟨fuel, rfl⟩ := Nat.exists_eq_add_one_of_ne_zero (show fuel ≠ 0 by omega)
      have value := readValueWithin_entry (reads entry List.mem_cons_self) limit level fuel
        (endsNumber_writePagesEntries level below ('\x7d' :: after) (next :: rest)) (by omega)
      have shorter := length_writePages entry.2 level
        (writePagesEntries level (newLine below ++ '\x7d' :: after) (next :: rest))
      simp only [writePagesEntries_cons, writeEntry, List.length_append, List.length_cons]
        at shorter enough
      have left : 2 * (writeEntry level (writePagesEntries level
          (newLine below ++ '\x7d' :: after) rest) next).length + 1 ≤ fuel := by
        simp only [writeEntry, List.length_append, List.length_cons]
        omega
      have later := ih (fun other member => reads other (List.mem_cons_of_mem _ member)) left
      rw [readEntriesWithin, writeEntry]
      simp only [readKey_writeText, Except.ok_bind, colon]
      rw [Except.toOption_bind, value, List.mapM_cons, entryWithin?]
      cases within? limit entry.2 with
      | none => rfl
      | some v =>
          have blank := skipBlanks_newLine level (writeEntry level
            (writePagesEntries level (newLine below ++ '\x7d' :: after) rest) next)
          simp only [Option.map_some, Option.bind_some, writePagesEntries_cons,
            skipBlanks_cons (c := ',') (by decide)]
          rw [Except.toOption_bind, readEntriesWithin_skip false fuel limit blank, later]
          cases (next :: rest).mapM (entryWithin? limit) <;> rfl

theorem readValueWithin_items {c : Char} {cs : List Char} (solid : ¬ IsGap c) (other : c ≠ ']')
    (fuel limit level : Nat) :
    readValueWithin false (fuel + 1) (limit + 1) ('[' :: (newLine level ++ c :: cs)) =
      (readItemsWithin false fuel limit (c :: cs)).map fun (items, cs) => (array items, cs) := by
  rw [readValueWithin.eq_def]
  simp only [skipBlanks_cons (c := '[') (by decide), skipBlanks_newLine, skipBlanks_cons solid]
  split
  · next closed => exact absurd (List.cons.inj closed).1 other
  · rfl

theorem readValueWithin_entries {cs : List Char} (fuel limit level : Nat) :
    readValueWithin false (fuel + 1) (limit + 1) ('\x7b' :: (newLine level ++ '"' :: cs)) =
      (readEntriesWithin false fuel limit ('"' :: cs)).map fun (entries, cs) =>
        (object entries, cs) := by
  rw [readValueWithin.eq_def]
  simp only [skipBlanks_cons (c := '\x7b') (by decide), skipBlanks_newLine,
    skipBlanks_cons (c := '"') (by decide)]
  rfl

/-- What stands behind the opening brace of an object. -/
def writeBody (level : Nat) (after : List Char) : List (String × Json) → List Char
  | [] => '\x7d' :: after
  | entry :: rest =>
    newLine (level + 1) ++ writeEntry (level + 1)
      (writePagesEntries (level + 1) (newLine level ++ '\x7d' :: after) rest) entry

theorem writePages_object (level : Nat) (after : List Char) (entries : List (String × Json)) :
    writePages level after (object entries) = '\x7b' :: writeBody level after entries := by
  cases entries with
  | nil => rfl
  | cons entry rest => simp [writePages, writeBody, writeEntry]

/-- Every value is read from its text, as far as the reader goes. -/
theorem readsFromPages (v : Json) : ReadsFromPages v := by
  induction v using part_induction with
  | leaf v leaf => exact readsFromPages_leaf leaf
  | array items ih =>
      intro level limit fuel after ends enough
      obtain ⟨fuel, rfl⟩ := Nat.exists_eq_add_one_of_ne_zero (show fuel ≠ 0 by omega)
      cases items with
      | nil => cases limit <;> rfl
      | cons item rest =>
          simp only [writePages, List.cons_append, List.length_cons, List.length_append] at enough ⊢
          cases limit with
          | zero =>
              rw [within?_array_zero]
              rfl
          | succ limit =>
              have inner := readItemsWithin_writePages limit (level + 1) level after rest ih
                (show _ ≤ fuel by omega)
              obtain ⟨c, cs, spelled, solid, other⟩ := startsValue_writePages (level + 1)
                (writePagesItems (level + 1) (newLine level ++ ']' :: after) rest) item
              rw [spelled] at inner ⊢
              rw [readValueWithin_items solid other, Except.toOption_map, inner, within?_array]
              cases (item :: rest).mapM (within? limit) <;> rfl
  | object entries ih =>
      intro level limit fuel after ends enough
      obtain ⟨fuel, rfl⟩ := Nat.exists_eq_add_one_of_ne_zero (show fuel ≠ 0 by omega)
      cases entries with
      | nil => cases limit <;> rfl
      | cons entry rest =>
          cases limit with
          | zero =>
              rw [within?_object_zero]
              rfl
          | succ limit =>
              rw [writePages_object, writeBody] at enough ⊢
              simp only [List.length_cons, List.length_append] at enough
              have inner := readEntriesWithin_writePages limit (level + 1) level after rest ih
                (show _ ≤ fuel by omega)
              rw [writeEntry, writeText_append] at inner ⊢
              rw [readValueWithin_entries, Except.toOption_map, inner, within?_object]
              cases (entry :: rest).mapM (entryWithin? limit) <;> rfl

/-- A value is read behind the blank that follows a colon. -/
theorem readValue_writePages (limit level : Nat) {after : List Char} (ends : EndsNumber after)
    (v : Json) :
    (readValue limit (' ' :: writePages level after v)).toOption =
      (v.within? limit).map fun v => (v, after) := by
  have blank : skipBlanks (' ' :: writePages level after v) =
      skipBlanks (writePages level after v) := rfl
  rw [readValue, readValueWithin_skip _ _ _ blank]
  refine readsFromPages v level limit _ after ends ?_
  rw [List.length_cons]
  omega

end Json

end SolanaBlocks
