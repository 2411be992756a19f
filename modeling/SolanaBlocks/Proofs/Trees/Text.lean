import SolanaBlocks.BlockTree.Reader
import SolanaBlocks.Proofs.Json.Pages

/-!
# Trees read from their text

The reader of trees goes over a text once and builds no JSON value for a block. On the text of a
tree it still comes to what is made of the value that the JSON reader finds there, and it goes as
deep as the JSON reader.
-/

namespace SolanaBlocks

/-- Steps taken over what some items give are taken item by item. -/
theorem Option.mapM_bind_foldlM {α β γ : Type} (f : α → Option β) (step : γ → β → Option γ)
    (start : γ) (items : List α) :
    ((items.mapM f).bind fun found => found.foldlM step start) =
      items.foldlM (fun state item => (f item).bind (step state)) start := by
  induction items generalizing start with
  | nil => rfl
  | cons item rest ih =>
      rw [List.mapM_cons, List.foldlM_cons]
      cases f item with
      | none => rfl
      | some b =>
          cases reached : step start b with
          | none =>
              simp only [Option.bind_eq_bind, Option.bind_some, Option.pure_def, reached,
                Option.bind_none]
              cases rest.mapM f <;> simp [reached]
          | some state =>
              simp only [Option.bind_eq_bind, Option.bind_some, Option.pure_def, reached,
                ← ih state]
              cases rest.mapM f <;> simp [reached]

theorem Option.mapM_bind_mapM {α β γ : Type} (f : α → Option β) (g : β → Option γ)
    (items : List α) :
    ((items.mapM f).bind fun found => found.mapM g) = items.mapM fun item => (f item).bind g := by
  induction items with
  | nil => rfl
  | cons item rest ih =>
      rw [List.mapM_cons, List.mapM_cons, ← ih]
      cases f item with
      | none => rfl
      | some b =>
          cases taken : g b with
          | none =>
              cases rest.mapM f <;> simp [taken]
          | some c =>
              cases rest.mapM f <;> simp [taken]

namespace BlockTree

open Json

/-! ## Objects -/

/-- What follows the key of a written entry is read as one step from a state to the next. -/
def AddsFromPages {α : Type} (add : α → String → Reader α) (step : α → String × Json → Option α)
    (entry : String × Json) : Prop :=
  ∀ state level after, EndsNumber after →
    (add state entry.1 (':' :: ' ' :: writePages level after entry.2)).toOption =
      (step state entry).map fun state => (state, after)

section Objects

variable {α : Type} {add : α → String → Reader α} {step : α → String × Json → Option α}

theorem readEntriesWith_skip (fuel : Nat) (start : α) {cs cs' : List Char}
    (same : skipBlanks cs = skipBlanks cs') :
    readEntriesWith add fuel start cs = readEntriesWith add fuel start cs' := by
  cases fuel with
  | zero => rfl
  | succ fuel => rw [readEntriesWith, readEntriesWith, readKey_skip false same]

theorem readEntriesWith_writePages (level below : Nat) (after : List Char)
    (rest : List (String × Json)) {entry : String × Json}
    (adds : ∀ other ∈ entry :: rest, AddsFromPages add step other) {fuel : Nat} (start : α)
    (enough : (writeEntry level
      (writePagesEntries level (newLine below ++ '\x7d' :: after) rest) entry).length < fuel) :
    (readEntriesWith add fuel start (writeEntry level
      (writePagesEntries level (newLine below ++ '\x7d' :: after) rest) entry)).toOption =
      ((entry :: rest).foldlM step start).map fun state => (state, after) := by
  induction rest generalizing entry fuel start with
  | nil =>
      obtain ⟨fuel, rfl⟩ := Nat.exists_eq_add_one_of_ne_zero (Nat.ne_zero_of_lt enough)
      have closing : skipBlanks (newLine below ++ '\x7d' :: after) = '\x7d' :: after := by
        rw [skipBlanks_newLine, skipBlanks_cons (by decide)]
      have first := adds entry List.mem_cons_self start level _
        (endsNumber_writePagesEntries level below ('\x7d' :: after) [])
      rw [readEntriesWith, writeEntry]
      simp only [readKey_writeText, Except.ok_bind]
      rw [Except.toOption_bind, first, List.foldlM_cons]
      cases step start entry with
      | none => rfl
      | some state =>
          simp only [Option.map_some, Option.bind_some, writePagesEntries, closing]
          rfl
  | cons next rest ih =>
      obtain ⟨fuel, rfl⟩ := Nat.exists_eq_add_one_of_ne_zero (Nat.ne_zero_of_lt enough)
      have first := adds entry List.mem_cons_self start level _
        (endsNumber_writePagesEntries level below ('\x7d' :: after) (next :: rest))
      have shorter := length_writePages entry.2 level
        (writePagesEntries level (newLine below ++ '\x7d' :: after) (next :: rest))
      rw [writePagesEntries_cons] at first shorter enough ⊢
      have left : (writeEntry level (writePagesEntries level
          (newLine below ++ '\x7d' :: after) rest) next).length < fuel := by
        rw [writeEntry] at enough
        simp only [List.length_append, List.length_cons] at shorter enough
        omega
      have later (state : α) :=
        ih (fun other member => adds other (List.mem_cons_of_mem _ member)) state left
      rw [readEntriesWith, writeEntry]
      simp only [readKey_writeText, Except.ok_bind]
      rw [Except.toOption_bind, first, List.foldlM_cons]
      cases step start entry with
      | none => rfl
      | some state =>
          have blank := skipBlanks_newLine level (writeEntry level (writePagesEntries level
            (newLine below ++ '\x7d' :: after) rest) next)
          simp only [Option.map_some, Option.bind_some, skipBlanks_cons (c := ',') (by decide)]
          rw [readEntriesWith_skip fuel state blank, later]
          rfl

/-- The entries of a written object are read by steps over them. -/
theorem readObject_writeBody (start : α) (level : Nat) (after : List Char)
    {entries : List (String × Json)} (adds : ∀ entry ∈ entries, AddsFromPages add step entry) :
    (readObject add start (writeBody level after entries)).toOption =
      (entries.foldlM step start).map fun state => (state, after) := by
  cases entries with
  | nil => rfl
  | cons entry rest =>
      have read := readEntriesWith_writePages (level + 1) level after rest adds start
        (Nat.lt_add_one _)
      rw [writeEntry, writeText_append] at read
      rw [writeBody, readObject, skipBlanks_newLine, writeEntry, writeText_append,
        skipBlanks_cons (by decide)]
      exact read

end Objects

/-- What the entries of an object add up to. -/
def table? {α : Type} (add? : α → String → Json → Option α) (start : α) : Json → Option α
  | .object entries => entries.foldlM (fun table entry => add? table entry.1 entry.2) start
  | _ => none

/-- How a table takes up what stands behind a key. -/
def readIntoTable {α : Type} (add? : α → String → Json → Option α) (depth : Nat) (table : α)
    (key : String) : Reader α := fun cs => do
  let cs ← Json.readColon cs
  let (value, cs) ← Json.readValue depth cs
  match add? table key value with
  | none => throw .mistyped
  | some table => return (table, cs)

/-- A written object of which each entry goes into a table. -/
theorem readTable_writePages {α : Type} (add? : α → String → Json → Option α) (start : α)
    (limit level : Nat) (after : List Char) (entries : List (String × Json)) :
    (readTable add? start limit (' ' :: writePages level after (object entries))).toOption =
      (((object entries).within? limit).bind (table? add? start)).map fun table =>
        (table, after) := by
  have blank : skipBlanks (' ' :: writePages level after (object entries)) =
      '\x7b' :: writeBody level after entries := by
    rw [writePages_object]
    rfl
  cases limit with
  | zero =>
      rw [readTable, blank, within?_object_zero]
      rfl
  | succ limit =>
      have adds (entry : String × Json) : AddsFromPages (readIntoTable add? limit)
          (fun table entry =>
            (entryWithin? limit entry).bind fun entry => add? table entry.1 entry.2) entry := by
        intro table level after ends
        have value := readValue_writePages limit level ends entry.2
        have colon (cs : List Char) : readColon (':' :: cs) = .ok cs := rfl
        dsimp only [readIntoTable]
        rw [colon, Except.ok_bind, Except.toOption_bind, value, entryWithin?]
        cases within? limit entry.2 with
        | none => rfl
        | some v =>
            simp only [Option.map_some, Option.bind_some]
            cases add? table entry.1 v <;> rfl
      have read := readObject_writeBody start level after fun entry (_ : entry ∈ entries) =>
        adds entry
      rw [readTable, blank]
      refine read.trans ?_
      rw [within?_object, ← Option.mapM_bind_foldlM]
      cases entries.mapM (entryWithin? limit) <;> rfl

/-! ## Blocks -/

theorem inputs?_eq_table? (inputs : List TreeInput) (entries : List (String × Json)) :
    inputs? inputs entries =
      table? (fun inputs slot value => (input? slot value).map (·.place inputs)) inputs
        (.object entries) := by
  induction entries generalizing inputs with
  | nil => rfl
  | cons entry rest ih =>
      rw [inputs?, table?, List.foldlM_cons]
      cases input? entry.1 entry.2 with
      | none => rfl
      | some input => exact ih (input.place inputs)

theorem addPart?_fields (draft : Draft) (v : Json) :
    addPart? draft .fields v =
      (table? (fun table name value => (fieldValue? value).map (table.insert name ·)) ∅ v).map
        fun table => { draft with fields := some table } := by
  cases v <;> rfl

theorem addPart?_inputs (draft : Draft) (v : Json) :
    addPart? draft .inputs v =
      (table? (fun inputs slot value => (input? slot value).map (·.place inputs)) [] v).map
        fun inputs => { draft with inputs := some inputs } := by
  cases v with
  | object entries => rw [addPart?, inputs?_eq_table?]
  | _ => rfl

/-- The values that are written for a part of a block. -/
def Part.Suits : Part → Json → Prop
  | .id, .text _ | .type, .text _ | .fields, .object _ | .inputs, .object _ | .next, .text _ => True
  | .revisited, .bool b => b = true
  | _, _ => False

/-- A part is read as it is taken from a JSON value. -/
theorem readPart_writePages {part : Part} {v : Json} (suits : part.Suits v) (limit level : Nat)
    (draft : Draft) (after : List Char) :
    (readPart limit draft part (' ' :: writePages level after v)).toOption =
      ((v.within? limit).bind (addPart? draft part)).map fun draft => (draft, after) := by
  have text (s : String) : readText (' ' :: writePages level after (.text s)) = .ok (s, after) := by
    rw [readText, writePages_leaf rfl, writeLeaf, writeText_append]
    exact readChars_flatMap s after
  cases part with
  | id =>
      cases v with
      | text s =>
          rw [readPart, text, within?_leaf rfl]
          rfl
      | _ => cases suits
  | type =>
      cases v with
      | text s =>
          rw [readPart, text, within?_leaf rfl]
          rfl
      | _ => cases suits
  | fields =>
      cases v with
      | object entries =>
          rw [readPart, Except.toOption_map, readTable_writePages]
          cases within? limit (object entries) with
          | none => rfl
          | some v =>
              simp only [Option.bind_some, addPart?_fields, Option.map_map]
              rfl
      | _ => cases suits
  | inputs =>
      cases v with
      | object entries =>
          rw [readPart, Except.toOption_map, readTable_writePages]
          cases within? limit (object entries) with
          | none => rfl
          | some v =>
              simp only [Option.bind_some, addPart?_inputs, Option.map_map]
              rfl
      | _ => cases suits
  | next =>
      cases v with
      | text s =>
          have word : readOptionalText (' ' :: writePages level after (.text s)) =
              .ok (some s, after) := by
            rw [writePages_leaf rfl, writeLeaf, writeText_append]
            show (readChars false _).map _ = _
            rw [readChars_flatMap]
            rfl
          rw [readPart, word, within?_leaf rfl]
          rfl
      | _ => cases suits
  | revisited =>
      cases v with
      | bool b =>
          cases suits
          rfl
      | _ => cases suits

/-- One entry of a block in its object form, put into the draft. -/
def addPair? (draft : Draft) (entry : String × Json) : Option Draft :=
  match Part.ofKey? entry.1 with
  | none => some draft
  | some part => if draft.has part then none else addPart? draft part entry.2

theorem entries?_eq_foldlM (draft : Draft) (entries : List (String × Json)) :
    entries? draft entries = entries.foldlM addPair? draft := by
  induction entries generalizing draft with
  | nil => rfl
  | cons entry rest ih =>
      rw [entries?, List.foldlM_cons, addPair?]
      cases Part.ofKey? entry.1 with
      | none => exact ih draft
      | some part =>
          dsimp only
          by_cases again : draft.has part
          · rw [if_pos again, if_pos again]
            rfl
          · rw [if_neg again, if_neg again]
            cases addPart? draft part entry.2 with
            | none => rfl
            | some draft => exact ih draft

/-- An entry of a block: the key of a part with a value that is written for it. -/
def IsEntry (entry : String × Json) : Prop :=
  ∃ part, Part.ofKey? entry.1 = some part ∧ part.Suits entry.2

theorem readEntry_writePages {entry : String × Json} (known : IsEntry entry) (limit : Nat) :
    AddsFromPages (readEntry limit)
      (fun draft entry => (entryWithin? limit entry).bind (addPair? draft)) entry := by
  obtain ⟨part, key, suits⟩ := known
  intro draft level after ends
  have colon (cs : List Char) : readColon (':' :: cs) = .ok cs := rfl
  have value := readPart_writePages suits limit level draft after
  have step (v : Json) : addPair? draft (entry.1, v) =
      if draft.has part then none else addPart? draft part v := by
    rw [addPair?, key]
  rw [readEntry, key]
  dsimp only [entryWithin?]
  rw [Option.bind_map]
  by_cases again : draft.has part
  · rw [if_pos again]
    cases within? limit entry.2 with
    | none => rfl
    | some v =>
        rw [Option.bind_some, Function.comp_apply, step, if_pos again]
        rfl
  · rw [if_neg again, colon, Except.ok_bind, value]
    cases within? limit entry.2 with
    | none => rfl
    | some v => rw [Option.bind_some, Option.bind_some, Function.comp_apply, step, if_neg again]

/-- A block in its object form. -/
def IsBlock (v : Json) : Prop :=
  ∃ entries, v = .object entries ∧ ∀ entry ∈ entries, IsEntry entry

/-- How the draft of a block comes to an end. -/
def finishDraft : Draft × List Char → Except Fault (BlockTree × List Char)
  | (draft, cs) =>
    match draft.finish? with
    | none => throw .mistyped
    | some tree => return (tree, cs)

/-- A block is read as it is taken from a JSON value. -/
theorem readBlock_writePages {v : Json} (block : IsBlock v) (limit level : Nat)
    (after : List Char) :
    (readBlock limit (writePages level after v)).toOption =
      ((v.within? limit).bind block?).map fun tree => (tree, after) := by
  obtain ⟨entries, rfl, known⟩ := block
  rw [writePages_object]
  cases limit with
  | zero =>
      rw [within?_object_zero]
      rfl
  | succ limit =>
      have read := readObject_writeBody {} level after fun entry member =>
        readEntry_writePages (known entry member) limit
      rw [← Option.mapM_bind_foldlM] at read
      have opened : readBlock (limit + 1) ('\x7b' :: writeBody level after entries) =
          readObject (readEntry limit) {} (writeBody level after entries) >>= finishDraft := by
        unfold readBlock
        rw [skipBlanks_cons (by decide)]
        rfl
      rw [opened, Except.toOption_bind, read, within?_object]
      cases entries.mapM (entryWithin? limit) with
      | none => rfl
      | some found =>
          simp only [Option.bind_some, Option.map_some, block?, entries?_eq_foldlM]
          cases found.foldlM addPair? {} with
          | none => rfl
          | some draft =>
              simp only [Option.bind_some, Option.map_some, finishDraft]
              cases draft.finish? <;> rfl

theorem readBlock_skip (limit : Nat) {cs cs' : List Char} (same : skipBlanks cs = skipBlanks cs') :
    readBlock limit cs = readBlock limit cs' := by
  unfold readBlock
  rw [same]

theorem readBlocks_skip (limit fuel : Nat) {cs cs' : List Char}
    (same : skipBlanks cs = skipBlanks cs') :
    readBlocks limit fuel cs = readBlocks limit fuel cs' := by
  cases fuel with
  | zero => rfl
  | succ fuel => rw [readBlocks, readBlocks, readBlock_skip limit same]

theorem readBlocks_writePages (limit level below : Nat) (after : List Char) (rest : List Json)
    {item : Json} (blocks : ∀ v ∈ item :: rest, IsBlock v) {fuel : Nat}
    (enough : (writePages level (writePagesItems level (newLine below ++ ']' :: after) rest)
      item).length < fuel) :
    (readBlocks limit fuel (writePages level
      (writePagesItems level (newLine below ++ ']' :: after) rest) item)).toOption =
      ((item :: rest).mapM fun v => (within? limit v).bind block?).map fun trees =>
        (trees, after) := by
  induction rest generalizing item fuel with
  | nil =>
      obtain ⟨fuel, rfl⟩ := Nat.exists_eq_add_one_of_ne_zero (Nat.ne_zero_of_lt enough)
      have closing : skipBlanks (newLine below ++ ']' :: after) = ']' :: after := by
        rw [skipBlanks_newLine, skipBlanks_cons (by decide)]
      have first := readBlock_writePages (blocks item List.mem_cons_self) limit level
        (newLine below ++ ']' :: after)
      rw [readBlocks, writePagesItems, Except.toOption_bind, first, List.mapM_cons]
      cases (item.within? limit).bind block? with
      | none => rfl
      | some tree =>
          simp only [Option.map_some, Option.bind_some, closing]
          rfl
  | cons next rest ih =>
      obtain ⟨fuel, rfl⟩ := Nat.exists_eq_add_one_of_ne_zero (Nat.ne_zero_of_lt enough)
      have first := readBlock_writePages (blocks item List.mem_cons_self) limit level
        (writePagesItems level (newLine below ++ ']' :: after) (next :: rest))
      have shorter := length_writePages item level
        (writePagesItems level (newLine below ++ ']' :: after) (next :: rest))
      rw [writePagesItems] at first shorter enough ⊢
      have left : (writePages level (writePagesItems level (newLine below ++ ']' :: after) rest)
          next).length < fuel := by
        simp only [List.cons_append, List.length_append, List.length_cons] at shorter enough
        omega
      have later := ih (fun other member => blocks other (List.mem_cons_of_mem _ member)) left
      rw [readBlocks, Except.toOption_bind, first, List.mapM_cons]
      cases (item.within? limit).bind block? with
      | none => rfl
      | some tree =>
          have blank := skipBlanks_newLine level (writePages level
            (writePagesItems level (newLine below ++ ']' :: after) rest) next)
          simp only [Option.map_some, Option.bind_some, List.cons_append,
            skipBlanks_cons (c := ',') (by decide)]
          rw [Except.toOption_bind, readBlocks_skip limit fuel blank, later]
          cases (next :: rest).mapM fun v => (within? limit v).bind block? <;> rfl

/-! ## Lists of blocks -/

/-- The blocks of a JSON array. -/
def list? : Json → Option (List BlockTree)
  | .array items => items.mapM block?
  | _ => none

theorem Part.ofKey?_key (part : Part) : Part.ofKey? part.key = some part := by
  cases part <;> decide

/-- The entries that are written for the successor and for the mark of a stub. -/
def marks (next : Option BlockId) (revisited : Bool) : List (String × Json) :=
  (match next with
    | none => []
    | some next => [("next", .text next.text)]) ++
  (if revisited then [("revisited", .bool true)] else [])

theorem toJson_mk (id : BlockId) (type : String) (fields : NameTable FieldValue)
    (inputs : List TreeInput) (next : Option BlockId) (revisited : Bool) :
    (mk id type fields inputs next revisited).toJson =
      .object (("id", .text id.text) :: ("type", .text type) ::
        ("fields", .object (fields.toList.map fun (name, value) => (name, value.toJson))) ::
        ("inputs", .object (inputsToJson inputs)) :: marks next revisited) := by
  rw [toJson.eq_def]
  rfl

/-- What is written of a tree is a block in its object form. -/
theorem isBlock_toJson (tree : BlockTree) : IsBlock tree.toJson := by
  obtain ⟨id, type, fields, inputs, next, revisited⟩ := tree
  refine ⟨_, toJson_mk .., fun entry member => ?_⟩
  simp only [List.mem_cons] at member
  rcases member with rfl | rfl | rfl | rfl | mark
  · exact ⟨.id, Part.ofKey?_key .id, trivial⟩
  · exact ⟨.type, Part.ofKey?_key .type, trivial⟩
  · exact ⟨.fields, Part.ofKey?_key .fields, trivial⟩
  · exact ⟨.inputs, Part.ofKey?_key .inputs, trivial⟩
  · rcases List.mem_append.1 mark with follower | stub
    · cases next with
      | none => cases follower
      | some next =>
          cases List.mem_singleton.1 follower
          exact ⟨.next, Part.ofKey?_key .next, trivial⟩
    · cases revisited with
      | false => cases stub
      | true =>
          cases List.mem_singleton.1 stub
          exact ⟨.revisited, Part.ofKey?_key .revisited, rfl⟩

theorem readList_items {c : Char} {cs : List Char} (solid : ¬ IsGap c) (other : c ≠ ']')
    (level : Nat) :
    readList ('[' :: (newLine level ++ c :: cs)) =
      readBlocks (depthLimit - 1) ((c :: cs).length + 1) (c :: cs) := by
  unfold readList
  simp only [skipBlanks_cons (c := '[') (by decide), skipBlanks_newLine, skipBlanks_cons solid]
  split
  · next closed => exact absurd (List.cons.inj closed).1 other
  · rfl

/-- Blocks that are written as an array are read as they are taken from the JSON value. -/
theorem toOption_read_pretty {items : List Json} (blocks : ∀ v ∈ items, IsBlock v) :
    (read (array items).pretty).toOption = ((array items).within? depthLimit).bind list? := by
  have taken : ((array items).within? depthLimit).bind list? =
      items.mapM fun v => (within? (depthLimit - 1) v).bind block? := by
    rw [← Option.mapM_bind_mapM, show depthLimit = depthLimit - 1 + 1 from rfl, within?_array,
      Option.bind_map]
    rfl
  have read : (readList (array items).pretty.toList).toOption =
      (items.mapM fun v => (within? (depthLimit - 1) v).bind block?).map fun trees =>
        (trees, []) := by
    rw [pretty, String.toList_ofList]
    cases items with
    | nil => rfl
    | cons item rest =>
        obtain ⟨c, cs, spelled, solid, other⟩ := startsValue_writePages 1
          (writePagesItems 1 (newLine 0 ++ [']']) rest) item
        have found := readBlocks_writePages (depthLimit - 1) 1 0 [] rest blocks
          (Nat.lt_add_one _)
        rw [spelled] at found
        rw [writePages, List.cons_append, spelled, readList_items solid other, found]
  rw [BlockTree.read, Except.toOption_bind, read, taken]
  cases items.mapM fun v => (within? (depthLimit - 1) v).bind block? <;> rfl

end BlockTree

end SolanaBlocks
