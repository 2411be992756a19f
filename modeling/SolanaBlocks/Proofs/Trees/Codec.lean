import SolanaBlocks.Proofs.Trees.Normal
import SolanaBlocks.Proofs.Trees.Text

/-!
# Trees kept in a text

Trees are written as JSON and read back. A tree comes back with everything in it but its numbers,
which come back as whatever their written forms stand for; a number without a finite value does not
come back at all, and neither does a list of trees that nests deeper than the reader goes.
-/

namespace SolanaBlocks

open Json (depthLimit)

/-- Every item gives itself. -/
theorem List.mapM_eq_some_self {α : Type} {f : α → Option α} {items : List α} :
    items.mapM f = some items ↔ ∀ item ∈ items, f item = some item := by
  induction items with
  | nil => simp
  | cons item rest ih =>
      rw [List.mapM_cons, List.forall_mem_cons, ← ih]
      cases f item <;> cases rest.mapM f <;> simp

/-- An item that gives nothing leaves nothing. -/
theorem List.mapM_eq_none {α β : Type} {f : α → Option β} {items : List α} {item : α}
    (given : item ∈ items) (nothing : f item = none) : items.mapM f = none := by
  induction items with
  | nil => cases given
  | cons first rest ih =>
      rw [List.mapM_cons]
      rcases List.mem_cons.1 given with rfl | later
      · rw [nothing]
        rfl
      · rw [ih later]
        cases f first <;> rfl

/-- What items give is given by one of them. -/
theorem List.exists_of_mem_mapM {α β : Type} {f : α → Option β} {items : List α} {found : List β}
    (all : items.mapM f = some found) {b : β} (member : b ∈ found) :
    ∃ item ∈ items, f item = some b := by
  induction items generalizing found with
  | nil =>
      cases all
      cases member
  | cons item rest ih =>
      rw [List.mapM_cons] at all
      cases here : f item with
      | none =>
          rw [here] at all
          cases all
      | some first =>
          cases later : rest.mapM f with
          | none =>
              rw [here, later] at all
              cases all
          | some others =>
              rw [here, later] at all
              cases all
              rcases List.mem_cons.1 member with rfl | member
              · exact ⟨item, List.mem_cons_self, here⟩
              · obtain ⟨other, given, same⟩ := ih later member
                exact ⟨other, List.mem_cons_of_mem _ given, same⟩

/-! ## Field values -/

namespace FieldValue

/-- What a field value is read as once it has been written. -/
def reread? (value : FieldValue) : Option FieldValue :=
  value.toJson.reread?.bind BlockTree.fieldValue?

/-- A number that has no finite value is not read as a number. -/
theorem reread?_unbounded {x : Float} (unbounded : (BinaryNumber.ofFloat x).isFinite ≠ true) :
    (number x).reread? = none := by
  rw [reread?, toJson, Json.reread?, Json.readBack?_unbounded unbounded]
  rfl

/-- A number comes back if it is read from its own text. -/
theorem reread?_number_iff {x : Float} :
    (number x).reread? = some (number x) ↔
      (BinaryNumber.ofFloat x).isFinite = true ∧
        Json.read (Json.float x).compact = .ok (.float x) := by
  by_cases finite : (BinaryNumber.ofFloat x).isFinite = true
  · rw [reread?, toJson, Json.reread?]
    have float (v : Json) := Json.readBack?_finite finite (v := v)
    unfold Json.readBack? at float ⊢
    cases read : Json.read (Json.float x).compact with
    | error fault => simp [Except.toOption]
    | ok v =>
        rw [read] at float
        obtain ⟨y, rfl⟩ := float v rfl
        simp [Except.toOption, BlockTree.fieldValue?, finite]
  · rw [reread?_unbounded finite]
    simp [finite]

end FieldValue

/-- An entry of a table with its value read again. -/
def rereadField? (field : String × FieldValue) : Option (String × FieldValue) :=
  field.2.reread?.map fun value => (field.1, value)

/-- The entries of a table, each with its value read again. -/
def rereadFields? (fields : NameTable FieldValue) : Option (NameTable FieldValue) :=
  (fields.toList.mapM rereadField?).map fun rows => .ofList rows

theorem mapM_rereadField? {fields rows : List (String × FieldValue)}
    (read : fields.mapM rereadField? = some rows) :
    rows.map Prod.fst = fields.map Prod.fst ∧
      ∀ name value, (name, value) ∈ fields → ∃ value', value.reread? = some value' ∧
        (name, value') ∈ rows := by
  induction fields generalizing rows with
  | nil =>
      cases read
      exact ⟨rfl, nofun⟩
  | cons field rest ih =>
      rw [List.mapM_cons, rereadField?] at read
      cases here : field.2.reread? with
      | none =>
          rw [here] at read
          cases read
      | some value =>
          cases later : rest.mapM rereadField? with
          | none =>
              rw [here, later] at read
              cases read
          | some rows =>
              rw [here, later] at read
              cases read
              obtain ⟨names, each⟩ := ih later
              refine ⟨by simp [names], fun name old given => ?_⟩
              rcases List.mem_cons.1 given with rfl | given
              · exact ⟨value, here, List.mem_cons_self⟩
              · obtain ⟨value', read, found⟩ := each name old given
                exact ⟨value', read, List.mem_cons_of_mem _ found⟩

theorem ofList_toList (fields : NameTable FieldValue) :
    Std.ExtTreeMap.ofList fields.toList = fields := by
  refine Std.ExtTreeMap.ext_getElem? fun name => ?_
  cases held : fields[name]? with
  | none =>
      refine Std.ExtTreeMap.getElem?_ofList_of_contains_eq_false ?_
      rw [Std.ExtTreeMap.map_fst_toList_eq_keys, ← Bool.not_eq_true, List.contains_iff_mem,
        Std.ExtTreeMap.mem_keys, ← Std.ExtTreeMap.isSome_getElem?_iff_mem, held]
      exact Bool.false_ne_true
  | some value =>
      have row := Std.ExtTreeMap.mem_toList_iff_getElem?_eq_some.2 held
      exact Std.ExtTreeMap.getElem?_ofList_of_mem Std.ReflCmp.compare_self
        fields.distinct_keys_toList row

/-- A table is built from its rows one by one. -/
theorem foldlM_insert (rows : List (String × FieldValue)) (start : NameTable FieldValue) :
    rows.foldlM (fun table row => some (table.insert row.1 row.2)) start =
      some (start.insertMany rows) := by
  induction rows generalizing start with
  | nil => simp
  | cons row rest ih =>
      rw [List.foldlM_cons, Std.ExtTreeMap.insertMany_cons]
      exact ih (start.insert row.1 row.2)

/-- The written fields of a block are read field by field. -/
theorem bind_fieldTable? (fields : NameTable FieldValue) :
    (Json.rereadEntries? (fields.toList.map fun (name, value) => (name, value.toJson))).bind
      BlockTree.fieldTable? = rereadFields? fields := by
  have rows : rereadFields? fields = (fields.toList.mapM rereadField?).bind fun rows =>
      rows.foldlM (fun table row => some (table.insert row.1 row.2)) ∅ := by
    rw [rereadFields?]
    cases fields.toList.mapM rereadField? with
    | none => rfl
    | some rows =>
        rw [Option.bind_some, foldlM_insert, Option.map_some,
          Std.ExtTreeMap.ofList_eq_insertMany_empty]
  rw [rows, Option.mapM_bind_foldlM, Json.rereadEntries?_eq_mapM]
  unfold BlockTree.fieldTable?
  rw [Option.mapM_bind_foldlM, List.foldlM_map]
  congr
  funext table field
  simp only [Json.rereadPair?, rereadField?, FieldValue.reread?, Option.bind_map]
  cases field.2.toJson.reread? with
  | none => rfl
  | some v =>
      cases value : BlockTree.fieldValue? v <;> simp [value]

/-- A table comes back if each of its values does. -/
theorem rereadFields?_eq_some_iff {fields : NameTable FieldValue} :
    rereadFields? fields = some fields ↔
      ∀ (name : String) (value : FieldValue), fields[name]? = some value →
        value.reread? = some value := by
  constructor
  · intro read name value held
    obtain ⟨rows, found, same⟩ := Option.map_eq_some_iff.1 read
    obtain ⟨names, each⟩ := mapM_rereadField? found
    obtain ⟨value', read, row⟩ :=
      each name value (Std.ExtTreeMap.mem_toList_iff_getElem?_eq_some.2 held)
    have distinct : rows.Pairwise fun a b => ¬ compare a.1 b.1 = .eq := by
      have keys := fields.distinct_keys_toList
      rw [← List.pairwise_map (f := Prod.fst) (R := fun a b => ¬ compare a b = .eq)] at keys ⊢
      rwa [names]
    have kept := Std.ExtTreeMap.getElem?_ofList_of_mem Std.ReflCmp.compare_self distinct row
    rw [same, held] at kept
    cases kept
    exact read
  · intro each
    have rows : fields.toList.mapM rereadField? = some fields.toList := by
      refine List.mapM_eq_some_self.2 fun field given => ?_
      have held := Std.ExtTreeMap.mem_toList_iff_getElem?_eq_some.1 given
      rw [rereadField?, each field.1 field.2 held]
      rfl
    rw [rereadFields?, rows, Option.map_some, ofList_toList]

theorem rereadFields?_eq_none {fields : NameTable FieldValue} {name : String} {value : FieldValue}
    (held : fields[name]? = some value) (lost : value.reread? = none) :
    rereadFields? fields = none := by
  have given := Std.ExtTreeMap.mem_toList_iff_getElem?_eq_some.2 held
  rw [rereadFields?, List.mapM_eq_none given (by rw [rereadField?, lost]; rfl)]
  rfl

/-! ## Trees -/

/-- What a tree is read as once it has been written, if nothing nests too deep. -/
def BlockTree.reread? (tree : BlockTree) : Option BlockTree :=
  tree.toJson.reread?.bind BlockTree.block?

namespace TreeInput

/-- What an input is written as. -/
def toJson : TreeInput → Json
  | .empty _ => .null
  | .single _ child => child.toJson
  | .chain _ members => .array (BlockTree.listToJson members)

/-- What an input is read as once it has been written. -/
def reread? (input : TreeInput) : Option TreeInput :=
  match input with
  | .empty slot => some (.empty slot)
  | .single slot child => child.reread?.map (.single slot)
  | .chain slot members => (members.mapM BlockTree.reread?).map (.chain slot)

end TreeInput

namespace BlockTree

theorem inputsToJson_eq_map (inputs : List TreeInput) :
    inputsToJson inputs = inputs.map fun input => (input.slot, input.toJson) := by
  induction inputs with
  | nil => rfl
  | cons input rest ih => cases input <;> simp [inputsToJson, TreeInput.toJson, TreeInput.slot, ih]

theorem listToJson_eq_map (trees : List BlockTree) : listToJson trees = trees.map toJson := by
  induction trees with
  | nil => rfl
  | cons tree rest ih => rw [listToJson, ih, List.map_cons]

/-- A part that is new to a draft is put into it. -/
theorem foldlM_part (draft : Draft) (part : Part) (new : draft.has part = false) (v : Json)
    (rest : List (String × Json)) :
    ((part.key, v) :: rest).foldlM addPair? draft =
      (addPart? draft part v).bind fun draft => rest.foldlM addPair? draft := by
  rw [List.foldlM_cons, addPair?, Part.ofKey?_key]
  simp [new]

theorem rereadEntries?_marks (next : Option BlockId) (revisited : Bool) :
    Json.rereadEntries? (marks next revisited) = some (marks next revisited) := by
  cases next <;> cases revisited <;> rfl

/-- The block that is made of its parts. -/
theorem block?_parts (id : BlockId) (type : String) (fields inputs : List (String × Json))
    (next : Option BlockId) (revisited : Bool) :
    block? (.object ((Part.id.key, .text id.text) :: (Part.type.key, .text type) ::
        (Part.fields.key, .object fields) :: (Part.inputs.key, .object inputs) ::
        marks next revisited)) =
      (fieldTable? fields).bind fun fields =>
        (inputs? [] inputs).map fun inputs => mk id type fields inputs next revisited := by
  have last (fields : NameTable FieldValue) (inputs : List TreeInput) :
      ((marks next revisited).foldlM addPair? ⟨id.text, type, fields, inputs, none, none⟩).bind
        Draft.finish? = some (mk id type fields inputs next revisited) := by
    cases next <;> cases revisited <;> rfl
  rw [block?, entries?_eq_foldlM]
  rw [foldlM_part _ .id rfl, addPart?, text?, Option.map_some, Option.bind_some]
  rw [foldlM_part _ .type rfl, addPart?, text?, Option.map_some, Option.bind_some]
  rw [foldlM_part _ .fields rfl, addPart?]
  cases fieldTable? fields with
  | none => rfl
  | some fields =>
      rw [Option.map_some, Option.bind_some, foldlM_part _ .inputs rfl, addPart?]
      cases inputs? [] inputs with
      | none => rfl
      | some inputs => exact last fields inputs

/-- A written tree is read again part by part. -/
theorem reread?_mk (id : BlockId) (type : String) (fields : NameTable FieldValue)
    (inputs : List TreeInput) (next : Option BlockId) (revisited : Bool) :
    (mk id type fields inputs next revisited).reread? =
      (rereadFields? fields).bind fun fields =>
        ((Json.rereadEntries? (inputsToJson inputs)).bind (inputs? [])).map fun inputs =>
          mk id type fields inputs next revisited := by
  rw [reread?, toJson_mk, ← bind_fieldTable?]
  simp only [Json.reread?, Json.rereadEntries?, Option.bind_some, rereadEntries?_marks]
  cases Json.rereadEntries? (fields.toList.map fun (name, value) => (name, value.toJson)) with
  | none => rfl
  | some fields =>
      cases Json.rereadEntries? (inputsToJson inputs) with
      | none =>
          rw [Option.bind_some]
          cases fieldTable? fields <;> rfl
      | some inputs => exact block?_parts id type fields inputs next revisited

theorem members?_eq_mapM (items : List Json) : members? items = items.mapM block? := by
  induction items with
  | nil => rfl
  | cons item rest ih =>
      rw [members?, ih, List.mapM_cons]
      cases block? item with
      | none => rfl
      | some tree => cases rest.mapM block? <;> rfl

/-- No block is written as an array, so an array of objects stands for a chain or for nothing. -/
theorem input?_objects (slot : String) {items : List Json}
    (objects : ∀ item ∈ items, ∃ entries, item = .object entries) :
    input? slot (.array items) = (items.mapM block?).map (.chain slot) := by
  rw [input?, members?_eq_mapM]
  cases read : items.mapM block? with
  | some members => rfl
  | none =>
      cases items with
      | nil => cases read
      | cons item rest =>
          obtain ⟨entries, rfl⟩ := objects item List.mem_cons_self
          rfl

/-- Written trees are read one by one. -/
theorem bind_mapM_block? (trees : List BlockTree) :
    ((listToJson trees).mapM Json.reread?).bind (·.mapM block?) = trees.mapM reread? := by
  rw [Option.mapM_bind_mapM, listToJson_eq_map, List.mapM_map]
  rfl

/-- What is read of a block is an object again. -/
theorem reread?_toJson {tree : BlockTree} {v : Json} (read : tree.toJson.reread? = some v) :
    ∃ entries, v = .object entries := by
  obtain ⟨entries, object, -⟩ := isBlock_toJson tree
  rw [object, Json.reread?] at read
  obtain ⟨found, -, rfl⟩ := Option.map_eq_some_iff.1 read
  exact ⟨found, rfl⟩

/-- An input is taken from what is read of its slot. -/
theorem bind_input? (input : TreeInput) :
    input.toJson.reread?.bind (input? input.slot) = input.reread? := by
  cases input with
  | empty slot => rfl
  | single slot child =>
      have object (v : Json) (read : child.toJson.reread? = some v) := reread?_toJson read
      rw [TreeInput.toJson, TreeInput.slot, TreeInput.reread?, reread?]
      cases read : child.toJson.reread? with
      | none => rfl
      | some v =>
          obtain ⟨entries, rfl⟩ := object v read
          rw [Option.bind_some, Option.bind_some, input?, block?]
  | chain slot members =>
      rw [TreeInput.toJson, TreeInput.slot, TreeInput.reread?, Json.reread?, ← bind_mapM_block?,
        Json.rereadItems?_eq_mapM]
      cases read : (listToJson members).mapM Json.reread? with
      | none => rfl
      | some items =>
          refine input?_objects slot fun item given => ?_
          obtain ⟨written, member, same⟩ := List.exists_of_mem_mapM read given
          rw [listToJson_eq_map] at member
          obtain ⟨tree, -, rfl⟩ := List.mem_map.1 member
          exact reread?_toJson same

end BlockTree

namespace TreeInput

theorem slot_of_reread? {input read : TreeInput} (same : input.reread? = some read) :
    read.slot = input.slot := by
  cases input with
  | empty slot =>
      cases same
      rfl
  | single slot child =>
      obtain ⟨found, -, rfl⟩ := Option.map_eq_some_iff.1 same
      rfl
  | chain slot members =>
      obtain ⟨found, -, rfl⟩ := Option.map_eq_some_iff.1 same
      rfl

/-- An input of a later slot comes behind the others. -/
theorem place_append {input : TreeInput} {before : List TreeInput}
    (later : ∀ other ∈ before, compare other.slot input.slot = .lt) :
    input.place before = before ++ [input] := by
  induction before with
  | nil => rfl
  | cons other rest ih =>
      obtain ⟨here, later⟩ := List.forall_mem_cons.1 later
      rw [place, Std.OrientedCmp.gt_iff_lt.2 here, ih later]
      rfl

/-- Inputs in the order of their slots are placed one behind the other. -/
theorem foldlM_place {inputs : List TreeInput} (sorted : Sorted inputs) (before : List TreeInput)
    (less : ∀ other ∈ before, ∀ input ∈ inputs, compare other.slot input.slot = .lt) :
    inputs.foldlM (fun placed input => input.reread?.map (·.place placed)) before =
      (inputs.mapM reread?).map (before ++ ·) := by
  induction inputs generalizing before with
  | nil => simp
  | cons input rest ih =>
      obtain ⟨least, sorted⟩ := List.pairwise_cons.1 sorted
      rw [List.foldlM_cons, List.mapM_cons]
      cases read : input.reread? with
      | none => rfl
      | some found =>
          have same := slot_of_reread? read
          have behind : found.place before = before ++ [found] :=
            place_append fun other given => same ▸ less other given input List.mem_cons_self
          have next := ih sorted (before ++ [found]) fun other given later member => by
            rcases List.mem_append.1 given with given | given
            · exact less other given later (List.mem_cons_of_mem _ member)
            · rw [List.mem_singleton.1 given, same]
              exact least later.slot (List.mem_map_of_mem member)
          simp only [Option.map_some, Option.bind_eq_bind, Option.bind_some, behind, next]
          cases rest.mapM reread? <;> simp

/-- The written inputs of a block are read input by input. -/
theorem bind_inputs? {inputs : List TreeInput} (sorted : Sorted inputs) :
    (Json.rereadEntries? (BlockTree.inputsToJson inputs)).bind (BlockTree.inputs? []) =
      inputs.mapM reread? := by
  have placed : BlockTree.inputs? [] = fun entries => entries.foldlM
      (fun inputs entry => (BlockTree.input? entry.1 entry.2).map (·.place inputs)) [] :=
    funext fun entries => BlockTree.inputs?_eq_table? [] entries
  have step (placed : List TreeInput) (input : TreeInput) :
      (Json.rereadPair? (input.slot, input.toJson)).bind
        (fun entry => (BlockTree.input? entry.1 entry.2).map (·.place placed)) =
      input.reread?.map (·.place placed) := by
    rw [← BlockTree.bind_input?, Json.rereadPair?]
    cases input.toJson.reread? <;> rfl
  rw [BlockTree.inputsToJson_eq_map, Json.rereadEntries?_eq_mapM, placed, Option.mapM_bind_foldlM,
    List.foldlM_map]
  simp only [step]
  rw [foldlM_place sorted [] fun _ none => absurd none List.not_mem_nil]
  cases inputs.mapM reread? <;> rfl

theorem reread?_eq_some_self {input : TreeInput} :
    input.reread? = some input ↔ ∀ child ∈ input.trees, child.reread? = some child := by
  cases input with
  | empty slot => simp [reread?, trees]
  | single slot child => simp [reread?, trees]
  | chain slot members =>
      rw [trees, ← List.mapM_eq_some_self, reread?]
      cases members.mapM BlockTree.reread? <;> simp

theorem reread?_eq_none {input : TreeInput} {child : BlockTree} (held : child ∈ input.trees)
    (lost : child.reread? = none) : input.reread? = none := by
  cases input with
  | empty slot => cases held
  | single slot only =>
      cases List.mem_singleton.1 held
      rw [reread?, lost]
      rfl
  | chain slot members =>
      rw [reread?, List.mapM_eq_none (show child ∈ members from held) lost]
      rfl

end TreeInput

namespace BlockTree

/-- What a tree is read as, told by its fields and its inputs. -/
theorem reread?_eq {tree : BlockTree} (sorted : TreeInput.Sorted tree.inputs) :
    tree.reread? = (rereadFields? tree.fields).bind fun fields =>
      (tree.inputs.mapM TreeInput.reread?).map fun inputs =>
        mk tree.id tree.type fields inputs tree.next tree.revisited := by
  obtain ⟨id, type, fields, inputs, next, revisited⟩ := tree
  have sorted : TreeInput.Sorted inputs := sorted
  rw [reread?_mk, TreeInput.bind_inputs? sorted]
  rfl

/-- A tree comes back if the fields of every tree in it do. -/
theorem reread?_eq_some_self {tree : BlockTree}
    (ordered : ∀ sub ∈ tree.subtrees, TreeInput.Sorted sub.inputs) :
    tree.reread? = some tree ↔
      ∀ sub ∈ tree.subtrees, rereadFields? sub.fields = some sub.fields := by
  induction tree using child_induction with
  | step tree ih =>
      have below {input : TreeInput} (given : input ∈ tree.inputs) :
          input.reread? = some input ↔ ∀ child ∈ input.trees, ∀ sub ∈ child.subtrees,
            rereadFields? sub.fields = some sub.fields := by
        rw [TreeInput.reread?_eq_some_self]
        refine forall₂_congr fun child held => ih input given child held fun sub inside => ?_
        exact ordered sub (mem_subtrees_of_child given held inside)
      have parts : tree.reread? = some tree ↔ rereadFields? tree.fields = some tree.fields ∧
          tree.inputs.mapM TreeInput.reread? = some tree.inputs := by
        rw [reread?_eq (ordered tree tree.self_mem_subtrees)]
        obtain ⟨id, type, fields, inputs, next, revisited⟩ := tree
        simp only [BlockTree.id, BlockTree.type, BlockTree.fields, BlockTree.inputs,
          BlockTree.next, BlockTree.revisited]
        cases rereadFields? fields <;> cases inputs.mapM TreeInput.reread? <;> simp
      rw [parts, List.mapM_eq_some_self]
      constructor
      · rintro ⟨here, later⟩ sub inside
        rcases mem_subtrees.1 inside with rfl | ⟨input, given, child, held, inside⟩
        · exact here
        · exact (below given).1 (later input given) child held sub inside
      · intro all
        refine ⟨all tree tree.self_mem_subtrees, fun input given => (below given).2 ?_⟩
        exact fun child held sub inside => all sub (mem_subtrees_of_child given held inside)

/-- A tree with fields that are lost is lost. -/
theorem reread?_eq_none {tree sub : BlockTree}
    (ordered : ∀ sub ∈ tree.subtrees, TreeInput.Sorted sub.inputs) (inside : sub ∈ tree.subtrees)
    (lost : rereadFields? sub.fields = none) : tree.reread? = none := by
  induction tree using child_induction with
  | step tree ih =>
      rw [reread?_eq (ordered tree tree.self_mem_subtrees)]
      rcases mem_subtrees.1 inside with rfl | ⟨input, given, child, held, inside⟩
      · rw [lost]
        rfl
      · have gone := ih input given child held
          (fun other deeper => ordered other (mem_subtrees_of_child given held deeper)) inside
        rw [List.mapM_eq_none given (TreeInput.reread?_eq_none held gone)]
        cases rereadFields? tree.fields <;> rfl

/-! ## Texts -/

/-- What comes back of written trees. -/
theorem toOption_read_write (trees : List BlockTree) :
    (read (write trees)).toOption =
      if (Json.array (listToJson trees)).depth ≤ depthLimit then trees.mapM reread? else none := by
  have blocks : ∀ v ∈ listToJson trees, IsBlock v := fun v member => by
    rw [listToJson_eq_map] at member
    obtain ⟨tree, -, rfl⟩ := List.mem_map.1 member
    exact isBlock_toJson tree
  rw [write, toOption_read_pretty blocks, Json.within?, ← bind_mapM_block?, Json.reread?,
    Json.rereadItems?_eq_mapM]
  split
  · cases (listToJson trees).mapM Json.reread? <;> rfl
  · rfl

/-- Some block among the trees, or below them, has a field with this number. -/
def HoldsNumber (trees : List BlockTree) (x : Float) : Prop :=
  ∃ sub ∈ subtreesOf trees, ∃ name : String, sub.fields[name]? = some (.number x)

/-- Trees come back if the numbers in them do. -/
theorem mapM_reread?_eq_some_self {trees : List BlockTree}
    (ordered : ∀ sub ∈ subtreesOf trees, TreeInput.Sorted sub.inputs) :
    trees.mapM reread? = some trees ↔
      ∀ x, HoldsNumber trees x → (FieldValue.number x).reread? = some (.number x) := by
  have each {tree : BlockTree} (given : tree ∈ trees) :
      tree.reread? = some tree ↔
        ∀ sub ∈ tree.subtrees, rereadFields? sub.fields = some sub.fields :=
    reread?_eq_some_self fun sub inside => ordered sub (mem_subtreesOf.2 ⟨tree, given, inside⟩)
  rw [List.mapM_eq_some_self]
  constructor
  · rintro all x ⟨sub, inside, name, held⟩
    obtain ⟨tree, given, inside⟩ := mem_subtreesOf.1 inside
    exact rereadFields?_eq_some_iff.1 ((each given).1 (all tree given) sub inside) name _ held
  · intro all tree given
    refine (each given).2 fun sub inside => rereadFields?_eq_some_iff.2 fun name value held => ?_
    cases value with
    | number x => exact all x ⟨sub, mem_subtreesOf.2 ⟨tree, given, inside⟩, name, held⟩
    | text s => rfl

/-- A number that is not finite is lost, and the trees with it. -/
theorem mapM_reread?_eq_none {trees : List BlockTree}
    (ordered : ∀ sub ∈ subtreesOf trees, TreeInput.Sorted sub.inputs) {x : Float}
    (holds : HoldsNumber trees x) (unbounded : (BinaryNumber.ofFloat x).isFinite = false) :
    trees.mapM reread? = none := by
  obtain ⟨sub, inside, name, held⟩ := holds
  obtain ⟨tree, given, inside⟩ := mem_subtreesOf.1 inside
  have lost := FieldValue.reread?_unbounded (x := x) (by simp [unbounded])
  refine List.mapM_eq_none given (reread?_eq_none (fun sub below => ?_) inside
    (rereadFields?_eq_none held lost))
  exact ordered sub (mem_subtreesOf.2 ⟨tree, given, below⟩)

/-- Trees are read back from their text exactly if they do not nest too deep and every number in
them is finite and is read back from its own text. Trees that nest deeper, or hold a number that is
not finite, are written to a text that cannot be read. -/
theorem read_write {trees : List BlockTree}
    (ordered : ∀ sub ∈ subtreesOf trees, TreeInput.Sorted sub.inputs) :
    (read (write trees) = .ok trees ↔
      (Json.array (listToJson trees)).depth ≤ 127 ∧
        ∀ x, HoldsNumber trees x → (BinaryNumber.ofFloat x).isFinite = true ∧
          Json.read (Json.float x).compact = .ok (.float x)) ∧
    ((127 < (Json.array (listToJson trees)).depth ∨
        ∃ x, HoldsNumber trees x ∧ (BinaryNumber.ofFloat x).isFinite = false) →
      ∃ fault, read (write trees) = .error fault) := by
  have back := toOption_read_write trees
  have numbers := mapM_reread?_eq_some_self ordered
  simp only [FieldValue.reread?_number_iff] at numbers
  constructor
  · have ok : read (write trees) = .ok trees ↔ (read (write trees)).toOption = some trees := by
      cases read (write trees) <;> simp [Except.toOption]
    rw [ok, back, ← numbers, Option.ite_none_right_eq_some]
    rfl
  · intro outside
    have none : (read (write trees)).toOption = none := by
      rw [back]
      rcases outside with deep | ⟨x, holds, unbounded⟩
      · exact if_neg (Nat.not_le.2 deep)
      · rw [mapM_reread?_eq_none ordered holds unbounded, ite_self]
    cases result : read (write trees) with
    | error fault => exact ⟨fault, rfl⟩
    | ok found =>
        rw [result] at none
        cases none

/-- A chain of a loop and a stub, an empty slot, and a text that has to be escaped. -/
theorem read_write_chain :
    let stub : BlockTree := .stub ⟨"loop"⟩ "controls_while"
    let loop : BlockTree := .mk ⟨"loop"⟩ "controls_while" ∅ [.single "condition" stub]
      (some ⟨"loop"⟩) false
    let name : NameTable FieldValue := (∅ : NameTable FieldValue).insert "name" (.text "\"a\\b\"\n")
    let trees : List BlockTree :=
      [.mk ⟨"f"⟩ "process_instruction" name [.chain "body" [loop, stub], .empty "tail"] none false]
    (∀ sub ∈ subtreesOf trees, TreeInput.Sorted sub.inputs) ∧ read (write trees) = .ok trees := by
  intro stub loop name trees
  have ordered : ∀ sub ∈ subtreesOf trees, TreeInput.Sorted sub.inputs := by
    have slots : compare "body" "tail" = .lt := by decide
    simp [trees, loop, stub, subtreesOf, subtrees, TreeInput.subtrees, inputs, BlockTree.stub,
      TreeInput.Sorted, TreeInput.slot, slots]
  refine ⟨ordered, (read_write ordered).1.2 ⟨by decide, ?_⟩⟩
  rintro x ⟨sub, inside, key, held⟩
  have given : sub.fields = name ∨ sub.fields = ∅ := by
    simp only [trees, loop, stub, subtreesOf, subtrees, TreeInput.subtrees, BlockTree.stub,
      List.mem_append, List.mem_cons, List.not_mem_nil, or_false] at inside
    rcases inside with rfl | (rfl | rfl) | rfl <;> simp [fields]
  rcases given with same | same
  · rw [same, Std.ExtTreeMap.getElem?_insert] at held
    split at held
    · cases held
    · simp at held
  · simp [same] at held

end BlockTree

end SolanaBlocks
