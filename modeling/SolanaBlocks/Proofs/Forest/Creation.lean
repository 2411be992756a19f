import SolanaBlocks.Proofs.Forest.Kinds
import SolanaBlocks.Proofs.Forest.Layout

/-!
# New blocks, fields and the order of the top level

A new block comes to the end of the top level with empty slots, and its fields are those that its
type declares. Setting a field and reordering the top level leave every block in its place.
-/

namespace SolanaBlocks

namespace Workspace

variable {w w' : Workspace} {members : Seat → List BlockId}

/-! ## Fields -/

theorem field?_isSome_iff {type : BlockType} {name : String} :
    (type.field? name).isSome ↔ name ∈ type.fields.map FieldDecl.name := by
  simp [BlockType.field?]

theorem setFields_eq_ok_iff {type : BlockType} {table table' : NameTable FieldValue}
    {given : List (String × FieldValue)} :
    setFields type table given = .ok table' ↔
      (∀ entry ∈ given, (type.field? entry.1).isSome) ∧ table' = table.insertMany given := by
  induction given generalizing table with
  | nil =>
      rw [setFields, Std.ExtTreeMap.insertMany_nil, Except.ok.injEq, eq_comm (a := table)]
      simp
  | cons entry given ih =>
      obtain ⟨name, value⟩ := entry
      rw [setFields, Std.ExtTreeMap.insertMany_cons]
      by_cases declared : (type.field? name).isSome
      · have known : ¬ (type.field? name).isNone = true := by
          rw [Option.isNone_eq_false_iff.2 declared]
          exact Bool.false_ne_true
        rw [if_neg known, ih]
        simp [declared]
      · rw [if_pos (by simpa using declared)]
        simp [declared]

theorem mem_defaultFields {type : BlockType} {name : String} :
    name ∈ defaultFields type ↔ (type.field? name).isSome := by
  have inserted : defaultFields type =
      (∅ : NameTable FieldValue).insertMany
        (type.fields.map fun field => (field.name, field.default)) := by
    rw [Std.ExtTreeMap.insertMany_list_eq_foldl, List.foldl_map]
    rfl
  rw [inserted, Std.ExtTreeMap.mem_insertMany_list, field?_isSome_iff, List.map_map]
  simp [Function.comp_def]

/-- A new block has exactly the fields that its type declares. -/
theorem mem_setFields {type : BlockType} {table : NameTable FieldValue}
    {given : List (String × FieldValue)}
    (ok : setFields type (defaultFields type) given = .ok table) {name : String} :
    name ∈ table ↔ (type.field? name).isSome := by
  obtain ⟨declared, rfl⟩ := setFields_eq_ok_iff.1 ok
  rw [Std.ExtTreeMap.mem_insertMany_list, mem_defaultFields, List.contains_iff_mem, List.mem_map]
  constructor
  · rintro (known | ⟨entry, hentry, rfl⟩)
    · exact known
    · exact declared entry hentry
  · exact .inl

/-! ## New blocks -/

/-- What a new block does to the tables: it is known from now on, and has no place but the end of the
top level. -/
structure Created (w w' : Workspace) (id : BlockId) (type : String)
    (fields : NameTable FieldValue) : Prop where
  new : w.contains id = false
  palette : w'.palette = w.palette
  roots : w'.roots = w.roots ++ [id]
  types : w'.typeName? = Function.update w.typeName? id (some type)
  fields : w'.fields? = Function.update w.fields? id (some fields)
  seats : w'.seat? = w.seat?
  nexts : w'.next? = w.next?
  contents : w'.content? = w.content?

theorem created_insert {id : BlockId} (new : w.contains id = false) (type : String)
    (fields : NameTable FieldValue) :
    Created w
      { w with
        blocks := w.blocks.insert id { type := type, fields := fields }
        roots := w.roots ++ [id]
        revision := w.revision + 1 }
      id type fields := by
  have absent : w.get? id = none := by
    cases found : w.get? id with
    | none => rfl
    | some block => simp [contains_iff.2 ⟨block, found⟩] at new
  generalize change : ({ w with
    blocks := w.blocks.insert id { type := type, fields := fields }
    roots := w.roots ++ [id]
    revision := w.revision + 1 } : Workspace) = w'
  have found (other : BlockId) : w'.get? other =
      if id = other then some { type := type, fields := fields } else w.get? other := by
    rw [← change]
    exact (Std.ExtTreeMap.getElem?_insert).trans (by simp [get?])
  refine ⟨new, by rw [← change], by rw [← change], ?_, ?_, ?_, ?_, ?_⟩
  · funext other
    rw [typeName?, found, Function.update_apply]
    by_cases same : id = other <;> simp [same, typeName?, Ne.symm]
  · funext other
    rw [fields?, found, Function.update_apply]
    by_cases same : id = other <;> simp [same, fields?, Ne.symm]
  · funext other
    rw [seat?, found, seat?]
    by_cases same : id = other
    · simp [← same, absent]
    · rw [if_neg same]
  · funext other
    rw [next?, found, next?]
    by_cases same : id = other
    · simp [← same, absent]
    · rw [if_neg same]
  · funext seat
    rw [content?, slot?, found, content?, slot?]
    by_cases same : id = seat.owner
    · simp [← same, absent]
    · rw [if_neg same]

theorem createAs_eq_ok_iff {id : BlockId} {type : String} {given : List (String × FieldValue)} :
    w.createAs id type given = .ok w' ↔
      w.contains id = false ∧ ∃ declaration fields, w.palette.get? type = some declaration ∧
        setFields declaration (defaultFields declaration) given = .ok fields ∧
        w' = { w with
          blocks := w.blocks.insert id { type := type, fields := fields }
          roots := w.roots ++ [id]
          revision := w.revision + 1 } := by
  unfold createAs
  cases w.contains id with
  | true => simp
  | false =>
      cases w.palette.get? type with
      | none => simp
      | some declaration =>
          cases fields : setFields declaration (defaultFields declaration) given with
          | error e => simp [fields]
          | ok table => simp [fields, bump, eq_comm]

namespace Created

variable {id : BlockId} {type : String} {fields : NameTable FieldValue}

theorem contains (c : Created w w' id type fields) (other : BlockId) :
    w'.contains other = true ↔ other = id ∨ w.contains other = true := by
  rw [contains_eq_isSome_typeName?, contains_eq_isSome_typeName?, c.types, Function.update_apply]
  by_cases same : other = id <;> simp [same]

theorem laid (c : Created w w' id type fields) (h : Laid w members []) : Laid w' members [] := by
  have free : w.seat? id = none := by
    cases sits : w.seat? id with
    | none => rfl
    | some seat => simpa [c.new] using contains_of_seat? sits
  have root : id ∉ w.roots := fun hid => by simpa [c.new] using ((h.mem_roots id).1 hid).1
  refine ⟨?_, fun other => ?_, by simp, fun seat other => ?_, h.nodup, fun seat => ?_,
    fun other lone => ?_, fun seat => ?_, fun other alive => ?_⟩
  · rw [c.roots]
    exact List.nodup_append.2 ⟨h.roots_nodup, by simp,
      fun other ho _ hid => by rw [List.mem_singleton.1 hid]; exact ne_of_mem_of_not_mem ho root⟩
  · rw [c.roots, c.contains, c.seats, List.mem_append, List.mem_singleton, h.mem_roots]
    by_cases same : other = id
    · subst same
      simp [free]
    · simp [same]
  · rw [c.seats]
    exact h.mem_members seat other
  · rw [c.nexts]
    exact h.linked seat
  · rw [c.nexts]
    rw [c.seats] at lone
    exact h.next?_eq_none other lone
  · rw [c.contents]
    exact h.holds seat
  · rcases (c.contains other).1 alive with rfl | present
    · exact .top alive (by rw [c.seats, free])
    · refine (h.rooted other present).of_living (fun _ _ => by rw [c.seats]) (fun x seat _ sits => ?_)
        alive
      exact (c.contains _).2 (.inr ((h.rooted x (contains_of_seat? sits)).owner sits).contains)

theorem typeAt? (c : Created w w' id type fields) (other : BlockId) :
    w'.typeAt? other = if other = id then w.palette.get? type else w.typeAt? other := by
  rw [Workspace.typeAt?, Workspace.typeAt?, c.palette, c.types, Function.update_apply]
  split <;> rfl

theorem typed (c : Created w w' id type fields) (t : Typed w) {declaration : BlockType}
    (known : w.palette.get? type = some declaration)
    (keyed : ∀ name, name ∈ fields ↔ (declaration.field? name).isSome) : Typed w' := by
  have absent : w.typeAt? id = none := by
    cases typed : w.typeAt? id with
    | none => rfl
    | some type => simpa [c.new] using contains_of_typeAt? typed
  have before {other : BlockId} {type : BlockType} (h : w.typeAt? other = some type) :
      w'.typeAt? other = some type := by
    rw [c.typeAt?, if_neg, h]
    rintro rfl
    rw [absent] at h
    cases h
  have arity {seat : Seat} {arity : SlotArity} (h : w.arity? seat = some arity) :
      w'.arity? seat = some arity := by
    obtain ⟨slot, declared, rfl⟩ := Option.map_eq_some_iff.1 h
    obtain ⟨type, typed, declared⟩ := Option.bind_eq_some_iff.1 declared
    simp [arity?, before typed, declared]
  refine ⟨fun other alive => ?_, fun seat content held => ?_, fun other seat sits => ?_,
    fun other type' fields' typed given name => ?_⟩
  · rcases (c.contains other).1 alive with rfl | present
    · exact ⟨declaration, by rw [c.typeAt?, if_pos rfl, known]⟩
    · obtain ⟨type, typed⟩ := t.known other present
      exact ⟨type, before typed⟩
  · rw [c.contents] at held
    exact arity (t.declared seat content held)
  · rw [c.seats] at sits
    obtain ⟨kind, type, declared, typed, fit⟩ := t.fitting other seat sits
    exact ⟨kind, type, arity declared, before typed, fit⟩
  · rw [c.typeAt?] at typed
    rw [c.fields, Function.update_apply] at given
    by_cases same : other = id
    · rw [if_pos same, known] at typed
      rw [if_pos same] at given
      cases typed
      cases given
      exact keyed name
    · rw [if_neg same] at typed given
      exact t.keyed other type' fields' typed given name

end Created

/-! ## Changes that move nothing -/

theorem typeAt?_modify (w : Workspace) (id : BlockId) (change : Block → Block)
    (types : ∀ block, (change block).type = block.type) (other : BlockId) :
    (w.modify id change).typeAt? other = w.typeAt? other := by
  rw [typeAt?, typeAt?, typeName?, typeName?, get?_modify]
  split
  · rw [Option.map_map, show Block.type ∘ change = Block.type from funext types]
    rfl
  · rfl

/-- Setting a declared field keeps the fields of every block those that its type declares. -/
theorem typed_setField (t : Typed w) {id : BlockId} {type : BlockType} {name : String}
    (typed : w.typeAt? id = some type) (declared : (type.field? name).isSome)
    (value : FieldValue) :
    Typed (w.modify id fun block => { block with fields := block.fields.insert name value }) := by
  generalize change : (w.modify id fun block =>
    { block with fields := block.fields.insert name value }) = w'
  have types (other : BlockId) : w'.typeAt? other = w.typeAt? other := by
    rw [← change]
    exact typeAt?_modify w id _ (fun _ => by rfl) other
  have arity (seat : Seat) : w'.arity? seat = w.arity? seat := by rw [arity?, arity?, types]
  have seats : w'.seat? = w.seat? := by
    rw [← change]
    exact seat?_modify_of_eq w _ _ fun _ => rfl
  have contents : w'.content? = w.content? := by
    rw [← change]
    exact content?_modify_of_eq w _ _ fun _ => rfl
  refine ⟨fun other alive => ?_, fun seat content held => ?_, fun other seat sits => ?_,
    fun other type' fields typed' given key => ?_⟩
  · rw [← change] at alive
    obtain ⟨block, found⟩ := contains_iff.1 alive
    rw [types]
    apply t.known other
    rw [get?_modify] at found
    split at found
    · obtain ⟨block, found, -⟩ := Option.map_eq_some_iff.1 found
      exact contains_iff.2 ⟨block, found⟩
    · exact contains_iff.2 ⟨block, found⟩
  · rw [arity]
    rw [contents] at held
    exact t.declared seat content held
  · rw [seats] at sits
    rw [Fits, arity, types]
    exact t.fitting other seat sits
  · rw [types] at typed'
    rw [← change, fields?, get?_modify] at given
    by_cases same : id = other
    · subst same
      rw [if_pos rfl, Option.map_map] at given
      rw [typed] at typed'
      cases typed'
      obtain ⟨block, found, rfl⟩ := Option.map_eq_some_iff.1 given
      have before := t.keyed id type block.fields typed (by simp [fields?, found]) key
      rw [Function.comp_apply, Std.ExtTreeMap.mem_insert, before,
        Std.LawfulEqOrd.compare_eq_iff_eq]
      constructor
      · rintro (rfl | known)
        · exact declared
        · exact known
      · exact .inr
    · rw [if_neg same] at given
      exact t.keyed other type' fields typed' given key

theorem laid_setField (h : Laid w members []) (id : BlockId) (name : String) (value : FieldValue) :
    Laid (w.modify id fun block => { block with fields := block.fields.insert name value })
      members [] := by
  exact h.of_tables (contains_modify w id _) (seat?_modify_of_eq w _ _ fun _ => by rfl)
    (next?_modify_of_eq w _ _ fun _ => by rfl) (content?_modify_of_eq w _ _ fun _ => by rfl)
    (.refl _)

theorem setField_eq_ok_iff {id : BlockId} {name : String} {value : FieldValue} :
    w.setField id name value = .ok w' ↔
      ∃ type, w.typeAt? id = some type ∧ (type.field? name).isSome ∧
        w' = bump (w.modify id fun block =>
          { block with fields := block.fields.insert name value }) := by
  unfold setField
  cases known : w.requireType id with
  | error e =>
      have none : ∀ type, w.typeAt? id ≠ some type := by
        intro type typed
        rw [← requireType_eq_ok_iff, known] at typed
        cases typed
      simp [Bind.bind, Except.bind, none]
  | ok type =>
      rw [requireType_eq_ok_iff] at known
      simp only [Bind.bind, Except.bind, known, Option.some.injEq, exists_eq_left']
      cases type.field? name with
      | none => simp [throw, throwThe, MonadExceptOf.throw]
      | some field => simp [pure, Except.pure, eq_comm]

/-- Reordering the top level moves no block away from it. -/
theorem perm_moved (w : Workspace) {id : BlockId} (root : id ∈ w.roots) (index : Nat) :
    ((w.roots.erase id).take index ++ id :: (w.roots.erase id).drop index).Perm w.roots := by
  refine List.perm_middle.trans ?_
  rw [List.take_append_drop]
  exact (List.perm_cons_erase root).symm

theorem moveRoot_eq_ok_iff {id : BlockId} {index : Nat} :
    w.moveRoot id index = .ok w' ↔
      id ∈ w.roots ∧ w' = bump
        { w with roots := (w.roots.erase id).take index ++ id :: (w.roots.erase id).drop index } := by
  unfold moveRoot
  by_cases root : id ∈ w.roots <;> simp [isRoot, root, eq_comm]

end Workspace

end SolanaBlocks
