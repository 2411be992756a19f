import Mathlib.Data.Finset.Card
import SolanaBlocks.Palette.Index

/-!
# Registering block types

Registering a type either puts it in the place of the one that had its id before or behind all
others. So however often ids are registered again, a palette lists each of them once, where it was
registered first, with the declaration that was registered last, and looking an id up gives this
declaration too.

An index keeps declarations and order apart. `InStep` says that its table and its list name the same
ids; every registration keeps them in step, and then registering with the index is registering with
the palette that it stands for.
-/

namespace SolanaBlocks

namespace Palette

variable {palette : Palette} {registered types : List BlockType}

/-- The declaration of an id that was registered last. -/
def lastOf (registered : List BlockType) (id : String) : Option BlockType :=
  registered.reverse.find? fun type => type.id == id

theorem lastOf_concat (registered : List BlockType) (type : BlockType) (id : String) :
    lastOf (registered ++ [type]) id =
      if type.id = id then some type else lastOf registered id := by
  by_cases same : type.id = id <;> simp [lastOf, same]

theorem lastOf_isSome_iff {id : String} :
    (lastOf registered id).isSome = true ↔ id ∈ registered.map BlockType.id := by
  simp [lastOf, List.find?_isSome]

/-! ## One registration -/

/-- A type that is registered again leaves the ids in their order, and a new one comes last. -/
theorem map_id_place (type : BlockType) (types : List BlockType) :
    (place type types).map BlockType.id =
      if type.id ∈ types.map BlockType.id then types.map BlockType.id
      else types.map BlockType.id ++ [type.id] := by
  induction types with
  | nil => simp [place]
  | cons known rest ih =>
      rw [place]
      by_cases same : known.id = type.id
      · simp [same]
      · rw [if_neg same, List.map_cons, ih]
        by_cases later : type.id ∈ rest.map BlockType.id <;> simp [later, Ne.symm same]

/-- What is found under an id is the new type if the id is its own, and else what was found
before. -/
theorem find?_place (type : BlockType) (types : List BlockType) (id : String) :
    (place type types).find? (fun known => known.id == id) =
      if type.id = id then some type else types.find? fun known => known.id == id := by
  induction types with
  | nil => by_cases same : type.id = id <;> simp [place, same]
  | cons known rest ih =>
      rw [place]
      by_cases again : known.id = type.id
      · rw [if_pos again]
        by_cases same : type.id = id <;> simp [again, same]
      · rw [if_neg again, List.find?_cons, List.find?_cons, ih]
        by_cases same : type.id = id
        · have other : (known.id == id) = false :=
            beq_eq_false_iff_ne.2 fun found => again (found.trans same.symm)
          rw [other, if_pos same]
        · rw [if_neg same, if_neg same]

theorem ids_register (palette : Palette) (type : BlockType) :
    (palette.register type).ids =
      if type.id ∈ palette.ids then palette.ids else palette.ids ++ [type.id] :=
  map_id_place type palette.types

theorem get?_register (palette : Palette) (type : BlockType) (id : String) :
    (palette.register type).get? id = if type.id = id then some type else palette.get? id :=
  find?_place type palette.types id

/-! ## Distinct ids -/

/-- If no id comes twice, what is found under an id is the type on the list that has it. -/
theorem get?_eq_some_iff (distinct : palette.ids.Nodup) {id : String} {type : BlockType} :
    palette.get? id = some type ↔ type ∈ palette.types ∧ type.id = id := by
  constructor
  · intro found
    exact ⟨List.mem_of_find?_eq_some found, by simpa using List.find?_some found⟩
  · rintro ⟨known, rfl⟩
    cases found : palette.get? type.id with
    | none => simpa using List.find?_eq_none.1 found type known
    | some other =>
        have same : other.id = type.id := by simpa using List.find?_some found
        have inside : other ∈ palette.types := List.mem_of_find?_eq_some found
        exact congrArg some (List.inj_on_of_nodup_map distinct inside known same)

/-- The types stand in the order of their ids. -/
theorem map_some_types (distinct : palette.ids.Nodup) :
    palette.types.map some = palette.ids.map palette.get? := by
  rw [ids, List.map_map]
  exact List.map_congr_left fun type known =>
    ((get?_eq_some_iff distinct).2 ⟨known, rfl⟩).symm

/-- A palette is told by the order of its ids and by what is found under them. -/
theorem ext_get? {palette' : Palette} (distinct : palette.ids.Nodup)
    (order : palette'.ids = palette.ids) (found : palette'.get? = palette.get?) :
    palette' = palette := by
  have same : palette'.types.map some = palette.types.map some := by
    rw [map_some_types distinct, map_some_types (order ▸ distinct), order, found]
  have types := List.map_injective_iff.2 (Option.some_injective BlockType) same
  cases palette
  cases palette'
  exact congrArg mk types

/-! ## All registrations -/

/-- The ids of a palette are those of the registered types, in the order of their first
registration, and each is found with its last declaration. -/
structure Records (registered : List BlockType) (palette : Palette) : Prop where
  mem_ids : ∀ id, id ∈ palette.ids ↔ id ∈ registered.map BlockType.id
  order : palette.ids.Pairwise fun a b =>
    (registered.map BlockType.id).idxOf a < (registered.map BlockType.id).idxOf b
  found : ∀ id, palette.get? id = lastOf registered id

namespace Records

theorem empty : Records [] {} where
  mem_ids _ := Iff.rfl
  order := List.Pairwise.nil
  found _ := rfl

/-- Another registration keeps the places of all ids, since each stands where it was registered
first. -/
theorem register (h : Records registered palette) (type : BlockType) :
    Records (registered ++ [type]) (palette.register type) where
  mem_ids id := by
    rw [ids_register, List.map_append, List.mem_append, ← h.mem_ids]
    split
    · next known =>
        refine ⟨.inl, fun either => either.elim (fun before => before) fun now => ?_⟩
        exact List.mem_singleton.1 now ▸ known
    · exact List.mem_append
  order := by
    have kept {a : String} (known : a ∈ palette.ids) :
        ((registered ++ [type]).map BlockType.id).idxOf a =
          (registered.map BlockType.id).idxOf a := by
      rw [List.map_append, List.idxOf_append_of_mem ((h.mem_ids a).1 known)]
    have before : palette.ids.Pairwise fun a b =>
        ((registered ++ [type]).map BlockType.id).idxOf a <
          ((registered ++ [type]).map BlockType.id).idxOf b := by
      refine h.order.imp_of_mem fun ha hb earlier => ?_
      rwa [kept ha, kept hb]
    rw [ids_register]
    split
    · exact before
    · next new =>
        have absent : type.id ∉ registered.map BlockType.id := fun there =>
          new ((h.mem_ids type.id).2 there)
        refine List.pairwise_append.2
          ⟨before, List.pairwise_singleton _ type.id, fun a known b last => ?_⟩
        obtain rfl := List.mem_singleton.1 last
        rw [kept known, List.map_append, List.idxOf_append_of_notMem absent]
        exact Nat.lt_add_right _ (List.idxOf_lt_length_of_mem ((h.mem_ids a).1 known))
  found id := by
    rw [get?_register, lastOf_concat, h.found]

end Records

theorem records_ofTypes (registered : List BlockType) :
    Records registered (ofTypes registered) := by
  induction registered using List.reverseRecOn with
  | nil => exact .empty
  | append_singleton registered type ih =>
      have last : ofTypes (registered ++ [type]) = (ofTypes registered).register type :=
        List.foldl_concat ..
      exact last ▸ ih.register type

theorem contains_iff {id : String} : palette.contains id = true ↔ id ∈ palette.ids := by
  simp [contains, ids]

theorem length_ids : palette.ids.length = palette.size :=
  List.length_map BlockType.id

end Palette

/-! ## Table and list -/

namespace TypeIndex

variable {index : TypeIndex} {type : BlockType} {id : String}

/-- The list names the ids of the table, each once, and every type stands under its own id. -/
structure InStep (index : TypeIndex) : Prop where
  mem_order : ∀ id, id ∈ index.order ↔ index.contains id = true
  distinct : index.order.Nodup
  own : ∀ id type, index.get? id = some type → type.id = id
  size : index.size = index.order.length

theorem contains_eq_isSome : index.contains id = (index.get? id).isSome :=
  Std.ExtTreeMap.contains_eq_isSome_getElem?

theorem get?_register (index : TypeIndex) (type : BlockType) (id : String) :
    (index.register type).get? id = if type.id = id then some type else index.get? id := by
  have types : (index.register type).types = index.types.insert type.id type := by
    unfold register
    split <;> rfl
  rw [get?, types, Std.ExtTreeMap.getElem?_insert]
  simp only [Std.LawfulEqCmp.compare_eq_iff_eq, get?]

theorem contains_register (index : TypeIndex) (type : BlockType) (id : String) :
    (index.register type).contains id = true ↔ type.id = id ∨ index.contains id = true := by
  rw [contains_eq_isSome, contains_eq_isSome, get?_register]
  by_cases same : type.id = id <;> simp [same]

namespace InStep

theorem empty : InStep {} where
  mem_order id := by simp [contains]
  distinct := List.nodup_nil
  own id type found := by simp [get?] at found
  size := rfl

theorem order_register (h : InStep index) (type : BlockType) :
    (index.register type).order =
      if type.id ∈ index.order then index.order else index.order ++ [type.id] := by
  simp only [h.mem_order, register]
  split <;> rfl

/-- Registering a type writes to both or only to the table, just as it has to. -/
theorem register (h : InStep index) (type : BlockType) : InStep (index.register type) where
  mem_order id := by
    rw [contains_register, ← h.mem_order, h.order_register]
    split
    · next known =>
        exact ⟨.inr, fun either => either.elim (fun same => same ▸ known) fun old => old⟩
    · rw [List.mem_append, List.mem_singleton, or_comm, eq_comm]
  distinct := by
    rw [h.order_register]
    split
    · exact h.distinct
    · next new => exact List.concat_eq_append ▸ h.distinct.concat new
  own id known found := by
    rw [get?_register] at found
    split at found
    · next same => rwa [← Option.some.inj found]
    · exact h.own id known found
  size := by
    have known : type.id ∈ index.types ↔ type.id ∈ index.order := (h.mem_order type.id).symm
    have size : (index.register type).size = (index.types.insert type.id type).size := by
      unfold TypeIndex.register
      split <;> rfl
    rw [h.order_register, size, Std.ExtTreeMap.size_insert]
    have before := h.size
    split
    · next here =>
        rw [if_pos (known.1 here)]
        exact before
    · next absent =>
        rw [if_neg fun there => absent (known.2 there), List.length_append]
        exact congrArg (· + 1) before

/-! ## The palette of an index -/

theorem found_of_mem (h : InStep index) (listed : id ∈ index.order) :
    ∃ type, index.get? id = some type ∧ type.id = id := by
  have known := (h.mem_order id).1 listed
  rw [contains_eq_isSome, Option.isSome_iff_exists] at known
  obtain ⟨type, found⟩ := known
  exact ⟨type, found, h.own id type found⟩

theorem ids_palette (h : InStep index) : index.palette.ids = index.ids := by
  have all (l : List String) (listed : ∀ id ∈ l, id ∈ index.order) :
      (l.filterMap index.get?).map BlockType.id = l := by
    induction l with
    | nil => rfl
    | cons id l ih =>
        obtain ⟨here, later⟩ := List.forall_mem_cons.1 listed
        obtain ⟨type, found, own⟩ := h.found_of_mem here
        rw [List.filterMap_cons_some found, List.map_cons, ih later, own]
  exact all index.order fun _ listed => listed

theorem nodup_ids_palette (h : InStep index) : index.palette.ids.Nodup :=
  h.ids_palette ▸ h.distinct

/-- Looking an id up on the list gives what the table has under it. -/
theorem get?_palette (h : InStep index) : index.palette.get? = index.get? := by
  funext id
  refine Option.ext fun type => ?_
  rw [Palette.get?_eq_some_iff h.nodup_ids_palette, palette, listed, List.mem_filterMap]
  constructor
  · rintro ⟨⟨id', -, found⟩, rfl⟩
    rwa [h.own id' type found]
  · intro found
    have known : id ∈ index.order := by
      rw [h.mem_order, contains_eq_isSome, found]
      rfl
    exact ⟨⟨id, known, found⟩, h.own id type found⟩

theorem contains_palette (h : InStep index) : index.palette.contains = index.contains := by
  funext id
  rw [Bool.eq_iff_iff, Palette.contains_iff, h.ids_palette, ids, h.mem_order]

theorem size_palette (h : InStep index) : index.palette.size = index.size := by
  rw [h.size, ← Palette.length_ids, h.ids_palette, ids]

/-- Registering a type with an index is registering it with the palette. -/
theorem palette_register (h : InStep index) (type : BlockType) :
    (index.register type).palette = index.palette.register type := by
  have next := h.register type
  have order : (index.palette.register type).ids = (index.register type).palette.ids := by
    rw [next.ids_palette, Palette.ids_register, h.ids_palette]
    exact (h.order_register type).symm
  have found : (index.palette.register type).get? = (index.register type).palette.get? := by
    funext id
    rw [next.get?_palette, Palette.get?_register, h.get?_palette, get?_register]
  exact (Palette.ext_get? next.nodup_ids_palette order found).symm

end InStep

/-- However types are registered, table and list stay in step, and the palette that the index stands
for is the one the types make up. -/
theorem inStep_ofTypes (registered : List BlockType) :
    InStep (ofTypes registered) ∧ (ofTypes registered).palette = Palette.ofTypes registered := by
  induction registered using List.reverseRecOn with
  | nil => exact ⟨.empty, rfl⟩
  | append_singleton registered type ih =>
      obtain ⟨inStep, same⟩ := ih
      have last : ofTypes (registered ++ [type]) = (ofTypes registered).register type :=
        List.foldl_concat ..
      have last' : Palette.ofTypes (registered ++ [type]) =
          (Palette.ofTypes registered).register type := List.foldl_concat ..
      rw [last, last', ← same]
      exact ⟨inStep.register type, inStep.palette_register type⟩

/-- Registering types one after the other keeps the table and the list of an index in step. The
list has every registered id once, in the order of first registration, and going through it gives
for each id the declaration that was registered last. This is what looking the id up gives; no other
id is known, and there are as many types as different ids. So the index stands for the palette that
the same types make up, and answers as this does. -/
theorem ofTypes_lists_last (registered : List BlockType) :
    let index := ofTypes registered
    let named := registered.map BlockType.id
    index.InStep ∧
      index.ids.Nodup ∧ (∀ id, id ∈ index.ids ↔ id ∈ named) ∧
      index.ids.Pairwise (fun a b => named.idxOf a < named.idxOf b) ∧
      index.listed.map some = index.ids.map (Palette.lastOf registered) ∧
      (∀ id, index.find id =
        match Palette.lastOf registered id with
        | none => .error (.unknownType id)
        | some type => .ok type) ∧
      (∀ id, (∃ type, index.find id = .ok type) ↔ id ∈ named) ∧
      (∀ id, index.contains id = true ↔ id ∈ named) ∧
      index.size = named.toFinset.card ∧
      index.palette = Palette.ofTypes registered ∧
      index.palette.ids = index.ids ∧ index.palette.get? = index.get? ∧
      index.palette.contains = index.contains ∧ index.palette.size = index.size := by
  intro index named
  obtain ⟨inStep, same⟩ : index.InStep ∧ index.palette = Palette.ofTypes registered :=
    inStep_ofTypes registered
  have h : Palette.Records registered index.palette := same ▸ Palette.records_ofTypes registered
  have order : index.palette.ids = index.ids := inStep.ids_palette
  have found (id : String) : index.get? id = Palette.lastOf registered id := by
    rw [← inStep.get?_palette, h.found]
  have looked (id : String) : index.find id =
      match Palette.lastOf registered id with
      | none => .error (.unknownType id)
      | some type => .ok type := by
    change (match index.get? id with
      | none => Except.error (EditError.unknownType id)
      | some type => .ok type) = _
    rw [found]
  have listed : index.listed.map some = index.ids.map (Palette.lastOf registered) := by
    rw [← order, ← funext h.found]
    exact Palette.map_some_types inStep.nodup_ids_palette
  have known (id : String) : index.contains id = true ↔ id ∈ named := by
    rw [contains_eq_isSome, found, Palette.lastOf_isSome_iff]
  refine ⟨inStep, inStep.distinct, order ▸ h.mem_ids, order ▸ h.order, listed, looked,
    fun id => ?_, known, ?_, same, order, inStep.get?_palette, inStep.contains_palette,
    inStep.size_palette⟩
  · rw [← Palette.lastOf_isSome_iff, looked]
    cases Palette.lastOf registered id <;> simp
  · have names : named.toFinset = index.order.toFinset := by
      ext id
      rw [List.mem_toFinset, List.mem_toFinset, inStep.mem_order, known]
    rw [names, List.toFinset_card_of_nodup inStep.distinct, inStep.size]

/-- A type that is registered again keeps its place. -/
example :
    let again : List BlockType := [
      { id := "a", category := "old" }, { id := "b", category := "only" },
      { id := "a", category := "new" }]
    (ofTypes again).ids = ["a", "b"] ∧
      (ofTypes again).listed.map BlockType.category = ["new", "only"] := by
  decide +kernel

end TypeIndex

end SolanaBlocks
