import SolanaBlocks.Proofs.Forest.Statements

/-!
# Lines

A chain may be linked back after its last member, and what the link leads to may move elsewhere
later. The blocks of a seat still stand in a line then, beginning with the one that the slot names,
and only what the last of them leads to is open. `Lined w lines floating` says so, as `Laid` does for
chains that end. A slot for a chain may also be left to a block that has been removed or sits
elsewhere, but only if nothing is left in its seat.
-/

namespace SolanaBlocks

/-- Elements of a linked list that lead to nothing but each other are the last ones. -/
theorem Linked.split_of_closed {α : Type} {next : α → Option α} {list : List α} {stop : Option α}
    (linked : Linked next list stop) (gone : α → Prop)
    (closed : ∀ a ∈ list, gone a → ∀ b ∈ list, next a = some b → gone b) :
    ∃ kept rest, list = kept ++ rest ∧ (∀ a ∈ kept, ¬ gone a) ∧ ∀ a ∈ rest, gone a := by
  induction list with
  | nil => exact ⟨[], [], rfl, by simp, by simp⟩
  | cons a list ih =>
      obtain ⟨kept, rest, split, stay, go⟩ := ih linked.2 fun b hb gone c hc link =>
        closed b (List.mem_cons_of_mem a hb) gone c (List.mem_cons_of_mem a hc) link
      by_cases first : gone a
      · cases kept with
        | nil => exact ⟨[], a :: rest, by rw [split]; rfl, by simp, List.forall_mem_cons.2 ⟨first, go⟩⟩
        | cons b kept =>
            have link : next a = some b := by
              have := linked.1
              rwa [split] at this
            have hb : b ∈ a :: list := by simp [split]
            exact absurd (closed a List.mem_cons_self first b hb link) (stay b List.mem_cons_self)
      · refine ⟨a :: kept, rest, by rw [split]; rfl, List.forall_mem_cons.2 ⟨first, stay⟩, go⟩

namespace Workspace

variable {w w' : Workspace} {lines : Seat → List BlockId} {floating : List BlockId}

/-- The blocks of every seat stand in a line, and every other one is a root or floats. -/
structure Lined (w : Workspace) (lines : Seat → List BlockId) (floating : List BlockId) : Prop where
  matched : Matched w
  roots_nodup : w.roots.Nodup
  mem_roots : ∀ id, w.contains id = true →
    (id ∈ w.roots ↔ w.seat? id = none ∧ id ∉ floating)
  floats : ∀ id ∈ floating, w.contains id = true ∧ w.seat? id = none
  mem_lines : ∀ seat id, id ∈ lines seat ↔ w.seat? id = some seat
  nodup : ∀ seat, (lines seat).Nodup
  linked : ∀ seat, ∃ stop, Linked w.next? (lines seat) stop
  next?_eq_none : ∀ id, w.seat? id = none → w.next? id = none
  opens : ∀ seat, Opens (w.content? seat) (lines seat)

namespace Lined

theorem contains_of_mem (h : Lined w lines floating) {seat : Seat} {id : BlockId}
    (hid : id ∈ lines seat) : w.contains id = true :=
  contains_of_seat? ((h.mem_lines seat id).1 hid)

theorem seat_unique (h : Lined w lines floating) {seat seat' : Seat} {id : BlockId}
    (hid : id ∈ lines seat) (hid' : id ∈ lines seat') : seat = seat' := by
  rw [h.mem_lines] at hid hid'
  rw [hid] at hid'
  exact Option.some.inj hid'

theorem notMem_of_floating (h : Lined w lines floating) {seat : Seat} {id : BlockId}
    (hid : id ∈ floating) : id ∉ lines seat := by
  rw [h.mem_lines, (h.floats id hid).2]
  exact Option.some_ne_none seat ∘ Eq.symm

theorem notMem_roots (h : Lined w lines floating) {seat : Seat} {id : BlockId}
    (hid : id ∈ lines seat) : id ∉ w.roots := by
  intro root
  have sits := (h.mem_lines seat id).1 hid
  rw [((h.mem_roots id (contains_of_seat? sits)).1 root).1] at sits
  cases sits

/-- A slot with blocks in its seat names the first of them. -/
theorem exists_content (h : Lined w lines floating) {seat : Seat} {id : BlockId}
    (hid : id ∈ lines seat) :
    ∃ content, w.content? seat = some content ∧ (lines seat).head? = some content.named := by
  have holds := (h.opens seat).of_mem hid
  cases held : w.content? seat with
  | none =>
      rw [held] at holds
      rw [holds.eq_nil_iff.2 rfl] at hid
      cases hid
  | some content =>
      rw [held] at holds
      exact ⟨content, rfl, holds.head?_eq⟩

theorem content?_of_chain (h : Lined w lines floating) {seat : Seat} {id : BlockId}
    (chain : w.arity? seat = some .chain) (hid : id ∈ lines seat) :
    ∃ head, w.content? seat = some (.chain head) ∧ (lines seat).head? = some head := by
  obtain ⟨content, held, starts⟩ := h.exists_content hid
  have arity := h.matched.typed.declared seat content held
  rw [chain, Option.some.injEq] at arity
  cases content with
  | single child => cases arity
  | chain head => exact ⟨head, held, starts⟩

/-- In such a chain the members up to a given one are those in front of it in the line. -/
theorem chainPrefix_eq (h : Lined w lines floating) {seat : Seat} {id : BlockId}
    {before after : List BlockId} (chain : w.arity? seat = some .chain)
    (split : lines seat = before ++ id :: after) : w.chainPrefix seat id = before ++ [id] := by
  obtain ⟨head, held, starts⟩ := h.content?_of_chain chain (show id ∈ lines seat by simp [split])
  obtain ⟨stop, linked⟩ := h.linked seat
  have distinct := h.nodup seat
  rw [split] at starts linked distinct
  exact chainPrefix_of_linked held starts linked distinct

theorem mem_single (h : Lined w lines floating) {seat : Seat} {child : BlockId}
    (held : w.content? seat = some (.single child)) : child ∈ lines seat := by
  have opens := h.opens seat
  rw [held] at opens
  exact opens.mem_single

/-- No statement sits alone in a slot for a value. -/
theorem notMem_of_single (h : Lined w lines floating) {seat : Seat} {child id : BlockId}
    (held : w.content? seat = some (.single child)) (statement : w.IsStatement id) :
    id ∉ lines seat := by
  intro hid
  exact (h.matched.typed.fitting id seat ((h.mem_lines seat id).1 hid)).not_isStatement
    (h.matched.typed.declared seat _ held) statement

/-- What is left of a line that loses its last blocks. -/
theorem exists_kept (h : Lined w lines floating) {seat : Seat} {gone : List BlockId}
    (closed : ∀ a ∈ lines seat, a ∈ gone → ∀ b ∈ lines seat, w.next? a = some b → b ∈ gone) :
    ∃ kept rest, lines seat = kept ++ rest ∧ (lines seat).filter (· ∉ gone) = kept ∧
      ∀ id ∈ kept, id ∉ gone := by
  obtain ⟨stop, linked⟩ := h.linked seat
  obtain ⟨kept, rest, split, stay, go⟩ := linked.split_of_closed (· ∈ gone) closed
  refine ⟨kept, rest, split, ?_, stay⟩
  rw [split, List.filter_append, List.filter_eq_self.2 (by simpa using stay),
    List.filter_eq_nil_iff.2 (by simpa using go), List.append_nil]

/-- It is still linked. -/
theorem linked_kept (h : Lined w lines floating) {seat : Seat} {gone : List BlockId}
    (closed : ∀ a ∈ lines seat, a ∈ gone → ∀ b ∈ lines seat, w.next? a = some b → b ∈ gone)
    (nexts : ∀ id ∈ lines seat, id ∉ gone → w'.next? id = w.next? id) :
    ∃ stop, Linked w'.next? ((lines seat).filter (· ∉ gone)) stop := by
  obtain ⟨kept, rest, split, list, stay⟩ := h.exists_kept closed
  obtain ⟨stop, linked⟩ := h.linked seat
  rw [split, Linked.append_iff] at linked
  rw [list]
  exact ⟨_, (Linked.congr fun id hid => nexts id (by simp [split, hid]) (stay id hid)).2 linked.1⟩

/-- The slot goes on naming the first block, if there is one left. -/
theorem opens_kept (h : Lined w lines floating) {seat : Seat} {gone : List BlockId}
    (closed : ∀ a ∈ lines seat, a ∈ gone → ∀ b ∈ lines seat, w.next? a = some b → b ∈ gone)
    (values : ∀ child, w.content? seat = some (.single child) → child ∉ gone) :
    Opens (w.content? seat) ((lines seat).filter (· ∉ gone)) := by
  obtain ⟨kept, rest, split, list, -⟩ := h.exists_kept closed
  have opens := h.opens seat
  rw [split] at opens
  rw [list]
  refine opens.left fun child held => ?_
  rw [← list, List.mem_filter]
  exact ⟨h.mem_single held, decide_eq_true (values child held)⟩

/-- Lines that say the same of every seat. -/
theorem of_eq (h : Lined w lines floating) {lines' : Seat → List BlockId}
    (same : ∀ seat, lines' seat = lines seat) : Lined w lines' floating := by
  rw [funext same]
  exact h

/-- Lines are told by the tables. -/
theorem of_tables (h : Lined w lines floating) (matched : Matched w') (seats : w'.seat? = w.seat?)
    (nexts : w'.next? = w.next?) (contents : w'.content? = w.content?)
    (roots_nodup : w'.roots.Nodup)
    (mem_roots : ∀ id, w'.contains id = true →
      (id ∈ w'.roots ↔ w'.seat? id = none ∧ id ∉ floating))
    (floats : ∀ id ∈ floating, w'.contains id = true) : Lined w' lines floating := by
  refine ⟨matched, roots_nodup, mem_roots, fun id hid => ⟨floats id hid, ?_⟩, fun seat id => ?_,
    h.nodup, fun seat => ?_, fun id free => ?_, fun seat => ?_⟩
  · rw [seats]
    exact (h.floats id hid).2
  · rw [seats]
    exact h.mem_lines seat id
  · rw [nexts]
    exact h.linked seat
  · rw [seats] at free
    rw [nexts]
    exact h.next?_eq_none id free
  · rw [contents]
    exact h.opens seat

/-- Lines are told by the blocks and the top level alone. -/
theorem congr (h : Lined w lines floating) (palette : w'.palette = w.palette)
    (blocks : w'.blocks = w.blocks) (roots : w'.roots = w.roots) : Lined w' lines floating := by
  obtain ⟨_, blocks, roots, _, _⟩ := w
  obtain ⟨_, _, _, _, _⟩ := w'
  cases palette
  cases blocks
  cases roots
  exact h.of_tables (h.matched.congr rfl rfl) rfl rfl rfl h.roots_nodup h.mem_roots
    fun id hid => (h.floats id hid).1

theorem bump (h : Lined w lines floating) : Lined w.bump lines floating := h.congr rfl rfl rfl

/-- One seat gets a new line: its tables have changed accordingly, and nothing else has changed but the
top level. -/
theorem rearrange (h : Lined w lines floating) {seat : Seat} {list : List BlockId}
    (r : Rearranged w w' lines seat list) (matched : Matched w') (floating' : List BlockId)
    (distinct : list.Nodup) (links : ∃ stop, Linked w'.next? list stop)
    (opened : Opens (w'.content? seat) list) (roots_nodup : w'.roots.Nodup)
    (mem_roots : ∀ id, w'.contains id = true →
      (id ∈ w'.roots ↔ w'.seat? id = none ∧ id ∉ floating'))
    (floats : ∀ id ∈ floating', w'.contains id = true ∧ w'.seat? id = none) :
    Lined w' (Function.update lines seat list) floating' := by
  refine ⟨matched, roots_nodup, mem_roots, floats, r.mem_iff h.mem_lines, ?_, ?_,
    r.next?_eq_none h.next?_eq_none, ?_⟩
  · exact (Function.forall_update_iff lines fun _ list => list.Nodup).2
      ⟨distinct, fun other _ => h.nodup other⟩
  · refine (Function.forall_update_iff lines fun _ list => ∃ stop, Linked w'.next? list stop).2
      ⟨links, fun other ho => ?_⟩
    obtain ⟨stop, linked⟩ := h.linked other
    exact ⟨stop, (Linked.congr fun id hid => r.next?_eq h.mem_lines ho hid).2 linked⟩
  · refine (Function.forall_update_iff lines fun other list => Opens (w'.content? other) list).2
      ⟨opened, fun other ho => ?_⟩
    rw [r.elsewhere other ho]
    exact h.opens other

end Lined

end Workspace

end SolanaBlocks
