import SolanaBlocks.Proofs.Forest.LineRemoval

/-!
# Blocks that can be reached

A block is connected if one comes to it from the roots, through slots and along links. All blocks are,
as long as chains are linked back after their last members only. The blocks behind a member that is
linked back lose their connection, and with them whatever lies below them, but nothing else does.

Two more things would cut blocks off later on. An id that is still named somewhere may be used anew,
so that a new block is both a root and a successor; and binding may bring one of the blocks to the top
level again by the way, if the slot led to it. Whoever tends the workspace does neither.
-/

namespace SolanaBlocks

namespace Workspace

variable {palette : Palette} {w w' : Workspace} {lines : Seat → List BlockId}

/-- The blocks that one comes to from the roots, through slots and along links. -/
inductive Connected (w : Workspace) : BlockId → Prop
  | root {id : BlockId} : id ∈ w.roots → Connected w id
  | slot {owner : BlockId} {slot : String} {content : SlotContent} : Connected w owner →
    w.slot? owner slot = some content → Connected w content.named
  | link {id next : BlockId} : Connected w id → w.next? id = some next → Connected w next

/-- A root, a slot or a link names the id. -/
def Mentions (w : Workspace) (id : BlockId) : Prop :=
  id ∈ w.roots ∨ ∃ source block, w.get? source = some block ∧ block.Names id

/-- `other` comes after `id` in the same chain. -/
def Behind (w : Workspace) (other id : BlockId) : Prop :=
  ∃ seat, w.seat? id = some seat ∧ w.seat? other = some seat ∧ other ∉ w.chainPrefix seat id

/-- An edit that takes no id that is still mentioned for a new block, binds no block that it leaves
at the top level, and links no block back that has others behind it. -/
def Careful (w : Workspace) : Edit → Prop
  | .create id? _ _ =>
    let id := id?.getD (numberedId w.drawNumber.1)
    w.contains id = false → ¬ w.Mentions id
  | .bind owner slot input =>
    ∀ w', w.bind owner slot input = .ok w' → ∀ child ∈ input.members, child ∉ w'.roots
  | .setNext id next => TakesBackLink w (.setNext id next) → ∀ other, ¬ w.Behind other id
  | _ => True

/-- The workspaces that careful edits lead to from an empty one. -/
inductive Tended (palette : Palette) : Workspace → Prop
  | empty : Tended palette { palette := palette }
  | edit {w : Workspace} (edit : Edit) :
    Tended palette w → Careful w edit → Tended palette (w.apply edit).1

theorem Tended.edited (run : Tended palette w) : Edited palette w := by
  induction run with
  | empty => exact .empty
  | edit edit _ _ ih => exact .edit edit ih

/-! ## Lines all along -/

namespace Lined

theorem empty (palette : Palette) : Lined { palette := palette } (fun _ => []) [] := by
  have typed := (Orderly.empty palette).typed
  have absent (id : BlockId) : ({ palette := palette } : Workspace).get? id = none := by
    simp [get?]
  have none (id : BlockId) : ({ palette := palette } : Workspace).contains id = false := by
    simp [contains]
  refine ⟨⟨typed, ?_, ?_⟩, List.nodup_nil, ?_, by simp, ?_, fun _ => List.nodup_nil,
    fun _ => ⟨.none, Linked.nil⟩, ?_, fun _ => ?_⟩
  · simp [next?, absent]
  · simp [content?, slot?, absent]
  · simp [none]
  · simp [seat?, absent]
  · simp [next?, absent]
  · simp [content?, slot?, absent, Opens.holds Holds.empty]

theorem createAs (h : Lined w lines []) {id : BlockId} {type : String}
    {given : List (String × FieldValue)} (ok : w.createAs id type given = .ok w')
    (fresh : w.contains id = false → ¬ w.Mentions id) : Lined w' lines [] := by
  obtain ⟨new, declaration, fields, known, set, rfl⟩ := createAs_eq_ok_iff.1 ok
  have created := created_insert new type fields
  have unmentioned := fresh new
  have outside : id ∉ w.roots := fun root => unmentioned (.inl root)
  have free : w.seat? id = none := by
    cases sits : w.seat? id with
    | none => rfl
    | some seat => simpa [new] using contains_of_seat? sits
  have matched := h.matched.created created known (fun _ => mem_setFields set)
    (fun other link => ?_) fun seat held => ?_
  · refine h.of_tables matched created.seats created.nexts created.contents ?_
      (fun other alive => ?_) (by simp)
    · rw [created.roots, List.nodup_append]
      refine ⟨h.roots_nodup, List.nodup_singleton id, fun other ho _ hid => ?_⟩
      rw [List.mem_singleton.1 hid]
      exact ne_of_mem_of_not_mem ho outside
    · rw [created.roots, created.seats, List.mem_append, List.mem_singleton]
      rcases (created.contains other).1 alive with rfl | present
      · simp [free]
      · have ne : other ≠ id := by
          rintro rfl
          rw [new] at present
          cases present
        simp [ne, h.mem_roots other present]
  · obtain ⟨block, found, link⟩ := Option.bind_eq_some_iff.1 link
    exact unmentioned (.inr ⟨other, block, found, .link link⟩)
  · obtain ⟨block, found, held⟩ := Option.bind_eq_some_iff.1 held
    exact unmentioned (.inr ⟨seat.owner, block, found, .slot seat.slot _ held rfl⟩)

theorem setField (h : Lined w lines []) {id : BlockId} {name : String} {value : FieldValue}
    (ok : w.setField id name value = .ok w') : Lined w' lines [] := by
  obtain ⟨type, typed, declared, rfl⟩ := setField_eq_ok_iff.1 ok
  refine bump (h.of_tables (h.matched.setField typed declared value)
    (seat?_modify_of_eq w id _ fun _ => by rfl) (next?_modify_of_eq w id _ fun _ => by rfl)
    (content?_modify_of_eq w id _ fun _ => by rfl) h.roots_nodup (fun other alive => ?_) (by simp))
  rw [contains_modify] at alive
  rw [seat?_modify_of_eq w id _ fun _ => by rfl]
  exact h.mem_roots other alive

theorem unbind (h : Lined w lines []) {owner : BlockId} {slot : String} {ids : List BlockId}
    (ok : w.unbind owner slot = .ok (w', ids)) : ∃ lines', Lined w' lines' [] := by
  obtain ⟨-, rfl, -⟩ := unbind_eq_ok_iff.1 ok
  exact ⟨_, (h.release ⟨owner, slot⟩ (by simp)).lined.bump⟩

theorem setNext (h : Lined w lines []) {id : BlockId} {next : Option BlockId}
    (ok : w.setNext id next = .ok w')
    (whole : TakesBackLink w (.setNext id next) → ∀ other, ¬ w.Behind other id) :
    SameBlocks w w' ∧ ∃ lines', Lined w' lines' [] := by
  obtain ⟨seat, sits, chain, change⟩ := setNext_cases ok
  have hid := (h.mem_lines seat id).2 sits
  obtain ⟨before, after, split⟩ := List.append_of_mem hid
  cases next with
  | none =>
      rw [show w' = Workspace.bump (w.cutAfter seat id) from change]
      obtain ⟨same, lines', lined⟩ := h.cutAfter chain sits
      exact ⟨same.bump, lines', lined.bump⟩
  | some target =>
      obtain ⟨⟨type, typed, statement⟩, change⟩ := change
      have kept := h.chainPrefix_eq chain split
      cases back : w.linksBack seat id target with
      | true =>
          rw [back, if_pos rfl] at change
          rw [change]
          have last : after = [] := by
            refine List.eq_nil_iff_forall_not_mem.2 fun other ho => ?_
            have distinct := h.nodup seat
            rw [split, List.append_cons] at distinct
            refine whole ⟨⟨seat, sits, back⟩, w', ok⟩ other ⟨seat, sits, ?_, ?_⟩
            · exact (h.mem_lines seat other).1 (by simp [split, ho])
            · rw [kept]
              exact fun hk => (List.nodup_append.1 distinct).2.2 other hk other ho rfl
          rw [last] at split
          have member := (h.matched.typed.fitting id seat sits).isStatement chain
          have link := relinked_modify (contains_of_seat? sits) (some target)
          have lined := h.link_last link split member ⟨type, typed, statement⟩
          exact ⟨link.blocks.bump, lines, lined.bump⟩
      | false =>
          rw [back, if_neg Bool.false_ne_true] at change
          rw [change]
          obtain ⟨-, ahead⟩ := (linksBack_eq_false_iff kept).1 back
          obtain ⟨ahead, other⟩ : target ∉ before ∧ target ≠ id := by simpa using ahead
          obtain ⟨same, lines', lined⟩ := h.spliceAfter chain split (contains_of_typeAt? typed)
            ⟨.chain, type, chain, typed, statement⟩ other ahead
          exact ⟨same.bump, lines', lined.bump⟩

theorem remove (h : Lined w lines []) {id : BlockId} {ids : List BlockId}
    (ok : w.remove id = .ok (w', ids)) : ∃ lines', Lined w' lines' [] := by
  obtain ⟨alive, rfl, -⟩ := remove_eq_ok_iff.1 ok
  have detached := h.detach alive List.not_mem_nil
  have last := detached.next?_eq_none id (detached.floats id List.mem_cons_self).2
  have start : Clearing (w.detach id) (fun seat => (lines seat).filter (· ≠ id)) id
      (w.detach id) [] [id] := by
    refine ⟨⟨rfl, by simp⟩, .refl _, fun _ root _ _ => root, by simp, by simp, ?_, by simp⟩
    simp [last]
  obtain ⟨gone, cleared⟩ := cleared_removeAll detached start
  exact ⟨_, (cleared.lined detached).bump⟩

theorem moveRoot (h : Lined w lines []) {id : BlockId} {index : Nat}
    (ok : w.moveRoot id index = .ok w') : Lined w' lines [] := by
  obtain ⟨root, rfl⟩ := moveRoot_eq_ok_iff.1 ok
  have moved := perm_moved w root index
  refine bump ?_
  exact h.of_tables (h.matched.congr (by rfl) (by rfl)) (by rfl) (by rfl) (by rfl)
    (moved.nodup_iff.2 h.roots_nodup)
    (fun other alive => moved.mem_iff.trans (h.mem_roots other alive)) (by simp)

end Lined

theorem Tended.lined (run : Tended palette w) : ∃ lines, Lined w lines [] := by
  induction run with
  | empty => exact ⟨_, .empty palette⟩
  | @edit w edit _ careful ih =>
      obtain ⟨lines, h⟩ := ih
      have step := outcome_apply w edit
      generalize (w.apply edit).1 = w' at step
      cases step with
      | refused => exact ⟨lines, h⟩
      | drawn type fields => exact ⟨lines, h.congr rfl rfl rfl⟩
      | numbered ok =>
          have drawn : Lined w.drawNumber.2 lines [] := h.congr rfl rfl rfl
          exact ⟨lines, drawn.createAs ok careful⟩
      | created ok => exact ⟨lines, h.createAs ok careful⟩
      | fieldSet ok => exact ⟨lines, h.setField ok⟩
      | bound ok =>
          obtain ⟨able, same⟩ := bind_eq_ok_iff.1 ok
          subst same
          exact h.bound able (careful _ ok)
      | unbound ok => exact h.unbind ok
      | linked ok => exact (h.setNext ok careful).2
      | removed ok => exact h.remove ok
      | rootMoved ok => exact ⟨lines, h.moveRoot ok⟩

/-! ## Connections -/

/-- Going along a linked list keeps the connection. -/
theorem Connected.of_linked {list : List BlockId} {stop : Option BlockId} {first : BlockId}
    (linked : Linked w.next? list stop) (starts : list.head? = some first)
    (here : w.Connected first) : ∀ id ∈ list, w.Connected id := by
  refine linked.forall_mem w.Connected (fun a same => ?_) fun a _ connected b _ link => .link connected link
  rw [starts] at same
  cases same
  exact here

/-- Every block is connected, or lost, if the roots and the lines account for those that are not lost
and whose owners are not. -/
theorem Grounded.connected (grounded : Grounded w) (lost : BlockId → Prop)
    (top : ∀ id, w.contains id = true → w.seat? id = none → ¬ lost id → id ∈ w.roots)
    (seated : ∀ id seat, w.seat? id = some seat → ¬ lost id → ¬ lost seat.owner ∧
      ∃ content list stop, w.content? seat = some content ∧ Linked w.next? list stop ∧
        list.head? = some content.named ∧ id ∈ list)
    {id : BlockId} (alive : w.contains id = true) (kept : ¬ lost id) : w.Connected id := by
  induction id using grounded.induction with
  | h id ih =>
      cases sits : w.seat? id with
      | none => exact .root (top id alive sits kept)
      | some seat =>
          obtain ⟨above, content, list, stop, held, linked, starts, member⟩ := seated id seat sits kept
          have owner := ih seat.owner (ownedBy_iff.2 ⟨seat.slot, sits⟩) (contains_of_content? held) above
          exact Connected.of_linked linked starts (.slot owner held) id member

theorem Lined.connected (h : Lined w lines []) (grounded : Grounded w) {id : BlockId}
    (alive : w.contains id = true) : w.Connected id := by
  refine grounded.connected (fun _ => False) (fun id alive free _ => ?_) (fun id seat sits _ => ?_)
    alive not_false
  · exact (h.mem_roots id alive).2 ⟨free, List.not_mem_nil⟩
  · have hid := (h.mem_lines seat id).2 sits
    obtain ⟨content, held, starts⟩ := h.exists_content hid
    obtain ⟨stop, linked⟩ := h.linked seat
    exact ⟨not_false, content, lines seat, stop, held, linked, starts, hid⟩

/-- A link back cuts off at most the blocks behind the member that gets it, with all that lies below
them. -/
theorem Lined.connected_of_linked_back (h : Lined w lines []) (grounded : Grounded w)
    {id : BlockId} {next : Option BlockId} {seat : Seat} (sits : w.seat? id = some seat)
    (chain : w.arity? seat = some .chain) (r : Relinked w w' id next) {other : BlockId}
    (alive : w'.contains other = true) (kept : ¬ ∃ cut, w.Behind cut id ∧ w.Below other cut) :
    w'.Connected other := by
  have hid := (h.mem_lines seat id).2 sits
  obtain ⟨before, after, split⟩ := List.append_of_mem hid
  have prefix_eq := h.chainPrefix_eq chain split
  refine (grounded.congr r.seats).connected (fun x => ∃ cut, w.Behind cut id ∧ w.Below x cut)
    (fun x present free _ => ?_) (fun x seat' sits' stays => ?_) alive kept
  · rw [r.blocks.contains] at present
    rw [r.seats] at free
    rw [r.roots]
    exact (h.mem_roots x present).2 ⟨free, List.not_mem_nil⟩
  · rw [r.seats] at sits'
    have hx := (h.mem_lines seat' x).2 sits'
    obtain ⟨content, held, starts⟩ := h.exists_content hx
    obtain ⟨stop, linked⟩ := h.linked seat'
    refine ⟨fun ⟨cut, behind, below⟩ => stays ⟨cut, behind, ?_⟩, content, ?_⟩
    · exact .head (ownedBy_iff.2 ⟨seat'.slot, sits'⟩) below
    rw [r.contents, r.nexts]
    by_cases same : seat' = seat
    · subst same
      have distinct := h.nodup seat'
      rw [split] at linked distinct starts hx
      refine ⟨before ++ [id], next, held, linked.update_last distinct, ?_, ?_⟩
      · rw [← starts]
        cases before <;> rfl
      · by_contra outside
        rw [← prefix_eq] at outside
        exact stays ⟨x, ⟨seat', sits, sits', outside⟩, .refl⟩
    · refine ⟨lines seat', stop, held, ?_, starts, hx⟩
      exact (Linked.update_of_notMem fun here => same (h.seat_unique here hid)).2 linked

/-! ## No block is lost -/

theorem Reached.tended (run : Reached palette w) : Tended palette w := by
  induction run with
  | empty => exact .empty
  | @edit w edit run straight ih =>
      refine .edit edit ih ?_
      have intact := run.orderly.forest.intact
      cases edit with
      | create id? type fields =>
          rintro new (root | ⟨source, block, found, names⟩)
          · rw [intact.root_alive _ root] at new
            cases new
          · rw [intact.named_alive _ _ _ found names] at new
            cases new
      | bind owner slot input =>
          intro w' ok child hc
          obtain ⟨able, rfl⟩ := bind_eq_ok_iff.1 ok
          obtain ⟨members, laid⟩ := run.orderly.laid
          have bound := (able.bound laid run.orderly.typed).laid
          have sits := (bound.mem_members ⟨owner, slot⟩ child).1 (by rwa [Function.update_self])
          intro root
          rw [((bound.mem_roots child).1 root).2.1] at sits
          cases sits
      | setNext id next => exact fun back => absurd back straight
      | setField id name value => trivial
      | unbind owner slot => trivial
      | remove id => trivial
      | moveRoot id index => trivial

/-- A link that leads back is all that such a change of successor writes. -/
theorem TakesBackLink.eq_relinked {id : BlockId} {next : Option BlockId}
    (back : TakesBackLink w (.setNext id next)) (ok : w.setNext id next = .ok w') :
    w' = bump (w.modify id fun block => { block with next := next }) := by
  obtain ⟨seat, sits, -, change⟩ := setNext_cases ok
  cases next with
  | none => exact back.elim
  | some target =>
      obtain ⟨⟨seat', sits', leads⟩, -⟩ := back
      rw [sits] at sits'
      cases sits'
      obtain ⟨-, rfl⟩ := change
      rw [leads, if_pos rfl]

/-- In a tended workspace, back links or not, all blocks are connected, and a change of successor
leaves them so; only a link back from the midst of a chain cuts off what is behind it there, with all
that lies below, since it writes nothing but the link. Every workspace that edits lead to without a
link back is tended. -/
theorem connected_of_tended :
    (∀ w, Tended palette w → (∀ other, w.contains other = true → w.Connected other) ∧
      ∀ id next w', w.setNext id next = .ok w' →
        (∀ other, w.contains other = true → w.Connected other ∧ w'.contains other = true ∧
          (w'.Connected other ∨ TakesBackLink w (.setNext id next) ∧
            ∃ cut, w.Behind cut id ∧ w.Below other cut)) ∧
        (TakesBackLink w (.setNext id next) →
          w' = bump (w.modify id fun block => { block with next := next }))) ∧
      ∀ w, Reached palette w → Tended palette w := by
  refine ⟨fun w run => ?_, fun w run => run.tended⟩
  obtain ⟨lines, h⟩ := run.lined
  have grounded := run.edited.grounded
  refine ⟨fun other => h.connected grounded, fun id next w' ok =>
    ⟨fun other alive => ⟨h.connected grounded alive, ?_⟩, fun back => back.eq_relinked ok⟩⟩
  by_cases careful : TakesBackLink w (.setNext id next) → ∀ other, ¬ w.Behind other id
  · obtain ⟨same, lines', h'⟩ := h.setNext ok careful
    have alive' := (same.contains other).trans alive
    exact ⟨alive', .inl (h'.connected (grounded.setNext ok) alive')⟩
  · have back : TakesBackLink w (.setNext id next) := by
      by_contra straight
      exact careful fun back => absurd back straight
    obtain ⟨seat, sits, chain, -⟩ := setNext_cases ok
    obtain rfl := back.eq_relinked ok
    have link := (relinked_modify (contains_of_seat? sits) next).bump
    have alive' := (link.blocks.contains other).trans alive
    refine ⟨alive', ?_⟩
    by_cases lost : ∃ cut, w.Behind cut id ∧ w.Below other cut
    · exact .inr ⟨back, lost⟩
    · exact .inl (h.connected_of_linked_back grounded sits chain link alive' lost)

/-- The last loop of a chain is linked back to the first one, and then another loop is put between
them. -/
theorem connected_of_tended_loops :
    let place : List Edit := [
      .create (some ⟨"o"⟩) "process_instruction" [],
      .create (some ⟨"a"⟩) "controls_while" [],
      .create (some ⟨"b"⟩) "controls_while" [],
      .create (some ⟨"c"⟩) "controls_while" [],
      .bind ⟨"o"⟩ "body" (.chain [⟨"a"⟩, ⟨"b"⟩])]
    let before : Workspace :=
      place.foldl (fun w edit => (w.apply edit).1) { palette := .standard }
    let w := (before.apply (.setNext ⟨"b"⟩ (some ⟨"a"⟩))).1
    Reached .standard before ∧ w.next? ⟨"b"⟩ = some ⟨"a"⟩ ∧ Tended .standard w ∧
      ∃ w', w.setNext ⟨"a"⟩ (some ⟨"c"⟩) = .ok w' ∧ w.contains ⟨"b"⟩ = true ∧
        w.Connected ⟨"b"⟩ ∧ w'.Connected ⟨"b"⟩ := by
  intro place before w
  have reached : Reached .standard before := by
    refine .edit _ (.edit _ (.edit _ (.edit _ (.edit _ .empty ?_) ?_) ?_) ?_) ?_ <;> exact id
  obtain ⟨here, nothing⟩ : before.seat? ⟨"b"⟩ = some ⟨⟨"o"⟩, "body"⟩ ∧
      ∀ other ∈ before.ids, before.seat? other = some ⟨⟨"o"⟩, "body"⟩ →
        other ∈ before.chainPrefix ⟨⟨"o"⟩, "body"⟩ ⟨"b"⟩ := by decide +kernel
  have tended : Tended .standard w := by
    refine .edit _ (connected_of_tended.2 before reached) fun _ other ⟨seat, sits, sits', out⟩ => ?_
    rw [here] at sits
    cases sits
    obtain ⟨block, found⟩ := contains_iff.1 (contains_of_seat? sits')
    exact out (nothing other (mem_ids_of_get? found) sits')
  obtain ⟨linked, sits, straight, alive, accepted⟩ : w.next? ⟨"b"⟩ = some ⟨"a"⟩ ∧
      w.seat? ⟨"a"⟩ = some ⟨⟨"o"⟩, "body"⟩ ∧ w.linksBack ⟨⟨"o"⟩, "body"⟩ ⟨"a"⟩ ⟨"c"⟩ = false ∧
      w.contains ⟨"b"⟩ = true ∧ (w.setNext ⟨"a"⟩ (some ⟨"c"⟩)).isOk = true := by decide +kernel
  cases ok : w.setNext ⟨"a"⟩ (some ⟨"c"⟩) with
  | error e =>
      rw [ok] at accepted
      cases accepted
  | ok w' =>
      obtain ⟨connected, -, kept | ⟨⟨⟨seat, sits', back⟩, -⟩, -⟩⟩ :=
        ((connected_of_tended.1 w tended).2 ⟨"a"⟩ (some ⟨"c"⟩) w' ok).1 ⟨"b"⟩ alive
      · exact ⟨reached, linked, tended, w', rfl, alive, connected, kept⟩
      · rw [sits] at sits'
        cases sits'
        rw [straight] at back
        cases back

/-! ## Blocks that are cut off -/

/-- The ids that the link and the slots of a block name. -/
def namedBy (block : Block) : List BlockId :=
  block.next.toList ++ block.slots.toList.map fun entry => entry.2.named

/-- The roots belong to a list, and nothing leads out of it. -/
def Encloses (w : Workspace) (list : List BlockId) : Bool :=
  w.roots.all list.contains &&
    list.all fun id => (w.get? id).all fun block => (namedBy block).all list.contains

/-- Whatever is connected belongs to such a list. -/
theorem Connected.mem_of_encloses {list : List BlockId} (closed : w.Encloses list = true)
    {id : BlockId} (connected : w.Connected id) : id ∈ list := by
  simp only [Encloses, Bool.and_eq_true, List.all_eq_true, List.contains_eq_mem,
    decide_eq_true_eq, Option.all_eq_true] at closed
  obtain ⟨roots, closed⟩ := closed
  induction connected with
  | root root => exact roots _ root
  | slot _ held ih =>
      obtain ⟨block, found, held⟩ := Option.bind_eq_some_iff.1 held
      have entry := Std.ExtTreeMap.mem_toList_iff_getElem?_eq_some.2 held
      exact closed _ ih block found _ (List.mem_append_right _ (List.mem_map.2 ⟨_, entry, rfl⟩))
  | link _ link ih =>
      obtain ⟨block, found, link⟩ := Option.bind_eq_some_iff.1 link
      exact closed _ ih block found _ (List.mem_append_left _ (by simp [link]))

/-- A change of successor is carried out and cuts off a block that was connected before. -/
def CutsOff (w : Workspace) (id next lost : BlockId) : Prop :=
  w.contains lost = true ∧ w.Connected lost ∧
    ∃ w', w.setNext id (some next) = .ok w' ∧ w'.contains lost = true ∧ ¬ w'.Connected lost

/-- Some steps lead to the block, and afterwards it is outside of a list that nothing leads out of. -/
theorem CutsOff.of_encloses {id next lost : BlockId} (path : w.Connected lost) (list : List BlockId)
    (cut : w.contains lost = true ∧ (w.setNext id (some next)).isOk = true ∧
      (w.apply (.setNext id (some next))).1.contains lost = true ∧
      (w.apply (.setNext id (some next))).1.Encloses list = true ∧ lost ∉ list) :
    CutsOff w id next lost := by
  obtain ⟨alive, accepted, kept, closed, outside⟩ := cut
  cases ok : w.setNext id (some next) with
  | error e =>
      rw [ok] at accepted
      cases accepted
  | ok w' =>
      have same : (w.apply (.setNext id (some next))).1 = w' := by simp only [apply, ok]; rfl
      rw [same] at kept closed
      exact ⟨alive, path, w', ok, kept, fun reached => outside (reached.mem_of_encloses closed)⟩

/-- The block comes second in a chain below a root. -/
theorem CutsOff.of_second {id next lost : BlockId} (owner : BlockId) (slot : String)
    (first : BlockId) (list : List BlockId)
    (cut : (owner ∈ w.roots ∧ w.slot? owner slot = some (.chain first) ∧
      w.next? first = some lost) ∧
      w.contains lost = true ∧ (w.setNext id (some next)).isOk = true ∧
      (w.apply (.setNext id (some next))).1.contains lost = true ∧
      (w.apply (.setNext id (some next))).1.Encloses list = true ∧ lost ∉ list) :
    CutsOff w id next lost := by
  obtain ⟨⟨root, held, link⟩, cut⟩ := cut
  exact .of_encloses (.link (.slot (.root root) held) link) list cut

/-- Four ways to lose a block: to link back from the midst of a chain; to link it in behind one that
was lost so; to use an id anew that a link of the removed block itself still named; and to bind a
block that comes to the top level by the way. -/
theorem exists_cut_off :
    let reach (edits : List Edit) : Workspace :=
      edits.foldl (fun w edit => (w.apply edit).1) { palette := .standard }
    let loop (id : String) : Edit := .create (some ⟨id⟩) "controls_while" []
    let handler : Edit := .create (some ⟨"o"⟩) "process_instruction" []
    let pair : List Edit :=
      [handler, loop "a", loop "b", loop "c", .bind ⟨"o"⟩ "body" (.chain [⟨"a"⟩, ⟨"b"⟩])]
    let again : List Edit := [
      handler, loop "a", loop "b", loop "c", loop "p", .bind ⟨"o"⟩ "body" (.chain [⟨"a"⟩]),
      .setNext ⟨"a"⟩ (some ⟨"a"⟩), .remove ⟨"a"⟩, .unbind ⟨"o"⟩ "body", loop "a",
      .bind ⟨"o"⟩ "body" (.chain [⟨"a"⟩]), .setNext ⟨"a"⟩ (some ⟨"b"⟩),
      .bind ⟨"p"⟩ "do" (.chain [⟨"c"⟩])]
    let raised : List Edit := [
      handler, loop "c", loop "z", loop "e", loop "p", loop "q",
      .bind ⟨"o"⟩ "body" (.chain [⟨"c"⟩, ⟨"z"⟩]), .setNext ⟨"z"⟩ (some ⟨"c"⟩),
      .bind ⟨"o"⟩ "body" (.chain [⟨"c"⟩]), .setNext ⟨"c"⟩ (some ⟨"e"⟩),
      .bind ⟨"p"⟩ "do" (.chain [⟨"q"⟩])]
    CutsOff (reach pair) ⟨"a"⟩ ⟨"a"⟩ ⟨"b"⟩ ∧
      CutsOff (reach (pair ++ [.setNext ⟨"a"⟩ (some ⟨"a"⟩)])) ⟨"b"⟩ ⟨"c"⟩ ⟨"c"⟩ ∧
      CutsOff (reach again) ⟨"c"⟩ ⟨"a"⟩ ⟨"b"⟩ ∧ CutsOff (reach raised) ⟨"q"⟩ ⟨"c"⟩ ⟨"e"⟩ := by
  intro reach loop handler pair again raised
  exact ⟨.of_second ⟨"o"⟩ "body" ⟨"a"⟩ [⟨"o"⟩, ⟨"a"⟩, ⟨"c"⟩] (by decide +kernel),
    .of_encloses (.root (by decide +kernel)) [⟨"o"⟩, ⟨"a"⟩] (by decide +kernel),
    .of_second ⟨"o"⟩ "body" ⟨"a"⟩ [⟨"o"⟩, ⟨"p"⟩, ⟨"a"⟩, ⟨"c"⟩] (by decide +kernel),
    .of_second ⟨"o"⟩ "body" ⟨"c"⟩ [⟨"o"⟩, ⟨"p"⟩, ⟨"q"⟩, ⟨"c"⟩, ⟨"z"⟩] (by decide +kernel)⟩

end Workspace

end SolanaBlocks
