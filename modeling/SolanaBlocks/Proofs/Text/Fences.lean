import Mathlib.Data.List.DropRight
import Mathlib.Data.List.Infix
import SolanaBlocks.Text.Fenced

/-!
# Code between fences

What is taken out of an answer is a trimmed text in which no fence is left, so taking the code out of
it once more changes nothing. And whoever writes code between fences gets it back, whatever stands
before the opening fence and behind the closing one: the text in front may not run into the opening
fence, and the code may not hold a fence itself.
-/

namespace SolanaBlocks.Text

variable {cs blanks rest : List Char}

/-! ## Trimmed texts -/

/-- A text with no blank at either end. -/
structure Trimmed (cs : List Char) : Prop where
  head : ∀ c, cs.head? = some c → isBlank c = false
  last : ∀ c, cs.getLast? = some c → isBlank c = false

theorem dropBlanksRight_front (cs : List Char) : dropBlanksRight cs <+: cs :=
  List.rdropWhile_prefix isBlank cs

theorem dropBlanks_inside (cs : List Char) : dropBlanks cs <:+: cs :=
  (dropBlanksRight_front _).isInfix.trans (List.dropWhile_suffix isBlank).isInfix

theorem trimmed_dropBlanks (cs : List Char) : Trimmed (dropBlanks cs) where
  head c first := by
    obtain ⟨right, whole⟩ := dropBlanksRight_front (cs.dropWhile isBlank)
    have visible := List.head?_dropWhile_not isBlank cs
    rw [← whole, List.head?_append, ← dropBlanks, first] at visible
    simpa using visible
  last c final := by
    have visible := List.head?_dropWhile_not isBlank (cs.dropWhile isBlank).reverse
    rw [dropBlanks, dropBlanksRight, List.getLast?_reverse] at final
    rw [final] at visible
    simpa using visible

theorem dropWhile_eq_self (visible : ∀ c, cs.head? = some c → isBlank c = false) :
    cs.dropWhile isBlank = cs := by
  cases cs with
  | nil => rfl
  | cons c cs => exact List.dropWhile_cons_of_neg (by simp [visible c rfl])

theorem Trimmed.dropBlanks_eq (trimmed : Trimmed cs) : dropBlanks cs = cs := by
  have final : cs.reverse.dropWhile isBlank = cs.reverse :=
    dropWhile_eq_self (by simpa using trimmed.last)
  rw [dropBlanks, dropWhile_eq_self trimmed.head, dropBlanksRight, final, List.reverse_reverse]

/-- Blanks in front do not matter. -/
theorem dropBlanks_blanks_append (blank : ∀ c ∈ blanks, isBlank c = true) (cs : List Char) :
    dropBlanks (blanks ++ cs) = dropBlanks cs := by
  rw [dropBlanks, List.dropWhile_append_of_pos blank, ← dropBlanks]

/-- Blanks behind do not matter. -/
theorem dropBlanks_append_blanks (blank : ∀ c ∈ blanks, isBlank c = true) (cs : List Char) :
    dropBlanks (cs ++ blanks) = dropBlanks cs := by
  have right (cs : List Char) : dropBlanksRight (cs ++ blanks) = dropBlanksRight cs := by
    rw [dropBlanksRight, List.reverse_append, List.dropWhile_append_of_pos (by simpa using blank),
      ← dropBlanksRight]
  rw [dropBlanks, List.dropWhile_append]
  split
  · next none =>
      rw [dropBlanks, List.isEmpty_iff.1 none, List.dropWhile_eq_nil_iff.2 blank]
  · rw [right, ← dropBlanks]

/-! ## Fences -/

/-- Three backquotes in a row. -/
def fence : List Char := ['`', '`', '`']

/-- A text with no fence in it. -/
def Unfenced (cs : List Char) : Prop := ¬ fence <:+: cs

instance (cs : List Char) : Decidable (Unfenced cs) :=
  inferInstanceAs (Decidable (¬ fence <:+: cs))

theorem Unfenced.inside {part : List Char} (unfenced : Unfenced cs) (within : part <:+: cs) :
    Unfenced part :=
  fun fenced => unfenced (fenced.trans within)

/-- A text that cannot be cut at its first character holds no fence there. -/
theorem unfenced_cons_iff {c : Char}
    (other : ∀ rest, c = '`' → cs = '`' :: '`' :: rest → False) :
    Unfenced (c :: cs) ↔ Unfenced cs := by
  refine ⟨fun unfenced => unfenced.inside (List.suffix_cons c cs).isInfix, fun unfenced fenced => ?_⟩
  rcases List.infix_cons_iff.1 fenced with ⟨rest, here⟩ | later
  · cases here
    exact other rest rfl rfl
  · exact unfenced later

theorem unfenced_append_left (plain : '`' ∉ blanks) (unfenced : Unfenced cs) :
    Unfenced (blanks ++ cs) := by
  induction blanks with
  | nil => exact unfenced
  | cons c blanks ih =>
      have other : c ≠ '`' := (List.ne_of_not_mem_cons plain).symm
      exact (unfenced_cons_iff fun _ quote _ => other quote).2
        (ih (List.not_mem_of_not_mem_cons plain))

theorem unfenced_reverse (unfenced : Unfenced cs) : Unfenced cs.reverse :=
  fun fenced => unfenced (by simpa [fence] using List.reverse_infix.2 fenced)

theorem unfenced_append_right (plain : '`' ∉ blanks) (unfenced : Unfenced cs) :
    Unfenced (cs ++ blanks) := by
  have mirrored : Unfenced (blanks.reverse ++ cs.reverse) :=
    unfenced_append_left (by simpa using plain) (unfenced_reverse unfenced)
  simpa using unfenced_reverse mirrored

/-- A text is cut nowhere exactly if it holds no fence. -/
theorem cutFence?_eq_none_iff : cutFence? cs = none ↔ Unfenced cs := by
  fun_induction cutFence? cs with
  | case1 rest =>
      exact iff_of_false (Option.some_ne_none _) fun unfenced => unfenced ⟨[], rest, rfl⟩
  | case2 => exact iff_of_true rfl (by simp [Unfenced, fence])
  | case3 c rest other ih => rw [Option.map_eq_none_iff, ih, unfenced_cons_iff other]

/-- A text is cut at a fence, and what is cut off holds none. -/
theorem eq_of_cutFence? {before after : List Char} (cut : cutFence? cs = some (before, after)) :
    cs = before ++ fence ++ after ∧ Unfenced before := by
  fun_induction cutFence? cs generalizing before with
  | case1 rest =>
      cases cut
      exact ⟨rfl, cutFence?_eq_none_iff.1 rfl⟩
  | case2 => cases cut
  | case3 c rest other ih =>
      obtain ⟨⟨front, after'⟩, cut, same⟩ := Option.map_eq_some_iff.1 cut
      cases same
      obtain ⟨whole, unfenced⟩ := ih cut
      refine ⟨congrArg (c :: ·) whole, (unfenced_cons_iff fun more quote spelled => ?_).2 unfenced⟩
      exact other (more ++ fence ++ after) quote (by rw [whole, spelled]; rfl)

/-- A text is cut where its first fence is, if nothing in front runs into it. -/
theorem cutFence?_append {before : List Char} (unfenced : Unfenced before)
    (stop : before.getLast? ≠ some '`') (rest : List Char) :
    cutFence? (before ++ fence ++ rest) = some (before, rest) := by
  induction before with
  | nil => rfl
  | cons c before ih =>
      have other : ∀ more, c = '`' → before ++ fence ++ rest = '`' :: '`' :: more → False := by
        intro more quote spelled
        subst quote
        match before with
        | [] => exact stop rfl
        | [d] =>
            cases spelled
            exact stop rfl
        | d :: e :: before =>
            cases spelled
            exact unfenced ⟨[], before, rfl⟩
      have later : before.getLast? ≠ some '`' := by
        cases before with
        | nil => nofun
        | cons d before => simpa using stop
      have cut := ih ((unfenced_cons_iff fun more quote spelled => ?_).1 unfenced) later
      · rw [List.cons_append, List.cons_append, cutFence?, cut]
        · rfl
        · exact other
      · exact other (more ++ fence ++ rest) quote (by rw [spelled]; rfl)

/-! ## Code -/

/-- A first line that is a language name with blanks around it is dropped. -/
theorem dropTag_line {line : List Char} (whole : '\n' ∉ line)
    (name : (dropBlanks line).all isTagChar = true) (rest : List Char) :
    dropTag (line ++ '\n' :: rest) = rest := by
  have inLine : ∀ c ∈ line, (c != '\n') = true := by
    intro c member
    simpa using ne_of_mem_of_not_mem member whole
  unfold dropTag
  rw [List.dropWhile_append_of_pos inLine, List.takeWhile_append_of_pos inLine]
  simp [name]

/-- The code of an answer is a text without fences, trimmed. -/
theorem exists_unfenced (answer : List Char) :
    ∃ body, Unfenced body ∧ fencedCode answer = dropBlanks body := by
  unfold fencedCode
  split
  · next none => exact ⟨answer, cutFence?_eq_none_iff.1 none, rfl⟩
  · next before body cut =>
      split
      · next code after closed => exact ⟨code, (eq_of_cutFence? closed).2, rfl⟩
      · next open_ => exact ⟨dropTag body, cutFence?_eq_none_iff.1 open_, rfl⟩

theorem fencedCode_of_unfenced (unfenced : Unfenced cs) : fencedCode cs = dropBlanks cs := by
  rw [fencedCode, cutFence?_eq_none_iff.2 unfenced]

/-- What follows an opening fence and its line is the code, up to a closing fence or the end. -/
theorem fencedCode_fenced {before line body code : List Char} (unfenced : Unfenced before)
    (stop : before.getLast? ≠ some '`') (whole : '\n' ∉ line)
    (name : (dropBlanks line).all isTagChar = true)
    (ended : cutFence? body = none ∧ code = body ∨ ∃ after, cutFence? body = some (code, after)) :
    fencedCode (before ++ fence ++ (line ++ '\n' :: body)) = dropBlanks code := by
  rw [fencedCode, cutFence?_append unfenced stop]
  dsimp only
  rw [dropTag_line whole name]
  rcases ended with ⟨open_, rfl⟩ | ⟨after, closed⟩
  · rw [open_]
  · rw [closed]

theorem quote_not_mem (blank : ∀ c ∈ blanks, isBlank c = true) : '`' ∉ blanks :=
  fun member => Bool.false_ne_true (blank '`' member)

/-- What stands between blanks is named as it is without them. -/
theorem all_dropBlanks {before name after : List Char} (p : Char → Bool)
    (left : ∀ c ∈ before, isBlank c = true) (right : ∀ c ∈ after, isBlank c = true)
    (named : ∀ c ∈ name, p c = true) : (dropBlanks (before ++ name ++ after)).all p = true := by
  rw [dropBlanks_append_blanks right, dropBlanks_blanks_append left, List.all_eq_true]
  exact fun c member => named c ((dropBlanks_inside name).subset member)

/-- Code between fences is taken out as it is, without the blanks around it. The closing fence
stands on a line of its own, or there is nothing more but blanks. -/
theorem fencedCode_eq {front before tag after code ending : List Char} (unfenced : Unfenced front)
    (stop : front.getLast? ≠ some '`') (left : ∀ c ∈ before, isBlank c = true ∧ c ≠ '\n')
    (named : ∀ c ∈ tag, isTagChar c = true) (right : ∀ c ∈ after, isBlank c = true)
    (plain : Unfenced code)
    (ended : (∃ rest, ending = '\n' :: (fence ++ rest)) ∨ ∀ c ∈ ending, isBlank c = true) :
    fencedCode (front ++ fence ++ (before ++ tag ++ after ++ '\n' :: (code ++ ending))) =
      dropBlanks code := by
  -- the opening line ends at the first line feed, and what is left of the blanks belongs to the code
  obtain ⟨margin, more, cut, whole⟩ :=
    List.eq_append_cons_of_mem (List.mem_append_right after (List.mem_singleton_self '\n'))
  have blank : ∀ c ∈ margin ++ '\n' :: more, isBlank c = true := by
    rw [← cut]
    intro c member
    rcases List.mem_append.1 member with known | feed
    · exact right c known
    · rw [List.mem_singleton.1 feed]
      decide
  have margin_blank : ∀ c ∈ margin, isBlank c = true := fun c member =>
    blank c (List.mem_append_left _ member)
  have more_blank : ∀ c ∈ more, isBlank c = true := fun c member =>
    blank c (List.mem_append_right _ (List.mem_cons_of_mem _ member))
  have line : '\n' ∉ before ++ tag ++ margin := by
    simp only [List.mem_append, not_or]
    exact ⟨⟨fun member => (left _ member).2 rfl, fun member => absurd (named _ member) (by decide)⟩,
      whole⟩
  have name : (dropBlanks (before ++ tag ++ margin)).all isTagChar = true :=
    all_dropBlanks isTagChar (fun c member => (left c member).1) margin_blank named
  have spelled : before ++ tag ++ after ++ '\n' :: (code ++ ending) =
      before ++ tag ++ margin ++ '\n' :: (more ++ code ++ ending) := by
    have cut' := congrArg (before ++ tag ++ · ++ (code ++ ending)) cut
    simpa using cut'
  have body : Unfenced (more ++ code) := unfenced_append_left (quote_not_mem more_blank) plain
  rw [spelled]
  rcases ended with ⟨rest, rfl⟩ | only
  · have closed : cutFence? (more ++ code ++ '\n' :: (fence ++ rest)) =
        some (more ++ code ++ ['\n'], rest) := by
      have unfenced : Unfenced (more ++ code ++ ['\n']) := unfenced_append_right (by decide) body
      simpa using cutFence?_append unfenced (by simp) rest
    rw [fencedCode_fenced unfenced stop line name (.inr ⟨rest, closed⟩),
      dropBlanks_append_blanks (List.forall_mem_singleton.2 rfl),
      dropBlanks_blanks_append more_blank]
  · have open_ : cutFence? (more ++ code ++ ending) = none :=
      cutFence?_eq_none_iff.2 (unfenced_append_right (quote_not_mem only) body)
    rw [fencedCode_fenced unfenced stop line name (.inl ⟨open_, rfl⟩),
      dropBlanks_append_blanks only, dropBlanks_blanks_append more_blank]

@[simp] theorem toList_codeIn (answer : String) :
    (codeIn answer).toList = fencedCode answer.toList :=
  String.toList_ofList

/-- What is taken out of any answer is trimmed and holds no fence, and taking the code out of it
once more changes nothing. Code between fences is taken out as it is but for the blanks around it:
the opening fence may have a language name behind it with blanks around that, the closing fence
stands on a line of its own or is missing. -/
theorem codeIn_fenced :
    (∀ answer : String, Trimmed (codeIn answer).toList ∧ Unfenced (codeIn answer).toList ∧
      codeIn (codeIn answer) = codeIn answer) ∧
    ∀ front before tag after code rest : String,
      Unfenced front.toList → front.toList.getLast? ≠ some '`' →
      (∀ c ∈ before.toList, isBlank c = true ∧ c ≠ '\n') →
      (∀ c ∈ tag.toList, c.isAlphanum = true ∨ c = '_' ∨ c = '-') →
      (∀ c ∈ after.toList, isBlank c = true) → Unfenced code.toList →
      let opened := front ++ "```" ++ before ++ tag ++ after ++ "\n" ++ code
      codeIn (opened ++ "\n```" ++ rest) = trim code ∧ codeIn (opened ++ "\n") = trim code ∧
        codeIn opened = trim code := by
  refine ⟨fun answer => ?_,
    fun front before tag after code rest unfenced stop left named right plain => ?_⟩
  · obtain ⟨body, unfenced, taken⟩ := exists_unfenced answer.toList
    have code : (codeIn answer).toList = dropBlanks body := (toList_codeIn answer).trans taken
    have trimmed : Trimmed (codeIn answer).toList := code ▸ trimmed_dropBlanks body
    have bare : Unfenced (codeIn answer).toList := code ▸ unfenced.inside (dropBlanks_inside body)
    refine ⟨trimmed, bare, String.toList_inj.1 ?_⟩
    rw [toList_codeIn, fencedCode_of_unfenced bare, trimmed.dropBlanks_eq]
  · have name : ∀ c ∈ tag.toList, isTagChar c = true := fun c member => by
      simpa [isTagChar, or_assoc] using named c member
    have taken (ending : String) (ended : (∃ rest, ending.toList = '\n' :: (fence ++ rest)) ∨
        ∀ c ∈ ending.toList, isBlank c = true) :
        codeIn (front ++ "```" ++ before ++ tag ++ after ++ "\n" ++ code ++ ending) = trim code := by
      have eq := fencedCode_eq unfenced stop left name right plain ended
      apply String.toList_inj.1
      simpa [fence] using eq
    refine ⟨?_, taken "\n" (.inr (by simp [isBlank])), ?_⟩
    · rw [String.append_assoc]
      exact taken _ (.inl ⟨rest.toList, by simp [fence]⟩)
    · have unended := taken "" (.inr (by simp))
      rwa [String.append_empty] at unended

/-- Backquotes in the text in front, in the code and behind it, and blanks on all sides. -/
theorem codeIn_fenced_backquotes :
    let front := "So ``be`` it:"
    let before := " "
    let tag := "rust_2-x"
    let after := " \t"
    let code := "  `a`; ``"
    Unfenced front.toList ∧ front.toList.getLast? ≠ some '`' ∧
      (∀ c ∈ before.toList, isBlank c = true ∧ c ≠ '\n') ∧
      (∀ c ∈ tag.toList, c.isAlphanum = true ∨ c = '_' ∨ c = '-') ∧
      (∀ c ∈ after.toList, isBlank c = true) ∧ Unfenced code.toList ∧
      codeIn "So ``be`` it:``` rust_2-x \t\n  `a`; ``\n```` and ```more```" = "`a`; ``" := by
  intro front before tag after code
  have unfenced : Unfenced front.toList := by decide
  have stop : front.toList.getLast? ≠ some '`' := by decide
  have left : ∀ c ∈ before.toList, isBlank c = true ∧ c ≠ '\n' := by simp [before, isBlank]
  have named : ∀ c ∈ tag.toList, c.isAlphanum = true ∨ c = '_' ∨ c = '-' := by simp [tag]
  have right : ∀ c ∈ after.toList, isBlank c = true := by simp [after, isBlank]
  have plain : Unfenced code.toList := by decide
  have spelled : front ++ "```" ++ before ++ tag ++ after ++ "\n" ++ code ++ "\n```" ++
      "` and ```more```" =
      "So ``be`` it:``` rust_2-x \t\n  `a`; ``\n```` and ```more```" := by decide +kernel
  have trimmed : trim code = "`a`; ``" := by decide +kernel
  have taken := (codeIn_fenced.2 front before tag after code "` and ```more```" unfenced stop left
    named right plain).1
  refine ⟨unfenced, stop, left, named, right, plain, ?_⟩
  exact (congrArg codeIn spelled).symm.trans (taken.trans trimmed)

end SolanaBlocks.Text
