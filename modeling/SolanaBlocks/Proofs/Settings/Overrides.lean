import SolanaBlocks.Settings.Environment

/-!
# Overridden settings

The environment is taken over variable by variable. A variable that is not set leaves its setting as
it is, and the first one that makes no sense ends the matter, so what has been taken over is always
the front of the list of variables. Only when all of them have been taken over are the settings
checked as a whole.
-/

namespace SolanaBlocks.Settings

/-- The variables of the environment, each named for the setting that it overrides. -/
inductive Variable where
  | indentWidth
  | batchSize
  | batchDelay
  | debounce
  | timeout
  | temperature
  | endpoint
  | model
  | keyVariable
deriving DecidableEq

namespace Variable

/-- All variables, in the order in which they are looked at. -/
def all : List Variable :=
  [indentWidth, batchSize, batchDelay, debounce, timeout, temperature, endpoint, model, keyVariable]

/-- The name of a variable in the environment. -/
def name : Variable → String
  | indentWidth => "SNAPCHAIN_INDENT_WIDTH"
  | batchSize => "SNAPCHAIN_BATCH_SIZE"
  | batchDelay => "SNAPCHAIN_BATCH_DELAY_MS"
  | debounce => "SNAPCHAIN_DEBOUNCE_MS"
  | timeout => "SNAPCHAIN_REFINE_TIMEOUT_SECS"
  | temperature => "SNAPCHAIN_REFINE_TEMPERATURE"
  | endpoint => "SNAPCHAIN_REFINE_ENDPOINT"
  | model => "SNAPCHAIN_REFINE_MODEL"
  | keyVariable => "SNAPCHAIN_REFINE_API_KEY_ENV"

/-- The values that a setting may have. -/
abbrev Value : Variable → Type
  | indentWidth | batchSize | batchDelay | debounce | timeout => Nat
  | temperature => Float32
  | endpoint | model | keyVariable => String

/-- The value that a text stands for, if it makes sense. -/
def read? : (v : Variable) → String → Option v.Value
  | indentWidth | batchSize | batchDelay | debounce | timeout => Decimal.readNat? wordSize
  | temperature => Decimal.readFloat32?
  | endpoint | model | keyVariable => some

/-- The present value of a setting. -/
def get : (v : Variable) → Settings → v.Value
  | indentWidth => Settings.indentWidth
  | batchSize => fun settings => settings.pacing.batchSize
  | batchDelay => fun settings => settings.pacing.batchDelay
  | debounce => fun settings => settings.pacing.debounce
  | timeout => fun settings => settings.refinement.timeout
  | temperature => fun settings => settings.refinement.temperature
  | endpoint => fun settings => settings.refinement.endpoint
  | model => fun settings => settings.refinement.model
  | keyVariable => fun settings => settings.refinement.keyVariable

/-- The settings with another value for one of them. -/
def set : (v : Variable) → v.Value → Settings → Settings
  | indentWidth => setIndentWidth
  | batchSize => setBatchSize
  | batchDelay => setBatchDelay
  | debounce => setDebounce
  | timeout => setTimeout
  | temperature => setTemperature
  | endpoint => setEndpoint
  | model => setModel
  | keyVariable => setKeyVariable

/-- How the text of a variable is taken over. -/
def entry (v : Variable) : String × TextTaker :=
  (v.name, fun text settings => (v.read? text).map fun value => v.set value settings)

theorem overrides_eq : overrides = all.map entry := rfl

theorem get_set (v : Variable) (value : v.Value) (settings : Settings) :
    v.get (v.set value settings) = value := by
  cases v <;> rfl

theorem get_set_of_ne {u v : Variable} (other : u ≠ v) (value : v.Value) (settings : Settings) :
    u.get (v.set value settings) = u.get settings := by
  cases v <;> cases u <;> first | exact absurd rfl other | rfl

theorem referer_set (v : Variable) (value : v.Value) (settings : Settings) :
    (v.set value settings).refinement.referer = settings.refinement.referer := by
  cases v <;> rfl

theorem title_set (v : Variable) (value : v.Value) (settings : Settings) :
    (v.set value settings).refinement.title = settings.refinement.title := by
  cases v <;> rfl

section Environment

variable (lookup : String → Option String)

/-- The value that the environment has for a setting: the variable is set, and its text, without the
blanks around it, makes sense. -/
def value? (v : Variable) : Option v.Value :=
  (lookup v.name).bind fun text => v.read? (Text.trim text)

/-- The variable is set to a text that makes no sense. -/
def Refused (v : Variable) : Prop :=
  ∃ text, lookup v.name = some text ∧ v.read? (Text.trim text) = none

/-- What a setting comes to: the value of its variable if that is set, and else the old one. -/
def outcome (before : Settings) (v : Variable) : v.Value :=
  (v.value? lookup).getD (v.get before)

end Environment

end Variable

open Variable

variable {lookup : String → Option String} {before between after : Settings} {v : Variable}
  {vs : List Variable}

/-- Some variables have been taken over, and all other settings are as they were before. -/
structure Overridden (lookup : String → Option String) (vs : List Variable)
    (before after : Settings) : Prop where
  taken : ∀ v ∈ vs, v.get after = v.outcome lookup before
  kept : ∀ v ∉ vs, v.get after = v.get before
  referer : after.refinement.referer = before.refinement.referer
  title : after.refinement.title = before.refinement.title

namespace Overridden

theorem nil (lookup : String → Option String) (settings : Settings) :
    Overridden lookup [] settings settings :=
  ⟨fun _ none => (List.not_mem_nil none).elim, fun _ _ => rfl, rfl, rfl⟩

/-- One variable is taken over, and then others are. -/
theorem cons (first : Overridden lookup [v] before between)
    (later : Overridden lookup vs between after) (new : v ∉ vs) :
    Overridden lookup (v :: vs) before after where
  taken u present := by
    rcases List.mem_cons.1 present with rfl | present
    · exact (later.kept u new).trans (first.taken u (List.mem_singleton_self u))
    · have other : u ∉ [v] := fun same => new (List.mem_singleton.1 same ▸ present)
      rw [later.taken u present, outcome, outcome, first.kept u other]
  kept u absent := by
    have other : u ∉ [v] := fun same => absent (List.mem_singleton.1 same ▸ List.mem_cons_self)
    rw [later.kept u (List.not_mem_of_not_mem_cons absent), first.kept u other]
  referer := later.referer.trans first.referer
  title := later.title.trans first.title

theorem unset (unset : lookup v.name = none) (settings : Settings) :
    Overridden lookup [v] settings settings where
  taken u present := by
    cases List.mem_singleton.1 present
    simp [outcome, value?, unset]
  kept _ _ := rfl
  referer := rfl
  title := rfl

theorem set {value : v.Value} (found : v.value? lookup = some value) (settings : Settings) :
    Overridden lookup [v] settings (v.set value settings) where
  taken u present := by
    cases List.mem_singleton.1 present
    simp [outcome, found, get_set]
  kept u absent := get_set_of_ne (by simpa using absent) value settings
  referer := referer_set v value settings
  title := title_set v value settings

end Overridden

/-- How variables are taken over one after the other: all of them, or those before the first that is
refused, which is blamed. -/
inductive TakesOver (lookup : String → Option String) (vs : List Variable) (before : Settings) :
    Settings × Option SettingsError → Prop
  | all {after : Settings} (read : ∀ v ∈ vs, ¬ v.Refused lookup)
    (overridden : Overridden lookup vs before after) : TakesOver lookup vs before (after, none)
  | upTo {after : Settings} {earlier later : List Variable} {v : Variable} {text : String}
    (order : vs = earlier ++ v :: later) (read : ∀ u ∈ earlier, ¬ u.Refused lookup)
    (found : lookup v.name = some text) (senseless : v.read? (Text.trim text) = none)
    (overridden : Overridden lookup earlier before after) :
    TakesOver lookup vs before (after, some (.invalidVariable v.name text))

theorem TakesOver.cons {result : Settings × Option SettingsError} (new : v ∉ vs)
    (meant : ¬ v.Refused lookup) (first : Overridden lookup [v] before between)
    (later : TakesOver lookup vs between result) : TakesOver lookup (v :: vs) before result := by
  have meant_cons {us : List Variable} (read : ∀ u ∈ us, ¬ u.Refused lookup) :
      ∀ u ∈ v :: us, ¬ u.Refused lookup := List.forall_mem_cons.2 ⟨meant, read⟩
  cases later with
  | all read overridden => exact .all (meant_cons read) (first.cons overridden new)
  | @upTo after earlier later u text order read found senseless overridden =>
      have new' : v ∉ earlier := fun present => new (order ▸ List.mem_append_left _ present)
      exact .upTo (congrArg (v :: ·) order) (meant_cons read) found senseless
        (first.cons overridden new')

theorem takesOver_takeVariables (lookup : String → Option String) (distinct : vs.Nodup)
    (before : Settings) :
    TakesOver lookup vs before (takeVariables lookup (vs.map entry) before) := by
  induction vs generalizing before with
  | nil => exact .all (fun _ none => (List.not_mem_nil none).elim) (.nil lookup before)
  | cons v vs ih =>
      obtain ⟨new, distinct⟩ := List.nodup_cons.1 distinct
      rw [List.map_cons, takeVariables]
      split
      next unset =>
        have meant : ¬ v.Refused lookup := fun ⟨_, found, _⟩ => nomatch unset.symm.trans found
        exact (ih distinct before).cons new meant (.unset unset before)
      next text found =>
        cases read : v.read? (Text.trim text) with
        | none =>
            simp only [entry, read, Option.map_none]
            exact .upTo (List.nil_append (v :: vs)).symm (fun _ none => (List.not_mem_nil none).elim)
              found read (.nil lookup before)
        | some value =>
            have meant : ¬ v.Refused lookup := by
              rintro ⟨text', found', senseless⟩
              cases found.symm.trans found'
              cases read.symm.trans senseless
            have found' : lookup v.name = some text := found
            have set : v.value? lookup = some value := by
              rw [value?, found', Option.bind_some, read]
            simp only [entry, read, Option.map_some]
            exact (ih distinct (v.set value before)).cons new meant (.set set before)

theorem Variable.mem_all (v : Variable) : v ∈ all := by
  cases v <;> decide

/-- Overriding succeeds exactly if no variable is refused and what comes out indents by at least one
space and takes at least one block at a time; every setting then has the value of its variable if
that is set, and its old one if not. A variable is blamed only if it is the first that is refused;
those before it have been taken over, and nothing else has changed. Settings are refused as a whole
only after all variables have been taken over. There is no other failure. -/
theorem overridden_override (lookup : String → Option String) (before : Settings) :
    let (after, failure) := override lookup before
    (failure = none ↔ (∀ v : Variable, ¬ v.Refused lookup) ∧
      1 ≤ Variable.indentWidth.outcome lookup before ∧ 1 ≤ batchSize.outcome lookup before) ∧
    match failure with
    | none => Overridden lookup all before after
    | some (.invalidVariable name text) =>
      ∃ earlier v later, all = earlier ++ v :: later ∧ v.name = name ∧ lookup name = some text ∧
        v.read? (Text.trim text) = none ∧ (∀ u ∈ earlier, ¬ u.Refused lookup) ∧
        Overridden lookup earlier before after
    | some .zeroIndent => Overridden lookup all before after ∧ after.indentWidth = 0
    | some .zeroBatch =>
      Overridden lookup all before after ∧ 1 ≤ after.indentWidth ∧ after.pacing.batchSize = 0
    | some _ => False := by
  have takesOver : TakesOver lookup all before (takeVariables lookup overrides before) := by
    rw [overrides_eq]
    exact takesOver_takeVariables lookup (by decide) before
  unfold override
  generalize takeVariables lookup overrides before = result at takesOver
  cases takesOver with
  | @upTo after earlier later v text order read found senseless overridden =>
      have refused : v.Refused lookup := ⟨text, found, senseless⟩
      refine ⟨iff_of_false (Option.some_ne_none _) fun fine => fine.1 v refused, ?_⟩
      exact ⟨earlier, v, later, order, rfl, found, senseless, read, overridden⟩
  | @all after read overridden =>
      have width : after.indentWidth = Variable.indentWidth.outcome lookup before :=
        overridden.taken .indentWidth (mem_all _)
      have size : after.pacing.batchSize = batchSize.outcome lookup before :=
        overridden.taken batchSize (mem_all _)
      rw [← width, ← size]
      by_cases noIndent : after.indentWidth = 0
      · simp [Settings.check, noIndent, overridden]
      · by_cases noBatch : after.pacing.batchSize = 0
        · simp [Settings.check, noIndent, noBatch, overridden, Nat.one_le_iff_ne_zero]
        · have meant : ∀ v : Variable, ¬ v.Refused lookup := fun v => read v (mem_all v)
          simp [Settings.check, noIndent, noBatch, overridden, Nat.one_le_iff_ne_zero, meant]

end SolanaBlocks.Settings
