import Mathlib.Tactic.FinCases
import SolanaBlocks.Proofs.Emission.Demands
import SolanaBlocks.Proofs.Precedence.Expressions

/-!
# What each type demands

The rendering of a block demands all fields and slots that its type declares, and nothing else but
three conditions of single types. One field is never read: the name of a parameter, whose kind is
its whole declaration.
-/

namespace SolanaBlocks

open Palette.Standard (conditionalArms conditionSlot bodySlot)

namespace BlockType

/-- The field is a free text that is taken as it stands. -/
def isPlainText (type : BlockType) (name : String) : Bool :=
  type.declaresField name fun field => field.kind = .freeText ∧ field.identifier = false

/-- The field tells the three kinds of variants apart. -/
def isShape (type : BlockType) (name : String) : Bool :=
  type.declaresField name fun field => field.options?.any fun options =>
    options.map Choice.value = ["SIMPLE", "TUPLE", "STRUCT"]

/-- The slot takes a chain and may stay empty. -/
def takesBody (type : BlockType) (slot : String) : Bool :=
  type.declaresSlot slot fun declaration =>
    declaration.arity = .chain ∧ declaration.required = false

variable {type : BlockType} {name : String}

theorem declaresField_mono {p q : FieldDecl → Bool} (declared : type.declaresField name p = true)
    (mono : ∀ field, p field = true → q field = true) : type.declaresField name q = true := by
  obtain ⟨field, here, holds⟩ := (Option.any_eq_true _ _).1 declared
  exact (Option.any_eq_true _ _).2 ⟨field, here, mono field holds⟩

theorem isText_of_isPlainText (plain : type.isPlainText name) : type.isText name :=
  declaresField_mono plain fun field holds => by simp_all

theorem isChoice_of_isShape (shape : type.isShape name) : type.isChoice name := by
  refine declaresField_mono shape fun field holds => ?_
  obtain ⟨options, offered, values⟩ := (Option.any_eq_true _ _).1 holds
  refine (Option.any_eq_true _ _).2 ⟨options, offered, ?_⟩
  rw [decide_eq_true_eq] at values ⊢
  rw [values]
  decide

theorem takesChain_of_takesBody (body : type.takesBody name) : type.takesChain name := by
  obtain ⟨declaration, here, holds⟩ := (Option.any_eq_true _ _).1 body
  exact (Option.any_eq_true _ _).2 ⟨declaration, here, by simp_all⟩

end BlockType

open BlockType

/-- What one arm of a conditional demands. The first arm needs no condition of its own. -/
def armDemands (arm : Nat) : List Demand :=
  [.slot (conditionSlot arm), .slot (bodySlot arm)] ++ if arm = 0 then [] else [.arm arm]

namespace Site.Orderly

open Renderers

variable {site : Site} {T : BlockType} {answer : BlockId → Except EmitError Fragment}
  (o : site.Orderly T) (heard : ∀ slot, ¬ site.workspace.Silences ⟨site.id, slot⟩)

include o

/-! ## Blocks without slots -/

/-- A field in a variant also reads which kind of variant that is. -/
theorem reads_structField (name : T.isText "name") (type : T.isChoice "type")
    (hosted : ∀ owner, site.owner? = some owner → owner.block.type = "enum_variant" →
      ∃ shape, owner.choice "type" = .ok shape) :
    site.Reads answer [.field "name", .field "type"] (structField site) := by
  refine (o.reads_text name).bind fun name _ => (o.reads_choice type).bind fun type _ => ?_
  split
  · next owner above =>
      split
      · next variant =>
          obtain ⟨shape, chosen⟩ := hosted owner above variant
          by_cases tuple : shape = "TUPLE"
          · exact .of_ok (a := { code := type }) (by simp [chosen, tuple, Rendering.run_bind])
          · exact .of_ok (a := { code := s!"{name}: {type},\n" })
              (by simp [chosen, tuple, Rendering.run_bind])
      · split <;> exact .pure _
  · exact .pure _

theorem reads_parameter (type : T.isChoice "type") :
    site.Reads answer [.field "type"] (parameter site) :=
  (o.reads_choice type).bind fun _ _ => .pure _

/-- The index of an account is checked as soon as it is read. -/
theorem reads_getAccount (number : T.isNumber "index") (name : T.isText "name") :
    site.Reads answer [.field "index", .index, .field "name"] (getAccount site) := by
  refine (o.reads_number number).bind fun index read => .check ?_ <|
    (o.reads_text name).bind fun _ _ => .pure _
  obtain ⟨field, declared, -, found⟩ := number_eq_ok read
  obtain ⟨field', declared', named, -⟩ := o.fieldDecl number
  cases declared.symm.trans declared'
  have value : (site.block.fields["index"]?).getD field.default = field.valueIn site.block := by
    rw [FieldDecl.valueIn, named]
  rw [value] at found
  obtain ⟨x, held, rfl⟩ := Option.map_eq_some_iff.1 found
  have meets : site.Meets answer .index ↔ (BinaryNumber.ofFloat x).IsNatural := by
    simp [Meets, declared, held]
  rw [meets, BinaryNumber.isNatural_iff]
  simp

theorem reads_checkOwner (account : T.isText "account") (owner : T.isChoice "owner") :
    site.Reads answer [.field "account", .field "owner"] (checkOwner site) :=
  (o.reads_text account).bind fun _ _ => (o.reads_choice owner).bind fun _ _ => .pure _

theorem reads_deserializeAccount (account : T.isText "account") (type : T.isText "type") :
    site.Reads answer [.field "account", .field "type"] (deserializeAccount site) :=
  (o.reads_text account).bind fun _ _ => (o.reads_text type).bind fun _ _ => .pure _

theorem reads_accountConstraint (account : T.isText "account") (kind : T.isChoice "constraint") :
    site.Reads answer [.field "account", .field "constraint"] (accountConstraint site) := by
  refine (o.reads_text account).bind fun _ _ => (o.reads_choice kind).bind fun _ _ => ?_
  split
  exact .pure _

/-- The form of a seed is checked once it has lost the blanks around it. -/
theorem reads_pdaSeed (value : T.isPlainText "value") :
    site.Reads answer [.field "value", .seed] (pdaSeed site) := by
  refine (o.reads_text (isText_of_isPlainText value)).bind fun raw read => ?_
  obtain ⟨field, declared, shown⟩ := text_eq_ok read
  obtain ⟨field', declared', -, kind⟩ := o.fieldDecl value
  cases declared.symm.trans declared'
  obtain ⟨-, plain⟩ : field.kind = .freeText ∧ field.identifier = false := by simpa using kind
  have shown : raw = (field.valueIn site.block).display := by
    rw [plain] at shown
    exact shown
  have meets : site.Meets answer .seed ↔ SeedForm.of (Text.trim raw).toList ≠ .unclosed := by
    rw [← closesQuote_iff, shown]
    simp only [Meets, declared, Except.ok.injEq, forall_eq']
  rw [Reads, List.forall_mem_singleton, meets]
  dsimp only
  cases SeedForm.of (Text.trim raw).toList with
  | quoted content => exact iff_of_true ⟨_, rfl⟩ (by simp)
  | unclosed =>
      refine iff_of_false ?_ (by simp)
      rintro ⟨_, ran⟩
      cases ran
  | binding => exact iff_of_true ⟨_, rfl⟩ (by simp)

theorem reads_accountRef (name : T.isText "name") :
    site.Reads answer [.field "name"] (accountRef site) :=
  (o.reads_text name).bind fun _ _ => .pure _

theorem reads_programError (error : T.isChoice "error") :
    site.Reads answer [.field "error"] (programError site) :=
  (o.reads_choice error).bind fun _ _ => .pure _

theorem reads_numberLiteral (num : T.isNumber "num") :
    site.Reads answer [.field "num"] (numberLiteral site) :=
  (o.reads_number num).bind fun _ _ => .pure _

theorem reads_truthValue (bool : T.isChoice "bool") :
    site.Reads answer [.field "bool"] (truthValue site) :=
  (o.reads_choice bool).bind fun _ _ => .pure _

theorem reads_textLiteral (text : T.isText "text") :
    site.Reads answer [.field "text"] (textLiteral site) :=
  (o.reads_text text).bind fun _ _ => .pure _

theorem reads_variableName (name : T.isText "name") :
    site.Reads answer [.field "name"] (variableName site) :=
  (o.reads_text name).bind fun _ _ => .pure _

/-! ## Blocks with slots -/

/-- Which kind of variant has been read, and that its slot for data is silenced if it has none. -/
theorem shape_of_choice (variant : site.block.type = "enum_variant") (shape : T.isShape "type")
    (stored : "type" ∈ site.block.fields) {raw : String} (chosen : site.choice "type" = .ok raw) :
    (raw = "SIMPLE" ∨ raw = "TUPLE" ∨ raw = "STRUCT") ∧
      (site.workspace.Silences ⟨site.id, "fields"⟩ ↔ raw = "SIMPLE") := by
  obtain ⟨field, declared, shown, listed⟩ := choice_eq_ok chosen
  obtain ⟨field', declared', named, kind⟩ := o.fieldDecl shape
  cases declared.symm.trans declared'
  obtain ⟨options, offered, values⟩ := (Option.any_eq_true _ _).1 kind
  refine ⟨?_, ?_⟩
  · have listed := listed options offered
    rw [decide_eq_true_eq] at values
    rw [values] at listed
    simpa using listed
  · obtain ⟨value, held⟩ : ∃ value, site.block.fields["type"]? = some value :=
      ⟨_, Std.ExtTreeMap.getElem?_eq_some_getElem stored⟩
    have same : site.fieldValue field = value := by rw [fieldValue, named, held, Option.getD_some]
    simp [Workspace.Silences, o.found, variant, held, shown, same]

/-- A variant without data leaves its slot alone. -/
theorem reads_enumVariant (variant : site.block.type = "enum_variant") (name : T.isText "name")
    (shape : T.isShape "type") (fields : T.takesBody "fields")
    (stored : "type" ∈ site.block.fields) :
    site.Reads answer [.field "name", .field "type", .slot "fields"] (enumVariant site) := by
  refine (o.reads_text name).bind fun name _ =>
    (o.reads_choice (isChoice_of_isShape shape)).bind fun raw chosen => ?_
  obtain ⟨one_of, silent⟩ := o.shape_of_choice variant shape stored chosen
  split
  · next tuple =>
      have heard : ¬ site.workspace.Silences ⟨site.id, "fields"⟩ := by simp [silent]
      exact (o.reads_fragments (takesChain_of_takesBody fields) heard).bind fun _ _ => .pure _
  · next struct =>
      have heard : ¬ site.workspace.Silences ⟨site.id, "fields"⟩ := by simp [silent]
      exact (o.reads_statements (takesChain_of_takesBody fields) heard).bind fun _ _ => .pure _
  · next tuple struct =>
      have simple : raw = "SIMPLE" := one_of.resolve_right (not_or.2 ⟨tuple, struct⟩)
      obtain ⟨declaration, declared, kind⟩ := o.slotDecl fields
      have free : declaration.required = false := by
        rw [decide_eq_true_eq] at kind
        exact kind.2
      rw [Reads, List.forall_mem_singleton]
      refine iff_of_true ⟨_, rfl⟩ ⟨fun other same needed => ?_, fun heard => ?_⟩
      · cases declared.symm.trans same
        rw [free] at needed
        cases needed
      · exact absurd (silent.2 simple) heard

include heard

theorem reads_program (name : T.isText "name") (body : T.takesChain "body") :
    site.Reads answer [.field "name", .slot "body"] (program site) :=
  (o.reads_text name).bind fun _ _ =>
    (o.reads_flatStatements body (heard _)).bind fun _ _ => .pure _

theorem reads_struct (name : T.isText "name") (fields : T.takesChain "fields") :
    site.Reads answer [.field "name", .slot "fields"] (struct site) :=
  (o.reads_text name).bind fun _ _ =>
    (o.reads_statements fields (heard _)).bind fun _ _ => .pure _

theorem reads_enum (name : T.isText "name") (variants : T.takesChain "variants") :
    site.Reads answer [.field "name", .slot "variants"] (enum site) :=
  (o.reads_text name).bind fun _ _ =>
    (o.reads_statements variants (heard _)).bind fun _ _ => .pure _

theorem reads_handler (name : T.isText "name") (params : T.takesChain "params")
    (body : T.takesChain "body") :
    site.Reads answer [.field "name", .slot "params", .slot "body"] (handler site) :=
  (o.reads_text name).bind fun _ _ =>
    (o.reads_statements params (heard _)).bind fun _ _ =>
      (o.reads_statements body (heard _)).bind fun _ _ => .pure _

theorem reads_validateAccounts (least : T.hasDefault "min_accounts") :
    site.Reads answer [.slot "min_accounts"] (validateAccounts site) :=
  (o.reads_value _ least (heard _)).bind fun _ _ => .pure _

theorem reads_initAccount (name : T.isText "name") (type : T.isText "type")
    (space : T.hasDefault "space") :
    site.Reads answer [.field "name", .field "type", .slot "space"] (initAccount site) :=
  (o.reads_text name).bind fun _ _ => (o.reads_text type).bind fun _ _ =>
    (o.reads_value _ space (heard _)).bind fun _ _ => .pure _

theorem reads_createPda (name : T.isText "name") (seeds : T.takesChain "seeds") :
    site.Reads answer [.field "name", .slot "seeds"] (createPda site) :=
  (o.reads_text name).bind fun _ _ =>
    (o.reads_fragments seeds (heard _)).bind fun _ _ => .pure _

theorem reads_tokenOperation (operation : T.isChoice "operation") (amount : T.hasDefault "amount")
    (accounts : T.takesChain "accounts") :
    site.Reads answer [.field "operation", .slot "amount", .slot "accounts"]
      (tokenOperation site) :=
  (o.reads_choice operation).bind fun _ _ => (o.reads_value _ amount (heard _)).bind fun _ _ =>
    (o.reads_fragments accounts (heard _)).bind fun _ _ => .pure _

theorem reads_emitEvent (name : T.isText "name") (fields : T.takesChain "fields") :
    site.Reads answer [.field "name", .slot "fields"] (emitEvent site) := by
  refine (o.reads_text name).bind fun _ _ =>
    (o.reads_fragments fields (heard _)).bind fun _ _ => ?_
  split <;> exact .pure _

theorem reads_callProgram (program : T.isText "program_id") (accounts : T.takesChain "accounts")
    (data : T.hasDefault "data") :
    site.Reads answer [.field "program_id", .slot "accounts", .slot "data"] (callProgram site) :=
  (o.reads_text program).bind fun _ _ => (o.reads_fragments accounts (heard _)).bind fun _ _ =>
    (o.reads_value _ data (heard _)).bind fun _ _ => .pure _

theorem reads_countedLoop (variable_ : T.isText "var") (start : T.hasDefault "start")
    (stop : T.hasDefault "end") (step : T.hasDefault "step") (body : T.takesChain "do") :
    site.Reads answer [.field "var", .slot "start", .slot "end", .slot "step", .slot "do"]
      (countedLoop site) :=
  (o.reads_text variable_).bind fun _ _ => (o.reads_value _ start (heard _)).bind fun _ _ =>
    (o.reads_value _ stop (heard _)).bind fun _ _ =>
      (o.reads_value _ step (heard _)).bind fun _ _ =>
        (o.reads_statements body (heard _)).bind fun _ _ => .pure _

theorem reads_whileLoop (condition : T.hasDefault "bool") (body : T.takesChain "do") :
    site.Reads answer [.slot "bool", .slot "do"] (whileLoop site) :=
  (o.reads_value _ condition (heard _)).bind fun _ _ =>
    (o.reads_statements body (heard _)).bind fun _ _ => .pure _

theorem reads_binary (left : T.hasDefault "a") (right : T.hasDefault "b") (symbol : String)
    (tier : Tier) (associativity : Associativity) :
    site.Reads answer [.slot "a", .slot "b"] (binary site symbol tier associativity) :=
  (o.reads_value _ left (heard _)).bind fun _ _ =>
    (o.reads_value _ right (heard _)).bind fun _ _ => .pure _

theorem reads_mathOperation (operation : T.isChoice "operation") (left : T.hasDefault "a")
    (right : T.hasDefault "b") :
    site.Reads answer [.field "operation", .slot "a", .slot "b"] (mathOperation site) := by
  refine (o.reads_choice operation).bind fun _ _ => ?_
  split <;> exact o.reads_binary heard left right _ _ _

theorem reads_comparison (op : T.isChoice "op") (left : T.hasDefault "a")
    (right : T.hasDefault "b") :
    site.Reads answer [.field "op", .slot "a", .slot "b"] (comparison site) :=
  (o.reads_choice op).bind fun _ _ => o.reads_binary heard left right _ _ _

theorem reads_logicOperation (op : T.isChoice "op") (left : T.hasDefault "a")
    (right : T.hasDefault "b") :
    site.Reads answer [.field "op", .slot "a", .slot "b"] (logicOperation site) := by
  refine (o.reads_choice op).bind fun _ _ => ?_
  split <;> exact o.reads_binary heard left right _ _ _

theorem reads_negation (operand : T.hasDefault "bool") :
    site.Reads answer [.slot "bool"] (negation site) :=
  (o.reads_value _ operand (heard _)).bind fun _ _ => .pure _

/-! ## Conditionals -/

omit o heard in
theorem mem_slots {slot : String} :
    slot ∈ site.block.slots ↔ site.isBound slot = true :=
  Std.ExtTreeMap.isSome_getElem?_iff_mem.symm

omit o heard in
/-- Whether a slot gives an expression tells whether it is bound. -/
theorem isBound_of_value? {slot : String} {tier : Tier} {content : Option String}
    (read : (site.value? slot tier).run answer = .ok content) :
    site.isBound slot = content.isSome := by
  obtain ⟨declaration, -, read⟩ := (Rendering.run_bind_eq_ok_iff _).1 read
  unfold isBound
  split at read
  · next empty =>
      rw [empty]
      split at read
      · cases read
      · cases read
        rfl
  · cases read
  · next child held =>
      rw [held]
      obtain ⟨_, -, read⟩ := (Rendering.run_bind_eq_ok_iff _).1 read
      dsimp only at read
      split at read
      · obtain ⟨_, -, read⟩ := (Rendering.run_bind_eq_ok_iff _).1 read
        cases read
        rfl
      · cases read

omit heard in
/-- An empty slot that may be empty demands nothing. -/
theorem meets_slot {slot : String} (free : T.takesBody slot) (empty : site.isBound slot = false) :
    site.Meets answer (.slot slot) := by
  obtain ⟨declaration, declared, kind⟩ := o.slotDecl free
  obtain ⟨-, free⟩ : declaration.arity = .chain ∧ declaration.required = false := by
    simpa using kind
  have empty : site.block.slots[slot]? = none :=
    Option.isNone_iff_eq_none.1 (Option.isSome_eq_false_iff.1 empty)
  refine ⟨fun other same needed => ?_, fun _ child sits => ?_⟩
  · cases declared.symm.trans same
    rw [free] at needed
    cases needed
  · rcases o.contents declared with ⟨-, nothing⟩ | ⟨-, child, held, -⟩ | ⟨-, head, rest, held, -⟩
    · exact absurd sits (nothing child)
    · rw [empty] at held
      cases held
    · rw [empty] at held
      cases held

/-- One arm of a conditional. -/
theorem reads_conditionalArm {arm : Nat} (first : arm = 0 → T.hasDefault (conditionSlot arm))
    (condition : T.takesExpression (conditionSlot arm)) (body : T.takesBody (bodySlot arm)) :
    site.Reads answer (armDemands arm) (conditionalArm site arm) := by
  have chain := takesChain_of_takesBody body
  unfold conditionalArm armDemands
  by_cases zero : arm = 0
  · simp only [if_pos zero]
    refine ((o.reads_value _ (first zero) (heard _)).bind fun _ _ => .pure _).bind
      fun content read => ?_
    obtain ⟨code, -, read⟩ := (Rendering.run_bind_eq_ok_iff _).1 read
    cases read
    exact (o.reads_statements chain (heard _)).bind fun _ _ => .pure _
  · simp only [if_neg zero]
    refine (o.reads_value? _ condition (heard _)).bind fun content read => ?_
    have filled := isBound_of_value? read
    cases content with
    | some code =>
        have met : site.Meets answer (.arm arm) := fun _ => mem_slots.2 filled
        exact (o.reads_statements chain (heard _)).bind fun _ _ => .of_met (by simpa using met) rfl
    | none =>
        dsimp only
        split
        · next bound =>
            refine iff_of_false (fun ⟨_, ran⟩ => by cases ran) fun met => ?_
            have met : site.Meets answer (.arm arm) := met _ (by simp)
            have filled' := mem_slots.1 (met (mem_slots.2 bound))
            rw [filled] at filled'
            cases filled'
        · next unbound =>
            refine .of_met
              (List.forall_mem_cons.2 ⟨?_, List.forall_mem_singleton.2 fun bound => ?_⟩) rfl
            · exact o.meets_slot body (by simpa using unbound)
            · exact absurd (mem_slots.1 bound) unbound

theorem reads_conditionalArmsFrom (arms : List Nat)
    (declared : ∀ arm ∈ arms, (arm = 0 → T.hasDefault (conditionSlot arm)) ∧
      T.takesExpression (conditionSlot arm) ∧ T.takesBody (bodySlot arm)) :
    site.Reads answer (arms.flatMap armDemands) (conditionalArmsFrom site arms) := by
  induction arms with
  | nil => exact .pure _
  | cons arm rest ih =>
      obtain ⟨⟨first, condition, body⟩, later⟩ := List.forall_mem_cons.1 declared
      rw [List.flatMap_cons, ← List.append_nil (rest.flatMap armDemands)]
      exact (o.reads_conditionalArm heard first condition body).append fun _ _ =>
        (ih later).append fun _ _ => .pure _

theorem reads_conditional
    (arms : ∀ arm ∈ List.range conditionalArms, (arm = 0 → T.hasDefault (conditionSlot arm)) ∧
      T.takesExpression (conditionSlot arm) ∧ T.takesBody (bodySlot arm))
    (last : T.takesBody "else") :
    site.Reads answer ((List.range conditionalArms).flatMap armDemands ++ [.slot "else"])
      (conditional site) := by
  refine (o.reads_conditionalArmsFrom heard _ arms).append fun _ _ => ?_
  split
  · exact (o.reads_statements (takesChain_of_takesBody last) (heard _)).bind fun _ _ => .of_ok rfl
  · next unbound =>
      exact .of_met (List.forall_mem_singleton.2 (o.meets_slot last (by simpa using unbound))) rfl

end Site.Orderly

/-! ## All types -/

/-- What a standard type demands beyond its fields and slots. -/
def Palette.Standard.conditions : String → List Demand
  | "get_account" => [.index]
  | "pda_seed" => [.seed]
  | "controls_if" => [.arm 1, .arm 2, .arm 3]
  | _ => []

/-- What the rendering of a block of a type demands. -/
def BlockType.demands (type : BlockType) : List Demand :=
  (type.fields.filter fun field => !(type.id == "function_param" && field.name == "name")).map
      (fun field => .field field.name) ++
    type.slots.map (fun slot => .slot slot.name) ++ Palette.Standard.conditions type.id

namespace Site

open Palette.Standard

variable {site : Site} {T : BlockType} {answer : BlockId → Except EmitError Fragment}
  {renderer : Renderer} (o : site.Orderly T) (named : T.id = site.block.type)
  (rendered : Renderers.standard? T.id = some renderer)

include o named in
theorem Orderly.heard_of_id (other : T.id ≠ "enum_variant") (slot : String) :
    ¬ site.workspace.Silences ⟨site.id, slot⟩ :=
  o.heard (named ▸ other) slot

include o named rendered

theorem reads_programTypes (member : T ∈ programTypes)
    (stored : ∀ name, (T.field? name).isSome → name ∈ site.block.fields)
    (hosted : ∀ owner, site.owner? = some owner → owner.block.type = "enum_variant" →
      ∃ shape, owner.choice "type" = .ok shape) :
    site.Reads answer T.demands (renderer site) := by
  have heard := o.heard_of_id named
  unfold programTypes at member
  fin_cases member <;> cases rendered
  · exact o.reads_program (heard (by decide)) rfl rfl
  · exact o.reads_struct (heard (by decide)) rfl rfl
  · exact o.reads_structField rfl rfl hosted
  · exact o.reads_enum (heard (by decide)) rfl rfl
  · exact o.reads_enumVariant named.symm rfl rfl rfl (stored "type" rfl)
  · exact o.reads_handler (heard (by decide)) rfl rfl rfl
  · exact o.reads_parameter rfl

theorem reads_accountTypes (member : T ∈ accountTypes) :
    site.Reads answer T.demands (renderer site) := by
  have heard := o.heard_of_id named
  unfold accountTypes at member
  fin_cases member <;> cases rendered
  · exact o.reads_validateAccounts (heard (by decide)) rfl
  · exact (o.reads_getAccount rfl rfl).of_perm (by decide)
  · exact o.reads_checkOwner rfl rfl
  · exact o.reads_deserializeAccount rfl rfl
  · exact o.reads_initAccount (heard (by decide)) rfl rfl rfl
  · exact o.reads_accountConstraint rfl rfl
  · exact o.reads_createPda (heard (by decide)) rfl rfl
  · exact o.reads_pdaSeed rfl
  · exact o.reads_tokenOperation (heard (by decide)) rfl rfl rfl
  · exact o.reads_emitEvent (heard (by decide)) rfl rfl
  · exact o.reads_callProgram (heard (by decide)) rfl rfl rfl
  · exact o.reads_accountRef rfl
  · exact o.reads_programError rfl

theorem reads_controlTypes (member : T ∈ controlTypes) :
    site.Reads answer T.demands (renderer site) := by
  have heard := o.heard_of_id named
  unfold controlTypes at member
  fin_cases member <;> cases rendered
  · exact (o.reads_conditional (heard (by decide)) (by decide) rfl).of_perm (by decide)
  · exact o.reads_countedLoop (heard (by decide)) rfl rfl rfl rfl rfl
  · exact o.reads_whileLoop (heard (by decide)) rfl rfl

theorem reads_expressionTypes (member : T ∈ expressionTypes) :
    site.Reads answer T.demands (renderer site) := by
  have heard := o.heard_of_id named
  unfold expressionTypes at member
  fin_cases member <;> cases rendered
  · exact o.reads_mathOperation (heard (by decide)) rfl rfl rfl
  · exact o.reads_numberLiteral rfl
  · exact o.reads_comparison (heard (by decide)) rfl rfl rfl
  · exact o.reads_logicOperation (heard (by decide)) rfl rfl rfl
  · exact o.reads_negation (heard (by decide)) rfl
  · exact o.reads_truthValue rfl
  · exact o.reads_textLiteral rfl
  · exact o.reads_variableName rfl

omit named rendered in
/-- The rendering of every standard type has the demands of the type. -/
theorem reads_standard (palette : site.palette = .standard)
    (rendered : Renderers.standard? site.block.type = some renderer)
    (hosted : ∀ owner, site.owner? = some owner → owner.block.type = "enum_variant" →
      ∃ shape, owner.choice "type" = .ok shape) :
    site.Reads answer T.demands (renderer site) := by
  have known := o.known
  rw [palette] at known
  obtain ⟨member, named⟩ := standard_mem known
  rw [← named] at rendered
  have stored : ∀ name, (T.field? name).isSome → name ∈ site.block.fields := fun name =>
    (o.workspace.typed.keyed site.id T site.block.fields o.typeAt?_eq
      (by rw [Workspace.fields?, o.found, Option.map_some]) name).2
  rcases List.mem_append.1 member with member | member
  · rcases List.mem_append.1 member with member | member
    · rcases List.mem_append.1 member with member | member
      · exact reads_programTypes o named rendered member stored hosted
      · exact reads_accountTypes o named rendered member
    · exact reads_controlTypes o named rendered member
  · exact reads_expressionTypes o named rendered member

end Site

end SolanaBlocks
