import SolanaBlocks.BlockTree.Json
import SolanaBlocks.Json.Reader

/-!
# Reading block trees

The text is an array of blocks. A block is an object, of which only the id and the type have to be
there and unknown entries are passed over; or it is an array of its parts in the order id, type,
fields, inputs, successor, mark. The text is read once from left to right, and the first fault met
decides.

What stands in a slot is read as plain JSON first and then turned into blocks: `null` for an empty
slot, a block for a single one, an array for a chain; an array that is no chain of blocks may still
be one block written as an array.
-/

namespace SolanaBlocks

open Json (Fault Reader)

namespace BlockTree

/-- The parts of a block in the order of the array form. -/
inductive Part where
  | id
  | type
  | fields
  | inputs
  | next
  | revisited
deriving DecidableEq, Repr

namespace Part

/-- All parts in order. -/
def all : List Part := [id, type, fields, inputs, next, revisited]

/-- The key of a part in the object form. -/
def key : Part → String
  | id => "id"
  | type => "type"
  | fields => "fields"
  | inputs => "inputs"
  | next => "next"
  | revisited => "revisited"

/-- The part with a given key. -/
def ofKey? (key : String) : Option Part :=
  all.find? fun part => part.key == key

end Part

/-- The parts of a block as far as they have been read. -/
structure Draft where
  id : Option String := none
  type : Option String := none
  fields : Option (NameTable FieldValue) := none
  inputs : Option (List TreeInput) := none
  next : Option (Option String) := none
  revisited : Option Bool := none

namespace Draft

/-- Whether a part has been read. -/
def has (draft : Draft) : Part → Bool
  | .id => draft.id.isSome
  | .type => draft.type.isSome
  | .fields => draft.fields.isSome
  | .inputs => draft.inputs.isSome
  | .next => draft.next.isSome
  | .revisited => draft.revisited.isSome

/-- The block, which needs an id and a type. -/
def finish? (draft : Draft) : Option BlockTree := do
  let id ← draft.id
  let type ← draft.type
  return .mk ⟨id⟩ type (draft.fields.getD ∅) (draft.inputs.getD [])
    ((draft.next.getD none).map BlockId.mk) (draft.revisited.getD false)

end Draft

/-! ## From JSON values -/

/-- A string. -/
def text? : Json → Option String
  | .text s => some s
  | _ => none

/-- A string or nothing. -/
def optionalText? : Json → Option (Option String)
  | .null => some none
  | value => (text? value).map some

/-- A truth value. -/
def bool? : Json → Option Bool
  | .bool b => some b
  | _ => none

/-- A field value: a number or a string. -/
def fieldValue? : Json → Option FieldValue
  | .integer n => some (.number (Json.floatOfInt n))
  | .float x => some (.number x)
  | .text s => some (.text s)
  | _ => none

/-- A table of field values. Of two entries with one key the later one counts. -/
def fieldTable? (entries : List (String × Json)) : Option (NameTable FieldValue) :=
  entries.foldlM (fun table (name, value) => (fieldValue? value).map (table.insert name ·)) ∅

mutual

/-- One part of a block, put into the draft. -/
def addPart? (draft : Draft) (part : Part) (value : Json) : Option Draft :=
  match part, value with
  | .id, value => (text? value).map fun s => { draft with id := some s }
  | .type, value => (text? value).map fun s => { draft with type := some s }
  | .fields, .object entries => (fieldTable? entries).map fun t => { draft with fields := some t }
  | .inputs, .object entries => (inputs? [] entries).map fun l => { draft with inputs := some l }
  | .next, value => (optionalText? value).map fun s => { draft with next := some s }
  | .revisited, value => (bool? value).map fun b => { draft with revisited := some b }
  | _, _ => none

/-- The parts of a block given by keys. A part may come up once; unknown keys are passed over. -/
def entries? (draft : Draft) : List (String × Json) → Option Draft
  | [] => some draft
  | (key, value) :: rest =>
    match Part.ofKey? key with
    | none => entries? draft rest
    | some part =>
      if draft.has part then none
      else
        match addPart? draft part value with
        | none => none
        | some draft => entries? draft rest

/-- The parts of a block given in order. -/
def items? (draft : Draft) : List Part → List Json → Option Draft
  | _, [] => some draft
  | [], _ :: _ => none
  | part :: parts, value :: rest =>
    match addPart? draft part value with
    | none => none
    | some draft => items? draft parts rest

/-- A block. -/
def block? : Json → Option BlockTree
  | .object entries => (entries? {} entries).bind Draft.finish?
  | .array items => (items? {} Part.all items).bind Draft.finish?
  | _ => none

/-- A chain of blocks. -/
def members? : List Json → Option (List BlockTree)
  | [] => some []
  | value :: rest =>
    match block? value with
    | none => none
    | some member => (members? rest).map (member :: ·)

/-- What a slot holds. -/
def input? (slot : String) : Json → Option TreeInput
  | .null => some (.empty slot)
  | .array items =>
    match members? items with
    | some members => some (.chain slot members)
    | none => ((items? {} Part.all items).bind Draft.finish?).map (.single slot)
  | .object entries => ((entries? {} entries).bind Draft.finish?).map (.single slot)
  | _ => none

/-- What the slots of a block hold, added to the `inputs` read before. Of two entries with one key
the later one counts. -/
def inputs? (inputs : List TreeInput) : List (String × Json) → Option (List TreeInput)
  | [] => some inputs
  | (slot, value) :: rest =>
    match input? slot value with
    | none => none
    | some input => inputs? (input.place inputs) rest

end

/-! ## From text -/

/-- The fault of a value that is not of the expected type. A faulty number, string or word counts
for its own fault. -/
def unexpected (cs : List Char) : Fault :=
  match cs with
  | '[' :: _ | '\x7b' :: _ => .mistyped
  | _ =>
    match Json.readValue 0 cs with
    | .error fault => fault
    | .ok _ => .mistyped

/-- A string. -/
def readText : Reader String := fun cs =>
  match Json.skipBlanks cs with
  | [] => .error .truncated
  | '"' :: cs => Json.readChars false cs
  | cs => .error (unexpected cs)

/-- A string or `null`. -/
def readOptionalText : Reader (Option String) := fun cs =>
  match Json.skipBlanks cs with
  | 'n' :: cs => (Json.readWord "ull".toList cs).map fun cs => (none, cs)
  | cs => (readText cs).map fun (s, cs) => (some s, cs)

/-- A truth value. -/
def readBool : Reader Bool := fun cs =>
  match Json.skipBlanks cs with
  | [] => .error .truncated
  | 't' :: cs => (Json.readWord "rue".toList cs).map fun cs => (true, cs)
  | 'f' :: cs => (Json.readWord "alse".toList cs).map fun cs => (false, cs)
  | cs => .error (unexpected cs)

/-- Entries of an object up to its closing brace, at most `fuel` of them. `add` reads what follows a
key. -/
def readEntriesWith {α : Type} (add : α → String → Reader α) : Nat → α → Reader α
  | 0, _, _ => .error .malformed
  | fuel + 1, table, cs => do
    let (key, cs) ← Json.readKey false cs
    let (table, cs) ← add table key cs
    match Json.skipBlanks cs with
    | [] => throw .truncated
    | '\x7d' :: cs => return (table, cs)
    | ',' :: cs => readEntriesWith add fuel table cs
    | _ => throw .malformed

/-- An object after its opening brace. -/
def readObject {α : Type} (add : α → String → Reader α) (start : α) : Reader α := fun cs =>
  match Json.skipBlanks cs with
  | '\x7d' :: cs => .ok (start, cs)
  | cs => readEntriesWith add (cs.length + 1) start cs

/-- An object of which each entry is read as JSON, to `depth` more levels, and then put into a
table. -/
def readTable {α : Type} (add? : α → String → Json → Option α) (start : α) (depth : Nat) :
    Reader α := fun cs =>
  match Json.skipBlanks cs with
  | [] => .error .truncated
  | '\x7b' :: cs =>
    match depth with
    | 0 => .error .malformed
    | depth + 1 =>
      readObject (fun table key cs => do
        let cs ← Json.readColon cs
        let (value, cs) ← Json.readValue depth cs
        match add? table key value with
        | none => throw .mistyped
        | some table => return (table, cs)) start cs
  | cs => .error (unexpected cs)

/-- One part of a block, put into the draft. -/
def readPart (depth : Nat) (draft : Draft) (part : Part) : Reader Draft := fun cs =>
  match part with
  | .id => (readText cs).map fun (s, cs) => ({ draft with id := some s }, cs)
  | .type => (readText cs).map fun (s, cs) => ({ draft with type := some s }, cs)
  | .fields =>
    (readTable (fun table name value => (fieldValue? value).map (table.insert name ·)) ∅ depth
      cs).map fun (table, cs) => ({ draft with fields := some table }, cs)
  | .inputs =>
    (readTable (fun inputs slot value => (input? slot value).map (·.place inputs)) [] depth cs).map
      fun (inputs, cs) => ({ draft with inputs := some inputs }, cs)
  | .next => (readOptionalText cs).map fun (s, cs) => ({ draft with next := some s }, cs)
  | .revisited => (readBool cs).map fun (b, cs) => ({ draft with revisited := some b }, cs)

/-- What follows a key in the object form of a block. -/
def readEntry (depth : Nat) (draft : Draft) (key : String) : Reader Draft := fun cs =>
  match Part.ofKey? key with
  | none => do
    let cs ← Json.readColon cs
    let cs ← Json.skipValue cs
    return (draft, cs)
  | some part =>
    if draft.has part then .error .mistyped
    else do
      let cs ← Json.readColon cs
      readPart depth draft part cs

/-- The parts of the array form after its opening bracket, up to the closing one. -/
def readParts (depth : Nat) (first : Bool) (draft : Draft) : List Part → Reader Draft
  | [], cs =>
    match Json.skipBlanks cs with
    | [] => .error .truncated
    | ']' :: cs => .ok (draft, cs)
    | _ => .error .malformed
  | part :: parts, cs =>
    match first, Json.skipBlanks cs with
    | _, [] => .error .truncated
    | _, ']' :: cs => .ok (draft, cs)
    | false, ',' :: cs => do
      let (draft, cs) ← readPart depth draft part cs
      readParts depth false draft parts cs
    | false, _ => .error .malformed
    | true, cs => do
      let (draft, cs) ← readPart depth draft part cs
      readParts depth false draft parts cs

/-- A block that may nest `depth` levels. -/
def readBlock (depth : Nat) : Reader BlockTree := fun cs =>
  let close (result : Except Fault (Draft × List Char)) : Except Fault (BlockTree × List Char) := do
    let (draft, cs) ← result
    match draft.finish? with
    | none => throw .mistyped
    | some tree => return (tree, cs)
  match Json.skipBlanks cs, depth with
  | [], _ => .error .truncated
  | '\x7b' :: _, 0 | '[' :: _, 0 => .error .malformed
  | '\x7b' :: cs, depth + 1 => close (readObject (readEntry depth) {} cs)
  | '[' :: cs, depth + 1 => close (readParts depth true {} Part.all cs)
  | cs, _ => .error (unexpected cs)

/-- Blocks up to the closing bracket, at most `fuel` of them. -/
def readBlocks (depth : Nat) : Nat → Reader (List BlockTree)
  | 0, _ => .error .malformed
  | fuel + 1, cs => do
    let (tree, cs) ← readBlock depth cs
    match Json.skipBlanks cs with
    | [] => throw .truncated
    | ']' :: cs => return ([tree], cs)
    | ',' :: cs =>
      let (rest, cs) ← readBlocks depth fuel cs
      return (tree :: rest, cs)
    | _ => throw .malformed

/-- The list of blocks that opens a text. -/
def readList : Reader (List BlockTree) := fun cs =>
  match Json.skipBlanks cs with
  | [] => .error .truncated
  | '[' :: cs =>
    match Json.skipBlanks cs with
    | ']' :: cs => .ok ([], cs)
    | cs => readBlocks (Json.depthLimit - 1) (cs.length + 1) cs
  | cs => .error (unexpected cs)

/-- The trees that a text stands for. -/
def read (source : String) : Except Fault (List BlockTree) := do
  let (trees, rest) ← readList source.toList
  Json.readEnd rest
  return trees

end BlockTree

end SolanaBlocks
