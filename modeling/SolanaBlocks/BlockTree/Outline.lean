import SolanaBlocks.BlockTree.Basic

/-!
# Outlines

An outline shows block trees to a human reader: one line for each fact, indented by depth.
-/

namespace SolanaBlocks

/-- A line of an outline at some depth. -/
def outlineLine (depth : Nat) (text : String) : String :=
  String.ofList (List.replicate (2 * depth) ' ') ++ text ++ "\n"

namespace BlockTree

mutual

/-- The lines about a tree. -/
def outlineTree (depth : Nat) : BlockTree → String
  | .mk id type fields inputs next revisited =>
    outlineLine depth ("Type: " ++ type) ++
      if revisited then outlineLine depth ("(already shown: " ++ id.text ++ ")")
      else
        (if fields.isEmpty then "" else
          outlineLine depth "Fields:" ++ String.join (fields.toList.map fun (name, value) =>
            outlineLine (depth + 1) ("- " ++ name ++ ": " ++ value.display))) ++
        (if inputs.isEmpty then ""
          else outlineLine depth "Inputs:" ++ outlineInputs depth inputs) ++
        match next with
        | none => ""
        | some next => outlineLine depth ("Next Block: " ++ next.text)

/-- The lines about what the slots of a block hold. -/
def outlineInputs (depth : Nat) : List TreeInput → String
  | [] => ""
  | .empty slot :: rest =>
    outlineLine (depth + 1) ("- " ++ slot ++ ": (empty)") ++ outlineInputs depth rest
  | .single slot child :: rest =>
    outlineLine (depth + 1) ("- " ++ slot ++ ":") ++ outlineTree (depth + 2) child ++
      outlineInputs depth rest
  | .chain slot members :: rest =>
    outlineLine (depth + 1) (s!"- {slot}: [{members.length} blocks]") ++
      outlineMembers depth 1 members ++ outlineInputs depth rest

/-- The lines about the members of a chain, numbered from `number`. -/
def outlineMembers (depth number : Nat) : List BlockTree → String
  | [] => ""
  | member :: rest =>
    outlineLine (depth + 2) (s!"Block {number}:") ++ outlineTree (depth + 3) member ++
      outlineMembers depth (number + 1) rest

end

/-- The lines about top-level trees, numbered from `number`. -/
def outlineRoots (number : Nat) : List BlockTree → String
  | [] => ""
  | tree :: rest =>
    outlineLine 0 (s!"Top-level Block {number}:") ++ outlineTree 1 tree ++ "\n" ++
      outlineRoots (number + 1) rest

/-- The outline of a list of trees. -/
def outline (trees : List BlockTree) : String :=
  "Blockly Workspace Structure:\n\n" ++ outlineRoots 1 trees

end BlockTree

end SolanaBlocks
