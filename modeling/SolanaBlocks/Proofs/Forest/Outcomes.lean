import SolanaBlocks.Workspace.Edit

/-!
# What an edit comes to

An edit is carried out by one operation. If the operation refuses, the workspace stays as it was,
apart from a number that may have been drawn for an id; otherwise the edit comes to what the
operation gives. Whatever a run keeps is proved one operation at a time.
-/

namespace SolanaBlocks

namespace Workspace

/-- The workspaces that an edit may come to, by the operation behind it. -/
inductive Outcome (w : Workspace) : Edit → Workspace → Prop
  | refused (edit : Edit) : Outcome w edit w
  | drawn (type : String) (fields : List (String × FieldValue)) :
    Outcome w (.create none type fields) w.drawNumber.2
  | numbered {type : String} {fields : List (String × FieldValue)} {w' : Workspace}
    (ok : w.drawNumber.2.createAs (numberedId w.drawNumber.1) type fields = .ok w') :
    Outcome w (.create none type fields) w'
  | created {id : BlockId} {type : String} {fields : List (String × FieldValue)} {w' : Workspace}
    (ok : w.createAs id type fields = .ok w') : Outcome w (.create (some id) type fields) w'
  | fieldSet {id : BlockId} {name : String} {value : FieldValue} {w' : Workspace}
    (ok : w.setField id name value = .ok w') : Outcome w (.setField id name value) w'
  | bound {owner : BlockId} {slot : String} {input : SlotInput} {w' : Workspace}
    (ok : w.bind owner slot input = .ok w') : Outcome w (.bind owner slot input) w'
  | unbound {owner : BlockId} {slot : String} {ids : List BlockId} {w' : Workspace}
    (ok : w.unbind owner slot = .ok (w', ids)) : Outcome w (.unbind owner slot) w'
  | linked {id : BlockId} {next : Option BlockId} {w' : Workspace}
    (ok : w.setNext id next = .ok w') : Outcome w (.setNext id next) w'
  | removed {id : BlockId} {ids : List BlockId} {w' : Workspace}
    (ok : w.remove id = .ok (w', ids)) : Outcome w (.remove id) w'
  | rootMoved {id : BlockId} {index : Nat} {w' : Workspace}
    (ok : w.moveRoot id index = .ok w') : Outcome w (.moveRoot id index) w'

theorem outcome_apply (w : Workspace) (edit : Edit) : Outcome w edit (w.apply edit).1 := by
  cases edit with
  | create id? type fields =>
      cases id? with
      | none =>
          simp only [apply]
          cases made : w.drawNumber.2.createAs (numberedId w.drawNumber.1) type fields with
          | error e => exact .drawn type fields
          | ok w' => exact .numbered made
      | some id =>
          simp only [apply]
          cases made : w.createAs id type fields with
          | error e => exact .refused _
          | ok w' => exact .created made
  | setField id name value =>
      simp only [apply]
      cases set : w.setField id name value with
      | error e => exact .refused _
      | ok w' => exact .fieldSet set
  | bind owner slot input =>
      simp only [apply]
      cases filled : w.bind owner slot input with
      | error e => exact .refused _
      | ok w' => exact .bound filled
  | unbind owner slot =>
      simp only [apply]
      cases emptied : w.unbind owner slot with
      | error e => exact .refused _
      | ok result => exact .unbound emptied
  | setNext id next =>
      simp only [apply]
      cases set : w.setNext id next with
      | error e => exact .refused _
      | ok w' => exact .linked set
  | remove id =>
      simp only [apply]
      cases purged : w.remove id with
      | error e => exact .refused _
      | ok result => exact .removed purged
  | moveRoot id index =>
      simp only [apply]
      cases moved : w.moveRoot id index with
      | error e => exact .refused _
      | ok w' => exact .rootMoved moved

end Workspace

end SolanaBlocks
