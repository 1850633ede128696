import BpfExporter.HostName.Context
import BpfExporter.HostName.Fault
import BpfExporter.HostName.Joining
import BpfExporter.Text.Normal

/-! Labels of international names of hosts: letters, digits and hyphens in normal form, and in one
direction. -/
namespace BpfExporter.HostName

/-- The characters of a label after `before`, which come in reverse. -/
def checkFrom (label before : List Char) : List Char → Except Fault Unit
  | [] => .ok ()
  | c :: cs =>
    let place : Place := ⟨label, before.length, c⟩
    if isLetter c then checkFrom label (c :: before) cs
    else if c = joiner || c = nonJoiner then
      if isJoinerAllowed before c cs then checkFrom label (c :: before) cs else .error (.joiner place)
    else match contextRule? label before.head? c cs.head? with
      | some true => checkFrom label (c :: before) cs
      | some false => .error (.context place)
      | none => .error (.character place)

def checkLabel (label : List Char) : Except Fault Unit :=
  if label.isEmpty then .error .emptyLabel
  else if !Text.isNormal label then .error .notNormal
  else if (label.drop 2).take 2 = ['-', '-'] then .error .hyphens
  else if label.head? = some '-' || label.getLast? = some '-' then .error .outerHyphen
  else if label.head?.any Text.isMark then .error .firstMark
  else match checkFrom label [] label with
    | .error e => .error e
    | .ok () => (Direction.check label).mapError (Fault.direction label)

end BpfExporter.HostName
