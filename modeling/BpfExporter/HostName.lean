import BpfExporter.HostName.Label
import BpfExporter.Text.Punycode

/-! International names of hosts: labels between dots. A name is sent in ASCII, where each label with other
characters has a mark in front and stands in digits; it must not be too long. -/
namespace BpfExporter.HostName

def isDot (c : Char) : Bool := ['.', '\u3002', '\uff0e', '\uff61'].contains c

def isAscii (cs : List Char) : Bool := cs.all fun c => decide (c.toNat < 128)

def sentMark : List Char := "xn--".toList

def received (label : List Char) : Except Fault (List Char) :=
  let label := label.map Char.toLower
  let checked := fun (label : List Char) => (checkLabel label).map fun _ => label
  if sentMark.isPrefixOf label then
    match label.drop sentMark.length with
    | [] => .error .noContent
    | rest =>
      if rest.getLast? = some '-' then .error .unfinished
      else match Text.Punycode.decode? rest with
        | some label => checked label
        | none => .error .unreadable
  else checked label

/-- A label as it is sent; one in ASCII stays. -/
def sent (label : List Char) : Except Fault (List Char) :=
  if isAscii label then (received label).map fun _ => label
  else (checkLabel label).map fun _ => sentMark ++ Text.Punycode.encode label

/-- The labels of a name; a dot at its end does not count. -/
def labels (cs : List Char) : List (List Char) :=
  let parts := cs.splitOnP isDot
  if parts.getLast? = some [] then parts.dropLast else parts

def maxLength : Nat := 254

def receive (cs : List Char) : Except Fault (List (List Char)) :=
  if maxLength < cs.length then .error .longName else (labels cs).mapM received

def send (cs : List Char) : Except Fault (List (List Char)) :=
  if maxLength < cs.length then .error .longName
  else match (labels cs).mapM sent with
    | .error e => .error e
    | .ok ls =>
      if ls.any (63 < ·.length) then .error .longLabel
      else if maxLength < ls.flatten.length + ls.length then .error .longName
      else .ok ls

end BpfExporter.HostName
