import BpfExporter.HostName
import BpfExporter.Numeral

/-! Hosts of targets. A host is an address of four decimal parts, an address of eight hexadecimal groups in
brackets, or a name. Names in ASCII are taken as they are. -/
namespace BpfExporter.Host

/-- What a text is taken for but is not. -/
inductive Fault
  | address4
  | address6
  | name
deriving DecidableEq, Repr

def isOctet (cs : List Char) : Bool :=
  !cs.isEmpty && cs.length ≤ 3 && cs.all Char.isDigit && (cs.length == 1 || cs.head? != some '0') &&
    Numeral.decimalValue cs ≤ 255

def isAddress4 (cs : List Char) : Bool :=
  let parts := cs.splitOn '.'
  parts.length == 4 && parts.all isOctet

/-- The text is taken for an address of four parts. -/
def isLikeAddress4 (cs : List Char) : Bool :=
  let parts := cs.splitOn '.'
  parts.length == 4 && parts.all fun ds => !ds.isEmpty && ds.all Char.isDigit

def isGroup (cs : List Char) : Bool := !cs.isEmpty && cs.length ≤ 4 && cs.all Numeral.isHexDigit

/-- The number of groups on one side of a gap; at an end of the address the side may be empty. -/
def sideLength? (groups : List (List Char)) : Option Nat :=
  if groups = [[]] then some 0 else if groups.all isGroup then some groups.length else none

/-- The parts between colons are eight groups, or fewer where a part in the middle is empty and stands for
those that are missing. -/
def areGroups : List (List Char) → Bool
  | [] => false
  | first :: parts => match parts.dropWhile (!·.isEmpty) with
    | [] => parts.length == 7 && (first :: parts).all isGroup
    | _ :: after =>
      !after.isEmpty &&
        match sideLength? (first :: parts.takeWhile (!·.isEmpty)), sideLength? after with
        | some m, some n => m + n ≤ 7
        | _, _ => false

/-- The last two groups may be written as an address of four parts; a zone may follow a percent sign. -/
def isAddress6 (cs : List Char) : Bool :=
  let (address, zone) := (cs.takeWhile (· != '%'), cs.dropWhile (· != '%'))
  let parts := address.splitOn ':'
  let last := parts.getLastD []
  let groups := if last.contains '.' then parts.dropLast ++ [['0'], ['0']] else parts
  zone.length != 1 && !(zone.drop 1).contains '%' && 3 ≤ parts.length &&
    (!last.contains '.' || isAddress4 last) && areGroups groups

def bracketed? (cs : List Char) : Option (List Char) :=
  if 2 ≤ cs.length && cs.head? = some '[' && cs.getLast? = some ']' then some cs.tail.dropLast else none

def isName (cs : List Char) : Bool :=
  HostName.isAscii cs || (HostName.send (cs.flatMap Text.lowerChar)).isOk

def check (cs : List Char) : Except Fault Unit :=
  if isLikeAddress4 cs then (if isAddress4 cs then .ok () else .error .address4)
  else match bracketed? cs with
    | some inner => if isAddress6 inner then .ok () else .error .address6
    | none => if isName cs then .ok () else .error .name

/-- A name in ASCII as it is sent: in small letters, and with hexadecimal digits for what is not safe. -/
def sent (cs : List Char) : List Char :=
  cs.flatMap fun c => if " <>[]^".contains c then '%' :: Text.hexDigits 2 c.toNat else [c.toLower]

def checkSent (cs : List Char) : Except HostName.Fault Unit :=
  if HostName.sentMark.isPrefixOf (sent cs) then (HostName.receive (sent cs)).map fun _ => ()
  else .ok ()

end BpfExporter.Host
