import BpfExporter.Host
import BpfExporter.Text.Quoted

/-! Targets of requests. A target is a reference to a resource, of which only the path counts here: it has
no segment that is a dot or two, and every character in place of its hexadecimal digits. A target that
names no host is one of this service, and its path has one slash in front. -/
namespace BpfExporter.RequestTarget

/-- Why a target refers to nothing. -/
inductive Fault
  | tooLong
  /-- The first ASCII character that cannot be printed, and its index. -/
  | unprintable (c : Char) (index : Nat)
  | host (e : Host.Fault) (text : String)
  | port (text : String)
  /-- Without a scheme and a host, a path begins with two slashes or a colon. -/
  | start (text : String)
  /-- A host is named after a scheme that is not known. -/
  | scheme (name : String)
  /-- A host is named in ASCII, and its name stands for no other. -/
  | sentName (e : HostName.Fault)
deriving DecidableEq, Repr

def Fault.message : Fault → String
  | .tooLong => "URL too long"
  | .unprintable c index =>
    s!"Invalid non-printable ASCII character in URL, {Text.quoted c.toString} at position {index}."
  | .host .address4 text => s!"Invalid IPv4 address: {Text.quoted text}"
  | .host .address6 text => s!"Invalid IPv6 address: {Text.quoted text}"
  | .host .name text => s!"Invalid IDNA hostname: {Text.quoted text}"
  | .port text => s!"Invalid port: {Text.quoted text}"
  | .start text => s!"Relative URLs cannot have a path starting with {Text.quoted text}"
  | .scheme name => Text.quoted name
  | .sentName e => e.message

def maxLength : Nat := 65536

def isUnprintable (c : Char) : Bool := decide (c.toNat < 32) || c.toNat == 127

def isSchemeChar (c : Char) : Bool := c.isAlphanum || c == '+' || c == '-' || c == '.'

/-- A scheme, in small letters and without the colon after it, and what follows; it may be empty. -/
def splitScheme (cs : List Char) : List Char × List Char :=
  match cs.takeWhile isSchemeChar, cs.dropWhile isSchemeChar with
  | [], ':' :: rest => ([], rest)
  | c :: name, ':' :: rest => if c.isAlpha then ((c :: name).map Char.toLower, rest) else ([], cs)
  | _, _ => ([], cs)

def splitAuthority : List Char → List Char × List Char
  | '/' :: '/' :: rest => (rest.takeWhile (· != '/'), rest.dropWhile (· != '/'))
  | cs => ([], cs)

def splitLast (mark : Char) (cs : List Char) : Option (List Char) × List Char :=
  let after := (cs.reverse.takeWhile (· != mark)).reverse
  if cs.contains mark then (some (cs.take (cs.length - after.length - 1)), after) else (none, cs)

/-- An authority: the name of a user, which the last `@` ends, a host, which may have colons between
brackets, and its port. What is missing is empty. -/
structure Authority where
  user : List Char
  host : List Char
  port : List Char

def Authority.ofText (cs : List Char) : Authority :=
  let (user, cs) := splitLast '@' cs
  let (host, rest) := match cs.head?, splitLast ']' cs with
    | some '[', (some inner, rest) => (inner ++ [']'], rest)
    | _, _ => (cs.takeWhile (· != ':'), cs.dropWhile (· != ':'))
  ⟨user.getD [], host, match rest with
    | ':' :: port => port
    | port => port⟩

def Authority.isEmpty (a : Authority) : Bool := a.user.isEmpty && a.host.isEmpty && a.port.isEmpty

def Authority.portNumber? (a : Authority) : Option Int := Numeral.readLenient? (String.ofList a.port)

def Authority.check (a : Authority) : Except Fault Unit :=
  match Host.check a.host with
  | .error e => .error (.host e (String.ofList a.host))
  | .ok () =>
    if !a.port.isEmpty && a.portNumber?.isNone then .error (.port (String.ofList a.port)) else .ok ()

/-- The segments in order without `.`, and without `..` and the segment before it; `before` holds those
that are settled, in reverse. Nothing stands above the first segment. -/
def resolve (before : List (List Char)) : List (List Char) → List (List Char)
  | [] => before.reverse
  | ['.'] :: ss => resolve before ss
  | ['.', '.'] :: ss => resolve (if before.length ≤ 1 then before else before.tail) ss
  | s :: ss => resolve (s :: before) ss

def resolvePath (path : List Char) : List Char := ['/'].intercalate (resolve [] (path.splitOn '/'))

def decode : List Char → List Char
  | '%' :: a :: b :: cs =>
    if Numeral.isHexDigit a && Numeral.isHexDigit b then
      Char.ofNat (16 * Numeral.hexDigitValue a + Numeral.hexDigitValue b) :: decode cs
    else '%' :: decode (a :: b :: cs)
  | c :: cs => c :: decode cs
  | [] => []

def schemes : List String := ["http", "https", "ws", "wss"]

/-- A host named after a scheme, which has to be known first. A name that was sent in ASCII is read. -/
def checkNamed (scheme host : List Char) : Except Fault Unit :=
  if !schemes.contains (String.ofList scheme) then .error (.scheme (String.ofList scheme))
  else if !HostName.isAscii host then .ok ()
  else (Host.checkSent host).mapError .sentName

/-- The path of a target that names no host. Where a scheme or a user stands before it, its dots are
resolved once more, before the slashes in front become one. -/
def relativePath (hasPart : Bool) (path : List Char) : Except Fault (List Char) :=
  if hasPart then .ok (resolvePath ('/' :: (resolvePath path).dropWhile (· == '/')))
  else match path with
    | '/' :: '/' :: _ => .error (.start "//")
    | ':' :: _ => .error (.start ":")
    | _ => .ok (resolvePath ('/' :: path.dropWhile (· == '/')))

def encodedPath (cs : List Char) : Except Fault (List Char) :=
  let (scheme, rest) := splitScheme (cs.takeWhile fun c => c != '?' && c != '#')
  let (authority, path) := splitAuthority rest
  let authority := Authority.ofText authority
  match authority.check with
  | .error e => .error e
  | .ok () =>
    if scheme.isEmpty || authority.host.isEmpty then
      relativePath (!scheme.isEmpty || !authority.isEmpty) path
    else (checkNamed scheme authority.host).map fun _ => resolvePath path

/-- The path of a target. The client and the server each put in its characters. -/
def path (target : String) : Except Fault (List Char) :=
  if maxLength < target.length then .error .tooLong
  else match target.toList.find? isUnprintable with
  | some c => .error (.unprintable c (target.toList.idxOf c))
  | none => (encodedPath target.toList).map fun cs => decode (decode cs)

end BpfExporter.RequestTarget
