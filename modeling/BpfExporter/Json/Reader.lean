import BpfExporter.Json.Token
import BpfExporter.Assoc

/-! Reading of JSON text. The reader keeps the lists and objects that are open on a stack and takes one
token after another, so it answers for every text; the first fault in reading order is reported. -/
namespace BpfExporter.Json

/-- A list or an object that is not closed yet, its contents in reverse. -/
inductive Level
  | array (items : List Json)
  | object (fields : List (String × Json))
  /-- An object that waits for the value of a name. -/
  | entry (fields : List (String × Json)) (name : String)

/-- What may come next. -/
inductive Awaiting
  | value
  | valueOrClose
  | name
  | nameOrClose
  | colon
  | separator
  | finished (v : Json)

structure Reader where
  levels : List Level
  next : Awaiting

namespace Reader

def start : Reader := ⟨[], .value⟩

def expected (what : String) (pos : Nat) : Except ReadError α := .error (.malformed what pos)

def accept (levels : List Level) (v : Json) : Reader :=
  match levels with
  | [] => ⟨[], .finished v⟩
  | .array items :: ls => ⟨.array (v :: items) :: ls, .separator⟩
  | .object fields :: ls => ⟨.object fields :: ls, .separator⟩
  | .entry fields name :: ls => ⟨.object ((name, v) :: fields) :: ls, .separator⟩

/-- Opens a list or an object, unless as many as may be are open. -/
def enter (limits : Limits) (levels : List Level) (fault : TooDeep) (r : Reader) : Except ReadError Reader :=
  if limits.depth.any (· ≤ levels.length) then .error (.tooDeep fault) else .ok r

/-- A token where a value is expected; `close` allows the end of an empty list. -/
def takeValue (limits : Limits) (levels : List Level) (close : Bool) (pos : Nat) :
    Token → Except ReadError Reader
  | .value v => .ok (accept levels v)
  | .text s => .ok (accept levels (.str s))
  | .openArray => enter limits levels .array ⟨.array [] :: levels, .valueOrClose⟩
  | .openObject => enter limits levels .object ⟨.object [] :: levels, .nameOrClose⟩
  | .broken _ e => .error e
  | .closeArray =>
    match close, levels with
    | true, .array items :: ls => .ok (accept ls (.arr items.reverse))
    | _, _ => expected "Expecting value" pos
  | _ => expected "Expecting value" pos

def closeObject (fields : List (String × Json)) : Json := .obj (Assoc.ofPairs fields.reverse)

/-- A token where a name is expected; `close` allows the end of an empty object. -/
def takeName (levels : List Level) (close : Bool) (pos : Nat) (t : Token) : Except ReadError Reader :=
  match t, levels with
  | .text s, .object fields :: ls => .ok ⟨.entry fields s :: ls, .colon⟩
  | .broken true e, _ => .error e
  | .closeObject, .object fields :: ls =>
    if close then .ok (accept ls (closeObject fields))
    else expected "Expecting property name enclosed in double quotes" pos
  | _, _ => expected "Expecting property name enclosed in double quotes" pos

def takeSeparator (levels : List Level) (pos : Nat) (t : Token) : Except ReadError Reader :=
  match t, levels with
  | .comma, .array items :: ls => .ok ⟨.array items :: ls, .value⟩
  | .comma, .object fields :: ls => .ok ⟨.object fields :: ls, .name⟩
  | .closeArray, .array items :: ls => .ok (accept ls (.arr items.reverse))
  | .closeObject, .object fields :: ls => .ok (accept ls (closeObject fields))
  | _, _ => expected "Expecting ',' delimiter" pos

def step (limits : Limits) (r : Reader) (pos : Nat) (t : Token) : Except ReadError Reader :=
  match r.next with
  | .value => takeValue limits r.levels false pos t
  | .valueOrClose => takeValue limits r.levels true pos t
  | .name => takeName r.levels false pos t
  | .nameOrClose => takeName r.levels true pos t
  | .colon => match t with
    | .colon => .ok ⟨r.levels, .value⟩
    | _ => expected "Expecting ':' delimiter" pos
  | .separator => takeSeparator r.levels pos t
  | .finished _ => expected "Extra data" pos

/-- The value, when the text has come to its end at `pos`. -/
def finish (r : Reader) (pos : Nat) : Except ReadError Json :=
  match r.next with
  | .finished v => .ok v
  | .value | .valueOrClose => expected "Expecting value" pos
  | .name | .nameOrClose => expected "Expecting property name enclosed in double quotes" pos
  | .colon => expected "Expecting ':' delimiter" pos
  | .separator => expected "Expecting ',' delimiter" pos

def run (limits : Limits) (stop : Nat) (r : Reader) : List (Nat × Token) → Except ReadError Json
  | [] => r.finish stop
  | (pos, t) :: ts => match r.step limits pos t with
    | .ok r' => run limits stop r' ts
    | .error e => .error e

end Reader

def read (limits : Limits) (text : String) : Except ReadError Json :=
  let cs := text.toList
  match cs with
  | '\ufeff' :: _ => .error (.malformed "Unexpected UTF-8 BOM (decode using utf-8-sig)" 0)
  | _ => Reader.start.run limits cs.length (tokens limits 0 cs)

/-- The fault with its line, its column and its position in the text, all but the last from one. -/
def ReadError.message (text : String) : ReadError → String
  | .malformed what pos =>
    let before := text.toList.take pos
    let line := before.count '\n' + 1
    let column := (before.reverse.takeWhile (· != '\n')).length + 1
    s!"{what}: line {line} column {column} (char {pos})"
  | .tooLong e => e.message
  | .tooDeep e => e.message

end BpfExporter.Json
