/-! Paths in the normal form of POSIX: no empty components and no `.` among them, at most two slashes in
front. -/
namespace BpfExporter.PosixPath

def components (cs : List Char) : List (List Char) :=
  (cs.splitOn '/').filter fun c => !c.isEmpty && c != ['.']

/-- The slashes in front: two stay two, one or more than two are one. -/
def root (cs : List Char) : List Char :=
  match (cs.takeWhile (· == '/')).length with
  | 0 => []
  | 2 => ['/', '/']
  | _ => ['/']

def normalize (s : String) : String :=
  let cs := root s.toList ++ ['/'].intercalate (components s.toList)
  if cs.isEmpty then "." else String.ofList cs

end BpfExporter.PosixPath
