/-!
# Paths

Paths of files as texts: parts between slashes. Empty parts and, behind other parts, single dots do
not count; nothing is known of what two dots lead to.

* `Path.join` — a path below another one;
* `Path.parent?` — the directory a path lies in.
-/

namespace ModContracts

namespace Path

/-- A path below another one. A path from the root stands for itself. -/
def join (base path : String) : String :=
  if path.startsWith "/" || base.isEmpty then path
  else if base.endsWith "/" then base ++ path
  else base ++ "/" ++ path

/-- The parts of a path between slashes. -/
def parts (path : String) : List String :=
  path.splitOn "/"

/-- Drops what does not count at the end of a path: empty parts, and dots behind other parts. -/
def dropIdle : List String → List String
  | last :: rest =>
    if last = "" || (last = "." && ! rest.isEmpty) then dropIdle rest else last :: rest
  | [] => []

/-- The path of the directory a path lies in; the root lies in none. -/
def parent? (path : String) : Option String :=
  match dropIdle (parts path).reverse with
  | [] => none
  | _ :: rest =>
    let above := "/".intercalate (dropIdle rest).reverse
    some (if above.isEmpty && path.startsWith "/" then "/" else above)

end Path

end ModContracts
