/-!
# Path names

A path is text: `/`-separated components, an optional leading `/` for the root, `.` for the
current directory and `..` for the parent. Repeated separators and `.` components after the
first say nothing and are skipped. `fileName?` is the last component when it names
something, `parent?` the text before it (the empty text for a single relative component),
and `components` the sequence paths are compared by.
-/

namespace PluginLens.PathText

/-- A component of a path. -/
inductive Component where
  | root
  | current
  | up
  | normal (name : String)
  deriving DecidableEq, Inhabited, Repr

/-- The components of a path: the root, a leading `.`, then the names between separators,
with empty and `.` components skipped. -/
def components (p : String) : List Component :=
  let parts := p.splitOn "/"
  let rooted := p.startsWith "/"
  let leadingDot := !rooted && (p == "." || p.startsWith "./")
  let body := (parts.filter fun s => s != "" && s != ".").map fun s =>
    if s == ".." then Component.up else .normal s
  (if rooted then [Component.root] else []) ++ (if leadingDot then [Component.current] else [])
    ++ body

/-- The path without separators and `.` components at its end (a path that is just `/` or
just `.` keeps them). -/
def trimEnd (p : String) : String :=
  go (p.length + 1) p.toList.reverse
where
  go : Nat → List Char → String
    | 0, cs => String.ofList cs.reverse
    | n + 1, cs =>
      match cs with
      | '/' :: rest@(_ :: _) => go n rest
      | '.' :: '/' :: rest => go n ('/' :: rest)
      | _ => String.ofList cs.reverse

/-- The last component of a path when it is a name. -/
def fileName? (p : String) : Option String :=
  match (components p).getLast? with
  | some (.normal n) => some n
  | _ => none

/-- The path without its last component: `none` for the root and the empty path. -/
def parent? (p : String) : Option String :=
  match (components p).getLast? with
  | none | some .root => none
  | some _ =>
    let t := trimEnd p
    let cs := t.toList
    match (cs.reverse.dropWhile (· != '/')) with
    | [] => some ""
    | [_] => some "/"
    | _ :: before => some (trimEnd (String.ofList before.reverse))

end PluginLens.PathText
