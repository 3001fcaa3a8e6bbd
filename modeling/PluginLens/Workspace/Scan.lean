import PluginLens.Workspace.Basic
import PluginLens.Settings.Basic
import PluginLens.Text.PathText

/-!
# Finding plugin files

A scan of a root path finds plugin files by extension. A root that is a file is taken when
its extension is configured; a root that names nothing gives nothing. Below a directory root
every file is taken whose extension is configured and whose path from the root passes through
no skipped directory (`node_modules`, `.git`, and the configured ones); a root directory with
such a name gives nothing. Extensions are compared exactly, after the configured ones lose
their leading dots.

Found paths are written as the root joined with the path below it, sorted component by
component, without repeats.
-/

namespace PluginLens

def alwaysSkipped : List String := ["node_modules", ".git"]

/-- The extension of a file name: the text after its last dot, unless the name is `..`, has
no dot, or has only a leading one. -/
def extension? (name : String) : Option String :=
  if name == ".." then none
  else
    let cs := name.toList
    match cs.reverse.findIdx? (· == '.') with
    | none => none
    | some k =>
      let dot := cs.length - 1 - k
      if dot == 0 then none else some (String.ofList (cs.drop (dot + 1)))

namespace ScanSettings

def skipsName (scan : ScanSettings) (name : String) : Bool :=
  alwaysSkipped.contains name || scan.skipDirs.contains name

/-- Whether a path's last component is a directory name never entered. -/
def skipsDir (scan : ScanSettings) (path : String) : Bool :=
  match PathText.fileName? path with
  | some name => scan.skipsName name
  | none => false

/-- Whether a path's extension is one of the configured ones. -/
def takesFile (scan : ScanSettings) (path : String) : Bool :=
  match (PathText.fileName? path).bind extension? with
  | some ext => scan.extensions.any fun e => String.ofList (e.toList.dropWhile (· == '.')) == ext
  | none => false

end ScanSettings

/-- A path joined with components below it: a separator is added unless the path is empty or
already ends with one. -/
def joinPath (root : String) (below : List String) : String :=
  let rest := "/".intercalate below
  if root.isEmpty then rest
  else if root.endsWith "/" then root ++ rest
  else root ++ "/" ++ rest

/-- Component lists in order: component by component, a shorter list first when it is a
prefix of the other. -/
def componentsBefore : List String → List String → Bool
  | [], [] => false
  | [], _ :: _ => true
  | _ :: _, [] => false
  | a :: as, b :: bs => a < b || (a == b && componentsBefore as bs)

def componentsNotAfter (as bs : List String) : Bool := !componentsBefore bs as

/-- Removes neighbouring repeats. -/
def dedupAdjacent {α : Type} [BEq α] : List α → List α
  | [] => []
  | [a] => [a]
  | a :: b :: rest => if a == b then dedupAdjacent (b :: rest) else a :: dedupAdjacent (b :: rest)

namespace Workspace

def height (ws : Workspace) : Nat :=
  (ws.files.map (·.1) ++ ws.dirs).foldr (fun p m => max p.length m) 0

theorem length_le_foldr_max {p : List String} :
    ∀ {ps : List (List String)}, p ∈ ps → p.length ≤ ps.foldr (fun q m => max q.length m) 0
  | _ :: _, .head _ => Nat.le_max_left _ _
  | _ :: _, .tail _ h => Nat.le_trans (length_le_foldr_max h) (Nat.le_max_right _ _)

theorem length_le_height_of_isDirAt {ws : Workspace} {cs : List String}
    (h : ws.isDirAt cs = true) (hne : cs ≠ []) : cs.length ≤ ws.height := by
  simp only [isDirAt, Bool.or_eq_true, List.isEmpty_iff, List.contains_iff_mem, List.any_eq_true,
    Bool.and_eq_true, decide_eq_true_eq] at h
  rcases h with ((hnil | hdir) | ⟨d, hd, hlt, -⟩) | ⟨⟨f, b⟩, hf, hlt, -⟩
  · exact absurd hnil hne
  · exact length_le_foldr_max (List.mem_append_right _ hdir)
  · exact Nat.le_of_lt (Nat.lt_of_lt_of_le hlt (length_le_foldr_max (List.mem_append_right _ hd)))
  · exact Nat.le_of_lt (Nat.lt_of_lt_of_le hlt
      (length_le_foldr_max (List.mem_append_left _ (List.mem_map_of_mem (f := (·.1)) hf))))

/-- The plugin files a scan of `root` finds below the directory at `base ++ below`, as paths
relative to the directory `base` the scan started in: each entry in turn, scanning a directory
in turn unless its name is skipped, and taking any other entry whose extension is configured. -/
def pluginsBelow (ws : Workspace) (root : String) (scan : ScanSettings)
    (base below : List String) : List (List String) :=
  (ws.children (base ++ below)).flatMap fun name =>
    if _hdir : ws.isDirAt (base ++ (below ++ [name])) then
      if scan.skipsName name then [] else ws.pluginsBelow root scan base (below ++ [name])
    else if scan.takesFile (joinPath root (below ++ [name])) then [below ++ [name]] else []
termination_by ws.height - (base ++ below).length
decreasing_by
  have := length_le_height_of_isDirAt _hdir (by simp)
  simp only [List.length_append, List.length_singleton] at this ⊢
  omega

/-- The plugin files a scan of `root` finds. -/
def collectPlugins (ws : Workspace) (root : String) (scan : ScanSettings) : List String :=
  match ws.entry root with
  | .missing | .blocked => []
  | .file _ => if scan.takesFile root then [root] else []
  | .directory =>
    if scan.skipsDir root then []
    else
      let found := ws.pluginsBelow root scan ((resolve root).getD []) []
      (dedupAdjacent (found.mergeSort componentsNotAfter)).map (joinPath root)

end Workspace

end PluginLens
