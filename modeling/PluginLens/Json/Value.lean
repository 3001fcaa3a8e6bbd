/-!
# JSON values

The reports, doclets and configuration of this library leave it as JSON, and the doc
command hands JSON back. A value keeps its object members as a list of pairs in the order
they were written: report objects list their fields in declaration order, while objects
built as maps (doclets, parsed program output) are written in key order by `Json.sorted`.

Numbers are integers, except for what a doc command prints, which may hold fractions; those
keep the double they denote.
-/

namespace PluginLens

/-- A JSON number: an integer, or a finite double that does not denote one. -/
inductive JsonNumber where
  | int (i : Int)
  | float (f : Float)
  deriving Inhabited

/-- A JSON value; object members in writing order. -/
inductive Json where
  | null
  | bool (b : Bool)
  | num (n : JsonNumber)
  | str (s : String)
  | arr (items : List Json)
  | obj (members : List (String × Json))
  deriving Inhabited

namespace Json

def nat (n : Nat) : Json := .num (.int n)

def opt {α : Type} (f : α → Json) : Option α → Json
  | some a => f a
  | none => .null

def strs (xs : List String) : Json := .arr (xs.map .str)

/-- Inserts a member keeping keys in increasing order; an existing key is replaced. -/
def insertSorted (k : String) (v : Json) : List (String × Json) → List (String × Json)
  | [] => [(k, v)]
  | (k', v') :: rest =>
    if k == k' then (k, v) :: rest
    else if k < k' then (k, v) :: (k', v') :: rest
    else (k', v') :: insertSorted k v rest

def sorted (members : List (String × Json)) : Json :=
  .obj (members.foldl (fun acc (k, v) => insertSorted k v acc) [])

/-- The member of an object under `k`. -/
def get? (j : Json) (k : String) : Option Json :=
  match j with
  | .obj ms => ms.lookup k
  | _ => none

def getStr? : Json → Option String
  | .str s => some s
  | _ => none

end Json

end PluginLens
