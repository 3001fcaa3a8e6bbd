import PluginLens.Syntax.Statement

/-!
# One reading of a text

`Reading.run` reads a whole program under a set of repairs and answers either the tree with
the comments met on the way, or the failure: where reading stopped, the token it could not
take and the frames still open.
-/

namespace PluginLens.Syntax

open PluginLens.Text

/-- A finished reading: the program node and the byte ranges of the comments. -/
structure Reading where
  root : Node
  comments : List (Nat × Nat)
  deriving Inhabited

/-- The program node from the frames left after reading: the outermost frame's children,
spanning the whole text. -/
def programNode (src : Source) (frames : List Frame) : Node :=
  match frames.getLast? with
  | some f => .mk "program" true false none 0 src.byteSize f.children.toList
  | none => .mk "program" true false none 0 src.byteSize []

/-- Reads `src` under `repairs`; answers the outcome with the trace of the last assumed
token. -/
def Reading.runTraced (src : Source) (repairs : Repairs) :
    Except Failure Reading × Option AssumedTrace :=
  match (programReader.run { src, repairs }).run {} with
  | .ok ((), st) =>
    (.ok { root := programNode src st.frames, comments := st.comments.toList }, st.trace)
  | .error f => (.error f, f.state.trace)

def Reading.run (src : Source) (repairs : Repairs) : Except Failure Reading :=
  (Reading.runTraced src repairs).1

end PluginLens.Syntax
