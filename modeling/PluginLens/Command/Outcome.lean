import PluginLens.Text.Blank

/-!
# How a program run ends

A run of a program ends by exiting with a status or by being killed by a signal, and leaves
what it wrote to its standard output and standard error. Output is kept as bytes; it is
read as text with every ill-formed UTF-8 sequence replaced by U+FFFD.
-/

namespace PluginLens.Command

/-- How a program ended. -/
inductive Ending where
  | exited (status : Nat)
  | killed (signal : Nat)
  deriving DecidableEq, Inhabited, Repr

/-- A finished run. -/
structure Outcome where
  ending : Ending
  stdout : ByteArray
  stderr : ByteArray
  deriving Inhabited

def Outcome.succeeded (o : Outcome) : Bool := o.ending == .exited 0

/-- The length of the well-formed UTF-8 sequence starting with these bytes, if one does;
otherwise how many bytes to replace by one U+FFFD (at least one). -/
def utf8Step (bs : List UInt8) : Bool × Nat :=
  match bs with
  | [] => (false, 0)
  | b :: rest =>
    let n := b.toNat
    let cont := fun (k : Nat) (lo hi : Nat) =>
      -- `k` continuation bytes, the first within [lo, hi]
      let tail := rest.take k
      let okFirst := match tail.head? with
        | some c => lo ≤ c.toNat && c.toNat ≤ hi
        | none => false
      if !okFirst then (false, 1)
      else
        let good := (tail.drop 1).takeWhile fun c => 0x80 ≤ c.toNat && c.toNat ≤ 0xBF
        if tail.length == k && good.length == k - 1 then (true, k + 1)
        else (false, 1 + 1 + good.length)
    if n < 0x80 then (true, 1)
    else if 0xC2 ≤ n && n ≤ 0xDF then cont 1 0x80 0xBF
    else if n == 0xE0 then cont 2 0xA0 0xBF
    else if (0xE1 ≤ n && n ≤ 0xEC) || n == 0xEE || n == 0xEF then cont 2 0x80 0xBF
    else if n == 0xED then cont 2 0x80 0x9F
    else if n == 0xF0 then cont 3 0x90 0xBF
    else if 0xF1 ≤ n && n ≤ 0xF3 then cont 3 0x80 0xBF
    else if n == 0xF4 then cont 3 0x80 0x8F
    else (false, 1)

def lossyText (bytes : ByteArray) : String :=
  go (bytes.size + 1) bytes.toList ""
where
  go : Nat → List UInt8 → String → String
    | 0, _, acc => acc
    | _, [], acc => acc
    | fuel + 1, bs, acc =>
      let (ok, n) := utf8Step bs
      let piece := if ok then (String.fromUTF8? (ByteArray.mk (bs.take n).toArray)).getD "\uFFFD"
        else "\uFFFD"
      go fuel (bs.drop (max n 1)) (acc ++ piece)

end PluginLens.Command
