import PluginLens.Command.Utility.Basic
import PluginLens.Command.Script.Pattern

/-!
# tr: translating, deleting and squeezing bytes

`tr` reads two sets of bytes. A set is written with backslash escapes (`\n`, `\t`, `\NNN`
octal, …), ranges `a-z`, classes `[:alpha:]`, equivalence classes `[=c=]` and, in the
second set, repeats `[c*n]` (`[c*]` fills the set up to the length of the first). Each byte
of the first set becomes the byte at the same place in the second, the second set's last
byte standing in for the missing ones; with `-t` the first set is cut to the second's
length instead. `-c` takes the bytes not in the first set, in byte order; `-d` deletes the
first set's bytes; `-s` squeezes runs of one byte of the last set given into one.
-/

namespace PluginLens.Command

open ByteStr

/-- An element of a set. -/
inductive SetElem where
  | byte (c : Char)
  | range (lo hi : Char)
  | klass (name : String)
  | repeated (c : Char) (count : Option Nat)
  deriving BEq, Inhabited

/-- A byte of a set's text after escapes: whether it was escaped, so that it is never the
start of a construct. -/
structure SetChar where
  c : Char
  escaped : Bool

def setEscapes (s : ByteStr) : List SetChar × Bool :=
  go (s.length + 1) s []
where
  go : Nat → ByteStr → List SetChar → List SetChar × Bool
    | 0, _, acc => (acc.reverse, false)
    | _ + 1, [], acc => (acc.reverse, false)
    | n + 1, c :: rest, acc =>
      if c != '\\' then go n rest (⟨c, false⟩ :: acc)
      else match rest with
        | [] => (( ⟨'\\', true⟩ :: acc).reverse, true)
        | d :: more =>
          if isOctal d then
            let ds := (d :: more).take 3 |>.takeWhile isOctal
            let v := ds.foldl (fun v x => 8 * v + (x.toNat - '0'.toNat)) 0
            -- three digits only while the value stays below 256
            let (ds, v) := if v > 255 then
                let ds2 := ds.take 2
                (ds2, ds2.foldl (fun v x => 8 * v + (x.toNat - '0'.toNat)) 0)
              else (ds, v)
            go n ((d :: more).drop ds.length) (⟨Char.ofNat v, true⟩ :: acc)
          else
            let e := match d with
              | 'a' => '\x07'
              | 'b' => '\x08'
              | 'f' => '\x0c'
              | 'n' => '\n'
              | 'r' => '\r'
              | 't' => '\t'
              | 'v' => '\x0b'
              | x => x
            go n more (⟨e, true⟩ :: acc)

def setClasses : List String :=
  ["alnum", "alpha", "blank", "cntrl", "digit", "graph", "lower", "print", "punct", "space",
   "upper", "xdigit"]

/-- Why a set cannot be used. -/
inductive SetError where
  | reversed (lo hi : Char)
  | message (text : String)
  deriving Inhabited

def setElems (cs : List SetChar) : Except SetError (List SetElem) :=
  go (cs.length + 1) cs []
where
  plain (c : SetChar) (x : Char) : Bool := !c.escaped && c.c == x
  go : Nat → List SetChar → List SetElem → Except SetError (List SetElem)
    | 0, _, acc => .ok acc.reverse
    | _ + 1, [], acc => .ok acc.reverse
    | n + 1, c :: rest, acc =>
      -- bracket constructs
      let bracket : Option (SetElem × List SetChar) :=
        if !plain c '[' then none else
        match rest with
        | d :: more =>
          if plain d ':' || plain d '=' then
            let body := more.takeWhile fun x => !(plain x d.c)
            match more.drop body.length with
            | _ :: e :: after =>
              if plain e ']' then
                let name := String.ofList (body.map (·.c))
                if d.c == ':' then
                  if setClasses.contains name then some (.klass name, after) else none
                else match body with
                  | [x] => some (.byte x.c, after)
                  | _ => none
              else none
            | _ => none
          else
            match more with
            | star :: after =>
              if plain star '*' then
                let ds := after.takeWhile fun x => isDigit x.c && !x.escaped
                match after.drop ds.length with
                | e :: after' =>
                  if plain e ']' then
                    let count := if ds.isEmpty then none
                      else some (ds.foldl (fun v x => (if ds.head?.map (·.c) == some '0' then 8 else 10) * v +
                        (x.c.toNat - '0'.toNat)) 0)
                    some (.repeated d.c (if count == some 0 then none else count), after')
                  else none
                | [] => none
              else none
            | [] => none
        | [] => none
      match bracket with
      | some (e, after) => go n after (e :: acc)
      | none =>
        match rest with
        | dash :: hi :: after =>
          if plain dash '-' then
            if hi.c < c.c then .error (.reversed c.c hi.c)
            else go n after (.range c.c hi.c :: acc)
          else go n rest (.byte c.c :: acc)
        | _ => go n rest (.byte c.c :: acc)

def classBytes (name : String) : List Char :=
  (List.range 256).filterMap fun k =>
    let c := Char.ofNat k
    if (classMember name c).getD false then some c else none

def setBytes (es : List SetElem) (fillTo : Nat) : List Char :=
  let fixed := es.foldl (fun n e => n + match e with
    | .byte _ => 1
    | .range lo hi => hi.toNat - lo.toNat + 1
    | .klass name => (classBytes name).length
    | .repeated _ (some k) => k
    | .repeated _ none => 0) 0
  es.flatMap fun
    | .byte c => [c]
    | .range lo hi => (List.range (hi.toNat - lo.toNat + 1)).map fun k => Char.ofNat (lo.toNat + k)
    | .klass name => classBytes name
    | .repeated c (some k) => List.replicate k c
    | .repeated c none => List.replicate (fillTo - fixed) c

def trOptions : List OptDef :=
  [{ key := 'c', long := some "complement" }, { key := 'C' },
   { key := 'd', long := some "delete" }, { key := 's', long := some "squeeze-repeats" },
   { key := 't', long := some "truncate-set1" },
   { key := 'h', short := false, long := some "help" },
   { key := 'V', short := false, long := some "version" }]

def squeezeRuns (set : List Char) (b : ByteStr) : ByteStr :=
  (b.foldl (fun (acc : ByteStr) c =>
    match acc with
    | prev :: _ => if prev == c && set.contains c then acc else c :: acc
    | [] => [c]) []).reverse

def runTr (inv : Invocation) : Finished :=
  match readOptions trOptions true inv.args with
  | .error e => usageFailure "tr" e.message
  | .ok (opts, sets) =>
    if hasOpt opts 'h' then ({} : Finished).out "Usage: tr [OPTION]... STRING1 [STRING2]\n".toList
    else if hasOpt opts 'V' then ({} : Finished).out (versionText "tr")
    else
      let complement := hasOpt opts 'c' || hasOpt opts 'C'
      let delete := hasOpt opts 'd'
      let squeeze := hasOpt opts 's'
      let translating := !delete && !squeeze || (!delete && sets.length == 2)
      let quote (s : ByteStr) : ByteStr := ['\''] ++ s ++ ['\'']
      let need := if delete && squeeze then 2 else if translating then 2 else 1
      if sets.isEmpty then usageFailure "tr" "missing operand".toList
      else if sets.length < need then
        usageFailure "tr" ("missing operand after ".toList ++ quote (sets.getLast?.getD []) ++
          (if delete && squeeze then
            "\nTwo strings must be given when both deleting and squeezing repeats." else
            "\nTwo strings must be given when translating.").toList)
      else if sets.length > 2 || (delete && !squeeze && sets.length > 1) then
        let extra := if sets.length > 2 && !(delete && !squeeze) then sets[2]?.getD [] else sets[1]?.getD []
        usageFailure "tr" ("extra operand ".toList ++ quote extra ++
          (if delete && !squeeze then
            "\nOnly one string may be given when deleting without squeezing repeats.".toList
          else []))
      else
        let (c1, warn1) := setEscapes (sets[0]?.getD [])
        let (c2, warn2) := setEscapes (sets[1]?.getD [])
        let warned : Finished :=
          if warn1 || warn2 then
            ({} : Finished).err (utilityMessage "tr"
              "warning: an unescaped backslash at end of string is not portable".toList)
          else {}
        match setElems c1, setElems c2 with
        | .error (.reversed lo hi), _ | .ok _, .error (.reversed lo hi) =>
          warned.err (utilityMessage "tr" ("range-endpoints of '".toList ++ [lo, '-', hi] ++
            "' are in reverse collating sequence order".toList)) |>.exit 1
        | .error (.message m), _ | .ok _, .error (.message m) =>
          warned.err (utilityMessage "tr" m.toList) |>.exit 1
        | .ok e1, .ok e2 =>
          let s1 := setBytes e1 0
          let s1 := if complement then
              (List.range 256).filterMap fun k =>
                let c := Char.ofNat k
                if s1.contains c then none else some c
            else s1
          let caseClass (e : SetElem) : Bool := e == .klass "upper" || e == .klass "lower"
          let misaligned := e2.any caseClass &&
            (e2.length != e1.length || (e1.zip e2).any fun (a, b) => caseClass b && !caseClass a)
          if translating && misaligned then
            warned.err (utilityMessage "tr" "misaligned [:upper:] and/or [:lower:] construct".toList)
              |>.exit 1
          else
          let input := inv.stdin
          if translating then
            let s2 := setBytes e2 s1.length
            if s2.isEmpty && !hasOpt opts 't' && !s1.isEmpty then
              warned.err (utilityMessage "tr"
                "when not truncating set1, string2 must be non-empty".toList) |>.exit 1
            else
              let s1 := if hasOpt opts 't' then s1.take s2.length else s1
              let last := s2.getLast?.getD ' '
              let pairs := s1.zip (s2 ++ List.replicate (s1.length - s2.length) last)
              -- the last mapping of a byte wins
              let mapped := input.map fun c =>
                match pairs.reverse.find? (·.1 == c) with
                | some (_, d) => d
                | none => c
              let out := if squeeze then squeezeRuns s2 mapped else mapped
              { warned.out out with readInput := true }
          else
            let kept := if delete then input.filter (!s1.contains ·) else input
            let sq := if delete then setBytes e2 0 else s1
            let out := if squeeze then squeezeRuns sq kept else kept
            { warned.out out with readInput := true }

end PluginLens.Command
