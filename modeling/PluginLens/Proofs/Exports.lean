import PluginLens.Plugin.Export
import PluginLens.Proofs.Inspection
import PluginLens.Settings.Basic
import Mathlib.Data.List.DropRight

/-!
# Export paths and exporting statements

A plugin exports its value by `export default` or by assigning it to a member path such as
`module.exports`. The path of an assignment target is read by `MemberPath.ofNode?`, a loop
that walks the target from its last link back to its root. `MemberChain` says in one rule per
form what such a target is: seen through parentheses, a name or `this`, followed by plain
member accesses and subscripts with a string index. A target is read exactly when it is a
chain of at most `maxDepth` segments, and the path read is the chain's segments in source
order (`ofNode?_eq_some_iff`).

Dotted text, the way configuration names the export slot, is read by `MemberPath.parse?` as
the trimmed parts between its dots, unless one of them is blank or there are too many. A
trimmed part holds no dot and trims to itself, so the dotted spelling of a path read that way
reads back as the same path (`parse?_render_of_parse?`).

`describeExports` keeps one descriptor for each exporting statement, in order, with the
statement's span and form, primary when it is a default export or assigns the export slot
(`describeExports_map`); the primary export is the descriptor of the first primary statement,
whatever follows it (`primaryExport_eq_ok_iff`).
-/

namespace PluginLens

open PluginLens.Text PluginLens.Syntax

/-! ## The targets a member path is read from -/

/-- `MemberChain src n segs`: seen through parentheses, `n` is a name or `this` followed by
links, each a member access with a plain property name or a subscript whose index, seen through
parentheses, is a string, none of them optional; `segs` are the root's text and the links'
names in source order, a subscript giving the value of its string. -/
inductive MemberChain (src : Source) : Node → List String → Prop where
  | root {n : Node} (hk : n.unparen.kind = "identifier" ∨ n.unparen.kind = "this") :
      MemberChain src n [src.slice n.unparen.start n.unparen.stop]
  | member {n p o : Node} {segs : List String}
      (hk : n.unparen.kind = "member_expression")
      (hopt : n.unparen.child? "optional_chain" = none)
      (hp : n.unparen.child? "property" = some p) (hpk : p.kind = "property_identifier")
      (ho : n.unparen.child? "object" = some o) (hc : MemberChain src o segs) :
      MemberChain src n (segs ++ [src.slice p.start p.stop])
  | subscript {n i o : Node} {segs : List String}
      (hk : n.unparen.kind = "subscript_expression")
      (hopt : n.unparen.child? "optional_chain" = none)
      (hi : n.unparen.child? "index" = some i) (hik : i.unparen.kind = "string")
      (ho : n.unparen.child? "object" = some o) (hc : MemberChain src o segs) :
      MemberChain src n (segs ++ [stringValue src i.unparen])

namespace MemberChain

variable {src : Source} {n : Node} {segs : List String}

theorem length_pos (h : MemberChain src n segs) : 0 < segs.length := by
  cases h <;> simp

theorem root_iff (hk : n.unparen.kind = "identifier" ∨ n.unparen.kind = "this") :
    MemberChain src n segs ↔ segs = [src.slice n.unparen.start n.unparen.stop] := by
  constructor
  · intro h
    cases h with
    | root => rfl
    | member hk' => rcases hk with hk | hk <;> simp [hk] at hk'
    | subscript hk' => rcases hk with hk | hk <;> simp [hk] at hk'
  · rintro rfl
    exact root hk

/-- A member access is a chain when it is not optional, its property is a plain name and its
object is a chain; the property's name comes last. -/
theorem member_iff (hk : n.unparen.kind = "member_expression") :
    MemberChain src n segs ↔ n.unparen.child? "optional_chain" = none ∧
      ∃ p o segs', n.unparen.child? "property" = some p ∧ p.kind = "property_identifier" ∧
        n.unparen.child? "object" = some o ∧ MemberChain src o segs' ∧
        segs = segs' ++ [src.slice p.start p.stop] := by
  constructor
  · intro h
    cases h with
    | root hk' => rcases hk' with hk' | hk' <;> simp [hk] at hk'
    | member _ hopt hp hpk ho hc => exact ⟨hopt, _, _, _, hp, hpk, ho, hc, rfl⟩
    | subscript hk' => simp [hk] at hk'
  · rintro ⟨hopt, p, o, segs', hp, hpk, ho, hc, rfl⟩
    exact member hk hopt hp hpk ho hc

/-- A subscript is a chain when it is not optional, its index is a string and its object is a
chain; the string's value comes last. -/
theorem subscript_iff (hk : n.unparen.kind = "subscript_expression") :
    MemberChain src n segs ↔ n.unparen.child? "optional_chain" = none ∧
      ∃ i o segs', n.unparen.child? "index" = some i ∧ i.unparen.kind = "string" ∧
        n.unparen.child? "object" = some o ∧ MemberChain src o segs' ∧
        segs = segs' ++ [stringValue src i.unparen] := by
  constructor
  · intro h
    cases h with
    | root hk' => rcases hk' with hk' | hk' <;> simp [hk] at hk'
    | member hk' => simp [hk] at hk'
    | subscript _ hopt hi hik ho hc => exact ⟨hopt, _, _, _, hi, hik, ho, hc, rfl⟩
  · rintro ⟨hopt, i, o, segs', hi, hik, ho, hc, rfl⟩
    exact subscript hk hopt hi hik ho hc

theorem not_of_kind (h1 : n.unparen.kind ≠ "identifier") (h2 : n.unparen.kind ≠ "this")
    (h3 : n.unparen.kind ≠ "member_expression") (h4 : n.unparen.kind ≠ "subscript_expression") :
    ¬MemberChain src n segs := by
  intro h
  cases h with
  | root hk => rcases hk with hk | hk <;> contradiction
  | member hk => exact h3 hk
  | subscript hk => exact h4 hk

/-- A target is a chain in one way only. -/
theorem unique {segs' : List String} (h : MemberChain src n segs) (h' : MemberChain src n segs') :
    segs = segs' := by
  induction h generalizing segs' with
  | root hk => exact ((root_iff hk).1 h').symm
  | member hk _ hp _ ho _ ih =>
    obtain ⟨-, p', o', segs'', hp', -, ho', hc', rfl⟩ := (member_iff hk).1 h'
    rw [hp] at hp'
    rw [ho] at ho'
    cases hp'
    cases ho'
    rw [ih hc']
  | subscript hk _ hi _ ho _ ih =>
    obtain ⟨-, i', o', segs'', hi', -, ho', hc', rfl⟩ := (subscript_iff hk).1 h'
    rw [hi] at hi'
    rw [ho] at ho'
    cases hi'
    cases ho'
    rw [ih hc']

end MemberChain

section ReadPath

variable {src : Source} {path : MemberPath}

/-- Reading on from a link's object, with the link's segment in front of what was read, gives
what the whole chain gives. -/
theorem go_object_iff {fuel : Nat} {o : Node} {x : String} {acc : List String}
    (ih : MemberPath.ofNode?.go src fuel o.unparen (x :: acc) = some path ↔
      ∃ segs, MemberChain src o segs ∧ path.segments = segs ++ x :: acc ∧
        segs.length + (x :: acc).length ≤ MemberPath.maxDepth) :
    MemberPath.ofNode?.go src fuel o.unparen (x :: acc) = some path ↔
      ∃ segs, (∃ segs', MemberChain src o segs' ∧ segs = segs' ++ [x]) ∧
        path.segments = segs ++ acc ∧ segs.length + acc.length ≤ MemberPath.maxDepth := by
  rw [ih]
  constructor
  · rintro ⟨segs', hc, hseg, hlen⟩
    refine ⟨segs' ++ [x], ⟨segs', hc, rfl⟩, by simp [hseg], ?_⟩
    simp only [List.length_append, List.length_cons, List.length_nil] at hlen ⊢
    omega
  · rintro ⟨_, ⟨segs', hc, rfl⟩, hseg, hlen⟩
    refine ⟨segs', hc, by simp [hseg], ?_⟩
    simp only [List.length_append, List.length_cons, List.length_nil] at hlen ⊢
    omega

/-- One link of a chain, a member access or a subscript alike: its key is the child `field`,
whose `form` must be `want`, and gives the segment `seg`. The loop reads on from the link
exactly when it is not optional, its key has that form, and reading on from its object with the
key's segment in front succeeds. -/
theorem go_link_iff {fuel : Nat} {n : Node} {acc : List String} (field want : String)
    (form seg : Node → String)
    (ih : ∀ key o, MemberPath.ofNode?.go src fuel o.unparen (seg key :: acc) = some path ↔
      ∃ segs, MemberChain src o segs ∧ path.segments = segs ++ seg key :: acc ∧
        segs.length + (seg key :: acc).length ≤ MemberPath.maxDepth) :
    (if (n.unparen.child? "optional_chain").isSome then none
      else match n.unparen.child? field, n.unparen.child? "object" with
        | some key, some o =>
          if form key != want then none
          else MemberPath.ofNode?.go src fuel o.unparen (seg key :: acc)
        | _, _ => none) = some path ↔
      ∃ segs, (n.unparen.child? "optional_chain" = none ∧
        ∃ key o segs', n.unparen.child? field = some key ∧ form key = want ∧
          n.unparen.child? "object" = some o ∧ MemberChain src o segs' ∧
          segs = segs' ++ [seg key]) ∧
        path.segments = segs ++ acc ∧ segs.length + acc.length ≤ MemberPath.maxDepth := by
  split
  · rename_i hopt
    simp only [reduceCtorEq, false_iff]
    rintro ⟨segs, ⟨hopt', -⟩, -⟩
    simp [hopt'] at hopt
  · rename_i hopt
    simp only [Bool.not_eq_true, Option.isSome_eq_false_iff, Option.isNone_iff_eq_none] at hopt
    split
    · rename_i key o hkey ho
      split
      · rename_i hform
        simp only [reduceCtorEq, false_iff]
        rintro ⟨segs, ⟨-, key', o', segs', hkey', hform', -⟩, -⟩
        rw [hkey] at hkey'
        cases hkey'
        simp [hform'] at hform
      · rename_i hform
        rw [go_object_iff (ih key o)]
        simp only [bne_iff_ne, ne_eq, Decidable.not_not] at hform
        constructor
        · rintro ⟨segs, ⟨segs', hc, rfl⟩, hseg, hlen⟩
          exact ⟨_, ⟨hopt, key, o, segs', hkey, hform, ho, hc, rfl⟩, hseg, hlen⟩
        · rintro ⟨segs, ⟨-, key', o', segs', hkey', -, ho', hc, rfl⟩, hseg, hlen⟩
          rw [hkey] at hkey'
          rw [ho] at ho'
          cases hkey'
          cases ho'
          exact ⟨_, ⟨segs', hc, rfl⟩, hseg, hlen⟩
    · rename_i hnone
      simp only [reduceCtorEq, false_iff]
      rintro ⟨segs, ⟨-, key, o, segs', hkey, -, ho, -⟩, -⟩
      exact hnone key o hkey ho

/-- The reading loop, from any node with the segments `acc` already read after it: it reads a
path exactly when the node is a chain that fits, with `acc`, within `maxDepth` segments. The
fuel is what the depth bound leaves, so it never runs out first. -/
theorem go_eq_some_iff : ∀ (fuel : Nat) (n : Node) (acc : List String),
    fuel + acc.length = MemberPath.maxDepth + 1 →
    (MemberPath.ofNode?.go src fuel n.unparen acc = some path ↔
      ∃ segs, MemberChain src n segs ∧ path.segments = segs ++ acc ∧
        segs.length + acc.length ≤ MemberPath.maxDepth)
  | 0, n, acc, hfuel => by
    simp only [MemberPath.ofNode?.go, reduceCtorEq, false_iff, not_exists, not_and]
    intro segs hc _ hlen
    have := hc.length_pos
    omega
  | fuel + 1, n, acc, hfuel => by
    rw [MemberPath.ofNode?.go]
    split
    · simp only [reduceCtorEq, false_iff, not_exists, not_and]
      intro segs hc _ hlen
      have := hc.length_pos
      omega
    · rename_i hroom
      -- each link reads on from its object, with the fuel and the segments read moving together
      have ih : ∀ x o, MemberPath.ofNode?.go src fuel o.unparen (x :: acc) = some path ↔
          ∃ segs, MemberChain src o segs ∧ path.segments = segs ++ x :: acc ∧
            segs.length + (x :: acc).length ≤ MemberPath.maxDepth := fun x o =>
        go_eq_some_iff fuel o (x :: acc) (by simp only [List.length_cons]; omega)
      split
      case h_1 _ hk | h_2 _ hk =>
        have hname : n.unparen.kind = "identifier" ∨ n.unparen.kind = "this" := by simp [hk]
        simp only [Option.some.injEq, MemberChain.root_iff hname, exists_eq_left]
        constructor
        · rintro rfl
          exact ⟨rfl, by simp only [List.length_singleton]; omega⟩
        · rintro ⟨hseg, -⟩
          cases path
          simp_all
      case h_3 _ hk =>
        simp only [MemberChain.member_iff hk]
        exact go_link_iff "property" "property_identifier" Node.kind
          (fun p => src.slice p.start p.stop) fun _ => ih _
      case h_4 _ hk =>
        simp only [MemberChain.subscript_iff hk]
        exact go_link_iff "index" "string" (fun i => i.unparen.kind)
          (fun i => stringValue src i.unparen) fun _ => ih _
      case h_5 _ h1 h2 h3 h4 =>
        simp only [reduceCtorEq, false_iff, not_exists, not_and]
        intro segs hc
        exact absurd hc (MemberChain.not_of_kind h1 h2 h3 h4)

/-- A target is read as a path exactly when it is a chain of at most `maxDepth` segments, and
the path is the chain's segments. -/
theorem ofNode?_eq_some_iff {n : Node} :
    MemberPath.ofNode? src n = some path ↔
      MemberChain src n path.segments ∧ path.segments.length ≤ MemberPath.maxDepth := by
  rw [MemberPath.ofNode?, go_eq_some_iff (MemberPath.maxDepth + 1) n [] rfl]
  constructor
  · rintro ⟨segs, hc, hseg, hlen⟩
    rw [hseg, List.append_nil]
    exact ⟨hc, by simpa using hlen⟩
  · rintro ⟨hc, hlen⟩
    exact ⟨_, hc, (List.append_nil _).symm, by simpa using hlen⟩

end ReadPath

/-! ## The depth bound of dotted text -/

/-- Dotted text is read as its segments, split at dots and trimmed, when none of them is blank
and there are at most `maxDepth` of them. -/
theorem parse?_eq (dotted : String) :
    MemberPath.parse? dotted =
      let segments := (dotted.toList.splitOn '.').map fun cs => trimWhite (String.ofList cs)
      if segments.any (·.isEmpty) || segments.length > MemberPath.maxDepth then none
      else some ⟨segments⟩ := rfl

theorem render_splitOn {segs : List String} (hne : segs ≠ [])
    (hdot : ∀ seg ∈ segs, '.' ∉ seg.toList) :
    ((MemberPath.render ⟨segs⟩).toList.splitOn '.').map String.ofList = segs := by
  have hsep : ".".toList = ['.'] := by decide
  rw [MemberPath.render, String.toList_intercalate, hsep, List.splitOn_intercalate]
  · simp [List.map_map, Function.comp_def, String.ofList_toList]
  · simpa using hdot
  · simpa using hne

/-- Segments that hold no dot and are not blank are read back from their dotted spelling when
there are at most `maxDepth` of them. -/
theorem parse?_render_isSome {segs : List String} (hne : segs ≠ [])
    (hseg : ∀ seg ∈ segs, '.' ∉ seg.toList ∧ (trimWhite seg).isEmpty = false) :
    (MemberPath.parse? (MemberPath.render ⟨segs⟩)).isSome ↔
      segs.length ≤ MemberPath.maxDepth := by
  have hsplit := render_splitOn hne fun seg h => (hseg seg h).1
  have hmap : ((MemberPath.render ⟨segs⟩).toList.splitOn '.').map
      (fun cs => trimWhite (String.ofList cs)) = segs.map trimWhite := by
    show List.map (trimWhite ∘ String.ofList) _ = _
    rw [← List.map_map, hsplit]
  have hblank : (segs.map trimWhite).any (·.isEmpty) = false := by
    simpa using fun seg h => (hseg seg h).2
  rw [parse?_eq]
  simp only [hmap, hblank, List.length_map, Bool.false_or]
  by_cases hlen : segs.length ≤ MemberPath.maxDepth
  · simp [Nat.not_lt.2 hlen, hlen]
  · simp [Nat.lt_of_not_le hlen, hlen]

theorem ofNode?_isSome_iff {src : Source} {n : Node} {segs : List String}
    (hc : MemberChain src n segs) :
    (MemberPath.ofNode? src n).isSome ↔ segs.length ≤ MemberPath.maxDepth := by
  constructor
  · intro h
    obtain ⟨path, hpath⟩ := Option.isSome_iff_exists.1 h
    obtain ⟨hc', hlen⟩ := ofNode?_eq_some_iff.1 hpath
    rw [← hc.unique hc'] at hlen
    exact hlen
  · intro hlen
    exact Option.isSome_iff_exists.2 ⟨⟨segs⟩, ofNode?_eq_some_iff.2 ⟨hc, hlen⟩⟩

/-- Which targets name a member path. A target is read exactly when, seen through parentheses
at every level, it is a name or `this` followed by plain member accesses and subscripts with a
string index, none optional, with at most `maxDepth` segments; the path is the root's text and
the links' names in source order. Dotted text whose segments, split at dots and trimmed, are
not blank is read exactly when it has at most `maxDepth` of them, so a chain whose segments
hold no dot and are not blank is read exactly when its dotted spelling is. -/
theorem ofNode?_memberChain :
    (∀ (src : Source) (n : Node) (path : MemberPath),
      MemberPath.ofNode? src n = some path ↔
        MemberChain src n path.segments ∧ path.segments.length ≤ MemberPath.maxDepth) ∧
    (∀ dotted : String,
      (∀ cs ∈ dotted.toList.splitOn '.', (trimWhite (String.ofList cs)).isEmpty = false) →
      ((MemberPath.parse? dotted).isSome ↔
        (dotted.toList.splitOn '.').length ≤ MemberPath.maxDepth)) ∧
    (∀ (src : Source) (n : Node) (segs : List String), MemberChain src n segs →
      (∀ seg ∈ segs, '.' ∉ seg.toList ∧ (trimWhite seg).isEmpty = false) →
      ((MemberPath.ofNode? src n).isSome ↔
        (MemberPath.parse? (MemberPath.render ⟨segs⟩)).isSome)) := by
  refine ⟨fun _ _ _ => ofNode?_eq_some_iff, ?dotted, ?spelled⟩
  case dotted =>
    intro dotted hblank
    have hany : ((dotted.toList.splitOn '.').map fun cs => trimWhite (String.ofList cs)).any
        (·.isEmpty) = false := by
      simpa using hblank
    rw [parse?_eq]
    simp only [hany, List.length_map, Bool.false_or]
    by_cases hlen : (dotted.toList.splitOn '.').length ≤ MemberPath.maxDepth
    · simp [Nat.not_lt.2 hlen, hlen]
    · simp [Nat.lt_of_not_le hlen, hlen]
  case spelled =>
    intro src n segs hc hseg
    rw [ofNode?_isSome_iff hc,
      parse?_render_isSome (List.ne_nil_of_length_pos hc.length_pos) hseg]

/-- A string subscript names its segment by the string's value, even the empty one: the target
`module[""]` is read as the path `module` then the empty segment, whose dotted spelling
`module.` is no path. -/
theorem emptyKey_read_unspelled :
    let src := Source.ofString "module[\"\"] = x"
    let target := Node.mk "subscript_expression" true false (some "left") 0 10
      [Node.mk "identifier" true false (some "object") 0 6 [],
        Node.mk "[" false false none 6 7 [],
        Node.mk "string" true false (some "index") 7 9
          [Node.mk "\"" false false none 7 8 [], Node.mk "\"" false false none 8 9 []],
        Node.mk "]" false false none 9 10 []]
    MemberChain src target ["module", ""] ∧
      MemberPath.ofNode? src target = some ⟨["module", ""]⟩ ∧
      MemberPath.parse? (MemberPath.render ⟨["module", ""]⟩) = none := by
  intro src target
  have hread : MemberPath.ofNode? src target = some ⟨["module", ""]⟩ := by decide +kernel
  exact ⟨(ofNode?_eq_some_iff.1 hread).1, hread, by decide⟩

/-- `module.exports`: two segments that are not blank, so the dotted text is read, and a
chain of two plain segments, read as its dotted spelling is. -/
theorem ofNode?_memberChain_moduleExports :
    let src := Source.ofString "module.exports = first"
    let target := Node.mk "member_expression" true false (some "left") 0 14
      [Node.mk "identifier" true false (some "object") 0 6 [],
        Node.mk "." false false none 6 7 [],
        Node.mk "property_identifier" true false (some "property") 7 14 []]
    ((∀ cs ∈ "module.exports".toList.splitOn '.', (trimWhite (String.ofList cs)).isEmpty = false) ∧
      ((MemberPath.parse? "module.exports").isSome ↔
        ("module.exports".toList.splitOn '.').length ≤ MemberPath.maxDepth)) ∧
    ((MemberChain src target ["module", "exports"] ∧
      ∀ seg ∈ ["module", "exports"], '.' ∉ seg.toList ∧ (trimWhite seg).isEmpty = false) ∧
    ((MemberPath.ofNode? src target).isSome ↔
      (MemberPath.parse? (MemberPath.render ⟨["module", "exports"]⟩)).isSome)) := by
  intro src target
  have hblank : ∀ cs ∈ "module.exports".toList.splitOn '.',
      (trimWhite (String.ofList cs)).isEmpty = false := by decide
  have hread : MemberPath.ofNode? src target = some ⟨["module", "exports"]⟩ := by decide +kernel
  have hc := (ofNode?_eq_some_iff.1 hread).1
  have hseg : ∀ seg ∈ ["module", "exports"],
      '.' ∉ seg.toList ∧ (trimWhite seg).isEmpty = false := by decide
  exact ⟨⟨hblank, ofNode?_memberChain.2.1 _ hblank⟩,
    ⟨hc, hseg⟩, ofNode?_memberChain.2.2 src target _ hc hseg⟩

/-! ## Reading a written path back -/

/-- The pieces of a list split at a separator do not hold it. -/
theorem not_mem_of_mem_splitOn {a : Char} {piece : List Char} :
    ∀ {l : List Char}, piece ∈ l.splitOn a → a ∉ piece
  | [], h => by simp_all [List.splitOn_nil]
  | x :: xs, h => by
    rw [List.splitOn_cons_eq_if_modifyHead] at h
    obtain ⟨p, ps, hps⟩ : ∃ p ps, xs.splitOn a = p :: ps :=
      List.exists_cons_of_ne_nil (List.splitOn_ne_nil a xs)
    split at h
    · -- the separator closes a piece and opens an empty one
      rcases List.mem_cons.1 h with rfl | h
      · simp
      · exact not_mem_of_mem_splitOn h
    · -- any other character joins the first piece of the rest
      rename_i hx
      rw [hps, List.modifyHead_cons] at h
      rcases List.mem_cons.1 h with rfl | h
      · have hp : a ∉ p := not_mem_of_mem_splitOn (hps ▸ List.mem_cons_self)
        simp only [beq_iff_eq] at hx
        simp [hp, Ne.symm hx]
      · exact not_mem_of_mem_splitOn (hps ▸ List.mem_cons_of_mem _ h)

namespace Text

theorem toList_trimWhite (s : String) :
    (trimWhite s).toList = (s.toList.dropWhile isWhite).rdropWhile isWhite := by
  simp [trimWhite, trimStartWhite, trimEndWhite, List.rdropWhile]

theorem mem_of_mem_trimWhite {s : String} {c : Char} (h : c ∈ (trimWhite s).toList) :
    c ∈ s.toList := by
  rw [toList_trimWhite] at h
  exact (List.dropWhile_sublist _).subset ((List.rdropWhile_prefix _ _).subset h)

theorem trimWhite_trimWhite (s : String) : trimWhite (trimWhite s) = trimWhite s := by
  set D := s.toList.dropWhile isWhite with hD
  set u := D.rdropWhile isWhite
  have hfront : u.dropWhile isWhite = u := by
    have hD0 := List.dropWhile_eq_self_iff.1 (List.dropWhile_idempotent (p := isWhite) (l := s.toList))
    refine List.dropWhile_eq_self_iff.2 fun hl => ?_
    have hpre : u <+: D := List.rdropWhile_prefix _ _
    rw [hpre.getElem hl]
    exact hD0 (Nat.lt_of_lt_of_le hl hpre.length_le)
  apply String.toList_injective
  rw [toList_trimWhite, toList_trimWhite s, ← hD, hfront, List.rdropWhile_idempotent]

end Text

/-- Segments that hold no dot, are trimmed and not blank, and are at most `maxDepth`, are read
back from their dotted spelling as they are. -/
theorem parse?_render {segs : List String} (hne : segs ≠ [])
    (hseg : ∀ seg ∈ segs, '.' ∉ seg.toList ∧ trimWhite seg = seg ∧ seg ≠ "")
    (hlen : segs.length ≤ MemberPath.maxDepth) :
    MemberPath.parse? (MemberPath.render ⟨segs⟩) = some ⟨segs⟩ := by
  have hsplit := render_splitOn hne fun seg h => (hseg seg h).1
  have hmap : ((MemberPath.render ⟨segs⟩).toList.splitOn '.').map
      (fun cs => trimWhite (String.ofList cs)) = segs := by
    show List.map (trimWhite ∘ String.ofList) _ = _
    rw [← List.map_map, hsplit]
    exact (List.map_congr_left fun seg h => (hseg seg h).2.1).trans (List.map_id _)
  have hblank : segs.any (·.isEmpty) = false := by
    simpa [String.isEmpty_iff] using fun seg h => (hseg seg h).2.2
  rw [parse?_eq]
  simp only [hmap, hblank, Bool.false_or]
  simp [Nat.not_lt.2 hlen]

section Dotted

variable {dotted : String} {p : MemberPath}

/-- Dotted text names no path exactly when one of the parts between its dots is blank or there
are more than `maxDepth` parts. -/
theorem parse?_eq_none_iff (dotted : String) :
    MemberPath.parse? dotted = none ↔
      (∃ part ∈ (dotted.toList.splitOn '.').map String.ofList, trimWhite part = "") ∨
        MemberPath.maxDepth < ((dotted.toList.splitOn '.').map String.ofList).length := by
  rw [parse?_eq]
  dsimp only
  split
  · rename_i h
    simpa [String.isEmpty_iff] using h
  · rename_i h
    simpa [String.isEmpty_iff] using h

/-- A path read from dotted text has the trimmed parts as segments: at least one, at most
`maxDepth`, none blank, each trimmed and free of dots. -/
theorem segments_of_parse? (h : MemberPath.parse? dotted = some p) :
    p.segments = ((dotted.toList.splitOn '.').map String.ofList).map trimWhite ∧
      p.segments ≠ [] ∧ p.segments.length ≤ MemberPath.maxDepth ∧
      ∀ seg ∈ p.segments, '.' ∉ seg.toList ∧ trimWhite seg = seg ∧ seg ≠ "" := by
  rw [parse?_eq] at h
  dsimp only at h
  split at h
  · cases h
  · rename_i hok
    cases h
    simp only [Bool.or_eq_true, List.any_eq_true, decide_eq_true_eq, not_or, not_exists,
      not_and] at hok
    refine ⟨by simp [List.map_map, Function.comp_def], by simp, Nat.le_of_not_lt hok.2, ?_⟩
    intro seg hseg
    obtain ⟨cs, hcs, rfl⟩ := List.mem_map.1 hseg
    refine ⟨fun hdot => not_mem_of_mem_splitOn hcs ?_, Text.trimWhite_trimWhite _,
      fun hempty => hok.1 _ hseg (by simp [hempty])⟩
    simpa using Text.mem_of_mem_trimWhite hdot

theorem parse?_render_of_parse? (h : MemberPath.parse? dotted = some p) :
    MemberPath.parse? p.render = some p := by
  obtain ⟨-, hne, hlen, hseg⟩ := segments_of_parse? h
  exact parse?_render hne hseg hlen

end Dotted

/-- Reading dotted text. The text is split at every dot into parts, and it names no path
exactly when some part is blank or there are more than `maxDepth` parts. Otherwise the path's
segments are the trimmed parts; it is written, and displayed, as their dotted join; and reading
that writing gives the same path back. Reading is idempotent on what it produces: an export
slot read from configuration, written and read again, is the same slot. -/
theorem parse?_roundTrip :
    (∀ dotted : String,
      let parts := (dotted.toList.splitOn '.').map String.ofList
      (MemberPath.parse? dotted = none ↔
        (∃ part ∈ parts, trimWhite part = "") ∨ MemberPath.maxDepth < parts.length) ∧
      ∀ p, MemberPath.parse? dotted = some p →
        p.segments = parts.map trimWhite ∧ p.render = ".".intercalate (parts.map trimWhite) ∧
        toString p = p.render ∧ MemberPath.parse? p.render = some p) ∧
    ∀ (s : Settings) (p : MemberPath), s.exportSlotPath = .ok p →
      MemberPath.parse? p.render = some p := by
  refine ⟨fun dotted => ⟨parse?_eq_none_iff dotted, fun p hp => ?_⟩, fun s p hs => ?_⟩
  · have hsegs := (segments_of_parse? hp).1
    exact ⟨hsegs, by rw [MemberPath.render, hsegs], rfl, parse?_render_of_parse? hp⟩
  · unfold Settings.exportSlotPath at hs
    split at hs
    · rename_i q hq
      cases hs
      exact parse?_render_of_parse? hq
    · cases hs

/-! ## Exporting statements and the primary export -/

/-- The form in which a top-level statement exports, if it does: `export default`, or an
expression statement whose expression, seen through parentheses, is an assignment with `=`. -/
def exportForm? (s : Node) : Option ExportForm :=
  if s.isDefaultExport then some .defaultExport
  else if s.kind == "expression_statement" &&
      (s.firstNamed?.map fun e => e.unparen.kind) == some "assignment_expression" then
    some .assignment
  else none

/-- The path an assigning statement assigns to, when its target is one. -/
def assignedPath? (src : Source) (s : Node) : Option MemberPath :=
  (s.firstNamed?.bind fun e => e.unparen.child? "left").bind (MemberPath.ofNode? src)

/-- Whether a statement is a primary export: a default export always, an assignment when the
path it assigns is the export slot. -/
def isPrimaryExport (src : Source) (slot : MemberPath) (s : Node) : Bool :=
  match exportForm? s with
  | some .defaultExport => true
  | some .assignment => assignedPath? src s == some slot
  | none => false

/-- An assignment that a statement holds has both its sides, as every assignment the grammar
builds has. -/
def AssignmentHasSides (s : Node) : Prop :=
  ∀ e, s.firstNamed? = some e → e.unparen.kind = "assignment_expression" →
    (e.unparen.child? "left").isSome ∧ (e.unparen.child? "right").isSome

theorem assignmentHasSides_of_firstNamed? {s e : Node} (he : s.firstNamed? = some e)
    (hsides : (e.unparen.child? "left").isSome ∧ (e.unparen.child? "right").isSome) :
    AssignmentHasSides s := by
  intro e' he' _
  rw [he] at he'
  cases he'
  exact hsides

section Descriptors

variable {src : Source} {slot : MemberPath}

theorem describeExports_cons (s : Node) (rest : List Node) :
    describeExports src (s :: rest) slot =
      describeExports src [s] slot ++ describeExports src rest slot := by
  simp only [describeExports, List.filterMap_cons, List.filterMap_nil]
  split <;> simp

/-- An expression statement holding an assignment with both sides is described as an
assignment, primary when the target's path is the slot. -/
theorem describeAssignment_eq_some {s e l r : Node} (hfirst : s.firstNamed? = some e)
    (hk : e.unparen.kind = "assignment_expression") (hl : e.unparen.child? "left" = some l)
    (hr : e.unparen.child? "right" = some r) :
    ∃ d, describeAssignment src slot s = some d ∧ d.form = .assignment ∧
      d.span = Span.ofNode s ∧ d.isPrimary = (MemberPath.ofNode? src l == some slot) := by
  simp [describeAssignment, hfirst, hk, hl, hr]

theorem describeAssignment_eq_none {s : Node}
    (h : (s.firstNamed?.map fun e => e.unparen.kind) ≠ some "assignment_expression") :
    describeAssignment src slot s = none := by
  cases hfirst : s.firstNamed? with
  | none => simp [describeAssignment, hfirst]
  | some e =>
    have hk : e.unparen.kind ≠ "assignment_expression" := by simpa [hfirst] using h
    simp [describeAssignment, hfirst, hk]

/-- A statement gives a descriptor exactly when it exports, with its form, its span, and
whether it is primary. -/
theorem describeExports_singleton (src : Source) (slot : MemberPath) {s : Node}
    (hsides : AssignmentHasSides s) :
    (describeExports src [s] slot).map (fun d => (d.form, d.span, d.isPrimary)) =
      ((exportForm? s).map fun f => (f, Span.ofNode s, isPrimaryExport src slot s)).toList := by
  by_cases hd : s.isDefaultExport = true
  · have hkind : s.kind = "export_statement" := by
      simp only [Node.isDefaultExport, Bool.and_eq_true, beq_iff_eq] at hd
      exact hd.1
    simp [describeExports, hd, hkind, exportForm?, isPrimaryExport, describeDefault]
  · by_cases hexpr : s.kind = "expression_statement"
    · by_cases hassign : (s.firstNamed?.map fun e => e.unparen.kind) = some "assignment_expression"
      · obtain ⟨e, hfirst, hk⟩ := Option.map_eq_some_iff.1 hassign
        obtain ⟨l, hl⟩ := Option.isSome_iff_exists.1 (hsides e hfirst hk).1
        obtain ⟨r, hr⟩ := Option.isSome_iff_exists.1 (hsides e hfirst hk).2
        obtain ⟨d, hdesc, hform, hspan, hprim⟩ :
            ∃ d, describeAssignment src slot s = some d ∧ d.form = .assignment ∧
              d.span = Span.ofNode s ∧
            d.isPrimary = (MemberPath.ofNode? src l == some slot) :=
          describeAssignment_eq_some hfirst hk hl hr
        have hpath : assignedPath? src s = MemberPath.ofNode? src l := by
          simp [assignedPath?, hfirst, hl]
        simp [describeExports, hd, hexpr, hdesc, exportForm?, hassign, isPrimaryExport, hform,
          hspan, hprim, hpath]
      · simp [describeExports, hd, hexpr, describeAssignment_eq_none hassign, exportForm?,
          hassign]
    · simp [describeExports, hd, hexpr, exportForm?]

/-- The descriptors, read as form, span and primary flag, are those of the exporting
statements, in order. -/
theorem describeExports_map {stmts : List Node} (hsides : ∀ s ∈ stmts, AssignmentHasSides s) :
    (describeExports src stmts slot).map (fun d => (d.form, d.span, d.isPrimary)) =
      stmts.filterMap fun s =>
        (exportForm? s).map fun f => (f, Span.ofNode s, isPrimaryExport src slot s) := by
  induction stmts with
  | nil => rfl
  | cons s rest ih =>
    rw [describeExports_cons, List.map_append,
      describeExports_singleton src slot (hsides s List.mem_cons_self),
      ih fun t ht => hsides t (List.mem_cons_of_mem s ht), List.filterMap_cons]
    cases exportForm? s <;> rfl

/-- Every descriptor of a statement carries the statement's primary flag. -/
theorem isPrimary_of_mem_describeExports {s : Node} (hsides : AssignmentHasSides s)
    {d : ExportDescriptor} (hd : d ∈ describeExports src [s] slot) :
    d.isPrimary = isPrimaryExport src slot s := by
  have hview := describeExports_singleton src slot hsides
  have hmem : (d.form, d.span, d.isPrimary) ∈
      ((exportForm? s).map fun f => (f, Span.ofNode s, isPrimaryExport src slot s)).toList := by
    rw [← hview]
    exact List.mem_map_of_mem hd
  cases hf : exportForm? s with
  | none => simp [hf] at hmem
  | some f =>
    simp only [hf, Option.map_some, Option.toList_some, List.mem_singleton, Prod.mk.injEq] at hmem
    exact hmem.2.2

theorem describeExports_singleton_of_primary {s : Node} (hsides : AssignmentHasSides s)
    (hp : isPrimaryExport src slot s = true) : ∃ d, describeExports src [s] slot = [d] := by
  have hview := describeExports_singleton src slot hsides
  cases hf : exportForm? s with
  | none => simp [isPrimaryExport, hf] at hp
  | some f =>
    rw [hf, Option.map_some, Option.toList_some] at hview
    obtain ⟨d, hd, -⟩ := List.map_eq_singleton_iff.1 hview
    exact ⟨d, hd⟩

theorem primaryExport_append_of_find?_eq_none {A B : List ExportDescriptor}
    (hA : A.find? (·.isPrimary) = none) : primaryExport (A ++ B) = primaryExport B := by
  simp [primaryExport, List.find?_append, hA]

/-- The primary export is the descriptor of the first primary statement. -/
theorem primaryExport_eq_ok_iff {stmts : List Node} (hsides : ∀ s ∈ stmts, AssignmentHasSides s)
    {d : ExportDescriptor} :
    primaryExport (describeExports src stmts slot) = .ok d ↔
      ∃ pre s post, stmts = pre ++ s :: post ∧
        (∀ t ∈ pre, isPrimaryExport src slot t = false) ∧
        isPrimaryExport src slot s = true ∧ describeExports src [s] slot = [d] := by
  induction stmts with
  | nil => simp [primaryExport, describeExports]
  | cons s rest ih =>
    have hs := hsides s List.mem_cons_self
    have ih := ih fun t ht => hsides t (List.mem_cons_of_mem s ht)
    rw [describeExports_cons]
    cases hp : isPrimaryExport src slot s with
    | true =>
      obtain ⟨d₀, hd₀⟩ := describeExports_singleton_of_primary hs hp
      have hprim : d₀.isPrimary = true := by
        rw [isPrimary_of_mem_describeExports hs (hd₀ ▸ List.mem_singleton_self d₀), hp]
      rw [hd₀]
      simp only [primaryExport, List.singleton_append, List.find?_cons, hprim, Except.ok.injEq]
      constructor
      · rintro rfl
        exact ⟨[], s, rest, rfl, by simp, hp, hd₀⟩
      · rintro ⟨pre, s', post, heq, hpre, -, hd'⟩
        cases pre with
        | nil =>
          obtain ⟨rfl, -⟩ := List.cons_eq_cons.1 heq
          rw [hd₀, List.cons_eq_cons] at hd'
          exact hd'.1
        | cons t pre =>
          obtain ⟨rfl, -⟩ := List.cons_eq_cons.1 heq
          rw [hpre s List.mem_cons_self] at hp
          cases hp
    | false =>
      have hnone : (describeExports src [s] slot).find? (·.isPrimary) = none :=
        List.find?_eq_none.2 fun d hd => by rw [isPrimary_of_mem_describeExports hs hd, hp]; simp
      rw [primaryExport_append_of_find?_eq_none hnone, ih]
      constructor
      · rintro ⟨pre, s', post, rfl, hpre, hs', hd'⟩
        refine ⟨s :: pre, s', post, rfl, fun t ht => ?_, hs', hd'⟩
        rcases List.mem_cons.1 ht with rfl | ht
        · exact hp
        · exact hpre t ht
      · rintro ⟨pre, s', post, heq, hpre, hs', hd'⟩
        cases pre with
        | nil =>
          obtain ⟨rfl, -⟩ := List.cons_eq_cons.1 heq
          rw [hp] at hs'
          cases hs'
        | cons t pre =>
          obtain ⟨rfl, rfl⟩ := List.cons_eq_cons.1 heq
          exact ⟨pre, s', post, rfl, fun u hu => hpre u (List.mem_cons_of_mem _ hu), hs', hd'⟩

/-- There is no primary export exactly when no statement is primary. -/
theorem primaryExport_eq_error_iff {stmts : List Node}
    (hsides : ∀ s ∈ stmts, AssignmentHasSides s) {e : InspectError} :
    primaryExport (describeExports src stmts slot) = .error e ↔
      e = .noPrimaryExport ∧ ∀ s ∈ stmts, isPrimaryExport src slot s = false := by
  constructor
  · intro h
    refine ⟨Inspector.primaryExport_error h, fun s hs => ?_⟩
    cases hp : isPrimaryExport src slot s with
    | false => rfl
    | true =>
      obtain ⟨s₀, hfind⟩ : ∃ s₀, stmts.find? (isPrimaryExport src slot) = some s₀ :=
        Option.isSome_iff_exists.1 (List.find?_isSome.2 ⟨s, hs, hp⟩)
      obtain ⟨hp₀, pre, post, hsplit, hpre⟩ := List.find?_eq_some_iff_append.1 hfind
      obtain ⟨d, hd⟩ := describeExports_singleton_of_primary
        (hsides s₀ (List.mem_of_find?_eq_some hfind)) hp₀
      have hok := (primaryExport_eq_ok_iff hsides).2
        ⟨pre, s₀, post, hsplit, fun t ht => by simpa using hpre t ht, hp₀, hd⟩
      rw [h] at hok
      cases hok
  · rintro ⟨rfl, hall⟩
    cases h : primaryExport (describeExports src stmts slot) with
    | error e => rw [Inspector.primaryExport_error h]
    | ok d =>
      obtain ⟨pre, s, post, rfl, -, hs, -⟩ := (primaryExport_eq_ok_iff hsides).1 h
      rw [hall s (List.mem_append_right pre List.mem_cons_self)] at hs
      cases hs

end Descriptors

/-- Which statements export, and which export is primary. Every exporting statement, a
default export or an expression statement holding an assignment with `=`, gives one
descriptor, in statement order, with its span and form; a default export is primary, an
assignment when the path of its target is the export slot. The primary export is the
descriptor of the first primary statement, whatever primaries follow, and there is none
exactly when no statement is primary. -/
theorem describeExports_firstPrimary (src : Source) (stmts : List Node) (slot : MemberPath)
    (hsides : ∀ s ∈ stmts, AssignmentHasSides s) :
    (describeExports src stmts slot).map (fun d => (d.form, d.span, d.isPrimary)) =
      stmts.filterMap (fun s =>
        (exportForm? s).map fun f => (f, Span.ofNode s, isPrimaryExport src slot s)) ∧
    (∀ d, primaryExport (describeExports src stmts slot) = .ok d ↔
      ∃ pre s post, stmts = pre ++ s :: post ∧ (∀ t ∈ pre, isPrimaryExport src slot t = false) ∧
        isPrimaryExport src slot s = true ∧ describeExports src [s] slot = [d]) ∧
    (∀ e, primaryExport (describeExports src stmts slot) = .error e ↔
      e = .noPrimaryExport ∧ ∀ s ∈ stmts, isPrimaryExport src slot s = false) :=
  ⟨describeExports_map hsides, fun _ => primaryExport_eq_ok_iff hsides,
    fun _ => primaryExport_eq_error_iff hsides⟩

/-- Two assignments of `module.exports`: the primary export is the first one's descriptor. -/
theorem describeExports_firstPrimary_twoAssignments :
    let src := Source.ofString "module.exports = first\nmodule.exports = second"
    let stmts : List Node :=
      [Node.mk "expression_statement" true false none 0 22
        [Node.mk "assignment_expression" true false none 0 22
          [Node.mk "member_expression" true false (some "left") 0 14
            [Node.mk "identifier" true false (some "object") 0 6 [],
              Node.mk "." false false none 6 7 [],
              Node.mk "property_identifier" true false (some "property") 7 14 []],
            Node.mk "=" false false none 15 16 [],
            Node.mk "identifier" true false (some "right") 17 22 []]],
        Node.mk "expression_statement" true false none 23 46
        [Node.mk "assignment_expression" true false none 23 46
          [Node.mk "member_expression" true false (some "left") 23 37
            [Node.mk "identifier" true false (some "object") 23 29 [],
              Node.mk "." false false none 29 30 [],
              Node.mk "property_identifier" true false (some "property") 30 37 []],
            Node.mk "=" false false none 38 39 [],
            Node.mk "identifier" true false (some "right") 40 46 []]]]
    (∀ s ∈ stmts, AssignmentHasSides s) ∧
      ∀ d, primaryExport (describeExports src stmts MemberPath.default) = .ok d ↔
        ∃ pre s post, stmts = pre ++ s :: post ∧
          (∀ t ∈ pre, isPrimaryExport src MemberPath.default t = false) ∧
          isPrimaryExport src MemberPath.default s = true ∧
          describeExports src [s] MemberPath.default = [d] := by
  intro src stmts
  have hsides : ∀ s ∈ stmts, AssignmentHasSides s := by
    intro s hs
    simp only [stmts, List.mem_cons, List.mem_nil_iff, or_false] at hs
    rcases hs with rfl | rfl
    · exact assignmentHasSides_of_firstNamed? rfl ⟨rfl, rfl⟩
    · exact assignmentHasSides_of_firstNamed? rfl ⟨rfl, rfl⟩
  exact ⟨hsides, (describeExports_firstPrimary src stmts MemberPath.default hsides).2.1⟩

end PluginLens
