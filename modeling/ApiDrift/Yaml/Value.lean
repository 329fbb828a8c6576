import ApiDrift.Document.Composed
import ApiDrift.Yaml.Node.Reader
import ApiDrift.Yaml.Scalar

/-!
# Values of nodes

What the tree of a markup text means. Merge keys bring in the entries of other mappings, before the
mapping's own. Nodes are valued level by level: a fault nearer to the root is reported before a
deeper one, and of two at one depth the one that comes first in the text.
-/

namespace ApiDrift.Yaml

abbrev NodeEntries := List (Node × Node)

mutual

/-- The number of collections around the deepest node. -/
def Node.depth : Node → Nat
  | .scalar .. => 1
  | .around .. => 1
  | .seq _ items _ => depthOfAll items + 1
  | .map _ entries _ => depthOfEntries entries + 1

def depthOfAll : List Node → Nat
  | [] => 0
  | n :: ns => max n.depth (depthOfAll ns)

def depthOfEntries : List (Node × Node) → Nat
  | [] => 0
  | (k, v) :: es => max (max k.depth v.depth) (depthOfEntries es)

end

private def mappingFault (since : Cursor) (problem : Problem) (at_ : Cursor) : Fault :=
  .notice ⟨.values, some .mapping, some since, problem, at_⟩

/-- A value key is a text. -/
private def plainKey : Node → Node
  | .scalar t v p => .scalar (textTag t) v p
  | .seq t items p => .seq (textTag t) items p
  | .map t entries p => .map (textTag t) entries p
  | n => n
where
  textTag (t : String) : String := if t = Tag.value then Tag.str else t

mutual

/-- The entries that merge keys bring in, and the other ones. -/
def splitMerged (place : Cursor) : List (Node × Node) → Except Fault (NodeEntries × NodeEntries)
  | [] => .ok ([], [])
  | (k, v) :: rest =>
    if k.tag = Tag.merge then do
      let here ← mergedOf place v
      let (merged, own) ← splitMerged place rest
      return (here ++ merged, own)
    else do
      let (merged, own) ← splitMerged place rest
      return (merged, (plainKey k, v) :: own)

/-- The entries that the value of a merge key brings in. -/
def mergedOf (place : Cursor) : Node → Except Fault NodeEntries
  | .map _ entries p => do
    let (merged, own) ← splitMerged p entries
    return merged ++ own
  | .seq _ items _ => return (← mergedOfAll place items).reverse.flatten
  | .around .. => .ok []
  | .scalar _ _ p => .error (mappingFault place (.notMergeableList "scalar") p)

def mergedOfAll (place : Cursor) : List Node → Except Fault (List NodeEntries)
  | [] => .ok []
  | .map _ entries p :: rest => do
    let (merged, own) ← splitMerged p entries
    return (merged ++ own) :: (← mergedOfAll place rest)
  | .around .mapping _ _ :: rest => mergedOfAll place rest
  | n :: _ => .error (mappingFault place (.notMergeable n.kind) n.place)

end

/-- The entries of a mapping with those that are merged in. -/
def flatten (place : Cursor) (entries : NodeEntries) : Except Fault NodeEntries := do
  let (merged, own) ← splitMerged place entries
  return merged ++ own

/-- A value, and the first fault of each level of the tree below it. -/
structure Built where
  value : Document
  faults : List (Option Fault)

/-- The faults of two parts, the first of which comes first in the text. -/
def firstFaults : List (Option Fault) → List (Option Fault) → List (Option Fault)
  | [], fs => fs
  | fs, [] => fs
  | f :: fs, g :: gs => f.or g :: firstFaults fs gs

namespace Built

def pure (v : Document) : Built := ⟨v, []⟩

def fault (f : Fault) : Built := ⟨.null, [some f]⟩

/-- A collection whose parts have faults. -/
def collection (v : Document) (parts : List (Option Fault)) : Built := ⟨v, none :: parts⟩

/-- A collection with a fault of its own, which counts among its parts. -/
def broken (f : Fault) : Built := ⟨.null, [none, some f]⟩

end Built

private def scalarFault (f : ScalarFault) : Fault := .scalar f

private def ofScalar {α : Type} (make : α → Document) (r : Except ScalarFault α) : Built :=
  match r with
  | .ok a => .pure (make a)
  | .error f => .fault (scalarFault f)

mutual

/-- The text of a scalar; of a mapping, the text of its value key. -/
def scalarText : Node → Except Fault String
  | .scalar _ v _ => .ok v
  | .map _ entries p => scalarTextIn p entries
  | n => .error (valueFault (.notScalar n.kind) n.place)

def scalarTextIn (place : Cursor) : List (Node × Node) → Except Fault String
  | [] => .error (valueFault (.notScalar "mapping") place)
  | (k, v) :: rest => if k.tag = Tag.value then scalarText v else scalarTextIn place rest

end

/-- The value of a node whose tag is that of a scalar. -/
private def scalarValue (tag : String) (node : Node) : Built :=
  match scalarText node with
  | .error f => .fault f
  | .ok s =>
    if tag = Tag.null then .pure .null
    else if tag = Tag.bool then ofScalar .bool (Scalar.flag s)
    else if tag = Tag.int then ofScalar .int (Scalar.whole s)
    else if tag = Tag.float then ofScalar .float (Scalar.real s)
    else if tag = Tag.timestamp then
      match node with
      | .scalar .. => ofScalar id (Scalar.moment s)
      | _ => .fault (scalarFault .noDateText)
    else if tag = Tag.binary then
      match Scalar.binary s with
      | .ok bs => .pure (.bytes bs)
      | .error problem => .fault (valueFault problem node.place)
    else .pure (.text s)

private def scalarTags : List String :=
  [Tag.null, Tag.bool, Tag.int, Tag.float, Tag.timestamp, Tag.binary, Tag.str]

private def isHashable : Document → Bool
  | .seq _ | .set _ | .map _ | .cycle _ => false
  | _ => true

private def pairsFault (activity : Activity) (since : Cursor) (problem : Problem) (at_ : Cursor) :
    Fault :=
  .notice ⟨.values, some activity, some since, problem, at_⟩

/-- The first fault of a list of parts, level by level. -/
private def faultsOf (parts : List Built) : List (Option Fault) :=
  parts.foldr (fun b fs => firstFaults b.faults fs) []

/-- The single entries of a list of mappings. -/
private def pairsOf (build : Node → Built) (activity : Activity) (place : Cursor) :
    List Node → List (Document × Document) × List (Option Fault)
  | [] => ([], [])
  | .map _ [(k, v)] _ :: rest =>
    let bk := build k
    let bv := build v
    let (pairs, faults) := pairsOf build activity place rest
    ((bk.value, bv.value) :: pairs, firstFaults bk.faults (firstFaults bv.faults faults))
  | .map _ entries p :: _ => ([], [some (pairsFault activity place (.pairCount entries.length) p)])
  | n :: _ => ([], [some (pairsFault activity place (.pairOf n.kind) n.place)])

private def pairsValue (build : Node → Built) (activity : Activity) (node : Node) : Built :=
  match node with
  | .seq _ items p =>
    let (pairs, faults) := pairsOf build activity p items
    .collection (.seq (pairs.map fun e => .tuple [e.1, e.2])) faults
  | n => .broken (pairsFault activity n.place (.pairsOf n.kind) n.place)

/-- The entries of a mapping, and their faults in the order key, its fitness, value. -/
private def entriesOf (build : Node → Built) (place : Cursor) :
    NodeEntries → Document.Entries × List (Option Fault)
  | [] => ([], [])
  | (k, v) :: rest =>
    let bk := build k
    let bv := build v
    let fitness : List (Option Fault) :=
      if isHashable bk.value then [] else [some (mappingFault place .unhashableKey k.place)]
    let (entries, faults) := entriesOf build place rest
    ((bk.value, bv.value) :: entries,
      firstFaults bk.faults (firstFaults fitness (firstFaults bv.faults faults)))

private def mappingValue (build : Node → Built) (make : Document.Entries → Document) (node : Node) :
    Built :=
  match node with
  | .map _ entries p =>
    match flatten p entries with
    | .error f => .broken f
    | .ok entries =>
      let (pairs, faults) := entriesOf build p entries
      .collection (make (Document.ofPairs pairs)) faults
  | n => .broken (valueFault (.notMapping n.kind) n.place)

private def sequenceValue (build : Node → Built) (node : Node) : Built :=
  match node with
  | .seq _ items _ =>
    let parts := items.map build
    .collection (.seq (parts.map (·.value))) (faultsOf parts)
  | n => .broken (valueFault (.notSequence n.kind) n.place)

/-- The value of a node. The first argument bounds its depth. -/
def Node.build : Nat → Node → Built
  | 0, _ => .pure .null
  | fuel + 1, node =>
    match node with
    | .around shape _ _ => .pure (.cycle shape)
    | _ =>
      let tag := node.tag
      if scalarTags.contains tag then scalarValue tag node
      else if tag = Tag.seq then sequenceValue (build fuel) node
      else if tag = Tag.map then mappingValue (build fuel) .map node
      else if tag = Tag.set then mappingValue (build fuel) (fun es => .set (es.map (·.1))) node
      else if tag = Tag.omap then pairsValue (build fuel) .orderedMap node
      else if tag = Tag.pairs then pairsValue (build fuel) .pairs node
      else .fault (valueFault (.unknownTag tag) node.place)

/-- The value of a tree, or its first fault. -/
def Node.value (node : Node) : Except Fault Document :=
  let b := node.build (node.depth + 1)
  match b.faults.findSome? id with
  | some f => .error f
  | none => .ok b.value

/-- The characters that a text may hold. -/
def isAcceptable (c : Char) : Bool :=
  let n := c.toNat
  n == 9 || n == 10 || n == 13 || (0x20 ≤ n && n ≤ 0x7e) || n == 0x85 || (0xa0 ≤ n && n ≤ 0xd7ff) ||
    (0xe000 ≤ n && n ≤ 0xfffd) || 0x10000 ≤ n

/-- The document that a markup text writes; an empty text writes nothing. -/
def read (s : String) : Except Fault Document :=
  let cs := s.toList
  match cs.dropWhile isAcceptable with
  | c :: _ => .error (.unacceptable c (cs.takeWhile isAcceptable).length)
  | [] => do
    match ← Node.ofText cs with
    | none => return .null
    | some node => node.value

/-! Values are put together from their parts. -/

private theorem ofScalar_isLeaf {α : Type} {make : α → Document} {r : Except ScalarFault α}
    (h : ∀ a, r = .ok a → (make a).isLeaf = true) : (ofScalar make r).value.isLeaf = true := by
  cases r with
  | ok a => exact h a rfl
  | error f => rfl

private theorem moment_isLeaf {s : String} {v : Document} (h : Scalar.moment s = .ok v) :
    v.isLeaf = true := by
  unfold Scalar.moment at h
  split at h
  · cases h
  · split at h
    · cases h
      rfl
    · cases h
  · split at h
    · cases h
      rfl
    · cases h

private theorem scalarValue_isLeaf (tag : String) (node : Node) :
    (scalarValue tag node).value.isLeaf = true := by
  unfold scalarValue
  -- One goal for each tag of a scalar, in the order of the tags, after the one for no scalar.
  repeat' split
  · rfl
  · rfl
  · exact ofScalar_isLeaf fun _ _ => rfl
  · exact ofScalar_isLeaf fun _ _ => rfl
  · exact ofScalar_isLeaf fun _ _ => rfl
  · exact ofScalar_isLeaf fun _ hv => moment_isLeaf hv
  · rfl
  · rfl
  · rfl
  · rfl

section
variable {P : Document → Prop} {build : Node → Built} (hbuild : ∀ n, P (build n).value)
include hbuild

private theorem pairsOf_composed (activity : Activity) (place : Cursor) (items : List Node) :
    ∀ e ∈ (pairsOf build activity place items).1, P e.1 ∧ P e.2 := by
  fun_induction pairsOf build activity place items with
  | case1 => nofun
  | case2 _ k v _ rest bk bv pairs faults h ih =>
    rw [h] at ih
    exact List.forall_mem_cons.mpr ⟨⟨hbuild k, hbuild v⟩, ih⟩
  | case3 => nofun
  | case4 => nofun

private theorem entriesOf_composed (place : Cursor) (entries : NodeEntries) :
    ∀ e ∈ (entriesOf build place entries).1, P e.1 ∧ P e.2 := by
  fun_induction entriesOf build place entries with
  | case1 => nofun
  | case2 k v rest bk bv fitness entries faults h ih =>
    rw [h] at ih
    exact List.forall_mem_cons.mpr ⟨⟨hbuild k, hbuild v⟩, ih⟩

variable (hP : Document.Composed P)
include hP

private theorem pairsValue_composed (activity : Activity) (node : Node) :
    P (pairsValue build activity node).value := by
  unfold pairsValue
  split
  · refine hP.seq _ fun v hv => ?_
    obtain ⟨e, he, rfl⟩ := List.mem_map.mp hv
    have hparts := pairsOf_composed hbuild activity _ _ e he
    exact hP.tuple _ fun w hw => by
      simp only [List.mem_cons, List.not_mem_nil, or_false] at hw
      rcases hw with rfl | rfl
      · exact hparts.1
      · exact hparts.2
  · exact hP.leaf _ rfl

private theorem mappingValue_composed {make : Document.Entries → Document}
    (hmake : ∀ pairs, (∀ e ∈ pairs, P e.1 ∧ P e.2) → P (make (Document.ofPairs pairs)))
    (node : Node) : P (mappingValue build make node).value := by
  unfold mappingValue
  split
  · split
    · exact hP.leaf _ rfl
    · exact hmake _ (entriesOf_composed hbuild _ _)
  · exact hP.leaf _ rfl

private theorem sequenceValue_composed (node : Node) : P (sequenceValue build node).value := by
  unfold sequenceValue
  split
  · refine hP.seq _ fun v hv => ?_
    obtain ⟨part, hpart, rfl⟩ := List.mem_map.mp hv
    obtain ⟨n, -, rfl⟩ := List.mem_map.mp hpart
    exact hbuild n
  · exact hP.leaf _ rfl

end

section
variable {P : Document → Prop} (hP : Document.Composed P)
include hP

theorem Node.build_composed (fuel : Nat) (node : Node) : P (node.build fuel).value := by
  induction fuel generalizing node with
  | zero => exact hP.leaf _ rfl
  | succ fuel ih =>
    unfold Node.build
    split
    · exact hP.leaf _ rfl
    · dsimp only
      -- One goal for each kind of tag, in the order in which they are tried.
      repeat' split
      · exact hP.leaf _ (scalarValue_isLeaf _ _)
      · exact sequenceValue_composed ih hP node
      · exact mappingValue_composed ih hP hP.map node
      · exact mappingValue_composed ih hP hP.set node
      · exact pairsValue_composed ih hP _ node
      · exact pairsValue_composed ih hP _ node
      · exact hP.leaf _ rfl

/-- Every document that a markup text writes is put together from its parts. -/
theorem composed_of_read {s : String} {v : Document} (h : read s = .ok v) : P v := by
  unfold read at h
  dsimp only at h
  split at h
  · cases h
  · cases hnode : Node.ofText s.toList with
    | error f =>
      rw [hnode] at h
      cases h
    | ok node? =>
      rw [hnode] at h
      cases node? with
      | none =>
        cases h
        exact hP.leaf _ rfl
      | some node =>
        have hvalue : node.value = .ok v := h
        unfold Node.value at hvalue
        dsimp only at hvalue
        split at hvalue
        · cases hvalue
        · cases hvalue
          exact Node.build_composed hP _ node

end

end ApiDrift.Yaml
