import ApiDrift.Proofs.Scan
import ApiDrift.Reading.GraphQL
import ApiDrift.Reading.Protobuf

/-!
# Texts cut behind a closing brace

No declaration, service or message reaches past a closing brace, also where blocks are nested or
never closed, or where a keyword stands across the cut. A text that is cut behind a closing brace is
therefore read part by part, and what stands behind the last brace is not read at all.
-/
namespace ApiDrift
open Text

namespace GraphQL

theorem staysBefore_interface : StaysBefore '\x7d' (passing interface?) := by
  have hword : StaysBefore '\x7d' fun cs => literal? "implements" cs >>= blankWord? :=
    .after (.literal (by decide)) (.blankWord (by decide) (by decide))
  have heq : passing interface? = fun cs =>
      (literal? "implements" cs >>= blankWord?).map fun p => ((), p.2) := by
    funext cs
    simp only [passing, interface?]
    cases literal? "implements" cs with
    | none => rfl
    | some rest =>
      simp only [Option.bind_eq_bind, Option.bind_some]
      cases blankWord? rest <;> rfl
  rw [heq]
  exact hword.map fun _ => ()

theorem stopsAt_bodyOf (name : List Char) : StopsAt '\x7d' (bodyOf? name) :=
  (stopsAt_braced.ofSkipBlanks (by decide)).map (Declaration.mk name)

theorem stopsAt_withInterface (name : List Char) : StopsAt '\x7d' (withInterface? name) :=
  .after staysBefore_interface (stopsAt_bodyOf name)

theorem stopsAt_runTogether (name : List Char) : StopsAt '\x7d' (runTogether? name) := by
  unfold runTogether?
  cases beforeInterface? name with
  | none => exact .const_none
  | some short => exact (stopsAt_withInterface short).ofAppend (by decide)

theorem stopsAt_declaration : StopsAt '\x7d' declaration? := by
  refine .after (.literal (by decide)) (.bind (.blankWord (by decide) (by decide)) fun name => ?_)
  exact ((stopsAt_withInterface name).ofSkipBlanks (by decide)).or
    ((stopsAt_bodyOf name).or (stopsAt_runTogether name))

theorem readSpec_append {a : List Char} (ha : ClosedBy '\x7d' a) (b : List Char) :
    readSpec (a ++ b) =
      { readSpec a with
        endpoints := (readSpec a).endpoints ++ (readSpec b).endpoints
        schemas := (readSpec a).schemas ++ (readSpec b).schemas } := by
  simp only [readSpec, stopsAt_declaration.findAll_append ha, List.flatMap_append]

theorem readSpec_of_notMem {b : List Char} (hb : '\x7d' ∉ b) :
    (readSpec b).endpoints = [] ∧ (readSpec b).schemas = [] := by
  simp only [readSpec, stopsAt_declaration.findAll_eq_nil hb, List.flatMap_nil, and_self]

end GraphQL

namespace Protobuf

theorem stopsAt_block {keyword : String} (h : '\x7d' ∉ keyword.toList) :
    StopsAt '\x7d' (block? keyword) := by
  refine .after (.literal h) (.bind (.blankWord (by decide) (by decide)) fun name => ?_)
  exact (stopsAt_braced.ofSkipBlanks (by decide)).map (Block.mk name)

theorem readSpec_append {a : List Char} (ha : ClosedBy '\x7d' a) (b : List Char) :
    readSpec (a ++ b) =
      { readSpec a with
        endpoints := (readSpec a).endpoints ++ (readSpec b).endpoints
        schemas := (readSpec a).schemas ++ (readSpec b).schemas } := by
  have hservice : StopsAt '\x7d' (block? "service") := stopsAt_block (by decide)
  have hmessage : StopsAt '\x7d' (block? "message") := stopsAt_block (by decide)
  simp only [readSpec, hservice.findAll_append ha, hmessage.findAll_append ha,
    List.flatMap_append, List.map_append]

theorem readSpec_of_notMem {b : List Char} (hb : '\x7d' ∉ b) :
    (readSpec b).endpoints = [] ∧ (readSpec b).schemas = [] := by
  have hservice : StopsAt '\x7d' (block? "service") := stopsAt_block (by decide)
  have hmessage : StopsAt '\x7d' (block? "message") := stopsAt_block (by decide)
  simp only [readSpec, hservice.findAll_eq_nil hb, hmessage.findAll_eq_nil hb, List.flatMap_nil,
    List.map_nil, and_self]

end Protobuf

/-- Both kinds of text are read part by part where they are cut behind a closing brace. -/
theorem reading_splits_at_brace {a : List Char} (ha : a = [] ∨ a.getLast? = some '\x7d')
    (b : List Char) :
    GraphQL.readSpec (a ++ b) =
        { GraphQL.readSpec a with
          endpoints := (GraphQL.readSpec a).endpoints ++ (GraphQL.readSpec b).endpoints
          schemas := (GraphQL.readSpec a).schemas ++ (GraphQL.readSpec b).schemas } ∧
      Protobuf.readSpec (a ++ b) =
        { Protobuf.readSpec a with
          endpoints := (Protobuf.readSpec a).endpoints ++ (Protobuf.readSpec b).endpoints
          schemas := (Protobuf.readSpec a).schemas ++ (Protobuf.readSpec b).schemas } ∧
      ('\x7d' ∉ b → GraphQL.readSpec (a ++ b) = GraphQL.readSpec a ∧
        Protobuf.readSpec (a ++ b) = Protobuf.readSpec a) := by
  refine ⟨GraphQL.readSpec_append ha b, Protobuf.readSpec_append ha b, fun hb => ⟨?_, ?_⟩⟩
  · obtain ⟨hendpoints, hschemas⟩ := GraphQL.readSpec_of_notMem hb
    rw [GraphQL.readSpec_append ha, hendpoints, hschemas, List.append_nil, List.append_nil]
  · obtain ⟨hendpoints, hschemas⟩ := Protobuf.readSpec_of_notMem hb
    rw [Protobuf.readSpec_append ha, hendpoints, hschemas, List.append_nil, List.append_nil]

/-- The second block stands in the first one, which is closed by its brace. -/
def Sample.nested : List Char := "type Pet \x7b type Query \x7b name: String \x7d".toList

/-- The rest of the first block and a block that is never closed. -/
def Sample.unclosed : List Char := " kind: Kind! type Toy \x7b size: Int".toList

theorem nested_block_splits_at_brace :
    (Sample.nested = [] ∨ Sample.nested.getLast? = some '\x7d') ∧ '\x7d' ∉ Sample.unclosed ∧
      (GraphQL.readSpec Sample.nested).schemas.map Schema.name = ["Pet"] ∧
      GraphQL.readSpec (Sample.nested ++ Sample.unclosed) = GraphQL.readSpec Sample.nested ∧
      Protobuf.readSpec (Sample.nested ++ Sample.unclosed) = Protobuf.readSpec Sample.nested :=
  ⟨.inr (by decide), by decide, by decide +kernel,
    (reading_splits_at_brace (.inr (by decide)) _).2.2 (by decide)⟩

end ApiDrift
