import ApiDrift.Proofs.Words
import ApiDrift.Reading.GraphQL
import Mathlib.Data.List.Basic

/-!
# Type definitions as they are written

Type definitions are written one after the other, each field on a line of its own. Reading the text
gives back every field of a root type as an operation and every other definition as a schema, in
order and with nothing lost, merged or invented. Names may be keywords or end with one, and the
arguments of an operation may look like fields.
-/
namespace ApiDrift.GraphQL
open Text

/-- A named type or a list of one, each perhaps marked as never null. -/
inductive TypeForm where
  | named (name : Word) (nonNull : Bool)
  | list (item : Word) (itemNonNull nonNull : Bool)

def nullMark (nonNull : Bool) : List Char := if nonNull then ['!'] else []

namespace TypeForm

def text : TypeForm → List Char
  | named name nonNull => name.text ++ nullMark nonNull
  | list item itemNonNull nonNull =>
    '[' :: (item.text ++ (nullMark itemNonNull ++ ']' :: nullMark nonNull))

def nonNull : TypeForm → Bool
  | named _ nonNull => nonNull
  | list _ _ nonNull => nonNull

end TypeForm

/-- What stands in the parentheses behind the name of an operation. -/
structure Arguments where
  text : List Char
  parenthesis_notMem : ')' ∉ text
  brace_notMem : '\x7d' ∉ text

structure Member where
  name : Word
  arguments : Option Arguments
  type : TypeForm

namespace Member

def argumentText (m : Member) : List Char :=
  match m.arguments with
  | none => []
  | some a => '(' :: (a.text ++ [')'])

def text (m : Member) : List Char :=
  m.name.text ++ (m.argumentText ++ (": ".toList ++ m.type.text))

end Member

def rootNames : List String := ["Query", "Mutation", "Subscription"]

/-- A definition of a type. Only the fields of root types have arguments. -/
structure TypeDefinition where
  name : Word
  interface : Option Word
  members : List Member
  arguments_eq_none :
    String.ofList name.text ∉ rootNames → ∀ m ∈ members, m.arguments = none

namespace TypeDefinition

def interfaceText (d : TypeDefinition) : List Char :=
  match d.interface with
  | none => []
  | some i => " implements ".toList ++ i.text

def body (d : TypeDefinition) : List Char := '\n' :: d.members.flatMap fun m => line [] m.text

def block (d : TypeDefinition) : List Char :=
  "type ".toList ++ (d.name.text ++ (d.interfaceText ++ (" \x7b".toList ++ (d.body ++ ['\x7d']))))

def text (d : TypeDefinition) : List Char := d.block ++ ['\n']

def typeName (d : TypeDefinition) : String := String.ofList d.name.text

end TypeDefinition

/-! What the definitions declare, stated without reference to their text. -/

def Member.operation (root : String) (m : Member) : Endpoint :=
  { id := root ++ "-" ++ String.ofList m.name.text
    path := String.ofList m.name.text
    method := root.toUpper
    operationId := some (String.ofList m.name.text)
    responses := [{ statusCode := "200", description := String.ofList m.type.text }]
    tags := [root] }

def Member.property (m : Member) : Property :=
  { name := String.ofList m.name.text
    type := String.ofList m.type.text
    required := m.type.nonNull }

def TypeDefinition.operations (d : TypeDefinition) : List Endpoint :=
  if d.typeName ∈ rootNames then d.members.map (Member.operation d.typeName) else []

def TypeDefinition.schemas (d : TypeDefinition) : List Schema :=
  if d.typeName ∈ rootNames then []
  else
    [{ name := d.typeName
       properties := d.members.map Member.property
       required :=
        (d.members.filter fun m => m.type.nonNull).map fun m => String.ofList m.name.text }]

section
variable {c d : Char} {rest : List Char}

theorem optionalChar_self : optionalChar c (c :: rest) = ([c], rest) := by
  simp [optionalChar, char?]

theorem optionalChar_of_ne (h : d ≠ c) : optionalChar c (d :: rest) = ([], d :: rest) := by
  simp [optionalChar, char?, h]

theorem optionalChar_nullMark (h : c ≠ '!') (b : Bool) :
    optionalChar '!' (nullMark b ++ c :: rest) = (nullMark b, c :: rest) := by
  cases b with
  | false => exact optionalChar_of_ne h
  | true => exact optionalChar_self

theorem read_nullMark (w : Word) (h : isWordChar c = false) (b : Bool) :
    word? (w.text ++ (nullMark b ++ c :: rest)) = some (w.text, nullMark b ++ c :: rest) := by
  cases b with
  | false => exact w.read h
  | true => exact w.read (by decide)

theorem optionalChar_word (h : isWordChar c = false) (w : Word) :
    optionalChar c (w.text ++ rest) = ([], w.text ++ rest) := by
  obtain ⟨d, ds, hw, hd⟩ := w.exists_cons
  rw [hw]
  refine optionalChar_of_ne fun heq => ?_
  rw [heq, h] at hd
  cases hd

theorem TypeForm.read (t : TypeForm) :
    typeText? (t.text ++ '\n' :: rest) = some (t.text, '\n' :: rest) := by
  have hword : isWordChar '\n' = false := by decide
  have hbracket : isWordChar ']' = false := by decide
  have hopening : isWordChar '[' = false := by decide
  have hnewline : ∀ c, '\n' ≠ c → optionalChar c ('\n' :: rest) = ([], '\n' :: rest) :=
    fun _ => optionalChar_of_ne
  cases t with
  | named w b =>
    simp only [typeText?, text, List.append_assoc, optionalChar_word hopening,
      read_nullMark w hword, Option.bind_eq_bind, Option.bind_some,
      optionalChar_nullMark (show '\n' ≠ '!' by decide), hnewline ']' (by decide),
      hnewline '!' (by decide), List.nil_append, List.append_nil, Option.pure_def]
  | list w i b =>
    simp only [typeText?, text, List.cons_append, List.append_assoc, optionalChar_self,
      read_nullMark w hbracket, Option.bind_eq_bind, Option.bind_some,
      optionalChar_nullMark (show ']' ≠ '!' by decide),
      optionalChar_nullMark (show '\n' ≠ '!' by decide), List.nil_append, Option.pure_def]

theorem TypeForm.skipBlanks_append (t : TypeForm) :
    skipBlanks (t.text ++ rest) = t.text ++ rest := by
  cases t with
  | named w b =>
    rw [text, List.append_assoc]
    exact w.skipBlanks_append _
  | list w i b => exact skipBlanks_cons_of_not (by decide) _

/-- The mark for a type that is never null is its last character. -/
theorem TypeForm.nonNull_iff (t : TypeForm) : t.nonNull = true ↔ t.text.getLast? = some '!' := by
  cases t with
  | named w b =>
    cases b with
    | true => simp [text, nonNull, nullMark]
    | false =>
      refine iff_of_false (by simp [nonNull]) fun hlast => ?_
      rw [text, nullMark, if_neg Bool.false_ne_true, List.append_nil] at hlast
      exact w.notMem (by decide) (List.mem_of_getLast? hlast)
  | list w i b => cases b <;> simp [text, nonNull, nullMark, List.getLast?_cons]

theorem colon_append (cs : List Char) : ": ".toList ++ cs = ':' :: ' ' :: cs := rfl

theorem fieldType?_text (name : List Char) (t : TypeForm) :
    fieldType? name (": ".toList ++ (t.text ++ '\n' :: rest)) =
      some (⟨name, t.text⟩, '\n' :: rest) := by
  have hblank : isBlank ':' = false := by decide
  simp only [fieldType?, colon_append, skipBlanks_cons_of_not hblank, char?, if_true,
    Option.bind_eq_bind, Option.bind_some, skipBlanks_space, t.skipBlanks_append, t.read,
    Option.pure_def]

namespace Member

def field (m : Member) : Field := ⟨m.name.text, m.type.text⟩

theorem read_name (m : Member) (cs : List Char) :
    word? (m.name.text ++ (m.argumentText ++ (": ".toList ++ cs))) =
      some (m.name.text, m.argumentText ++ (": ".toList ++ cs)) := by
  cases h : m.arguments with
  | none =>
    simp only [argumentText, h, List.nil_append]
    exact m.name.read (by decide)
  | some a =>
    simp only [argumentText, h, List.cons_append]
    exact m.name.read (by decide)

theorem skipArguments_text (m : Member) (cs : List Char) :
    skipArguments (m.argumentText ++ (": ".toList ++ cs)) = ": ".toList ++ cs := by
  cases h : m.arguments with
  | none =>
    simp only [argumentText, h, List.nil_append]
    rfl
  | some a =>
    have hdrop : (a.text ++ ')' :: (": ".toList ++ cs)).dropWhile (· != ')') =
        ')' :: (": ".toList ++ cs) := by
      rw [dropWhile_append_cons (by decide), dropWhile_eq_nil_of_notMem a.parenthesis_notMem,
        List.nil_append]
    simp only [argumentText, h, List.cons_append, List.append_assoc, skipArguments,
      List.nil_append, hdrop]

theorem field?_text (m : Member) (h : m.arguments = none) :
    field? (m.text ++ '\n' :: rest) = some (m.field, '\n' :: rest) := by
  have hnone : m.argumentText = [] := by rw [argumentText, h]
  have hname := m.read_name (m.type.text ++ '\n' :: rest)
  rw [hnone, List.nil_append] at hname
  simp only [field?, text, hnone, List.nil_append, List.append_assoc, hname, Option.bind_eq_bind,
    Option.bind_some, fieldType?_text, field]

theorem operation?_text (m : Member) :
    operation? (m.text ++ '\n' :: rest) = some (m.field, '\n' :: rest) := by
  simp only [operation?, text, List.append_assoc, read_name, skipArguments_text,
    Option.bind_eq_bind, Option.bind_some, fieldType?_text, field]

end Member

theorem beginsWithWord_field : BeginsWithWord field? := by
  intro c rest hc
  rw [field?, word?_of_not hc]
  rfl

theorem beginsWithWord_operation : BeginsWithWord operation? := by
  intro c rest hc
  rw [operation?, word?_of_not hc]
  rfl

/-- A body is read back as the fields that it was written from. -/
theorem TypeDefinition.findAll_operation (d : TypeDefinition) :
    findAll operation? d.body = d.members.map Member.field :=
  beginsWithWord_operation.findAll_lines (by simp) (fun m _ => by simp [Member.text])
    fun m _ rest => m.operation?_text

theorem TypeDefinition.findAll_field (d : TypeDefinition) (h : d.typeName ∉ rootNames) :
    findAll field? d.body = d.members.map Member.field :=
  beginsWithWord_field.findAll_lines (by simp) (fun m _ => by simp [Member.text])
    fun m hm rest => m.field?_text (d.arguments_eq_none h m hm)

theorem brace_notMem_member (m : Member) : '\x7d' ∉ m.text := by
  have hword : ∀ w : Word, '\x7d' ∉ w.text := fun w => w.notMem (by decide)
  have hmark : ∀ b, '\x7d' ∉ nullMark b := by decide
  have htype : '\x7d' ∉ m.type.text := by
    cases m.type <;> simp [TypeForm.text, hword, hmark]
  have harguments : '\x7d' ∉ m.argumentText := by
    unfold Member.argumentText
    split
    · simp
    · next a _ => simp [a.brace_notMem]
  simp [Member.text, hword, htype, harguments]

theorem TypeDefinition.brace_notMem_body (d : TypeDefinition) : '\x7d' ∉ d.body := by
  simp [body, line, brace_notMem_member]

/-- The opening brace with the space before it ends a name. -/
theorem blankWord?_opening (w : Word) (cs : List Char) :
    blankWord? (' ' :: (w.text ++ (" \x7b".toList ++ cs))) =
      some (w.text, " \x7b".toList ++ cs) :=
  w.readAfterBlank isWordChar_space

theorem bodyOf?_opening {body : List Char} (name : List Char) (hbody : '\x7d' ∉ body)
    (hne : body ≠ []) :
    bodyOf? name (" \x7b".toList ++ (body ++ '\x7d' :: rest)) = some (⟨name, body⟩, rest) := by
  have hempty : body.isEmpty = false := List.isEmpty_eq_false_iff.mpr hne
  have hskip : skipBlanks (" \x7b".toList ++ (body ++ '\x7d' :: rest)) =
      '\x7b' :: (body ++ '\x7d' :: rest) := rfl
  simp only [bodyOf?, hskip, braced?_append hbody, hempty, Bool.false_eq_true, if_false,
    Option.bind_eq_bind, Option.bind_some, Option.pure_def]

theorem interface?_text (i : Word) (cs : List Char) :
    interface? (skipBlanks (" implements ".toList ++ (i.text ++ (" \x7b".toList ++ cs)))) =
      some (" \x7b".toList ++ cs) := by
  have hskip : skipBlanks (" implements ".toList ++ (i.text ++ (" \x7b".toList ++ cs))) =
      "implements".toList ++ ' ' :: (i.text ++ (" \x7b".toList ++ cs)) := rfl
  rw [hskip]
  simp only [interface?, literal?_self, blankWord?_opening, Option.bind_eq_bind, Option.bind_some,
    Option.pure_def]

def TypeDefinition.declaration (d : TypeDefinition) : Declaration := ⟨d.name.text, d.body⟩

theorem TypeDefinition.declaration?_block (d : TypeDefinition) :
    declaration? (d.block ++ rest) = some (d.declaration, rest) := by
  have htype : ∀ cs, literal? "type" ("type ".toList ++ cs) = some (' ' :: cs) := fun _ => rfl
  have hbody : bodyOf? d.name.text (" \x7b".toList ++ (d.body ++ '\x7d' :: rest)) =
      some (d.declaration, rest) :=
    bodyOf?_opening d.name.text d.brace_notMem_body (List.cons_ne_nil _ _)
  unfold block
  simp only [declaration?, List.append_assoc, List.singleton_append, htype, Option.bind_eq_bind,
    Option.bind_some]
  cases h : d.interface with
  | none =>
    have hinterface : withInterface? d.name.text
        (skipBlanks (" \x7b".toList ++ (d.body ++ '\x7d' :: rest))) = none := rfl
    simp only [interfaceText, h, List.nil_append, blankWord?_opening, Option.bind_some, hinterface,
      hbody, Option.some_or, Option.none_or]
  | some i =>
    have hname : ∀ cs, blankWord? (' ' :: (d.name.text ++ (" implements ".toList ++ cs))) =
        some (d.name.text, " implements ".toList ++ cs) := fun _ =>
      d.name.readAfterBlank isWordChar_space
    simp only [interfaceText, h, List.append_assoc, hname, Option.bind_some, withInterface?,
      interface?_text, Option.bind_eq_bind, hbody, Option.some_or]

theorem TypeDefinition.findAll_declaration (ds : List TypeDefinition) :
    findAll declaration? (ds.flatMap text) = ds.map declaration := by
  induction ds with
  | nil => rfl
  | cons d ds ih =>
    have hne : d.block ≠ [] := List.append_ne_nil_of_left_ne_nil (by decide) _
    have hnewline : findAll declaration? ('\n' :: ds.flatMap text) = ds.map declaration :=
      (findAll_cons_of_none rfl).trans ih
    rw [List.flatMap_cons, text, List.append_assoc, List.singleton_append,
      findAll_append_of_some hne d.declaration?_block, hnewline, List.map_cons]

theorem lookup_rootMethods (name : String) :
    rootMethods.lookup name = if name ∈ rootNames then some name.toUpper else none := by
  by_cases h : name ∈ rootNames
  · have hall : ∀ n ∈ rootNames, rootMethods.lookup n = some n.toUpper := by decide +kernel
    rw [if_pos h, hall name h]
  · rw [if_neg h, List.lookup_eq_none_iff]
    intro p hp
    refine bne_iff_ne.mpr fun heq => h ?_
    exact heq ▸ List.mem_map_of_mem (f := Prod.fst) hp

theorem Field.property_field (m : Member) : m.field.property = m.property := by
  have hrequired : (m.type.text.getLast? == some '!') = m.type.nonNull := by
    rw [Bool.eq_iff_iff, beq_iff_eq, m.type.nonNull_iff]
  simp only [Field.property, Member.field, Member.property, hrequired]

namespace TypeDefinition

theorem method?_declaration (d : TypeDefinition) :
    d.declaration.method? = if d.typeName ∈ rootNames then some d.typeName.toUpper else none :=
  lookup_rootMethods d.typeName

theorem endpoints_declaration (d : TypeDefinition) : d.declaration.endpoints = d.operations := by
  rw [Declaration.endpoints, method?_declaration, operations]
  split_ifs with h
  · show (findAll operation? d.body).map _ = _
    rw [d.findAll_operation, List.map_map]
    rfl
  · rfl

theorem schemas_declaration (d : TypeDefinition) : d.declaration.schemas = d.schemas := by
  rw [Declaration.schemas, method?_declaration, schemas]
  split_ifs with h
  · rfl
  · have hproperties : (findAll field? d.declaration.body).map Field.property =
        d.members.map Member.property := by
      rw [declaration, d.findAll_field h, List.map_map]
      exact List.map_congr_left fun m _ => Field.property_field m
    simp only [hproperties, List.filter_map, List.map_map]
    rfl

end TypeDefinition

end

/-- Reading undoes writing. A field is required by the form of its type, which shows at the end of
the text of the type. -/
theorem readSpec_definitions (ds : List TypeDefinition) :
    readSpec (ds.flatMap TypeDefinition.text) =
      { name := "GraphQL Schema"
        version := "1.0.0"
        format := .graphql
        endpoints := ds.flatMap TypeDefinition.operations
        schemas := ds.flatMap TypeDefinition.schemas } ∧
      ∀ t : TypeForm, t.nonNull = true ↔ t.text.getLast? = some '!' := by
  refine ⟨?_, TypeForm.nonNull_iff⟩
  simp only [readSpec, TypeDefinition.findAll_declaration, List.flatMap_map,
    TypeDefinition.endpoints_declaration, TypeDefinition.schemas_declaration]

/-- A root type with arguments, and a type whose name and interface are keywords. -/
def Sample.blog : List TypeDefinition :=
  let type := Sample.word "type" (by decide)
  [{ name := Sample.word "Query" (by decide)
     interface := none
     members :=
      [⟨Sample.word "posts" (by decide), some ⟨"first: Int!".toList, by decide, by decide⟩,
         .list type true true⟩,
       ⟨type, none, .named type false⟩]
     arguments_eq_none := by decide },
   { name := type
     interface := some (Sample.word "implements" (by decide))
     members :=
      [⟨Sample.word "id" (by decide), none, .named (Sample.word "ID" (by decide)) true⟩,
       ⟨Sample.word "implements" (by decide), none, .list type true false⟩]
     arguments_eq_none := by decide }]

theorem blog_is_read :
    Sample.blog.flatMap TypeDefinition.text =
      "type Query \x7b\n  posts(first: Int!): [type!]!\n  type: type\n\x7d\n".toList ++
        "type type implements implements \x7b\n  id: ID!\n  implements: [type!]\n\x7d\n".toList ∧
    let s := readSpec (Sample.blog.flatMap TypeDefinition.text)
    s.endpoints.map (fun e => (e.id, e.method, e.responses.map (·.description))) =
        [("Query-posts", "QUERY", ["[type!]!"]), ("Query-type", "QUERY", ["type"])] ∧
      s.schemas.map (fun x => (x.name, x.properties.map (·.type), x.required)) =
        [("type", ["ID!", "[type!]"], ["id"])] := by
  refine ⟨by decide +kernel, ?_⟩
  rw [(readSpec_definitions Sample.blog).1]
  decide +kernel

end ApiDrift.GraphQL
