import ApiDrift.Proofs.Words
import ApiDrift.Reading.Protobuf

/-!
# Services and messages as they are written

Services and messages are written one after the other in any order, each call or field on a line of
its own. The text is read by two scans, one for each kind of block. Each gives back its own blocks,
in order and with all their lines, and finds nothing in the blocks of the other kind, whatever the
names are: they may be keywords, or begin or end with one.
-/
namespace ApiDrift.Protobuf
open Text

/-- A call as it is written. -/
structure CallForm where
  method : Word
  request : Word
  response : Word

inductive Modifier where
  | optional
  | required
  | repeated
deriving DecidableEq, Repr

/-- A text of one or more decimal digits. -/
structure Digits where
  text : List Char
  ne_nil : text ≠ []
  all : ∀ c ∈ text, isDigit c = true

/-- A field as it is written. -/
structure FieldForm where
  modifier : Option Modifier
  type : Word
  name : Word
  number : Digits

inductive BlockForm where
  | service (name : Word) (calls : List CallForm)
  | message (name : Word) (fields : List FieldForm)

inductive Kind where
  | service
  | message
deriving DecidableEq, Repr

def CallForm.text (c : CallForm) : List Char :=
  "rpc ".toList ++ (c.method.text ++ '(' :: (c.request.text ++ (") returns (".toList ++
    (c.response.text ++ [')']))))

def Modifier.keyword : Modifier → String
  | optional => "optional"
  | required => "required"
  | repeated => "repeated"

namespace FieldForm

def modifierText (f : FieldForm) : List Char :=
  match f.modifier with
  | none => []
  | some m => m.keyword.toList ++ [' ']

def text (f : FieldForm) : List Char :=
  f.modifierText ++ (f.type.text ++ ' ' :: (f.name.text ++ (" = ".toList ++ f.number.text)))

end FieldForm

def Kind.keyword : Kind → String
  | service => "service"
  | message => "message"

namespace BlockForm

def kind : BlockForm → Kind
  | service _ _ => .service
  | message _ _ => .message

def name : BlockForm → Word
  | service name _ => name
  | message name _ => name

def lines : BlockForm → List (List Char)
  | service _ calls => calls.map CallForm.text
  | message _ fields => fields.map FieldForm.text

def body (b : BlockForm) : List Char := '\n' :: b.lines.flatMap (line [';'])

/-- A block up to its closing brace. -/
def block (b : BlockForm) : List Char :=
  b.kind.keyword.toList ++ ' ' :: (b.name.text ++ (" \x7b".toList ++ (b.body ++ ['\x7d'])))

def text (b : BlockForm) : List Char := b.block ++ ['\n']

end BlockForm

/-! What the blocks declare, stated without reference to their text. -/

def CallForm.endpoint (service : String) (c : CallForm) : Endpoint :=
  { id := service ++ "-" ++ String.ofList c.method.text
    path := "/" ++ service ++ "/" ++ String.ofList c.method.text
    method := "RPC"
    operationId := some (String.ofList c.method.text)
    parameters :=
      [{ name := "request", location := "body", type := String.ofList c.request.text
         required := true }]
    responses := [{ statusCode := "200", description := String.ofList c.response.text }]
    tags := [service] }

def FieldForm.property (f : FieldForm) : Property :=
  { name := String.ofList f.name.text
    type := String.ofList f.type.text
    required := f.modifier = some .required }

namespace BlockForm

def endpoints : BlockForm → List Endpoint
  | service name calls => calls.map (CallForm.endpoint (String.ofList name.text))
  | message _ _ => []

def schemas : BlockForm → List Schema
  | service _ _ => []
  | message name fields =>
    [{ name := String.ofList name.text
       type := "message"
       properties := fields.map FieldForm.property
       required := (fields.filter fun f => f.modifier = some .required).map fun f =>
         String.ofList f.name.text }]

end BlockForm

section
variable {rest : List Char}

/-! The written forms in front of further text, taken apart at their words. -/

theorem CallForm.text_append (c : CallForm) (rest : List Char) :
    c.text ++ rest = "rpc".toList ++ ' ' :: (c.method.text ++ '(' :: (c.request.text ++
      ')' :: ' ' :: ("returns".toList ++ ' ' :: '(' :: (c.response.text ++ ')' :: rest)))) := by
  unfold text
  simp only [List.append_assoc, List.cons_append, List.nil_append]
  rfl

theorem FieldForm.text_append (f : FieldForm) (rest : List Char) :
    f.text ++ rest = f.modifierText ++ (f.type.text ++ ' ' :: (f.name.text ++
      ' ' :: '=' :: ' ' :: (f.number.text ++ rest))) := by
  unfold text
  simp only [List.append_assoc, List.cons_append]
  rfl

theorem BlockForm.block_append (b : BlockForm) (rest : List Char) :
    b.block ++ rest = b.kind.keyword.toList ++ ' ' :: (b.name.text ++
      ' ' :: '\x7b' :: (b.body ++ '\x7d' :: rest)) := by
  simp only [block, List.append_assoc, List.cons_append, List.nil_append]
  rfl

/-! ### A line is read back -/

theorem inParentheses?_text (w : Word) :
    inParentheses? ('(' :: (w.text ++ ')' :: rest)) = some (w.text, rest) := by
  have hword : isWordChar ')' = false := by decide
  simp only [inParentheses?, char?, if_true, Option.bind_eq_bind, Option.bind_some, w.read hword,
    Option.pure_def]

def CallForm.call (c : CallForm) : Call := ⟨c.method.text, c.request.text, c.response.text⟩

theorem CallForm.call?_text (c : CallForm) :
    call? (c.text ++ rest) = some (c.call, rest) := by
  have hparenthesis : isWordChar '(' = false := by decide
  have hblank : isBlank '(' = false := by decide
  have hskip : ∀ cs, skipBlanks (' ' :: ("returns".toList ++ cs)) = "returns".toList ++ cs :=
    fun _ => rfl
  have hmethod : ∀ cs, blankWord? (' ' :: (c.method.text ++ '(' :: cs)) =
      some (c.method.text, '(' :: cs) := fun _ => c.method.readAfterBlank hparenthesis
  simp only [text_append, call?, literal?_self, Option.bind_eq_bind, Option.bind_some, hmethod,
    skipBlanks_cons_of_not hblank, inParentheses?_text, hskip, skipBlanks_space, Option.pure_def,
    call]

theorem Digits.notMem (n : Digits) {c : Char} (hc : isDigit c = false) : c ∉ n.text :=
  fun hmem => by
    rw [n.all c hmem] at hc
    cases hc

theorem numbered?_text (m : Option String) (type name : Word) (number : Digits) :
    numbered? m (type.text ++ ' ' :: (name.text ++ ' ' :: '=' :: ' ' ::
      (number.text ++ ';' :: rest))) = some (⟨m, type.text, name.text⟩, ';' :: rest) := by
  have hblank : isBlank '=' = false := by decide
  have hdigit : isDigit ';' = false := by decide
  have htake : number.text.takeWhile isDigit = number.text :=
    List.takeWhile_eq_self_iff.mpr number.all
  have hdrop : number.text.dropWhile isDigit = [] := List.dropWhile_eq_nil_iff.mpr number.all
  have hskip : skipBlanks (number.text ++ ';' :: rest) = number.text ++ ';' :: rest := by
    obtain ⟨d, ds, hnumber⟩ := List.exists_cons_of_ne_nil number.ne_nil
    have hd : isDigit d = true := number.all d (hnumber ▸ List.mem_cons_self)
    rw [hnumber, List.cons_append,
      skipBlanks_cons_of_not (not_isBlank_of_class (by decide +kernel) hd)]
  simp only [numbered?, type.read isWordChar_space, Option.bind_eq_bind, Option.bind_some,
    name.readAfterBlank isWordChar_space, skipBlanks_space, skipBlanks_cons_of_not hblank, char?,
    if_true, hskip, takeWhile_append_cons hdigit, dropWhile_append_cons hdigit, htake, hdrop,
    List.nil_append, List.isEmpty_eq_false_iff.mpr number.ne_nil, Bool.false_eq_true, if_false]

theorem Modifier.all_isWordChar (m : Modifier) : m.keyword.toList.all isWordChar = true := by
  cases m <;> decide

theorem modified?_self (m : Modifier) (type : Word) (cs : List Char) :
    modified? m.keyword (m.keyword.toList ++ ' ' :: (type.text ++ cs)) =
      numbered? (some m.keyword) (type.text ++ cs) := by
  simp only [modified?, literal?_self, Option.bind_eq_bind, Option.bind_some, blanks?_space,
    type.skipBlanks_append]

theorem modified?_of_ne {m n : Modifier} (h : m ≠ n) (cs : List Char) :
    modified? n.keyword (m.keyword.toList ++ cs) = none := by
  cases m <;> cases n <;> first | rfl | exact absurd rfl h

/-- A type may have the name of a modifier. The name and the sign behind it are no type and name. -/
theorem modified?_type (m : Modifier) (type name : Word) (cs : List Char) :
    modified? m.keyword (type.text ++ ' ' :: (name.text ++ ' ' :: '=' :: cs)) = none := by
  have hword : ∀ d rest, isWordChar d = true →
      (blanks? (d :: rest) >>= numbered? (some m.keyword)) = none := by
    intro d rest hd
    rw [blanks?_of_not (not_isBlank_of_isWordChar hd)]
    rfl
  have hequals : blankWord? (' ' :: '=' :: cs) = none :=
    blankWord?_space_of_not (by decide) (by decide) cs
  have hnone : (blanks? (' ' :: (name.text ++ ' ' :: '=' :: cs)) >>=
      numbered? (some m.keyword)) = none := by
    simp only [blanks?_space, name.skipBlanks_append, numbered?, name.read isWordChar_space,
      hequals, Option.bind_eq_bind, Option.bind_some, Option.bind_none]
  have hbind := literal?_word_bind (g := fun rest => blanks? rest >>= numbered? (some m.keyword))
    m.all_isWordChar type.all isWordChar_space hword (name.text ++ ' ' :: '=' :: cs)
  rw [hnone, ite_self] at hbind
  exact hbind

def FieldForm.field (f : FieldForm) : Field :=
  ⟨f.modifier.map Modifier.keyword, f.type.text, f.name.text⟩

theorem field?_eq (cs : List Char) :
    field? cs = ((modified? Modifier.optional.keyword cs).or
      ((modified? Modifier.required.keyword cs).or
        (modified? Modifier.repeated.keyword cs))).or (numbered? none cs) := by
  simp only [field?, modifiers, List.findSome?_cons, List.findSome?_nil, Modifier.keyword]
  cases modified? "optional" cs with
  | some p => rfl
  | none =>
    cases modified? "required" cs with
    | some p => rfl
    | none => cases modified? "repeated" cs <;> rfl

theorem FieldForm.field?_text (f : FieldForm) :
    field? (f.text ++ ';' :: rest) = some (f.field, ';' :: rest) := by
  rw [field?_eq]
  cases h : f.modifier with
  | none =>
    simp only [text_append, modifierText, h, List.nil_append, modified?_type, numbered?_text, field,
      Option.map_none, Option.none_or]
  | some m =>
    have hself : modified? m.keyword (f.text ++ ';' :: rest) = some (f.field, ';' :: rest) := by
      simp only [text_append, modifierText, h, List.append_assoc, List.cons_append, List.nil_append,
        modified?_self, numbered?_text, field, Option.map_some]
    have hother : ∀ n, m ≠ n → modified? n.keyword (f.text ++ ';' :: rest) = none := by
      intro n hne
      simp only [text_append, modifierText, h, List.append_assoc, modified?_of_ne hne]
    cases m with
    | optional => rw [hself, Option.some_or, Option.some_or]
    | required => rw [hother .optional (by decide), hself, Option.none_or, Option.some_or,
        Option.some_or]
    | repeated => rw [hother .optional (by decide), hother .required (by decide), hself,
        Option.none_or, Option.none_or, Option.some_or]

theorem beginsWithWord_call : BeginsWithWord call? :=
  .literal (by decide) (by decide) _

theorem beginsWithWord_field : BeginsWithWord field? := by
  intro c rest hc
  have hmodified : ∀ m : Modifier, modified? m.keyword (c :: rest) = none := by
    intro m
    have hne : m.keyword.toList ≠ [] := by cases m <;> decide
    rw [modified?, literal?_of_not m.all_isWordChar hne hc]
    rfl
  have hnumbered : numbered? none (c :: rest) = none := by
    rw [numbered?, word?_of_not hc]
    rfl
  rw [field?_eq, hmodified, hmodified, hmodified, hnumbered]
  rfl

/-! ### A scan for blocks passes over lines -/

/-- What follows the keyword of a block. -/
def afterKeyword? : Recogniser Block := fun cs => do
  let (name, rest) ← blankWord? cs
  let (body, rest) ← braced? (skipBlanks rest)
  return (⟨name, body⟩, rest)

theorem block?_eq (keyword : String) (cs : List Char) :
    block? keyword cs = literal? keyword cs >>= afterKeyword? := rfl

theorem Kind.all_isWordChar (k : Kind) : k.keyword.toList.all isWordChar = true := by
  cases k <;> decide

theorem beginsWithWord_block (k : Kind) : BeginsWithWord (block? k.keyword) :=
  .literal k.all_isWordChar (by cases k <;> decide) _

theorem braced?_of_ne {c : Char} (h : c ≠ '\x7b') : braced? (c :: rest) = none := by
  simp [braced?, char?, h]

theorem braced?_word (w : Word) : braced? (w.text ++ rest) = none := by
  obtain ⟨d, ds, hw, hd⟩ := w.exists_cons
  rw [hw]
  refine braced?_of_ne fun heq => ?_
  rw [heq] at hd
  revert hd
  decide

section
variable {c : Char}

theorem afterKeyword?_of_not (h : isBlank c = false) : afterKeyword? (c :: rest) = none := by
  rw [afterKeyword?, blankWord?, blanks?_of_not h]
  rfl

theorem afterKeyword?_space_of_not (hblank : isBlank c = false) (hword : isWordChar c = false) :
    afterKeyword? (' ' :: c :: rest) = none := by
  rw [afterKeyword?, blankWord?_space_of_not hblank hword]
  rfl

theorem afterKeyword?_word (w : Word) (hc : isWordChar c = false)
    (h : braced? (skipBlanks (c :: rest)) = none) :
    afterKeyword? (' ' :: (w.text ++ c :: rest)) = none := by
  simp only [afterKeyword?, w.readAfterBlank hc, Option.bind_eq_bind, Option.bind_some, h,
    Option.bind_none]

theorem afterKeyword?_body (w : Word) {body : List Char} (hbody : '\x7d' ∉ body)
    (hne : body ≠ []) :
    afterKeyword? (' ' :: (w.text ++ ' ' :: '\x7b' :: (body ++ '\x7d' :: rest))) =
      some (⟨w.text, body⟩, rest) := by
  have hbrace : isBlank '\x7b' = false := by decide
  simp only [afterKeyword?, w.readAfterBlank isWordChar_space, Option.bind_eq_bind,
    Option.bind_some, skipBlanks_space, skipBlanks_cons_of_not hbrace, braced?_append hbody,
    List.isEmpty_eq_false_iff.mpr hne, Bool.false_eq_true, if_false, Option.pure_def]

theorem findAll_block_cons (k : Kind) (hc : isWordChar c = false) :
    findAll (block? k.keyword) (c :: rest) = findAll (block? k.keyword) rest :=
  findAll_cons_of_none (beginsWithWord_block k c rest hc)

/-- No block begins in a word that does not end with its keyword, or without name and body behind.
-/
theorem findAll_block_word (k : Kind) {w : List Char} (hw : ∀ d ∈ w, isWordChar d = true)
    (hc : isWordChar c = false)
    (h : ¬ k.keyword.toList <:+ w ∨ afterKeyword? (c :: rest) = none) :
    findAll (block? k.keyword) (w ++ c :: rest) = findAll (block? k.keyword) rest := by
  have hword : ∀ d cs, isWordChar d = true → afterKeyword? (d :: cs) = none := fun d cs hd =>
    afterKeyword?_of_not (not_isBlank_of_isWordChar hd)
  rw [findAll_append_of_suffix, findAll_block_cons k hc]
  intro s hs _
  rw [block?_eq, literal?_word_bind k.all_isWordChar (fun d hd => hw d (hs.mem hd)) hc hword]
  split_ifs with heq
  · exact h.resolve_left fun hnot => hnot (heq ▸ hs)
  · rfl

theorem findAll_block_name (k : Kind) (w : Word) (hc : isWordChar c = false)
    (hblank : isBlank c = false) :
    findAll (block? k.keyword) (w.text ++ c :: rest) = findAll (block? k.keyword) rest :=
  findAll_block_word k w.all hc (.inr (afterKeyword?_of_not hblank))

theorem findAll_block_number (k : Kind) (n : Digits) :
    findAll (block? k.keyword) (n.text ++ rest) = findAll (block? k.keyword) rest := by
  refine findAll_append_of_forall_none (fun d hd cs => ?_) rest
  have hs : d ≠ 's' := fun heq => n.notMem (by decide) (heq ▸ hd)
  have hm : d ≠ 'm' := fun heq => n.notMem (by decide) (heq ▸ hd)
  cases k with
  | service => simp [block?, literal?, Kind.keyword, hs.symm]
  | message => simp [block?, literal?, Kind.keyword, hm.symm]

end

theorem findAll_block_line (k : Kind) (entry rest : List Char) :
    findAll (block? k.keyword) (line [';'] entry ++ rest) =
      findAll (block? k.keyword) (entry ++ ';' :: '\n' :: rest) := by
  have hindent : "  ".toList = [' ', ' '] := rfl
  simp only [line, hindent, List.append_assoc, List.cons_append, List.nil_append,
    findAll_block_cons k isWordChar_space]

theorem findAll_block_call (k : Kind) (c : CallForm) :
    findAll (block? k.keyword) (line [';'] c.text ++ rest) = findAll (block? k.keyword) rest := by
  -- One step for each word with the character behind it, and one for each character on its own.
  rw [findAll_block_line, c.text_append,
    findAll_block_word k (List.all_eq_true.mp (by decide)) isWordChar_space
      (.inr (afterKeyword?_word _ (by decide) rfl)),
    findAll_block_name k _ (by decide) (by decide),
    findAll_block_name k _ (by decide) (by decide), findAll_block_cons k isWordChar_space,
    findAll_block_word k (List.all_eq_true.mp (by decide)) isWordChar_space
      (.inr (afterKeyword?_space_of_not (by decide) (by decide))),
    findAll_block_cons k (by decide), findAll_block_name k _ (by decide) (by decide),
    findAll_block_cons k (by decide), findAll_block_cons k (by decide)]

theorem findAll_block_field (k : Kind) (f : FieldForm) :
    findAll (block? k.keyword) (line [';'] f.text ++ rest) = findAll (block? k.keyword) rest := by
  have hname : ∀ cs, braced? (skipBlanks (' ' :: (f.name.text ++ cs))) = none := by
    intro cs
    rw [skipBlanks_space, f.name.skipBlanks_append]
    exact braced?_word f.name
  have hmodifier : ∀ cs, findAll (block? k.keyword) (f.modifierText ++ (f.type.text ++
      ' ' :: (f.name.text ++ cs))) = findAll (block? k.keyword) (f.type.text ++
      ' ' :: (f.name.text ++ cs)) := by
    intro cs
    unfold FieldForm.modifierText
    split
    · rfl
    · next m _ =>
      rw [List.append_assoc, List.singleton_append]
      exact findAll_block_word k (List.all_eq_true.mp m.all_isWordChar) isWordChar_space
        (.inr (afterKeyword?_word f.type isWordChar_space (hname cs)))
  rw [findAll_block_line, f.text_append, hmodifier,
    findAll_block_word k f.type.all isWordChar_space
      (.inr (afterKeyword?_word f.name isWordChar_space rfl)),
    findAll_block_word k f.name.all isWordChar_space
      (.inr (afterKeyword?_space_of_not (by decide) (by decide))),
    findAll_block_cons k (by decide), findAll_block_cons k isWordChar_space, findAll_block_number,
    findAll_block_cons k (by decide), findAll_block_cons k (by decide)]

/-! ### Every scan finds the blocks of its kind -/

theorem BlockForm.findAll_lines (k : Kind) (b : BlockForm) :
    findAll (block? k.keyword) (b.lines.flatMap (line [';']) ++ rest) =
      findAll (block? k.keyword) rest := by
  have hline : ∀ l ∈ b.lines, ∀ rest,
      findAll (block? k.keyword) (line [';'] l ++ rest) = findAll (block? k.keyword) rest := by
    intro l hl rest
    cases b with
    | service name calls =>
      obtain ⟨c, -, rfl⟩ := List.mem_map.mp hl
      exact findAll_block_call k c
    | message name fields =>
      obtain ⟨f, -, rfl⟩ := List.mem_map.mp hl
      exact findAll_block_field k f
  generalize b.lines = ls at hline
  induction ls with
  | nil => rfl
  | cons l ls ih =>
    rw [List.flatMap_cons, List.append_assoc, hline l List.mem_cons_self]
    exact ih fun l' hl' => hline l' (List.mem_cons_of_mem l hl')

theorem BlockForm.findAll_block_of_ne {k : Kind} (b : BlockForm) (h : b.kind ≠ k) :
    findAll (block? k.keyword) (b.block ++ rest) = findAll (block? k.keyword) rest := by
  have hkeyword : ¬ k.keyword.toList <:+ b.kind.keyword.toList := by
    revert h
    cases b.kind <;> cases k <;> decide
  rw [block_append,
    findAll_block_word k (List.all_eq_true.mp b.kind.all_isWordChar) isWordChar_space
      (.inl hkeyword),
    findAll_block_word k b.name.all isWordChar_space
      (.inr (afterKeyword?_space_of_not (by decide) (by decide))),
    findAll_block_cons k (by decide), body, List.cons_append, findAll_block_cons k (by decide),
    b.findAll_lines, findAll_block_cons k (by decide)]

theorem BlockForm.brace_notMem_body (b : BlockForm) : '\x7d' ∉ b.body := by
  have hword : ∀ w : Word, '\x7d' ∉ w.text := fun w => w.notMem (by decide)
  have hlines : ∀ l ∈ b.lines, '\x7d' ∉ l := by
    intro l hl
    cases b with
    | service name calls =>
      obtain ⟨c, -, rfl⟩ := List.mem_map.mp hl
      unfold CallForm.text
      simp [hword]
    | message name fields =>
      obtain ⟨f, -, rfl⟩ := List.mem_map.mp hl
      have hnumber : '\x7d' ∉ f.number.text := f.number.notMem (by decide)
      have hmodifier : '\x7d' ∉ f.modifierText := by
        unfold FieldForm.modifierText
        split
        · simp
        · next m _ => cases m <;> decide
      simp [FieldForm.text, hword, hnumber, hmodifier]
  simp only [body, List.mem_cons, List.mem_flatMap, not_or, not_exists, not_and]
  refine ⟨by decide, fun l hl => ?_⟩
  simp [line, hlines l hl]

def BlockForm.read (b : BlockForm) : Block := ⟨b.name.text, b.body⟩

theorem BlockForm.block?_block (b : BlockForm) :
    block? b.kind.keyword (b.block ++ rest) = some (b.read, rest) := by
  simp only [block_append, block?_eq, literal?_self, Option.bind_eq_bind, Option.bind_some]
  exact afterKeyword?_body b.name b.brace_notMem_body (List.cons_ne_nil _ _)

theorem BlockForm.findAll_block (k : Kind) (bs : List BlockForm) :
    findAll (block? k.keyword) (bs.flatMap text) = (bs.filter fun b => b.kind = k).map read := by
  induction bs with
  | nil => rfl
  | cons b bs ih =>
    have hnewline : findAll (block? k.keyword) ('\n' :: bs.flatMap text) =
        (bs.filter fun b => b.kind = k).map read :=
      (findAll_block_cons k (by decide)).trans ih
    rw [List.flatMap_cons, text, List.append_assoc, List.singleton_append]
    by_cases hk : b.kind = k
    · have hne : b.block ≠ [] := List.append_ne_nil_of_right_ne_nil _ (List.cons_ne_nil _ _)
      have hblock : block? k.keyword (b.block ++ '\n' :: bs.flatMap text) =
          some (b.read, '\n' :: bs.flatMap text) := hk ▸ b.block?_block
      rw [findAll_append_of_some hne hblock, hnewline, List.filter_cons_of_pos (by simpa using hk),
        List.map_cons]
    · rw [b.findAll_block_of_ne hk, hnewline, List.filter_cons_of_neg (by simpa using hk)]

theorem BlockForm.endpoints_read (name : Word) (calls : List CallForm) :
    (service name calls).read.endpoints = (service name calls).endpoints := by
  have hne : ∀ c ∈ calls, c.text ≠ [] := fun c _ =>
    List.append_ne_nil_of_left_ne_nil (by decide) _
  have hcalls : findAll call? (service name calls).body = calls.map CallForm.call := by
    rw [body, lines, List.flatMap_map]
    exact beginsWithWord_call.findAll_lines (by decide) hne fun c _ rest => c.call?_text
  simp only [read, Block.endpoints, hcalls, List.map_map]
  rfl

theorem Field.property_field (f : FieldForm) : f.field.property = f.property := by
  have hrequired : (f.modifier.map Modifier.keyword == some "required") =
      decide (f.modifier = some .required) := by
    cases f.modifier with
    | none => rfl
    | some m => cases m <;> decide
  simp only [Field.property, FieldForm.field, FieldForm.property, hrequired]

theorem BlockForm.schema_read (name : Word) (fields : List FieldForm) :
    [(message name fields).read.schema] = (message name fields).schemas := by
  have hne : ∀ f ∈ fields, f.text ≠ [] := by
    intro f _
    simp [FieldForm.text]
  have hfields : findAll field? (message name fields).body = fields.map FieldForm.field := by
    rw [body, lines, List.flatMap_map]
    exact beginsWithWord_field.findAll_lines (by decide) hne fun f _ rest => f.field?_text
  have hproperties : (findAll field? (message name fields).read.body).map Field.property =
      fields.map FieldForm.property := by
    rw [read, hfields, List.map_map]
    exact List.map_congr_left fun f _ => Field.property_field f
  simp only [Block.schema, hproperties, List.filter_map, List.map_map]
  rfl

theorem BlockForm.flatMap_endpoints_read (bs : List BlockForm) :
    ((bs.filter fun b => b.kind = .service).map read).flatMap Block.endpoints =
      bs.flatMap endpoints := by
  induction bs with
  | nil => rfl
  | cons b bs ih =>
    cases b with
    | service name calls =>
      rw [List.filter_cons_of_pos (by rfl), List.map_cons, List.flatMap_cons, ih, endpoints_read,
        List.flatMap_cons]
    | message name fields =>
      rw [List.filter_cons_of_neg (by simp [kind]), ih, List.flatMap_cons]
      rfl

theorem BlockForm.map_schema_read (bs : List BlockForm) :
    ((bs.filter fun b => b.kind = .message).map read).map Block.schema = bs.flatMap schemas := by
  induction bs with
  | nil => rfl
  | cons b bs ih =>
    cases b with
    | service name calls =>
      rw [List.filter_cons_of_neg (by simp [kind]), ih, List.flatMap_cons]
      rfl
    | message name fields =>
      rw [List.filter_cons_of_pos (by rfl), List.map_cons, List.map_cons, ih, List.flatMap_cons,
        ← schema_read, List.singleton_append]

end

/-- Reading undoes writing. -/
theorem readSpec_blocks (bs : List BlockForm) :
    readSpec (bs.flatMap BlockForm.text) =
      { name := "Protocol Buffer Service"
        version := "1.0.0"
        format := .grpc
        endpoints := bs.flatMap BlockForm.endpoints
        schemas := bs.flatMap BlockForm.schemas } := by
  rw [← BlockForm.flatMap_endpoints_read, ← BlockForm.map_schema_read, ← BlockForm.findAll_block,
    ← BlockForm.findAll_block]
  rfl

/-- A message between two services, with each modifier and with names that are keywords. -/
def Sample.mailroom : List BlockForm :=
  let request := Sample.word "requiredThing" (by decide)
  let answer := Sample.word "message" (by decide)
  let number : Digits := ⟨"12".toList, by decide, List.all_eq_true.mp (by decide)⟩
  [.service (Sample.word "Mail" (by decide))
     [⟨Sample.word "Send" (by decide), request, answer⟩,
      ⟨Sample.word "rpc" (by decide), answer, request⟩],
   .message answer
     [⟨some .required, request, Sample.word "optional" (by decide), number⟩,
      ⟨some .repeated, answer, Sample.word "required" (by decide), number⟩,
      ⟨some .optional, request, Sample.word "note" (by decide), number⟩,
      ⟨none, answer, Sample.word "repeated" (by decide), number⟩],
   .service (Sample.word "service" (by decide)) []]

theorem mailroom_is_read :
    Sample.mailroom.flatMap BlockForm.text =
      ("service Mail \x7b\n  rpc Send(requiredThing) returns (message);\n".toList ++
        "  rpc rpc(message) returns (requiredThing);\n\x7d\n".toList ++
        "message message \x7b\n  required requiredThing optional = 12;\n".toList ++
        "  repeated message required = 12;\n  optional requiredThing note = 12;\n".toList ++
        "  message repeated = 12;\n\x7d\nservice service \x7b\n\x7d\n".toList) ∧
    let s := readSpec (Sample.mailroom.flatMap BlockForm.text)
    s.endpoints.map (fun e => (e.id, e.path, e.parameters.map (·.type))) =
        [("Mail-Send", "/Mail/Send", ["requiredThing"]), ("Mail-rpc", "/Mail/rpc", ["message"])] ∧
      s.schemas.map (fun x => (x.name, x.properties.map (·.name), x.required)) =
        [("message", ["optional", "required", "note", "repeated"], ["optional"])] := by
  refine ⟨by decide +kernel, ?_⟩
  rw [readSpec_blocks Sample.mailroom]
  decide +kernel

end ApiDrift.Protobuf
