import ApiDrift.Proofs.Tokens

/-!
# Reading what was written

A value of nothing, truth values, whole numbers, texts, sequences and mappings with texts for keys
is read back from its data text as it was, in any layout that has nothing but blanks around its
commas and colons. Only a whole number with too many digits is refused, the first of them in the
order of the text. Where no more than ASCII is written, texts must hold no half of a surrogate pair:
two halves are read as one character. The reader has a bound of two for each character: one for a
value among its neighbours, one for the value itself.
-/
namespace ApiDrift
namespace Json
open Document
open Text hiding readText

variable {cs : List Char}

/-! ### Blanks -/

theorem skipSpace_blanks {blanks : List Char} (h : ∀ c ∈ blanks, isSpace c = true) :
    skipSpace (blanks ++ cs) = skipSpace cs :=
  List.dropWhile_append_of_pos h

theorem skipSpace_lineBreak (l : Layout) (level : Nat) :
    skipSpace (l.lineBreak level ++ cs) = skipSpace cs := by
  refine skipSpace_blanks fun c hc => ?_
  unfold Layout.lineBreak at hc
  split at hc
  · cases hc
  · rcases List.mem_cons.mp hc with rfl | hc
    · rfl
    · rw [List.eq_of_mem_replicate hc]
      rfl

theorem skipSpace_cons {c : Char} (h : isSpace c = false) : skipSpace (c :: cs) = c :: cs := by
  simp [skipSpace, h]

/-- A layout with nothing but blanks beside its commas and colons. -/
structure Layout.Readable (l : Layout) : Prop where
  comma : ∃ blanks, l.comma.toList = ',' :: blanks ∧ ∀ c ∈ blanks, isSpace c = true
  colon : ∃ blanks, l.colon.toList = ':' :: blanks ∧ ∀ c ∈ blanks, isSpace c = true

theorem readable_ofIndent (indent : Option Nat) : (Layout.ofIndent indent).Readable := by
  have hcomma : ",".toList = [','] := rfl
  have hcolon : ": ".toList = [':', ' '] := rfl
  cases indent with
  | none => exact ⟨⟨[], rfl, List.forall_mem_nil _⟩, ⟨[], rfl, List.forall_mem_nil _⟩⟩
  | some n =>
    exact ⟨⟨[], hcomma, List.forall_mem_nil _⟩,
      ⟨[' '], hcolon, List.forall_mem_singleton.mpr rfl⟩⟩

theorem ascii_ofIndent (indent : Option Nat) : (Layout.ofIndent indent).ascii = false := by
  cases indent <;> rfl

end Json

/-! ### Values -/

/-- A value that a data text writes as it is, in ASCII or not: keys are texts that do not repeat. -/
inductive Document.Literal (ascii : Bool) : Document → Prop
  | null : Literal ascii .null
  | bool (b : Bool) : Literal ascii (.bool b)
  | int (n : Int) : Literal ascii (.int n)
  | text {s : String} : Json.Unbroken ascii s.toList → Literal ascii (.text s)
  | seq {items : List Document} : (∀ v ∈ items, Literal ascii v) → Literal ascii (.seq items)
  | map {es : Entries} : TextKeyed es → (∀ e ∈ es, Json.Unbroken ascii (entryKey e).toList) →
      (es.map entryKey).Nodup → (∀ e ∈ es, Literal ascii e.2) → Literal ascii (.map es)

/-- A value that a data text gives back as it is: numbers are whole and short enough, texts hold no
halves of surrogate pairs, and keys are texts that do not repeat. -/
inductive Document.Exact : Document → Prop
  | null : Exact .null
  | bool (b : Bool) : Exact (.bool b)
  | int {n : Int} : n.natAbs < textLimit → Exact (.int n)
  | text {s : String} : Text.hasHalf s.toList = false → Exact (.text s)
  | seq {items : List Document} : (∀ v ∈ items, Exact v) → Exact (.seq items)
  | map {es : Entries} : TextKeyed es → WholeKeys es → (es.map entryKey).Nodup →
      (∀ e ∈ es, Exact e.2) → Exact (.map es)

namespace Document

theorem Exact.literal {v : Document} (h : v.Exact) (ascii : Bool) : v.Literal ascii := by
  induction h with
  | null => exact .null
  | bool b => exact .bool b
  | int _ => exact .int _
  | text hwhole => exact .text fun _ => hwhole
  | seq _ ih => exact .seq ih
  | map hkeys hwhole hnodup _ ih => exact .map hkeys (fun e he _ => hwhole e he) hnodup ih

mutual

/-- The number of digits for which a value is refused: those of its first whole number that is not
short enough. -/
def excess? : Document → Option Nat
  | .int n => if n.natAbs < textLimit then none else some (Nat.toDigits 10 n.natAbs).length
  | .seq items => itemsExcess? items
  | .map es => entriesExcess? es
  | _ => none

def itemsExcess? : List Document → Option Nat
  | [] => none
  | v :: vs => v.excess?.or (itemsExcess? vs)

def entriesExcess? : Entries → Option Nat
  | [] => none
  | (_, v) :: es => v.excess?.or (entriesExcess? es)

end

theorem itemsExcess?_eq_none_iff {items : List Document} :
    itemsExcess? items = none ↔ ∀ v ∈ items, v.excess? = none := by
  induction items with
  | nil => simp [itemsExcess?]
  | cons v vs ih => simp [itemsExcess?, ih]

/-- Where keys are texts that do not repeat, a mapping is made of the entries that write it. -/
theorem ofPairs_eq_self {es : Entries} (hkeys : TextKeyed es) (hnodup : (es.map entryKey).Nodup) :
    ofPairs es = es := by
  rw [ofPairs_eq hkeys, Compare.Keyed.ofList_of_nodup hnodup, List.map_map]
  exact List.map_id es

end Document

namespace Json
open Document
open Text hiding readText

variable {l : Layout} {level : Nat} {rest : List Char} {ascii : Bool}

theorem write_opens {d : Document} (h : d.Literal ascii) (l : Layout) (level : Nat) :
    ∃ c cs, write l level d = c :: cs ∧ Opens c := by
  cases h with
  | null => exact ⟨_, _, rfl, .inr (by decide)⟩
  | bool b => cases b <;> exact ⟨_, _, rfl, .inr (by decide)⟩
  | int n =>
    obtain ⟨c, cs, hcs, hc, -⟩ := exists_toString n
    exact ⟨c, cs, by rw [write, hcs], hc.imp_right fun heq => by simp [heq]⟩
  | text _ => exact ⟨_, _, by rw [write, writeText, List.cons_append], .inr (by decide)⟩
  | @seq items =>
    unfold write
    split <;> exact ⟨_, _, rfl, .inr (by decide)⟩
  | @map es =>
    unfold write
    split <;> exact ⟨_, _, rfl, .inr (by decide)⟩

/-- What a reader ends with: what it has read, or the number of digits that is refused there. -/
def unlessRefused {α : Type} (refused : Option Nat) (a : α) : Except Stop α :=
  match refused with
  | none => .ok a
  | some digits => .error (.tooLong digits)

/-- A value whose text is read back, whatever stands after it, or refused for its digits. -/
def Reads (l : Layout) (d : Document) : Prop :=
  ∀ level fuel rest, 2 * (write l level d).length ≤ fuel → Follows rest →
    readValue fuel (write l level d ++ rest) = unlessRefused d.excess? (d, rest)

/-! One step of each reader, given what is read inside. -/

section
variable {fuel : Nat} {cs after next : List Char} {d : Document} {ds : List Document} {es : Entries}
  {name : List Char} {refused : Option Nat}

theorem readValue_text (h : ∀ start, readText start none [] cs = .ok (name, rest)) :
    readValue (fuel + 1) ('"' :: cs) = .ok (.text (String.ofList name), rest) := by
  simp only [readValue, h, bind, Except.bind, pure, Except.pure]

theorem readValue_seq (hopen : ∀ after, skipSpace cs ≠ ']' :: after)
    (hitems : readItems fuel (skipSpace cs) = unlessRefused refused (ds, rest)) :
    readValue (fuel + 1) ('[' :: cs) = unlessRefused refused (.seq ds, rest) := by
  -- The match on the first character is settled by `hopen`.
  cases refused <;> simp [readValue, hitems, unlessRefused, bind, Except.bind, pure, Except.pure]

theorem readValue_map (hopen : ∀ after, skipSpace cs ≠ '\x7d' :: after)
    (hmembers : readMembers fuel (skipSpace cs) = unlessRefused refused (es, rest)) :
    readValue (fuel + 1) ('\x7b' :: cs) = unlessRefused refused (.map (ofPairs es), rest) := by
  cases refused <;> simp [readValue, hmembers, unlessRefused, bind, Except.bind, pure, Except.pure]

section
variable (hvalue : readValue fuel cs = unlessRefused refused (d, after))
include hvalue

theorem readItems_last (hclose : skipSpace after = ']' :: rest) :
    readItems (fuel + 1) cs = unlessRefused refused ([d], rest) := by
  cases refused <;> simp [readItems, hvalue, hclose, unlessRefused, bind, Except.bind]

theorem readItems_more {others : Option Nat} (hcomma : skipSpace after = ',' :: next)
    (hitems : readItems fuel (skipSpace next) = unlessRefused others (ds, rest)) :
    readItems (fuel + 1) cs = unlessRefused (refused.or others) (d :: ds, rest) := by
  cases refused <;> cases others <;>
    simp [readItems, hvalue, hcomma, hitems, unlessRefused, bind, Except.bind, pure, Except.pure]

end

section
variable {later : List Char} (hname : ∀ start, readText start none [] cs = .ok (name, after))
  (hcolon : skipSpace after = ':' :: next)
  (hvalue : readValue fuel (skipSpace next) = unlessRefused refused (d, later))
include hname hcolon hvalue

theorem readMembers_last (hclose : skipSpace later = '\x7d' :: rest) :
    readMembers (fuel + 1) ('"' :: cs) =
      unlessRefused refused ([(.text (String.ofList name), d)], rest) := by
  cases refused <;>
    simp [readMembers, hname, hcolon, hvalue, hclose, unlessRefused, bind, Except.bind]

theorem readMembers_more {others : Option Nat} {tail : List Char}
    (hcomma : skipSpace later = ',' :: tail)
    (hmembers : readMembers fuel (skipSpace tail) = unlessRefused others (es, rest)) :
    readMembers (fuel + 1) ('"' :: cs) =
      unlessRefused (refused.or others) ((.text (String.ofList name), d) :: es, rest) := by
  cases refused <;> cases others <;>
    simp [readMembers, hname, hcolon, hvalue, hcomma, hmembers, unlessRefused, bind, Except.bind,
      pure, Except.pure]

end

end

/-! What is written between values is passed over. -/

theorem follows_lineBreak {c : Char} (h : isAsciiDigit c = false ∧ c ≠ '.' ∧ c ≠ 'e' ∧ c ≠ 'E')
    (l : Layout) (level : Nat) : Follows (l.lineBreak level ++ c :: rest) := by
  unfold Layout.lineBreak
  cases l.indent with
  | none => exact follows_cons h
  | some n => exact follows_cons (by decide)

theorem skipSpace_write {d : Document} (h : d.Literal ascii) (l : Layout) (level : Nat)
    (cs : List Char) : skipSpace (write l level d ++ cs) = write l level d ++ cs := by
  obtain ⟨c, tail, hwrite, hopens⟩ := write_opens h l level
  rw [hwrite, List.cons_append, skipSpace_cons hopens.apart.1]

theorem skipSpace_write_append {d : Document} (h : d.Literal ascii) (l : Layout) (level : Nat)
    (cs cs' : List Char) :
    skipSpace (write l level d ++ cs ++ cs') = write l level d ++ cs ++ cs' := by
  rw [List.append_assoc, skipSpace_write h]

theorem length_write_pos {d : Document} (h : d.Literal ascii) (l : Layout) (level : Nat) :
    0 < (write l level d).length := by
  obtain ⟨c, tail, hwrite, -⟩ := write_opens h l level
  simp [hwrite]

theorem comma_write (hl : l.Readable) (level : Nat) (cs : List Char) :
    ∃ tail, l.comma.toList ++ l.lineBreak level ++ cs = ',' :: tail ∧
      skipSpace tail = skipSpace cs := by
  obtain ⟨blanks, hcomma, hblanks⟩ := hl.comma
  refine ⟨blanks ++ (l.lineBreak level ++ cs), by simp [hcomma], ?_⟩
  rw [skipSpace_blanks hblanks, skipSpace_lineBreak]

theorem colon_write (hl : l.Readable) (cs : List Char) :
    ∃ tail, l.colon.toList ++ cs = ':' :: tail ∧ skipSpace tail = skipSpace cs := by
  obtain ⟨blanks, hcolon, hblanks⟩ := hl.colon
  exact ⟨blanks ++ cs, by simp [hcolon], skipSpace_blanks hblanks⟩

theorem writeItems_cons (first : Bool) (d : Document) (ds : List Document) :
    writeItems l level first (d :: ds) =
      (if first then [] else l.comma.toList) ++ l.lineBreak level ++
        (write l level d ++ writeItems l level false ds) := by
  simp [writeItems]

/-- The text of a member: its name, a colon and its value. -/
def writeMember (l : Layout) (level : Nat) (e : Document × Document) : List Char :=
  writeText l.ascii (entryKey e) ++ l.colon.toList ++ write l level e.2

theorem skipSpace_writeMember (e : Document × Document) (cs cs' : List Char) :
    skipSpace (writeMember l level e ++ cs ++ cs') = writeMember l level e ++ cs ++ cs' :=
  skipSpace_cons (by decide)

theorem length_writeMember_pos (e : Document × Document) (l : Layout) (level : Nat) :
    0 < (writeMember l level e).length :=
  Nat.zero_lt_succ _

theorem writeMembers_cons {e : Document × Document} (he : e.1 = .text (entryKey e)) (first : Bool)
    (es : Entries) : writeMembers l level first (e :: es) =
      (if first then [] else l.comma.toList) ++ l.lineBreak level ++
        (writeMember l level e ++ writeMembers l level false es) := by
  obtain ⟨k, v⟩ := e
  dsimp only at he
  rw [he]
  simp [writeMembers, writeMember, entryKey, keyText, Except.toOption]

theorem writeMember_parts (hl : l.Readable) {e : Document × Document} (he : e.2.Literal l.ascii)
    (level : Nat) (cs : List Char) : ∃ tail, skipSpace tail = write l level e.2 ++ cs ∧
      writeMember l level e ++ cs =
        '"' :: (escapeChars l.ascii (entryKey e).toList ++ '"' :: ':' :: tail) := by
  obtain ⟨tail, htail, hskip⟩ := colon_write hl (write l level e.2 ++ cs)
  refine ⟨tail, hskip.trans (skipSpace_write he l level cs), ?_⟩
  rw [writeMember, writeText, ← htail]
  simp

section
variable (hl : l.Readable) {fuel : Nat} {d : Document} {ds : List Document}
  {e : Document × Document} {es : Entries}
include hl

theorem readItems_write (hds : ∀ v ∈ d :: ds, v.Literal l.ascii ∧ Reads l v) (outer : Nat)
    (hfuel : 2 * (write l level d ++ writeItems l level false ds).length + 1 ≤ fuel) :
    readItems fuel (write l level d ++ writeItems l level false ds ++
      (l.lineBreak outer ++ ']' :: rest)) =
        unlessRefused (itemsExcess? (d :: ds)) (d :: ds, rest) := by
  -- By the items after the first: behind each stands a comma or the bracket.
  induction ds generalizing d fuel with
  | nil =>
    obtain ⟨fuel, rfl⟩ := Nat.exists_eq_succ_of_ne_zero (Nat.ne_zero_of_lt hfuel)
    simp only [writeItems, List.append_nil, itemsExcess?, Option.or_none] at hfuel ⊢
    refine readItems_last ((hds d (by simp)).2 level fuel _ (by omega)
      (follows_lineBreak (by decide) l outer)) ?_
    rw [skipSpace_lineBreak, skipSpace_cons (by decide)]
  | cons e ds ih =>
    obtain ⟨fuel, rfl⟩ := Nat.exists_eq_succ_of_ne_zero (Nat.ne_zero_of_lt hfuel)
    obtain ⟨⟨hd, hread⟩, hds⟩ := List.forall_mem_cons.mp hds
    obtain ⟨tail, htail, hskip⟩ := comma_write hl level
      (write l level e ++ writeItems l level false ds ++ (l.lineBreak outer ++ ']' :: rest))
    have hpos := length_write_pos hd l level
    rw [writeItems_cons, if_neg Bool.false_ne_true] at hfuel ⊢
    simp only [List.length_append] at hfuel
    rw [List.append_assoc, List.append_assoc _ _ (_ ++ _), htail]
    refine readItems_more (hread level fuel _ (by omega) (follows_cons (by decide)))
      (skipSpace_cons (by decide)) ?_
    rw [hskip, skipSpace_write_append (hds e (by simp)).1]
    exact ih hds (by simp only [List.length_append]; omega)

/-- A member is read back, and decides with what stands after it whether others are read. -/
theorem readMembers_member {after : List Char} (hname : e.1 = .text (entryKey e))
    (hwhole : Unbroken l.ascii (entryKey e).toList) (he : e.2.Literal l.ascii ∧ Reads l e.2)
    (hfuel : 2 * (writeMember l level e).length ≤ fuel) (hafter : Follows after) :
    (skipSpace after = '\x7d' :: rest →
      readMembers (fuel + 1) (writeMember l level e ++ after) =
        unlessRefused e.2.excess? ([e], rest)) ∧
    ∀ next others es, skipSpace after = ',' :: next →
      readMembers fuel (skipSpace next) = unlessRefused others (es, rest) →
      readMembers (fuel + 1) (writeMember l level e ++ after) =
        unlessRefused (e.2.excess?.or others) (e :: es, rest) := by
  obtain ⟨tail, hskip, htail⟩ := writeMember_parts hl he.1 level after
  have htext (start : Nat) := readText_name hwhole start (':' :: tail)
  have hcolon : skipSpace (':' :: tail) = ':' :: tail := skipSpace_cons (by decide)
  have hvalue : readValue fuel (skipSpace tail) = unlessRefused e.2.excess? (e.2, after) := by
    rw [hskip]
    refine he.2 level fuel after ?_ hafter
    simp only [writeMember, List.length_append] at hfuel
    omega
  have hmember : (.text (String.ofList (entryKey e).toList), e.2) = e := by
    rw [String.ofList_toList, ← hname]
  rw [htail]
  refine ⟨fun hclose => ?_, fun next others es hcomma hmembers => ?_⟩
  · rw [readMembers_last htext hcolon hvalue hclose, hmember]
  · rw [readMembers_more htext hcolon hvalue hcomma hmembers, hmember]

theorem readMembers_write (hkeys : TextKeyed (e :: es))
    (hwhole : ∀ f ∈ e :: es, Unbroken l.ascii (entryKey f).toList)
    (hes : ∀ f ∈ e :: es, f.2.Literal l.ascii ∧ Reads l f.2) (outer : Nat)
    (hfuel : 2 * (writeMember l level e ++ writeMembers l level false es).length + 1 ≤ fuel) :
    readMembers fuel (writeMember l level e ++ writeMembers l level false es ++
      (l.lineBreak outer ++ '\x7d' :: rest)) =
        unlessRefused (entriesExcess? (e :: es)) (e :: es, rest) := by
  -- As for items: behind each member stands a comma or the brace.
  induction es generalizing e fuel with
  | nil =>
    obtain ⟨fuel, rfl⟩ := Nat.exists_eq_succ_of_ne_zero (Nat.ne_zero_of_lt hfuel)
    simp only [writeMembers, List.append_nil, entriesExcess?, Option.or_none] at hfuel ⊢
    refine (readMembers_member hl (hkeys e (by simp)) (hwhole e (by simp)) (hes e (by simp))
      (by omega) (follows_lineBreak (by decide) l outer)).1 ?_
    rw [skipSpace_lineBreak, skipSpace_cons (by decide)]
  | cons f es ih =>
    obtain ⟨fuel, rfl⟩ := Nat.exists_eq_succ_of_ne_zero (Nat.ne_zero_of_lt hfuel)
    obtain ⟨he, hes⟩ := List.forall_mem_cons.mp hes
    obtain ⟨hname, hkeys⟩ := List.forall_mem_cons.mp hkeys
    obtain ⟨hkey, hwhole⟩ := List.forall_mem_cons.mp hwhole
    obtain ⟨next, hnext, hskip⟩ := comma_write hl level (writeMember l level f ++
      writeMembers l level false es ++ (l.lineBreak outer ++ '\x7d' :: rest))
    rw [writeMembers_cons (hkeys f (by simp)), if_neg Bool.false_ne_true] at hfuel ⊢
    have hpos := length_writeMember_pos e l level
    simp only [List.length_append] at hfuel
    rw [List.append_assoc, List.append_assoc _ _ (_ ++ _), hnext]
    refine (readMembers_member hl hname hkey he (by omega) (follows_cons (by decide))).2 next _ _
      (skipSpace_cons (by decide)) ?_
    rw [hskip, skipSpace_writeMember]
    exact ih hkeys hwhole hes (by simp only [List.length_append]; omega)

end

theorem readValue_scalar {fuel : Nat} {c : Char} {cs : List Char}
    (hc : c ≠ '"' ∧ c ≠ '[' ∧ c ≠ '\x7b') :
    readValue (fuel + 1) (c :: cs) = readScalar (c :: cs) := by
  obtain ⟨hquote, hbracket, hbrace⟩ := hc
  simp [readValue, hquote, hbracket, hbrace]

section
variable {d : Document}

theorem Reads.of_succ (hd : d.Literal l.ascii)
    (h : ∀ level fuel rest, 2 * (write l level d).length ≤ fuel + 1 → Follows rest →
      readValue (fuel + 1) (write l level d ++ rest) = unlessRefused d.excess? (d, rest)) :
    Reads l d := by
  intro level fuel rest hfuel hrest
  have hpos := length_write_pos hd l level
  obtain ⟨fuel, rfl⟩ := Nat.exists_eq_succ_of_ne_zero (by omega : fuel ≠ 0)
  exact h level fuel rest hfuel hrest

theorem Reads.scalar (hd : d.Literal l.ascii)
    (hopens : ∀ level, ∃ c cs, write l level d = c :: cs ∧ c ≠ '"' ∧ c ≠ '[' ∧ c ≠ '\x7b')
    (h : ∀ level rest, Follows rest →
      readScalar (write l level d ++ rest) = unlessRefused d.excess? (d, rest)) : Reads l d := by
  refine .of_succ hd fun level fuel rest _ hrest => ?_
  obtain ⟨c, cs, hwrite, hc⟩ := hopens level
  have hscalar := h level rest hrest
  rw [hwrite, List.cons_append] at hscalar ⊢
  rw [readValue_scalar hc, hscalar]

theorem reads_null : Reads l .null :=
  .scalar .null (fun _ => ⟨_, _, rfl, by decide⟩) fun _ _ _ => readScalar_null

theorem reads_bool (b : Bool) : Reads l (.bool b) := by
  refine .scalar (.bool b) (fun level => ?_) fun level rest _ => ?_
  · cases b <;> exact ⟨_, _, rfl, by decide⟩
  · rw [write]
    exact readScalar_bool b

theorem reads_int (n : Int) : Reads l (.int n) := by
  obtain ⟨c, cs, hcs, hc, hnumber⟩ := exists_toString n
  refine .scalar (.int n) (fun level => ⟨c, cs, by rw [write, hcs], ?_⟩) fun level rest hrest => ?_
  · rcases hc with hc | rfl
    · have hne (d : Char) (hd : isAsciiDigit d = false) : c ≠ d := ne_of_isAsciiDigit hc hd
      exact ⟨hne _ (by decide), hne _ (by decide), hne _ (by decide)⟩
    · decide
  · rw [write, readScalar_number (by rw [hcs]; exact hnumber rest), readNumber_toString n hrest,
      excess?]
    split_ifs <;> rfl

theorem reads_text {s : String} (h : Unbroken l.ascii s.toList) : Reads l (.text s) := by
  refine .of_succ (.text h) fun level fuel rest _ _ => ?_
  have htext (start : Nat) := readText_name h start rest
  have heq : write l level (.text s) ++ rest =
      '"' :: (escapeChars l.ascii s.toList ++ '"' :: rest) := by
    simp [write, writeText]
  rw [heq, readValue_text htext, String.ofList_toList]
  rfl

theorem reads_seq (hl : l.Readable) {items : List Document}
    (hitems : ∀ v ∈ items, v.Literal l.ascii) (h : ∀ v ∈ items, Reads l v) :
    Reads l (.seq items) := by
  refine .of_succ (.seq hitems) fun level fuel rest hfuel _ => ?_
  cases items with
  | nil => rfl
  | cons d ds =>
    have heq : write l level (.seq (d :: ds)) ++ rest =
        '[' :: (l.lineBreak (level + 1) ++ (write l (level + 1) d ++
          writeItems l (level + 1) false ds ++ (l.lineBreak level ++ ']' :: rest))) := by
      simp [write, writeItems_cons]
    have hd : d.Literal l.ascii := hitems d (by simp)
    have hlen := congrArg List.length heq
    simp only [List.length_append, List.length_cons] at hlen
    rw [heq]
    refine readValue_seq ?_ ?_
    · rw [skipSpace_lineBreak, skipSpace_write_append hd]
      intro after hafter
      obtain ⟨c, tail, hwrite, hopens⟩ := write_opens hd l (level + 1)
      rw [hwrite] at hafter
      exact hopens.apart.2.1 (List.cons.inj hafter).1
    · rw [skipSpace_lineBreak, skipSpace_write_append hd]
      exact readItems_write hl (fun v hv => ⟨hitems v hv, h v hv⟩) level
        (by simp only [List.length_append]; omega)

theorem reads_map (hl : l.Readable) {es : Entries} (hkeys : TextKeyed es)
    (hwhole : ∀ e ∈ es, Unbroken l.ascii (entryKey e).toList) (hnodup : (es.map entryKey).Nodup)
    (hes : ∀ e ∈ es, e.2.Literal l.ascii)
    (h : ∀ e ∈ es, Reads l e.2) : Reads l (.map es) := by
  refine .of_succ (.map hkeys hwhole hnodup hes) fun level fuel rest hfuel _ => ?_
  cases es with
  | nil => rfl
  | cons e es =>
    have heq : write l level (.map (e :: es)) ++ rest =
        '\x7b' :: (l.lineBreak (level + 1) ++ (writeMember l (level + 1) e ++
          writeMembers l (level + 1) false es ++ (l.lineBreak level ++ '\x7d' :: rest))) := by
      simp [write, writeMembers_cons (hkeys e (by simp))]
    have hlen := congrArg List.length heq
    simp only [List.length_append, List.length_cons] at hlen
    have hmap : readValue (fuel + 1) (write l level (.map (e :: es)) ++ rest) =
        unlessRefused (entriesExcess? (e :: es)) (.map (ofPairs (e :: es)), rest) := by
      rw [heq]
      refine readValue_map ?_ ?_
      · rw [skipSpace_lineBreak, skipSpace_writeMember]
        intro after hafter
        cases hafter
      · rw [skipSpace_lineBreak, skipSpace_writeMember]
        exact readMembers_write hl hkeys hwhole (fun f hf => ⟨hes f hf, h f hf⟩) level
          (by simp only [List.length_append]; omega)
    rwa [ofPairs_eq_self hkeys hnodup] at hmap

end

/-- What is written is read back however it is laid out, but for whole numbers with too many
digits. -/
theorem reads (hl : l.Readable) {d : Document} (h : d.Literal l.ascii) : Reads l d := by
  induction h with
  | null => exact reads_null
  | bool b => exact reads_bool b
  | int n => exact reads_int n
  | text hwhole => exact reads_text hwhole
  | seq hitems ih => exact reads_seq hl hitems ih
  | map hkeys hwhole hnodup hes ih => exact reads_map hl hkeys hwhole hnodup hes ih

theorem readAll_write (hl : l.Readable) {d : Document} (h : d.Literal l.ascii) :
    readAll (write l 0 d) = unlessRefused d.excess? d := by
  obtain ⟨c, cs, hwrite, hopens⟩ := write_opens h l 0
  have hread := reads hl h 0 (2 * (write l 0 d).length + 2) [] (by omega) follows_nil
  have hskip := skipSpace_write h l 0 []
  rw [List.append_nil] at hread hskip
  have hmark : ∀ after, write l 0 d ≠ '\ufeff' :: after := by
    intro after hafter
    rw [hwrite] at hafter
    exact hopens.apart.2.2 (List.cons.inj hafter).1
  have hend : skipSpace [] = [] := rfl
  cases hexcess : d.excess? <;>
    simp [readAll, hskip, hread, hexcess, hend, unlessRefused, bind, Except.bind]

/-- The data text of a value gives the value back, or is refused for the digits of a number. -/
theorem read_render_literal (hl : l.Readable) {d : Document} (h : d.Literal l.ascii) :
    read (render l d) =
      match d.excess? with
      | none => .ok d
      | some digits => .error (.integerTooLong digits) := by
  simp only [read, render, String.toList_ofList, readAll_write hl h]
  cases d.excess? <;> rfl

/-- A kind of characters that has the printable ones of ASCII and all that a layout puts around
members. -/
structure Layout.KeepsTo (l : Layout) (P : Char → Prop) : Prop where
  ascii : l.ascii = true
  printable : ∀ c : Char, 32 ≤ c.toNat ∧ c.toNat ≤ 126 → P c
  comma : ∀ c ∈ l.comma.toList, P c
  colon : ∀ c ∈ l.colon.toList, P c
  lineBreak : ∀ level, ∀ c ∈ l.lineBreak level, P c

section
variable {l : Layout} {P : Char → Prop} {level : Nat} {ascii : Bool}

theorem Layout.KeepsTo.of_printable (hl : l.KeepsTo P) {cs : List Char} (h : Printable cs) :
    ∀ c ∈ cs, P c :=
  fun c hc => hl.printable c (h c hc)

theorem Layout.KeepsTo.writeText (hl : l.KeepsTo P) (s : String) :
    ∀ c ∈ writeText l.ascii s, P c := by
  rw [hl.ascii]
  exact hl.of_printable (printable_writeText s)

theorem Layout.KeepsTo.separator (hl : l.KeepsTo P) (first : Bool) :
    ∀ c ∈ if first then [] else l.comma.toList, P c := by
  cases first with
  | true => exact List.forall_mem_nil _
  | false => exact hl.comma

theorem Layout.KeepsTo.writeItems (hl : l.KeepsTo P) {ds : List Document}
    (h : ∀ d ∈ ds, ∀ level, ∀ c ∈ write l level d, P c) (first : Bool) :
    ∀ c ∈ writeItems l level first ds, P c := by
  induction ds generalizing first with
  | nil => exact List.forall_mem_nil _
  | cons d ds ih =>
    obtain ⟨hd, hds⟩ := List.forall_mem_cons.mp h
    simp only [Json.writeItems, List.forall_mem_append]
    exact ⟨⟨⟨hl.separator first, hl.lineBreak level⟩, hd level⟩, ih hds false⟩

theorem Layout.KeepsTo.writeMembers (hl : l.KeepsTo P) {es : Entries} (hkeys : TextKeyed es)
    (h : ∀ e ∈ es, ∀ level, ∀ c ∈ write l level e.2, P c) (first : Bool) :
    ∀ c ∈ writeMembers l level first es, P c := by
  induction es generalizing first with
  | nil => exact List.forall_mem_nil _
  | cons e es ih =>
    obtain ⟨he, hes⟩ := List.forall_mem_cons.mp h
    obtain ⟨hkey, hkeys⟩ := List.forall_mem_cons.mp hkeys
    simp only [writeMembers_cons hkey, writeMember, List.forall_mem_append]
    have hname := hl.writeText (entryKey e)
    exact ⟨⟨hl.separator first, hl.lineBreak level⟩, ⟨⟨hname, hl.colon⟩, he level⟩,
      ih hkeys hes false⟩

/-- The characters of a data text are of a kind that its layout keeps to. -/
theorem Layout.KeepsTo.write (hl : l.KeepsTo P) {d : Document} (h : d.Literal ascii) (level : Nat) :
    ∀ c ∈ write l level d, P c := by
  induction h generalizing level with
  | null => exact hl.of_printable (by decide : Printable "null".toList)
  | bool b =>
    rw [Json.write]
    exact hl.of_printable (by cases b <;> decide)
  | int n =>
    rw [Json.write]
    exact hl.of_printable (printable_toString n)
  | text _ =>
    rw [Json.write]
    exact hl.writeText _
  | seq _ ih =>
    rw [Json.write]
    split_ifs
    · exact hl.of_printable (by decide)
    · have hopen : P '[' := hl.printable _ (by decide)
      have hclose : P ']' := hl.printable _ (by decide)
      simp only [List.forall_mem_cons, List.forall_mem_append]
      exact ⟨⟨hopen, hl.writeItems ih true⟩, hl.lineBreak level, hclose, List.forall_mem_nil _⟩
  | map hkeys _ _ _ ih =>
    rw [Json.write]
    split_ifs
    · exact hl.of_printable (by decide)
    · have hopen : P '\x7b' := hl.printable _ (by decide)
      have hclose : P '\x7d' := hl.printable _ (by decide)
      simp only [List.forall_mem_cons, List.forall_mem_append]
      exact ⟨⟨hopen, hl.writeMembers hkeys ih true⟩, hl.lineBreak level, hclose,
        List.forall_mem_nil _⟩

/-- With a line for each member, line breaks are the only characters besides. -/
theorem keepsTo_pagedAscii :
    Layout.pagedAscii.KeepsTo fun c => c = '\n' ∨ 32 ≤ c.toNat ∧ c.toNat ≤ 126 where
  ascii := rfl
  printable _ hc := .inr hc
  comma c hc := .inr ((by decide : Printable ",".toList) c hc)
  colon c hc := .inr ((by decide : Printable ": ".toList) c hc)
  lineBreak level c hc := by
    rcases List.mem_cons.mp hc with rfl | hc
    · exact .inl rfl
    · obtain rfl := List.eq_of_mem_replicate hc
      exact .inr (by decide)

end

end Json
end ApiDrift
