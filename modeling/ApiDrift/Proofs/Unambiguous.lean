import ApiDrift.Proofs.Transcript

/-!
# Data texts are unambiguous

In one layout a value is told by its data text, and so is where the text of the value ends: a number
ends where something follows that no number goes on with. Nothing is asked of the length of numbers,
so that a data text tells its value also where it is refused for the digits of a number.
-/
namespace ApiDrift
namespace Json
open Document
open Text hiding readText

variable {l : Layout} {level : Nat} {rest rest' : List Char}

/-- Two things whose texts are alike only where the things are, whatever stands after the texts. -/
def ToldApart {α : Type} (put : α → List Char) (a a' : α) : Prop :=
  ∀ rest rest', Follows rest → Follows rest' → put a ++ rest = put a' ++ rest' →
    a = a' ∧ rest = rest'

/-! ### Sequences of texts -/

section
variable {α : Type} {put : α → List Char} {as as' : List α} {close : Char}

/-- The texts of some things, each after a comma. -/
def following (l : Layout) (level : Nat) (put : α → List Char) (as : List α) : List Char :=
  as.flatMap fun a => l.comma.toList ++ l.lineBreak level ++ put a

/-- The texts of some things up to the closing bracket, with commas between them. -/
def enclosed (l : Layout) (level : Nat) (close : Char) (put : α → List Char) : List α → List Char
  | [] => [close]
  | a :: as => l.lineBreak (level + 1) ++ put a ++ following l (level + 1) put as ++
      (l.lineBreak level ++ [close])

theorem following_cons (a : α) (as : List α) (cs : List Char) :
    following l level put (a :: as) ++ cs =
      l.comma.toList ++ l.lineBreak level ++ (put a ++ (following l level put as ++ cs)) := by
  simp [following]

theorem enclosed_cons (a : α) (as : List α) (cs : List Char) :
    enclosed l level close put (a :: as) ++ cs =
      l.lineBreak (level + 1) ++ (put a ++ (following l (level + 1) put as ++
        (l.lineBreak level ++ close :: cs))) := by
  simp [enclosed]

/-- A character that closes: no blank, no comma, and nothing that a number goes on with. -/
structure Closes (close : Char) : Prop where
  space : isSpace close = false
  comma : close ≠ ','
  number : isAsciiDigit close = false ∧ close ≠ '.' ∧ close ≠ 'e' ∧ close ≠ 'E'

theorem closes_bracket : Closes ']' := by
  constructor <;> decide

theorem closes_brace : Closes '\x7d' := by
  constructor <;> decide

variable (hl : l.Readable) (hclose : Closes close)
include hl hclose

theorem follows_following (as : List α) (outer : Nat) :
    Follows (following l level put as ++ (l.lineBreak outer ++ close :: rest)) := by
  cases as with
  | nil => exact follows_lineBreak hclose.number l outer
  | cons a as =>
    obtain ⟨tail, htail, -⟩ := comma_write hl level
      (put a ++ (following l level put as ++ (l.lineBreak outer ++ close :: rest)))
    rw [following_cons, htail]
    exact follows_cons (by decide)

/-- What follows a thing is told: a bracket, or a comma and another thing. -/
theorem following_inj {outer : Nat} (h : ∀ a ∈ as, ∀ a' ∈ as', ToldApart put a a')
    (heq : following l level put as ++ (l.lineBreak outer ++ close :: rest) =
      following l level put as' ++ (l.lineBreak outer ++ close :: rest')) :
    as = as' ∧ rest = rest' := by
  have hcomma (a : α) (as : List α) (cs cs' : List Char) :
      following l level put (a :: as) ++ cs' ≠ l.lineBreak outer ++ close :: cs := by
    intro heq
    obtain ⟨tail, htail, -⟩ := comma_write hl level (put a ++ (following l level put as ++ cs'))
    have hskip := congrArg skipSpace heq
    rw [following_cons, htail, skipSpace_cons (by decide), skipSpace_lineBreak,
      skipSpace_cons hclose.space] at hskip
    exact hclose.comma (List.cons.inj hskip).1.symm
  induction as generalizing as' with
  | nil =>
    cases as' with
    | nil => exact ⟨rfl, (List.cons.inj (List.append_cancel_left heq)).2⟩
    | cons a' as' => exact absurd heq.symm (hcomma a' as' _ _)
  | cons a as ih =>
    cases as' with
    | nil => exact absurd heq (hcomma a as _ _)
    | cons a' as' =>
      rw [following_cons, following_cons] at heq
      obtain ⟨rfl, hmore⟩ := h a (by simp) a' (by simp) _ _ (follows_following hl hclose as outer)
        (follows_following hl hclose as' outer) (List.append_cancel_left heq)
      obtain ⟨rfl, hrests⟩ := ih (fun b hb b' hb' => h b (by simp [hb]) b' (by simp [hb'])) hmore
      exact ⟨rfl, hrests⟩

/-- What is enclosed is told, as nothing that is enclosed begins with a blank or a bracket. -/
theorem enclosed_inj (hopens : ∀ a ∈ as ++ as', ∃ c cs, put a = c :: cs ∧ isSpace c = false ∧
      c ≠ close)
    (h : ∀ a ∈ as, ∀ a' ∈ as', ToldApart put a a')
    (heq : enclosed l level close put as ++ rest = enclosed l level close put as' ++ rest') :
    as = as' ∧ rest = rest' := by
  have hcons {a : α} {bs : List α} (ha : a ∈ as ++ as') (cs cs' : List Char) :
      enclosed l level close put (a :: bs) ++ cs' ≠ close :: cs := by
    intro heq
    obtain ⟨c, tail, hput, hspace, hne⟩ := hopens a ha
    have hskip := congrArg skipSpace heq
    rw [enclosed_cons, skipSpace_lineBreak, hput, List.cons_append, skipSpace_cons hspace,
      skipSpace_cons hclose.space] at hskip
    exact hne (List.cons.inj hskip).1
  cases as with
  | nil =>
    cases as' with
    | nil => exact ⟨rfl, (List.cons.inj heq).2⟩
    | cons a' as' => exact absurd heq.symm (hcons (by simp) _ _)
  | cons a as =>
    cases as' with
    | nil => exact absurd heq (hcons (by simp) _ _)
    | cons a' as' =>
      rw [enclosed_cons, enclosed_cons] at heq
      obtain ⟨rfl, hmore⟩ := h a (by simp) a' (by simp) _ _ (follows_following hl hclose as level)
        (follows_following hl hclose as' level) (List.append_cancel_left heq)
      obtain ⟨rfl, hrests⟩ := following_inj hl hclose
        (fun b hb b' hb' => h b (by simp [hb]) b' (by simp [hb'])) hmore
      exact ⟨rfl, hrests⟩

end

theorem writeItems_eq_following (level : Nat) (ds : List Document) :
    writeItems l level false ds = following l level (write l level) ds := by
  induction ds with
  | nil => rw [writeItems]; rfl
  | cons d ds ih => simp [writeItems, ih, following]

theorem writeMembers_eq_following (level : Nat) {es : Entries} (hkeys : TextKeyed es) :
    writeMembers l level false es = following l level (writeMember l level) es := by
  induction es with
  | nil => rw [writeMembers]; rfl
  | cons e es ih =>
    obtain ⟨he, hes⟩ := List.forall_mem_cons.mp hkeys
    simp [writeMembers_cons he, ih hes, following]

theorem write_seq (level : Nat) (items : List Document) :
    write l level (.seq items) = '[' :: enclosed l level ']' (write l (level + 1)) items := by
  cases items with
  | nil => rfl
  | cons d ds => simp [write, writeItems_cons, writeItems_eq_following, enclosed]

theorem write_map (level : Nat) {es : Entries} (hkeys : TextKeyed es) :
    write l level (.map es) = '\x7b' :: enclosed l level '\x7d' (writeMember l (level + 1)) es := by
  cases es with
  | nil => rfl
  | cons e es =>
    obtain ⟨he, hes⟩ := List.forall_mem_cons.mp hkeys
    simp [write, writeMembers_cons he, writeMembers_eq_following _ hes, enclosed]

/-! ### Values -/

/-- The type of the values that begin with a character. -/
def typeAt (c : Char) : String :=
  if c = 'n' then "NoneType"
  else if c = 't' ∨ c = 'f' then "bool"
  else if c = '"' then "str"
  else if c = '[' then "list"
  else if c = '\x7b' then "dict"
  else "int"

theorem typeAt_write {d : Document} (h : d.Literal l.ascii) (level : Nat) :
    ∃ c cs, write l level d = c :: cs ∧ typeAt c = d.typeName := by
  cases h with
  | null => exact ⟨_, _, rfl, by decide⟩
  | bool b => cases b <;> exact ⟨_, _, rfl, by decide⟩
  | int n =>
    obtain ⟨c, cs, hcs, hc, -⟩ := exists_toString n
    refine ⟨c, cs, by rw [write, hcs], ?_⟩
    rcases hc with hc | rfl
    · have hne (d : Char) (hd : isAsciiDigit d = false) : c ≠ d := ne_of_isAsciiDigit hc hd
      have hletters := And.intro (hne 'n' (by decide)) (And.intro (hne 't' (by decide))
        (hne 'f' (by decide)))
      have hmarks := And.intro (hne '"' (by decide)) (And.intro (hne '[' (by decide))
        (hne '\x7b' (by decide)))
      simp [typeAt, hletters, hmarks, typeName]
    · rfl
  | text _ => exact ⟨_, _, by rw [write, writeText, List.cons_append], rfl⟩
  | seq => exact ⟨_, _, write_seq level _, rfl⟩
  | map hkeys => exact ⟨_, _, write_map level hkeys, rfl⟩

theorem typeName_eq_of_write {d d' : Document} (hd : d.Literal l.ascii) (hd' : d'.Literal l.ascii)
    (heq : write l level d ++ rest = write l level d' ++ rest') : d.typeName = d'.typeName := by
  obtain ⟨c, cs, hwrite, htype⟩ := typeAt_write hd level
  obtain ⟨c', cs', hwrite', htype'⟩ := typeAt_write hd' level
  rw [hwrite, hwrite'] at heq
  rw [← htype, ← htype', (List.cons.inj heq).1]

theorem toDigits_append_inj {m n : Nat} (hrest : Follows rest) (hrest' : Follows rest')
    (heq : Nat.toDigits 10 m ++ rest = Nat.toDigits 10 n ++ rest') : m = n ∧ rest = rest' := by
  have hsplit := congrArg splitWhole heq
  rw [splitWhole_toDigits m hrest, splitWhole_toDigits n hrest'] at hsplit
  obtain ⟨hdigits, hrests⟩ := Prod.mk.inj hsplit
  exact ⟨by rw [← digitsValue_toDigits m, hdigits, digitsValue_toDigits], hrests⟩

theorem toldApart_int (m n : Int) :
    ToldApart (fun n : Int => (toString n).toList) m n := by
  intro rest rest' hrest hrest' heq
  -- A sign is no digit, so both numbers have one or neither has.
  have hsign (k : Nat) (cs cs' : List Char) : Nat.toDigits 10 k ++ cs ≠ '-' :: cs' := by
    intro heq
    obtain ⟨d, ds, hds, hdigit⟩ := exists_toDigits k
    rw [hds, List.cons_append] at heq
    exact ne_of_isAsciiDigit hdigit (by decide) (List.cons.inj heq).1
  dsimp only at heq
  by_cases hm : 0 ≤ m <;> by_cases hn : 0 ≤ n
  · obtain ⟨m, rfl⟩ := Int.eq_ofNat_of_zero_le hm
    obtain ⟨n, rfl⟩ := Int.eq_ofNat_of_zero_le hn
    rw [toList_toString_nonneg, toList_toString_nonneg] at heq
    obtain ⟨rfl, hrests⟩ := toDigits_append_inj hrest hrest' heq
    exact ⟨rfl, hrests⟩
  · obtain ⟨m, rfl⟩ := Int.eq_ofNat_of_zero_le hm
    rw [toList_toString_nonneg, toList_toString_neg hn] at heq
    exact absurd heq (hsign _ _ _)
  · obtain ⟨n, rfl⟩ := Int.eq_ofNat_of_zero_le hn
    rw [toList_toString_neg hm, toList_toString_nonneg] at heq
    exact absurd heq.symm (hsign _ _ _)
  · rw [toList_toString_neg hm, toList_toString_neg hn] at heq
    obtain ⟨habs, hrests⟩ := toDigits_append_inj hrest hrest' (List.cons.inj heq).2
    exact ⟨by omega, hrests⟩

theorem writeText_append_inj {ascii : Bool} {s s' : String} (hs : Unbroken ascii s.toList)
    (hs' : Unbroken ascii s'.toList)
    (heq : writeText ascii s ++ rest = writeText ascii s' ++ rest') : s = s' ∧ rest = rest' := by
  have hread {s : String} (hs : Unbroken ascii s.toList) (cs : List Char) :
      readText 0 none [] (writeText ascii s ++ cs).tail = .ok (s.toList, cs) := by
    simpa [writeText] using readText_name hs 0 cs
  have hsame : (.ok (s.toList, rest) : Step (List Char)) = .ok (s'.toList, rest') := by
    rw [← hread hs, heq, hread hs']
  obtain ⟨hs, hrests⟩ := Prod.mk.inj (Except.ok.inj hsame)
  exact ⟨String.toList_inj.mp hs, hrests⟩

theorem toldApart_member {e e' : Document × Document} (he : e.1 = .text (entryKey e))
    (he' : e'.1 = .text (entryKey e')) (hkey : Unbroken l.ascii (entryKey e).toList)
    (hkey' : Unbroken l.ascii (entryKey e').toList) (h : ToldApart (write l level) e.2 e'.2) :
    ToldApart (writeMember l level) e e' := by
  intro rest rest' hrest hrest' heq
  simp only [writeMember, List.append_assoc] at heq
  obtain ⟨hkeys, hvalue⟩ := writeText_append_inj hkey hkey' heq
  obtain ⟨hvalues, hrests⟩ := h _ _ hrest hrest' (List.append_cancel_left hvalue)
  exact ⟨Prod.ext (by rw [he, he', hkeys]) hvalues, hrests⟩

/-- Values are told apart by their data texts. -/
theorem toldApart (hl : l.Readable) {d d' : Document} (hd : d.Literal l.ascii)
    (hd' : d'.Literal l.ascii) (level : Nat) : ToldApart (write l level) d d' := by
  -- The first character tells the kind of the value, and then the parts are told in their order.
  induction hd generalizing d' level with
  | null =>
    intro rest rest' _ _ heq
    have htype := typeName_eq_of_write .null hd' heq
    cases hd' with
    | null => exact ⟨rfl, List.append_cancel_left heq⟩
    | _ => simp [typeName] at htype
  | bool b =>
    intro rest rest' _ _ heq
    have htype := typeName_eq_of_write (.bool b) hd' heq
    cases hd' with
    | bool b' =>
      rw [write, write] at heq
      have hsame : (.ok (.bool b, rest) : Step Document) = .ok (.bool b', rest') := by
        rw [← readScalar_bool, heq, readScalar_bool]
      cases hsame
      exact ⟨rfl, rfl⟩
    | _ => simp [typeName] at htype
  | int n =>
    intro rest rest' hrest hrest' heq
    have htype := typeName_eq_of_write (.int n) hd' heq
    cases hd' with
    | int n' =>
      rw [write, write] at heq
      obtain ⟨rfl, hrests⟩ := toldApart_int n n' _ _ hrest hrest' heq
      exact ⟨rfl, hrests⟩
    | _ => simp [typeName] at htype
  | text hs =>
    intro rest rest' _ _ heq
    have htype := typeName_eq_of_write (.text hs) hd' heq
    cases hd' with
    | text hs' =>
      rw [write, write] at heq
      obtain ⟨rfl, hrests⟩ := writeText_append_inj hs hs' heq
      exact ⟨rfl, hrests⟩
    | _ => simp [typeName] at htype
  | @seq items hitems ih =>
    intro rest rest' _ _ heq
    have htype := typeName_eq_of_write (.seq hitems) hd' heq
    cases hd' with
    | @seq items' hitems' =>
      rw [write_seq, write_seq] at heq
      have hopens : ∀ v ∈ items ++ items', ∃ c cs, write l (level + 1) v = c :: cs ∧
          isSpace c = false ∧ c ≠ ']' := by
        intro v hv
        have hliteral : v.Literal l.ascii := (List.mem_append.mp hv).elim (hitems v) (hitems' v)
        obtain ⟨c, cs, hwrite, hopens⟩ := write_opens hliteral l (level + 1)
        exact ⟨c, cs, hwrite, hopens.apart.1, hopens.apart.2.1⟩
      obtain ⟨rfl, hrests⟩ := enclosed_inj hl closes_bracket hopens
        (fun v hv v' hv' => ih v hv (hitems' v' hv') (level + 1)) (List.cons.inj heq).2
      exact ⟨rfl, hrests⟩
    | _ => simp [typeName] at htype
  | @map es hkeys hwhole hnodup hes ih =>
    intro rest rest' _ _ heq
    have htype := typeName_eq_of_write (.map hkeys hwhole hnodup hes) hd' heq
    cases hd' with
    | @map es' hkeys' hwhole' _ hes' =>
      rw [write_map _ hkeys, write_map _ hkeys'] at heq
      obtain ⟨rfl, hrests⟩ := enclosed_inj hl closes_brace (fun _ _ => ⟨_, _, rfl, by decide⟩)
        (fun e he e' he' => toldApart_member (hkeys e he) (hkeys' e' he') (hwhole e he)
          (hwhole' e' he') (ih e he (hes' e' he') (level + 1))) (List.cons.inj heq).2
      exact ⟨rfl, hrests⟩
    | _ => simp [typeName] at htype

/-- A value is determined by its data text. -/
theorem render_inj (hl : l.Readable) {d d' : Document} (hd : d.Literal l.ascii)
    (hd' : d'.Literal l.ascii) (heq : render l d = render l d') : d = d' := by
  have hwrite : write l 0 d ++ [] = write l 0 d' ++ [] := by
    simpa [render] using congrArg String.toList heq
  exact (toldApart hl hd hd' 0 _ _ follows_nil follows_nil hwrite).1

end Json
end ApiDrift
