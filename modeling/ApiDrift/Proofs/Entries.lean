import ApiDrift.Document
import Mathlib.Tactic.SplitIfs

/-!
# Looking up texts in edited mappings

What becomes of the values of a mapping when entries are left out, renamed or put at its end, or
when the value of one key is changed. The keys that are looked up are texts, and a text is the same
key as itself only. Keys may be repeated here: the first entry of a key is the one that is found,
and leaving out a key leaves out all of its entries.
-/
namespace ApiDrift.Document

variable {es : Entries} {k : String}

theorem same_text_iff {d : Document} : d.same (.text k) = true ↔ d = .text k := by
  cases d with
  | text s => simp [same]
  | _ => simp [same, integer?]

@[simp]
theorem get?_nil (k : String) : get? [] k = none := rfl

theorem get?_cons (e : Document × Document) (es : Entries) (k : String) :
    get? (e :: es) k = if e.1.same (.text k) then some e.2 else get? es k := by
  unfold get? lookup
  rw [List.find?_cons]
  cases e.1.same (.text k) <;> rfl

@[simp]
theorem get?_text_cons (name : String) (v : Document) (es : Entries) (k : String) :
    get? ((.text name, v) :: es) k = if name = k then some v else get? es k := by
  simp [get?_cons, same_text_iff]

@[simp]
theorem get?_append (es fs : Entries) (k : String) :
    get? (es ++ fs) k = (get? es k).or (get? fs k) := by
  simp only [get?, lookup, List.find?_append, Option.map_or]

/-- Whether a key is one of some texts. -/
def isAmong (names : List String) (d : Document) : Bool := names.any fun n => d.same (.text n)

theorem isAmong_text (names : List String) (k : String) :
    isAmong names (.text k) = decide (k ∈ names) := by
  rw [Bool.eq_iff_iff, isAmong, List.any_eq_true, decide_eq_true_iff]
  simp [same_text_iff]

/-- The entries whose keys are none of some texts. -/
def without (names : List String) (es : Entries) : Entries := es.filter fun e => !isAmong names e.1

@[simp]
theorem get?_without (names : List String) (es : Entries) (k : String) :
    get? (without names es) k = if k ∈ names then none else get? es k := by
  induction es with
  | nil => simp [without]
  | cons e es ih =>
    unfold without at ih ⊢
    rw [List.filter_cons]
    by_cases hkey : e.1.same (.text k) = true
    · have hamong : isAmong names e.1 = decide (k ∈ names) := by
        rw [same_text_iff.mp hkey, isAmong_text]
      by_cases hk : k ∈ names
      · simp [hamong, hk, ih]
      · simp [hamong, hk, get?_cons, hkey]
    · cases isAmong names e.1 with
      | true => simp [ih, get?_cons, hkey]
      | false => simp [ih, get?_cons, hkey]

/-- The entries with the value of one key changed. -/
def change (key : String) (f : Document → Document) (es : Entries) : Entries :=
  es.map fun e => if e.1.same (.text key) then (e.1, f e.2) else e

@[simp]
theorem get?_change (key : String) (f : Document → Document) (es : Entries) (k : String) :
    get? (change key f es) k = if k = key then (get? es k).map f else get? es k := by
  induction es with
  | nil => simp [change]
  | cons e es ih =>
    unfold change at ih ⊢
    rw [List.map_cons, get?_cons, get?_cons, ih]
    by_cases hkey : e.1.same (.text k) = true
    · have hsame : e.1.same (.text key) = true ↔ k = key := by
        rw [same_text_iff.mp hkey, same_text_iff]
        simp
      by_cases hk : k = key
      · simp [hk, hsame]
      · simp [hk, hsame, hkey]
    · have hsame : (if e.1.same (.text key) then (e.1, f e.2) else e).1 = e.1 := by
        split_ifs <;> rfl
      simp [hsame, hkey]

/-- The values of some keys under other names, as far as they are there. -/
def renamed (names : List (String × String)) (es : Entries) : Entries :=
  names.filterMap fun n => (get? es n.1).map fun v => (.text n.2, v)

@[simp]
theorem renamed_nil (es : Entries) : renamed [] es = [] := rfl

@[simp]
theorem get?_renamed_cons (old new : String) (names : List (String × String)) (es : Entries)
    (k : String) : get? (renamed ((old, new) :: names) es) k =
      if k = new then (get? es old).or (get? (renamed names es) k)
      else get? (renamed names es) k := by
  unfold renamed
  cases hold : get? es old with
  | none => simp [hold]
  | some v => simp [hold, eq_comm]

end ApiDrift.Document
