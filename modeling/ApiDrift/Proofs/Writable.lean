import ApiDrift.Compare.ParameterText
import ApiDrift.Proofs.Distinct
import ApiDrift.Proofs.Rules

/-!
# Values that can be written as data

A value has a plain form unless something inside it contains itself, a sequence of bytes writes no
text, or a key has no text that can be encoded. The plain form can be shown unless a whole number in
it has too many digits. Keys become texts in it, and of keys with one text the last one stands for
it: the values of the others must have a plain form too, but their numbers are never shown.
-/
namespace ApiDrift
namespace Document
open Compare

/-- The values that a value is made of. -/
def parts : Document → List Document
  | seq items | tuple items | set items => items
  | map entries => entries.flatMap fun e => [e.1, e.2]
  | _ => []

/-- The text of the key of an entry. -/
def entryKey (e : Document × Document) : String := e.1.keyText.toOption.getD ""

/-- Entries whose keys are texts. -/
def TextKeyed (es : Entries) : Prop := ∀ e ∈ es, e.1 = .text (entryKey e)

/-- Entries whose keys hold no half of a surrogate pair. -/
def WholeKeys (es : Entries) : Prop := ∀ e ∈ es, Text.hasHalf (entryKey e).toList = false

theorem put_text {m : Keyed (Document × Document)} (h : ∀ e ∈ m, e.2.1 = .text e.1) (k : String)
    (v : Document) : put (m.map Prod.snd) (.text k) v = (m.put k (.text k, v)).map Prod.snd := by
  induction m with
  | nil => rfl
  | cons e m ih =>
    obtain ⟨k', x⟩ := e
    rw [List.forall_mem_cons] at h
    have hkey : x.1 = .text k' := h.1
    simp only [List.map_cons, put, Keyed.put, hkey, same, beq_iff_eq]
    split_ifs with hk
    · rw [hk]
      rfl
    · rw [List.map_cons, ih h.2]

theorem ofPairs_eq {es : Entries} (h : TextKeyed es) :
    ofPairs es = (Keyed.ofList entryKey es).map Prod.snd := by
  induction es using List.reverseRecOn with
  | nil => rfl
  | append_singleton es e ih =>
    have hes : TextKeyed es := fun d hd => h d (List.mem_append_left _ hd)
    have he : e.1 = .text (entryKey e) := h e (by simp)
    have hkeys : ∀ d ∈ Keyed.ofList entryKey es, d.2.1 = .text d.1 := by
      intro d hd
      obtain ⟨hstands, hkey⟩ := Keyed.mem_ofList.mp hd
      rw [← hkey]
      exact hes d.2 hstands.mem
    rw [Keyed.ofList_concat]
    have hput := put_text hkeys (entryKey e) e.2
    rw [← ih hes, ← he] at hput
    rw [← hput, ofPairs, List.foldl_append]
    rfl

theorem mem_ofPairs_iff {es : Entries} (h : TextKeyed es) {e : Document × Document} :
    e ∈ ofPairs es ↔ Stands entryKey es e := by
  rw [ofPairs_eq h, List.mem_map]
  constructor
  · intro hm
    obtain ⟨⟨k, d⟩, hd, rfl⟩ := hm
    exact (Keyed.mem_ofList.mp hd).1
  · intro hm
    exact ⟨(entryKey e, e), Keyed.mem_ofList.mpr ⟨hm, rfl⟩, rfl⟩

variable {shown : Bool} {items : List Document} {es : Entries}

end Document

namespace Parameter
open Document Exchange

variable {p : Parameter}

/-- The fields of a parameter by their names. -/
def fields (p : Parameter) : Document.Entries :=
  [(.text "name", .text p.name), (.text "location", .text p.location), (.text "type", .text p.type),
   (.text "required", .bool p.required), (.text "description", orNull p.description),
   (.text "defaultValue", p.default), (.text "schema", orNull p.schema)]

theorem textKeyed_fields (p : Parameter) : TextKeyed p.fields := by
  intro e he
  simp only [fields, List.mem_cons, List.not_mem_nil, or_false] at he
  rcases he with rfl | rfl | rfl | rfl | rfl | rfl | rfl <;> rfl

theorem map_entryKey_fields (p : Parameter) : p.fields.map entryKey =
    ["name", "location", "type", "required", "description", "defaultValue", "schema"] := rfl

theorem wholeKeys_fields (p : Parameter) : WholeKeys p.fields := by
  have hnames : ∀ name ∈ p.fields.map entryKey, Text.hasHalf name.toList = false := by
    rw [map_entryKey_fields]
    decide
  exact fun e he => hnames _ (List.mem_map_of_mem he)

theorem nodup_fields (p : Parameter) : (p.fields.map entryKey).Nodup := by
  rw [map_entryKey_fields]
  decide

/-- The texts of a parameter, those in its default apart. -/
def texts (p : Parameter) : List String :=
  [p.name, p.location, p.type] ++ p.description.toList ++ p.schema.toList

/-- What nothing, truth values and the texts of a parameter have, all fields have, if the default
has it. -/
theorem forall_fields {P : Document → Prop} (hnull : P .null) (htext : ∀ s ∈ p.texts, P (.text s))
    (hbool : ∀ b, P (.bool b)) (hdefault : P p.default) : ∀ e ∈ p.fields, P e.2 := by
  have horNull (v : Option String) (hv : ∀ s ∈ v, P (.text s)) : P (orNull v) := by
    cases v with
    | none => exact hnull
    | some s => exact hv s rfl
  intro e he
  simp only [fields, List.mem_cons, List.not_mem_nil, or_false] at he
  rcases he with rfl | rfl | rfl | rfl | rfl | rfl | rfl
  · exact htext _ (by simp [texts])
  · exact htext _ (by simp [texts])
  · exact htext _ (by simp [texts])
  · exact hbool _
  · exact horNull _ fun s hs => htext s (by simp [texts, Option.mem_def.mp hs])
  · exact hdefault
  · exact horNull _ fun s hs => htext s (by simp [texts, Option.mem_def.mp hs])

theorem presentFields_sublist (p : Parameter) : p.presentFields.Sublist p.fields :=
  List.filter_sublist

end Parameter
end ApiDrift
