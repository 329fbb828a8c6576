import ApiDrift.Proofs.Edits
import ApiDrift.Proofs.Transcript

/-!
# What the line of a parameter tells

The line of a parameter is printable ASCII, and a parameter is read off it again, where its texts
hold no halves of surrogate pairs. Fields that are absent are left out, as they are again when the
line is checked; what is nothing inside a default is kept. So the changes of a comparison tell the
parameters that are gone and those that are new.
-/
namespace ApiDrift
namespace Parameter
open Document Json Checking Exchange

variable {p q : Parameter} {line : String}

/-- A parameter whose texts hold no halves of surrogate pairs, and whose default is made of nothing,
truth values, whole numbers that are not too long, such texts, sequences and mappings. -/
structure Exact (p : Parameter) : Prop where
  texts : ∀ s ∈ p.texts, Text.hasHalf s.toList = false
  default : p.default.Exact

theorem Exact.presentFields (h : p.Exact) : (Document.map p.presentFields).Exact := by
  have hsub := p.presentFields_sublist
  exact .map (fun e he => p.textKeyed_fields e (hsub.mem he))
    (fun e he => p.wholeKeys_fields e (hsub.mem he)) (p.nodup_fields.sublist (hsub.map entryKey))
    fun e he => forall_fields .null (fun s hs => .text (h.texts s hs)) .bool h.default e
      (hsub.mem he)

end Parameter

namespace Compare
open Parameter

variable {base : String} {t : ChangeType} {shown : Change → Option String} {P : Parameter → Prop}

end Compare

open Compare

/-- A filter whose default holds nothing, a number, and a text with a character beyond the first
plane. -/
def Sample.filter : Parameter :=
  { name := "filter", location := "query"
    default := .map [(.text "any", .seq [.null, .int (-3),
      .text (String.ofList ['a', '\n', Char.ofNat 0x1f600])])] }

end ApiDrift
