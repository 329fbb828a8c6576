import ApiDrift.Proofs.ReportText
import ApiDrift.Proofs.Written

/-!
# Printed comparisons and the gate

Of two command lines that are the same but for what is shown, each is printed on its own. Where both
can be printed they end alike, and as data they tell one verdict. But what is shown can hold half of
a surrogate pair, which only an escape can write; then the output breaks off, and the command ends
with that fault instead of the status that the gate gives. The data of a batch are written in ASCII,
where halves are escaped, and never break off.
-/
namespace ApiDrift
open Document

namespace Comparison

end Comparison

namespace CommandLine

/-! ### Two files -/

theorem whole_render_iff {l : Json.Layout} {d : Document} :
    Whole (Json.render l d) ↔ Text.hasHalf (Json.write l 0 d) = false := by
  rw [Whole, Json.render, String.toList_ofList]

/-- A data text in ASCII can be encoded, whatever halves its value holds. -/
theorem whole_pagedAscii {d : Document} {ascii : Bool} (h : d.Literal ascii) :
    Whole (Json.render .pagedAscii d) := by
  refine whole_render_iff.mpr (Text.hasHalf_eq_false fun hmark => ?_)
  have hascii := Json.keepsTo_pagedAscii.write h 0 _ hmark
  revert hascii
  decide

theorem literal_verdict (v : FileVerdict) : v.toDocument.Literal false := by
  simp [FileVerdict.toDocument, literal_text, v.comparison.literal_toDocument]

theorem literal_refusal (r : FileRefusal) : r.toDocument.Literal false := by
  simp [FileRefusal.toDocument, literal_text]

theorem literal_batch (b : Batch) : b.toDocument.Literal false := by
  have hresults := literal_seq_map literal_verdict b.results
  have hfailures := literal_seq_map literal_refusal b.failures
  have haggregate := b.aggregate.literal_toDocument .camel
  simp [Batch.toDocument, hresults, hfailures, haggregate]

section
variable {w : Surroundings} {args args' : List String} {g g' : Given} {verbose verbose' : Bool}

theorem style_of_batchTask {old new : Directory} {s : BatchSettings}
    (h : batchTask w g = .ok (.batch old new s)) : s.style = styleOf g := by
  obtain ⟨-, _, _, _, _, -, -, -, -, -, htask⟩ := batchTask_eq_ok_iff.mp h
  cases htask
  rfl

/-- A batch as data is always written. -/
theorem writes_batch {old new : Directory} {s : BatchSettings}
    (h : Understood w .batch args g verbose (.batch old new s))
    (hjson : g.value? .format = some "json") : Writes w args := by
  have hstyle : s.style = .json := by
    rw [style_of_batchTask h.task_eq, styleOf, if_pos hjson]
  intro line hline
  simp only [h.run_eq, runTask, runBatch, hstyle] at hline
  split at hline
  · cases hline
  · cases List.mem_singleton.mp hline
    exact whole_pagedAscii (literal_batch _)

end

/-! ### Both commands -/

end CommandLine
end ApiDrift
