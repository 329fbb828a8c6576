import ApiDrift.CommandLine.Run
import ApiDrift.Proofs.Bump
import ApiDrift.Proofs.Reachable
import ApiDrift.Proofs.Recognition
import ApiDrift.Proofs.Scan
import ApiDrift.Verdict.Batch

/-!
# Documents of two formats under one name

The name of a file decides the format of its text unless it holds a document. Two documents under
one name can be the description of a web service and that of message channels. No endpoint of the
one has the id of an endpoint of the other, so comparing them always has an answer, in which
everything old is gone and everything new has come. A batch lists that answer; the command that
compares two files refuses such a pair.
-/
namespace ApiDrift
open Compare

section
variable {marks others : List String} {d e : Endpoint}

/-- Endpoints behind different marks without a dash in them have different ids. -/
theorem Endpoint.MarkedBy.id_ne (hd : d.MarkedBy marks) (he : e.MarkedBy others)
    (hmarks : ∀ m ∈ marks, '-' ∉ m.toList) (hothers : ∀ m ∈ others, '-' ∉ m.toList)
    (hdisjoint : ∀ m ∈ marks, m ∉ others) : d.id ≠ e.id := by
  obtain ⟨m, hm, hdid⟩ := hd
  obtain ⟨m', hm', heid⟩ := he
  intro heq
  rw [hdid, heid] at heq
  have hchars : m.toList ++ '-' :: d.path.toList = m'.toList ++ '-' :: e.path.toList := by
    simpa using congrArg String.toList heq
  have hfront := congrArg (List.takeWhile (· != '-')) hchars
  rw [Text.takeWhile_append_cons rfl, Text.takeWhile_append_cons rfl,
    Text.takeWhile_of_notMem (hmarks m hm), Text.takeWhile_of_notMem (hothers m' hm')] at hfront
  exact hdisjoint m hm (String.toList_inj.mp hfront ▸ hm')

end

namespace Reading
variable {content filename : String} {s : Spec}

/-- The format of a text that is no document is known by the name of its file. -/
theorem format_of_text (h : readSpec content filename = .ok s)
    (hext : extension filename ∉ documentExtensions) :
    s.format = if extension filename = "proto" then .grpc else .graphql := by
  obtain ⟨x, hforetold⟩ := foretold_read h
  cases hforetold with
  | schemaLanguage hschema =>
    have hproto : extension filename ≠ "proto" := by
      intro hproto
      simp [hproto] at hschema
    rw [if_neg hproto]
    rfl
  | serviceDefinitions hproto =>
    rw [if_pos hproto]
    rfl
  | webService hdocument => exact absurd hdocument hext
  | messageChannels hdocument => exact absurd hdocument hext

/-- A document is one of two formats, and its endpoints bear the marks of that format. -/
theorem format_of_document (h : readSpec content filename = .ok s)
    (hext : extension filename ∈ documentExtensions) :
    (s.format = .openapi ∧ ∀ e ∈ s.endpoints, e.MarkedBy (OpenApi.methods.map (·.2))) ∨
      s.format = .asyncapi ∧
        ∀ e ∈ s.endpoints, e.MarkedBy (AsyncApi.operationKinds.map (·.2.1)) := by
  obtain ⟨x, hforetold⟩ := foretold_read h
  cases hforetold with
  | schemaLanguage hschema =>
    have hdisjoint : ∀ ext ∈ ["graphql", "gql"], ext ∉ documentExtensions := by decide
    exact absurd hext (hdisjoint _ hschema)
  | serviceDefinitions hproto =>
    rw [hproto] at hext
    exact absurd hext (by decide)
  | @webService es _ _ _ hs =>
    have hes : ∀ e ∈ es, True ∧ True := fun _ _ => ⟨trivial, trivial⟩
    have hwalk := (OpenApi.yields_ofEntries Document.hereditary_true hes).of_ok hs
    exact .inl ⟨hwalk.1, fun e he => (hwalk.2 e he).1⟩
  | @messageChannels es _ _ _ hs =>
    have hwalk := (AsyncApi.yields_ofEntries es).of_ok hs
    exact .inr ⟨hwalk.1, fun e he => (hwalk.2 e he).1⟩

end Reading

open Reading

/-- One of two documents describes a web service and the other one message channels. -/
def Spec.MixedWith (o w : Spec) : Prop :=
  o.format = .openapi ∧ w.format = .asyncapi ∨ o.format = .asyncapi ∧ w.format = .openapi

section
variable {old new filename : String} {o w : Spec}

/-- Texts under one name have one format, or are documents that have no endpoint in common. -/
theorem format_eq_or_mixed (ho : readSpec old filename = .ok o)
    (hw : readSpec new filename = .ok w) :
    o.format = w.format ∨ extension filename ∈ documentExtensions ∧ o.MixedWith w ∧
      ∀ d ∈ o.endpoints, ∀ e ∈ w.endpoints, d.id ≠ e.id := by
  have hservice : ∀ m ∈ OpenApi.methods.map (·.2), '-' ∉ m.toList := by decide
  have hchannels : ∀ m ∈ AsyncApi.operationKinds.map (·.2.1), '-' ∉ m.toList := by decide
  have hdisjoint : ∀ m ∈ OpenApi.methods.map (·.2), m ∉ AsyncApi.operationKinds.map (·.2.1) := by
    decide
  by_cases hext : extension filename ∈ documentExtensions
  · rcases format_of_document ho hext with ⟨hof, ho⟩ | ⟨hof, ho⟩
    · rcases format_of_document hw hext with ⟨hwf, hw⟩ | ⟨hwf, hw⟩
      · exact .inl (hof.trans hwf.symm)
      · refine .inr ⟨hext, .inl ⟨hof, hwf⟩, fun d hd e he => ?_⟩
        exact (ho d hd).id_ne (hw e he) hservice hchannels hdisjoint
    · rcases format_of_document hw hext with ⟨hwf, hw⟩ | ⟨hwf, hw⟩
      · refine .inr ⟨hext, .inr ⟨hof, hwf⟩, fun d hd e he => ?_⟩
        exact ((hw e he).id_ne (ho d hd) hservice hchannels hdisjoint).symm
      · exact .inl (hof.trans hwf.symm)
  · exact .inl ((format_of_text ho hext).trans (format_of_text hw hext).symm)

end

theorem Comparison.narrow_risk (c : Comparison) (n : Narrowing) : (c.narrow n).risk = c.risk :=
  narrow_invariant (P := fun b => b.risk = c.risk) (fun _ _ h => h) (fun _ h => h) rfl n

/-- Where no endpoint is common there is an answer, and all old endpoints are gone in it. -/
theorem Spec.compare_of_disjoint {o w : Spec} (n : Narrowing)
    (h : ∀ d ∈ o.endpoints, ∀ e ∈ w.endpoints, d.id ≠ e.id) :
    ∃ c, o.compare n w = .ok c ∧ (o.endpoints ≠ [] → c.risk.bump = .major) := by
  obtain ⟨changes, hchanges⟩ := Spec.exists_changes_iff.mpr fun d e hpair =>
    absurd hpair.2.2 (h d hpair.1.mem e hpair.2.1.mem)
  have hspecs := Comparison.ofSpecs_eq_ok.mpr ⟨changes, hchanges, rfl⟩
  refine ⟨_, Spec.compare_eq_ok.mpr ⟨_, hspecs, rfl⟩, fun hne => ?_⟩
  rw [Comparison.narrow_risk]
  refine Risk.bumpOf_eq_major_iff.mpr (breakingOf_ne_nil_iff.mpr ?_)
  obtain ⟨e, he⟩ := List.exists_mem_of_ne_nil _ hne
  obtain ⟨d, hd, -⟩ := exists_stands (List.mem_map_of_mem (f := Endpoint.id) he)
  have hgone : d.id ∉ w.endpoints.map Endpoint.id := by
    intro hmem
    obtain ⟨f, hf, hid⟩ := List.mem_map.mp hmem
    exact h d hd.mem f hf hid.symm
  exact (Spec.exists_change_iff hchanges fun _ _ s => s = .breaking).mpr
    ⟨_, _, _, .endpointRemoved ⟨hd, hgone⟩, rfl⟩

open CommandLine in
/-- Two texts under one name are compared wherever both can be read, also where their formats
differ. They differ only where both are documents and one describes a web service, the other one
message channels. Then the comparison has an answer, which breaks every client there was, and a
batch lists it; the command that compares two files refuses the pair. -/
theorem mixed_documents_compared (r : Revision) (n : Narrowing) {o w : Spec}
    (ho : readSpec r.old r.filename = .ok o) (hw : readSpec r.new r.filename = .ok w) :
    o.format = w.format ∨ extension r.filename ∈ documentExtensions ∧ o.MixedWith w ∧
      (∃ c, r.compare n = .ok c ∧ Batch.ofRevision n r = .ok { results := [⟨r.filename, c⟩] } ∧
        (o.endpoints ≠ [] → c.risk.bump = .major)) ∧
      ∀ (s : CompareSettings) (verbose : Bool) (old new : List UInt8),
        Text.readText old = .ok r.old → Text.readText new = .ok r.new →
        ∃ log, runCompare s verbose ⟨r.filename, old⟩ ⟨r.filename, new⟩ =
          failed log (.failure (.spec (.mismatch r.filename o.format r.filename w.format))) := by
  refine (format_eq_or_mixed ho hw).imp_right fun hmixed => ?_
  obtain ⟨hext, hformats, hids⟩ := hmixed
  have hne : o.format ≠ w.format := by
    rcases hformats with ⟨hof, hwf⟩ | ⟨hof, hwf⟩ <;> rw [hof, hwf] <;> decide
  refine ⟨hext, hformats, ?_, fun s verbose old new hold hnew => ?_⟩
  · obtain ⟨c, hc, hbump⟩ := Spec.compare_of_disjoint n hids
    have hcompare : r.compare n = .ok c := by
      simp only [Revision.compare, ho, hw, bind, Except.bind, hc]
    refine ⟨c, hcompare, ?_, hbump⟩
    simp only [Batch.ofRevision, hcompare]
  · have hold' : SourceFile.spec ⟨r.filename, old⟩ = .ok o := by
      simp only [SourceFile.spec, hold, ho, Except.mapError]
    have hnew' : SourceFile.spec ⟨r.filename, new⟩ = .ok w := by
      simp only [SourceFile.spec, hnew, hw, Except.mapError]
    refine ⟨Notice.linesOf verbose [.read r.filename o, .read r.filename w], ?_⟩
    simp only [runCompare, withSpec, hold', hnew', if_neg hne]
    rfl

/-- Pets become events: an answer for a batch, a refusal for the command. -/
theorem pets_compared_with_events :
    let r : Revision :=
      { filename := "api.json"
        old :=
          "\x7b\"openapi\": \"3.0.0\", \"paths\": \x7b\"/pets\": \x7b\"get\": \x7b\x7d\x7d\x7d\x7d"
        new := "\x7b\"asyncapi\": \"2.0.0\"\x7d" }
    ∃ o w, readSpec r.old r.filename = .ok o ∧ readSpec r.new r.filename = .ok w ∧
      o.format = .openapi ∧ w.format = .asyncapi ∧ ∃ c, r.compare {} = .ok c := by
  intro r
  have hold : (readSpec r.old r.filename).toOption.map (·.format) = some .openapi := by
    decide +kernel
  have hnew : (readSpec r.new r.filename).toOption.map (·.format) = some .asyncapi := by
    decide +kernel
  obtain ⟨o, ho, hof⟩ := Option.map_eq_some_iff.mp hold
  obtain ⟨w, hw, hwf⟩ := Option.map_eq_some_iff.mp hnew
  rw [toOption_eq_some_iff] at ho hw
  refine ⟨o, w, ho, hw, hof, hwf, ?_⟩
  rcases mixed_documents_compared r {} ho hw with heq | ⟨-, -, ⟨c, hc, -⟩, -⟩
  · rw [hof, hwf] at heq
    cases heq
  · exact ⟨c, hc⟩

end ApiDrift
