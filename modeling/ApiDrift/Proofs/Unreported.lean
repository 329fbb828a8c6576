import ApiDrift.Inspection.Lint
import ApiDrift.Proofs.Recognition

/-!
# Documents that are not reported

A document that is malformed or misshapen is reported: recognising answers with the unknown format,
reading refuses the file, a lint report names the error. There is one exception. A scalar of a
markup text can have a fault that is neither one of notation nor one of value; such a fault ends all
three, and nothing else does.
-/
namespace ApiDrift

/-- Of the faults of decoding only those of scalars are not forgiven. -/
theorem DocumentFault.eq_scalar {f : DocumentFault} (h : f.family.isForgiven = false) :
    ∃ g, f = .yaml (.scalar g) := by
  cases f with
  | json => cases h
  | yaml f =>
    cases f with
    | scalar g => exact ⟨g, rfl⟩
    | unacceptable => cases h
    | notice => cases h

namespace Reading

/-- What ends every operation on a file: the fault of a scalar that is not forgiven. -/
inductive Unreported (content filename : String) : Failure → Prop
  | scalar {f : Yaml.ScalarFault} : extension filename ∈ markupExtensions →
      Yaml.read content = .error (.scalar f) → f.family.isForgiven = false →
      Unreported content filename (.foreign (.document (.yaml (.scalar f))))

variable {content filename : String} {failure : Failure} {strict : Bool}

theorem Unreported.ne_spec (h : Unreported content filename failure) (f : SpecFault) :
    failure ≠ .spec f := by
  cases h with
  | scalar => exact fun heq => by cases heq

/-- Only data notation is not read as markup. -/
theorem loadDocument_eq_yaml_iff {ext : String} {f : Yaml.Fault} :
    loadDocument content ext = .error (.yaml f) ↔ ext ≠ "json" ∧ Yaml.read content = .error f := by
  unfold loadDocument
  by_cases hjson : ext = "json"
  · simp [hjson, mapError_eq_error_iff]
  · simp [hjson, mapError_eq_error_iff]

theorem unreported_of_escaped {f : DocumentFault} (hext : extension filename ∈ documentExtensions)
    (hload : loadDocument content (extension filename) = .error f)
    (hf : f.family.isForgiven = false) :
    Unreported content filename (.foreign (.document f)) := by
  obtain ⟨g, rfl⟩ := DocumentFault.eq_scalar hf
  obtain ⟨hjson, hread⟩ := loadDocument_eq_yaml_iff.mp hload
  have hmarkup : extension filename ∈ markupExtensions := (List.mem_cons.mp hext).resolve_left hjson
  exact .scalar hmarkup hread hf

theorem Unreported.detectFormat_eq (h : Unreported content filename failure) :
    detectFormat content filename = .error failure := by
  cases h with
  | @scalar f hext hread hf =>
    have hjson : extension filename ≠ "json" := by
      intro hjson
      rw [hjson] at hext
      exact absurd hext (by decide)
    have hload := loadDocument_eq_yaml_iff.mpr ⟨hjson, hread⟩
    rw [detectFormat_of_error (List.mem_cons_of_mem _ hext) hload]
    exact if_neg (Bool.eq_false_iff.mp hf)

theorem detectFormat_eq_error_iff :
    detectFormat content filename = .error failure ↔
      extension filename ∉ extensions ∧
          failure = .spec (.unsupported filename (extension filename)) ∨
        Unreported content filename failure := by
  constructor
  · intro h
    obtain ⟨y, hforetold⟩ := foretold_detected h
    cases hforetold with
    | unsupported hext => exact .inl ⟨hext, rfl⟩
    | escaped hext hload hf => exact .inr (unreported_of_escaped hext hload hf)
  · intro h
    rcases h with ⟨hext, rfl⟩ | h
    · exact (foretold content filename).unsupported_iff.1.mp hext
    · exact h.detectFormat_eq

theorem readSpec_error_cases (h : readSpec content filename = .error failure) :
    (∃ f, failure = .spec f) ∨ Unreported content filename failure := by
  obtain ⟨x, hforetold⟩ := foretold_read h
  cases hforetold with
  | escaped hext hload hf => exact .inr (unreported_of_escaped hext hload hf)
  | unsupported | undecoded | unmarked | misshapen => exact .inl ⟨_, rfl⟩

theorem ofKnown_eq_error {format : Format}
    (h : LintReport.ofKnown content filename format strict = .error failure) :
    Unreported content filename failure := by
  unfold LintReport.ofKnown at h
  split at h
  · cases h
  · cases h
  · rename_i f hspec hread
    cases h
    exact (readSpec_error_cases hread).resolve_left fun hf => hf.elim fun g hg => hspec g hg

theorem ofText_eq_error_iff :
    LintReport.ofText content filename strict = .error failure ↔
      Unreported content filename failure := by
  constructor
  · intro h
    unfold LintReport.ofText at h
    split at h
    · cases h
    · rename_i f hspec hdetect
      cases h
      rcases detectFormat_eq_error_iff.mp hdetect with ⟨-, hf⟩ | hf
      · exact absurd hf (hspec _)
      · exact hf
    · cases h
    · exact ofKnown_eq_error h
  · intro h
    unfold LintReport.ofText
    rw [h.detectFormat_eq]
    split
    · rename_i f hf
      exact absurd (Except.error.inj hf) (h.ne_spec f)
    · rename_i hf
      exact congrArg _ (Except.error.inj hf).symm
    · rename_i hf
      cases hf
    · rename_i hf
      cases hf

/-- A bad document is reported by every operation or by none. A lint report exists unless a scalar
has a fault that is not forgiven, and that fault then ends recognising and reading as well;
otherwise recognising fails for the name of a file alone, and reading with a refusal that names the
file. -/
theorem unreported_iff_scalar_fails (content filename : String) (strict : Bool)
    (failure : Failure) :
    (LintReport.ofText content filename strict = .error failure ↔
        Unreported content filename failure) ∧
      (detectFormat content filename = .error failure ↔
        extension filename ∉ extensions ∧
            failure = .spec (.unsupported filename (extension filename)) ∨
          Unreported content filename failure) ∧
      (readSpec content filename = .error failure →
        (∃ f, failure = .spec f) ∨ Unreported content filename failure) ∧
      (Unreported content filename failure → readSpec content filename = .error failure) := by
  refine ⟨ofText_eq_error_iff, detectFormat_eq_error_iff, readSpec_error_cases, ?_⟩
  intro h
  exact (foretold content filename).failure_eq h.detectFormat_eq

/-- A truth value that is none of the words for one is not reported. -/
theorem unlisted_flag_unreported :
    let content := "openapi: !!bool x\n"
    let failure : Failure := .foreign (.document (.yaml (.scalar (.unknownFlag "x"))))
    LintReport.ofText content "boom.yaml" false = .error failure ∧
      detectFormat content "boom.yaml" = .error failure ∧
      readSpec content "boom.yaml" = .error failure := by
  intro content failure
  have hread : Yaml.read content = .error (.scalar (.unknownFlag "x")) := by
    have h : (match Yaml.read content with
        | .error f => f == .scalar (.unknownFlag "x")
        | .ok _ => false) = true := by decide +kernel
    split at h
    · rename_i f hf
      exact hf.trans (congrArg _ (beq_iff_eq.mp h))
    · cases h
  have hscalar : Unreported content "boom.yaml" failure := .scalar (by decide) hread rfl
  have hiff := unreported_iff_scalar_fails content "boom.yaml" false failure
  obtain ⟨hreport, hdetect, -, hspec⟩ := hiff
  exact ⟨hreport.mpr hscalar, hdetect.mpr (.inr hscalar), hspec hscalar⟩

end Reading
end ApiDrift
