import ApiDrift.Proofs.Walking
import ApiDrift.Reading

/-!
# Recognising and reading agree

A file is recognised by its name and, where it holds a document, by decoding it; reading it decodes
it once more. `Foretold` lists what the two can answer side by side. What is not listed cannot
happen: a file that is recognised as one format is never read as another, and no fault of the walk
over a recognised document escapes.
-/
namespace ApiDrift

theorem FaultFamily.isReported_of_isForgiven {family : FaultFamily}
    (h : family.isForgiven = true) : family.isReported = true := by
  unfold isForgiven at h
  split at h <;> first | rfl | cases h

/-- Of the faults of shape only those for a value or type are reported. -/
theorem ShapeFault.family_of_isReported (f : ShapeFault) (h : f.family.isReported = true) :
    f.family = .type ∨ f.family = .value := by
  cases f with
  | misfit => exact .inr rfl
  | notIterable => exact .inl rfl
  | notMapping => cases h
  | numberTooLong => exact .inr rfl

/-- Refusals for the content of a file. -/
inductive SpecFault.OfContent (filename : String) : SpecFault → Prop
  | unknownShape : OfContent filename (.unknownShape filename)
  | malformed (cause : ParseCause) : OfContent filename (.malformed filename cause)

namespace SpecFault

variable {filename : String} {f : SpecFault}

theorem OfContent.exitCode (h : f.OfContent filename) : f.exitCode = 3 := by
  cases h <;> rfl

/-- The message names the file first. -/
theorem OfContent.message (h : f.OfContent filename) :
    ∃ reason, f.message = "Failed to parse spec file '" ++ filename ++ "': " ++ reason := by
  cases h with
  | unknownShape =>
    refine ⟨"Unknown YAML/JSON spec format (no 'openapi', 'swagger' or 'asyncapi' key)", ?_⟩
    unfold SpecFault.message
    rw [@String.append_assoc _ "': "]
    rfl
  | malformed cause => exact ⟨cause.message, rfl⟩

end SpecFault

namespace Reading

theorem Yields.family {α : Type} {P : α → Prop} {x : Shaped α} {f : ShapeFault} (hx : Yields P x)
    (h : x = .error f) : f.family = .type ∨ f.family = .value := by
  subst h
  exact f.family_of_isReported hx

/-- The extensions of files that hold markup. -/
def markupExtensions : List String := ["yaml", "yml"]

/-- The extensions of files that hold a document. -/
def documentExtensions : List String := "json" :: markupExtensions

/-- The extensions of files that can be read. -/
def extensions : List String := ["graphql", "gql", "proto"] ++ documentExtensions

/-- What the answer to recognising a file and the answer to reading it can be. -/
inductive Foretold (content filename : String) :
    Except Failure Format → Except Failure Spec → Prop
  | unsupported : extension filename ∉ extensions →
      Foretold content filename (.error (.spec (.unsupported filename (extension filename))))
        (.error (.spec (.unsupported filename (extension filename))))
  | schemaLanguage : extension filename ∈ ["graphql", "gql"] →
      Foretold content filename (.ok .graphql) (.ok (GraphQL.readSpec content.toList))
  | serviceDefinitions : extension filename = "proto" →
      Foretold content filename (.ok .grpc) (.ok (Protobuf.readSpec content.toList))
  | escaped {f : DocumentFault} : extension filename ∈ documentExtensions →
      loadDocument content (extension filename) = .error f → f.family.isForgiven = false →
      Foretold content filename (.error (.foreign (.document f))) (.error (.foreign (.document f)))
  | undecoded {f : DocumentFault} : extension filename ∈ documentExtensions →
      loadDocument content (extension filename) = .error f → f.family.isForgiven = true →
      Foretold content filename (.ok .unknown)
        (.error (.spec (.malformed filename (.document f))))
  | unmarked {doc : Document} : extension filename ∈ documentExtensions →
      loadDocument content (extension filename) = .ok doc →
      Foretold content filename (.ok .unknown) (.error (.spec (.unknownShape filename)))
  | webService {es : Document.Entries} {s : Spec} : extension filename ∈ documentExtensions →
      loadDocument content (extension filename) = .ok (.map es) → OpenApi.ofEntries es = .ok s →
      Foretold content filename (.ok .openapi) (.ok s)
  | messageChannels {es : Document.Entries} {s : Spec} : extension filename ∈ documentExtensions →
      loadDocument content (extension filename) = .ok (.map es) → AsyncApi.ofEntries es = .ok s →
      Foretold content filename (.ok .asyncapi) (.ok s)
  | misshapen {format : Format} {f : ShapeFault} : extension filename ∈ documentExtensions →
      format = .openapi ∨ format = .asyncapi → f.family.isReported = true →
      Foretold content filename (.ok format) (.error (.spec (.malformed filename (.shape f))))

section
variable {doc : Document} {content filename : String}

theorem classify_cases (doc : Document) :
    classify doc = .unknown ∨
      ∃ es, doc = .map es ∧ (classify doc = .openapi ∨ classify doc = .asyncapi) := by
  cases doc with
  | map es =>
    unfold classify
    dsimp only
    split_ifs
    · exact .inr ⟨es, rfl, .inl rfl⟩
    · exact .inr ⟨es, rfl, .inr rfl⟩
    · exact .inl rfl
  | _ => exact .inl rfl

/-- A fault that is reported is reported with the name of the file. -/
theorem ofCause_of_yields (filename : String) {P : Spec → Prop} {x : Shaped Spec} {f : ShapeFault}
    (hx : Yields P x) (h : x = .error f) : f.family.isReported = true ∧
      Failure.ofCause filename (.shape f) = .spec (.malformed filename (.shape f)) := by
  subst h
  exact ⟨hx, if_pos hx⟩

theorem foretold_ofDocument (hext : extension filename ∈ documentExtensions)
    (hload : loadDocument content (extension filename) = .ok doc) :
    Foretold content filename (.ok (classify doc)) (ofDocument filename doc) := by
  unfold ofDocument
  rcases classify_cases doc with hunknown | ⟨es, rfl, hopenapi | hasyncapi⟩
  · rw [hunknown]
    exact .unmarked hext hload
  · simp only [hopenapi, OpenApi.ofDocument]
    cases hwalk : OpenApi.ofEntries es with
    | ok s => exact .webService hext hload hwalk
    | error f =>
      have hf := ofCause_of_yields filename (OpenApi.yields_format es) hwalk
      simp only [Except.mapError, hf.2]
      exact .misshapen hext (.inl rfl) hf.1
  · simp only [hasyncapi, AsyncApi.ofDocument]
    cases hwalk : AsyncApi.ofEntries es with
    | ok s => exact .messageChannels hext hload hwalk
    | error f =>
      have hf := ofCause_of_yields filename (AsyncApi.yields_format es) hwalk
      simp only [Except.mapError, hf.2]
      exact .misshapen hext (.inr rfl) hf.1

theorem readerFor?_cases (ext : String) :
    ext ∉ extensions ∧ readerFor? ext = none ∨
      ext ∈ ["graphql", "gql"] ∧ readerFor? ext = some .schemaLanguage ∨
      ext = "proto" ∧ readerFor? ext = some .serviceDefinitions ∨
      ext ∈ documentExtensions ∧ (readerFor? ext = some .json ∨ readerFor? ext = some .yaml) := by
  unfold readerFor? extensions documentExtensions markupExtensions
  split_ifs <;> simp_all

theorem readerFor?_document {ext : String} (hext : ext ∈ documentExtensions) :
    readerFor? ext = some .json ∨ readerFor? ext = some .yaml := by
  rcases List.mem_cons.mp hext with rfl | hmarkup
  · exact .inl rfl
  simp only [markupExtensions, List.mem_cons, List.not_mem_nil, or_false] at hmarkup
  rcases hmarkup with rfl | rfl
  · exact .inr rfl
  · exact .inr rfl

theorem detectFormat_of_ok (hext : extension filename ∈ documentExtensions)
    (hload : loadDocument content (extension filename) = .ok doc) :
    detectFormat content filename = .ok (classify doc) := by
  unfold detectFormat
  rcases readerFor?_document hext with h | h <;> simp only [h, hload]

theorem detectFormat_of_error {f : DocumentFault} (hext : extension filename ∈ documentExtensions)
    (hload : loadDocument content (extension filename) = .error f) :
    detectFormat content filename =
      if f.family.isForgiven then .ok .unknown else .error (.foreign (.document f)) := by
  unfold detectFormat
  rcases readerFor?_document hext with h | h <;> simp only [h, hload]

theorem foretold_document (hext : extension filename ∈ documentExtensions) :
    Foretold content filename (detectFormat content filename) (readSpec content filename) := by
  unfold readSpec
  cases hload : loadDocument content (extension filename) with
  | ok doc =>
    have hread : readDocument content filename = ofDocument filename doc := by
      unfold readDocument
      rw [hload]
      rfl
    have hdoc := hread ▸ foretold_ofDocument hext hload
    rw [detectFormat_of_ok hext hload]
    rcases classify_cases doc with hformat | ⟨-, -, hformat | hformat⟩
    all_goals
      rw [hformat] at hdoc ⊢
      exact hdoc
  | error f =>
    rw [detectFormat_of_error hext hload]
    cases hf : f.family.isForgiven with
    | false => exact .escaped hext hload hf
    | true =>
      have hread : readDocument content filename =
          .error (.spec (.malformed filename (.document f))) := by
        unfold readDocument Failure.ofCause
        rw [hload]
        simp [Except.mapError, ParseCause.family, FaultFamily.isReported_of_isForgiven hf]
        rfl
      exact hread ▸ .undecoded hext hload hf

theorem foretold (content filename : String) :
    Foretold content filename (detectFormat content filename) (readSpec content filename) := by
  rcases readerFor?_cases (extension filename) with ⟨hext, h⟩ | ⟨hext, h⟩ | ⟨hext, h⟩ | ⟨hext, -⟩
  · simp only [readSpec, detectFormat, h]
    exact .unsupported hext
  · simp only [readSpec, detectFormat, h]
    exact .schemaLanguage hext
  · simp only [readSpec, detectFormat, h]
    exact .serviceDefinitions hext
  · exact foretold_document hext

theorem foretold_detected {x : Except Failure Format} (h : detectFormat content filename = x) :
    ∃ y, Foretold content filename x y :=
  ⟨_, h ▸ foretold content filename⟩

theorem foretold_read {y : Except Failure Spec} (h : readSpec content filename = y) :
    ∃ x, Foretold content filename x y :=
  ⟨_, h ▸ foretold content filename⟩

theorem mem_extensions_of_document {ext : String} (h : ext ∈ documentExtensions) :
    ext ∈ extensions :=
  List.mem_append_right _ h

namespace Foretold

variable {x : Except Failure Format} {y : Except Failure Spec}

/-- A file is refused for its name exactly where the extension is unknown, whatever it holds. -/
theorem unsupported_iff (h : Foretold content filename x y) :
    (extension filename ∉ extensions ↔
        x = .error (.spec (.unsupported filename (extension filename)))) ∧
      (extension filename ∉ extensions ↔
        y = .error (.spec (.unsupported filename (extension filename)))) := by
  cases h with
  | unsupported hext => simp [hext]
  | schemaLanguage hext | serviceDefinitions hext => grind [extensions]
  | escaped hext | undecoded hext | unmarked hext | webService hext | messageChannels hext
  | misshapen hext => simp [mem_extensions_of_document hext]

theorem failure_eq (h : Foretold content filename x y) {failure : Failure}
    (hx : x = .error failure) : y = .error failure := by
  cases h with
  | unsupported => exact Except.error.inj hx ▸ rfl
  | escaped => exact Except.error.inj hx ▸ rfl
  | _ => cases hx

/-- What has no known format is refused for its content: for its shape where it is a document. -/
theorem refused_of_unknown (h : Foretold content filename x y) (hx : x = .ok .unknown) :
    ∃ f : SpecFault, y = .error (.spec f) ∧ f.OfContent filename ∧
      (f = .unknownShape filename ↔
        ∃ doc, loadDocument content (extension filename) = .ok doc) := by
  cases h with
  | undecoded _ hload => exact ⟨_, rfl, .malformed _, by simp [hload]⟩
  | unmarked _ hload => exact ⟨_, rfl, .unknownShape, by simp [hload]⟩
  | _ => grind

theorem read_of_text (h : Foretold content filename x y) {format : Format} (hx : x = .ok format)
    (hformat : format = .graphql ∨ format = .grpc) : ∃ s, y = .ok s ∧ s.format = format := by
  cases h with
  | schemaLanguage => exact ⟨_, rfl, Except.ok.inj hx⟩
  | serviceDefinitions => exact ⟨_, rfl, Except.ok.inj hx⟩
  | _ => grind

/-- A recognised document is read as what it is recognised as, or refused for a type or value. -/
theorem read_of_document (h : Foretold content filename x y) {format : Format}
    (hx : x = .ok format) (hformat : format = .openapi ∨ format = .asyncapi) :
    (∃ s, y = .ok s ∧ s.format = format) ∨
      ∃ cause : ParseCause, y = .error (.spec (.malformed filename cause)) ∧
        (cause.family = .type ∨ cause.family = .value) := by
  cases h with
  | webService _ _ hs =>
    exact .inl ⟨_, rfl, ((OpenApi.yields_format _).of_ok hs).trans (Except.ok.inj hx)⟩
  | messageChannels _ _ hs =>
    exact .inl ⟨_, rfl, ((AsyncApi.yields_format _).of_ok hs).trans (Except.ok.inj hx)⟩
  | @misshapen _ f _ _ hf => exact .inr ⟨_, rfl, f.family_of_isReported hf⟩
  | _ => grind [GraphQL.readSpec, Protobuf.readSpec]

theorem ofContent_of_refused (h : Foretold content filename x y) {f : SpecFault}
    (hy : y = .error (.spec f)) (hext : extension filename ∈ extensions) :
    f.OfContent filename := by
  cases h with
  | unsupported hnot => exact absurd hext hnot
  | undecoded | misshapen =>
    cases hy
    exact .malformed _
  | unmarked =>
    cases hy
    exact .unknownShape
  | _ => cases hy

end Foretold

end

/-- Recognising a file and reading it agree, whatever the file is called and holds. Both refuse an
unknown extension, and what else keeps a file from being recognised keeps it from being read. A file
of no known format is refused for its content, for its shape exactly where it is a document. A file
of a known format is read as that format; a document may also be refused for a type or value, and
over mappings the readers end in no other way. Refusals for the content name the file first. -/
theorem recognising_foretells_reading (content filename : String) :
    (extension filename ∉ extensions ↔ detectFormat content filename =
        .error (.spec (.unsupported filename (extension filename)))) ∧
      (extension filename ∉ extensions ↔ readSpec content filename =
        .error (.spec (.unsupported filename (extension filename)))) ∧
      (∀ failure, detectFormat content filename = .error failure →
        readSpec content filename = .error failure) ∧
      (detectFormat content filename = .ok .unknown →
        ∃ f : SpecFault, readSpec content filename = .error (.spec f) ∧ f.OfContent filename ∧
          f.exitCode = 3 ∧ (f = .unknownShape filename ↔
            ∃ doc, loadDocument content (extension filename) = .ok doc)) ∧
      (∀ format, detectFormat content filename = .ok format →
        format = .graphql ∨ format = .grpc →
        ∃ s, readSpec content filename = .ok s ∧ s.format = format) ∧
      (∀ format, detectFormat content filename = .ok format →
        format = .openapi ∨ format = .asyncapi →
        (∃ s, readSpec content filename = .ok s ∧ s.format = format) ∨
          ∃ cause : ParseCause,
            readSpec content filename = .error (.spec (.malformed filename cause)) ∧
            (cause.family = .type ∨ cause.family = .value)) ∧
      (∀ (es : Document.Entries) (f : ShapeFault),
        OpenApi.ofDocument (.map es) = .error f ∨ AsyncApi.ofDocument (.map es) = .error f →
        f.family = .type ∨ f.family = .value) ∧
      ∀ f : SpecFault, readSpec content filename = .error (.spec f) →
        extension filename ∈ extensions →
        ∃ reason, f.message = "Failed to parse spec file '" ++ filename ++ "': " ++ reason := by
  have h := foretold content filename
  refine ⟨h.unsupported_iff.1, h.unsupported_iff.2, fun _ => h.failure_eq, ?_,
    fun _ => h.read_of_text, fun _ => h.read_of_document, ?_, ?_⟩
  · intro hunknown
    obtain ⟨f, hread, hf, hshape⟩ := h.refused_of_unknown hunknown
    exact ⟨f, hread, hf, hf.exitCode, hshape⟩
  · intro es f hf
    rcases hf with hf | hf
    · exact (OpenApi.yields_format es).family hf
    · exact (AsyncApi.yields_format es).family hf
  · intro f hread hext
    exact (h.ofContent_of_refused hread hext).message

/-- The tags of a message channel are no number. -/
theorem channel_tags_recognised_and_refused :
    let content :=
      "\x7b\"asyncapi\":2, \"channels\":\x7b\"a\":\x7b\"subscribe\":\x7b\"tags\":5\x7d\x7d\x7d\x7d"
    detectFormat content "events.json" = .ok .asyncapi ∧ ∃ cause : ParseCause,
      readSpec content "events.json" = .error (.spec (.malformed "events.json" cause)) ∧
        (cause.family = .type ∨ cause.family = .value) := by
  intro content
  have hformat : detectFormat content "events.json" = .ok .asyncapi :=
    toOption_eq_some_iff.mp (by decide +kernel)
  obtain ⟨f, hf⟩ : ∃ f, readSpec content "events.json" = .error f :=
    isOk_eq_false_iff.mp (by decide +kernel)
  refine ⟨hformat, ?_⟩
  obtain ⟨-, -, -, -, -, hread, -⟩ := recognising_foretells_reading content "events.json"
  rcases hread _ hformat (.inr rfl) with ⟨s, hs, -⟩ | hcause
  · cases hf.symm.trans hs
  · exact hcause

end Reading
end ApiDrift
