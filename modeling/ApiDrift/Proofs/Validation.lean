import ApiDrift.Proofs.CommandLines
import ApiDrift.Proofs.Unreported
import ApiDrift.Proofs.Written

/-!
# Lint reports agree with reading

A lint report is made from two separate looks at a text: the format is recognised, then the text is
read. The report is valid exactly where reading succeeds, names the recognised format, and under the
strict regime turns all that is left out into errors. Which of the two looks has failed shows in the
one error of an invalid report only.

Schema language and service definitions are read whatever the text is, and have the default version,
so that they are valid and never strictly so.
-/
namespace ApiDrift
open Reading

namespace LintReport

variable {content filename : String} {format : Format} {s : Spec}

/-- A text that is read is reported as a specification of the recognised format. -/
theorem ofText_of_read (h : readSpec content filename = .ok s) :
    ∃ format, detectFormat content filename = .ok format ∧
      ∀ strict, ofText content filename strict = .ok (ofSpec filename format strict s) := by
  have hforetold := foretold content filename
  generalize hdetect : detectFormat content filename = x at hforetold
  rw [h] at hforetold
  cases hforetold
  all_goals
    refine ⟨_, rfl, fun strict => ?_⟩
    simp only [ofText, hdetect, ofKnown, h]

/-- A text that is refused is reported with one error, in the same words under both regimes. -/
theorem ofText_of_refused {f : SpecFault} (h : readSpec content filename = .error (.spec f)) :
    ∃ format error,
      (detectFormat content filename = .ok format ∨
        extension filename ∉ extensions ∧ format = .unknown) ∧
      ∀ strict, ofText content filename strict = .ok (invalid filename format error) := by
  have hforetold := foretold content filename
  generalize hdetect : detectFormat content filename = x at hforetold
  rw [h] at hforetold
  cases hforetold with
  | unsupported hext =>
    let f : SpecFault := .unsupported filename (extension filename)
    refine ⟨.unknown, f.message, .inr ⟨hext, rfl⟩, fun strict => ?_⟩
    simp only [ofText, hdetect, f]
  | undecoded | unmarked =>
    refine ⟨_, "Unable to detect specification type", .inl rfl, fun strict => ?_⟩
    simp only [ofText, hdetect]
  | @misshapen format g _ hformat =>
    let f : SpecFault := .malformed filename (.shape g)
    refine ⟨format, "Parse error: " ++ f.message, .inl rfl, fun strict => ?_⟩
    rcases hformat with rfl | rfl
    all_goals simp only [ofText, hdetect, ofKnown, h, f]

/-- The reports on a text under both regimes agree with recognising and with reading it. -/
structure Agree (content filename : String) (plain strict : LintReport) : Prop where
  valid : plain.valid = true ↔ ∃ s, readSpec content filename = .ok s
  format : detectFormat content filename = .ok plain.format ∨
    extension filename ∉ extensions ∧ plain.format = .unknown
  errors : plain.valid = true → plain.errors = []
  strictlyValid : strict.valid = true ↔ plain.valid = true ∧ plain.warnings = [] ∧
    ∀ s, readSpec content filename = .ok s → strictWarningsOf s = []
  refused : (¬ ∃ s, readSpec content filename = .ok s) → strict = plain
  promoted : ∀ s, readSpec content filename = .ok s →
    strict.warnings = [] ∧ strict.errors = plain.warnings ++ strictWarningsOf s

theorem agree_of_read (h : readSpec content filename = .ok s)
    (hdetect : detectFormat content filename = .ok format) :
    Agree content filename (ofSpec filename format false s) (ofSpec filename format true s) where
  valid := iff_of_true rfl ⟨s, h⟩
  format := .inl hdetect
  errors _ := rfl
  strictlyValid := by
    simp [ofSpec, h]
  refused hread := absurd ⟨s, h⟩ hread
  promoted t ht := by
    cases h.symm.trans ht
    exact ⟨rfl, rfl⟩

theorem agree_of_refused {error : String} (hread : ¬ ∃ s, readSpec content filename = .ok s)
    (hformat : detectFormat content filename = .ok format ∨
      extension filename ∉ extensions ∧ format = .unknown) :
    Agree content filename (invalid filename format error) (invalid filename format error) where
  valid := iff_of_false Bool.false_ne_true hread
  format := hformat
  errors hvalid := absurd hvalid Bool.false_ne_true
  strictlyValid := iff_of_false Bool.false_ne_true fun hvalid => Bool.false_ne_true hvalid.1
  refused _ := rfl
  promoted s hs := absurd ⟨s, hs⟩ hread

/-- Where there is a report under one regime, there are reports under both, and they agree. -/
theorem exists_agree {strict : Bool} {r : LintReport}
    (h : ofText content filename strict = .ok r) :
    ∃ plain strict, ofText content filename false = .ok plain ∧
      ofText content filename true = .ok strict ∧ Agree content filename plain strict := by
  cases hread : readSpec content filename with
  | ok s =>
    obtain ⟨format, hdetect, hreport⟩ := ofText_of_read hread
    exact ⟨_, _, hreport false, hreport true, agree_of_read hread hdetect⟩
  | error failure =>
    rcases readSpec_error_cases hread with ⟨f, rfl⟩ | hunreported
    · obtain ⟨format, error, hformat, hreport⟩ := ofText_of_refused hread
      have hnone : ¬ ∃ s, readSpec content filename = .ok s := by simp [hread]
      exact ⟨_, _, hreport false, hreport true, agree_of_refused hnone hformat⟩
    · cases h.symm.trans (ofText_eq_error_iff.mpr hunreported)

/-! ### Texts that are no documents -/

theorem exists_read_of_text (hext : extension filename ∈ ["graphql", "gql", "proto"]) :
    ∃ s, readSpec content filename = .ok s ∧ s.version = defaultVersion := by
  have hdocument : ∀ ext ∈ ["graphql", "gql", "proto"],
      ext ∈ extensions ∧ ext ∉ documentExtensions := by decide
  obtain ⟨hknown, hno⟩ := hdocument _ hext
  have hforetold := foretold content filename
  generalize detectFormat content filename = x at hforetold
  generalize readSpec content filename = y at hforetold ⊢
  cases hforetold with
  | unsupported h => exact absurd hknown h
  | schemaLanguage => exact ⟨_, rfl, rfl⟩
  | serviceDefinitions => exact ⟨_, rfl, rfl⟩
  | escaped h | undecoded h | unmarked h | webService h | messageChannels h | misshapen h =>
    exact absurd h hno

/-- The default version is a warning about the version. -/
theorem warningsOf_ne_nil (h : s.version = defaultVersion) : warningsOf s ≠ [] := by
  simp [warningsOf, h, warnIf]

end LintReport

namespace CommandLine

/-- The report on a file is one on the text of its bytes. -/
def ReportedAs (strict : Bool) (file : SourceFile) (r : LintReport) : Prop :=
  ∃ content, Text.readText file.bytes = .ok content ∧
    LintReport.ofText content file.name strict = .ok r

theorem lintAll_cons_eq_ok_iff {strict : Bool} {file : SourceFile} {files : List SourceFile}
    {reports : List LintReport} :
    (lintAll strict (file :: files)).2 = .ok reports ↔
      ∃ r rest, ReportedAs strict file r ∧ (lintAll strict files).2 = .ok rest ∧
        reports = r :: rest := by
  simp only [lintAll, ReportedAs]
  cases Text.readText file.bytes with
  | error => simp
  | ok content =>
    cases hreport : LintReport.ofText content file.name strict with
    | error => simp [hreport]
    | ok r =>
      cases (lintAll strict files).2 with
      | error => simp [hreport, Except.map]
      | ok rest => simp [hreport, Except.map, eq_comm]

theorem lintAll_eq_ok_iff {strict : Bool} {files : List SourceFile} {reports : List LintReport} :
    (lintAll strict files).2 = .ok reports ↔ List.Forall₂ (ReportedAs strict) files reports := by
  induction files generalizing reports with
  | nil => simp [lintAll, eq_comm]
  | cons file files ih =>
    simp only [lintAll_cons_eq_ok_iff, ih, List.forall₂_cons_left_iff]

theorem runValidate_status_iff {strict : Bool} {style : Style} {verbose : Bool}
    {files : List SourceFile} {code : Nat} :
    (runValidate strict style verbose files).ending = .status code ↔
      ∃ reports, List.Forall₂ (ReportedAs strict) files reports ∧
        code = if ∀ r ∈ reports, r.valid = true then 0 else 1 := by
  have hvalid : ∀ reports : List LintReport,
      reports.countP (fun r => !r.valid) = 0 ↔ ∀ r ∈ reports, r.valid = true := by
    intro reports
    simp [List.countP_eq_zero]
  simp only [← lintAll_eq_ok_iff, runValidate]
  cases (lintAll strict files).2 with
  | error => simp
  | ok reports =>
    simp only [Except.ok.injEq, exists_eq_left', hvalid]
    split_ifs with hall
    · simp [eq_comm]
    · simp [eq_comm]

end CommandLine

open CommandLine in
/-- Lint reports agree with reading. A text that has a report has one under both regimes. The plain
one is valid exactly where the text is read, and names the recognised format; the strict one is
valid where nothing was left out as well, and has all that was as errors. Schema language and
service definitions are always valid and never strictly so. The command that reports on files comes
to status 0 exactly where all of its reports are valid, and else to status 1, and ends so where all
is written. -/
theorem reports_agree_with_reading :
    (∀ content filename strict r, LintReport.ofText content filename strict = .ok r →
      ∃ plain strict, LintReport.ofText content filename false = .ok plain ∧
        LintReport.ofText content filename true = .ok strict ∧
        LintReport.Agree content filename plain strict) ∧
    (∀ content filename, extension filename ∈ ["graphql", "gql", "proto"] →
      ∃ plain strict, LintReport.ofText content filename false = .ok plain ∧
        LintReport.ofText content filename true = .ok strict ∧
        plain.valid = true ∧ strict.valid = false) ∧
    ∀ w args g verbose files strict style code,
      Understood w .validate args g verbose (.validate files strict style) →
      ((run w args).ending = .status code ↔
        ∃ reports, List.Forall₂ (ReportedAs strict) files reports ∧
          code = if ∀ r ∈ reports, r.valid = true then 0 else 1) ∧
      ((execute w args).ending = .status code ↔
        (run w args).ending = .status code ∧ Writes w args) := by
  refine ⟨fun content filename strict r => LintReport.exists_agree, ?_, ?_⟩
  · intro content filename hext
    obtain ⟨s, hread, hversion⟩ := LintReport.exists_read_of_text hext
    obtain ⟨format, -, hreport⟩ := LintReport.ofText_of_read hread
    refine ⟨_, _, hreport false, hreport true, rfl, ?_⟩
    simp [LintReport.ofSpec, LintReport.warningsOf_ne_nil hversion]
  · intro w args g verbose files strict style code h
    refine ⟨?_, execute_status_iff⟩
    rw [h.run_eq]
    exact runValidate_status_iff

open CommandLine in
/-- A document that leaves out everything is valid, with three warnings, but not strictly so. Of a
schema and notes the notes are no specification, which is the status of the command. -/
theorem notes_fail_validation :
    (∃ plain strict, LintReport.ofText "\x7b\"openapi\": 3\x7d" "api.json" false = .ok plain ∧
      LintReport.ofText "\x7b\"openapi\": 3\x7d" "api.json" true = .ok strict ∧
      LintReport.Agree "\x7b\"openapi\": 3\x7d" "api.json" plain strict ∧
      plain.valid = true ∧ plain.warnings.length = 3 ∧ strict.valid = false) ∧
    (∃ plain strict, LintReport.ofText "\x7d" "shop.GQL" false = .ok plain ∧
      LintReport.ofText "\x7d" "shop.GQL" true = .ok strict ∧ plain.valid = true ∧
      strict.valid = false) ∧
    (run Sample.versions ["validate", "new/shop/orders.graphql", "--format=json", "new/notes.txt"]
      ).ending = .status 1 := by
  refine ⟨?_, ?_, ?_⟩
  · have hreport : LintReport.ofText "\x7b\"openapi\": 3\x7d" "api.json" false = .ok
        { file := "api.json", format := .openapi
          warnings :=
            ["API name not specified", "API version not specified or using default",
             "No endpoints defined"] } :=
      toOption_eq_some_iff.mp (by decide +kernel)
    obtain ⟨plain, strict, hplain, hstrict, hagree⟩ := reports_agree_with_reading.1 _ _ _ _ hreport
    cases hreport.symm.trans hplain
    refine ⟨_, strict, hplain, hstrict, hagree, rfl, rfl, ?_⟩
    rw [Bool.eq_false_iff, ne_eq, hagree.strictlyValid]
    simp
  · exact reports_agree_with_reading.2.1 _ _ (by decide +kernel)
  · let args := ["validate", "new/shop/orders.graphql", "--format=json", "new/notes.txt"]
    let files : List SourceFile :=
      [⟨"new/shop/orders.graphql", Sample.ascii "type Order \x7b id: ID \x7d"⟩,
       ⟨"new/notes.txt", []⟩]
    have hfront : readArguments (switchesOf none) false args = .ok ⟨[], args⟩ := by decide +kernel
    have hgiven : readArguments (switchesOf (some .validate)) true args.tail =
        .ok ⟨[(.format, some "json")], ["new/shop/orders.graphql", "new/notes.txt"]⟩ := by
      decide +kernel
    have hunderstood : Understood Sample.versions .validate args _ false
        (.validate files false .json) :=
      .intro hfront rfl rfl rfl rfl hgiven rfl rfl
    have hreports : List.Forall₂ (ReportedAs false) files
        [{ file := "new/shop/orders.graphql", format := .graphql
           warnings := ["API version not specified or using default", "No endpoints defined"] },
         .invalid "new/notes.txt" .unknown
           "Unsupported spec format for 'new/notes.txt': extension .txt"] := by
      refine .cons ⟨"type Order \x7b id: ID \x7d", by decide +kernel, ?_⟩ (.cons ⟨"", rfl, ?_⟩ .nil)
      · exact toOption_eq_some_iff.mp (by decide +kernel)
      · exact toOption_eq_some_iff.mp (by decide +kernel)
    exact (reports_agree_with_reading.2.2 _ _ _ _ _ _ _ _ hunderstood).1.mpr
      ⟨_, hreports, by decide +kernel⟩

end ApiDrift
