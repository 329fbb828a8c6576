import ApiDrift.Proofs.Acceptance
import ApiDrift.Proofs.Gate
import ApiDrift.Proofs.Scoring
import ApiDrift.Proofs.Unambiguous
import ApiDrift.Proofs.Written

/-!
# What a report tells

A comparison is reported as a data text, in one line or with an indent. In every layout the text is
read as one tree, and the tree is accepted as the comparison with the owners of its changes left
out. Only where a count has more digits than are read the text is refused; it is still the text of
no other comparison, so that what is printed for two files always tells how they compare.
-/
namespace ApiDrift
open Document Checking Exchange

/-! ### Comparisons that are checked -/

@[simp]
theorem ChangeType.accepted?_choice (t : ChangeType) :
    (choice name all (.text t.name)).accepted? = some t :=
  Checking.accepted?_choice (by cases t <;> rfl)

@[simp]
theorem Category.accepted?_choice (g : Category) :
    (choice name all (.text g.name)).accepted? = some g :=
  Checking.accepted?_choice (by cases g <;> rfl)

@[simp]
theorem Severity.accepted?_choice (s : Severity) :
    (choice name all (.text s.name)).accepted? = some s :=
  Checking.accepted?_choice (by cases s <;> rfl)

@[simp]
theorem RiskLevel.accepted?_choice (l : RiskLevel) :
    (choice name all (.text l.name)).accepted? = some l :=
  Checking.accepted?_choice (by cases l <;> rfl)

@[simp]
theorem Bump.accepted?_choice (b : Bump) :
    (choice name all (.text b.name)).accepted? = some b :=
  Checking.accepted?_choice (by cases b <;> rfl)

/-- A change that belongs to nothing. -/
def Change.withoutOwner (c : Change) : Change := { c with owner := none }

/-- A breaking change that belongs to nothing. -/
def BreakingChange.withoutOwner (b : BreakingChange) : BreakingChange :=
  { b with toChange := b.toChange.withoutOwner }

namespace Comparison

/-- A comparison whose changes belong to nothing. -/
def withoutOwners (c : Comparison) : Comparison :=
  { c with
    changes := c.changes.map Change.withoutOwner
    breaking := c.breaking.map BreakingChange.withoutOwner }

/-- Scores and impacts are out of a hundred, as the check of a comparison demands. -/
structure InRange (c : Comparison) : Prop where
  score : c.risk.score ≤ 100
  impact : ∀ b ∈ c.breaking, b.impact ≤ 100

end Comparison

theorem Checking.accepted?_percentage {n : Nat} (h : n ≤ 100) :
    (percentage (.int n)).accepted? = some n := by
  rw [percentage_int h]
  rfl

theorem Change.accepted?_check (n : Naming) (c : Change) :
    (check (c.toDocument n)).accepted? = some c.withoutOwner := by
  cases n <;> simp +decide [check, toDocument, toEntries, ofEntries, value?, withoutOwner]

theorem BreakingChange.accepted?_check (n : Naming) {b : BreakingChange} (h : b.impact ≤ 100) :
    (check (b.toDocument n)).accepted? = some b.withoutOwner := by
  have himpact := accepted?_percentage h
  cases n <;>
    simp +decide [check, toDocument, ofEntries, Change.toEntries, Change.ofEntries, value?, himpact,
      withoutOwner, Change.withoutOwner]

theorem Summary.accepted?_check (n : Naming) (s : Summary) :
    (check (s.toDocument n)).accepted? = some s := by
  cases n <;> simp +decide [check, toDocument, ofEntries, value?]

theorem Comparison.accepted?_check (n : Naming) {c : Comparison} (h : c.InRange) :
    (check (c.toDocument n)).accepted? = some c.withoutOwners := by
  have hchanges := accepted?_list_map fun x (_ : x ∈ c.changes) => Change.accepted?_check n x
  have hbreaking := accepted?_list_map fun b hb => BreakingChange.accepted?_check n (h.impact b hb)
  have hscore := accepted?_percentage h.score
  have hsummary := Summary.accepted?_check n c.summary
  cases n <;>
    simp +decide [check, toDocument, ofEntries, Risk.toEntries, Risk.ofEntriesOrNone, value?,
      hchanges, hbreaking, hscore, hsummary, withoutOwners]

/-! ### Comparisons that are written -/

namespace Document

@[simp]
theorem literal_map_nil : (Document.map []).Literal false :=
  .map (List.forall_mem_nil _) (List.forall_mem_nil _) List.nodup_nil (List.forall_mem_nil _)

@[simp]
theorem literal_map_cons (k : String) (v : Document) (es : Entries) :
    (Document.map ((.text k, v) :: es)).Literal false ↔
      k ∉ es.map entryKey ∧ v.Literal false ∧ (Document.map es).Literal false := by
  constructor
  · intro h
    cases h with
    | map hkeys hwhole hnodup hvalues =>
      obtain ⟨hkey, hnodup⟩ := List.nodup_cons.mp hnodup
      obtain ⟨hv, hvalues⟩ := List.forall_mem_cons.mp hvalues
      exact ⟨hkey, hv, .map (List.forall_mem_cons.mp hkeys).2 (List.forall_mem_cons.mp hwhole).2
        hnodup hvalues⟩
  · rintro ⟨hkey, hv, h⟩
    cases h with
    | map hkeys _ hnodup hvalues =>
      exact .map (List.forall_mem_cons.mpr ⟨rfl, hkeys⟩) (fun _ _ => Json.unbroken_false _)
        (List.nodup_cons.mpr ⟨hkey, hnodup⟩) (List.forall_mem_cons.mpr ⟨hv, hvalues⟩)

@[simp]
theorem literal_map_entry (n : Naming) (f : FieldName) (v : Document) (es : Entries) :
    (Document.map (n.entry f v :: es)).Literal false ↔
      n.pick f ∉ es.map entryKey ∧ v.Literal false ∧ (Document.map es).Literal false :=
  literal_map_cons _ _ _

@[simp]
theorem entryKey_text (k : String) (v : Document) : entryKey (.text k, v) = k := rfl

@[simp]
theorem entryKey_entry (n : Naming) (f : FieldName) (v : Document) :
    entryKey (n.entry f v) = n.pick f := rfl

theorem literal_text (s : String) : (Document.text s).Literal false :=
  .text (Json.unbroken_false _)

theorem literal_orNull (o : Option String) : (orNull o).Literal false := by
  cases o with
  | none => exact .null
  | some s => exact literal_text s

theorem literal_seq_map {α : Type} {write : α → Document} (h : ∀ a, (write a).Literal false)
    (as : List α) : (Document.seq (as.map write)).Literal false :=
  .seq (List.forall_mem_map.mpr fun a _ => h a)

end Document

section
variable (n : Naming)

theorem Change.literal_toDocument (c : Change) : (c.toDocument n).Literal false := by
  cases n <;>
    simp +decide [toDocument, toEntries, literal_orNull, literal_text]

theorem BreakingChange.literal_toDocument (b : BreakingChange) :
    (b.toDocument n).Literal false := by
  cases n <;>
    simp +decide [toDocument, Change.toEntries, literal_orNull, literal_text, Literal.int]

theorem Summary.literal_toDocument (s : Summary) : (s.toDocument n).Literal false := by
  cases n <;> simp +decide [toDocument, Literal.int]

theorem Comparison.literal_toDocument (c : Comparison) : (c.toDocument n).Literal false := by
  have hchanges := literal_seq_map (Change.literal_toDocument n) c.changes
  have hbreaking := literal_seq_map (BreakingChange.literal_toDocument n) c.breaking
  have hsummary := c.summary.literal_toDocument n
  cases n <;>
    simp +decide [toDocument, Risk.toEntries, literal_text, Literal.int, hchanges, hbreaking,
      hsummary]

end

/-! ### Counts that are read back -/

namespace Document

theorem lt_textLimit {n : Nat} (h : n ≤ 100) : n < textLimit :=
  Nat.lt_of_lt_of_le (Nat.lt_of_le_of_lt h (by decide : 100 < Number.powerOfTen 3))
    (Json.powerOfTen_le (by decide : 3 ≤ Number.digitLimit))

theorem excess?_orNull (o : Option String) : (orNull o).excess? = none := by
  cases o <;> rfl

theorem itemsExcess?_map_eq_none {α : Type} {write : α → Document} {as : List α}
    (h : ∀ a ∈ as, (write a).excess? = none) : itemsExcess? (as.map write) = none :=
  itemsExcess?_eq_none_iff.mpr (List.forall_mem_map.mpr h)

theorem excess?_int_eq_none_iff {n : Int} : (Document.int n).excess? = none ↔
    (Nat.toDigits 10 n.natAbs).length ≤ Number.digitLimit := by
  rw [← Nat.not_lt, Json.digitLimit_lt_iff, not_not]
  by_cases h : n.natAbs < textLimit
  · simp [excess?, h]
  · simp [excess?, h]

end Document

/-- The counts of a summary, in the order in which they are written. -/
def Summary.counts (s : Summary) : List Int :=
  [s.endpointsAdded, s.endpointsRemoved, s.endpointsModified, s.endpointsDeprecated, s.schemasAdded,
    s.schemasRemoved, s.schemasModified, s.parametersAdded, s.parametersRemoved,
    s.parametersModified, s.securityAdded, s.securityRemoved]

/-- The counts of a comparison, in the order in which they are written. -/
def Comparison.counts (c : Comparison) : List Int := c.totalChanges :: c.summary.counts

section
variable {n : Naming}

theorem Change.excess?_toDocument (c : Change) : (c.toDocument n).excess? = none := by
  simp [toDocument, toEntries, Naming.entry, excess?, entriesExcess?, excess?_orNull]

theorem BreakingChange.excess?_toDocument {b : BreakingChange} (h : b.impact ≤ 100) :
    (b.toDocument n).excess? = none := by
  simp [toDocument, Change.toEntries, Naming.entry, excess?, entriesExcess?, excess?_orNull,
    lt_textLimit h]

theorem Summary.excess?_toDocument (s : Summary) :
    (s.toDocument n).excess? = itemsExcess? (s.counts.map .int) := by
  simp [toDocument, counts, Naming.entry, excess?, entriesExcess?, itemsExcess?]

/-- A comparison is read back where its counts are. -/
theorem Comparison.excess?_toDocument {c : Comparison} (h : c.InRange) :
    (c.toDocument n).excess? = itemsExcess? (c.counts.map .int) := by
  have hchanges := itemsExcess?_map_eq_none fun x (_ : x ∈ c.changes) =>
    x.excess?_toDocument (n := n)
  have hbreaking := itemsExcess?_map_eq_none fun b hb =>
    BreakingChange.excess?_toDocument (n := n) (h.impact b hb)
  have hsummary := c.summary.excess?_toDocument (n := n)
  simp [toDocument, Risk.toEntries, Naming.entry, counts, excess?, entriesExcess?, itemsExcess?,
    hchanges, hbreaking, hsummary, lt_textLimit h.score]

end

/-! ### Comparisons that are reported -/

namespace Comparison

/-- Scores and impacts of what is worked out are out of a hundred. -/
theorem Reachable.inRange {c : Comparison} (h : c.Reachable) : c.InRange := by
  refine h.invariant (fun old new c hc => ?_) (fun _ _ hc => ⟨hc.score, hc.impact⟩)
    (fun _ hc => ⟨hc.score, hc.impact⟩) fun cs hcs => ⟨?_, ?_⟩
  · obtain ⟨changes, -, rfl⟩ := ofSpecs_eq_ok.mp hc
    refine ⟨Risk.scoreOf_le_hundred _ _, fun b hb => ?_⟩
    obtain ⟨x, -, rfl⟩ := List.mem_map.mp hb
    exact Nat.min_le_left 100 _
  · exact highestScore_le_iff.mpr fun c hc => (hcs c hc).score
  · intro b hb
    obtain ⟨c, hc, hb⟩ := List.mem_flatMap.mp hb
    exact (hcs c hc).impact b hb

/-- The data text of a comparison, in one line or with an indent. -/
def report (indent : Option Nat) (c : Comparison) : String :=
  Json.render (.ofIndent indent) (c.toDocument .camel)

/-- The counts of a comparison have no more digits than are read. -/
def Legible (c : Comparison) : Prop :=
  ∀ n ∈ c.counts, (Nat.toDigits 10 n.natAbs).length ≤ Number.digitLimit

theorem excess?_eq_none_iff {c : Comparison} (h : c.InRange) {n : Naming} :
    (c.toDocument n).excess? = none ↔ c.Legible := by
  rw [excess?_toDocument h, itemsExcess?_eq_none_iff, List.forall_mem_map]
  exact forall₂_congr fun _ _ => excess?_int_eq_none_iff

theorem literal_report (c : Comparison) (indent : Option Nat) :
    (c.toDocument .camel).Literal (Json.Layout.ofIndent indent).ascii := by
  rw [Json.ascii_ofIndent]
  exact c.literal_toDocument .camel

theorem read_report (c : Comparison) (indent : Option Nat) :
    Json.read (c.report indent) =
      match (c.toDocument .camel).excess? with
      | none => .ok (c.toDocument .camel)
      | some digits => .error (.integerTooLong digits) :=
  Json.read_render_literal (Json.readable_ofIndent indent) (c.literal_report indent)

theorem report_inj {c d : Comparison} (hc : c.InRange) (hd : d.InRange) {indent : Option Nat}
    (h : c.report indent = d.report indent) : c.withoutOwners = d.withoutOwners := by
  have htree := Json.render_inj (Json.readable_ofIndent indent) (c.literal_report indent)
    (d.literal_report indent) h
  have hcheck := accepted?_check .camel hc
  rw [htree, accepted?_check .camel hd] at hcheck
  exact (Option.some.inj hcheck).symm

end Comparison

namespace CommandLine

/-- The comparison of two files that is shown, with the changes that are asked for; none where the
files are refused. -/
def shown? (n : Narrowing) (old new : SourceFile) : Option Comparison :=
  (compareFiles old new).toOption.map (Comparison.narrow n)

theorem inRange_of_shown? {n : Narrowing} {old new : SourceFile} {c : Comparison}
    (h : shown? n old new = some c) : c.InRange := by
  obtain ⟨b, hb, rfl⟩ := Option.map_eq_some_iff.mp h
  cases compareFiles_eq_ok_iff.mp (toOption_eq_some_iff.mp hb) with
  | @intro o m _ _ _ hc =>
    have hcompare : o.compare n m = .ok (b.narrow n) := Spec.compare_eq_ok.mpr ⟨b, hc, rfl⟩
    exact (Comparison.Reachable.detected hcompare).inRange

theorem output_eq {w : Surroundings} {args : List String} {g : Given} {verbose : Bool}
    {old new : SourceFile} {s : CompareSettings}
    (h : Understood w .compare args g verbose (.compare old new s))
    (hjson : g.value? .format = some "json") :
    (run w args).output =
      ((shown? s.narrowing old new).map (Comparison.report (some 2))).toList := by
  have hstyle : s.style = .json := by
    rw [style_of_compareTask h.task_eq, styleOf, if_pos hjson]
  rw [h.run_eq, runTask, shown?]
  cases hfiles : compareFiles old new with
  | error fault =>
    obtain ⟨log, hrun⟩ := runCompare_of_error hfiles s verbose
    rw [hrun, failed_output]
    rfl
  | ok c =>
    rw [(runCompare_of_compared (compareFiles_eq_ok_iff.mp hfiles) s verbose).1, hstyle]
    rfl

theorem joinLines_toList_inj {o o' : Option String}
    (h : joinLines o.toList = joinLines o'.toList) : o = o' := by
  have hline (s : String) : (joinLines [s]).toList = s.toList ++ ['\n'] := by
    simp [joinLines, String.join]
  have htext := congrArg String.toList h
  match o, o' with
  | none, none => rfl
  | none, some s => simp [joinLines] at htext
  | some s, none => simp [joinLines] at htext
  | some s, some s' =>
    rw [Option.toList_some, Option.toList_some, hline, hline] at htext
    rw [String.toList_inj.mp (List.append_cancel_right htext)]

/-- What is printed as data for two files tells the comparison. -/
theorem shown?_eq_of_output {w w' : Surroundings} {args args' : List String} {g g' : Given}
    {verbose verbose' : Bool} {old old' new new' : SourceFile} {s s' : CompareSettings}
    (h : Understood w .compare args g verbose (.compare old new s))
    (h' : Understood w' .compare args' g' verbose' (.compare old' new' s'))
    (hjson : g.value? .format = some "json") (hjson' : g'.value? .format = some "json")
    (houtput : joinLines (run w args).output = joinLines (run w' args').output) :
    (shown? s.narrowing old new).map Comparison.withoutOwners =
      (shown? s'.narrowing old' new').map Comparison.withoutOwners := by
  rw [output_eq h hjson, output_eq h' hjson'] at houtput
  have htexts := joinLines_toList_inj houtput
  cases hc : shown? s.narrowing old new with
  | none =>
    rw [hc, Option.map_none, eq_comm, Option.map_eq_none_iff] at htexts
    rw [htexts]
  | some c =>
    rw [hc, Option.map_some, eq_comm, Option.map_eq_some_iff] at htexts
    obtain ⟨c', hc', htext⟩ := htexts
    have hsame := Comparison.report_inj (inRange_of_shown? hc') (inRange_of_shown? hc) htext
    rw [hc', Option.map_some, Option.map_some, hsame]

/-- A report tells all of a comparison but the owners. In every layout its text is read as one tree,
and the tree is accepted as the comparison without owners; the text is refused exactly where a count
has more digits than are read. What comes of two files as data always tells the comparison that is
shown, and so does what is printed, where it can be. -/
theorem report_tells_all_but_owners :
    (∀ c : Comparison, c.InRange →
      ∃ tree, Comparison.check tree = .ok c.withoutOwners ∧
        (c.Legible → ∀ indent, Json.read (c.report indent) = .ok tree) ∧
        (¬ c.Legible →
          ∃ digits, ∀ indent, Json.read (c.report indent) = .error (.integerTooLong digits))) ∧
    ∀ w w' args args' g g' verbose verbose' old old' new new' s s',
      Understood w .compare args g verbose (.compare old new s) →
      Understood w' .compare args' g' verbose' (.compare old' new' s') →
      g.value? .format = some "json" → g'.value? .format = some "json" →
      (joinLines (run w args).output = joinLines (run w' args').output →
        (shown? s.narrowing old new).map Comparison.withoutOwners =
          (shown? s'.narrowing old' new').map Comparison.withoutOwners) ∧
      (Writes w args → Writes w' args' →
        joinLines (execute w args).output = joinLines (execute w' args').output →
        (shown? s.narrowing old new).map Comparison.withoutOwners =
          (shown? s'.narrowing old' new').map Comparison.withoutOwners) := by
  constructor
  · intro c hc
    refine ⟨_, Checked.accepted?_eq_some_iff.mp (Comparison.accepted?_check .camel hc), ?_, ?_⟩
    · intro hcount indent
      rw [c.read_report, (Comparison.excess?_eq_none_iff hc).mpr hcount]
    · intro hcount
      obtain ⟨digits, hdigits⟩ :=
        Option.ne_none_iff_exists'.mp (mt (Comparison.excess?_eq_none_iff hc).mp hcount)
      refine ⟨digits, fun indent => ?_⟩
      rw [c.read_report, hdigits]
  · intro w w' args args' g g' verbose verbose' old old' new new' s s' h h' hjson hjson'
    refine ⟨shown?_eq_of_output h h' hjson hjson', fun hwrites hwrites' houtput => ?_⟩
    rw [hwrites.output_eq, hwrites'.output_eq] at houtput
    exact shown?_eq_of_output h h' hjson hjson' houtput

/-- A property of a schema was retyped; its name has marks, a control character and an accent. -/
def Sample.retyped : Comparison :=
  { apiName := "caf\u00e9", fromVersion := "1", toVersion := "2"
    changes :=
      [{ type := .modified, category := .schemaProperty, severity := .breaking
         path := "Order/\"prix\"", description := "prix\\\t\x01", newValue := some ""
         owner := some "Order" }]
    totalChanges := 1, risk := ⟨50, .high, .major⟩ }

/-- A comparison that claims the least number of changes with too many digits. -/
def Sample.crowded : Comparison :=
  { apiName := "shop", fromVersion := "1", toVersion := "2", totalChanges := Document.textLimit }

theorem Sample.crowded_inRange : Sample.crowded.InRange :=
  ⟨Nat.zero_le _, List.forall_mem_nil _⟩

theorem Sample.excess?_crowded : (Sample.crowded.toDocument .camel).excess? = some 4301 := by
  have hlength : (Nat.toDigits 10 textLimit).length = 4301 := by
    have hlong := Json.digitLimit_lt_iff.mpr (Nat.lt_irrefl textLimit)
    have hshort : (Nat.toDigits 10 textLimit).length ≤ Number.digitLimit + 1 :=
      (Json.length_toDigits_le_iff (Nat.succ_pos _)).mpr (Json.powerOfTen_lt (Nat.lt_succ_self _))
    exact Nat.le_antisymm hshort hlong
  have htotal : (Document.int Sample.crowded.totalChanges).excess? = some 4301 := by
    rw [excess?, Sample.crowded, Int.natAbs_natCast, if_neg (Nat.lt_irrefl textLimit), hlength]
  rw [Comparison.excess?_toDocument Sample.crowded_inRange, Comparison.counts, List.map_cons,
    itemsExcess?, htotal, Option.some_or]

theorem crowded_report_is_refused :
    Sample.crowded.InRange ∧
      Json.read (Sample.crowded.report none) = .error (.integerTooLong 4301) := by
  refine ⟨Sample.crowded_inRange, ?_⟩
  rw [Comparison.read_report, Sample.excess?_crowded]

theorem retyped_property_is_reported :
    (Sample.retyped.InRange ∧ Sample.retyped.Legible ∧
      Sample.retyped.withoutOwners ≠ Sample.retyped ∧
      ∃ tree, Comparison.check tree = .ok Sample.retyped.withoutOwners ∧
        Json.read (Sample.retyped.report none) = .ok tree ∧
        Json.read (Sample.retyped.report (some 2)) = .ok tree) ∧
    (Sample.crowded.InRange ∧ ¬ Sample.crowded.Legible ∧
      ∃ digits, Json.read (Sample.crowded.report (some 0)) = .error (.integerTooLong digits)) ∧
    let all := run Sample.versions
      ["compare", "old/shop/orders.graphql", "new/shop/orders.graphql", "--format=json"]
    let mild := run Sample.versions
      ["compare", "--severity", "INFO", "--format", "json", "old/shop/orders.graphql",
        "new/shop/orders.graphql"]
    let shown := shown? {} Sample.orders.1 Sample.orders.2
    joinLines all.output = joinLines mild.output ∧ shown.isSome ∧
      shown.map Comparison.withoutOwners =
        (shown? ⟨some .info, true⟩ Sample.orders.1 Sample.orders.2).map
          Comparison.withoutOwners := by
  refine ⟨?_, ?_, ?_⟩
  · have hrange : Sample.retyped.InRange := ⟨by decide, List.forall_mem_nil _⟩
    have hlegible : Sample.retyped.Legible := by
      unfold Comparison.Legible
      decide
    obtain ⟨tree, hcheck, hread, -⟩ := report_tells_all_but_owners.1 _ hrange
    exact ⟨hrange, hlegible, by decide, tree, hcheck, hread hlegible none, hread hlegible (some 2)⟩
  · have hlegible : ¬ Sample.crowded.Legible := by
      rw [← Comparison.excess?_eq_none_iff Sample.crowded_inRange (n := .camel),
        Sample.excess?_crowded]
      nofun
    obtain ⟨-, -, -, hrefused⟩ := report_tells_all_but_owners.1 _ Sample.crowded_inRange
    obtain ⟨digits, hdigits⟩ := hrefused hlegible
    exact ⟨Sample.crowded_inRange, hlegible, digits, hdigits (some 0)⟩
  · have hfront : ∀ args ∈ [
        ["compare", "old/shop/orders.graphql", "new/shop/orders.graphql", "--format=json"],
        ["compare", "--severity", "INFO", "--format", "json", "old/shop/orders.graphql",
          "new/shop/orders.graphql"]],
        readArguments (switchesOf none) false args = .ok ⟨[], args⟩ := by decide +kernel
    simp only [List.forall_mem_cons] at hfront
    obtain ⟨hall, hmild, -⟩ := hfront
    have hgiven : readArguments (switchesOf (some .compare)) true
        ["old/shop/orders.graphql", "new/shop/orders.graphql", "--format=json"] =
        .ok ⟨[(.format, some "json")],
          ["old/shop/orders.graphql", "new/shop/orders.graphql"]⟩ := by decide +kernel
    have hgiven' : readArguments (switchesOf (some .compare)) true
        ["--severity", "INFO", "--format", "json", "old/shop/orders.graphql",
          "new/shop/orders.graphql"] =
        .ok ⟨[(.severity, some "INFO"), (.format, some "json")],
          ["old/shop/orders.graphql", "new/shop/orders.graphql"]⟩ := by decide +kernel
    have h : Understood Sample.versions .compare _ _ false
        (.compare Sample.orders.1 Sample.orders.2 ⟨.json, {}, false⟩) :=
      .intro hall rfl rfl rfl rfl hgiven rfl rfl
    have h' : Understood Sample.versions .compare _ _ false
        (.compare Sample.orders.1 Sample.orders.2 ⟨.json, ⟨some .info, true⟩, false⟩) :=
      .intro hmild rfl rfl rfl rfl hgiven' rfl rfl
    have hshown : shown? {} Sample.orders.1 Sample.orders.2 =
        shown? ⟨some .info, true⟩ Sample.orders.1 Sample.orders.2 := by decide +kernel
    have houtput := output_eq h (by decide)
    rw [hshown, ← output_eq h' (by decide)] at houtput
    have hlines := congrArg joinLines houtput
    refine ⟨hlines, ?_, ?_⟩
    · rw [shown?, compareFiles_eq_ok_iff.mpr orders_compared]
      rfl
    · exact (report_tells_all_but_owners.2 _ _ _ _ _ _ _ _ _ _ _ _ _ _ h h' (by decide)
        (by decide)).1 hlines

end CommandLine
end ApiDrift
