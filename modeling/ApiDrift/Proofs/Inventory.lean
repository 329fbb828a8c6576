import ApiDrift.Proofs.Printing

/-!
# What a batch accounts for

A batch of two directories goes through the files that are in both, in the order of their paths.
Each of them has two texts or is no text, and two texts give a comparison or a refusal; a failure of
any other kind ends the batch. Each of the three outcomes has a list of its own, which keeps the
order, so that each file is on one of the lists, and there once.
-/
namespace ApiDrift

/-- A list that has one entry for each path with something to tell, in the order of the paths. -/
def ListedInOrder {α : Type} (tells : Path → α → Prop) (listed : List α) : Prop :=
  ∃ ps : List Path, ps.Pairwise (· < ·) ∧ (∀ p, p ∈ ps ↔ ∃ x, tells p x) ∧
    List.Forall₂ tells ps listed

section
variable {α β : Type}

theorem forall₂_filterMap (f : α → Option β) (xs : List α) :
    List.Forall₂ (fun x y => f x = some y) (xs.filter fun x => (f x).isSome) (xs.filterMap f) := by
  induction xs with
  | nil => exact .nil
  | cons x xs ih =>
    cases hx : f x with
    | none => simpa [hx] using ih
    | some y => simpa [hx] using ih

/-- Going through paths in order lists what is found in order. -/
theorem listedInOrder_filterMap {ps : List Path} (hps : ps.Pairwise (· < ·)) {f : Path → Option α}
    {tells : Path → α → Prop} (h : ∀ p x, tells p x ↔ p ∈ ps ∧ f p = some x) :
    ListedInOrder tells (ps.filterMap f) := by
  refine ⟨ps.filter fun p => (f p).isSome, hps.filter _, fun p => ?_, ?_⟩
  · simp only [List.mem_filter, Option.isSome_iff_exists, h, exists_and_left]
  · have hlisted := (List.forall₂_and_left _ _).mpr
      ⟨fun p hp => List.mem_of_mem_filter hp, forall₂_filterMap f ps⟩
    exact hlisted.imp fun p x hx => (h p x).mpr hx

/-- Names that tell the path of their entry are those of the paths, each path once. -/
theorem ListedInOrder.names {tells : Path → α → Prop} {listed : List α}
    (h : ListedInOrder tells listed) {label : Path → String} (name : α → String)
    (hname : ∀ p x, tells p x → name x = label p) :
    ∃ ps : List Path, ps.Nodup ∧ (∀ p, p ∈ ps ↔ ∃ x, tells p x) ∧
      listed.map name = ps.map label := by
  obtain ⟨ps, hsorted, hmem, hlisted⟩ := h
  refine ⟨ps, hsorted.imp ne_of_lt, hmem, ?_⟩
  clear hsorted hmem
  induction hlisted with
  | nil => rfl
  | cons hx _ ih => rw [List.map_cons, List.map_cons, ih, hname _ _ hx]

theorem ListedInOrder.exists_of_mem {tells : Path → α → Prop} {listed : List α}
    (h : ListedInOrder tells listed) {x : α} (hx : x ∈ listed) : ∃ p, tells p x := by
  obtain ⟨ps, -, -, hlisted⟩ := h
  induction hlisted with
  | nil => cases hx
  | cons hy _ ih =>
    rcases List.mem_cons.mp hx with rfl | hx
    · exact ⟨_, hy⟩
    · exact ih hx

end

namespace CommandLine

section
variable {old new : Directory} {n : Narrowing} {p : Path} {r r' : Revision}
variable {fault : Text.Utf8Fault} {b : Batch}

theorem TextsAt.unique (h : TextsAt old new p r) (h' : TextsAt old new p r') : r = r' := by
  have hr := (revisionAt_eq_ok_iff h.shares).mpr h
  rw [(revisionAt_eq_ok_iff h.shares).mpr h'] at hr
  exact (Except.ok.inj hr).symm

theorem NoTextAt.not_textsAt (h : NoTextAt old new p fault) : ¬ TextsAt old new p r := by
  intro hr
  have hfault := (revisionAt_eq_error_iff h.shares).mpr h
  rw [(revisionAt_eq_ok_iff h.shares).mpr hr] at hfault
  cases hfault

theorem TextsAt.filename (h : TextsAt old new p r) : r.filename = shownPath p := by
  cases h
  rfl

theorem textsAt_or_noTextAt (h : old.Shares new p) :
    (∃ r, TextsAt old new p r) ∨ ∃ fault, NoTextAt old new p fault := by
  cases hr : revisionAt old new p with
  | ok r => exact .inl ⟨r, (revisionAt_eq_ok_iff h).mp hr⟩
  | error fault => exact .inr ⟨fault, (revisionAt_eq_error_iff h).mp hr⟩

/-- What a file with two texts gives for a comparison. -/
inductive ResultAt (n : Narrowing) (old new : Directory) (p : Path) : FileVerdict → Prop
  | intro {r : Revision} {c : Comparison} : TextsAt old new p r → r.compare n = .ok c →
      ResultAt n old new p ⟨shownPath p, c⟩

/-- Why a file that is no text is not compared. -/
inductive UnreadAt (old new : Directory) (p : Path) : FileRefusal → Prop
  | intro {fault : Text.Utf8Fault} : NoTextAt old new p fault →
      UnreadAt old new p ⟨shownPath p, "Failed to read file: " ++ fault.message⟩

/-- Why a file with two texts has no comparison. -/
inductive RefusedAt (n : Narrowing) (old new : Directory) (p : Path) : FileRefusal → Prop
  | intro {r : Revision} {f : SpecFault} : TextsAt old new p r → r.compare n = .error (.spec f) →
      RefusedAt n old new p ⟨shownPath p, f.message⟩

theorem ResultAt.filename (p : Path) (v : FileVerdict) (h : ResultAt n old new p v) :
    v.filename = shownPath p := by
  cases h
  rfl

theorem UnreadAt.filename (p : Path) (u : FileRefusal) (h : UnreadAt old new p u) :
    u.filename = shownPath p := by
  cases h
  rfl

theorem RefusedAt.filename (p : Path) (u : FileRefusal) (h : RefusedAt n old new p u) :
    u.filename = shownPath p := by
  cases h
  rfl

/-- A batch accounts for the files of two directories. -/
structure Accounts (n : Narrowing) (old new : Directory) (b : Batch) : Prop where
  results : ListedInOrder (ResultAt n old new) b.results
  failures : ∃ unread refused, b.failures = unread ++ refused ∧
    ListedInOrder (UnreadAt old new) unread ∧ ListedInOrder (RefusedAt n old new) refused
  names : ∃ ps : List Path, ps.Nodup ∧ (∀ p, p ∈ ps ↔ old.Shares new p) ∧
    b.results.map (·.filename) ++ b.failures.map (·.filename) = ps.map shownPath

theorem revisions_filterMap {α : Type} (f : Revision → Option α) :
    (revisions old new).filterMap f =
      (new.sharedPaths old).filterMap fun p => (revisionAt old new p).toOption.bind f := by
  rw [revisions, List.filterMap_filterMap]
  congr 1
  funext p
  cases revisionAt old new p <;> rfl

theorem textsAt_iff : TextsAt old new p r ↔
    p ∈ new.sharedPaths old ∧ (revisionAt old new p).toOption = some r := by
  rw [toOption_eq_some_iff, Directory.mem_sharedPaths]
  constructor
  · intro h
    exact ⟨h.shares, (revisionAt_eq_ok_iff h.shares).mpr h⟩
  · intro h
    exact (revisionAt_eq_ok_iff h.1).mp h.2

/-- What texts give is listed in order. -/
theorem listed_texts {α : Type} {f : Revision → Option α} {tells : Path → α → Prop}
    (h : ∀ p x, tells p x ↔ ∃ r, TextsAt old new p r ∧ f r = some x) :
    ListedInOrder tells ((revisions old new).filterMap f) := by
  rw [revisions_filterMap]
  refine listedInOrder_filterMap (Directory.sharedPaths_sorted old new) fun p x => ?_
  simp only [h, Option.bind_eq_some_iff, textsAt_iff, and_assoc, exists_and_left]

theorem resultAt_iff {v : FileVerdict} : ResultAt n old new p v ↔
    ∃ r, TextsAt old new p r ∧ Batch.result? n r = some v := by
  simp only [Batch.result?_eq_some_iff]
  constructor
  · intro h
    cases h with
    | intro hr hc => exact ⟨_, hr, _, hc, by rw [hr.filename]⟩
  · intro h
    obtain ⟨r, hr, c, hc, rfl⟩ := h
    rw [hr.filename]
    exact .intro hr hc

theorem refusedAt_iff {u : FileRefusal} : RefusedAt n old new p u ↔
    ∃ r, TextsAt old new p r ∧ Batch.refusal? n r = some u := by
  simp only [Batch.refusal?_eq_some_iff]
  constructor
  · intro h
    cases h with
    | intro hr hf => exact ⟨_, hr, _, hf, by rw [hr.filename]⟩
  · intro h
    obtain ⟨r, hr, f, hf, rfl⟩ := h
    rw [hr.filename]
    exact .intro hr hf

theorem listed_unread (old new : Directory) :
    ListedInOrder (UnreadAt old new) (unreadRefusals old new) := by
  rw [unreadRefusals, unreadable, List.map_filterMap]
  refine listedInOrder_filterMap (Directory.sharedPaths_sorted old new) fun p u => ?_
  rw [Directory.mem_sharedPaths]
  constructor
  · intro h
    cases h with
    | intro hfault =>
      rw [(revisionAt_eq_error_iff hfault.shares).mpr hfault]
      exact ⟨hfault.shares, rfl⟩
  · intro h
    obtain ⟨hp, hu⟩ := h
    cases hrevision : revisionAt old new p with
    | ok r =>
      rw [hrevision] at hu
      cases hu
    | error fault =>
      rw [hrevision] at hu
      cases hu
      exact .intro ((revisionAt_eq_error_iff hp).mp hrevision)

theorem ResultAt.not_refusedAt {v : FileVerdict} {u : FileRefusal} (h : ResultAt n old new p v) :
    ¬ RefusedAt n old new p u := by
  intro hrefused
  cases h with
  | intro hr hc =>
    cases hrefused with
    | intro hr' hf =>
      cases hr.unique hr'
      cases hc.symm.trans hf

theorem UnreadAt.not_resultAt {u : FileRefusal} {v : FileVerdict} (h : UnreadAt old new p u) :
    ¬ ResultAt n old new p v := by
  rintro ⟨hr, -⟩
  obtain ⟨hfault⟩ := h
  exact hfault.not_textsAt hr

theorem UnreadAt.not_refusedAt {u u' : FileRefusal} (h : UnreadAt old new p u) :
    ¬ RefusedAt n old new p u' := by
  rintro ⟨hr, -⟩
  obtain ⟨hfault⟩ := h
  exact hfault.not_textsAt hr

/-- A file of both directories that ends no batch is on one of the lists. -/
theorem shares_iff_listed (h : ∀ p r, TextsAt old new p r → r.Settled n) :
    old.Shares new p ↔ (∃ v, ResultAt n old new p v) ∨ (∃ u, UnreadAt old new p u) ∨
      ∃ u, RefusedAt n old new p u := by
  constructor
  · intro hp
    rcases textsAt_or_noTextAt hp with ⟨r, hr⟩ | ⟨fault, hfault⟩
    · rcases h p r hr with ⟨c, hc⟩ | ⟨f, hf⟩
      · exact .inl ⟨_, .intro hr hc⟩
      · exact .inr (.inr ⟨_, .intro hr hf⟩)
    · exact .inr (.inl ⟨_, .intro hfault⟩)
  · intro hp
    rcases hp with ⟨_, ⟨hr, -⟩⟩ | ⟨_, ⟨hfault⟩⟩ | ⟨_, ⟨hr, -⟩⟩
    · exact hr.shares
    · exact hfault.shares
    · exact hr.shares

theorem accounts_of_batchOf (h : batchOf old new n = .ok b) : Accounts n old new b := by
  obtain ⟨own, hrecords, rfl⟩ := batchOf_eq_ok_iff.mp h
  have hresults : ListedInOrder (ResultAt n old new) own.results := by
    rw [hrecords.results_eq]
    exact listed_texts fun p v => resultAt_iff
  have hrefused : ListedInOrder (RefusedAt n old new) own.failures := by
    rw [hrecords.failures_eq]
    exact listed_texts fun p u => refusedAt_iff
  refine ⟨hresults, ⟨_, _, rfl, listed_unread old new, hrefused⟩, ?_⟩
  obtain ⟨ps, hps, hmem, hnames⟩ := hresults.names FileVerdict.filename ResultAt.filename
  obtain ⟨qs, hqs, hmem', hnames'⟩ :=
    (listed_unread old new).names FileRefusal.filename UnreadAt.filename
  obtain ⟨us, hus, hmem'', hnames''⟩ := hrefused.names FileRefusal.filename RefusedAt.filename
  refine ⟨ps ++ (qs ++ us), ?_, fun p => ?_, ?_⟩
  -- No file is on two of the lists.
  · refine List.nodup_append'.mpr ⟨hps, List.nodup_append'.mpr ⟨hqs, hus, ?_⟩, ?_⟩
    · intro p hq hu
      obtain ⟨_, hunread⟩ := (hmem' p).mp hq
      obtain ⟨_, hrefusal⟩ := (hmem'' p).mp hu
      exact hunread.not_refusedAt hrefusal
    · intro p hp hqu
      obtain ⟨_, hresult⟩ := (hmem p).mp hp
      rcases List.mem_append.mp hqu with hq | hu
      · obtain ⟨_, hunread⟩ := (hmem' p).mp hq
        exact hunread.not_resultAt hresult
      · obtain ⟨_, hrefusal⟩ := (hmem'' p).mp hu
        exact hresult.not_refusedAt hrefusal
  · simp only [List.mem_append, hmem, hmem', hmem'']
    exact (shares_iff_listed (settled_revisions_iff.mp hrecords.settled)).symm
  · simp only [List.map_append, hnames, hnames', hnames'']

/-- The comparisons that are listed, and their union, are worked out from specifications. -/
theorem Accounts.reachable (h : Accounts n old new b) :
    ∀ c ∈ Comparison.aggregate (b.results.map (·.comparison)) :: b.results.map (·.comparison),
      c.Reachable := by
  have hresults : ∀ c ∈ b.results.map (·.comparison), c.Reachable := by
    intro c hc
    obtain ⟨v, hv, rfl⟩ := List.mem_map.mp hc
    obtain ⟨p, ⟨-, hcompare⟩⟩ := h.results.exists_of_mem hv
    obtain ⟨o, -, hcompare⟩ := bind_eq_ok.mp hcompare
    obtain ⟨w, -, hcompare⟩ := bind_eq_ok.mp hcompare
    exact .detected hcompare
  exact List.forall_mem_cons.mpr ⟨.aggregate hresults, hresults⟩

theorem Accounts.nodup (h : Accounts n old new b)
    (hplain : ∀ p, old.Shares new p → p ≠ [] ∧ ∀ c ∈ p, '/' ∉ c.toList) :
    (b.results.map (·.filename) ++ b.failures.map (·.filename)).Nodup := by
  obtain ⟨ps, hps, hmem, hnames⟩ := h.names
  rw [hnames]
  refine hps.map_on fun p hp q hq heq => ?_
  obtain ⟨hne, hp⟩ := hplain p ((hmem p).mp hp)
  obtain ⟨hne', hq⟩ := hplain q ((hmem q).mp hq)
  exact shownPath_inj hne hp hne' hq heq

end

section
variable {w : Surroundings} {args : List String} {g : Given} {verbose : Bool}
variable {old new : Directory} {s : BatchSettings} {code : Nat}

theorem directoryAt_eq_ok_iff {operand path : String} {d : Directory} :
    directoryAt w operand path = .ok d ↔ w.tree.find? path = some (.directory d) := by
  unfold directoryAt
  split <;> simp_all

/-- The two directories of a batch are those that its operands lead to. -/
theorem holds_of_batchTask (h : batchTask w g = .ok (.batch old new s)) :
    ∃ oldText newText, g.operands = [oldText, newText] ∧ w.tree.Holds oldText old ∧
      w.tree.Holds newText new := by
  obtain ⟨-, _, _, _, _, hold, hnew, -, -, hextra, htask⟩ := batchTask_eq_ok_iff.mp h
  cases htask
  unfold operandAt at hold hnew
  unfold noMoreThan at hextra
  rcases hoperands : g.operands with _ | ⟨oldText, _ | ⟨newText, extra⟩⟩
  · simp [hoperands] at hold
  · simp [hoperands] at hnew
  · simp only [hoperands, List.getElem?_cons_zero, List.getElem?_cons_succ, List.drop_succ_cons,
      List.drop_zero] at hold hnew hextra
    cases extra with
    | cons => cases hextra
    | nil =>
      exact ⟨oldText, newText, rfl, Tree.holds_of_find? (directoryAt_eq_ok_iff.mp hold),
        Tree.holds_of_find? (directoryAt_eq_ok_iff.mp hnew)⟩

theorem runBatch_json (hstyle : s.style = .json)
    (h : (runBatch s verbose old new).ending = .status code) :
    ∃ b, batchOf old new { threshold := s.threshold } = .ok b ∧
      (runBatch s verbose old new).output = jsonLines .pagedAscii b.toDocument := by
  simp only [runBatch] at h ⊢
  cases hbatch : batchOf old new { threshold := s.threshold } with
  | error f =>
    rw [hbatch] at h
    cases h
  | ok b =>
    simp only [hstyle]
    exact ⟨b, rfl, rfl⟩

end

end CommandLine

theorem Tree.Holds.plain {t : Tree} {text : String} {d : Directory} (h : t.Holds text d)
    (hplain : ∀ f ∈ t.files, ∀ c ∈ f.1, '/' ∉ c.toList) {p : Path}
    (hp : (d.bytes? p).isSome = true) : p ≠ [] ∧ ∀ c ∈ p, '/' ∉ c.toList := by
  obtain ⟨place, -, hbytes⟩ := h
  rw [hbytes] at hp
  split_ifs at hp with hnil
  · cases hp
  · obtain ⟨f, hf, hpath⟩ := List.mem_map.mp (Directory.isSome_bytes?.mp hp)
    refine ⟨hnil, fun c hc => hplain f hf c ?_⟩
    rw [hpath]
    exact List.mem_append_right place hc

open CommandLine in
/-- A batch of two directories accounts for every file of both, where it ends with a status and is
printed as data. What is printed lists the comparisons and the failures, each with the name of its
file, and the union of the comparisons that are listed. The comparisons are in the order of the
paths; the failures are the files that are no texts and then the refusals, both in that order as
well; and the names are those of the files of both directories, each once. -/
theorem batch_accounts_for_every_file {w : Surroundings} {args : List String} {g : Given}
    {verbose : Bool} {old new : Directory} {s : BatchSettings} {code : Nat}
    (h : Understood w .batch args g verbose (.batch old new s))
    (hjson : g.value? .format = some "json") (hcode : (execute w args).ending = .status code) :
    (∃ oldText newText, g.operands = [oldText, newText] ∧ w.tree.Holds oldText old ∧
        w.tree.Holds newText new) ∧
      ∃ b : Batch,
        (execute w args).output = [Json.render .pagedAscii (.map
          [(.text "results", .seq (b.results.map fun v => .map
              [(.text "filename", .text v.filename),
               (.text "result", v.comparison.toDocument .camel)])),
           (.text "failures", .seq (b.failures.map fun u => .map
              [(.text "filename", .text u.filename), (.text "error", .text u.reason)])),
           (.text "aggregate",
            (Comparison.aggregate (b.results.map (·.comparison))).toDocument .camel)])] ∧
        (∀ c ∈ Comparison.aggregate (b.results.map (·.comparison)) ::
            b.results.map (·.comparison),
          Comparison.check (c.toDocument .camel) = .ok c.withoutOwners) ∧
        Accounts { threshold := s.threshold } old new b ∧
        ((∀ f ∈ w.tree.files, ∀ c ∈ f.1, '/' ∉ c.toList) →
          (b.results.map (·.filename) ++ b.failures.map (·.filename)).Nodup) := by
  obtain ⟨oldText, newText, hoperands, hold, hnew⟩ := holds_of_batchTask h.task_eq
  refine ⟨⟨oldText, newText, hoperands, hold, hnew⟩, ?_⟩
  obtain ⟨hrun, hwrites⟩ := execute_status_iff.mp hcode
  have hstyle : s.style = .json := by rw [style_of_batchTask h.task_eq, styleOf, if_pos hjson]
  rw [h.run_eq] at hrun
  obtain ⟨b, hb, houtput⟩ := runBatch_json hstyle hrun
  have haccounts := accounts_of_batchOf hb
  refine ⟨b, ?_, ?_, haccounts, fun hplain => haccounts.nodup fun p hp => hold.plain hplain hp.1⟩
  · rw [hwrites.output_eq, h.run_eq]
    exact houtput
  · intro c hc
    have hrange := (haccounts.reachable c hc).inRange
    exact Checking.Checked.accepted?_eq_some_iff.mp (Comparison.accepted?_check .camel hrange)

open CommandLine in
/-- Of the versions the schema is compared, the picture is no text and the notes are refused. -/
theorem versions_accounted_for :
    ∃ b : Batch,
      (execute Sample.versions ["batch", "old", "new", "--format=json"]).output =
        jsonLines .pagedAscii b.toDocument ∧
      Accounts {} (Sample.side "old") (Sample.side "new") b ∧
      (b.results.map (·.filename) ++ b.failures.map (·.filename)).Nodup ∧
      (∃ v, ResultAt {} (Sample.side "old") (Sample.side "new") ["shop", "orders.graphql"] v) ∧
      (∃ u, UnreadAt (Sample.side "old") (Sample.side "new") ["logo.json"] u) ∧
      ∃ u, RefusedAt {} (Sample.side "old") (Sample.side "new") ["notes.txt"] u := by
  have hfront : readArguments (switchesOf none) false ["batch", "old", "new", "--format=json"] =
      .ok ⟨[], ["batch", "old", "new", "--format=json"]⟩ := by decide +kernel
  have hgiven : readArguments (switchesOf (some .batch)) true ["old", "new", "--format=json"] =
      .ok ⟨[(.format, some "json")], ["old", "new"]⟩ := by decide +kernel
  have h : Understood Sample.versions .batch _ _ false
      (.batch (Sample.side "old") (Sample.side "new") ⟨.json, none, false⟩) :=
    .intro hfront rfl rfl rfl rfl hgiven rfl rfl
  have hcode : (execute Sample.versions ["batch", "old", "new", "--format=json"]).ending =
      .status 0 := by
    obtain ⟨own, -, hrecords⟩ :=
      Batch.exists_records (settled_revisions_iff.mpr fun p r => versions_settled)
    have hbatch := batchOf_eq_ok_iff.mpr ⟨own, hrecords, rfl⟩
    rw [(writes_batch h (by decide)).ending_eq, h.run_eq, runTask, runBatch_ending, hbatch]
    rfl
  obtain ⟨-, b, houtput, -, haccounts, hnodup⟩ :=
    batch_accounts_for_every_file h (by decide) hcode
  refine ⟨b, houtput, haccounts, hnodup (by decide), ?_, ?_, ?_⟩
  · obtain ⟨r, c, htexts, hcompare, -⟩ := versions_compared
    exact ⟨_, .intro htexts hcompare⟩
  · exact ⟨_, .intro (.old rfl rfl rfl)⟩
  · have htexts : TextsAt (Sample.side "old") (Sample.side "new") ["notes.txt"]
        ⟨"notes.txt", "", ""⟩ := .intro rfl rfl rfl rfl
    exact ⟨_, .intro htexts rfl⟩

end ApiDrift
