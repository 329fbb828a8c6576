import ApiDrift.Proofs.Batches
import ApiDrift.Proofs.CommandLines
import ApiDrift.Proofs.Findings
import Mathlib.Data.List.Lex
import Mathlib.Data.String.Basic

/-!
# Files of two directories

A directory is gone through in the order of its paths, each path once. Of two directories the files
count that are in both. Such a file has two texts, or its bytes on one side are no text, and then
the fault of the old side is told first.
-/
namespace ApiDrift

theorem Path.le_iff (p q : Path) : Path.le p q = true ↔ p = q ∨ p < q := by
  induction p generalizing q with
  | nil => cases q <;> simp [Path.le]
  | cons a p ih =>
    cases q with
    | nil => simp [Path.le]
    | cons b q =>
      rw [Path.le, List.cons_lt_cons_iff, List.cons.injEq]
      by_cases hab : a = b
      · simp [hab, ih]
      · simp [hab]

namespace Directory

variable {d old new : Directory} {p : Path}

theorem bytes?_cons (f : Path × List UInt8) (d : Directory) (p : Path) :
    bytes? (f :: d) p = if p = f.1 then some f.2 else d.bytes? p := by
  rw [bytes?, List.lookup_cons]
  by_cases hp : p = f.1
  · simp [hp]
  · simp [hp, beq_false_of_ne hp, bytes?]

theorem isSome_bytes? : (d.bytes? p).isSome = true ↔ p ∈ d.map Prod.fst := by
  induction d with
  | nil => simp [bytes?]
  | cons f d ih =>
    rw [bytes?_cons, List.map_cons, List.mem_cons, ← ih]
    by_cases hp : p = f.1
    · simp [hp]
    · simp [hp]

theorem mem_paths : p ∈ d.paths ↔ (d.bytes? p).isSome = true := by
  rw [paths, List.mem_mergeSort, List.mem_eraseDups, isSome_bytes?]

/-- The paths are in their order, component by component, and none is repeated. -/
theorem paths_sorted (d : Directory) : d.paths.Pairwise (· < ·) := by
  have hsorted : d.paths.Pairwise fun p q => Path.le p q = true := by
    apply List.pairwise_mergeSort
    · intro a b c hab hbc
      rw [Path.le_iff] at hab hbc ⊢
      rcases hab with rfl | hab
      · exact hbc
      · rcases hbc with rfl | hbc
        · exact .inr hab
        · exact .inr (lt_trans hab hbc)
    · intro a b
      rw [Bool.or_eq_true, Path.le_iff, Path.le_iff]
      rcases lt_trichotomy a b with h | h | h
      · exact .inl (.inr h)
      · exact .inl (.inl h)
      · exact .inr (.inr h)
  have hnodup : d.paths.Nodup := (List.mergeSort_perm _ _).nodup_iff.mpr (nodup_eraseDups _)
  exact (hsorted.and hnodup).imp fun h => ((Path.le_iff _ _).mp h.1).resolve_left h.2

/-- A file that is in both directories. -/
def Shares (old new : Directory) (p : Path) : Prop :=
  (old.bytes? p).isSome = true ∧ (new.bytes? p).isSome = true

theorem mem_sharedPaths : p ∈ new.sharedPaths old ↔ old.Shares new p := by
  rw [sharedPaths, List.mem_filter, mem_paths, Shares, and_comm]

theorem sharedPaths_sorted (old new : Directory) : (new.sharedPaths old).Pairwise (· < ·) :=
  (paths_sorted new).filter _

end Directory

/-! ### Below a place -/

theorem Path.after?_eq_some_iff {base p rest : Path} :
    Path.after? base p = some rest ↔ p = base ++ rest := by
  induction base generalizing p with
  | nil => simp [Path.after?]
  | cons b base ih =>
    cases p with
    | nil => simp [Path.after?]
    | cons c p =>
      by_cases hbc : b = c
      · simp [Path.after?, hbc, ih]
      · simp [Path.after?, hbc, Ne.symm hbc]

namespace Tree

variable {t : Tree} {text : String} {d : Directory} {p rel : Path}

/-- A written path leads to a place of a tree. -/
def LeadsTo (t : Tree) (text : String) (p : Path) : Prop :=
  let start := if (Path.rootMark text).isEmpty then t.here else []
  text.isEmpty = false ∧ t.walk start (Path.components text) = some p

/-- The files below a place are those of the tree whose paths go on from there. -/
theorem bytes?_below (t : Tree) (p : Path) (hrel : rel ≠ []) :
    (t.below p).bytes? rel = t.files.bytes? (p ++ rel) := by
  unfold below
  induction t.files with
  | nil => rfl
  | cons f files ih =>
    rw [List.filterMap_cons, Directory.bytes?_cons, ← ih]
    cases hafter : Path.after? p f.1 with
    | none =>
      have hne : p ++ rel ≠ f.1 := fun heq => by
        rw [Path.after?_eq_some_iff.mpr heq.symm] at hafter
        cases hafter
      rw [if_neg hne]
    | some rest =>
      simp only [Path.after?_eq_some_iff.mp hafter, List.append_right_inj]
      cases rest with
      | nil => rw [if_neg hrel]
      | cons c cs => rw [Directory.bytes?_cons]

theorem bytes?_below_nil (t : Tree) (p : Path) : (t.below p).bytes? [] = none := by
  rw [← Option.not_isSome_iff_eq_none, Directory.isSome_bytes?]
  intro h
  obtain ⟨e, he, hnil⟩ := List.mem_map.mp h
  obtain ⟨f, -, hf⟩ := List.mem_filterMap.mp he
  split at hf
  · cases hf
    cases hnil
  · cases hf

/-- A written path leads to a directory whose files are those of the tree below its place. -/
def Holds (t : Tree) (text : String) (d : Directory) : Prop :=
  ∃ place, t.LeadsTo text place ∧
    ∀ p, d.bytes? p = if p = [] then none else t.files.bytes? (place ++ p)

theorem holds_of_find? (h : t.find? text = some (.directory d)) : t.Holds text d := by
  simp only [find?] at h
  by_cases htext : text.isEmpty
  · simp [htext] at h
  · rw [if_neg htext] at h
    obtain ⟨place, hwalk, hplace⟩ := Option.bind_eq_some_iff.mp h
    have hd : d = t.below place := by
      unfold at? at hplace
      split at hplace
      · cases hplace
      · split_ifs at hplace
        cases hplace
        rfl
    refine ⟨place, ⟨Bool.eq_false_iff.mpr htext, hwalk⟩, fun p => ?_⟩
    subst hd
    split_ifs with hp
    · rw [hp, bytes?_below_nil]
    · rw [bytes?_below t place hp]

end Tree

namespace CommandLine

variable {p q : Path}

/-- A path without marks inside its components is shown as no other one. -/
theorem shownPath_inj (hp : p ≠ []) (hp' : ∀ c ∈ p, '/' ∉ c.toList) (hq : q ≠ [])
    (hq' : ∀ c ∈ q, '/' ∉ c.toList) (h : shownPath p = shownPath q) : p = q := by
  have hsplit : ∀ {p : Path}, p ≠ [] → (∀ c ∈ p, '/' ∉ c.toList) →
      (shownPath p).toList.splitOn '/' = p.map String.toList := by
    intro p hp hp'
    rw [shownPath, String.toList_intercalate]
    exact List.splitOn_intercalate '/' (by simpa using hp') (by simpa using hp)
  have hlists : p.map String.toList = q.map String.toList := by
    rw [← hsplit hp hp', ← hsplit hq hq', h]
  exact List.map_injective_iff.mpr (fun _ _ => String.toList_inj.mp) hlists

variable {old new : Directory} {r : Revision} {fault : Text.Utf8Fault}

/-- A file of both directories has two texts, which are a revision of it. -/
inductive TextsAt (old new : Directory) (p : Path) : Revision → Prop
  | intro {a b : List UInt8} {x y : String} : old.bytes? p = some a → new.bytes? p = some b →
      Text.readText a = .ok x → Text.readText b = .ok y → TextsAt old new p ⟨shownPath p, x, y⟩

/-- A file of both directories is no text on one side. -/
inductive NoTextAt (old new : Directory) (p : Path) : Text.Utf8Fault → Prop
  | old {a b : List UInt8} {fault : Text.Utf8Fault} : old.bytes? p = some a →
      new.bytes? p = some b → Text.decodeUtf8 a = .error fault → NoTextAt old new p fault
  | new {a b : List UInt8} {cs : List Char} {fault : Text.Utf8Fault} : old.bytes? p = some a →
      new.bytes? p = some b → Text.decodeUtf8 a = .ok cs → Text.decodeUtf8 b = .error fault →
      NoTextAt old new p fault

theorem TextsAt.shares (h : TextsAt old new p r) : old.Shares new p := by
  cases h with
  | intro ha hb => simp [Directory.Shares, ha, hb]

theorem NoTextAt.shares (h : NoTextAt old new p fault) : old.Shares new p := by
  cases h with
  | old ha hb => simp [Directory.Shares, ha, hb]
  | new ha hb => simp [Directory.Shares, ha, hb]

theorem revisionAt_eq_ok_iff (h : old.Shares new p) :
    revisionAt old new p = .ok r ↔ TextsAt old new p r := by
  obtain ⟨a, ha⟩ := Option.isSome_iff_exists.mp h.1
  obtain ⟨b, hb⟩ := Option.isSome_iff_exists.mp h.2
  simp only [revisionAt, ha, hb, Option.getD_some, bind_eq_ok, pure, Except.pure, Except.ok.injEq]
  constructor
  · intro hr
    obtain ⟨x, hx, y, hy, rfl⟩ := hr
    exact .intro ha hb hx hy
  · intro hr
    cases hr with
    | intro ha' hb' hx hy =>
      cases ha.symm.trans ha'
      cases hb.symm.trans hb'
      exact ⟨_, hx, _, hy, rfl⟩

theorem revisionAt_eq_error_iff (h : old.Shares new p) :
    revisionAt old new p = .error fault ↔ NoTextAt old new p fault := by
  obtain ⟨a, ha⟩ := Option.isSome_iff_exists.mp h.1
  obtain ⟨b, hb⟩ := Option.isSome_iff_exists.mp h.2
  simp only [revisionAt, ha, hb, Option.getD_some, Text.readText]
  constructor
  · intro hr
    cases hx : Text.decodeUtf8 a with
    | error f =>
      rw [hx] at hr
      cases hr
      exact .old ha hb hx
    | ok cs =>
      cases hy : Text.decodeUtf8 b with
      | error f =>
        rw [hx, hy] at hr
        cases hr
        exact .new ha hb hx hy
      | ok =>
        rw [hx, hy] at hr
        cases hr
  · intro hr
    cases hr with
    | old ha' _ hx =>
      cases ha.symm.trans ha'
      rw [hx]
      rfl
    | new ha' hb' hx hy =>
      cases ha.symm.trans ha'
      cases hb.symm.trans hb'
      rw [hx, hy]
      rfl

theorem mem_revisions : r ∈ revisions old new ↔ ∃ p, TextsAt old new p r := by
  unfold revisions
  rw [List.mem_filterMap]
  constructor
  · intro h
    obtain ⟨p, hp, hr⟩ := h
    rw [Directory.mem_sharedPaths] at hp
    cases hrevision : revisionAt old new p with
    | error fault => simp [hrevision] at hr
    | ok r' =>
      rw [hrevision] at hr
      cases hr
      exact ⟨p, (revisionAt_eq_ok_iff hp).mp hrevision⟩
  · intro h
    obtain ⟨p, hp⟩ := h
    refine ⟨p, Directory.mem_sharedPaths.mpr hp.shares, ?_⟩
    rw [(revisionAt_eq_ok_iff hp.shares).mpr hp]

theorem settled_revisions_iff {n : Narrowing} :
    (∀ r ∈ revisions old new, r.Settled n) ↔ ∀ p r, TextsAt old new p r → r.Settled n := by
  simp only [mem_revisions, forall_exists_index]
  exact forall_comm

/-- The files that are no texts, each with what is listed of it. -/
def unreadRefusals (old new : Directory) : List FileRefusal :=
  (unreadable old new).map fun u => ⟨u.1, "Failed to read file: " ++ u.2⟩

theorem batchOf_eq_ok_iff {n : Narrowing} {b : Batch} : batchOf old new n = .ok b ↔
    ∃ own, Batch.Records n (revisions old new) own ∧
      b = { own with failures := unreadRefusals old new ++ own.failures } := by
  simp only [batchOf, bind_eq_ok, Batch.ofRevisions_eq_ok_iff, pure, Except.pure, Except.ok.injEq,
    unreadRefusals]
  simp only [eq_comm]

/-- Of the paths of a directory only those of its files have to be looked at. -/
theorem settled_of_paths {old new : Directory} {n : Narrowing}
    (h : ∀ p ∈ new.map Prod.fst, ∀ r ∈ (revisionAt old new p).toOption, r.Settled n) {p : Path}
    {r : Revision} (hr : TextsAt old new p r) : r.Settled n := by
  have hrevision := (revisionAt_eq_ok_iff hr.shares).mpr hr
  exact h p (Directory.isSome_bytes?.mp hr.shares.2) r (toOption_eq_some_iff.mpr hrevision)

/-- The files of one version. -/
def Sample.side (name : String) : Directory := Sample.versions.tree.below [name]

theorem versions_settled {p : Path} {r : Revision}
    (h : TextsAt (Sample.side "old") (Sample.side "new") p r) : r.Settled {} :=
  settled_of_paths (by decide +kernel) h

theorem versions_compared : ∃ r c,
    TextsAt (Sample.side "old") (Sample.side "new") ["shop", "orders.graphql"] r ∧
      r.compare {} = .ok c ∧ c.breaking ≠ [] := by
  let r : Revision :=
    { filename := "shop/orders.graphql"
      old := "type Query \x7b orders: [Order] \x7d", new := "type Order \x7b id: ID \x7d" }
  have hcount : (r.compare {}).toOption.map (fun c => c.breaking.length) = some 1 := by
    decide +kernel
  obtain ⟨c, hc, hlength⟩ := Option.map_eq_some_iff.mp hcount
  refine ⟨r, c, ?_, toOption_eq_some_iff.mp hc, List.ne_nil_of_length_pos (by omega)⟩
  exact .intro rfl rfl (by decide +kernel) (by decide +kernel)

end CommandLine
end ApiDrift
