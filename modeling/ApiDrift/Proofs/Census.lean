import ApiDrift.Inspection.Statistics
import ApiDrift.Proofs.Tally

/-!
# Statistics and comparisons balance

Statistics count the entities of one version, a comparison those that come and go between two. Where
no key is repeated the two accounts balance: what the old version has and what comes is as much as
what the new version has and what goes. Repeated keys would be counted by the statistics and not by
the comparison.

The methods are counted while the endpoints are gone through, in a map of what was counted so far.
`tally_concat` is the step of that loop, on which the inductions here go from the end of the list.
-/
namespace ApiDrift
open Compare

namespace Statistics

/-- The methods that statistics list are those of some endpoints, each with its number of uses. -/
structure CountsMethods (t : Statistics) (endpoints : List Endpoint) : Prop where
  positive : ∀ m ∈ t.methods, 0 < m.2
  distinct : (t.methods.map Prod.fst).Nodup
  firstUses : t.methods.Pairwise fun m m' =>
    (endpoints.map Endpoint.method).idxOf m.1 < (endpoints.map Endpoint.method).idxOf m'.1
  counts : ∀ m ∈ t.methods, m.2 = endpoints.countP fun e => e.method = m.1
  complete : ∀ e ∈ endpoints, e.method ∈ t.methods.map Prod.fst
  total : (t.methods.map Prod.snd).sum = t.endpoints

section
variable {names : List String} {name : String} {n : Nat}

theorem tally_concat (names : List String) (z : String) :
    tally (names ++ [z]) = countOne (tally names) z := by
  simp only [tally, List.foldl_append, List.foldl_cons, List.foldl_nil]

theorem countOne_cons (e : String × Nat) (rest : Keyed Nat) (z : String) :
    countOne (e :: rest) z =
      if e.1 = z then (z, e.2 + 1) :: rest else e :: countOne rest z := by
  obtain ⟨k, n⟩ := e
  by_cases hk : k = z
  · subst hk
    simp [countOne, Keyed.put, Keyed.get?_cons]
  · simp [countOne, Keyed.put, Keyed.get?_cons, hk, Ne.symm hk]

theorem sum_countOne (counts : Keyed Nat) (z : String) :
    ((countOne counts z).map Prod.snd).sum = (counts.map Prod.snd).sum + 1 := by
  induction counts with
  | nil => rfl
  | cons e rest ih =>
    rw [countOne_cons]
    by_cases hk : e.1 = z
    · simp only [if_pos hk, List.map_cons, List.sum_cons]
      omega
    · simp only [if_neg hk, List.map_cons, List.sum_cons, ih]
      omega

/-- So far, each text that was met is counted as often as it was met. -/
theorem get?_tally (names : List String) (name : String) :
    (tally names).get? name = if name ∈ names then some (names.count name) else none := by
  induction names using List.reverseRecOn with
  | nil => rfl
  | append_singleton names z ih =>
    rw [tally_concat, countOne, Keyed.get?_put]
    by_cases hname : name = z
    · subst hname
      rw [if_pos rfl, ih]
      by_cases hmem : name ∈ names
      · simp [hmem]
      · simp [hmem, List.count_eq_zero_of_not_mem hmem]
    · rw [if_neg hname, ih]
      simp [hname, List.count_append, Ne.symm hname]

theorem nodup_tally (names : List String) : ((tally names).map Prod.fst).Nodup := by
  induction names using List.reverseRecOn with
  | nil => exact List.nodup_nil
  | append_singleton names z ih =>
    rw [tally_concat]
    exact Keyed.nodup_put ih _ _

theorem mem_keys_tally : name ∈ (tally names).map Prod.fst ↔ name ∈ names := by
  induction names using List.reverseRecOn with
  | nil => exact Iff.rfl
  | append_singleton names z ih =>
    rw [tally_concat, countOne, Keyed.mem_keys_put, ih, List.mem_append, List.mem_singleton,
      or_comm]

theorem mem_tally : (name, n) ∈ tally names ↔ name ∈ names ∧ n = names.count name := by
  rw [Keyed.mem_iff_get? (nodup_tally names), get?_tally]
  split_ifs with hmem
  · simp [hmem, eq_comm]
  · simp [hmem]

/-- A text that is met again keeps its place, and a new one comes last. -/
theorem firstUses_tally (names : List String) :
    ((tally names).map Prod.fst).Pairwise fun a b => names.idxOf a < names.idxOf b := by
  induction names using List.reverseRecOn with
  | nil => exact List.Pairwise.nil
  | append_singleton names z ih =>
    have hkept : ∀ a ∈ (tally names).map Prod.fst, (names ++ [z]).idxOf a = names.idxOf a :=
      fun a ha => List.idxOf_append_of_mem (mem_keys_tally.mp ha)
    have hearlier : ((tally names).map Prod.fst).Pairwise fun a b =>
        (names ++ [z]).idxOf a < (names ++ [z]).idxOf b :=
      ih.imp_of_mem fun ha hb hlt => by rwa [hkept _ ha, hkept _ hb]
    rw [tally_concat, countOne, Keyed.keys_put]
    split_ifs with hz
    · exact hearlier
    · have hnew : z ∉ names := fun hmem => hz (mem_keys_tally.mpr hmem)
      refine List.pairwise_append.mpr ⟨hearlier, List.pairwise_singleton _ _, fun a ha b hb => ?_⟩
      rw [List.mem_singleton.mp hb, hkept a ha, List.idxOf_append_of_notMem hnew,
        List.idxOf_cons_self]
      exact List.idxOf_lt_length_of_mem (mem_keys_tally.mp ha)

theorem sum_tally (names : List String) : ((tally names).map Prod.snd).sum = names.length := by
  induction names using List.reverseRecOn with
  | nil => rfl
  | append_singleton names z ih =>
    rw [tally_concat, sum_countOne, ih, List.length_append, List.length_singleton]

end

theorem countsMethods_ofSpec (s : Spec) : (ofSpec s).CountsMethods s.endpoints where
  positive m hm := by
    obtain ⟨hmem, hcount⟩ := mem_tally.mp hm
    rw [hcount]
    exact List.count_pos_iff.mpr hmem
  distinct := nodup_tally _
  firstUses := (List.pairwise_map (f := Prod.fst)).mp (firstUses_tally _)
  counts m hm := by
    rw [(mem_tally.mp hm).2, List.count_eq_countP, List.countP_map]
    exact List.countP_congr fun e _ => by simp
  complete e he := mem_keys_tally.mpr (List.mem_map_of_mem he)
  total := (sum_tally _).trans (List.length_map _)

end Statistics

/-- What the old version has and what comes is what the new version has and what goes. -/
structure Summary.Balances (s : Summary) (old new : Statistics) : Prop where
  endpoints : old.endpoints + s.endpointsAdded = new.endpoints + s.endpointsRemoved
  schemas : old.schemas + s.schemasAdded = new.schemas + s.schemasRemoved
  securitySchemes : old.securitySchemes + s.securityAdded = new.securitySchemes + s.securityRemoved

/-- No two entities of a collection share a key. -/
structure Spec.KeysOnce (s : Spec) : Prop where
  endpoints : (s.endpoints.map Endpoint.id).Nodup
  schemas : (s.schemas.map Schema.name).Nodup
  security : (s.security.map SecurityScheme.name).Nodup

namespace Compare

section
variable {α : Type} {key : α → String} {items old new : List α}

theorem length_eq_ncard_keys (h : (items.map key).Nodup) :
    items.length = {k | k ∈ items.map key}.ncard := by
  have hkeys : (items.map key).length = {k | k ∈ items.map key}.ncard :=
    length_eq_ncard h fun _ => Iff.rfl
  rw [← hkeys, List.length_map]

/-- The keys of two lists are those of the one and those that only the other has. -/
theorem ncard_keysOnlyIn (key : α → String) (items others : List α) :
    (keysOnlyIn key items others).ncard + {k | k ∈ others.map key}.ncard =
      ({k | k ∈ items.map key} ∪ {k | k ∈ others.map key}).ncard :=
  Set.ncard_sdiff_add_ncard _ _ (List.finite_toSet _) (List.finite_toSet _)

theorem length_balance (hold : (old.map key).Nodup) (hnew : (new.map key).Nodup) :
    old.length + (keysOnlyIn key new old).ncard = new.length + (keysOnlyIn key old new).ncard := by
  have hcome := ncard_keysOnlyIn key new old
  have hgo := ncard_keysOnlyIn key old new
  rw [Set.union_comm] at hgo
  rw [length_eq_ncard_keys hold, length_eq_ncard_keys hnew]
  omega

/-- A collection balances in a list of changes that has its moves. -/
theorem balance_of_moves {changes : List Change} {g : Category} (hold : (old.map key).Nodup)
    (hnew : (new.map key).Nodup)
    (hadded : changes.countP (Change.isOf g .added) = (keysOnlyIn key new old).ncard)
    (hremoved : changes.countP (Change.isOf g .removed) = (keysOnlyIn key old new).ncard) :
    (old.length : Int) + Summary.countOf changes g .added =
      new.length + Summary.countOf changes g .removed := by
  rw [Summary.countOf_eq_of_countP hadded, Summary.countOf_eq_of_countP hremoved]
  exact_mod_cast length_balance hold hnew

end

end Compare

/-- Statistics and comparisons balance where no key is repeated: what the old version has and what
comes is what the new version has and what goes, for endpoints, schemas and security schemes. Of any
specification the statistics list each method once, in the order of first use, with the number of
endpoints that use it, and these numbers are the number of endpoints taken together. -/
theorem census_balances :
    (∀ (old new : Spec) (c : Comparison), Comparison.ofSpecs old new = .ok c → old.KeysOnce →
      new.KeysOnce → c.summary.Balances (.ofSpec old) (.ofSpec new)) ∧
    ∀ s : Spec, (Statistics.ofSpec s).CountsMethods s.endpoints := by
  refine ⟨fun old new c h hold hnew => ?_, Statistics.countsMethods_ofSpec⟩
  obtain ⟨changes, hchanges, rfl⟩ := Comparison.ofSpecs_eq_ok.mp h
  obtain ⟨es, hes, rfl⟩ := Spec.changes_eq_ok.mp hchanges
  obtain ⟨hendpoints, hendpoints'⟩ := endpoints_moved hes
  obtain ⟨hschemas, hschemas'⟩ := schemas_moved old.schemas new.schemas
  obtain ⟨hsecurity, hsecurity'⟩ := security_moved old.security new.security
  obtain ⟨hadded, hadded', hadded''⟩ := countP_changes hes .added
  obtain ⟨hremoved, hremoved', hremoved''⟩ := countP_changes hes .removed
  constructor
  · exact balance_of_moves hold.endpoints hnew.endpoints (hadded.trans hendpoints)
      (hremoved.trans hendpoints')
  · exact balance_of_moves hold.schemas hnew.schemas (hadded'.trans hschemas)
      (hremoved'.trans hschemas')
  · exact balance_of_moves hold.security hnew.security (hadded''.trans hsecurity)
      (hremoved''.trans hsecurity')

/-- A specification of bare endpoints, each a method with a path, and of bare schemas. -/
def Sample.outline (endpoints : List (String × String)) (schemas : List String) : Spec :=
  { name := "outline", version := "1", format := .openapi
    endpoints := endpoints.map fun e => { id := e.1 ++ "-" ++ e.2, method := e.1, path := e.2 }
    schemas := schemas.map fun name => { name } }

/-- Two endpoints and a schema come, one endpoint and no schema goes. -/
theorem loans_balance :
    let old := Sample.outline [("GET", "/books"), ("POST", "/books"), ("GET", "/loans")] ["Book"]
    let new := Sample.outline
      [("GET", "/readers"), ("GET", "/loans"), ("DELETE", "/loans"), ("GET", "/books")]
      ["Reader", "Book"]
    old.KeysOnce ∧ new.KeysOnce ∧ (Statistics.ofSpec old).methods = [("GET", 2), ("POST", 1)] ∧
      (Statistics.ofSpec old).CountsMethods old.endpoints ∧
      ∃ c, Comparison.ofSpecs old new = .ok c ∧ c.summary.endpointsAdded = 2 ∧
        c.summary.endpointsRemoved = 1 ∧ c.summary.schemasAdded = 1 ∧
        c.summary.Balances (.ofSpec old) (.ofSpec new) := by
  intro old new
  have hold : old.KeysOnce := ⟨by decide +kernel, by decide +kernel, by decide +kernel⟩
  have hnew : new.KeysOnce := ⟨by decide +kernel, by decide +kernel, by decide +kernel⟩
  have hc : ∃ c, Comparison.ofSpecs old new = .ok c ∧ c.summary.endpointsAdded = 2 ∧
      c.summary.endpointsRemoved = 1 ∧ c.summary.schemasAdded = 1 := ⟨_, rfl, rfl, rfl, rfl⟩
  obtain ⟨c, hc, hadded, hremoved, hschemas⟩ := hc
  exact ⟨hold, hnew, by decide +kernel, census_balances.2 old, c, hc, hadded, hremoved, hschemas,
    census_balances.1 old new c hc hold hnew⟩

end ApiDrift
