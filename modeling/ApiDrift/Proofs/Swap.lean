import ApiDrift.Proofs.Findings
import ApiDrift.Proofs.Sequence
import Mathlib.Data.Prod.Basic

/-!
# The versions the other way round

Compared the other way round, what was removed is added and what was added is removed. The entities
of a version come or go in the order of that version, whichever side it is on, so one comparison
lists its additions as the other lists its removals, however often a key is repeated. The common
entities are visited in the order of the new version, which is another one the other way round: of
the parameters that come and go inside of them only the numbers are the same.
-/
namespace ApiDrift
open Compare

/-- A change of a category and type. -/
def Change.isOf (g : Category) (t : ChangeType) (c : Change) : Bool := c.category = g && c.type = t

/-- The places of the changes of a category and type, in their order. -/
def pathsOf (changes : List Change) (g : Category) (t : ChangeType) : List String :=
  (changes.filter (Change.isOf g t)).map Change.path

/-- What comes in one list of changes goes in the other, and the other way round, in order. -/
structure Mirrored (g : Category) (cs ds : List Change) : Prop where
  added : pathsOf cs g .added = pathsOf ds g .removed
  removed : pathsOf cs g .removed = pathsOf ds g .added

/-- The categories of changes by which an entity of a specification comes or goes as a whole. -/
def Category.Whole (g : Category) : Prop := g = .endpoint ∨ g = .schema ∨ g = .security

/-- One summary counts as added what the other counts as removed. -/
structure Summary.Mirrors (s s' : Summary) : Prop where
  endpoints : s.endpointsAdded = s'.endpointsRemoved
  schemas : s.schemasAdded = s'.schemasRemoved
  security : s.securityAdded = s'.securityRemoved
  parameters : s.parametersAdded = s'.parametersRemoved

/-! ### Places in order -/

section
variable {g : Category} {t : ChangeType} {cs cs' ds ds' : List Change}

theorem Summary.countOf_eq_length : countOf cs g t = ((pathsOf cs g t).length : Nat) := by
  rw [countOf, pathsOf, List.length_map, ← List.countP_eq_length_filter]
  rfl

theorem pathsOf_append : pathsOf (cs ++ ds) g t = pathsOf cs g t ++ pathsOf ds g t := by
  rw [pathsOf, List.filter_append, List.map_append]
  rfl

/-- Changes that are all of one category and type. -/
theorem pathsOf_map {α : Type} {f : α → Change} {g₀ : Category} {t₀ : ChangeType}
    (hf : ∀ x, (f x).category = g₀ ∧ (f x).type = t₀) (xs : List α) :
    pathsOf (xs.map f) g t = if g₀ = g ∧ t₀ = t then xs.map fun x => (f x).path else [] := by
  have hof : ∀ x, (Change.isOf g t ∘ f) x = decide (g₀ = g ∧ t₀ = t) := by
    intro x
    rw [Function.comp_apply, Change.isOf, (hf x).1, (hf x).2, Bool.decide_and]
  rw [pathsOf, List.filter_map, List.map_map]
  split_ifs with h
  · rw [List.filter_eq_self.mpr fun x _ => (hof x).trans (decide_eq_true h)]
    rfl
  · rw [List.filter_eq_nil_iff.mpr fun x _ hx => h (of_decide_eq_true ((hof x).symm.trans hx))]
    rfl

theorem Mirrored.append (h : Mirrored g cs ds) (h' : Mirrored g cs' ds') :
    Mirrored g (cs ++ cs') (ds ++ ds') where
  added := by rw [pathsOf_append, pathsOf_append, h.added, h'.added]
  removed := by rw [pathsOf_append, pathsOf_append, h.removed, h'.removed]

/-- Nothing of a category comes or goes. -/
def Still (g : Category) (cs : List Change) : Prop :=
  ∀ c ∈ cs, c.category = g → c.type ≠ .added ∧ c.type ≠ .removed

theorem still_of_kinds (h : ∀ t s, (t, g, s) ∉ cs.map Change.kind) : Still g cs := by
  intro c hc hcategory
  subst hcategory
  exact absurd (List.mem_map_of_mem hc) (h c.type c.severity)

/-- What changes in common items only modifies them. -/
theorem still_of_modified {α : Type} {pairs : List (α × α)} {f : α → α → List Change}
    (h : ∀ x y, ∀ c ∈ f x y, c.type = .modified) :
    Still g (pairs.flatMap fun pair => f pair.1 pair.2) := by
  intro c hc _
  obtain ⟨pair, -, hc⟩ := List.mem_flatMap.mp hc
  rw [h pair.1 pair.2 c hc]
  exact ⟨nofun, nofun⟩

theorem Still.not_isOf (h : Still g cs) (ht : t = .added ∨ t = .removed) {c : Change}
    (hc : c ∈ cs) : ¬ c.isOf g t = true := by
  rw [Change.isOf, Bool.and_eq_true, decide_eq_true_iff, decide_eq_true_iff]
  intro hof
  obtain ⟨hadded, hremoved⟩ := h c hc hof.1
  rcases ht with rfl | rfl
  · exact hadded hof.2
  · exact hremoved hof.2

theorem Still.pathsOf_eq_nil (h : Still g cs) (ht : t = .added ∨ t = .removed) :
    pathsOf cs g t = [] := by
  rw [pathsOf, List.filter_eq_nil_iff.mpr fun c hc => h.not_isOf ht hc, List.map_nil]

theorem Mirrored.of_still (hcs : Still g cs) (hds : Still g ds) : Mirrored g cs ds where
  added := by rw [hcs.pathsOf_eq_nil (.inl rfl), hds.pathsOf_eq_nil (.inr rfl)]
  removed := by rw [hcs.pathsOf_eq_nil (.inr rfl), hds.pathsOf_eq_nil (.inl rfl)]

/-- What is removed is reported at the same place as if it were added. -/
theorem mirrored_moves (g₀ : Category) {α : Type} {f f' : String × α → Change}
    (hf : ∀ e, (f e).category = g₀ ∧ (f e).type = .removed)
    (hf' : ∀ e, (f' e).category = g₀ ∧ (f' e).type = .added)
    (hpath : ∀ e, (f e).path = (f' e).path) (removed added : Keyed α) :
    Mirrored g (removed.map f ++ added.map f') (added.map f ++ removed.map f') := by
  constructor
  · simp [pathsOf_append, pathsOf_map hf, pathsOf_map hf', hpath]
  · simp [pathsOf_append, pathsOf_map hf, pathsOf_map hf', hpath]

end

namespace Compare

/-! ### The keyed difference the other way round -/

section
variable {α : Type} (key : α → String) (old new : List α)

/-- No pair is twice among the common ones. -/
theorem nodup_common : (split key old new).common.Nodup :=
  (nodup_keys_common key old new).of_map _

/-- The common pairs are the same ones, turned over, in the order of the other version. -/
theorem common_swap :
    (split key new old).common.Perm ((split key old new).common.map Prod.swap) := by
  have hnodup := (nodup_common key old new).map Prod.swap_injective
  rw [List.perm_ext_iff_of_nodup (nodup_common key new old) hnodup]
  intro pair
  obtain ⟨y, x⟩ := pair
  rw [mem_common, List.mem_map]
  constructor
  · intro h
    exact ⟨(x, y), mem_common.mpr h.symm, rfl⟩
  · intro h
    obtain ⟨⟨x, y⟩, hpair, heq⟩ := h
    cases heq
    exact (mem_common.mp hpair).symm

end

/-! ### Whole entities -/

section
variable {g : Category} (hg : g.Whole)
include hg

theorem EndpointRule.eq_deprecated {d e : Endpoint} {t : ChangeType} {s : Severity}
    (h : EndpointRule d e t g s) : t = .deprecated := by
  rcases hg with rfl | rfl | rfl
  · cases h
    rfl
  · nomatch h
  · nomatch h

theorem endpointDetails_still {d e : Endpoint} {cs : List Change}
    (h : endpointDetails d e = .ok cs) : Still g cs := by
  intro c hc hcategory
  have hrule := (kind_mem_endpointDetails h).mp (List.mem_map_of_mem hc)
  rw [hrule.eq_deprecated (hcategory ▸ hg)]
  exact ⟨nofun, nofun⟩

/-- Inside of the common endpoints no whole entity comes or goes. -/
theorem commonEndpoints_still {pairs : List (Endpoint × Endpoint)} {cs : List Change}
    (h : flatMapChecked (fun pair => endpointDetails pair.1 pair.2) pairs = .ok cs) :
    Still g cs := by
  intro c hc
  obtain ⟨pair, -, zs, hzs, hc⟩ := (mem_flatMapChecked h).mp hc
  exact endpointDetails_still hg hzs c hc

theorem endpoints_mirrored {old new : List Endpoint} {cs ds : List Change}
    (h : endpoints old new = .ok cs) (h' : endpoints new old = .ok ds) : Mirrored g cs ds := by
  obtain ⟨details, hdetails, rfl⟩ := endpoints_eq_ok.mp h
  obtain ⟨details', hdetails', rfl⟩ := endpoints_eq_ok.mp h'
  refine .append (mirrored_moves .endpoint ?_ ?_ ?_ _ _)
    (.of_still (commonEndpoints_still hg hdetails) (commonEndpoints_still hg hdetails'))
  · exact fun e => ⟨rfl, rfl⟩
  · exact fun e => ⟨rfl, rfl⟩
  · exact fun e => rfl

/-- Inside of the common schemas no whole entity comes or goes. -/
theorem commonSchemas_still (pairs : List (Schema × Schema)) :
    Still g (pairs.flatMap fun pair => schemaDetails pair.1 pair.2) := by
  refine still_of_kinds fun t s hkind => ?_
  rw [List.map_flatMap, List.mem_flatMap] at hkind
  obtain ⟨pair, -, hkind⟩ := hkind
  have hproperty := (kind_mem_schemaDetails.mp hkind).1
  rcases hg with rfl | rfl | rfl
  all_goals nomatch hproperty

theorem schemas_mirrored (old new : List Schema) :
    Mirrored g (schemas old new) (schemas new old) := by
  have hold := commonSchemas_still hg (split Schema.name old new).common
  have hnew := commonSchemas_still hg (split Schema.name new old).common
  refine (mirrored_moves .schema ?_ ?_ ?_ _ _).append (.of_still hold hnew)
  · exact fun e => ⟨rfl, rfl⟩
  · exact fun e => ⟨rfl, rfl⟩
  · exact fun e => rfl

omit hg in
theorem security_mirrored (old new : List SecurityScheme) :
    Mirrored g (security old new) (security new old) := by
  refine mirrored_moves .security ?_ ?_ ?_ _ _
  · exact fun e => ⟨rfl, rfl⟩
  · exact fun e => ⟨rfl, rfl⟩
  · exact fun e => rfl

end

/-! ### Parameters in number -/

/-- So many parameters come and so many go in a list of changes. -/
structure ParameterMoves (cs : List Change) (added removed : Nat) : Prop where
  added : cs.countP (Change.isOf .parameter .added) = added
  removed : cs.countP (Change.isOf .parameter .removed) = removed

section
variable {cs ds : List Change} {m n m' n' : Nat}

theorem ParameterMoves.append (h : ParameterMoves cs m n) (h' : ParameterMoves ds m' n') :
    ParameterMoves (cs ++ ds) (m + m') (n + n') where
  added := by rw [List.countP_append, h.added, h'.added]
  removed := by rw [List.countP_append, h.removed, h'.removed]

theorem ParameterMoves.of_still (h : Still .parameter cs) : ParameterMoves cs 0 0 where
  added := List.countP_eq_zero.mpr fun _ hc => h.not_isOf (.inl rfl) hc
  removed := List.countP_eq_zero.mpr fun _ hc => h.not_isOf (.inr rfl) hc

theorem ParameterMoves.append_still (h : ParameterMoves cs m n) (hds : Still .parameter ds) :
    ParameterMoves (cs ++ ds) m n :=
  h.append (.of_still hds)

theorem ParameterMoves.still_append (h : ParameterMoves ds m n) (hcs : Still .parameter cs) :
    ParameterMoves (cs ++ ds) m n := by
  simpa only [Nat.zero_add] using (ParameterMoves.of_still hcs).append h

theorem ParameterMoves.of_added (h : ∀ c ∈ cs, c.category = .parameter ∧ c.type = .added) :
    ParameterMoves cs cs.length 0 where
  added := List.countP_eq_length.mpr fun c hc => by simp [Change.isOf, h c hc]
  removed := List.countP_eq_zero.mpr fun c hc => by simp [Change.isOf, h c hc]

theorem ParameterMoves.of_removed (h : ∀ c ∈ cs, c.category = .parameter ∧ c.type = .removed) :
    ParameterMoves cs 0 cs.length where
  added := List.countP_eq_zero.mpr fun c hc => by simp [Change.isOf, h c hc]
  removed := List.countP_eq_length.mpr fun c hc => by simp [Change.isOf, h c hc]

/-- What is counted in the changes of each member is counted in all of them together. -/
theorem countP_flatMapChecked {α : Type} {f : α → Except PlainFault (List Change)}
    {p : Change → Bool} {n : α → Nat} (hf : ∀ x zs, f x = .ok zs → zs.countP p = n x)
    {xs : List α} (h : flatMapChecked f xs = .ok cs) :
    cs.countP p = Number.total (xs.map n) := by
  induction xs generalizing cs with
  | nil =>
    cases h
    rfl
  | cons x xs ih =>
    obtain ⟨us, hus, h⟩ := bind_eq_ok.mp h
    obtain ⟨vs, hvs, h⟩ := bind_eq_ok.mp h
    cases h
    rw [List.countP_append, hf x us hus, ih hvs]
    rfl

theorem moves_of_flatMapChecked {α : Type} {f : α → Except PlainFault (List Change)}
    {added removed : α → Nat} (hf : ∀ x zs, f x = .ok zs → ParameterMoves zs (added x) (removed x))
    {xs : List α} (h : flatMapChecked f xs = .ok cs) :
    ParameterMoves cs (Number.total (xs.map added)) (Number.total (xs.map removed)) where
  added := countP_flatMapChecked (fun x zs hzs => (hf x zs hzs).added) h
  removed := countP_flatMapChecked (fun x zs hzs => (hf x zs hzs).removed) h

end

theorem parameters_moves {base : String} {ps qs : List Parameter} {cs : List Change}
    (h : parameters base ps qs = .ok cs) :
    ParameterMoves cs (split Parameter.key ps qs).added.length
      (split Parameter.key ps qs).removed.length := by
  obtain ⟨removed, added, hremoved, hadded, rfl⟩ := parameters_eq_ok.mp h
  have hlost : ParameterMoves removed 0 removed.length := by
    refine .of_removed fun c hc => ?_
    obtain ⟨e, -, hc⟩ := (mem_mapM hremoved).mp hc
    have hkind := kind_parameterRemoved hc
    exact ⟨congrArg (fun k => k.2.1) hkind, congrArg (fun k => k.1) hkind⟩
  have hgained : ParameterMoves added added.length 0 := by
    refine .of_added fun c hc => ?_
    obtain ⟨e, -, hc⟩ := (mem_mapM hadded).mp hc
    have hkind := kind_parameterAdded hc
    exact ⟨congrArg (fun k => k.2.1) hkind, congrArg (fun k => k.1) hkind⟩
  have hdetails : Still .parameter ((split Parameter.key ps qs).common.flatMap fun pair =>
      parameterDetails base pair.1 pair.2) :=
    still_of_modified fun _ _ _ hc => congrArg Finding.type (finding_parameterDetails hc)
  rw [(mapM_eq_ok_iff.mp hremoved).length_eq, (mapM_eq_ok_iff.mp hadded).length_eq]
  simpa only [Nat.zero_add, Nat.add_zero] using (hlost.append hgained).append_still hdetails

theorem endpointDetails_moves {d e : Endpoint} {cs : List Change}
    (h : endpointDetails d e = .ok cs) :
    ParameterMoves cs (split Parameter.key d.parameters e.parameters).added.length
      (split Parameter.key d.parameters e.parameters).removed.length := by
  obtain ⟨params, hparams, h⟩ := bind_eq_ok.mp h
  cases h
  have hdeprecation : Still .parameter (deprecation d e) := by
    refine still_of_kinds fun t s hkind => ?_
    nomatch (kind_mem_ite.mp hkind).2
  have hbody : Still .parameter (requestBody e.label d.requestBody e.requestBody) := by
    refine still_of_kinds fun t s hkind => ?_
    nomatch (kind_mem_requestBody.mp hkind).1
  have hresponses : Still .parameter (responses e.label d.responses e.responses) := by
    refine still_of_kinds fun t s hkind => ?_
    rcases kind_mem_responses.mp hkind with ⟨r, -, hkind⟩ | ⟨r, -, hkind⟩
    all_goals nomatch hkind
  have hmoves := (parameters_moves hparams).still_append hdeprecation
  exact (hmoves.append_still hbody).append_still hresponses

/-- The number of parameters that common endpoints gain. -/
def parametersGained (old new : List Endpoint) : Nat :=
  Number.total <| (split Endpoint.id old new).common.map fun pair =>
    (split Parameter.key pair.1.parameters pair.2.parameters).added.length

/-- The number of parameters that common endpoints lose. -/
def parametersLost (old new : List Endpoint) : Nat :=
  Number.total <| (split Endpoint.id old new).common.map fun pair =>
    (split Parameter.key pair.1.parameters pair.2.parameters).removed.length

/-- The sums are over the same endpoints, in the order of either version. -/
theorem parametersLost_swap (old new : List Endpoint) :
    parametersLost new old = parametersGained old new := by
  have hperm := (common_swap Endpoint.id old new).map fun pair =>
    (split Parameter.key pair.1.parameters pair.2.parameters).removed.length
  rw [parametersLost, Number.total_perm hperm, List.map_map]
  rfl

theorem endpoints_moves {old new : List Endpoint} {cs : List Change}
    (h : endpoints old new = .ok cs) :
    ParameterMoves cs (parametersGained old new) (parametersLost old new) := by
  obtain ⟨details, hdetails, rfl⟩ := endpoints_eq_ok.mp h
  have hremoved : Still .parameter
      ((split Endpoint.id old new).removed.map fun e => endpointRemoved e.1 e.2) := by
    refine still_of_kinds fun t s hkind => ?_
    obtain ⟨e, -, hkind⟩ := kind_mem_removed.mp hkind
    nomatch hkind
  have hadded : Still .parameter
      ((split Endpoint.id old new).added.map fun e => endpointAdded e.1 e.2) := by
    refine still_of_kinds fun t s hkind => ?_
    obtain ⟨e, -, hkind⟩ := kind_mem_added.mp hkind
    nomatch hkind
  have hcommon := moves_of_flatMapChecked (fun pair zs hzs => endpointDetails_moves hzs) hdetails
  rw [List.append_assoc]
  exact (hcommon.still_append hadded).still_append hremoved

theorem schemas_still (old new : List Schema) : Still .parameter (schemas old new) := by
  refine still_of_kinds fun t s hkind => ?_
  rcases kind_mem_schemas.mp hkind with ⟨e, -, hkind⟩ | ⟨e, -, hkind⟩ | ⟨d, e, -, hcategory, -⟩
  · nomatch hkind
  · nomatch hkind
  · nomatch hcategory

theorem security_still (old new : List SecurityScheme) : Still .parameter (security old new) := by
  refine still_of_kinds fun t s hkind => ?_
  rcases kind_mem_security.mp hkind with ⟨e, -, hkind⟩ | ⟨e, -, hkind⟩
  all_goals nomatch hkind

end Compare

namespace Spec

variable {old new : Spec} {cs ds : List Change}

theorem changes_mirrored (h : old.changes new = .ok cs) (h' : new.changes old = .ok ds)
    {g : Category} (hg : g.Whole) : Mirrored g cs ds := by
  obtain ⟨endpoints, hendpoints, rfl⟩ := changes_eq_ok.mp h
  obtain ⟨endpoints', hendpoints', rfl⟩ := changes_eq_ok.mp h'
  exact ((endpoints_mirrored hg hendpoints hendpoints').append (schemas_mirrored hg _ _)).append
    (security_mirrored _ _)

theorem changes_moves (h : old.changes new = .ok cs) :
    ParameterMoves cs (parametersGained old.endpoints new.endpoints)
      (parametersLost old.endpoints new.endpoints) := by
  obtain ⟨endpoints, hendpoints, rfl⟩ := changes_eq_ok.mp h
  have hmoves := (endpoints_moves hendpoints).append_still (schemas_still old.schemas new.schemas)
  exact hmoves.append_still (security_still old.security new.security)

/-- As many parameters come one way as go the other. -/
theorem parameters_swap (h : old.changes new = .ok cs) (h' : new.changes old = .ok ds) :
    Summary.countOf cs .parameter .added = Summary.countOf ds .parameter .removed := by
  have hgained := (changes_moves h).added
  have hlost := (changes_moves h').removed
  rw [parametersLost_swap] at hlost
  exact congrArg Nat.cast (hgained.trans hlost.symm)

/-- Two versions can be compared either way or not at all. -/
theorem exists_changes_swap (h : ∃ cs, old.changes new = .ok cs) :
    ∃ ds, new.changes old = .ok ds := by
  rw [exists_changes_iff] at h ⊢
  intro d e hpair
  obtain ⟨hremoved, hadded⟩ := h e d hpair.symm
  exact ⟨hadded, hremoved⟩

end Spec

theorem Summary.mirrors_of_changes {old new : Spec} {cs ds : List Change}
    (h : old.changes new = .ok cs) (h' : new.changes old = .ok ds) :
    (ofChanges cs).Mirrors (ofChanges ds) := by
  have hcount : ∀ g : Category, g.Whole → countOf cs g .added = countOf ds g .removed := by
    intro g hg
    rw [countOf_eq_length, countOf_eq_length, (Spec.changes_mirrored h h' hg).added]
  exact ⟨hcount _ (.inl rfl), hcount _ (.inr (.inl rfl)), hcount _ (.inr (.inr rfl)),
    Spec.parameters_swap h h'⟩

/-- Swapping the versions swaps additions and removals: in the counts of the summary, and of whole
entities also in the lists of their places. -/
theorem swapping_versions_swaps_moves {old new : Spec} {d : Difference}
    (h : old.difference new = .ok d) :
    ∃ d', new.difference old = .ok d' ∧ d.summary.Mirrors d'.summary ∧
      d'.summary.Mirrors d.summary ∧
      ∀ g : Category, g.Whole → Mirrored g d.changes d'.changes := by
  obtain ⟨changes, hchanges, rfl⟩ := Spec.difference_eq_ok.mp h
  obtain ⟨changes', hchanges'⟩ := Spec.exists_changes_swap ⟨changes, hchanges⟩
  refine ⟨_, Spec.difference_eq_ok.mpr ⟨changes', hchanges', rfl⟩, ?_, ?_, ?_⟩
  · exact Summary.mirrors_of_changes hchanges hchanges'
  · exact Summary.mirrors_of_changes hchanges' hchanges
  · exact fun g hg => Spec.changes_mirrored hchanges hchanges' hg

def Sample.libraryEndpoint (id path : String) (parameters : List Parameter) : Endpoint :=
  { id, path, method := "GET", parameters }

/-- A library in which the books are listed twice, at two places. -/
def Sample.library : Spec :=
  { name := "library", version := "1", format := .openapi
    endpoints :=
      [Sample.libraryEndpoint "books" "/books" [],
       Sample.libraryEndpoint "loans" "/loans" [Sample.cursor, Sample.tenant],
       Sample.libraryEndpoint "books" "/books/all" [],
       Sample.libraryEndpoint "authors" "/authors" [Sample.cursor]]
    schemas := [{ name := "Book" }, { name := "Loan" }]
    security := [{ name := "token", type := "apiKey" }] }

/-- The library with readers in place of books, and with other parameters. -/
def Sample.libraryOfReaders : Spec :=
  { name := "library", version := "2", format := .openapi
    endpoints :=
      [Sample.libraryEndpoint "authors" "/authors" [],
       Sample.libraryEndpoint "loans" "/loans" [{ name := "page", location := "query" }],
       Sample.libraryEndpoint "readers" "/readers" []]
    schemas := [{ name := "Loan" }, { name := "Reader" }] }

/-- The books come back as one endpoint, at the place of their last entry. -/
theorem books_come_back :
    ∃ d d', Sample.library.difference Sample.libraryOfReaders = .ok d ∧
      Sample.libraryOfReaders.difference Sample.library = .ok d' ∧
      d.summary.Mirrors d'.summary ∧
      d'.summary.parametersAdded = 3 ∧ d'.summary.parametersRemoved = 1 ∧
      pathsOf d'.changes .endpoint .added = ["GET /books/all"] ∧
      pathsOf d'.changes .schema .removed = ["#/components/schemas/Reader"] ∧
      pathsOf d'.changes .security .added = ["#/components/securitySchemes/token"] := by
  have hd : ∃ d, Sample.library.difference Sample.libraryOfReaders = .ok d ∧
      d.summary.parametersRemoved = 3 ∧ d.summary.parametersAdded = 1 ∧
      pathsOf d.changes .endpoint .removed = ["GET /books/all"] ∧
      pathsOf d.changes .schema .added = ["#/components/schemas/Reader"] ∧
      pathsOf d.changes .security .removed = ["#/components/securitySchemes/token"] :=
    ⟨_, rfl, rfl, rfl, rfl, rfl, rfl⟩
  obtain ⟨d, hd, hthree, hone, hbooks, hreader, htoken⟩ := hd
  obtain ⟨d', hd', hmirrors, hmirrors', hpaths⟩ := swapping_versions_swaps_moves hd
  refine ⟨d, d', hd, hd', hmirrors, ?_, ?_, ?_, ?_, ?_⟩
  · exact hmirrors'.parameters.trans hthree
  · exact hmirrors.parameters.symm.trans hone
  · exact (hpaths .endpoint (.inl rfl)).removed.symm.trans hbooks
  · exact (hpaths .schema (.inr (.inl rfl))).added.symm.trans hreader
  · exact (hpaths .security (.inr (.inr rfl))).removed.symm.trans htoken

end ApiDrift
