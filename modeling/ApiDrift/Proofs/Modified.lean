import ApiDrift.Proofs.Scan
import ApiDrift.Proofs.Tally

/-!
# Modified schemas and parameters

Modified schemas and parameters are counted by texts that stand for them. A schema stands under its
name, and where the name is empty each of its changes stands under its own place, so that a schema
without a name counts as often as it has different places of changes. A parameter stands under its
place, which is the label of its endpoint and its own key with an arrow between them: an arrow in a
label or a key can give two parameters one place, and they count once.

What is counted is said here exactly, and so is when it is the number of modified schemas and
parameters. No specification is excluded, nor any name.
-/
namespace ApiDrift
open Compare

/-- The names of common schemas in which some change is found. -/
def modifiedSchemas (old new : Spec) : Set String :=
  keysWhere Schema.name old.schemas new.schemas fun s t => schemaDetails s t ≠ []

/-- The places of the changes in a common schema without a name. -/
def namelessPlaces (old new : Spec) : Set String :=
  {path | ∃ s t, Paired Schema.name old.schemas new.schemas s t ∧ t.name = "" ∧
    ∃ c ∈ schemaDetails s t, c.path = path}

/-- A common parameter of a common endpoint, as the new version has it, in which some change is
found. -/
def ParameterModified (old new : Spec) (e : Endpoint) (q : Parameter) : Prop :=
  ∃ d p, Paired Endpoint.id old.endpoints new.endpoints d e ∧
    Paired Parameter.key d.parameters e.parameters p q ∧ parameterDetails e.label p q ≠ []

/-- The modified parameters with their endpoints. -/
def modifiedSites (old new : Spec) : Set (Endpoint × Parameter) :=
  {site | ParameterModified old new site.1 site.2}

/-- The ids of common endpoints with the keys of their modified parameters. -/
def modifiedParameters (old new : Spec) : Set (String × String) :=
  (fun site => (site.1.id, site.2.key)) '' modifiedSites old new

/-- The places under which modified parameters are reported. -/
def parameterPlaces (old new : Spec) : Set String :=
  (fun site => within site.1.label site.2.key) '' modifiedSites old new

/-- Modified parameters of different endpoints or keys have different places. -/
def PlacesApart (old new : Spec) : Prop :=
  ∀ e q e' q', ParameterModified old new e q → ParameterModified old new e' q' →
    within e.label q.key = within e'.label q'.key → e.id = e'.id ∧ q.key = q'.key

/-! ### Schemas -/

namespace Compare

theorem modifiedSchema?_of_details {s t : Schema} {c : Change} (hc : c ∈ schemaDetails s t) :
    c.modifiedSchema? = some (if t.name = "" then c.path else t.name) := by
  obtain ⟨howner, hcategory⟩ := schemaDetails_detailsOf s t c hc
  rw [Change.modifiedSchema?, if_pos hcategory, Change.entity_of_owner howner]

/-- A modified schema with a name stands under it, one without under the places of its changes. -/
theorem modifiedSchema?_schemas (old new : Spec) :
    {name | name ∈ (schemas old.schemas new.schemas).filterMap Change.modifiedSchema?} =
      (modifiedSchemas old new \ {""}) ∪ namelessPlaces old new := by
  have hwhole : ∀ c : Change, c.category = .schema → c.modifiedSchema? = none := by
    intro c hc
    simp [Change.modifiedSchema?, hc]
  ext name
  rw [Set.mem_ofPred_eq, mem_filterMap_schemas hwhole]
  constructor
  · intro h
    obtain ⟨s, t, hpair, hname⟩ := h
    obtain ⟨c, hc, hname⟩ := List.mem_filterMap.mp hname
    rw [modifiedSchema?_of_details hc, Option.some.injEq] at hname
    by_cases ht : t.name = ""
    · rw [if_pos ht] at hname
      exact .inr ⟨s, t, hpair, ht, c, hc, hname⟩
    · rw [if_neg ht] at hname
      subst hname
      exact .inl ⟨⟨s, t, hpair, rfl, List.ne_nil_of_mem hc⟩, ht⟩
  · intro h
    rcases h with ⟨⟨s, t, hpair, rfl, hne⟩, ht⟩ | ⟨s, t, hpair, ht, c, hc, rfl⟩
    · have hnamed : t.name ≠ "" := ht
      obtain ⟨c, hc⟩ := List.exists_mem_of_ne_nil _ hne
      refine ⟨s, t, hpair, List.mem_filterMap.mpr ⟨c, hc, ?_⟩⟩
      rw [modifiedSchema?_of_details hc, if_neg hnamed]
    · refine ⟨s, t, hpair, List.mem_filterMap.mpr ⟨c, hc, ?_⟩⟩
      rw [modifiedSchema?_of_details hc, if_pos ht]

/-! ### Parameters -/

theorem modifiedParameter?_of_details {base : String} {p q : Parameter} {c : Change}
    (hc : c ∈ parameterDetails base p q) : c.modifiedParameter? = some (within base q.key) := by
  have hfinding := finding_parameterDetails hc
  have htype : c.type = .modified := congrArg Finding.type hfinding
  rw [Change.modifiedParameter?_eq_some, htype]
  exact ⟨congrArg Finding.category hfinding, nofun, nofun, congrArg Finding.path hfinding⟩

theorem mem_modifiedParameter?_parameters {base path : String} {ps qs : List Parameter}
    {cs : List Change} (h : parameters base ps qs = .ok cs) :
    path ∈ cs.filterMap Change.modifiedParameter? ↔
      ∃ p q, Paired Parameter.key ps qs p q ∧ parameterDetails base p q ≠ [] ∧
        within base q.key = path := by
  obtain ⟨removed, added, hremoved, hadded, rfl⟩ := parameters_eq_ok.mp h
  simp only [List.filterMap_append, List.mem_append, List.mem_filterMap, List.mem_flatMap]
  constructor
  · intro hpath
    rcases hpath with (⟨c, hc, hpath⟩ | ⟨c, hc, hpath⟩) | ⟨c, ⟨⟨p, q⟩, hpair, hc⟩, hpath⟩
    · obtain ⟨e, -, he⟩ := (mem_mapM hremoved).mp hc
      have htype : c.type = .removed := congrArg (fun k => k.1) (kind_parameterRemoved he)
      exact absurd htype (Change.modifiedParameter?_eq_some.mp hpath).2.2.1
    · obtain ⟨e, -, he⟩ := (mem_mapM hadded).mp hc
      have htype : c.type = .added := congrArg (fun k => k.1) (kind_parameterAdded he)
      exact absurd htype (Change.modifiedParameter?_eq_some.mp hpath).2.1
    · rw [modifiedParameter?_of_details hc, Option.some.injEq] at hpath
      exact ⟨p, q, mem_common.mp hpair, List.ne_nil_of_mem hc, hpath⟩
  · intro hpath
    obtain ⟨p, q, hpair, hne, rfl⟩ := hpath
    obtain ⟨c, hc⟩ := List.exists_mem_of_ne_nil _ hne
    exact .inr ⟨c, ⟨(p, q), mem_common.mpr hpair, hc⟩, modifiedParameter?_of_details hc⟩

/-- In an endpoint only its parameters give places of modified parameters. -/
theorem modifiedParameter?_details {d e : Endpoint} {cs : List Change}
    (h : endpointDetails d e = .ok cs) :
    ∃ params, parameters e.label d.parameters e.parameters = .ok params ∧
      cs.filterMap Change.modifiedParameter? = params.filterMap Change.modifiedParameter? := by
  obtain ⟨params, hparams, rfl⟩ := endpointDetails_parts h
  have hnone : ∀ {g : Category} {zs : List Change}, DetailsOf e.label g zs → g ≠ .parameter →
      zs.filterMap Change.modifiedParameter? = [] := by
    intro g zs hzs hg
    apply List.filterMap_eq_nil_iff.mpr
    intro c hc
    simp [Change.modifiedParameter?, (hzs c hc).2, hg]
  refine ⟨params, hparams, ?_⟩
  rw [List.filterMap_append, List.filterMap_append, List.filterMap_append,
    hnone (deprecation_detailsOf d e) (by decide), hnone (requestBody_detailsOf _ _ _) (by decide),
    hnone (responses_detailsOf _ _ _) (by decide), List.nil_append, List.append_nil,
    List.append_nil]

/-- The places of modified parameters, of which each is counted once. -/
theorem modifiedParameter?_endpoints {old new : Spec} {es : List Change}
    (h : endpoints old.endpoints new.endpoints = .ok es) :
    {path | path ∈ es.filterMap Change.modifiedParameter?} = parameterPlaces old new := by
  ext path
  rw [Set.mem_ofPred_eq, mem_filterMap_endpoints (fun _ _ => rfl) (fun _ _ => rfl) h]
  constructor
  · intro hpath
    obtain ⟨d, e, zs, hpair, hzs, hpath⟩ := hpath
    obtain ⟨params, hparams, heq⟩ := modifiedParameter?_details hzs
    rw [heq, mem_modifiedParameter?_parameters hparams] at hpath
    obtain ⟨p, q, hkeys, hne, rfl⟩ := hpath
    exact ⟨(e, q), ⟨d, p, hpair, hkeys, hne⟩, rfl⟩
  · intro hpath
    obtain ⟨⟨e, q⟩, ⟨d, p, hpair, hkeys, hne⟩, rfl⟩ := hpath
    obtain ⟨zs, hzs⟩ := exists_endpoints_iff.mp ⟨es, h⟩ d e hpair
    obtain ⟨params, hparams, heq⟩ := modifiedParameter?_details hzs
    refine ⟨d, e, zs, hpair, hzs, ?_⟩
    rw [heq, mem_modifiedParameter?_parameters hparams]
    exact ⟨p, q, hkeys, hne, rfl⟩

/-! ### The counts -/

theorem path_ne_empty_of_schemaDetails {s t : Schema} {c : Change} (hc : c ∈ schemaDetails s t) :
    c.path ≠ "" := by
  have hplace : ∃ name, c.path = schemaPath t.name ++ "/" ++ name := by
    simp only [schemaDetails, List.mem_append, List.mem_map, List.mem_flatMap] at hc
    rcases hc with (⟨e, -, rfl⟩ | ⟨e, -, rfl⟩) | ⟨pair, -, hc⟩
    · exact ⟨_, rfl⟩
    · exact ⟨_, rfl⟩
    · exact ⟨_, congrArg Finding.path (finding_propertyDetails hc)⟩
  obtain ⟨name, hname⟩ := hplace
  intro hempty
  have hlength := congrArg String.length (hname.symm.trans hempty)
  simp at hlength

/-- One member of a set is replaced by others: their number is kept where one of them is new. -/
theorem ncard_replaced_iff {β : Type} {A N : Set β} {a : β} (hA : A.Finite) (hN : N.Finite)
    (ha : a ∉ N) (hnone : a ∉ A → N = ∅) :
    ((A \ {a}) ∪ N).ncard = A.ncard ↔ (a ∈ A → (N \ A).ncard = 1) := by
  by_cases hmem : a ∈ A
  · -- What `N` shares with `A` is counted there already, and `a` is not shared.
    have hunion : (A \ {a}) ∪ N = (A \ {a}) ∪ (N \ A) := by
      ext x
      by_cases hx : x = a
      · simp [hx, hmem, ha]
      · simp only [Set.mem_union, Set.mem_sdiff, Set.mem_singleton_iff, hx, not_false_eq_true,
          and_true]
        tauto
    have hdisjoint : Disjoint (A \ {a}) (N \ A) := by
      apply Set.disjoint_left.mpr
      intro x hx hx'
      exact hx'.2 hx.1
    have hsum : ((A \ {a}) ∪ (N \ A)).ncard = (A \ {a}).ncard + (N \ A).ncard :=
      Set.ncard_union_eq hdisjoint hA.sdiff hN.sdiff
    have hone : (A \ {a}).ncard + 1 = A.ncard := Set.ncard_sdiff_singleton_add_one hmem hA
    rw [hunion, hsum]
    constructor
    · intro h _
      omega
    · intro h
      have hnew := h hmem
      omega
  · simp [hnone hmem, hmem]

end Compare

section
variable {old new : Spec}

theorem modifiedSchemas_finite : (modifiedSchemas old new).Finite := by
  apply (List.finite_toSet (new.schemas.map Schema.name)).subset
  intro name hname
  obtain ⟨s, t, hpair, rfl, -⟩ := hname
  exact List.mem_map_of_mem hpair.2.1.mem

theorem namelessPlaces_finite : (namelessPlaces old new).Finite := by
  have hlist := List.finite_toSet
    ((schemas old.schemas new.schemas).filterMap Change.modifiedSchema?)
  apply hlist.subset
  rw [modifiedSchema?_schemas]
  exact Set.subset_union_right

theorem empty_notMem_namelessPlaces : "" ∉ namelessPlaces old new := by
  intro h
  obtain ⟨s, t, -, -, c, hc, hpath⟩ := h
  exact path_ne_empty_of_schemaDetails hc hpath

theorem namelessPlaces_eq_empty (h : "" ∉ modifiedSchemas old new) :
    namelessPlaces old new = ∅ := by
  apply Set.eq_empty_of_forall_notMem
  intro path hpath
  obtain ⟨s, t, hpair, ht, c, hc, -⟩ := hpath
  exact h ⟨s, t, hpair, ht, List.ne_nil_of_mem hc⟩

theorem modifiedSites_finite : (modifiedSites old new).Finite := by
  have hlist := List.finite_toSet
    (new.endpoints.flatMap fun e => e.parameters.map fun q => (e, q))
  apply hlist.subset
  intro site hsite
  obtain ⟨d, p, hpair, hkeys, -⟩ := hsite
  exact List.mem_flatMap.mpr ⟨site.1, hpair.2.1.mem, List.mem_map_of_mem hkeys.2.1.mem⟩

theorem injOn_site :
    Set.InjOn (fun site => (site.1.id, site.2.key)) (modifiedSites old new) := by
  intro site hsite site' hsite' heq
  obtain ⟨e, q⟩ := site
  obtain ⟨e', q'⟩ := site'
  obtain ⟨d, p, hpair, hkeys, -⟩ := hsite
  obtain ⟨d', p', hpair', hkeys', -⟩ := hsite'
  have he : e = e' := hpair.2.1.unique hpair'.2.1 (congrArg Prod.fst heq)
  subst he
  have hq : q = q' := hkeys.2.1.unique hkeys'.2.1 (congrArg Prod.snd heq)
  subst hq
  rfl

theorem ncard_modifiedParameters :
    (modifiedParameters old new).ncard = (modifiedSites old new).ncard :=
  injOn_site.ncard_image

theorem ncard_parameterPlaces_le :
    (parameterPlaces old new).ncard ≤ (modifiedParameters old new).ncard := by
  rw [ncard_modifiedParameters]
  exact Set.ncard_image_le modifiedSites_finite

/-- Places are as many as parameters exactly where they tell them apart. -/
theorem ncard_parameterPlaces_eq_iff :
    (parameterPlaces old new).ncard = (modifiedParameters old new).ncard ↔
      PlacesApart old new := by
  rw [ncard_modifiedParameters, parameterPlaces, Set.ncard_image_iff modifiedSites_finite]
  constructor
  · intro h e q e' q' hmodified hmodified' heq
    have hsite : (e, q) = (e', q') := h hmodified hmodified' heq
    cases hsite
    exact ⟨rfl, rfl⟩
  · intro h site hsite site' hsite' heq
    obtain ⟨hid, hkey⟩ := h _ _ _ _ hsite hsite' heq
    exact injOn_site hsite hsite' (Prod.ext hid hkey)

/-- The part of a place up to its first arrow is the label, where labels have no arrow. -/
theorem within_inj {base base' key key' : String} (hbase : '>' ∉ base.toList)
    (hbase' : '>' ∉ base'.toList) (h : within base key = within base' key') :
    base = base' ∧ key = key' := by
  have hchars : (base.toList ++ [' ', '-']) ++ '>' :: ' ' :: key.toList =
      (base'.toList ++ [' ', '-']) ++ '>' :: ' ' :: key'.toList := by
    simpa [within] using congrArg String.toList h
  have hfront : '>' ∉ base.toList ++ [' ', '-'] := by simp [hbase]
  have hfront' : '>' ∉ base'.toList ++ [' ', '-'] := by simp [hbase']
  obtain ⟨hlabel, hkey⟩ := Text.append_cons_inj hfront hfront' hchars
  exact ⟨String.toList_inj.mp (List.append_cancel_right hlabel),
    String.toList_inj.mp ((List.cons_inj_right ' ').mp hkey)⟩

theorem placesApart_of_noArrow (hlabels : LabelsApart old.endpoints new.endpoints)
    (harrow : ∀ e ∈ new.endpoints, '>' ∉ e.label.toList) : PlacesApart old new := by
  intro e q e' q' hmodified hmodified' heq
  obtain ⟨d, p, hpair, -⟩ := hmodified
  obtain ⟨d', p', hpair', -⟩ := hmodified'
  obtain ⟨hlabel, hkey⟩ := within_inj (harrow e hpair.2.1.mem) (harrow e' hpair'.2.1.mem) heq
  exact ⟨hlabels d e d' e' hpair hpair' hlabel, hkey⟩

variable {d : Difference} (h : old.difference new = .ok d)
include h

theorem schemasModified_eq :
    d.summary.schemasModified =
      ((modifiedSchemas old new \ {""}) ∪ namelessPlaces old new).ncard := by
  obtain ⟨changes, hchanges, rfl⟩ := Spec.difference_eq_ok.mp h
  obtain ⟨es, hes, rfl⟩ := Spec.changes_eq_ok.mp hchanges
  have hnames := filterMap_changes_schemas (fun _ _ => Change.home_of_modifiedSchema?) hes
  have hcount := countDistinct_eq_ncard
    ((schemas old.schemas new.schemas).filterMap Change.modifiedSchema?)
  rw [modifiedSchema?_schemas, ← hnames] at hcount
  exact congrArg Nat.cast hcount

theorem parametersModified_eq :
    d.summary.parametersModified = (parameterPlaces old new).ncard := by
  obtain ⟨changes, hchanges, rfl⟩ := Spec.difference_eq_ok.mp h
  obtain ⟨es, hes, rfl⟩ := Spec.changes_eq_ok.mp hchanges
  have hpaths :=
    filterMap_changes_endpoints (fun _ _ => Change.home_of_modifiedParameter?) es old new
  have hcount := countDistinct_eq_ncard (es.filterMap Change.modifiedParameter?)
  rw [modifiedParameter?_endpoints hes, ← hpaths] at hcount
  exact congrArg Nat.cast hcount

end

/-- A modified schema with a name is counted once; one without a name is counted by the places of
its changes, so that the count is right exactly where there is none or its places add one text to
the names. A modified parameter is counted once or together with others at its place: the count is
never too high, and it is right exactly where places are apart, as they are where labels are and
have no arrow. -/
theorem modified_counted_by_text {old new : Spec} {d : Difference}
    (h : old.difference new = .ok d) :
    d.summary.schemasModified =
        ((modifiedSchemas old new \ {""}) ∪ namelessPlaces old new).ncard ∧
      (d.summary.schemasModified = (modifiedSchemas old new).ncard ↔
        ("" ∈ modifiedSchemas old new →
          (namelessPlaces old new \ modifiedSchemas old new).ncard = 1)) ∧
      d.summary.parametersModified ≤ (modifiedParameters old new).ncard ∧
      (d.summary.parametersModified = (modifiedParameters old new).ncard ↔
        PlacesApart old new) ∧
      (LabelsApart old.endpoints new.endpoints →
        (∀ e ∈ new.endpoints, '>' ∉ e.label.toList) → PlacesApart old new) := by
  have hschemas := schemasModified_eq h
  have hparameters := parametersModified_eq h
  refine ⟨hschemas, ?_, ?_, ?_, placesApart_of_noArrow⟩
  · rw [hschemas, Nat.cast_inj]
    apply ncard_replaced_iff modifiedSchemas_finite namelessPlaces_finite
    · exact empty_notMem_namelessPlaces
    · exact namelessPlaces_eq_empty
  · rw [hparameters]
    exact_mod_cast ncard_parameterPlaces_le
  · rw [hparameters, Nat.cast_inj, ncard_parameterPlaces_eq_iff]

/-- A parameter of a query. -/
def Sample.query (name type : String) : Parameter := { name, location := "query", type }

/-- A schema without a name, and two parameters at one place. -/
def Sample.arrows (type : String) : Spec :=
  { name := "arrows", version := "1", format := .openapi
    endpoints :=
      [Sample.libraryEndpoint "x" "/x" [Sample.query "a -> query:b" type],
       Sample.libraryEndpoint "xa" "/x -> query:a" [Sample.query "b" type]]
    schemas := [{ name := "", properties := [{ name := "a", type }, { name := "b", type }] }] }

/-- Everything is retyped: the one schema counts twice, the two parameters count once. -/
theorem arrows_miscounted :
    (Sample.arrows "string").Distinct ∧ (Sample.arrows "integer").Distinct ∧
      ∃ d, (Sample.arrows "string").difference (Sample.arrows "integer") = .ok d ∧
        d.summary.schemasModified ≠
          (modifiedSchemas (Sample.arrows "string") (Sample.arrows "integer")).ncard ∧
        d.summary.parametersModified <
          (modifiedParameters (Sample.arrows "string") (Sample.arrows "integer")).ncard := by
  have hold : (Sample.arrows "string").Distinct := by decide +kernel
  have hnew : (Sample.arrows "integer").Distinct := by decide +kernel
  have hd : ∃ d, (Sample.arrows "string").difference (Sample.arrows "integer") = .ok d ∧
      d.summary.schemasModified = 2 := ⟨_, rfl, rfl⟩
  obtain ⟨d, hd, htwo⟩ := hd
  obtain ⟨-, -, hle, hiff, -⟩ := modified_counted_by_text hd
  refine ⟨hold, hnew, d, hd, ?_, ?_⟩
  · -- The only schema there is has no name.
    have hsub : modifiedSchemas (Sample.arrows "string") (Sample.arrows "integer") ⊆ {""} := by
      intro name hname
      obtain ⟨s, t, hpair, rfl, -⟩ := hname
      have ht := hpair.2.1.mem
      simp only [Sample.arrows, List.mem_singleton] at ht
      rw [ht]
      rfl
    have hone := Set.ncard_le_ncard hsub
    rw [Set.ncard_singleton] at hone
    omega
  · have hmodified : ∀ id path name,
        Sample.libraryEndpoint id path [Sample.query name "string"] ∈
          (Sample.arrows "string").endpoints →
        Sample.libraryEndpoint id path [Sample.query name "integer"] ∈
          (Sample.arrows "integer").endpoints →
        ParameterModified (Sample.arrows "string") (Sample.arrows "integer")
          (Sample.libraryEndpoint id path [Sample.query name "integer"])
          (Sample.query name "integer") := by
      intro id path name he he'
      refine ⟨_, Sample.query name "string", ⟨stands_of_nodup hold.endpointIds he,
        stands_of_nodup hnew.endpointIds he', rfl⟩, ?_, ?_⟩
      · exact ⟨⟨[], [], rfl, by simp⟩, ⟨[], [], rfl, by simp⟩, rfl⟩
      · simp [parameterDetails, Sample.query]
    -- Both are found at `GET /x -> query:a -> query:b`.
    have hx := hmodified "x" "/x" "a -> query:b" List.mem_cons_self List.mem_cons_self
    have hxa := hmodified "xa" "/x -> query:a" "b" (by simp [Sample.arrows])
      (by simp [Sample.arrows])
    have hplaces : ¬ PlacesApart (Sample.arrows "string") (Sample.arrows "integer") := by
      intro hapart
      have hids := (hapart _ _ _ _ hx hxa (by decide)).1
      simp [Sample.libraryEndpoint] at hids
    apply lt_of_le_of_ne hle
    intro heq
    exact hplaces (hiff.mp heq)

end ApiDrift
