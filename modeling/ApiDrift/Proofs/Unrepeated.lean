import ApiDrift.Proofs.Sequence
import ApiDrift.Proofs.Tally

/-!
# No change is reported twice

Whatever comes or goes is told apart by its key, which is the value that the change shows or, of a
parameter, the end of its path. Details of one entity are told apart by category, type, path and
wording, and those of two entities by their owner: a common endpoint is known by its label then, so
that labels must be different where ids are. Content types are a list without keys, and one that the
old body lists twice is reported twice.

Nothing is asked of keys. Of the items that share one, only one is compared.
-/
namespace ApiDrift
open Compare

namespace Compare

section
variable {α β : Type} {key : α → String} {old new : List α} {cs ds : List Change}

/-- Changes that show texts which are not repeated are not repeated. -/
theorem nodup_of_tags {entries : Keyed α} {tag : Change → β} {shown : String → β}
    (hshown : shown.Injective) (hkeys : (entries.map Prod.fst).Nodup)
    (htags : cs.map tag = entries.map fun e => shown e.1) : cs.Nodup := by
  apply List.Nodup.of_map tag
  have hmap : entries.map (fun e => shown e.1) = (entries.map Prod.fst).map shown :=
    List.map_map.symm
  rw [htags, hmap]
  exact hkeys.map hshown

theorem disjoint_of_tags {tag : Change → β} {s t : β} (hcs : ∀ c ∈ cs, tag c = s)
    (hds : ∀ c ∈ ds, tag c = t) (hst : s ≠ t) : cs.Disjoint ds := by
  intro c hc hd
  exact hst ((hcs c hc).symm.trans (hds c hd))

/-! ### Keyed differences -/

/-- All changes of a list are of one category and type. -/
def Moves (g : Category) (t : ChangeType) (cs : List Change) : Prop :=
  ∀ c ∈ cs, c.category = g ∧ c.type = t

/-- What goes, what comes and what does neither. -/
theorem nodup_of_moves {g : Category} {removed added rest : List Change}
    (hremoved : removed.Nodup) (hadded : added.Nodup) (hrest : rest.Nodup)
    (hgone : Moves g .removed removed) (hcome : Moves g .added added) (hstill : Still g rest) :
    (removed ++ added ++ rest).Nodup := by
  have hapart : removed.Disjoint added :=
    disjoint_of_tags (fun c hc => (hgone c hc).2) (fun c hc => (hcome c hc).2) (by decide)
  refine (hremoved.append hadded hapart).append hrest ?_
  apply List.disjoint_append_left.mpr
  constructor
  · intro c hc hd
    exact (hstill c hd (hgone c hc).1).2 (hgone c hc).2
  · intro c hc hd
    exact (hstill c hd (hcome c hc).1).1 (hcome c hc).2

/-- What goes and what comes shows its key as a value. -/
theorem nodup_shown {g : Category} {f f' : String × α → Change} {rest : List Change}
    (hf : ∀ e, (f e).category = g ∧ (f e).type = .removed ∧ (f e).oldValue = some e.1)
    (hf' : ∀ e, (f' e).category = g ∧ (f' e).type = .added ∧ (f' e).newValue = some e.1)
    (hrest : rest.Nodup) (hstill : Still g rest) :
    ((split key old new).removed.map f ++ (split key old new).added.map f' ++ rest).Nodup := by
  have hremoved : ((split key old new).removed.map f).map Change.oldValue =
      (split key old new).removed.map fun e => some e.1 := by
    rw [List.map_map]
    exact List.map_congr_left fun e _ => (hf e).2.2
  have hadded : ((split key old new).added.map f').map Change.newValue =
      (split key old new).added.map fun e => some e.1 := by
    rw [List.map_map]
    exact List.map_congr_left fun e _ => (hf' e).2.2
  apply nodup_of_moves
  · exact nodup_of_tags (Option.some_injective _) (nodup_keys_without key old new) hremoved
  · exact nodup_of_tags (Option.some_injective _) (nodup_keys_without key new old) hadded
  · exact hrest
  · exact List.forall_mem_map.mpr fun e _ => ⟨(hf e).1, (hf e).2.1⟩
  · exact List.forall_mem_map.mpr fun e _ => ⟨(hf' e).1, (hf' e).2.1⟩
  · exact hstill

theorem nodup_flatMapChecked {γ ε : Type} {f : γ → Except ε (List Change)} {xs : List γ}
    (h : flatMapChecked f xs = .ok cs) (hparts : ∀ x ∈ xs, ∀ zs, f x = .ok zs → zs.Nodup)
    (hapart : xs.Pairwise fun x y => ∀ zs ws, f x = .ok zs → f y = .ok ws → zs.Disjoint ws) :
    cs.Nodup := by
  induction xs generalizing cs with
  | nil =>
    cases h
    exact List.nodup_nil
  | cons x xs ih =>
    rw [List.forall_mem_cons] at hparts
    rw [List.pairwise_cons] at hapart
    obtain ⟨zs, hzs, h⟩ := bind_eq_ok.mp h
    obtain ⟨ws, hws, h⟩ := bind_eq_ok.mp h
    cases h
    refine (hparts.1 zs hzs).append (ih hws hparts.2 hapart.2) ?_
    intro c hc hd
    obtain ⟨y, hy, us, hus, hcus⟩ := (mem_flatMapChecked hws).mp hd
    exact hapart.1 y hy zs us hzs hus hc hcus

/-- The details of common items are not repeated where a change tells the key of its item. -/
theorem nodup_details {ε : Type} {f : α → α → Except ε (List Change)}
    (h : flatMapChecked (fun pair => f pair.1 pair.2) (split key old new).common = .ok cs)
    (hparts : ∀ x y, Paired key old new x y → ∀ zs, f x y = .ok zs → zs.Nodup)
    (htells : ∀ x y x' y', Paired key old new x y → Paired key old new x' y' →
      ∀ zs ws, f x y = .ok zs → f x' y' = .ok ws → ∀ c ∈ zs, c ∈ ws → key y = key y') :
    cs.Nodup := by
  apply nodup_flatMapChecked h
  · intro pair hpair zs hzs
    exact hparts _ _ (mem_common.mp hpair) zs hzs
  · apply (List.pairwise_map.mp (nodup_keys_common key old new)).imp_of_mem
    intro pair pair' hpair hpair' hne zs ws hzs hws c hc hd
    exact hne (htells _ _ _ _ (mem_common.mp hpair) (mem_common.mp hpair') zs ws hzs hws c hc hd)

/-- The same where nothing can fail, and where a change tells the key of any item. -/
theorem nodup_flatMap_details {f : α → α → List Change} (hparts : ∀ x y, (f x y).Nodup)
    (htells : ∀ x y x' y', ∀ c ∈ f x y, c ∈ f x' y' → key y = key y') :
    ((split key old new).common.flatMap fun pair => f pair.1 pair.2).Nodup := by
  apply nodup_details (f := fun x y => (.ok (f x y) : Except Empty _)) (flatMapChecked_ok _ _)
  · intro x y _ zs hzs
    cases hzs
    exact hparts x y
  · intro x y x' y' _ _ zs ws hzs hws
    cases hzs
    cases hws
    exact htells x y x' y'

theorem nodup_ite_append {p q : Prop} [Decidable p] [Decidable q] {c d : Change} (h : c ≠ d) :
    ((if p then [c] else []) ++ if q then [d] else []).Nodup := by
  split_ifs <;> simp [h]

end

/-! ### Endpoints -/

theorem disjoint_of_detailsOf {owner owner' : String} {g g' : Category} {cs ds : List Change}
    (h : DetailsOf owner g cs) (h' : DetailsOf owner' g' ds) (hg : g ≠ g') : cs.Disjoint ds :=
  disjoint_of_tags (fun c hc => (h c hc).2) (fun c hc => (h' c hc).2) hg

section
variable {base : String}

theorem deprecation_nodup (d e : Endpoint) : (deprecation d e).Nodup := by
  rw [deprecation]
  split_ifs <;> simp

theorem within_injective (base : String) : (within base).Injective :=
  fun _ _ => (String.append_right_inj _).mp

theorem parameterDetails_nodup (base : String) (p q : Parameter) :
    (parameterDetails base p q).Nodup := by
  apply nodup_ite_append
  intro h
  -- The wordings differ before any name or type of the parameter comes in.
  have hchars := congrArg (fun c => c.description.toList) h
  simp at hchars

/-- Parameters that are shown one by one show their keys in the paths. -/
theorem nodup_of_mapM {t : ChangeType} {severity : Parameter → Severity}
    {f : String → Parameter → Except PlainFault Change}
    (hf : ∀ k p c, f k p = .ok c →
      c.finding = ⟨t, .parameter, severity p, within base k, some base⟩)
    {entries : Keyed Parameter} (hkeys : (entries.map Prod.fst).Nodup) {cs : List Change}
    (h : entries.mapM (fun e => f e.1 e.2) = .ok cs) : cs.Nodup ∧ Moves .parameter t cs := by
  have hpaths : cs.map Change.path = entries.map fun e => within base e.1 :=
    map_of_mapM h fun e _ c hc => congrArg Finding.path (hf e.1 e.2 c hc)
  refine ⟨nodup_of_tags (within_injective base) hkeys hpaths, fun c hc => ?_⟩
  obtain ⟨e, -, he⟩ := (mem_mapM h).mp hc
  have hfinding := hf e.1 e.2 c he
  exact ⟨congrArg Finding.category hfinding, congrArg Finding.type hfinding⟩

theorem parameters_nodup {ps qs : List Parameter} {cs : List Change}
    (h : parameters base ps qs = .ok cs) : cs.Nodup := by
  obtain ⟨removed, added, hremoved, hadded, rfl⟩ := parameters_eq_ok.mp h
  obtain ⟨hremoved, hgone⟩ := nodup_of_mapM (f := parameterRemoved base)
    (fun _ _ _ => finding_parameterRemoved) (nodup_keys_without Parameter.key ps qs) hremoved
  obtain ⟨hadded, hcome⟩ := nodup_of_mapM (f := parameterAdded base)
    (fun _ _ _ => finding_parameterAdded) (nodup_keys_without Parameter.key qs ps) hadded
  refine nodup_of_moves hremoved hadded (nodup_flatMap_details ?_ ?_) hgone hcome ?_
  · exact parameterDetails_nodup base
  · intro p q p' q' c hc hc'
    have hfinding := (finding_parameterDetails hc).symm.trans (finding_parameterDetails hc')
    exact within_injective base (congrArg Finding.path hfinding)
  · exact still_of_modified fun _ _ _ hc => congrArg Finding.type (finding_parameterDetails hc)

theorem bodyDetails_nodup (base : String) {a : RequestBody} (b : RequestBody)
    (ha : a.contentTypes.Nodup) : (bodyDetails base a b).Nodup := by
  -- A body that is demanded is modified, while a content type that goes is removed.
  refine List.Nodup.append ?_ ((ha.filter _).map ?_) ?_
  · split_ifs <;> simp
  · intro t t' h
    exact (String.append_right_inj _).mp (congrArg Change.description h)
  · intro c hc hd
    rw [List.mem_ite_nil_right, List.mem_singleton] at hc
    obtain ⟨-, rfl⟩ := hc
    obtain ⟨t, -, ht⟩ := List.mem_map.mp hd
    nomatch congrArg Change.type ht

theorem requestBody_nodup (base : String) (a b : Option RequestBody)
    (ha : ∀ body ∈ a, body.contentTypes.Nodup) : (requestBody base a b).Nodup := by
  cases a with
  | none =>
    cases b with
    | none => exact List.nodup_nil
    | some b => exact List.nodup_singleton _
  | some a =>
    cases b with
    | none => exact List.nodup_singleton _
    | some b => exact bodyDetails_nodup base b (ha a rfl)

theorem responses_nodup (base : String) (rs ss : List Response) : (responses base rs ss).Nodup := by
  rw [responses, ← List.append_nil (_ ++ _)]
  apply nodup_shown (g := .response)
  · exact fun e => ⟨rfl, rfl, rfl⟩
  · exact fun e => ⟨rfl, rfl, rfl⟩
  · exact List.nodup_nil
  · exact List.forall_mem_nil _

/-- The parts of an endpoint are told apart by their categories. -/
theorem endpointDetails_nodup {d e : Endpoint} {cs : List Change}
    (htypes : ∀ body ∈ d.requestBody, body.contentTypes.Nodup)
    (h : endpointDetails d e = .ok cs) : cs.Nodup := by
  obtain ⟨params, hparams, rfl⟩ := endpointDetails_parts h
  have hdeprecation := deprecation_detailsOf d e
  have hparameters := parameters_detailsOf hparams
  have hbody := requestBody_detailsOf e.label d.requestBody e.requestBody
  have hresponses := responses_detailsOf e.label d.responses e.responses
  have hwhole : (deprecation d e ++ params).Nodup :=
    (deprecation_nodup d e).append (parameters_nodup hparams)
      (disjoint_of_detailsOf hdeprecation hparameters (by decide))
  have hbodies : (deprecation d e ++ params ++
      requestBody e.label d.requestBody e.requestBody).Nodup := by
    refine hwhole.append (requestBody_nodup e.label _ _ htypes) ?_
    apply List.disjoint_append_left.mpr
    exact ⟨disjoint_of_detailsOf hdeprecation hbody (by decide),
      disjoint_of_detailsOf hparameters hbody (by decide)⟩
  refine hbodies.append (responses_nodup e.label _ _) ?_
  simp only [List.disjoint_append_left]
  exact ⟨⟨disjoint_of_detailsOf hdeprecation hresponses (by decide),
    disjoint_of_detailsOf hparameters hresponses (by decide)⟩,
    disjoint_of_detailsOf hbody hresponses (by decide)⟩

/-- Endpoints that are told apart by their labels own different changes. -/
theorem endpoints_nodup {old new : List Endpoint} {cs : List Change}
    (h : endpoints old new = .ok cs) (hlabels : LabelsApart old new)
    (htypes : ∀ e ∈ old, ∀ body ∈ e.requestBody, body.contentTypes.Nodup) : cs.Nodup := by
  obtain ⟨details, hdetails, rfl⟩ := endpoints_eq_ok.mp h
  apply nodup_shown (g := .endpoint)
  · exact fun e => ⟨rfl, rfl, rfl⟩
  · exact fun e => ⟨rfl, rfl, rfl⟩
  · apply nodup_details hdetails
    · intro d e hpair zs hzs
      exact endpointDetails_nodup (htypes d hpair.1.mem) hzs
    · intro d e d' e' hpair hpair' zs ws hzs hws c hc hd
      have howner := owner_of_endpointDetails hzs hc
      rw [owner_of_endpointDetails hws hd] at howner
      exact hlabels _ _ _ _ hpair hpair' (Option.some.inj howner).symm
  · exact commonEndpoints_still (.inl rfl) hdetails

end

/-! ### Schemas and security schemes -/

theorem propertyDetails_nodup (s t : Schema) (p q : Property) :
    (propertyDetails s t p q).Nodup := by
  apply nodup_ite_append
  intro h
  have hchars := congrArg (fun c => c.description.toList) h
  simp at hchars

theorem schemaDetails_nodup (s t : Schema) : (schemaDetails s t).Nodup := by
  apply nodup_shown (g := .schemaProperty)
  · exact fun e => ⟨rfl, rfl, rfl⟩
  · exact fun e => ⟨rfl, rfl, rfl⟩
  · apply nodup_flatMap_details (propertyDetails_nodup s t)
    intro p q p' q' c hc hc'
    have hfinding := (finding_propertyDetails hc).symm.trans (finding_propertyDetails hc')
    exact (String.append_right_inj _).mp (congrArg Finding.path hfinding)
  · exact still_of_modified fun _ _ _ hc => congrArg Finding.type (finding_propertyDetails hc)

theorem schemas_nodup (old new : List Schema) : (schemas old new).Nodup := by
  apply nodup_shown (g := .schema)
  · exact fun e => ⟨rfl, rfl, rfl⟩
  · exact fun e => ⟨rfl, rfl, rfl⟩
  · apply nodup_flatMap_details schemaDetails_nodup
    intro s t s' t' c hc hc'
    have howner := (schemaDetails_detailsOf s t c hc).1
    rw [(schemaDetails_detailsOf s' t' c hc').1] at howner
    exact (Option.some.inj howner).symm
  · exact commonSchemas_still (.inr (.inl rfl)) _

theorem security_nodup (old new : List SecurityScheme) : (security old new).Nodup := by
  rw [security, ← List.append_nil (_ ++ _)]
  apply nodup_shown (g := .security)
  · exact fun e => ⟨rfl, rfl, rfl⟩
  · exact fun e => ⟨rfl, rfl, rfl⟩
  · exact List.nodup_nil
  · exact List.forall_mem_nil _

theorem changes_nodup {old new : Spec} {cs : List Change} (h : old.changes new = .ok cs)
    (hlabels : LabelsApart old.endpoints new.endpoints)
    (htypes : ∀ e ∈ old.endpoints, ∀ body ∈ e.requestBody, body.contentTypes.Nodup) :
    cs.Nodup := by
  obtain ⟨es, hes, rfl⟩ := Spec.changes_eq_ok.mp h
  have hendpoints := endpoints_allOf hes
  have hschemas := schemas_allOf old.schemas new.schemas
  have hsecurity := security_allOf old.security new.security
  refine ((endpoints_nodup hes hlabels htypes).append (schemas_nodup _ _) ?_).append
    (security_nodup _ _) (List.disjoint_append_left.mpr ⟨?_, ?_⟩)
  · exact disjoint_of_tags hendpoints hschemas (by decide)
  · exact disjoint_of_tags hendpoints hsecurity (by decide)
  · exact disjoint_of_tags hschemas hsecurity (by decide)

end Compare

/-- Each comparison of two lists tells what goes, what comes and what changed, for one key after
the other in the order in which the keys are met first, and of the last items that have them. No
change is told twice where no label is shared and no content type of an old body is repeated. -/
theorem keyed_differences_in_order :
    ReportsInOrder Endpoint.id endpointReporter endpoints ∧
      (∀ base, ReportsInOrder Parameter.key (parameterReporter base) (parameters base)) ∧
      (ReportsInOrder Schema.name schemaReporter fun old new => .ok (schemas old new)) ∧
      (∀ base, ReportsInOrder Response.statusCode (responseReporter base)
        fun old new => .ok (responses base old new)) ∧
      (ReportsInOrder SecurityScheme.name securityReporter
        fun old new => .ok (security old new)) ∧
      ∀ (old new : Spec) (d : Difference), old.difference new = .ok d →
        LabelsApart old.endpoints new.endpoints →
        (∀ e ∈ old.endpoints, ∀ b ∈ e.requestBody, b.contentTypes.Nodup) → d.changes.Nodup := by
  refine ⟨endpoints_in_order, parameters_in_order, schemas_in_order, responses_in_order,
    security_in_order, ?_⟩
  intro old new d h hlabels htypes
  obtain ⟨changes, hchanges, rfl⟩ := Spec.difference_eq_ok.mp h
  exact changes_nodup hchanges hlabels htypes

/-- A specification of endpoints that are got, given by ids and paths. -/
def Sample.pages (endpoints : List (String × String)) : Spec :=
  { name := "pages", version := "1", format := .openapi
    endpoints := endpoints.map fun e => { id := e.1, path := e.2, method := "GET" } }

/-- Both versions have ids twice: the place is that of the first, the path that of the last. -/
theorem repeated_pages_in_order :
    let old := Sample.pages [("mail", "/mail"), ("help", "/help"), ("mail", "/letters")]
    let new := Sample.pages [("chat", "/chat"), ("news", "/news"), ("chat", "/talk")]
    ∃ d, old.difference new = .ok d ∧
      d.changes.map Change.path = ["GET /letters", "GET /help", "GET /talk", "GET /news"] ∧
      d.changes.Nodup ∧
      ∃ gone come kept, Arranged Endpoint.id old.endpoints new.endpoints gone come kept ∧
        endpoints old.endpoints new.endpoints = endpointReporter.report gone come kept := by
  intro old new
  have hd : ∃ d, old.difference new = .ok d ∧
      d.changes.map Change.path = ["GET /letters", "GET /help", "GET /talk", "GET /news"] :=
    ⟨_, rfl, by decide +kernel⟩
  obtain ⟨d, hd, hpaths⟩ := hd
  obtain ⟨horder, -, -, -, -, honce⟩ := keyed_differences_in_order
  refine ⟨d, hd, hpaths, honce old new d hd ?_ ?_, horder old.endpoints new.endpoints⟩
  · exact .of_nodup (by decide +kernel)
  · decide +kernel

end ApiDrift
