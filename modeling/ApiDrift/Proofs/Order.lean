import ApiDrift.Proofs.Findings
import ApiDrift.Proofs.Related
import Mathlib.Data.List.Perm.Basic

/-!
# The order of documents

Specifications without repeated keys can list their entities in any order, at every level: the same
changes are found, in an order of their own, and the verdict is the same. At the lowest level the
lists are permuted and the keyed differences with them. An endpoint or schema that is moved may be
reordered inside as well, so there a permutation is followed by a change of the items in place.

Content types may be repeated: each is looked up on the other side by itself.
-/
namespace ApiDrift
open Compare

inductive RequestBody.Reordered (b : RequestBody) : RequestBody → Prop
  | intro {ts : List String} : b.contentTypes.Perm ts → Reordered b { b with contentTypes := ts }

inductive Endpoint.Reordered (e : Endpoint) : Endpoint → Prop
  | intro {ps : List Parameter} {body : Option RequestBody} {rs : List Response} :
      e.parameters.Perm ps → Option.Rel RequestBody.Reordered e.requestBody body →
      e.responses.Perm rs →
      Reordered e { e with parameters := ps, requestBody := body, responses := rs }

inductive Schema.Reordered (s : Schema) : Schema → Prop
  | intro {ps : List Property} {required : List String} : s.properties.Perm ps →
      s.required.Perm required → Reordered s { s with properties := ps, required }

/-- The items of a list in another order, and each of them changed. -/
def Rearranged {α : Type} (R : α → α → Prop) (xs ys : List α) : Prop :=
  ∃ zs, xs.Perm zs ∧ List.Forall₂ R zs ys

/-- The same specification with each of its lists in another order. -/
inductive Spec.Reordered (s : Spec) : Spec → Prop
  | intro {es : List Endpoint} {ss : List Schema} {ds : List SecurityScheme} :
      Rearranged Endpoint.Reordered s.endpoints es → Rearranged Schema.Reordered s.schemas ss →
      s.security.Perm ds → Reordered s { s with endpoints := es, schemas := ss, security := ds }

structure Endpoint.DistinctKeys (e : Endpoint) : Prop where
  parameters : (e.parameters.map Parameter.key).Nodup
  responses : (e.responses.map Response.statusCode).Nodup

/-- No key is repeated in any list that is compared by keys. -/
structure Spec.DistinctKeys (s : Spec) : Prop where
  endpointIds : (s.endpoints.map Endpoint.id).Nodup
  endpoints : ∀ e ∈ s.endpoints, e.DistinctKeys
  schemaNames : (s.schemas.map Schema.name).Nodup
  schemas : ∀ d ∈ s.schemas, d.Distinct
  securityNames : (s.security.map SecurityScheme.name).Nodup

/-! ### Reordering goes both ways and keeps keys distinct -/

section
variable {α : Type} {R : α → α → Prop} {xs ys : List α}

theorem Rearranged.symm (hR : ∀ x y, R x y → R y x) (h : Rearranged R xs ys) :
    Rearranged R ys xs := by
  obtain ⟨zs, hperm, hrel⟩ := h
  obtain ⟨ws, hws, hys⟩ := List.perm_comp_forall₂ hperm hrel
  exact ⟨ws, hys.symm, hws.flip.imp fun x y hyx => hR y x hyx⟩

theorem Rearranged.exists_of_mem (h : Rearranged R xs ys) {y : α} (hy : y ∈ ys) :
    ∃ x ∈ xs, R x y := by
  obtain ⟨zs, hperm, hrel⟩ := h
  obtain ⟨x, hx, hxy⟩ : ∃ x ∈ zs, R x y := by
    clear hperm
    induction hrel with
    | nil => simp at hy
    | @cons x z xs zs hxz _ ih =>
      rcases List.mem_cons.mp hy with rfl | hy
      · exact ⟨x, List.mem_cons_self, hxz⟩
      · obtain ⟨w, hw, hwy⟩ := ih hy
        exact ⟨w, List.mem_cons_of_mem x hw, hwy⟩
  exact ⟨x, hperm.mem_iff.mpr hx, hxy⟩

theorem Rearranged.map_perm (h : Rearranged R xs ys) (key : α → String)
    (hkey : ∀ x y, R x y → key x = key y) : (xs.map key).Perm (ys.map key) := by
  obtain ⟨zs, hperm, hrel⟩ := h
  have hzs : zs.map key = ys.map key := by
    rw [← List.forall₂_eq_eq_eq]
    exact List.rel_map (fun x y hxy => hkey x y hxy) hrel
  exact hzs ▸ hperm.map key

end

theorem RequestBody.Reordered.symm {a b : RequestBody} (h : a.Reordered b) : b.Reordered a := by
  cases h with
  | intro h => exact .intro h.symm

theorem Endpoint.Reordered.symm {d e : Endpoint} (h : d.Reordered e) : e.Reordered d := by
  cases h with
  | intro hps hbody hrs =>
    generalize hd : d.requestBody = a at hbody
    refine .intro hps.symm ?_ hrs.symm
    rw [hd]
    cases hbody with
    | none => exact .none
    | some h => exact .some h.symm

theorem Schema.Reordered.symm {s t : Schema} (h : s.Reordered t) : t.Reordered s := by
  cases h with
  | intro hps hrequired => exact .intro hps.symm hrequired.symm

theorem Endpoint.Reordered.id_eq {d e : Endpoint} (h : d.Reordered e) : d.id = e.id := by
  cases h
  rfl

theorem Endpoint.Reordered.label_eq {d e : Endpoint} (h : d.Reordered e) : d.label = e.label := by
  cases h
  rfl

theorem Schema.Reordered.name_eq {s t : Schema} (h : s.Reordered t) : s.name = t.name := by
  cases h
  rfl

theorem Spec.Reordered.symm {s t : Spec} (h : s.Reordered t) : t.Reordered s := by
  cases h with
  | intro hes hss hds =>
    exact .intro (hes.symm fun _ _ => Endpoint.Reordered.symm)
      (hss.symm fun _ _ => Schema.Reordered.symm) hds.symm

theorem Endpoint.Reordered.distinctKeys {d e : Endpoint} (h : d.Reordered e)
    (hd : d.DistinctKeys) : e.DistinctKeys := by
  cases h with
  | intro hps _ hrs =>
    exact ⟨(hps.map _).nodup_iff.mp hd.parameters, (hrs.map _).nodup_iff.mp hd.responses⟩

theorem Schema.Reordered.distinct {s t : Schema} (h : s.Reordered t) (hs : s.Distinct) :
    t.Distinct := by
  cases h with
  | intro hps _ => exact (hps.map _).nodup_iff.mp hs

theorem Spec.Reordered.distinctKeys {s t : Spec} (h : s.Reordered t) (hs : s.DistinctKeys) :
    t.DistinctKeys := by
  cases h with
  | intro hes hss hds =>
    refine ⟨?_, fun e he => ?_, ?_, fun d hd => ?_, (hds.map _).nodup_iff.mp hs.securityNames⟩
    · exact (hes.map_perm _ fun _ _ => Endpoint.Reordered.id_eq).nodup_iff.mp hs.endpointIds
    · obtain ⟨d, hd, hde⟩ := hes.exists_of_mem he
      exact hde.distinctKeys (hs.endpoints d hd)
    · exact (hss.map_perm _ fun _ _ => Schema.Reordered.name_eq).nodup_iff.mp hs.schemaNames
    · obtain ⟨c, hc, hcd⟩ := hss.exists_of_mem hd
      exact hcd.distinct (hs.schemas c hc)

/-! ### Permuted lists -/

namespace Compare

section
variable {α β ε : Type} {xs ys : List α}

theorem mapM_perm {f : α → Except ε β} (h : xs.Perm ys) :
    Follows List.Perm (xs.mapM f) (ys.mapM f) := by
  intro us hus
  obtain ⟨vs, hvs, hperm⟩ := List.perm_comp_forall₂ h.symm (mapM_eq_ok_iff.mp hus)
  exact ⟨vs, mapM_eq_ok_iff.mpr hvs, hperm.symm⟩

theorem flatMapChecked_perm {f : α → Except ε (List β)} (h : xs.Perm ys) :
    Follows List.Perm (flatMapChecked f xs) (flatMapChecked f ys) := by
  rw [flatMapChecked_eq, flatMapChecked_eq]
  exact (mapM_perm h).bind fun _ _ huv => .ok huv.flatten

theorem concatenates_perm : Concatenates (List.Perm : List β → List β → Prop) where
  refl := .refl
  append := .append

end

section
variable {α : Type} {key : α → String} {old old' new new' : List α}

theorem stands_iff_mem {x : α} (h : (old.map key).Nodup) : Stands key old x ↔ x ∈ old :=
  ⟨Stands.mem, stands_of_nodup h⟩

theorem get?_perm (hold : (old.map key).Nodup) (h : old.Perm old') (k : String) :
    (Keyed.ofList key old).get? k = (Keyed.ofList key old').get? k := by
  have hold' := (h.map key).nodup_iff.mp hold
  ext x
  rw [Keyed.get?_ofList, Keyed.get?_ofList, stands_iff_mem hold, stands_iff_mem hold', h.mem_iff]

/-- The same entries were removed, added and kept, in whatever order. -/
structure Split.Perm (s s' : Split α) : Prop where
  removed : s.removed.Perm s'.removed
  added : s.added.Perm s'.added
  common : s.common.Perm s'.common

theorem without_perm (hold : (old.map key).Nodup) (h : old.Perm old') (hnew : new.Perm new') :
    ((Keyed.ofList key old).without (Keyed.ofList key new)).Perm
      ((Keyed.ofList key old').without (Keyed.ofList key new')) := by
  have hold' := (h.map key).nodup_iff.mp hold
  have hkeys : ∀ x, key x ∉ new.map key ↔ key x ∉ new'.map key :=
    fun x => not_congr (hnew.map key).mem_iff
  rw [without_of_nodup hold, without_of_nodup hold']
  simp only [hkeys]
  exact (h.filter _).map _

theorem split_perm (hold : (old.map key).Nodup) (hnew : (new.map key).Nodup)
    (h : old.Perm old') (h' : new.Perm new') : (split key old new).Perm (split key old' new') := by
  refine ⟨without_perm hold h h', without_perm hnew h' h, ?_⟩
  have hpaired : paired? key old = paired? key old' := by
    funext y
    rw [paired?, paired?, get?_perm hold h]
  -- Each new item finds its old one by its key, so only the order of the new items is left.
  have hcommon := common_of_nodup old hnew
  have hcommon' := common_of_nodup old' ((h'.map key).nodup_iff.mp hnew)
  simp only [split, hcommon, hcommon', hpaired]
  exact h'.filterMap _

end

section
variable {base : String}

theorem parameters_perm (base : String) {ps ps' qs qs' : List Parameter}
    (hps : (ps.map Parameter.key).Nodup) (hqs : (qs.map Parameter.key).Nodup) (h : ps.Perm ps')
    (h' : qs.Perm qs') :
    Follows List.Perm (parameters base ps qs) (parameters base ps' qs') := by
  have hsplit := split_perm hps hqs h h'
  unfold parameters
  refine (mapM_perm hsplit.removed).bind fun removed removed' hremoved => ?_
  refine (mapM_perm hsplit.added).bind fun added added' hadded => ?_
  exact .ok ((hremoved.append hadded).append (hsplit.common.flatMap_right _))

theorem responses_perm {rs rs' ss ss' : List Response} (hrs : (rs.map Response.statusCode).Nodup)
    (hss : (ss.map Response.statusCode).Nodup) (h : rs.Perm rs') (h' : ss.Perm ss') :
    (responses base rs ss).Perm (responses base rs' ss') := by
  have hsplit := split_perm hrs hss h h'
  exact (hsplit.removed.map _).append (hsplit.added.map _)

theorem requestBody_reordered {a a' b b' : Option RequestBody}
    (ha : Option.Rel RequestBody.Reordered a a') (hb : Option.Rel RequestBody.Reordered b b') :
    (requestBody base a b).Perm (requestBody base a' b') := by
  cases ha with
  | none =>
    cases hb with
    | none => exact .refl _
    | some hb =>
      cases hb
      exact .refl _
  | some ha =>
    cases hb with
    | none => exact .refl _
    | some hb =>
      cases ha with
      | intro hts =>
        cases hb with
        | intro hus =>
          simp only [requestBody, bodyDetails, hus.contains_eq]
          exact (List.Perm.refl _).append ((hts.filter _).map _)

end

theorem endpointDetails_reordered {d d' e e' : Endpoint} (hd : d.DistinctKeys)
    (he : e.DistinctKeys) (h : d.Reordered d') (h' : e.Reordered e') :
    Follows List.Perm (endpointDetails d e) (endpointDetails d' e') := by
  cases h with
  | intro hps hbody hrs =>
    cases h' with
    | intro hps' hbody' hrs' =>
      have hparameters := parameters_perm e.label hd.parameters he.parameters hps hps'
      refine hparameters.bind fun params params' hparams => .ok ?_
      exact (((List.Perm.refl _).append hparams).append (requestBody_reordered hbody hbody')).append
        (responses_perm hd.responses he.responses hrs hrs')

theorem schemaDetails_reordered {s s' t t' : Schema} (hs : s.Distinct) (ht : t.Distinct)
    (h : s.Reordered s') (h' : t.Reordered t') :
    (schemaDetails s t).Perm (schemaDetails s' t') := by
  cases h with
  | intro hps hrequired =>
    cases h' with
    | intro hps' hrequired' =>
      have hsplit := split_perm hs ht hps hps'
      simp only [schemaDetails, propertyDetails, ← hrequired.contains_eq, ← hrequired'.contains_eq]
      exact ((hsplit.removed.map _).append (hsplit.added.map _)).append
        (hsplit.common.flatMap_right _)

/-! ### Entities that are moved and reordered inside -/

theorem endpoints_perm {old old' new new' : List Endpoint} (hold : (old.map Endpoint.id).Nodup)
    (hnew : (new.map Endpoint.id).Nodup) (h : old.Perm old') (h' : new.Perm new') :
    Follows List.Perm (endpoints old new) (endpoints old' new') := by
  have hsplit := split_perm hold hnew h h'
  unfold endpoints
  refine (flatMapChecked_perm hsplit.common).bind fun details details' hdetails => .ok ?_
  exact ((hsplit.removed.map _).append (hsplit.added.map _)).append hdetails

theorem schemas_perm {old old' new new' : List Schema} (hold : (old.map Schema.name).Nodup)
    (hnew : (new.map Schema.name).Nodup) (h : old.Perm old') (h' : new.Perm new') :
    (schemas old new).Perm (schemas old' new') := by
  have hsplit := split_perm hold hnew h h'
  exact ((hsplit.removed.map _).append (hsplit.added.map _)).append (hsplit.common.flatMap_right _)

theorem security_perm {old old' new new' : List SecurityScheme}
    (hold : (old.map SecurityScheme.name).Nodup) (hnew : (new.map SecurityScheme.name).Nodup)
    (h : old.Perm old') (h' : new.Perm new') : (security old new).Perm (security old' new') := by
  have hsplit := split_perm hold hnew h h'
  exact (hsplit.removed.map _).append (hsplit.added.map _)

theorem endpoints_reordered {old old' new new' : List Endpoint}
    (hold : (old.map Endpoint.id).Nodup) (hnew : (new.map Endpoint.id).Nodup)
    (hdistinct : ∀ e ∈ old, e.DistinctKeys) (hdistinct' : ∀ e ∈ new, e.DistinctKeys)
    (h : Rearranged Endpoint.Reordered old old') (h' : Rearranged Endpoint.Reordered new new') :
    Follows List.Perm (endpoints old new) (endpoints old' new') := by
  -- First the endpoints are moved as they are, then each is reordered in its place.
  obtain ⟨mid, hperm, hrel⟩ := h
  obtain ⟨mid', hperm', hrel'⟩ := h'
  refine (endpoints_perm hold hnew hperm hperm').trans ?_ fun _ _ _ => List.Perm.trans
  refine endpoints_related concatenates_perm
    (R := fun d e => d.DistinctKeys ∧ d.Reordered e) (fun _ _ hde => hde.2.id_eq)
    (fun _ _ hde => hde.2.label_eq) ?_ ?_ ?_
  · intro d d' e e' hd he
    exact endpointDetails_reordered hd.1 he.1 hd.2 he.2
  · exact (List.forall₂_and_left _ _).mpr ⟨fun e he => hdistinct e (hperm.mem_iff.mpr he), hrel⟩
  · exact (List.forall₂_and_left _ _).mpr ⟨fun e he => hdistinct' e (hperm'.mem_iff.mpr he), hrel'⟩

theorem schemas_reordered {old old' new new' : List Schema} (hold : (old.map Schema.name).Nodup)
    (hnew : (new.map Schema.name).Nodup) (hdistinct : ∀ s ∈ old, s.Distinct)
    (hdistinct' : ∀ s ∈ new, s.Distinct) (h : Rearranged Schema.Reordered old old')
    (h' : Rearranged Schema.Reordered new new') : (schemas old new).Perm (schemas old' new') := by
  obtain ⟨mid, hperm, hrel⟩ := h
  obtain ⟨mid', hperm', hrel'⟩ := h'
  refine (schemas_perm hold hnew hperm hperm').trans ?_
  refine schemas_related concatenates_perm (R := fun s t => s.Distinct ∧ s.Reordered t)
    (fun _ _ hst => hst.2.name_eq) ?_ ?_ ?_
  · intro s s' t t' hs ht
    exact schemaDetails_reordered hs.1 ht.1 hs.2 ht.2
  · exact (List.forall₂_and_left _ _).mpr ⟨fun s hs => hdistinct s (hperm.mem_iff.mpr hs), hrel⟩
  · exact (List.forall₂_and_left _ _).mpr ⟨fun s hs => hdistinct' s (hperm'.mem_iff.mpr hs), hrel'⟩

end Compare

/-- Reordered specifications have the same changes in another order. -/
theorem Spec.changes_reordered {old old' new new' : Spec} (hold : old.DistinctKeys)
    (hnew : new.DistinctKeys) (h : old.Reordered old') (h' : new.Reordered new') :
    Follows List.Perm (old.changes new) (old'.changes new') := by
  cases h with
  | intro hes hss hds =>
    cases h' with
    | intro hes' hss' hds' =>
      refine changes_related concatenates_perm ?_ ?_ ?_
      · exact endpoints_reordered hold.endpointIds hnew.endpointIds hold.endpoints hnew.endpoints
          hes hes'
      · exact schemas_reordered hold.schemaNames hnew.schemaNames hold.schemas hnew.schemas hss hss'
      · exact security_perm hold.securityNames hnew.securityNames hds hds'

/-! ### The verdict -/

/-- Two verdicts that differ in the order of their changes only. -/
structure Comparison.Permuted (c c' : Comparison) : Prop where
  changes : c.changes.Perm c'.changes
  breaking : c.breaking.Perm c'.breaking
  summary : c.summary = c'.summary
  risk : c.risk = c'.risk

theorem Comparison.ofSpecs_reordered {old old' new new' : Spec} (hold : old.DistinctKeys)
    (hnew : new.DistinctKeys) (h : old.Reordered old') (h' : new.Reordered new') :
    Follows Comparison.Permuted (ofSpecs old new) (ofSpecs old' new') := by
  intro c hc
  obtain ⟨changes, hchanges, rfl⟩ := ofSpecs_eq_ok.mp hc
  obtain ⟨changes', hchanges', hperm⟩ := Spec.changes_reordered hold hnew h h' changes hchanges
  have hbreaking := breakingOf_perm hperm
  refine ⟨_, ofSpecs_eq_ok.mpr ⟨changes', hchanges', rfl⟩, ?_⟩
  exact ⟨hperm, hbreaking, Summary.ofChanges_perm hperm, Risk.assess_perm hbreaking hperm⟩

/-- The order of the documents does not matter: reordered versions can be compared where the
versions themselves can, and are judged alike. -/
theorem order_does_not_matter {old old' new new' : Spec} (hold : old.DistinctKeys)
    (hnew : new.DistinctKeys) (h : old.Reordered old') (h' : new.Reordered new') :
    ((∃ c', Comparison.ofSpecs old' new' = .ok c') ↔ ∃ c, Comparison.ofSpecs old new = .ok c) ∧
      ∀ c c', Comparison.ofSpecs old new = .ok c → Comparison.ofSpecs old' new' = .ok c' →
        c.Permuted c' := by
  have hto := Comparison.ofSpecs_reordered hold hnew h h'
  have hfrom := Comparison.ofSpecs_reordered (h.distinctKeys hold) (h'.distinctKeys hnew) h.symm
    h'.symm
  refine ⟨⟨fun hc' => ?_, fun hc => ?_⟩, fun c c' hc hc' => ?_⟩
  · obtain ⟨c', hc'⟩ := hc'
    obtain ⟨c, hc, -⟩ := hfrom c' hc'
    exact ⟨c, hc⟩
  · obtain ⟨c, hc⟩ := hc
    obtain ⟨c', hc', -⟩ := hto c hc
    exact ⟨c', hc'⟩
  · obtain ⟨d, hd, hperm⟩ := hto c hc
    cases hd.symm.trans hc'
    exact hperm

/-- Without repeated keys in any list, none is repeated where it matters here. -/
theorem Spec.Distinct.distinctKeys {s : Spec} (h : s.Distinct) : s.DistinctKeys where
  endpointIds := h.endpointIds
  endpoints e he := ⟨(h.endpoints e he).parameters, (h.endpoints e he).responses⟩
  schemaNames := h.schemaNames
  schemas := h.schemas
  securityNames := h.securityNames

/-- The orders with the endpoints and the content types the other way round. -/
def Sample.ordersBackwards (parameters : List Parameter) : Spec :=
  { Sample.orders [] with
    endpoints :=
      [Sample.listOrders parameters,
       { Sample.postOrder with
         requestBody := some { contentTypes := ["text/csv", "application/json"] } }] }

theorem Sample.reordered_ordersBackwards {ps qs : List Parameter} (h : ps.Perm qs) :
    (Sample.orders ps).Reordered (Sample.ordersBackwards qs) := by
  have hlist : (Sample.listOrders ps).Reordered (Sample.listOrders qs) :=
    .intro (e := Sample.listOrders ps) h .none (.refl _)
  have hpost : Sample.postOrder.Reordered
      { Sample.postOrder with
        requestBody := some { contentTypes := ["text/csv", "application/json"] } } :=
    .intro (.refl _) (.some (.intro (.swap _ _ _))) (.refl _)
  have hschema : Rearranged Schema.Reordered (Sample.orders ps).schemas
      (Sample.orders ps).schemas := ⟨_, .refl _, .cons (.intro (.refl _) (.refl _)) .nil⟩
  exact .intro (s := Sample.orders ps) ⟨_, .swap _ _ _, .cons hlist (.cons hpost .nil)⟩ hschema
    (.refl _)

/-- The two parameters that go are reported in the order of the old version. -/
theorem orders_backwards_same_verdict :
    ∃ c c', Comparison.ofSpecs (Sample.orders [Sample.tenant, Sample.cursor])
        (Sample.orders []) = .ok c ∧
      Comparison.ofSpecs (Sample.ordersBackwards [Sample.cursor, Sample.tenant])
        (Sample.ordersBackwards []) = .ok c' ∧
      c.Permuted c' ∧ c.changes ≠ c'.changes := by
  have hold : (Sample.orders [Sample.tenant, Sample.cursor]).Distinct := by decide +kernel
  have hnew : (Sample.orders []).Distinct := by decide +kernel
  have hverdict := (order_does_not_matter hold.distinctKeys hnew.distinctKeys
    (Sample.reordered_ordersBackwards (.swap Sample.cursor Sample.tenant []))
    (Sample.reordered_ordersBackwards .nil)).2 _ _ rfl rfl
  exact ⟨_, _, rfl, rfl, hverdict, by decide +kernel⟩

end ApiDrift
