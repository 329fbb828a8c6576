import ApiDrift.Proofs.DataNotation
import ApiDrift.Reading.Format

/-!
# The mappings in a document

What is said of every mapping in a document passes on to its parts. Of a text that is decoded it
holds that no mapping has a key twice, even where the text repeats one, and in data notation the
keys are texts besides. A value of data notation can be written again unless some mapping in it has
a key that holds half of a surrogate pair.
-/
namespace ApiDrift
namespace Document

/-- A value is another one or somewhere inside of it. -/
inductive Within (v : Document) : Document → Prop
  | self : Within v v
  | part {w whole : Document} : w ∈ whole.parts → Within v w → Within v whole

/-- A property of all mappings in a document. -/
def EachMapping (Q : Entries → Prop) (doc : Document) : Prop := ∀ es, Within (.map es) doc → Q es

/-- No two keys are the same. -/
def Apart (es : Entries) : Prop := es.Pairwise fun d e => d.1.same e.1 = false

/-- The keys of each mapping are texts, and each key is there once. -/
def NamedKeys (doc : Document) : Prop := doc.EachMapping fun es => TextKeyed es ∧ Apart es

section
variable {Q : Entries → Prop}

theorem EachMapping.part {doc v : Document} (h : doc.EachMapping Q) (hv : v ∈ doc.parts) :
    v.EachMapping Q :=
  fun es hes => h es (.part hv hes)

theorem EachMapping.of_parts {doc : Document} (hself : ∀ es, doc = .map es → Q es)
    (hparts : ∀ v ∈ doc.parts, v.EachMapping Q) : doc.EachMapping Q := by
  intro es hes
  cases hes with
  | self => exact hself es rfl
  | part hv hes => exact hparts _ hv es hes

theorem EachMapping.of_leaf {v : Document} (h : v.isLeaf = true) : v.EachMapping Q := by
  have hparts : v.parts = [] := by
    cases v with
    | seq | tuple | set | map => cases h
    | _ => rfl
  apply EachMapping.of_parts
  · rintro es rfl
    cases h
  · simp [hparts]

theorem mem_parts_of_mem {es : Entries} {e : Document × Document} (he : e ∈ es) :
    e.1 ∈ (map es).parts ∧ e.2 ∈ (map es).parts := by
  simp only [parts, List.mem_flatMap, List.mem_cons, List.not_mem_nil, or_false]
  exact ⟨⟨e, he, .inl rfl⟩, e, he, .inr rfl⟩

theorem EachMapping.map {es : Entries} (hself : Q es)
    (hentries : ∀ e ∈ es, e.1.EachMapping Q ∧ e.2.EachMapping Q) : (map es).EachMapping Q := by
  apply EachMapping.of_parts
  · rintro es ⟨⟩
    exact hself
  · intro v hv
    simp only [parts, List.mem_flatMap, List.mem_cons, List.not_mem_nil, or_false] at hv
    obtain ⟨e, he, rfl | rfl⟩ := hv
    · exact (hentries e he).1
    · exact (hentries e he).2

theorem hereditary_eachMapping : Hereditary (EachMapping Q) where
  null := .of_leaf rfl
  entry _ h _ he := ⟨h.part (mem_parts_of_mem he).1, h.part (mem_parts_of_mem he).2⟩
  item items h v hv := by
    rcases h with h | h | h
    · exact h.part hv
    · exact h.part hv
    · exact h.part hv

end

/-! ### Decoded documents -/

theorem forall_put {P R : Document → Prop} {es : Entries} (h : ∀ e ∈ es, P e.1 ∧ R e.2)
    {key v : Document} (hkey : P key) (hv : R v) : ∀ e ∈ put es key v, P e.1 ∧ R e.2 := by
  induction es with
  | nil => exact List.forall_mem_singleton.mpr ⟨hkey, hv⟩
  | cons e es ih =>
    rw [List.forall_mem_cons] at h
    unfold put
    split
    · exact List.forall_mem_cons.mpr ⟨⟨h.1.1, hv⟩, h.2⟩
    · exact List.forall_mem_cons.mpr ⟨h.1, ih h.2⟩

theorem forall_ofPairs {P : Document → Prop} {pairs : Entries} (h : ∀ e ∈ pairs, P e.1 ∧ P e.2) :
    ∀ e ∈ ofPairs pairs, P e.1 ∧ P e.2 := by
  induction pairs using List.reverseRecOn with
  | nil => exact List.forall_mem_nil _
  | append_singleton pairs e ih =>
    have he := h e (by simp)
    rw [ofPairs, List.foldl_append]
    exact forall_put (ih fun d hd => h d (List.mem_append_left _ hd)) he.1 he.2

/-- A key that is new is put behind keys that are not the same. -/
theorem apart_put {es : Entries} (h : Apart es) (key v : Document) : Apart (put es key v) := by
  induction es with
  | nil => exact List.pairwise_singleton _ _
  | cons e es ih =>
    obtain ⟨hfirst, hrest⟩ := List.pairwise_cons.mp h
    unfold put
    split
    · exact List.pairwise_cons.mpr ⟨hfirst, hrest⟩
    · rename_i hnew
      have hkeys : ∀ d ∈ es, e.1.same d.1 = false ∧ True := fun d hd => ⟨hfirst d hd, trivial⟩
      have hput := forall_put (P := fun k => e.1.same k = false) (R := fun _ => True) hkeys
        (Bool.eq_false_iff.mpr hnew) (v := v) trivial
      exact List.pairwise_cons.mpr ⟨fun d hd => (hput d hd).1, ih hrest⟩

theorem apart_ofPairs (pairs : Entries) : Apart (ofPairs pairs) := by
  induction pairs using List.reverseRecOn with
  | nil => exact List.Pairwise.nil
  | append_singleton pairs e ih =>
    rw [ofPairs, List.foldl_append]
    exact apart_put ih e.1 e.2

theorem composed_apart : Composed (EachMapping Apart) where
  leaf _ := .of_leaf
  seq items h := .of_parts nofun h
  tuple items h := .of_parts nofun h
  set pairs h := by
    refine EachMapping.of_parts nofun fun v hv => ?_
    obtain ⟨e, he, rfl⟩ := List.mem_map.mp hv
    exact (forall_ofPairs h e he).1
  map pairs h := .map (apart_ofPairs pairs) (forall_ofPairs h)

theorem Simple.texts {v : Document} (h : v.Simple) : v.EachMapping TextKeyed := by
  induction h with
  | seq _ ih => exact .of_parts nofun ih
  | map hkeys _ ih =>
    apply EachMapping.map hkeys
    intro e he
    rw [hkeys e he]
    exact ⟨.of_leaf rfl, ih e he⟩
  | _ => exact .of_leaf rfl

end Document

namespace Reading
open Document

/-- No mapping that is decoded has a key twice. -/
theorem apart_of_loadDocument {content ext : String} {doc : Document}
    (h : loadDocument content ext = .ok doc) : doc.EachMapping Apart := by
  unfold loadDocument at h
  split at h
  · exact Json.composed_of_read composed_apart.data (mapError_eq_ok_iff.mp h)
  · exact Yaml.composed_of_read composed_apart (mapError_eq_ok_iff.mp h)

/-- In data notation all keys are texts. -/
theorem namedKeys_of_read {content : String} {doc : Document} (h : Json.read content = .ok doc) :
    doc.NamedKeys := by
  have htexts := (Json.simple_of_read h).texts
  have hapart := Json.composed_of_read composed_apart.data h
  exact fun es hes => ⟨htexts es hes, hapart es hes⟩

end Reading
end ApiDrift
