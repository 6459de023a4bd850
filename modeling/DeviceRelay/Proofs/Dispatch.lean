import Mathlib.Data.List.Sort
import Mathlib.Data.String.Basic
import DeviceRelay.Proofs.Checked
import DeviceRelay.Translator

/-!
# What a table of translators answers

A table is built from a list of translators, one after another. It is refused at the first translator whose category is
there before; a table that is built knows of each category what the list says, and of the list nothing else, so that the
order of the list does not matter.

    a · b · c · b · …   refused: b           a · b · c   category ↦ translator, in any order

* `TranslatorTable.ofList_eq_error_iff` — which lists are refused, and what for.
* `TranslatorTable.Indexes` — what the table of a list answers.
* `TranslatorTable.Indexes.get?_eq` and its kin — the answers are those of any list with the same members.
-/

namespace DeviceRelay

/-- How a translator by itself ends. -/
def Translator.answer (x : Translator) (raw : RawMessage) : Except Failure Message :=
  (x.run raw).mapError fun cause => .rejected cause raw

namespace TranslatorTable

/-! ### Categories that are there twice -/

/-- The tag is the first of the tags that stands behind an equal one. -/
def FirstRepeated (tags : List String) (tag : String) : Prop :=
  ∃ front back, tags = front ++ tag :: back ∧ tag ∈ front ∧ front.Nodup

-- the first tag that is there before, and not the first that is there again
example : FirstRepeated ["a", "b", "b", "a"] "b" := ⟨["a", "b"], ["a"], rfl, by decide, by decide⟩

/-- None of the tags is there before, among those that were seen or in front of it. -/
def AreNew (seen tags : List String) : Prop := tags.Nodup ∧ ∀ tag ∈ tags, tag ∉ seen

theorem areNew_nil (seen : List String) : AreNew seen [] := ⟨List.nodup_nil, List.forall_mem_nil _⟩

theorem areNew_cons {seen tags : List String} {tag : String} :
    AreNew seen (tag :: tags) ↔ tag ∉ seen ∧ AreNew (tag :: seen) tags := by
  have hapart : (∀ t ∈ tags, t ∉ tag :: seen) ↔ tag ∉ tags ∧ ∀ t ∈ tags, t ∉ seen := by
    simp only [List.mem_cons, not_or, forall_and, List.forall_mem_ne']
  rw [AreNew, AreNew, List.nodup_cons, List.forall_mem_cons, hapart]
  tauto

theorem firstRepeated?_eq_some_iff {seen tags : List String} {tag : String} :
    firstRepeated? seen tags = some tag ↔
      ∃ front back, tags = front ++ tag :: back ∧ (tag ∈ front ∨ tag ∈ seen) ∧ AreNew seen front := by
  induction tags generalizing seen with
  | nil => simp [firstRepeated?]
  | cons t rest ih =>
    by_cases ht : t ∈ seen
    · rw [firstRepeated?, if_pos (List.contains_iff_mem.mpr ht), Option.some_inj]
      constructor
      · rintro rfl
        exact ⟨[], rest, rfl, .inr ht, areNew_nil seen⟩
      · rintro ⟨_ | ⟨u, front⟩, back, heq, -, hnew⟩
        · exact (List.cons.inj heq).1
        · obtain ⟨rfl, -⟩ := List.cons.inj heq
          exact absurd ht (areNew_cons.mp hnew).1
    · have hthere (front : List String) : tag ∈ t :: front ∨ tag ∈ seen ↔ tag ∈ front ∨ tag ∈ t :: seen := by
        rw [List.mem_cons, List.mem_cons, or_assoc, or_left_comm]
      rw [firstRepeated?, if_neg fun h => ht (List.contains_iff_mem.mp h), ih]
      constructor
      · rintro ⟨front, back, rfl, hmem, hnew⟩
        exact ⟨t :: front, back, rfl, (hthere front).mpr hmem, areNew_cons.mpr ⟨ht, hnew⟩⟩
      · rintro ⟨_ | ⟨u, front⟩, back, heq, hmem, hnew⟩
        · obtain ⟨rfl, -⟩ := List.cons.inj heq
          exact absurd (hmem.resolve_left List.not_mem_nil) ht
        · obtain ⟨rfl, rfl⟩ := List.cons.inj heq
          exact ⟨front, back, rfl, (hthere front).mp hmem, (areNew_cons.mp hnew).2⟩

theorem firstRepeated?_nil_eq_some_iff {tags : List String} {tag : String} :
    firstRepeated? [] tags = some tag ↔ FirstRepeated tags tag := by
  simp [firstRepeated?_eq_some_iff, FirstRepeated, AreNew]

theorem FirstRepeated.not_nodup {tags : List String} {tag : String} (h : FirstRepeated tags tag) : ¬tags.Nodup := by
  obtain ⟨front, back, rfl, hmem, -⟩ := h
  intro hnodup
  exact (List.disjoint_of_nodup_append hnodup) hmem List.mem_cons_self

/-! ### Lists that are refused -/

/-- The table of a list has its translators. There is one exactly if no category is there twice, which is what a table
brings with it. -/
theorem ofList_eq_ok_iff {xs : List Translator} {t : TranslatorTable} : ofList xs = .ok t ↔ t.translators = xs := by
  constructor
  · intro h
    unfold ofList at h
    split at h
    · cases h
    · cases h
      rfl
  · rintro rfl
    unfold ofList
    split
    · next tag hrepeated => exact absurd t.distinct (firstRepeated?_nil_eq_some_iff.mp hrepeated).not_nodup
    · rfl

theorem ofList_eq_error_iff {xs : List Translator} {tag : String} :
    ofList xs = .error tag ↔ FirstRepeated (xs.map Translator.category) tag := by
  rw [← firstRepeated?_nil_eq_some_iff]
  unfold ofList
  split
  · next first hfirst =>
    rw [hfirst, Option.some_inj]
    exact ⟨Except.error.inj, congrArg _⟩
  · next hnone => exact iff_of_false nofun (by rw [hnone]; nofun)

theorem exists_ofList_eq_ok_iff {xs : List Translator} :
    (∃ t, ofList xs = .ok t) ↔ (xs.map Translator.category).Nodup := by
  constructor
  · rintro ⟨t, h⟩
    exact ofList_eq_ok_iff.mp h ▸ t.distinct
  · intro hnodup
    exact ⟨⟨xs, hnodup⟩, ofList_eq_ok_iff.mpr rfl⟩

theorem exists_ofList_eq_error_iff {xs : List Translator} :
    (∃ tag, ofList xs = .error tag) ↔ ¬(xs.map Translator.category).Nodup := by
  rw [← exists_ofList_eq_ok_iff]
  cases ofList xs with
  | error tag => exact iff_of_true ⟨tag, rfl⟩ nofun
  | ok t => exact iff_of_false nofun fun h => h ⟨t, rfl⟩

/-- The list of all translators has a table. -/
theorem ofList_all (registry : Registry) : ofList (Translator.all registry) = .ok (full registry) :=
  ofList_eq_ok_iff.mpr rfl

/-! ### Answers -/

/-- The table answers as the list says. -/
structure Indexes (t : TranslatorTable) (xs : List Translator) : Prop where
  get?_eq_some_iff : ∀ tag x, t.get? tag = some x ↔ x ∈ xs ∧ x.category = tag
  get?_eq_none_iff : ∀ tag, t.get? tag = none ↔ ∀ x ∈ xs, x.category ≠ tag
  translate_of_mem : ∀ x ∈ xs, t.translate x.category = x.answer
  translate_of_unknown : ∀ tag, (∀ x ∈ xs, x.category ≠ tag) → ∀ raw, t.translate tag raw = .error (.notFound tag)
  categories_increasing : t.categories.Pairwise (· < ·)
  mem_categories_iff : ∀ tag, tag ∈ t.categories ↔ ∃ x ∈ xs, x.category = tag

theorem mem_of_get? {t : TranslatorTable} {tag : String} {x : Translator} (h : t.get? tag = some x) :
    x ∈ t.translators ∧ x.category = tag :=
  ⟨List.mem_of_find?_eq_some h, by simpa using List.find?_some h⟩

theorem get?_eq_none_iff (t : TranslatorTable) {tag : String} :
    t.get? tag = none ↔ ∀ x ∈ t.translators, x.category ≠ tag := by
  rw [get?, List.find?_eq_none]
  simp only [decide_eq_true_eq, ne_eq]

/-- A table finds the translator of a category, and as no two have the same category, it finds that one. -/
theorem get?_eq_some_iff (t : TranslatorTable) {tag : String} {x : Translator} :
    t.get? tag = some x ↔ x ∈ t.translators ∧ x.category = tag := by
  refine ⟨mem_of_get?, ?_⟩
  rintro ⟨hmem, rfl⟩
  cases hget : t.get? x.category with
  | none => exact absurd rfl (t.get?_eq_none_iff.mp hget x hmem)
  | some y =>
    obtain ⟨hy, hcategory⟩ := mem_of_get? hget
    rw [List.inj_on_of_nodup_map t.distinct hy hmem hcategory]

theorem translate_of_get? {t : TranslatorTable} {x : Translator} {tag : String} (h : t.get? tag = some x) :
    t.translate tag = x.answer := by
  funext raw
  rw [translate, h]
  rfl

theorem translate_of_get?_eq_none {t : TranslatorTable} {tag : String} (h : t.get? tag = none) (raw : RawMessage) :
    t.translate tag raw = .error (.notFound tag) := by
  rw [translate, h]

theorem mem_categories_iff (t : TranslatorTable) {tag : String} :
    tag ∈ t.categories ↔ ∃ x ∈ t.translators, x.category = tag := by
  rw [categories, List.mem_mergeSort, List.mem_map]

/-- The categories are in order, and none is there twice. -/
theorem categories_increasing (t : TranslatorTable) : t.categories.Pairwise (· < ·) := by
  have hsorted : t.categories.Pairwise fun a b => decide (a ≤ b) = true :=
    List.pairwise_mergeSort
      (fun a b c hab hbc => decide_eq_true ((of_decide_eq_true hab).trans (of_decide_eq_true hbc)))
      (fun a b => by simpa using le_total a b) _
  have hnodup : t.categories.Nodup := (List.mergeSort_perm _ _).nodup_iff.mpr t.distinct
  exact (hsorted.and hnodup).imp fun h => lt_of_le_of_ne (of_decide_eq_true h.1) h.2

theorem indexes (t : TranslatorTable) : t.Indexes t.translators where
  get?_eq_some_iff _ _ := t.get?_eq_some_iff
  get?_eq_none_iff _ := t.get?_eq_none_iff
  translate_of_mem _ hmem := translate_of_get? (t.get?_eq_some_iff.mpr ⟨hmem, rfl⟩)
  translate_of_unknown _ h := translate_of_get?_eq_none (t.get?_eq_none_iff.mpr h)
  categories_increasing := t.categories_increasing
  mem_categories_iff _ := t.mem_categories_iff

/-! ### Order -/

section Order

variable {t t' : TranslatorTable} {xs xs' : List Translator} (h : t.Indexes xs) (h' : t'.Indexes xs')
  (hmem : ∀ x, x ∈ xs ↔ x ∈ xs')

include h h' hmem

/-- Lists with the same members give tables with the same answers. -/
theorem Indexes.get?_eq : t.get? = t'.get? := by
  funext tag
  ext x
  rw [h.get?_eq_some_iff, h'.get?_eq_some_iff, hmem]

theorem Indexes.translate_eq : t.translate = t'.translate := by
  funext tag raw
  rw [translate, translate, h.get?_eq h' hmem]

theorem Indexes.categories_eq : t.categories = t'.categories := by
  refine h.categories_increasing.eq_of_mem_iff h'.categories_increasing fun tag => ?_
  simp only [h.mem_categories_iff, h'.mem_categories_iff, hmem]

end Order

/-- A list is refused exactly if a category is there twice, and with the first one that is. Otherwise its table knows
exactly its translators, by their categories, ends where they end, and names their categories in order. In another order
the list is refused as well, or has a table that answers the same. -/
theorem ofList_indexes (xs : List Translator) :
    (∀ tag, ofList xs = .error tag ↔ FirstRepeated (xs.map Translator.category) tag) ∧
      ((∃ tag, ofList xs = .error tag) ↔ ¬(xs.map Translator.category).Nodup) ∧
      (∀ t, ofList xs = .ok t → t.Indexes xs) ∧
      ∀ others, xs.Perm others →
        ((∃ tag, ofList xs = .error tag) ∧ ∃ tag, ofList others = .error tag) ∨
        ∃ t t', ofList xs = .ok t ∧ ofList others = .ok t' ∧
          t.get? = t'.get? ∧ t.translate = t'.translate ∧ t.categories = t'.categories := by
  refine ⟨fun tag => ofList_eq_error_iff, exists_ofList_eq_error_iff, ?_, fun others hperm => ?_⟩
  · intro t ht
    exact ofList_eq_ok_iff.mp ht ▸ t.indexes
  · have hnodup := (hperm.map Translator.category).nodup_iff
    by_cases hxs : (xs.map Translator.category).Nodup
    · obtain ⟨t, ht⟩ := exists_ofList_eq_ok_iff.mpr hxs
      obtain ⟨t', ht'⟩ := exists_ofList_eq_ok_iff.mpr (hnodup.mp hxs)
      have hindexes : t.Indexes xs := ofList_eq_ok_iff.mp ht ▸ t.indexes
      have hindexes' : t'.Indexes others := ofList_eq_ok_iff.mp ht' ▸ t'.indexes
      have hmem : ∀ x, x ∈ xs ↔ x ∈ others := fun _ => hperm.mem_iff
      exact .inr ⟨t, t', ht, ht', hindexes.get?_eq hindexes' hmem, hindexes.translate_eq hindexes' hmem,
        hindexes.categories_eq hindexes' hmem⟩
    · exact .inl ⟨exists_ofList_eq_error_iff.mpr hxs, exists_ofList_eq_error_iff.mpr fun h => hxs (hnodup.mpr h)⟩

/-- A translator of this category that refuses everything. -/
def refusing (category : String) : Translator := ⟨category, category, fun _ => .error .unwritable⟩

theorem ofList_indexes_pair :
    ∃ t t', ofList [refusing "b", refusing "a"] = .ok t ∧ t.Indexes [refusing "b", refusing "a"] ∧
      [refusing "b", refusing "a"].Perm [refusing "a", refusing "b"] ∧
      ofList [refusing "a", refusing "b"] = .ok t' ∧ t.categories = t'.categories := by
  obtain ⟨-, hrefused, hindexes, hothers⟩ := ofList_indexes [refusing "b", refusing "a"]
  have hperm : [refusing "b", refusing "a"].Perm [refusing "a", refusing "b"] := .swap ..
  rcases hothers _ hperm with ⟨h, -⟩ | ⟨t, t', ht, ht', -, -, hcategories⟩
  · exact absurd (by decide) (hrefused.mp h)
  · exact ⟨t, t', ht, hindexes t ht, hperm, ht', hcategories⟩

end TranslatorTable

end DeviceRelay
