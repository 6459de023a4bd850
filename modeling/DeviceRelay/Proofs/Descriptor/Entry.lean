import DeviceRelay.Descriptor.File
import DeviceRelay.Proofs.Charset.Spelling
import DeviceRelay.Proofs.Checked
import DeviceRelay.Proofs.Dictionary

/-!
# Entries of a descriptor file

Which entries are valid descriptors, and which are not, is put down here twice, apart from the code that decides it:

    Describes   a mapping from texts, a text for each field that it has, a name and a separator that is neither torn
                nor empty
    Broken      one of the six ways to be anything else

* `DescriptorFile.descriptor?_eq_some_iff` — an entry is read as the descriptor that it describes.
* `DescriptorFile.descriptor?_eq_none_iff` — the broken entries are the ones that are read as none.
-/

namespace DeviceRelay

open Json (last?)

/-! ### Fields -/

/-- The text with a replacement character for each surrogate, if it has any. -/
def LooseText.mended (t : LooseText) : LooseText := .text t.repaired

namespace Descriptor

/-- A field of a descriptor, what stands for it where it is left out, and what is kept of a text for it. -/
structure Field where
  key : String
  fallback : Option LooseText
  keep : LooseText → LooseText
  of : Descriptor → LooseText

/-- The fields; `charset` is the charset of a descriptor that names none. -/
def fields (charset : LooseText) : List Field :=
  [⟨"name", none, id, name⟩, ⟨"transport", some "mqtt", .mended, fun d => d.transport⟩,
    ⟨"control_prefix", some "$EDC", .mended, fun d => d.controlPrefix⟩,
    ⟨"topic_separator", some "/", id, fun d => d.topicSeparator⟩,
    ⟨"reply_verb", some "REPLY", .mended, fun d => d.replyVerb⟩,
    ⟨"body_encoding", some "json", .mended, fun d => d.bodyEncoding⟩,
    ⟨"charset", some charset, id, Descriptor.charset⟩]

/-- The names of the fields. -/
def keys : List String :=
  ["name", "transport", "control_prefix", "topic_separator", "reply_verb", "body_encoding", "charset"]

theorem key_mem_keys {charset : LooseText} {f : Field} (hf : f ∈ fields charset) : f.key ∈ keys :=
  List.mem_map_of_mem (f := Field.key) hf

theorem exists_field {key : String} (hkey : key ∈ keys) (charset : LooseText) : ∃ f ∈ fields charset, f.key = key :=
  List.mem_map.mp (show key ∈ (fields charset).map Field.key from hkey)

section Reading

variable {β : Type} {text : β → Checked LooseText} {record : Dictionary β}

/-- Read a field of a record, of whose values `text` takes the texts. -/
def Field.read (f : Field) (text : β → Checked LooseText) (record : Dictionary β) : Checked LooseText :=
  match f.fallback with
  | none => Record.required record f.key fun v => (text v).map f.keep
  | some s => Record.withDefault record f.key s fun v => (text v).map f.keep

/-- Two ways to take values give the same of a field, if they do so of each value and where it is left out. -/
theorem withDefault_eq_ok_iff {α γ : Type} {f : β → Checked α} {g : β → Checked γ} {value a : α} {value' c : γ}
    (hvalue : value = a ↔ value' = c) (hfg : ∀ v, f v = .ok a ↔ g v = .ok c) (key : String) :
    Record.withDefault record key value f = .ok a ↔ Record.withDefault record key value' g = .ok c := by
  unfold Record.withDefault
  cases record.get? key with
  | none => simpa using hvalue
  | some v => rw [Checked.under_eq_ok, Checked.under_eq_ok, hfg]

theorem map_keep_id (v : β) : (text v).map id = text v := by
  cases text v <;> rfl

theorem readPlain_eq_ok_iff {key value s : String} :
    Record.withDefault record key value (plain text) = .ok s ↔
      (Record.withDefault record key (value : LooseText) fun v => (text v).map .mended) = .ok (s : LooseText) := by
  refine withDefault_eq_ok_iff (by simp) (fun v => ?_) key
  rw [plain]
  cases text v <;> simp [Except.map, LooseText.mended]

/-- A separator is read as any text is, since the fallback is neither torn nor empty. -/
theorem readSeparator_eq_ok_iff {s : String} (hs : s ≠ "") :
    Record.withDefault record "topic_separator" ⟨"/", slash_ne⟩ (separator text) = .ok ⟨s, hs⟩ ↔
      (Record.withDefault record "topic_separator" ("/" : LooseText) fun v => (text v).map id) =
        .ok (s : LooseText) := by
  refine withDefault_eq_ok_iff (by simp) (fun v => ?_) "topic_separator"
  rw [separator, map_keep_id]
  cases text v with
  | error problems => simp
  | ok t =>
    cases t with
    | torn t => simp [Checked.refuse]
    | text t =>
      by_cases ht : t = ""
      · subst ht
        simpa [Checked.refuse] using hs.symm
      · simp [ht]

/-- A record is read field by field. -/
theorem read_eq_ok_iff {charset : LooseText} {d : Descriptor} :
    read text charset record = .ok d ↔ ∀ f ∈ fields charset, f.read text record = .ok (f.of d) := by
  simp only [fields, List.forall_mem_cons, Field.read, ← readPlain_eq_ok_iff]
  rw [← readSeparator_eq_ok_iff d.separator_ne, read, map_eq_ok]
  simp only [map_keep_id]
  constructor
  · rintro ⟨⟨name, transport, start, separator, verb, encoding, charset⟩, h, rfl⟩
    simp only [Checked.both_eq_ok] at h
    obtain ⟨hname, htransport, hstart, hseparator, hverb, hencoding, hcharset⟩ := h
    exact ⟨hname, htransport, hstart, hseparator, hverb, hencoding, hcharset, List.forall_mem_nil _⟩
  · rintro ⟨hname, htransport, hstart, hseparator, hverb, hencoding, hcharset, -⟩
    refine ⟨(d.name, d.transport, d.controlPrefix, ⟨d.topicSeparator, d.separator_ne⟩, d.replyVerb, d.bodyEncoding,
      d.charset), ?_, rfl⟩
    simp only [Checked.both_eq_ok]
    exact ⟨hname, htransport, hstart, hseparator, hverb, hencoding, hcharset⟩

end Reading

end Descriptor

namespace DescriptorFile

open Descriptor (Field)

/-! ### Valid entries -/

/-- Data that says a text: the text, or its octets. -/
inductive Says : Yaml.Data → LooseText → Prop
  | text (s : String) : Says (.text s) s
  | torn (t : TornText) : Says (.torn t) (.torn t)
  | octets (s : String) : Says (.bytes (Charset.Utf8.ofText s)) s

/-- A mapping from texts. -/
def record (members : List (LooseText × Yaml.Data)) : Yaml.Data := .dict (members.map fun m => (.ofText m.1, m.2))

/-- The member under a name that a field may have, which no torn text is. -/
def nameOf? : LooseText × Yaml.Data → Option (String × Yaml.Data)
  | (.text key, v) => some (key, v)
  | (.torn _, _) => none

/-- The value under a name. -/
def stated? (key : String) (members : List (LooseText × Yaml.Data)) : Option Yaml.Data :=
  last? key (members.filterMap nameOf?)

/-- What members have for a field. -/
inductive Gives (members : List (LooseText × Yaml.Data)) (f : Field) : LooseText → Prop
  | stated {v : Yaml.Data} {t s : LooseText} (hv : stated? f.key members = some v) (ht : Says v t)
    (hs : f.keep t = s) : Gives members f s
  | leftOut {s : LooseText} (hv : stated? f.key members = none) (hs : f.fallback = some s) : Gives members f s

/-- The entry has the fields of the descriptor. That the separator is neither torn nor empty is the descriptor's own
rule. -/
inductive Describes (charset : LooseText) : Yaml.Data → Descriptor → Prop
  | intro {members : List (LooseText × Yaml.Data)} {d : Descriptor}
    (h : ∀ f ∈ Descriptor.fields charset, Gives members f (f.of d)) : Describes charset (record members) d

/-- The entry is no descriptor. -/
inductive Broken : Yaml.Data → Prop
  | notMapping {item : Yaml.Data} (h : ∀ entries, item ≠ .dict entries) : Broken item
  | foreignKey {entries : List (Yaml.Data × Yaml.Data)} {e : Yaml.Data × Yaml.Data} (he : e ∈ entries)
    (hkey : ∀ s, e.1 ≠ .ofText s) : Broken (.dict entries)
  | nameless {members : List (LooseText × Yaml.Data)} (hv : stated? "name" members = none) : Broken (record members)
  | notText {members : List (LooseText × Yaml.Data)} {key : String} {v : Yaml.Data} (hkey : key ∈ Descriptor.keys)
    (hv : stated? key members = some v) (hs : ∀ s, ¬Says v s) : Broken (record members)
  | noSeparator {members : List (LooseText × Yaml.Data)} {v : Yaml.Data}
    (hv : stated? "topic_separator" members = some v) (hs : Says v "") : Broken (record members)
  | tornSeparator {members : List (LooseText × Yaml.Data)} {t : TornText}
    (hv : stated? "topic_separator" members = some (.torn t)) : Broken (record members)

/-! ### Reading an entry -/

theorem ofText_injective : Function.Injective Yaml.Data.ofText := by
  intro s t h
  cases s <;> cases t <;> simp_all [Yaml.Data.ofText]

theorem record_injective : Function.Injective record := by
  intro members members' h
  refine List.map_injective_iff.mpr (fun m m' hm => ?_) (Yaml.Data.dict.inj h)
  obtain ⟨hkey, hv⟩ := Prod.mk.inj hm
  exact Prod.ext (ofText_injective hkey) hv

theorem filterMap_named? (members : List (LooseText × Yaml.Data)) :
    (members.map fun m => (Yaml.Data.ofText m.1, m.2)).filterMap named? = members.filterMap nameOf? := by
  rw [List.filterMap_map]
  congr 1
  funext ⟨key, v⟩
  cases key <;> rfl

/-- A mapping whose keys all are texts is a mapping from texts. -/
theorem exists_record {entries : List (Yaml.Data × Yaml.Data)} (h : ∀ e ∈ entries, ∃ s, e.1 = .ofText s) :
    ∃ members, .dict entries = record members := by
  induction entries with
  | nil => exact ⟨[], rfl⟩
  | cons e rest ih =>
    obtain ⟨⟨s, hs⟩, hrest⟩ := List.forall_mem_cons.mp h
    obtain ⟨members, hmembers⟩ := ih hrest
    refine ⟨(s, e.2) :: members, ?_⟩
    rw [record, List.map_cons, ← Yaml.Data.dict.inj hmembers, ← hs]

theorem isTextKey_iff {k : Yaml.Data} : isTextKey k = true ↔ ∃ s, k = .ofText s := by
  constructor
  · intro h
    cases k with
    | text s => exact ⟨s, rfl⟩
    | torn t => exact ⟨.torn t, rfl⟩
    | _ => cases h
  · rintro ⟨s, rfl⟩
    cases s <;> rfl

theorem textOfOctets_eq_ok_iff {b : Bytes} {s : String} :
    Record.textOfOctets b = .ok s ↔ Charset.Utf8.ofText s = b := by
  rw [Record.textOfOctets, Charset.Utf8.toText?]
  cases hdecode : Charset.Utf8.decode b with
  | error f =>
    refine iff_of_false (fun h => ?_) fun h => ?_
    · cases h
    · cases hdecode.symm.trans (Charset.Utf8.decode_eq_ok_iff.mpr h.symm)
  | ok cs =>
    obtain rfl := Charset.Utf8.decode_eq_ok_iff.mp hdecode
    show Except.ok (String.ofList cs) = .ok s ↔ _
    constructor
    · intro h
      obtain rfl := Except.ok.inj h
      rw [Charset.Utf8.ofText, String.toList_ofList]
    · intro h
      have hcs := (Charset.Utf8.decode_eq_ok_iff.mpr h.symm).symm.trans hdecode
      rw [← Except.ok.inj hcs, String.ofList_toList]

theorem text_eq_ok_iff {v : Yaml.Data} {s : LooseText} : text v = .ok s ↔ Says v s := by
  constructor
  · intro h
    cases v with
    | text t =>
      obtain rfl := Except.ok.inj h
      exact .text t
    | torn t =>
      obtain rfl := Except.ok.inj h
      exact .torn t
    | bytes b =>
      obtain ⟨t, ht, rfl⟩ := map_eq_ok.mp h
      obtain rfl := textOfOctets_eq_ok_iff.mp ht
      exact .octets t
    | _ => cases h
  · intro h
    cases h with
    | text => rfl
    | torn => rfl
    | octets s => exact map_eq_ok.mpr ⟨s, textOfOctets_eq_ok_iff.mpr rfl, rfl⟩

/-- What is kept of a text that a value says. -/
theorem keep_text_eq_ok_iff {f : Field} {v : Yaml.Data} {s : LooseText} :
    (text v).map f.keep = .ok s ↔ ∃ t, Says v t ∧ f.keep t = s := by
  rw [map_eq_ok]
  exact exists_congr fun t => and_congr_left fun _ => text_eq_ok_iff

theorem read_record_eq_ok_iff {members : List (LooseText × Yaml.Data)} {f : Field} {s : LooseText} :
    f.read text (Dictionary.ofList (members.filterMap nameOf?)) = .ok s ↔ Gives members f s := by
  have hget : (Dictionary.ofList (members.filterMap nameOf?)).get? f.key = stated? f.key members :=
    Dictionary.get?_ofList _ _
  cases hv : stated? f.key members with
  | none =>
    rw [hv] at hget
    constructor
    · intro h
      refine .leftOut hv ?_
      unfold Field.read at h
      cases hfallback : f.fallback <;> simp_all [Record.required, Record.withDefault]
    · rintro (⟨hv', -, -⟩ | ⟨-, hs⟩)
      · simp [hv] at hv'
      · simp [Field.read, hs, Record.withDefault, hget]
  | some v =>
    rw [hv] at hget
    have hread : f.read text (Dictionary.ofList (members.filterMap nameOf?)) =
        Checked.under (.field f.key) ((text v).map f.keep) := by
      unfold Field.read Record.required Record.withDefault
      rw [hget]
      cases f.fallback <;> rfl
    rw [hread, Checked.under_eq_ok, keep_text_eq_ok_iff]
    constructor
    · rintro ⟨t, ht, hs⟩
      exact .stated hv ht hs
    · rintro (⟨hv', ht, hs⟩ | ⟨hv', -⟩)
      · obtain rfl := Option.some.inj (hv.symm.trans hv')
        exact ⟨_, ht, hs⟩
      · simp [hv] at hv'

theorem descriptor?_record_eq_some_iff {charset : LooseText} {members : List (LooseText × Yaml.Data)} {d : Descriptor} :
    descriptor? charset (record members) = some d ↔ ∀ f ∈ Descriptor.fields charset, Gives members f (f.of d) := by
  have hkeys : (members.map fun m => (Yaml.Data.ofText m.1, m.2)).all (fun e => isTextKey e.1) = true := by
    simp only [List.all_map, List.all_eq_true, Function.comp_apply, isTextKey_iff]
    exact fun m _ => ⟨m.1, rfl⟩
  rw [record, descriptor?, if_pos hkeys, filterMap_named?]
  trans Descriptor.read text charset (Dictionary.ofList (members.filterMap nameOf?)) = .ok d
  · cases Descriptor.read text charset (Dictionary.ofList (members.filterMap nameOf?)) <;> simp [Except.toOption]
  · simp only [Descriptor.read_eq_ok_iff, read_record_eq_ok_iff]

/-- Nothing is read as a descriptor but mappings from texts. -/
theorem exists_record_of_descriptor? {charset : LooseText} {item : Yaml.Data} {d : Descriptor}
    (h : descriptor? charset item = some d) : ∃ members, item = record members := by
  cases item with
  | dict entries =>
    rw [descriptor?] at h
    split at h
    · next hkeys => exact exists_record fun e he => isTextKey_iff.mp (List.all_eq_true.mp hkeys e he)
    · cases h
  | _ => cases h

theorem descriptor?_eq_some_iff {charset : LooseText} {item : Yaml.Data} {d : Descriptor} :
    descriptor? charset item = some d ↔ Describes charset item d := by
  constructor
  · intro h
    obtain ⟨members, rfl⟩ := exists_record_of_descriptor? h
    exact .intro (descriptor?_record_eq_some_iff.mp h)
  · rintro ⟨h⟩
    exact descriptor?_record_eq_some_iff.mpr h

theorem Describes.unique {charset : LooseText} {item : Yaml.Data} {d d' : Descriptor} (h : Describes charset item d)
    (h' : Describes charset item d') : d = d' :=
  Option.some.inj ((descriptor?_eq_some_iff.mpr h).symm.trans (descriptor?_eq_some_iff.mpr h'))

/-! ### Broken entries -/

theorem Gives.unique {members : List (LooseText × Yaml.Data)} {f : Field} {s t : LooseText} (hs : Gives members f s)
    (ht : Gives members f t) : s = t :=
  Except.ok.inj ((read_record_eq_ok_iff.mpr hs).symm.trans (read_record_eq_ok_iff.mpr ht))

/-- The separator that a descriptor has is the one that is stated. -/
theorem separator_eq {charset : LooseText} {members : List (LooseText × Yaml.Data)} {d : Descriptor}
    (hgives : ∀ f ∈ Descriptor.fields charset, Gives members f (f.of d)) {v : Yaml.Data} {s : LooseText}
    (hv : stated? "topic_separator" members = some v) (hs : Says v s) : s = d.topicSeparator := by
  have hfield : (⟨"topic_separator", some "/", id, fun d => d.topicSeparator⟩ : Field) ∈ Descriptor.fields charset := by
    simp [Descriptor.fields]
  exact (hgives _ hfield).unique (.stated hv hs rfl) |>.symm

theorem Broken.not_describes {charset : LooseText} {item : Yaml.Data} {d : Descriptor} (h : Broken item) :
    ¬Describes charset item d := by
  intro hd
  obtain ⟨members, rfl⟩ : ∃ members, item = record members :=
    exists_record_of_descriptor? (descriptor?_eq_some_iff.mpr hd)
  have hgives := descriptor?_record_eq_some_iff.mp (descriptor?_eq_some_iff.mpr hd)
  -- an entry is a mapping from texts in one way only, so what breaks it is among these members
  generalize hitem : record members = item at h
  cases h with
  | notMapping h => exact h _ hitem.symm
  | @foreignKey entries e he hkey =>
    rw [← Yaml.Data.dict.inj hitem] at he
    obtain ⟨m, -, rfl⟩ := List.mem_map.mp he
    exact hkey m.1 rfl
  | nameless hv =>
    obtain rfl := record_injective hitem
    rcases hgives _ List.mem_cons_self with ⟨hv', -, -⟩ | ⟨-, hs⟩
    · cases hv.symm.trans hv'
    · cases hs
  | @notText _ key v hkey hv hs =>
    obtain rfl := record_injective hitem
    obtain ⟨f, hf, rfl⟩ := Descriptor.exists_field hkey charset
    rcases hgives f hf with ⟨hv', hsays, -⟩ | ⟨hv', -⟩
    · obtain rfl := Option.some.inj (hv.symm.trans hv')
      exact hs _ hsays
    · cases hv.symm.trans hv'
  | noSeparator hv hs =>
    obtain rfl := record_injective hitem
    exact d.separator_ne (LooseText.text.inj (separator_eq hgives hv hs)).symm
  | tornSeparator hv =>
    obtain rfl := record_injective hitem
    cases separator_eq hgives hv (.torn _)

/-- A mapping from texts that is not broken gives a text for every field. -/
theorem exists_gives (charset : LooseText) {members : List (LooseText × Yaml.Data)} (h : ¬Broken (record members)) :
    ∀ f ∈ Descriptor.fields charset, ∃ s, Gives members f s := by
  have hstated : ∀ f ∈ Descriptor.fields charset, ∀ v, stated? f.key members = some v → ∃ s, Gives members f s := by
    intro f hf v hv
    by_contra hnone
    refine h (.notText (Descriptor.key_mem_keys hf) hv fun s hs => hnone ⟨_, .stated hv hs rfl⟩)
  intro f hf
  cases hv : stated? f.key members with
  | some v => exact hstated f hf v hv
  | none =>
    cases hfallback : f.fallback with
    | some s => exact ⟨s, .leftOut hv hfallback⟩
    | none =>
      -- only the name has nothing to stand for it
      have hname : f.key = "name" := by
        simp only [Descriptor.fields, List.mem_cons, List.not_mem_nil, or_false] at hf
        rcases hf with rfl | rfl | rfl | rfl | rfl | rfl | rfl
        · rfl
        all_goals cases hfallback
      exact absurd (.nameless (hname ▸ hv)) h

/-- A field that is mended has a text, since the fallback is one too. -/
theorem Gives.exists_text {members : List (LooseText × Yaml.Data)} {key value : String} {of : Descriptor → LooseText}
    {s : LooseText} (h : Gives members ⟨key, some value, .mended, of⟩ s) : ∃ t : String, s = t := by
  rcases h with ⟨-, -, rfl⟩ | ⟨-, hs⟩
  · exact ⟨_, rfl⟩
  · exact ⟨value, (Option.some.inj hs).symm⟩

/-- A separator that does not break the entry is a text that is not empty. -/
theorem exists_separator {members : List (LooseText × Yaml.Data)} (h : ¬Broken (record members))
    {of : Descriptor → LooseText} {s : LooseText} (hs : Gives members ⟨"topic_separator", some "/", id, of⟩ s) :
    ∃ t : String, s = t ∧ t ≠ "" := by
  rcases hs with ⟨hv, ht, rfl⟩ | ⟨-, hs⟩
  · cases ht with
    | torn t => exact absurd (.tornSeparator hv) h
    | text t =>
      refine ⟨t, rfl, ?_⟩
      rintro rfl
      exact h (.noSeparator hv (.text _))
    | octets t =>
      refine ⟨t, rfl, ?_⟩
      rintro rfl
      exact h (.noSeparator hv (.octets _))
  · exact ⟨"/", (Option.some.inj hs).symm, Descriptor.slash_ne⟩

/-- The fields of an entry that is not broken make a descriptor. -/
theorem exists_describes (charset : LooseText) {members : List (LooseText × Yaml.Data)} (h : ¬Broken (record members)) :
    ∃ d, Describes charset (record members) d := by
  have hgives := exists_gives charset h
  simp only [Descriptor.fields, List.forall_mem_cons] at hgives
  obtain ⟨⟨name, hname⟩, ⟨_, htransport⟩, ⟨_, hstart⟩, ⟨_, hseparator⟩, ⟨_, hverb⟩, ⟨_, hencoding⟩,
    ⟨charset', hcharset⟩, -⟩ := hgives
  obtain ⟨transport, rfl⟩ := htransport.exists_text
  obtain ⟨start, rfl⟩ := hstart.exists_text
  obtain ⟨separator, rfl, hne⟩ := exists_separator h hseparator
  obtain ⟨verb, rfl⟩ := hverb.exists_text
  obtain ⟨encoding, rfl⟩ := hencoding.exists_text
  refine ⟨⟨name, transport, start, separator, verb, encoding, charset', hne⟩, .intro ?_⟩
  simp only [Descriptor.fields, List.forall_mem_cons]
  exact ⟨hname, htransport, hstart, hseparator, hverb, hencoding, hcharset, List.forall_mem_nil _⟩

/-- An entry that is not broken describes something. -/
theorem exists_describes_of_not_broken (charset : LooseText) {item : Yaml.Data} (h : ¬Broken item) :
    ∃ d, Describes charset item d := by
  by_cases hmapping : ∃ entries, item = .dict entries
  · obtain ⟨entries, rfl⟩ := hmapping
    obtain ⟨members, hmembers⟩ : ∃ members, .dict entries = record members := by
      refine exists_record fun e he => ?_
      by_contra hkey
      exact h (.foreignKey he fun s hs => hkey ⟨s, hs⟩)
    rw [hmembers] at h ⊢
    exact exists_describes charset h
  · exact absurd (.notMapping fun entries hitem => hmapping ⟨entries, hitem⟩) h

theorem descriptor?_eq_none_iff {charset : LooseText} {item : Yaml.Data} :
    descriptor? charset item = none ↔ Broken item := by
  constructor
  · intro h
    by_contra hbroken
    obtain ⟨d, hd⟩ := exists_describes_of_not_broken charset hbroken
    rw [descriptor?_eq_some_iff.mpr hd] at h
    cases h
  · intro h
    cases hd : descriptor? charset item with
    | none => rfl
    | some d => exact absurd (descriptor?_eq_some_iff.mp hd) h.not_describes

end DescriptorFile

end DeviceRelay
