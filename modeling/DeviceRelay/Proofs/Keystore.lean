import DeviceRelay.Keystore.Reading
import DeviceRelay.Proofs.Fault
import DeviceRelay.Proofs.Text.Blank
import DeviceRelay.Proofs.Timestamp.EpochMillis

/-!
# Keystores that are let through, and those that are not

Stores, items and signing requests are checked as devices write them, and promised as they come out: with dates
instead of milliseconds, and trimmed. The rules survive that. Refusals are less tidy, as no rule says that the dates
of an item lie in the calendar:

    entry ──check──▶ startDate ──▶ expirationDate ──▶ item
            │        │             │
            rule     calendar      calendar

* `lawful_of_readStores`, `lawful_of_readItems`, `lawful_of_readItem`, `lawful_of_readRequest` — what is let
  through keeps its rules.
* `failsOnly_readStores`, `failsOnly_readRequest` — stores and signing requests are refused for their body or by
  a rule.
* `failsOnly_readItems_iff`, `failsOnly_readItem_iff` — items are, as long as the dates that decide stay in the
  calendar.
-/

namespace DeviceRelay

/-- The instant of `s` is not after that of `t`; both have to have one. -/
def Timestamp.NotAfter (s t : Timestamp) : Prop :=
  ∃ a ∈ s.offset, ∃ b ∈ t.offset, s.wall - a ≤ t.wall - b

theorem Timestamp.notAfter_of_ofEpochMillis {a b : Int} {s t : Timestamp} (hs : ofEpochMillis a = .ok s)
    (ht : ofEpochMillis b = .ok t) (h : a ≤ b) : s.NotAfter t := by
  refine ⟨0, (wall_of_ofEpochMillis hs).1, 0, (wall_of_ofEpochMillis ht).1, ?_⟩
  rcases eq_or_lt_of_le h with rfl | hlt
  · obtain rfl := Except.ok.inj (hs.symm.trans ht)
    exact le_refl _
  · have := wall_lt_of_ofEpochMillis hs ht hlt
    omega

namespace Keystore

/-- What every keystore keeps to. -/
structure Store.Lawful (s : Store) : Prop where
  id_ne : Text.isBlankText s.id = false
  size_nonneg : ∀ n ∈ s.size, 0 ≤ n

/-- What every item keeps to. -/
structure Item.Lawful (i : Item) : Prop where
  alias_ne : Text.isBlankText i.entryAlias = false
  size_nonneg : ∀ n ∈ i.size, 0 ≤ n
  chain_ne : ∀ certificate ∈ i.certificateChain, Text.isBlankText certificate = false
  dates_le : ∀ s ∈ i.notBefore, ∀ t ∈ i.notAfter, s.NotAfter t

/-- What every signing request keeps to. -/
structure SigningRequest.Lawful (r : SigningRequest) : Prop where
  head_ne : ∀ c ∈ r.text.toList.head?, Text.isBlank c = false
  last_ne : ∀ c ∈ r.text.toList.getLast?, Text.isBlank c = false
  header : ∃ header ∈ requestHeaders, header.toList <+: r.text.toList

/-! ### Rules -/

/-- The fields of a keystore that have rules. -/
def storeFields : List String := ["keystoreServicePid", "size"]

/-- The fields of an item that have rules. -/
def itemFields : List String := ["alias", "size", "certificateChain", "startDate"]

/-- The field that a signing request stands for in faults. -/
def requestFields : List String := ["signingRequest"]

theorem checkSize_eq_ok_iff {size : Option Int} : checkSize size = .ok () ↔ ∀ n ∈ size, 0 ≤ n := by
  cases size with
  | none => simp [checkSize]
  | some n =>
    rw [checkSize, ite_error_eq_ok]
    simp

theorem failsOnly_checkSize {fields : List String} (h : "size" ∈ fields) (size : Option Int) :
    FailsOnly (Fault.BreaksRule fields) (checkSize size) := by
  cases size with
  | none => exact failsOnly_ok
  | some n => exact failsOnly_ite (Fault.breaksRule h) failsOnly_ok

theorem StoreEntry.failsOnly_check (e : StoreEntry) : FailsOnly (Fault.BreaksRule storeFields) e.check :=
  failsOnly_ite (Fault.breaksRule (by decide)) (failsOnly_checkSize (by decide) e.size)

theorem ItemEntry.failsOnly_check (e : ItemEntry) : FailsOnly (Fault.BreaksRule itemFields) e.check := by
  refine failsOnly_ite (Fault.breaksRule (by decide)) (failsOnly_bind.mpr ⟨?_, fun _ _ => ?_⟩)
  · exact failsOnly_checkSize (by decide) e.size
  · exact failsOnly_ite (Fault.breaksRule (by decide))
      (failsOnly_ite (Fault.breaksRule (by decide)) failsOnly_ok)

/-- The rules of an item, one by one. -/
theorem ItemEntry.check_eq_ok_iff (e : ItemEntry) :
    e.check = .ok () ↔
      Text.isBlankText e.entryAlias = false ∧ (∀ n ∈ e.size, 0 ≤ n) ∧
        (∀ certificate ∈ e.certificateChain.getD [], Text.isBlankText certificate = false) ∧
        ∀ start ∈ e.startDate, ∀ expiration ∈ e.expirationDate, start ≤ expiration := by
  have hends : e.endsBeforeStart = false ↔
      ∀ start ∈ e.startDate, ∀ expiration ∈ e.expirationDate, start ≤ expiration := by
    unfold ItemEntry.endsBeforeStart
    cases e.startDate <;> cases e.expirationDate <;> simp
  unfold ItemEntry.check
  rw [← hends, ← checkSize_eq_ok_iff, ite_error_eq_ok, Bool.not_eq_true]
  refine and_congr_right fun _ => check_bind_eq_ok.trans ?_
  rw [ite_error_eq_ok, ite_error_eq_ok]
  simp

/-- A keystore that is let through keeps its rules. -/
theorem StoreEntry.lawful_of_translate {e : StoreEntry} {s : Store} (h : e.translate = .ok s) :
    s.Lawful := by
  obtain ⟨hcheck, hs⟩ := check_bind_eq_ok.mp h
  obtain rfl := Except.ok.inj hs
  obtain ⟨hid, hsize⟩ := ite_error_eq_ok.mp hcheck
  exact ⟨by simpa using hid, checkSize_eq_ok_iff.mp hsize⟩

theorem StoreEntry.failsOnly_translate (e : StoreEntry) :
    FailsOnly (Fault.BreaksRule storeFields) e.translate :=
  failsOnly_bind.mpr ⟨e.failsOnly_check, fun _ _ => failsOnly_ok⟩

/-! ### Dates -/

/-- The dates that are given lie in the calendar. -/
def ItemEntry.InCalendar (e : ItemEntry) : Prop :=
  (∀ millis ∈ e.startDate, Timestamp.InCalendar millis) ∧
    ∀ millis ∈ e.expirationDate, Timestamp.InCalendar millis

theorem dateOf_isOk_iff {millis : Option Int} :
    (∃ t, dateOf millis = .ok t) ↔ ∀ n ∈ millis, Timestamp.InCalendar n := by
  cases millis with
  | none => simp [dateOf]
  | some n =>
    simp only [dateOf, map_eq_ok, mapError_eq_ok, Option.mem_some_iff, forall_eq']
    rw [← Timestamp.ofEpochMillis_isOk_iff]
    simp

theorem exists_of_dateOf {millis : Option Int} {t : Timestamp} (h : dateOf millis = .ok (some t)) :
    ∃ n ∈ millis, Timestamp.ofEpochMillis n = .ok t := by
  cases millis with
  | none => cases h
  | some n =>
    obtain ⟨s, hs, ht⟩ := map_eq_ok.mp h
    obtain rfl := Option.some.inj ht
    exact ⟨n, rfl, mapError_eq_ok.mp hs⟩

/-- A date fails by being none, and never by a rule. -/
theorem failsOnly_dateOf_iff {body : Option Bytes} {fields : List String} {millis : Option Int} :
    FailsOnly (Fault.RefusesContent body fields) (dateOf millis) ↔ ∃ t, dateOf millis = .ok t := by
  cases millis with
  | none => simp [dateOf, failsOnly_ok]
  | some n =>
    rw [dateOf]
    cases Timestamp.ofEpochMillis n with
    | ok t => simp [mapError_ok, Except.map, failsOnly_ok]
    | error fault =>
      simp [mapError_error, Except.map, failsOnly_error, Fault.not_refusesContent_epoch]

/-- An item that is let through keeps its rules; its dates are ordered as their milliseconds are. -/
theorem ItemEntry.lawful_of_translate {e : ItemEntry} {i : Item} (h : e.translate = .ok i) : i.Lawful := by
  obtain ⟨hcheck, h⟩ := check_bind_eq_ok.mp h
  obtain ⟨notBefore, hbefore, h⟩ := bind_eq_ok.mp h
  obtain ⟨notAfter, hafter, h⟩ := bind_eq_ok.mp h
  obtain rfl := Except.ok.inj h
  obtain ⟨halias, hsize, hchain, hdates⟩ := e.check_eq_ok_iff.mp hcheck
  refine ⟨halias, hsize, hchain, ?_⟩
  -- the rule orders milliseconds, and what is asked for is the order of what they became
  intro s hs t ht
  obtain rfl := Option.mem_def.mp hs
  obtain rfl := Option.mem_def.mp ht
  obtain ⟨start, hstart, hs⟩ := exists_of_dateOf hbefore
  obtain ⟨expiration, hexpiration, ht⟩ := exists_of_dateOf hafter
  exact Timestamp.notAfter_of_ofEpochMillis hs ht (hdates start hstart expiration hexpiration)

/-! ### Refusals -/

variable {body : Option Bytes}

/-- An item that keeps its rules is refused in another way if a date is beyond the calendar. -/
theorem ItemEntry.failsOnly_translate_iff (e : ItemEntry) :
    FailsOnly (Fault.RefusesContent body itemFields) e.translate ↔ (e.check = .ok () → e.InCalendar) := by
  -- behind the rules nothing but the two dates can fail
  have hdates : ∀ f : Option Timestamp → Option Timestamp → Item,
      FailsOnly (Fault.RefusesContent body itemFields) ((dateOf e.startDate).bind fun notBefore =>
        (dateOf e.expirationDate).bind fun notAfter => .ok (f notBefore notAfter)) ↔ e.InCalendar := by
    intro f
    rw [failsOnly_bind_of_succeeds failsOnly_dateOf_iff.mp fun notBefore =>
        failsOnly_bind_of_succeeds failsOnly_dateOf_iff.mp fun notAfter => iff_true_intro failsOnly_ok,
      and_true, failsOnly_dateOf_iff, failsOnly_dateOf_iff, dateOf_isOk_iff, dateOf_isOk_iff]
    rfl
  refine failsOnly_bind.trans ?_
  rw [and_iff_right e.failsOnly_check.refusesContent]
  exact ⟨fun h hcheck => (hdates _).mp (h () hcheck), fun h _ hcheck => (hdates _).mpr (h hcheck)⟩

/-- Up to the first entry that is refused, no entry that keeps the rules has a date beyond the calendar. -/
def StayInCalendar (entries : List ItemEntry) : Prop :=
  ∀ front entry back, entries = front ++ entry :: back → (∀ e ∈ front, ∃ i, e.translate = .ok i) →
    entry.check = .ok () → entry.InCalendar

theorem stayInCalendar_nil : StayInCalendar [] := by
  intro front entry back h
  simp at h

theorem stayInCalendar_singleton {entry : ItemEntry} :
    StayInCalendar [entry] ↔ (entry.check = .ok () → entry.InCalendar) := by
  constructor
  · exact fun h => h [] entry [] rfl (by simp)
  · rintro h front e back heq -
    cases front with
    | nil =>
      obtain ⟨rfl, -⟩ := List.cons.inj heq
      exact h
    | cons a rest => simp at heq

theorem failsOnly_translateRows_iff {α : Type} {rows : List α} {entryOf : α → ItemEntry} :
    FailsOnly (Fault.RefusesContent body itemFields) (rows.mapM fun row => (entryOf row).translate) ↔
      StayInCalendar (rows.map entryOf) := by
  have hmap : (rows.map entryOf).mapM ItemEntry.translate = rows.mapM fun row => (entryOf row).translate :=
    List.mapM_map
  rw [← hmap, failsOnly_mapM_iff]
  simp only [ItemEntry.failsOnly_translate_iff]
  rfl

/-! ### Bodies -/

theorem lawful_of_readStores {body : Bytes} {charset : LooseText} {stores : List Store}
    (h : readStores body charset = .ok stores) : ∀ s ∈ stores, s.Lawful := by
  obtain ⟨rows, -, hrows⟩ := bind_eq_ok.mp h
  exact forall_mem_of_mapM hrows fun _ _ => StoreEntry.lawful_of_translate

theorem lawful_of_readItems {body : Bytes} {charset : LooseText} {items : List Item}
    (h : readItems body charset = .ok items) : ∀ i ∈ items, i.Lawful := by
  obtain ⟨rows, -, hrows⟩ := bind_eq_ok.mp h
  exact forall_mem_of_mapM hrows fun _ _ => ItemEntry.lawful_of_translate

theorem lawful_of_readItem {body : Bytes} {charset : LooseText} {item : Item}
    (h : readItem body charset = .ok item) : item.Lawful := by
  obtain ⟨row, -, hrow⟩ := bind_eq_ok.mp h
  exact ItemEntry.lawful_of_translate hrow

/-- A signing request is trimmed before its header is looked at. -/
theorem SigningRequest.lawful_of_ofText {text : List Char} {r : SigningRequest}
    (h : SigningRequest.ofText text = .ok r) : r.Lawful := by
  unfold SigningRequest.ofText at h
  dsimp only at h
  split at h
  · next hheader =>
    obtain rfl := Except.ok.inj h
    obtain ⟨header, hmem, hprefix⟩ := List.any_eq_true.mp hheader
    refine ⟨?_, ?_, header, hmem, ?_⟩
    · intro c hc
      rw [String.toList_ofList] at hc
      exact Text.head?_trimBy hc
    · intro c hc
      rw [String.toList_ofList] at hc
      exact Text.getLast?_trimBy hc
    · rw [String.toList_ofList]
      exact List.isPrefixOf_iff_prefix.mp hprefix
  · cases h

theorem lawful_of_readRequest {body : Bytes} {charset : LooseText} {r : SigningRequest}
    (h : readRequest body charset = .ok r) : r.Lawful := by
  obtain ⟨text, -, htext⟩ := bind_eq_ok.mp h
  exact SigningRequest.lawful_of_ofText htext

section Refusals

variable {charset : LooseText} (hcharset : Charset.IsKnown charset)

include hcharset

theorem failsOnly_readStores (body : Bytes) :
    FailsOnly (Fault.RefusesContent (some body) storeFields) (readStores body charset) :=
  (Body.failsOnly_read_bind_iff hcharset storesShape).mpr fun _ _ =>
    failsOnly_mapM fun row => (StoreEntry.ofItem row).failsOnly_translate.refusesContent

theorem failsOnly_readItems_iff (body : Bytes) :
    FailsOnly (Fault.RefusesContent (some body) itemFields) (readItems body charset) ↔
      ∀ rows : List itemSchema.Item, Body.read (some body) itemsShape charset = .ok rows →
        StayInCalendar (rows.map ItemEntry.ofItem) := by
  refine (Body.failsOnly_read_bind_iff hcharset itemsShape).trans ?_
  exact forall_congr' fun rows => imp_congr_right fun _ => failsOnly_translateRows_iff

theorem failsOnly_readItem_iff (body : Bytes) :
    FailsOnly (Fault.RefusesContent (some body) itemFields) (readItem body charset) ↔
      ∀ row : itemSchema.Item, Body.read (some body) itemShape charset = .ok row →
        StayInCalendar [ItemEntry.ofItem row] := by
  refine (Body.failsOnly_read_bind_iff hcharset itemShape).trans ?_
  refine forall_congr' fun row => imp_congr_right fun _ => ?_
  rw [stayInCalendar_singleton]
  exact (ItemEntry.ofItem row).failsOnly_translate_iff

theorem failsOnly_readRequest (body : Bytes) :
    FailsOnly (Fault.RefusesContent (some body) requestFields) (readRequest body charset) := by
  refine failsOnly_bind.mpr ⟨(Body.failsOnly_text hcharset _).mono fun _ => Or.inl, fun text _ => ?_⟩
  unfold SigningRequest.ofText
  dsimp only
  split
  · exact failsOnly_ok
  · exact failsOnly_error.mpr (Or.inr (Fault.breaksRule (by decide)))

end Refusals

end Keystore

end DeviceRelay
