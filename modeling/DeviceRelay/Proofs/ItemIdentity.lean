import DeviceRelay.Proofs.Entries

/-!
# Items that keep apart

An item is made from an entry field by field. Most fields are copied, two dates go through a rounded quotient, and two
lists that are missing become empty ones. None of it makes two items of different entries equal:

    a.Agrees b  ⟺  item of a = item of b

* `Timestamp.eq_of_ofEpochMillis` — milliseconds with one timestamp are one number, wherever in the calendar.
* `ItemEntry.Agrees` — two entries say the same, and a missing list says what an empty one does.
-/

namespace DeviceRelay

/-- No two numbers of milliseconds have one timestamp, as the later one has a later timestamp. -/
theorem Timestamp.eq_of_ofEpochMillis {v w : Int} {t : Timestamp} (hv : ofEpochMillis v = .ok t)
    (hw : ofEpochMillis w = .ok t) : v = w := by
  rcases lt_trichotomy v w with hlt | heq | hgt
  · exact absurd (wall_lt_of_ofEpochMillis hv hw hlt) (lt_irrefl _)
  · exact heq
  · exact absurd (wall_lt_of_ofEpochMillis hw hv hgt) (lt_irrefl _)

namespace Keystore

/-- Two entries say the same. A missing list of names or certificates says what an empty one does. -/
@[mk_iff]
structure ItemEntry.Agrees (a b : ItemEntry) : Prop where
  servicePid : a.servicePid = b.servicePid
  entryAlias : a.entryAlias = b.entryAlias
  kind : a.kind = b.kind
  size : a.size = b.size
  algorithm : a.algorithm = b.algorithm
  subject : a.subject = b.subject
  subjectNames : a.subjectNames.getD [] = b.subjectNames.getD []
  issuer : a.issuer = b.issuer
  startDate : a.startDate = b.startDate
  expirationDate : a.expirationDate = b.expirationDate
  certificate : a.certificate = b.certificate
  certificateChain : a.certificateChain.getD [] = b.certificateChain.getD []

/-! ### Fields that change -/

/-- In the calendar a date is given where its milliseconds are, and they can be told from it. -/
theorem dateOf_injective {v w : Option Int} {t : Option Timestamp} (hv : dateOf v = .ok t) (hw : dateOf w = .ok t) :
    v = w := by
  cases v with
  | none =>
    obtain rfl := Except.ok.inj hv
    cases w with
    | none => rfl
    | some n =>
      obtain ⟨s, -, hs⟩ := map_eq_ok.mp hw
      cases hs
  | some m =>
    obtain ⟨s, hm, rfl⟩ := map_eq_ok.mp hv
    cases w with
    | none => cases hw
    | some n =>
      obtain ⟨r, hn, hr⟩ := map_eq_ok.mp hw
      obtain rfl := Option.some.inj hr
      rw [Timestamp.eq_of_ofEpochMillis (mapError_eq_ok.mp hm) (mapError_eq_ok.mp hn)]

theorem dateIn_eq_iff {v w : Option Int} (hv : ∀ n ∈ v, Timestamp.InCalendar n)
    (hw : ∀ n ∈ w, Timestamp.InCalendar n) : dateIn v = dateIn w ↔ v = w := by
  constructor
  · intro h
    exact dateOf_injective (dateOf_eq_ok_iff.mpr ⟨hv, h⟩) (dateOf_eq_ok_iff.mpr ⟨hw, rfl⟩)
  · rintro rfl
    rfl

/-- The names of a subject are copied one by one. -/
theorem map_subjectName_eq_iff {names others : List SubjectNameEntry} :
    (names.map fun n => (⟨n.kind, n.value⟩ : SubjectName)) = others.map (fun n => ⟨n.kind, n.value⟩) ↔
      names = others := by
  apply List.map_inj_right
  rintro ⟨kind, value⟩ ⟨kind', value'⟩ h
  obtain ⟨rfl, rfl⟩ := SubjectName.mk.inj h
  rfl

/-! ### Items -/

theorem ItemEntry.toItem_eq_iff {a b : ItemEntry} (ha : a.InCalendar) (hb : b.InCalendar) :
    a.toItem = b.toItem ↔ a.Agrees b := by
  rw [toItem, toItem, Item.mk.injEq, map_subjectName_eq_iff, dateIn_eq_iff ha.1 hb.1, dateIn_eq_iff ha.2 hb.2,
    agrees_iff]

/-- Two items are equal exactly if their entries say the same, and each of their dates is, exactly if the milliseconds
are. -/
theorem ItemEntry.item_eq_iff {a b : ItemEntry} {i j : Item} (ha : a.translate = .ok i) (hb : b.translate = .ok j) :
    (i = j ↔ a.Agrees b) ∧ (i.notBefore = j.notBefore ↔ a.startDate = b.startDate) ∧
      (i.notAfter = j.notAfter ↔ a.expirationDate = b.expirationDate) := by
  obtain ⟨hacceptable, rfl⟩ := translate_eq_ok_iff.mp ha
  obtain ⟨hacceptable', rfl⟩ := translate_eq_ok_iff.mp hb
  have hdates := hacceptable.dates
  have hdates' := hacceptable'.dates
  exact ⟨toItem_eq_iff hdates hdates', dateIn_eq_iff hdates.1 hdates'.1, dateIn_eq_iff hdates.2 hdates'.2⟩

/-- A certificate that lasts as long as the calendar, but for some milliseconds of its last second. -/
def lastItem (missing : Int) : ItemEntry :=
  { servicePid := some "SSLKeystore", entryAlias := "k", kind := none, size := some 0, algorithm := none, subject := none
    subjectNames := some [⟨some "DNS", none⟩], issuer := none, startDate := some (-62135596800000)
    expirationDate := some (253402300799999 - missing), certificate := none, certificateChain := none }

/-- One millisecond at the end of the calendar keeps two items apart, and a chain that is empty or missing does not. -/
theorem ItemEntry.item_eq_iff_lastItem :
    ∃ i j k, (lastItem 0).translate = .ok i ∧ (lastItem 1).translate = .ok j ∧
      { lastItem 1 with certificateChain := some [] }.translate = .ok k ∧ i ≠ j ∧ i.notAfter ≠ j.notAfter ∧ j = k := by
  obtain ⟨i, hi⟩ : ∃ i, (lastItem 0).translate = .ok i := exists_eq_ok_of_isSome (by decide +kernel)
  obtain ⟨j, hj⟩ : ∃ j, (lastItem 1).translate = .ok j := exists_eq_ok_of_isSome (by decide +kernel)
  obtain ⟨k, hk⟩ : ∃ k, { lastItem 1 with certificateChain := some [] }.translate = .ok k :=
    exists_eq_ok_of_isSome (by decide +kernel)
  obtain ⟨heq, -, hafter⟩ := item_eq_iff hi hj
  refine ⟨i, j, k, hi, hj, hk, ?_, ?_, ?_⟩
  · intro h
    exact absurd (heq.mp h).expirationDate (by decide)
  · intro h
    exact absurd (hafter.mp h) (by decide)
  · exact (item_eq_iff hj hk).1.mpr ⟨rfl, rfl, rfl, rfl, rfl, rfl, rfl, rfl, rfl, rfl, rfl, rfl⟩

end Keystore

end DeviceRelay
