import DeviceRelay.Body
import DeviceRelay.Dictionary
import DeviceRelay.Proofs.Refusal

/-!
# Causes by their sorts

Three sorts of causes are foreseen: broken rules of envelopes, bodies that cannot be decoded, and broken rules of
a category. A cause that names a value is of its sort as long as the value can be written out, and a body fails by
its decoding only, unless the name of its charset cannot be looked for: a torn one, or one that holds the character
zero.

* `Fault.IsEnvelope`, `Fault.IsDecoding`, `Fault.BreaksRule` — the sorts.
* `failsOnly_naming_iff` — causes that name a value.
* `Body.failsOnly_text_iff`, `Body.failsOnly_read_iff` — bodies.
-/

namespace DeviceRelay

variable {α : Type}

namespace Fault

/-- The fault is a broken rule of envelopes. -/
def IsEnvelope (fault : Fault) : Prop := ∃ f, fault = .envelope f

/-- The fault is that the body cannot be decoded, and the body is kept in it. -/
def IsDecoding (body : Option Bytes) (fault : Fault) : Prop := ∃ reason, fault = .decoding reason body

/-- The fault is a rule that is broken at one of the fields. -/
def BreaksRule (fields : List String) (fault : Fault) : Prop :=
  ∃ field ∈ fields, ∃ reason, fault = .validation field reason

/-- The fault is one of those that the content of a reply is meant to be refused for: the body cannot be decoded,
or a rule is broken at one of the fields. -/
def RefusesContent (body : Option Bytes) (fields : List String) (fault : Fault) : Prop :=
  fault.IsDecoding body ∨ fault.BreaksRule fields

theorem not_refusesContent_epoch {body : Option Bytes} {fields : List String} (fault : EpochFault) :
    ¬(epoch fault).RefusesContent body fields := by
  simp [RefusesContent, IsDecoding, BreaksRule]

end Fault

theorem Fault.breaksRule {fields : List String} {field reason : String} (h : field ∈ fields) :
    (Fault.validation field reason).BreaksRule fields :=
  ⟨field, h, reason, rfl⟩

theorem FailsOnly.refusesContent {body : Option Bytes} {fields : List String} {x : Except Fault α}
    (h : FailsOnly (Fault.BreaksRule fields) x) : FailsOnly (Fault.RefusesContent body fields) x :=
  h.mono fun _ => Or.inr

/-! ### Causes that name a value -/

/-- The metric of that name, if there is one, can be written out. -/
def IsNameable (metrics : Dictionary Value) (name : String) : Prop :=
  ∀ v, metrics.get? name = some v → v.isWritable = true

/-- A cause that names a value is of its sort exactly if the value can be written out, and is of no foreseen
sort otherwise. -/
theorem failsOnly_naming_iff {P : Fault → Prop} (hP : ¬P .unwritable) {v : Value} {fault : Fault}
    (hfault : P fault) :
    FailsOnly P (.error (.naming v fault) : Except Fault α) ↔ v.isWritable = true := by
  rw [failsOnly_error, Fault.naming]
  cases v.isWritable with
  | true => simp [hfault]
  | false => simp [hP]

theorem failsOnly_breaksRuleNaming {fields : List String} {field reason : String} (h : field ∈ fields)
    {v : Value} (hv : v.isWritable = true) :
    FailsOnly (Fault.BreaksRule fields) (.error (.naming v (.validation field reason)) : Except Fault α) := by
  refine (failsOnly_naming_iff ?_ (Fault.breaksRule h)).mpr hv
  rintro ⟨field, -, reason, h⟩
  cases h

/-! ### Bodies -/

namespace Charset

/-- The name can be looked for, known or not: it is not torn, and the character zero is not in it. -/
def IsSearchable : LooseText → Prop
  | .text name => '\x00' ∉ name.toList
  | .torn _ => False

instance : (name : LooseText) → Decidable (IsSearchable name)
  | .text name => inferInstanceAs (Decidable ('\x00' ∉ name.toList))
  | .torn _ => inferInstanceAs (Decidable False)

/-- The name is that of a charset. -/
def IsKnown (name : LooseText) : Prop := IsSearchable name ∧ (ofName? name).isSome = true

instance (name : LooseText) : Decidable (IsKnown name) := by
  unfold IsKnown; infer_instance

theorem checkName_text {name : String} (h : '\x00' ∉ name.toList) : checkName name = .ok name := by
  rw [checkName, if_neg (by simpa using h)]

theorem exists_of_isSearchable {charset : LooseText} (h : IsSearchable charset) :
    ∃ name : String, charset = name ∧ checkName name = .ok name := by
  cases charset with
  | text name => exact ⟨name, rfl, checkName_text h⟩
  | torn t => exact h.elim

theorem exists_of_not_isSearchable {charset : LooseText} (h : ¬IsSearchable charset) :
    ∃ fault, checkName charset = .error fault := by
  cases charset with
  | text name => exact ⟨.zero, if_pos (by simpa [IsSearchable] using h)⟩
  | torn t => exact ⟨_, rfl⟩

end Charset

namespace Body

variable {charset : LooseText}

/-- A body that is no text cannot be decoded, and nothing else is wrong with it, whether the name of its charset is
known or not. Only a name that cannot be looked for gets in front of that. -/
theorem failsOnly_text_iff {body : Option Bytes} :
    FailsOnly (Fault.IsDecoding body) (text body charset) ↔ body = none ∨ Charset.IsSearchable charset := by
  cases body with
  | none => exact iff_of_true (failsOnly_error.mpr ⟨_, rfl⟩) (.inl rfl)
  | some bytes =>
    by_cases hcharset : Charset.IsSearchable charset
    · obtain ⟨name, rfl, hname⟩ := Charset.exists_of_isSearchable hcharset
      refine iff_of_true ?_ (.inr hcharset)
      simp only [text, hname]
      split
      · exact failsOnly_ok
      split
      · exact failsOnly_error.mpr ⟨_, rfl⟩
      split
      · exact failsOnly_error.mpr ⟨_, rfl⟩
      · exact failsOnly_ok
    · obtain ⟨fault, hfault⟩ := Charset.exists_of_not_isSearchable hcharset
      refine iff_of_false ?_ (by simpa using hcharset)
      simp only [text, hfault, failsOnly_error]
      rintro ⟨reason, h⟩
      cases h

/-- A document fails as its text does, or by a shape that it does not have. -/
theorem failsOnly_read_iff {body : Option Bytes} (shape : Shape) :
    FailsOnly (Fault.IsDecoding body) (read body shape charset) ↔ body = none ∨ Charset.IsSearchable charset := by
  refine failsOnly_bind.trans (Iff.trans (and_iff_left fun text _ => ?_) failsOnly_text_iff)
  split
  · exact failsOnly_error.mpr ⟨_, rfl⟩
  · exact failsOnly_ok

theorem failsOnly_text (hcharset : Charset.IsKnown charset) (body : Option Bytes) :
    FailsOnly (Fault.IsDecoding body) (text body charset) :=
  failsOnly_text_iff.mpr (.inr hcharset.1)

theorem failsOnly_read (hcharset : Charset.IsKnown charset) (body : Option Bytes) (shape : Shape) :
    FailsOnly (Fault.IsDecoding body) (read body shape charset) :=
  (failsOnly_read_iff shape).mpr (.inr hcharset.1)

/-- Behind the reading of a body only the steps on its document count. -/
theorem failsOnly_read_bind_iff (hcharset : Charset.IsKnown charset) {body : Option Bytes} (shape : Shape)
    {fields : List String} {f : shape.Item → Except Fault α} :
    FailsOnly (Fault.RefusesContent body fields) ((read body shape charset).bind f) ↔
      ∀ row, read body shape charset = .ok row → FailsOnly (Fault.RefusesContent body fields) (f row) := by
  rw [failsOnly_bind]
  exact and_iff_right ((failsOnly_read hcharset body shape).mono fun _ => Or.inl)

end Body

end DeviceRelay
