import DeviceRelay.Proofs.Body
import DeviceRelay.Proofs.Charset.Spelling
import DeviceRelay.Proofs.Text.Loose

/-!
# Bodies that cannot be decoded

The name of a charset is free text, and the octets of a body are what a device sends. For every name and every body
there are to be two outcomes only: a text or document, or the refusal that keeps the body.

    name                    octets               outcome
    of a charset            spell a text in it   that text
                            spell none           refused
    of none                 none                 the empty text
                            some                 refused
    torn, or with the character zero             neither

* `Body.IsSettled` — the two outcomes, and when there is which.
* `Body.isSettled_iff` — names with a surrogate or with the character zero are the one exception.
-/

namespace DeviceRelay.Body

/-- The body cannot be decoded, which is said with the body itself. -/
def IsRefused {α : Type} (body : Option Bytes) (x : Except Fault α) : Prop :=
  ∃ reason, x = .error (.decoding reason body)

/-- A body is decoded as what its octets spell, or refused as one that cannot be decoded. -/
structure IsSettled (body : Option Bytes) (shape : Shape) (charset : LooseText) : Prop where
  text_fails : FailsOnly (Fault.IsDecoding body) (text body charset)
  read_fails : FailsOnly (Fault.IsDecoding body) (read body shape charset)
  spelled : ∀ bytes ∈ body, ∀ c ∈ Charset.ofName? charset, ∀ s, text body charset = .ok s ↔ c.Spells bytes s.toList
  misspelled : ∀ bytes ∈ body, ∀ c ∈ Charset.ofName? charset, (∀ cs, ¬c.Spells bytes cs) →
    IsRefused body (text body charset) ∧ IsRefused body (read body shape charset)
  unknown : ∀ bytes ∈ body, bytes ≠ [] → Charset.ofName? charset = none → ∃ name, charset = .text name ∧
    text body charset = .error (.decoding (.unknownCharset name) body) ∧
      read body shape charset = .error (.decoding (.unknownCharset name) body)

variable {body : Option Bytes} {charset : LooseText}

theorem read_of_text_error {fault : Fault} (h : text body charset = .error fault) (shape : Shape) :
    read body shape charset = .error fault := by
  show (text body charset).bind _ = _
  rw [h]
  rfl

theorem text_eq_ok_iff_spells (hcharset : Charset.IsSearchable charset) {bytes : Bytes} {c : Charset}
    (hc : Charset.ofName? charset = some c) {s : String} :
    text (some bytes) charset = .ok s ↔ c.Spells bytes s.toList := by
  rw [text_eq_ok_iff ⟨hcharset, by rw [hc]; rfl⟩, hc]
  simp [Charset.decode_eq_ok_iff]

/-- Octets under a name that is none of a charset's. -/
theorem text_of_unknown {name : String} (hname : Charset.checkName name = .ok name) {bytes : Bytes}
    (hbytes : bytes ≠ []) (hunknown : Charset.ofName? name = none) :
    text (some bytes) name = .error (.decoding (.unknownCharset name) (some bytes)) := by
  have hlength : ¬bytes.isEmpty = true := by simpa using hbytes
  simp only [text, hname, hunknown, if_neg hlength]

/-- What fails to be a text fails as what cannot be decoded. -/
theorem isRefused_of_forall_ne {α : Type} {x : Except Fault α} (hfails : FailsOnly (Fault.IsDecoding body) x)
    (h : ∀ a, x ≠ .ok a) : IsRefused body x := by
  cases x with
  | ok a => exact absurd rfl (h a)
  | error fault =>
    obtain ⟨reason, rfl⟩ := hfails fault rfl
    exact ⟨reason, rfl⟩

/-- Every body is settled under every name, known or not, that is made of characters other than the zero. Under the
others there is no body that is settled but the missing one. -/
theorem isSettled_iff (shape : Shape) : IsSettled body shape charset ↔
    body = none ∨ ∀ p ∈ charset.points, ∃ c, p = .char c ∧ c ≠ '\x00' := by
  rw [← Charset.isSearchable_iff]
  constructor
  · intro h
    exact failsOnly_text_iff.mp h.text_fails
  · intro h
    have htext : FailsOnly (Fault.IsDecoding body) (text body charset) := failsOnly_text_iff.mpr h
    rcases h with rfl | hcharset
    · exact ⟨htext, (failsOnly_read_iff shape).mpr (.inl rfl), by simp, by simp, by simp⟩
    refine ⟨htext, (failsOnly_read_iff shape).mpr (.inr hcharset), ?_, ?_, ?_⟩
    · rintro bytes rfl c hc s
      exact text_eq_ok_iff_spells hcharset hc
    · rintro bytes rfl c hc hspells
      have hrefused : IsRefused (some bytes) (text (some bytes) charset) :=
        isRefused_of_forall_ne htext fun s hs => hspells s.toList ((text_eq_ok_iff_spells hcharset hc).mp hs)
      obtain ⟨reason, hreason⟩ := hrefused
      exact ⟨⟨reason, hreason⟩, reason, read_of_text_error hreason shape⟩
    · rintro bytes rfl hbytes hunknown
      obtain ⟨name, rfl, hname⟩ := Charset.exists_of_isSearchable hcharset
      have htext := text_of_unknown hname hbytes hunknown
      exact ⟨name, rfl, htext, read_of_text_error htext shape⟩

/-- Even an empty body is not settled under a name that is one surrogate. -/
example : text (some []) (.torn ⟨"", 0, []⟩) = .error (.charsetName (.surrogates 0xD800 0 0)) := rfl

/-- Not every body is settled: one of a single letter is neither read nor refused under a name that ends in the
character zero. -/
theorem not_forall_isSettled :
    ¬∀ (body : Option Bytes) (shape : Shape) (charset : LooseText), IsSettled body shape charset := by
  intro h
  have hfails := (h (some [0x61]) Keystore.itemShape "utf-8\x00").text_fails (.charsetName .zero) (by rfl)
  obtain ⟨reason, hreason⟩ := hfails
  cases hreason

end DeviceRelay.Body
