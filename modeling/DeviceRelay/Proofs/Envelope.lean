import DeviceRelay.Envelope
import DeviceRelay.Registry.Packaged
import DeviceRelay.Proofs.Fault
import DeviceRelay.Proofs.ReplyTopic
import DeviceRelay.Proofs.Text.Numeral

/-!
# How envelopes are read, and how they fail

An envelope is meant to fail by the first rule of envelopes that it breaks. Two things get in between. A response
code in text is checked by one reading of blanks and digits and read by another, and a value that is named has
to be written out, which is not done for integers of more than 4300 digits.

    descriptor ──▶ channel ──▶ code ──────────────▶ what failed ──▶ where
                               │ deceptive text     │ unwritable    │ unwritable
                               │ unwritable value   ▼               ▼
                               ▼

* `ResponseCode.isDeceptive_iff` — the texts that pass the check of a code and are refused by its reader.
* `ResponseCode.failsOnly_read_iff` — when a code fails by a rule of envelopes only.
* `Envelope.read_eq_ok_iff`, `Envelope.read_congr` — an envelope is read part by part.
* `Envelope.failsOnly_isEnvelope_iff` — when a whole envelope does: nothing but these three metrics gets in between.
-/

namespace DeviceRelay

/-- A broken rule of envelopes that names a value. -/
theorem failsOnly_envelopeNaming_iff {α : Type} {v : Value} {f : EnvelopeFault} :
    FailsOnly Fault.IsEnvelope (.error (.naming v (.envelope f)) : Except Fault α) ↔
      v.isWritable = true := by
  refine failsOnly_naming_iff ?_ ⟨f, rfl⟩
  rintro ⟨f, h⟩
  cases h

theorem natAbs_le_of_toInt? {negative : Bool} {m : Nat} {e n : Int} {h : Binary64.Canonical m e}
    (hn : (Binary64.finite negative m e h).toInt? = some n) : n.natAbs ≤ m * Nat.pow 2 e.toNat := by
  unfold Binary64.toInt? Binary64.wholePart Binary64.scaled at hn
  dsimp only at hn
  split at hn
  · next whole hwhole =>
    obtain rfl := Option.some.inj hn
    obtain ⟨hn, -⟩ := Prod.mk.inj (Option.some.inj hwhole)
    rw [← hn]
    refine Nat.le_trans (Nat.le_of_eq ?_)
      (Nat.div_le_self (m * Nat.pow 2 e.toNat) (Nat.pow 2 (-e).toNat))
    split
    · rw [Int.natAbs_neg]
      rfl
    · rfl
  · cases hn

/-- The integers among the binary64 values may be written out. -/
theorem isWritable_of_toInt? {x : Binary64} {n : Int} (h : x.toInt? = some n) :
    Text.isWritable n = true := by
  cases x with
  | nan => cases h
  | infinite negative => cases h
  | finite negative m e hcanonical =>
    -- the greatest value has 1024 bits, and no more digits than bits
    have hm : m < Nat.pow 2 53 := hcanonical.1
    have hbits : 53 + e.toNat ≤ Text.digitLimit :=
      Nat.le_trans (Nat.add_le_add_left (Int.toNat_le.mpr hcanonical.2.1) 53) (by decide)
    refine Text.isWritable_of_lt_pow ?_ hbits
    calc n.natAbs ≤ m * Nat.pow 2 e.toNat := natAbs_le_of_toInt? h
      _ < Nat.pow 2 53 * Nat.pow 2 e.toNat := Nat.mul_lt_mul_of_pos_right hm (Nat.pow_pos (by decide))
      _ = Nat.pow 2 (53 + e.toNat) := (Nat.pow_add ..).symm
      _ ≤ Nat.pow 10 (53 + e.toNat) := Nat.pow_le_pow_left (by decide) _

/-! ### Response codes -/

namespace ResponseCode

/-- A text that looks like a number and is none: around its digits stand separators, or they are too many. -/
def IsDeceptive (s : String) : Prop :=
  Text.isDecimal (Text.trim s.toList) = true ∧
    ((∃ c ∈ s.toList, Text.isSeparator c = true) ∨ Text.digitLimit < (Text.trim s.toList).length)

/-- A deceptive text passes the check and is refused by the reader, and no other text is. -/
theorem isDeceptive_iff (s : String) :
    IsDeceptive s ↔ Text.isDecimal (Text.trim s.toList) = true ∧ ∀ n, Text.readInteger s ≠ .ok n := by
  unfold IsDeceptive
  refine and_congr_right fun hdecimal => ?_
  have hread := Text.readInteger_isOk_iff hdecimal
  rw [← not_exists, hread, Classical.not_and_iff_not_or_not, Nat.not_le]
  simp

/-- What a code's value is read as may be written out, unless it is an integer that may not. -/
theorem isWritable_of_numberOf {v : Value} {n : Int} (h : numberOf v = .ok n) :
    v.isWritable = Text.isWritable n := by
  cases v with
  | int k =>
    obtain rfl := Except.ok.inj h
    rfl
  | float x =>
    rw [numberOf] at h
    split at h
    · next hx =>
      obtain rfl := Except.ok.inj h
      exact (isWritable_of_toInt? hx).symm
    · cases h
  | text s =>
    rw [numberOf] at h
    split at h
    · next hdecimal => exact (Text.isWritable_of_readInteger hdecimal (mapError_eq_ok.mp h)).symm
    · cases h
  | _ => cases h

/-- A value that stands for no integer breaks a rule of envelopes, unless it is deceptive or cannot be written
out. -/
theorem failsOnly_numberOf_iff (v : Value) :
    FailsOnly Fault.IsEnvelope (numberOf v) ↔
      (∀ s, v = .text s → ¬IsDeceptive s) ∧ (v.isWritable = true ∨ ∃ n, v = .int n) := by
  cases v with
  | bool b => simp [numberOf, failsOnly_error, Fault.IsEnvelope, Value.isWritable]
  | int n => simp [numberOf, failsOnly_ok]
  | float x =>
    rw [numberOf]
    split
    · simp [failsOnly_ok, Value.isWritable]
    · simp [failsOnly_error, Fault.IsEnvelope, Value.isWritable]
  | text s =>
    have hdeceptive := isDeceptive_iff s
    rw [numberOf]
    split
    · next hdecimal =>
      cases hread : Text.readInteger s with
      | ok n => simp [mapError_ok, failsOnly_ok, Value.isWritable, hdeceptive, hread]
      | error fault =>
        simp [mapError_error, failsOnly_error, Fault.IsEnvelope, hdeceptive, hread, hdecimal]
    · next hdecimal => simp [failsOnly_error, Fault.IsEnvelope, Value.isWritable, hdeceptive, hdecimal]
  | _ => simp [numberOf, failsOnly_envelopeNaming_iff]

theorem isWritable_of_ofNumber? {n : Int} {code : ResponseCode} (h : ofNumber? n = some code) :
    Text.isWritable n = true := by
  have hlt : n.natAbs < 1000 := by
    unfold ofNumber? at h
    split at h
    · omega
    split at h
    · omega
    split at h
    · omega
    split at h
    · omega
    · cases h
  exact Text.isWritable_of_lt_pow (show n.natAbs < Nat.pow 10 3 from hlt) (by decide)

/-- An integer that is no code breaks a rule of envelopes, unless it cannot be written out. -/
theorem failsOnly_codeOf_iff (n : Int) :
    FailsOnly Fault.IsEnvelope (match ofNumber? n with
      | some code => .ok code
      | none => .error (.naming (.int n) (.envelope (.unsupportedCode n)))) ↔
      Text.isWritable n = true := by
  split
  · next code hcode => simp [failsOnly_ok, isWritable_of_ofNumber? hcode]
  · rw [failsOnly_envelopeNaming_iff, Value.isWritable]

/-- A code fails by a rule of envelopes only, unless it is a deceptive text or cannot be written out. -/
theorem failsOnly_read_iff (metrics : Dictionary Value) :
    FailsOnly Fault.IsEnvelope (read metrics) ↔
      (∀ s, metrics.get? metric = some (.text s) → ¬IsDeceptive s) ∧ IsNameable metrics metric := by
  unfold read IsNameable
  split
  · next hget => simp [failsOnly_ok, hget]
  · next hget => simp [failsOnly_ok, hget, Value.isWritable]
  · next v hnull hget =>
    simp only [hget, Option.some.injEq, forall_eq']
    refine failsOnly_bind.trans ?_
    -- an integer is named only if it is no code, and then it has to be written out after all
    rw [failsOnly_numberOf_iff, and_assoc]
    refine and_congr_right fun _ => ⟨?_, fun hv => ⟨Or.inl hv, ?_⟩⟩
    · rintro ⟨hv | ⟨n, rfl⟩, hcode⟩
      · exact hv
      · exact (failsOnly_codeOf_iff n).mp (hcode n rfl)
    · intro n hn
      exact (failsOnly_codeOf_iff n).mpr (isWritable_of_numberOf hn ▸ hv)

end ResponseCode

/-! ### Envelopes -/

namespace Envelope

/-- Each part of the envelope is read from the part of the message that is meant for it. -/
structure IsOf (e : Envelope) (raw : RawMessage) (registry : Registry) : Prop where
  descriptor : resolve raw registry = .ok e.descriptor
  channel : ReplyChannel.read raw.topic e.descriptor = .ok e.channel
  code : ResponseCode.read raw.metrics = .ok e.code
  exceptionMessage : wordsOf raw.metrics messageMetric = .ok e.exceptionMessage
  exceptionStack : wordsOf raw.metrics stackMetric = .ok e.exceptionStack
  metrics : e.metrics = raw.metrics.filterNames fun name => !ownMetrics.contains name
  raw : e.raw = raw

/-- An envelope is read exactly from the messages that it is of. -/
theorem read_eq_ok_iff {raw : RawMessage} {registry : Registry} {e : Envelope} :
    read raw registry = .ok e ↔ e.IsOf raw registry := by
  constructor
  · intro h
    obtain ⟨d, hd, h⟩ := bind_eq_ok.mp h
    obtain ⟨channel, hchannel, h⟩ := bind_eq_ok.mp h
    obtain ⟨code, hcode, h⟩ := bind_eq_ok.mp h
    obtain ⟨message, hmessage, h⟩ := bind_eq_ok.mp h
    obtain ⟨stack, hstack, h⟩ := bind_eq_ok.mp h
    obtain rfl := Except.ok.inj h
    exact ⟨mapError_eq_ok.mp hd, mapError_eq_ok.mp hchannel, hcode, hmessage, hstack, rfl, rfl⟩
  · rintro ⟨hd, hchannel, hcode, hmessage, hstack, hmetrics, rfl⟩
    unfold read
    rw [hd, mapError_ok]
    show ((ReplyChannel.read e.raw.topic e.descriptor).mapError Fault.envelope).bind _ = _
    rw [hchannel, mapError_ok]
    show (ResponseCode.read e.raw.metrics).bind _ = _
    rw [hcode]
    show (wordsOf e.raw.metrics messageMetric).bind _ = _
    rw [hmessage]
    show (wordsOf e.raw.metrics stackMetric).bind _ = _
    rw [hstack]
    show Except.ok _ = _
    rw [← hmetrics]

/-- Two messages have one envelope, apart from what they are and the metrics that are left over, if each part of it is
read alike. -/
theorem read_congr {raw raw' : RawMessage} (hname : raw'.connectorName = raw.connectorName)
    (htopic : raw'.topic = raw.topic) (hcode : ResponseCode.read raw'.metrics = ResponseCode.read raw.metrics)
    (hwords : ∀ name ∈ ownMetrics, wordsOf raw'.metrics name = wordsOf raw.metrics name) (registry : Registry) :
    read raw' registry = (read raw registry).map fun e =>
      { e with raw := raw', metrics := raw'.metrics.filterNames fun name => !ownMetrics.contains name } := by
  have hresolve : resolve raw' registry = resolve raw registry := by rw [resolve, resolve, hname]
  rw [read, read, hresolve, htopic, hcode, hwords messageMetric (by decide), hwords stackMetric (by decide)]
  symm
  refine map_bind.trans (congrArg (Except.bind _) (funext fun d => ?_))
  refine map_bind.trans (congrArg (Except.bind _) (funext fun channel => ?_))
  refine map_bind.trans (congrArg (Except.bind _) (funext fun code => ?_))
  refine map_bind.trans (congrArg (Except.bind _) (funext fun message => ?_))
  refine map_bind.trans (congrArg (Except.bind _) (funext fun stack => ?_))
  rfl

/-- The descriptor of a message's connector is the one that the registry knows. -/
theorem lookup_of_resolve {raw : RawMessage} {registry : Registry} {d : Descriptor}
    (h : resolve raw registry = .ok d) : registry.lookup raw.connectorName = some d := by
  unfold resolve at h
  split at h
  · cases h
  · next known hknown =>
    obtain ⟨-, hok⟩ := ite_error_eq_ok.mp ((ite_not _ _ _).trans h)
    rw [hknown, Except.ok.inj hok]

theorem lookup_of_read {raw : RawMessage} {registry : Registry} {e : Envelope}
    (h : read raw registry = .ok e) : registry.lookup raw.connectorName = some e.descriptor :=
  lookup_of_resolve (read_eq_ok_iff.mp h).descriptor

theorem failsOnly_wordsOf_iff (metrics : Dictionary Value) (name : String) :
    FailsOnly Fault.IsEnvelope (wordsOf metrics name) ↔ IsNameable metrics name := by
  unfold wordsOf IsNameable
  split
  · next hget => simp [failsOnly_ok, hget]
  · next hget => simp [failsOnly_ok, hget, Value.isWritable]
  · next v hnull hget =>
    cases hv : v.isWritable <;> simp [failsOnly_ok, failsOnly_error, Fault.IsEnvelope, hget, hv]

theorem exists_wordsOf_eq {metrics : Dictionary Value} {name : String} (h : IsNameable metrics name) :
    ∃ words, wordsOf metrics name = .ok words := by
  unfold wordsOf
  split
  · exact ⟨none, rfl⟩
  · exact ⟨none, rfl⟩
  · next v hnull hget => exact ⟨some v.plain, if_pos (h v hget)⟩

/-- What a device says about a failure is named in two metrics. -/
theorem failsOnly_remarks_iff (metrics : Dictionary Value) {f : Option String → Option String → Envelope} :
    FailsOnly Fault.IsEnvelope ((wordsOf metrics messageMetric).bind fun message =>
      (wordsOf metrics stackMetric).bind fun stack => .ok (f message stack)) ↔
      IsNameable metrics messageMetric ∧ IsNameable metrics stackMetric := by
  have hwords : ∀ name, FailsOnly Fault.IsEnvelope (wordsOf metrics name) →
      ∃ words, wordsOf metrics name = .ok words :=
    fun name h => exists_wordsOf_eq ((failsOnly_wordsOf_iff metrics name).mp h)
  rw [← failsOnly_wordsOf_iff, ← failsOnly_wordsOf_iff]
  refine failsOnly_bind_of_succeeds (hwords messageMetric) fun message => ?_
  rw [failsOnly_bind_of_succeeds (hwords stackMetric) fun stack => iff_true_intro failsOnly_ok, and_true]

/-- An envelope fails by a rule of envelopes only, exactly if behind a frame without faults the code is no
deceptive text and can be written out, and behind a code so can what the device says about a failure. -/
theorem failsOnly_isEnvelope_iff (raw : RawMessage) (registry : Registry) :
    FailsOnly Fault.IsEnvelope (read raw registry) ↔
      ∀ d, resolve raw registry = .ok d → ∀ channel, ReplyChannel.read raw.topic d = .ok channel →
        ((∀ s, raw.metrics.get? ResponseCode.metric = some (.text s) → ¬ResponseCode.IsDeceptive s) ∧
          IsNameable raw.metrics ResponseCode.metric) ∧
        ∀ code, ResponseCode.read raw.metrics = .ok code →
          IsNameable raw.metrics messageMetric ∧ IsNameable raw.metrics stackMetric := by
  have hframe : ∀ {α : Type} {x : Except EnvelopeFault α},
      FailsOnly Fault.IsEnvelope (x.mapError .envelope) := failsOnly_mapError fun f => ⟨f, rfl⟩
  refine failsOnly_bind.trans ?_
  rw [and_iff_right hframe]
  refine forall_congr' fun d => ?_
  rw [mapError_eq_ok]
  refine imp_congr_right fun _ => failsOnly_bind.trans ?_
  rw [and_iff_right hframe]
  refine forall_congr' fun channel => ?_
  rw [mapError_eq_ok]
  refine imp_congr_right fun _ => failsOnly_bind.trans ?_
  rw [ResponseCode.failsOnly_read_iff]
  refine and_congr_right fun _ => forall_congr' fun code => imp_congr_right fun _ => ?_
  exact failsOnly_remarks_iff raw.metrics

/-! ### A code that goes astray -/

/-- A topic with nothing wrong. -/
def framedTopic : String := "$EDC/acme/gw-1/KEYS-V1/REPLY/req-1"

/-- A reply with nothing wrong with its frame. -/
def framed (body : Option Bytes) (metrics : Dictionary Value) : RawMessage :=
  { connectorName := "kura-mqtt", topic := framedTopic, body, metrics
    receivedOn := .utc 0, sentOn := none, metadata := .empty }

/-- The descriptor of its connector. -/
def framedDescriptor : Descriptor := packagedDescriptor "kura-mqtt" "mqtt" "/" Descriptor.slash_ne

/-- The channel of its topic. -/
def framedChannel : ReplyChannel := ⟨"acme", "gw-1", "KEYS", "V1", "REPLY", some "req-1", []⟩

theorem resolve_framed (body : Option Bytes) (metrics : Dictionary Value) :
    resolve (framed body metrics) .packaged = .ok framedDescriptor := rfl

theorem read_framedTopic : ReplyChannel.read framedTopic framedDescriptor = .ok framedChannel :=
  ReplyChannel.read_eq_ok_iff.mpr
    ⟨by decide +kernel, rfl, by decide, by decide, by decide, by decide, by decide, by decide⟩

/-- A code with a separator in front of its digits. -/
def separatedCode : Dictionary Value := .ofList [(ResponseCode.metric, .text "\x1c400")]

theorem not_forall_failsOnly_isEnvelope :
    ¬∀ raw registry, FailsOnly Fault.IsEnvelope (read raw registry) := by
  intro h
  have hread : read (framed none separatedCode) .packaged = .error (.numeral (.malformed 10 "\x1c400")) := by
    unfold read
    rw [resolve_framed, mapError_ok]
    show ((ReplyChannel.read framedTopic framedDescriptor).mapError Fault.envelope).bind _ = _
    rw [read_framedTopic, mapError_ok]
    rfl
  obtain ⟨f, hf⟩ := h _ _ _ hread
  cases hf

end Envelope

end DeviceRelay
