import DeviceRelay.Failure
import DeviceRelay.Proofs.Content

/-!
# Causes are no rejections

A rejection keeps the cause that a step of the translation gave, and no step gives a rejection as a cause. The sorts
of causes that are told apart have kinds of their own; what is left are causes from elsewhere, which might have any
kind, and no step has one of these. Here nothing is asked of charsets and metrics: that a cause is of another sort
than the one that is meant does not make it a rejection.

* `Fault.IsPlain.kindName_ne` — the kinds of such causes are not that of a rejection.
* `ReplyCategory.failsOnly_isPlain`, `Category.failsOnly_isPlain` — contents and messages fail with nothing else.
-/

namespace DeviceRelay

/-- The cause is of one of the sorts that are told apart. -/
def Fault.IsPlain (fault : Fault) : Prop := ∀ kind message, fault ≠ .unexpected kind message

namespace Fault

theorem IsPlain.kindName_ne {fault : Fault} (h : fault.IsPlain) (cause : Fault) (raw : RawMessage) :
    fault.kindName ≠ (Failure.rejected cause raw).kindName := by
  cases fault with
  | unexpected kind message =>
    -- such a cause might be called anything
    exact absurd rfl (h kind message)
  | epoch fault => cases fault <;> simp [kindName, epochKind, Failure.kindName]
  | charsetName fault => cases fault <;> simp [kindName, Charset.NameFault.kindName, Failure.kindName]
  | _ => simp [kindName, Failure.kindName]

theorem isPlain_naming {fault : Fault} (h : fault.IsPlain) (v : Value) : (naming v fault).IsPlain := by
  unfold naming
  split
  · exact h
  · exact fun _ _ heq => nomatch heq

theorem isPlain_envelope (f : EnvelopeFault) : (envelope f).IsPlain := fun _ _ heq => nomatch heq

theorem isPlain_validation (field reason : String) : (validation field reason).IsPlain := fun _ _ heq => nomatch heq

theorem isPlain_decoding (reason : DecodingReason) (body : Option Bytes) : (decoding reason body).IsPlain :=
  fun _ _ heq => nomatch heq

theorem BreaksRule.isPlain {fields : List String} {fault : Fault} (h : fault.BreaksRule fields) : fault.IsPlain := by
  obtain ⟨field, -, reason, rfl⟩ := h
  exact isPlain_validation field reason

end Fault

section Plain

variable {α : Type}

theorem FailsOnly.isPlain {fields : List String} {x : Except Fault α} (h : FailsOnly (Fault.BreaksRule fields) x) :
    FailsOnly Fault.IsPlain x :=
  h.mono fun _ => Fault.BreaksRule.isPlain

/-! ### Envelopes -/

theorem ResponseCode.failsOnly_isPlain (metrics : Dictionary Value) :
    FailsOnly Fault.IsPlain (ResponseCode.read metrics) := by
  have hnumber : ∀ v, FailsOnly Fault.IsPlain (numberOf v) := by
    intro v
    unfold numberOf
    split
    · exact failsOnly_error.mpr (Fault.isPlain_envelope _)
    · exact failsOnly_ok
    · split
      · exact failsOnly_ok
      · exact failsOnly_error.mpr (Fault.isPlain_envelope _)
    · split
      · exact failsOnly_mapError fun _ _ _ heq => nomatch heq
      · exact failsOnly_error.mpr (Fault.isPlain_envelope _)
    · exact failsOnly_error.mpr (Fault.isPlain_naming (Fault.isPlain_envelope _) _)
  unfold ResponseCode.read
  split
  · exact failsOnly_ok
  · exact failsOnly_ok
  · next v hnull hget =>
    refine failsOnly_bind.mpr ⟨hnumber v, fun n _ => ?_⟩
    split
    · exact failsOnly_ok
    · exact failsOnly_error.mpr (Fault.isPlain_naming (Fault.isPlain_envelope _) _)

theorem Envelope.failsOnly_isPlain (raw : RawMessage) (registry : Registry) :
    FailsOnly Fault.IsPlain (Envelope.read raw registry) := by
  have hwords : ∀ name, FailsOnly Fault.IsPlain (wordsOf raw.metrics name) := by
    intro name
    unfold wordsOf
    split
    · exact failsOnly_ok
    · exact failsOnly_ok
    · split
      · exact failsOnly_ok
      · exact failsOnly_error.mpr fun _ _ heq => nomatch heq
  refine failsOnly_bind.mpr ⟨failsOnly_mapError Fault.isPlain_envelope, fun d _ => ?_⟩
  refine failsOnly_bind.mpr ⟨failsOnly_mapError Fault.isPlain_envelope, fun channel _ => ?_⟩
  refine failsOnly_bind.mpr ⟨ResponseCode.failsOnly_isPlain raw.metrics, fun code _ => ?_⟩
  refine failsOnly_bind.mpr ⟨hwords messageMetric, fun message _ => ?_⟩
  exact failsOnly_bind.mpr ⟨hwords stackMetric, fun stack _ => failsOnly_ok⟩

/-! ### Bodies and metrics -/

theorem Body.failsOnly_isPlain_text (body : Option Bytes) (charset : LooseText) :
    FailsOnly Fault.IsPlain (Body.text body charset) := by
  unfold Body.text
  split
  · exact failsOnly_error.mpr (Fault.isPlain_decoding _ _)
  split
  · exact failsOnly_error.mpr fun _ _ heq => nomatch heq
  split
  · exact failsOnly_ok
  split
  · exact failsOnly_error.mpr (Fault.isPlain_decoding _ _)
  split
  · exact failsOnly_error.mpr (Fault.isPlain_decoding _ _)
  · exact failsOnly_ok

/-- What is made of a document fails with causes of its own only, if the steps behind it do. -/
theorem Body.failsOnly_isPlain_bind (body : Option Bytes) (shape : Shape) (charset : LooseText)
    {f : shape.Item → Except Fault α} (hf : ∀ x, FailsOnly Fault.IsPlain (f x)) :
    FailsOnly Fault.IsPlain ((Body.read body shape charset).bind f) := by
  refine failsOnly_bind.mpr ⟨failsOnly_bind.mpr ⟨failsOnly_isPlain_text body charset, fun text _ => ?_⟩, fun x _ => hf x⟩
  split
  · exact failsOnly_error.mpr (Fault.isPlain_decoding _ _)
  · exact failsOnly_ok

theorem Keystore.ItemEntry.failsOnly_isPlain (e : ItemEntry) : FailsOnly Fault.IsPlain e.translate := by
  have hdate : ∀ millis, FailsOnly Fault.IsPlain (dateOf millis) := by
    intro millis
    cases millis with
    | none => exact failsOnly_ok
    | some n => exact failsOnly_map.mpr (failsOnly_mapError fun _ _ _ heq => nomatch heq)
  refine failsOnly_bind.mpr ⟨e.failsOnly_check.isPlain, fun _ _ => ?_⟩
  refine failsOnly_bind.mpr ⟨hdate e.startDate, fun notBefore _ => ?_⟩
  exact failsOnly_bind.mpr ⟨hdate e.expirationDate, fun notAfter _ => failsOnly_ok⟩

theorem Keystore.failsOnly_isPlain_readRequest (body : Bytes) (charset : LooseText) :
    FailsOnly Fault.IsPlain (readRequest body charset) := by
  refine failsOnly_bind.mpr ⟨Body.failsOnly_isPlain_text _ _, fun text _ => ?_⟩
  unfold SigningRequest.ofText
  dsimp only
  split
  · exact failsOnly_ok
  · exact failsOnly_error.mpr (Fault.isPlain_validation _ _)

theorem CommandResult.failsOnly_isPlain (metrics : Dictionary Value) :
    FailsOnly Fault.IsPlain (CommandResult.read metrics) := by
  have hnaming : ∀ {β : Type} (v : Value) (field reason : String),
      FailsOnly Fault.IsPlain (.error (.naming v (.validation field reason)) : Except Fault β) :=
    fun v field reason => failsOnly_error.mpr (Fault.isPlain_naming (Fault.isPlain_validation field reason) v)
  have htext : ∀ name ∈ metricNames, FailsOnly Fault.IsPlain (textOf metrics name) :=
    fun name h => (failsOnly_textOf h metrics).isPlain
  have hexit : FailsOnly Fault.IsPlain (exitOf metrics) := by
    unfold exitOf
    split
    · exact failsOnly_ok
    · exact failsOnly_ok
    · exact failsOnly_ok
    · exact hnaming _ _ _
  have htimeout : FailsOnly Fault.IsPlain (timeoutOf metrics) := by
    unfold timeoutOf
    split
    · exact failsOnly_ok
    · exact failsOnly_ok
    · exact hnaming _ _ _
  unfold CommandResult.read
  split
  · refine failsOnly_map.mpr (failsOnly_bind.mpr ⟨htimeout, fun timedOut _ => ?_⟩)
    refine failsOnly_bind.mpr ⟨htext stdoutMetric (by decide), fun stdout _ => ?_⟩
    refine failsOnly_bind.mpr ⟨htext stderrMetric (by decide), fun stderr _ => ?_⟩
    refine failsOnly_bind.mpr ⟨hexit, fun exitCode _ => ?_⟩
    refine failsOnly_bind.mpr ⟨htext messageMetric (by decide), fun message _ => ?_⟩
    refine failsOnly_bind.mpr ⟨htext stackMetric (by decide), fun stack _ => ?_⟩
    dsimp only
    split
    · exact failsOnly_ok
    · exact failsOnly_error.mpr (Fault.isPlain_validation _ _)
  · exact failsOnly_ok

/-! ### Messages -/

theorem ReplyCategory.failsOnly_isPlain (c : ReplyCategory) (e : Envelope) :
    FailsOnly Fault.IsPlain (c.content e) := by
  have hbody : ∀ {β : Type} {read : Bytes → LooseText → Except Fault β},
      (∀ body, FailsOnly Fault.IsPlain (read body e.charset)) → FailsOnly Fault.IsPlain (ofBody read e) :=
    fun h => failsOnly_ofBody_iff.mpr fun body _ => h body
  cases c with
  | keystores =>
    refine failsOnly_map.mpr (hbody fun body => Body.failsOnly_isPlain_bind _ Keystore.storesShape _ fun rows => ?_)
    exact failsOnly_mapM fun row => (Keystore.StoreEntry.failsOnly_translate _).isPlain
  | keystoreItems =>
    refine failsOnly_map.mpr (hbody fun body => Body.failsOnly_isPlain_bind _ Keystore.itemsShape _ fun rows => ?_)
    exact failsOnly_mapM fun row => Keystore.ItemEntry.failsOnly_isPlain _
  | keystoreItem =>
    refine failsOnly_map.mpr (hbody fun body => Body.failsOnly_isPlain_bind _ Keystore.itemShape _ fun row => ?_)
    exact Keystore.ItemEntry.failsOnly_isPlain _
  | keystoreRequest => exact failsOnly_map.mpr (hbody fun body => Keystore.failsOnly_isPlain_readRequest body _)
  | inventoryItems =>
    refine failsOnly_map.mpr (hbody fun body => Body.failsOnly_isPlain_bind _ Inventory.itemsShape _ fun list => ?_)
    exact failsOnly_mapM fun row => (Inventory.Entry.failsOnly_toItem _).isPlain
  | inventoryBundles =>
    refine failsOnly_map.mpr (hbody fun body => Body.failsOnly_isPlain_bind _ Inventory.bundlesShape _ fun list => ?_)
    exact failsOnly_mapM fun row => (Inventory.BundleEntry.failsOnly_translate _).isPlain
  | inventoryContainers =>
    refine failsOnly_map.mpr (hbody fun body => Body.failsOnly_isPlain_bind _ Inventory.containersShape _ fun list => ?_)
    exact failsOnly_mapM fun row => (Inventory.ContainerEntry.failsOnly_translate _).isPlain
  | inventoryPackages =>
    refine failsOnly_map.mpr (hbody fun body => Body.failsOnly_isPlain_bind _ Inventory.packagesShape _ fun list => ?_)
    exact failsOnly_mapM fun row => (Inventory.Entry.failsOnly_toPackage _).isPlain
  | command => exact failsOnly_map.mpr (CommandResult.failsOnly_isPlain _)

theorem Category.failsOnly_isPlain (c : Category) (registry : Registry) (raw : RawMessage) :
    FailsOnly Fault.IsPlain (c.message registry raw) := by
  cases c with
  | reply r =>
    refine failsOnly_bind.mpr ⟨Envelope.failsOnly_isPlain raw registry, fun e _ => ?_⟩
    exact failsOnly_bind.mpr ⟨r.failsOnly_isPlain e, fun content _ => failsOnly_ok⟩
  | lifecycle phase =>
    refine failsOnly_bind.mpr ⟨failsOnly_mapError Fault.isPlain_envelope, fun d _ => ?_⟩
    exact failsOnly_bind.mpr ⟨failsOnly_mapError Fault.isPlain_envelope, fun channel _ => failsOnly_ok⟩

end Plain

end DeviceRelay
