import DeviceRelay.Registry

/-!
# The packaged descriptors

The connectors that are known without any configuration.
-/

namespace DeviceRelay

/-- A connector that frames topics as the defaults have it, but for transport and separator. -/
def packagedDescriptor (name transport separator : String) (h : separator ≠ "") : Descriptor :=
  { Descriptor.ofName "utf-8" name with
    transport := transport, topicSeparator := separator, separator_ne := h }

/-- The packaged descriptors. -/
def packagedDescriptors : List Descriptor :=
  [packagedDescriptor "kura-mqtt" "mqtt" "/" Descriptor.slash_ne,
    packagedDescriptor "kura-mqtts" "mqtt" "/" Descriptor.slash_ne,
    packagedDescriptor "kura-amqp" "amqp" "." (by decide)]

/-- The provider of the packaged descriptors. -/
def Provider.packaged : Provider := .ofList packagedDescriptors

/-- The registry that knows the packaged descriptors and no others. -/
def Registry.packaged : Registry := ⟨[.packaged]⟩

end DeviceRelay
