import DeviceRelay.Json
import DeviceRelay.Timestamp.Text

/-!
# Keystores

What a device tells about its keystores: which there are, what is in them, and certificate signing
requests made from their keys.
-/

namespace DeviceRelay.Keystore

/-- A keystore. -/
structure Store where
  id : String
  kind : Option String
  size : Option Int
  deriving Repr, DecidableEq

/-- An alternative name of a certificate's subject. -/
structure SubjectName where
  kind : Option String
  value : Option String
  deriving Repr, DecidableEq

/-- A key or certificate in a keystore. -/
structure Item where
  storeId : Option String
  entryAlias : String
  kind : Option String
  size : Option Int
  algorithm : Option String
  subject : Option String
  subjectNames : List SubjectName
  issuer : Option String
  notBefore : Option Timestamp
  notAfter : Option Timestamp
  certificate : Option String
  certificateChain : List String
  deriving Repr, DecidableEq

/-- A request to sign a certificate, in text. -/
structure SigningRequest where
  text : String
  deriving Repr, DecidableEq

/-! ### As records -/

/-- A keystore as a record. -/
def Store.dump (s : Store) : Json :=
  .obj [("id", .str s.id), ("keystore_type", .ofText? s.kind), ("size", .ofInt? s.size)]

/-- A subject's name as a record. -/
def SubjectName.dump (n : SubjectName) : Json :=
  .obj [("an_type", .ofText? n.kind), ("value", .ofText? n.value)]

/-- An item as a record. -/
def Item.dump (i : Item) : Json :=
  .obj [("keystore_id", .ofText? i.storeId), ("alias", .str i.entryAlias), ("item_type", .ofText? i.kind),
    ("size", .ofInt? i.size), ("algorithm", .ofText? i.algorithm),
    ("subject_dn", .ofText? i.subject), ("subject_an", .arr (i.subjectNames.map SubjectName.dump)),
    ("issuer", .ofText? i.issuer), ("not_before", .ofText? (i.notBefore.map Timestamp.text)),
    ("not_after", .ofText? (i.notAfter.map Timestamp.text)),
    ("certificate", .ofText? i.certificate),
    ("certificate_chain", .arr (i.certificateChain.map .str))]

/-- A signing request as a record. -/
def SigningRequest.dump (r : SigningRequest) : Json := .obj [("signing_request", .str r.text)]

end DeviceRelay.Keystore
