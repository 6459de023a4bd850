import DeviceRelay.Problem
import DeviceRelay.Value

/-!
# Assigning to finished records

A record that has been read keeps its fields, and a name that could be that of a field cannot be given a
value. Names that begin with an underscore are free for remarks, apart from those that a record needs for
itself: what all records of its kind share, its class, its table of fields and the set of the fields that
were given.
-/

namespace DeviceRelay.Record

/-- Why a name of a finished record is not given a value. -/
inductive AssignmentFault where
  /-- The name is, or could be, that of a field. -/
  | frozen (name : String)
  /-- The name is shared by all records of the kind. -/
  | shared (title name : String)
  | unwritable (title name : String)
  | withoutSetter (title name : String)
  | notClass (kind : String)
  | notTable (kind : String)
  deriving Repr, DecidableEq

namespace AssignmentFault

/-- The kind of a fault. -/
def kindName : AssignmentFault → String
  | .frozen _ => "ValidationError"
  | .shared _ _ | .unwritable _ _ | .withoutSetter _ _ => "AttributeError"
  | .notClass _ | .notTable _ => "TypeError"

/-- The text of a fault. -/
def message : AssignmentFault → String
  | .frozen name => (Problem.ofField name .frozen).text
  | .shared title name =>
    s!"'{name}' is a ClassVar of `{title}` and cannot be set on an instance. " ++
      s!"If you want to set a value on the class, use `{title}.{name} = value`."
  | .unwritable title name => s!"attribute '{name}' of '{title}' objects is not writable"
  | .withoutSetter title name => s!"property '{name}' of '{title}' object has no setter"
  | .notClass kind => s!"__class__ must be set to a class, not '{kind}' object"
  | .notTable kind => s!"__dict__ must be set to a dictionary, not a '{kind}'"

end AssignmentFault

/-- The names that all records of a kind share. -/
def sharedNames : List String :=
  ["__class_vars__", "__private_attributes__", "__signature__", "__pydantic_complete__",
    "__pydantic_core_schema__", "__pydantic_custom_init__", "__pydantic_decorators__",
    "__pydantic_generic_metadata__", "__pydantic_parent_namespace__", "__pydantic_post_init__",
    "__pydantic_root_model__", "__pydantic_serializer__", "__pydantic_validator__",
    "__pydantic_fields__", "__pydantic_setattr_handlers__", "__pydantic_computed_fields__"]

/-- Give a name of a finished record a value; `title` is the name of the kind of record. -/
def assign (title name : String) (value : Value) : Except AssignmentFault Unit :=
  if name.toList.head? ≠ some '_' then .error (.frozen name)
  else if sharedNames.contains name then .error (.shared title name)
  else match name, value with
    | "__class__", v => .error (.notClass v.kindName)
    | "__dict__", .dict _ => .ok ()
    | "__dict__", v => .error (.notTable v.kindName)
    | "__weakref__", _ => .error (.unwritable title name)
    | "__fields_set__", _ => .error (.withoutSetter title name)
    | _, _ => .ok ()

end DeviceRelay.Record
