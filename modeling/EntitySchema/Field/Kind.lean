import EntitySchema.Field.Check

set_option autoImplicit false

namespace EntitySchema

inductive FilterCategory where
  | string
  | number
  | date
  | boolean
  | array
  | geometry
deriving DecidableEq

namespace FilterCategory

def name : FilterCategory → String
  | .string => "string"
  | .number => "number"
  | .date => "date"
  | .boolean => "boolean"
  | .array => "array"
  | .geometry => "geometry"

def all : List FilterCategory := [.string, .number, .date, .boolean, .array, .geometry]

end FilterCategory

structure FieldType where
  check : Check
  defaults : Bounds
  category : Option FilterCategory

structure TypeRegistry where
  types : List (String × FieldType)

namespace TypeRegistry

def empty : TypeRegistry := ⟨[]⟩

def get? (registry : TypeRegistry) (name : String) : Option FieldType := registry.types.lookup name

def insert (registry : TypeRegistry) (name : String) (type : FieldType) : TypeRegistry :=
  ⟨Members.insert name type registry.types⟩

def lengths : Bounds := .between 0 999999999

def builtin (policy : PasswordPolicy) : TypeRegistry :=
  let plain (category : FilterCategory) (check : Check) : FieldType :=
    ⟨check, .unbounded, some category⟩
  ⟨Members.ofList
    [("boolean", plain .boolean Check.boolean),
     ("number", plain .number Check.number),
     ("integer", plain .number Check.integer),
     ("float", plain .number Check.float),
     ("even", plain .number Check.even),
     ("odd", plain .number Check.odd),
     ("positive", plain .number Check.positive),
     ("negative", plain .number Check.negative),
     ("powerOfTwo", plain .number Check.powerOfTwo),
     ("ascii", plain .number Check.ascii),
     ("string", ⟨Check.string, lengths, some .string⟩),
     ("email", plain .string Check.email),
     ("regex", plain .string Check.regex),
     ("json", plain .string Check.json),
     ("jwt", plain .string Check.jwt),
     ("slug", plain .string Check.slug),
     ("hexadecimal", plain .string Check.hexadecimal),
     ("ipAddress", plain .string Check.ipAddress),
     ("function", plain .string Check.function),
     ("array", ⟨Check.array, lengths, some .array⟩),
     ("date", plain .date Check.date),
     ("timestamp", plain .date Check.timestamp),
     ("object", plain .string Check.object),
     ("geometry", plain .geometry Check.geometry),
     ("password", ⟨Check.password policy, .unbounded, none⟩)]⟩

end TypeRegistry

end EntitySchema
