/-! A setting refuses a value. -/
namespace ModalKeys

/-- A value that its setting does not allow. -/
structure InvalidValue where
  field : String
  value : String
  deriving DecidableEq, Repr

def InvalidValue.message (e : InvalidValue) : String :=
  "Invalid value for " ++ e.field ++ ": " ++ e.value

end ModalKeys
