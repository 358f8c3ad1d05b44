/-! The modifier keys held with a key. -/
namespace ModalKeys

structure Modifiers where
  shift : Bool := false
  control : Bool := false
  alt : Bool := false
  super : Bool := false
  hyper : Bool := false
  metaKey : Bool := false
  deriving DecidableEq, Repr, Inhabited

namespace Modifiers

def none : Modifiers := {}
def onlyShift : Modifiers := { shift := true }
def onlyControl : Modifiers := { control := true }
def onlyAlt : Modifiers := { alt := true }
def onlySuper : Modifiers := { super := true }

/-- Held with shift as well. -/
def withShift (m : Modifiers) : Modifiers := { m with shift := true }

end Modifiers
end ModalKeys
