import JsonRpc.Cipher.Sealed
import JsonRpc.Registry

namespace JsonRpc

inductive SetupError where
  | json (error : Json.Error)
  | duplicateNamespace (name : String)
  | keyTooShort (length : Nat)
  | cipher (error : CipherError)

def SetupError.message : SetupError → String
  | .json error => s!"JSON error: {error.message}"
  | .duplicateNamespace name => Registry.duplicateMessage name
  | .keyTooShort length => s!"crypto key too short: {length} bytes (need at least 16)"
  | .cipher error => s!"cipher error: {error.message}"

end JsonRpc
