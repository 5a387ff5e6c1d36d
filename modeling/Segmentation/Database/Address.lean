import Segmentation.Text.Split

namespace Segmentation.Database.Address

def schemeEnd : List Char := "://".toList

def hidden : List Char := "***".toList

/-- Puts stars in the place of the password: of what stands between the first colon after the
scheme and the last `@`. -/
def hideChars (s : List Char) : List Char :=
  match Text.splitFirst schemeEnd s with
  | none => s
  | some (scheme, rest) =>
    match Text.splitLast '@' rest with
    | none => s
    | some (credentials, host) =>
      match Text.splitFirst [':'] credentials with
      | none => s
      | some (user, _) => scheme ++ schemeEnd ++ user ++ [':'] ++ hidden ++ ['@'] ++ host

def hidePassword (address : String) : String :=
  String.ofList (hideChars address.toList)

theorem hideChars_of_parts {s scheme rest credentials host user password : List Char}
    (hs : Text.splitFirst schemeEnd s = some (scheme, rest))
    (hr : Text.splitLast '@' rest = some (credentials, host))
    (hc : Text.splitFirst [':'] credentials = some (user, password)) :
    s = scheme ++ schemeEnd ++ user ++ [':'] ++ password ++ ['@'] ++ host ∧
      hideChars s = scheme ++ schemeEnd ++ user ++ [':'] ++ hidden ++ ['@'] ++ host := by
  constructor
  · rw [Text.eq_of_splitFirst hs, Text.eq_of_splitLast hr, Text.eq_of_splitFirst hc]
    simp
  · simp [hideChars, hs, hr, hc]

end Segmentation.Database.Address
