namespace RdapDirectory.Json

/-- Texts are of type `τ`: any text, or also literals that spell none. Members keep their order. -/
inductive Value (τ : Type) where
  | null
  | bool (b : Bool)
  | number (lexeme : String)
  | string (text : τ)
  | array (items : List (Value τ))
  | object (members : List (τ × Value τ))

end RdapDirectory.Json
