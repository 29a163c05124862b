namespace Stencil.Template

/-- The units of a template. What stands outside of tags is one piece of text. -/
inductive Token where
  | text (content : String)
  | outputBegin
  | outputEnd
  | blockBegin
  | blockEnd
  | word (name : String)
  | string (content : String)
  | integer (value : Nat)
  | mark (symbol : String)
  /-- Nothing behind this point could be read. -/
  | malformed
  /-- A string with an escape that has no meaning. -/
  | badEscape
deriving DecidableEq, Repr

/-- A token and the line on which it starts. -/
structure Located where
  token : Token
  line : Nat
deriving DecidableEq, Repr

end Stencil.Template
