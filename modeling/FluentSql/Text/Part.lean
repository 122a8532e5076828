set_option autoImplicit false

/-!
# Parts of texts

## Main definitions

* `FluentSql.Part.among` — whether a run stands somewhere in another.
* `FluentSql.Part.within` — whether a text stands somewhere in another.
-/

namespace FluentSql.Part

/-- Whether a run stands somewhere in another. -/
def among {α : Type} [BEq α] (part : List α) : List α → Bool
  | [] => part.isEmpty
  | c :: rest => part.isPrefixOf (c :: rest) || among part rest

/-- Whether a text stands somewhere in another. -/
def within (part s : String) : Bool := among part.toList s.toList

end FluentSql.Part
