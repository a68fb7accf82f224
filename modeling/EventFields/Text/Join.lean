/-!
# Joining texts
-/

namespace EventFields.Text

/-- The texts in order, with a separator between each two of them. -/
def joined (separator : String) : List String → String
  | [] => ""
  | [only] => only
  | first :: next :: rest => first ++ separator ++ joined separator (next :: rest)

@[simp] theorem joined_nil (separator : String) : joined separator [] = "" := rfl

@[simp] theorem joined_singleton (separator text : String) :
    joined separator [text] = text := rfl

end EventFields.Text
