/-!
Identifiers: an ASCII letter or underscore, then ASCII letters, digits and underscores.
-/
namespace FeatureCert.Identifier

def isStart (c : Char) : Bool := c.isAlpha || c == '_'

def isPart (c : Char) : Bool := c.isAlphanum || c == '_'

def isValid : List Char → Bool
  | [] => false
  | c :: rest => isStart c && rest.all isPart

@[simp] theorem isValid_nil : isValid [] = false := rfl

@[simp] theorem isValid_cons (c : Char) (rest : List Char) :
    isValid (c :: rest) = (isStart c && rest.all isPart) := rfl

end FeatureCert.Identifier
