/-!
# Documents

The values a JSON text denotes.  Members keep the order in which they were written and may repeat
a name, because the first problem of a document is the first in this order.
-/

namespace Scaffold

/-- A value of a document. -/
inductive Document where
  | null
  | bool (value : Bool)
  | integer (value : Int)
  | real (value : Float)
  | text (value : String)
  | list (items : List Document)
  | record (members : List (String × Document))
  /-- Well formed, but denoting nothing: a number beyond every finite one, a text with half of a
  surrogate pair, or a container nested too deeply.  It may only be passed over. -/
  | unreadable
deriving Inhabited

namespace Document

mutual

/-- Whether every part of a document denotes something. -/
def isReadable : Document → Bool
  | .list items => areReadable items
  | .record members => haveReadable members
  | .unreadable => false
  | _ => true

def areReadable : List Document → Bool
  | [] => true
  | item :: items => item.isReadable && areReadable items

def haveReadable : List (String × Document) → Bool
  | [] => true
  | (_, value) :: members => value.isReadable && haveReadable members

end

/-- A list of texts. -/
def texts (values : List String) : Document :=
  .list (values.map .text)

/-- The document of a value that may be absent. -/
def option {α : Type} (write : α → Document) : Option α → Document
  | some value => write value
  | none => .null

def natural (n : Nat) : Document :=
  .integer n

end Document

end Scaffold
