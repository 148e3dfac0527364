import OperatorCore.Object.Identity

/-!
# The operations of a store

The five operations that a store has, each on one object or, for `list`, on the objects of a kind.
Three of them write.
-/

namespace OperatorCore

/-- What a store is asked to do. -/
inductive Operation where
  | get
  | list
  | create
  | update
  | delete
deriving DecidableEq, Inhabited

namespace Operation

def text : Operation → String
  | .get => "get"
  | .list => "list"
  | .create => "create"
  | .update => "update"
  | .delete => "delete"

def ofText? (s : String) : Option Operation :=
  [get, list, create, update, delete].find? fun op => op.text = s

/-- The operation changes the stored objects. -/
def isMutating : Operation → Bool
  | .get | .list => false
  | .create | .update | .delete => true

end Operation

end OperatorCore
