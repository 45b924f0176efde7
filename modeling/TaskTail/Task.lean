/-
Tasks and the names they go by.  A name is any text, the empty one included, and is taken as it stands:
no case folding and no trimming, so two tasks are the same exactly when their names are.
-/
namespace TaskTail

/-- The name under which the output of a task is registered and asked for. -/
structure TaskId where
  text : String
  deriving DecidableEq, Repr, Inhabited

namespace TaskId

instance : ToString TaskId := ⟨TaskId.text⟩

/-- Names are ordered by their characters, which is also the order of their UTF-8 bytes. -/
def le (a b : TaskId) : Bool :=
  !decide (b.text < a.text)

/-- The names that occur, each once, in ascending order. -/
def sortedUnique (ids : List TaskId) : List TaskId :=
  (ids.mergeSort le).eraseReps

end TaskId

end TaskTail
