import Spreadsheet.File.Tree

/-!
What a program does with files, as data: it reads a file or replaces one, goes on with the
outcome, and ends in a result. A task runs on a tree, or is performed on a disk.
-/

namespace Spreadsheet.File

inductive Task (α : Type) where
  | done (result : α)
  | read (path : String) (next : Except SystemError ByteArray → Task α)
  | write (path : String) (bytes : ByteArray) (next : Except SystemError Unit → Task α)

namespace Task

def bind {α β : Type} : Task α → (α → Task β) → Task β
  | done a, f => f a
  | read path next, f => read path fun r => bind (next r) f
  | write path bytes next, f => write path bytes fun r => bind (next r) f

instance : Monad Task where
  pure := done
  bind := bind

/-- Run a task on a tree. A write that fails leaves the tree as it was. -/
def run {α : Type} : Task α → Tree → α × Tree
  | done a, t => (a, t)
  | read path next, t => run (next (t.read path)) t
  | write path bytes next, t =>
    match t.write path bytes with
    | .ok after => run (next (.ok ())) after
    | .error e => run (next (.error e)) t

@[simp] theorem run_done {α : Type} (a : α) (t : Tree) : (done a).run t = (a, t) := rfl

theorem run_bind {α β : Type} (task : Task α) (f : α → Task β) (t : Tree) :
    (task.bind f).run t = (f (task.run t).1).run (task.run t).2 := by
  induction task generalizing t with
  | done a => rfl
  | read path next ih => exact ih _ t
  | write path bytes next ih =>
    simp only [bind, run]
    split <;> exact ih _ _

end Task
end Spreadsheet.File
