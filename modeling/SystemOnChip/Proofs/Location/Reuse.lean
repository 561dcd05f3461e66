import SystemOnChip.Proofs.Call.Transcript
import SystemOnChip.Proofs.Soc.Locations

/-! Asking again for the location of a known name. The answer is the location that the
name has, and nothing that happens later can tell that the question was asked. -/
namespace SystemOnChip
open Relation (ReflTransGen)

namespace LocationTable
variable {table : LocationTable} {name : String} {slot : UInt32}

def Request.perform (request : Request) : Call LocationTable UInt32 :=
  assign request.name request.wanted request.reuse

/-- A known name keeps its location under reuse, and the table stays as it is. -/
theorem assign_of_known (wanted : Option UInt32) (known : table.get? name = some slot) :
    (assign name wanted true table).result = .ok slot ∧
      (assign name wanted true table).state = table := by
  have current : (Call.current table).result = .ok table := rfl
  constructor
  · refine (Call.bind_ok _ current).1.trans ?_
    simp only [Call.current, known]
    rfl
  · refine (Call.bind_ok _ current).2.trans ?_
    simp only [Call.current, known]
    rfl

theorem Sound.leaves (sound : table.Sound) (requests : List Request) :
    (Call.leaves Request.perform table requests).Sound ∧
      table.Extends (Call.leaves Request.perform table requests) :=
  sound.requests requests

end LocationTable

namespace Csr
variable {csr : Csr} {name : String} {slot : UInt32}

theorem assign_of_known (wanted : Option UInt32) (known : csr.locations.get? name = some slot) :
    (assign name wanted true csr).result = .ok slot ∧ (assign name wanted true csr).state = csr := by
  obtain ⟨answers, stays⟩ := LocationTable.assign_of_known wanted known
  exact ⟨answers, congrArg (fun locations => { csr with locations }) stays⟩

theorem extends_leaves (declarations : List Declaration) :
    csr.locations.Extends (Call.leaves Declaration.perform csr declarations).locations := by
  have path : ReflTransGen (fun before after : Csr => before.locations.Extends after.locations)
      csr (Call.leaves Declaration.perform csr declarations) :=
    Call.path_of_foldl (fun _ declaration => (perform_runs declaration).path) declarations
  generalize Call.leaves Declaration.perform csr declarations = after at path
  induction path with
  | refl => exact .refl
  | tail _ grown whole => exact whole.trans grown

end Csr

namespace LocationTable

end LocationTable

end SystemOnChip
