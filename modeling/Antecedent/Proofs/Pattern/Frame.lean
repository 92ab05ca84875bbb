import Antecedent.Proofs.Pattern.Contents
import Antecedent.Proofs.Pattern.Halts
import Antecedent.Regex.Reading

/-! What a clause does to the scope, whether or not it is refused: it adds bindings of its own and
takes nothing back. -/

namespace Antecedent

variable {index : Nat} {template : Template} {s s' : Scope} {site : Site} {sites : List Site}
  {atoms : List Atom} {path : Path} {op : Operator} {fault : ClauseFault} {c : Clause}

section Runs

variable [PatternReader]

lemma Run.next_le (h : Run index template s sites atoms s') : s.next ≤ s'.next := by
  induction h with
  | nil s => exact UInt32.le_refl s.next
  | cons hstep _ ih => exact UInt32.le_trans hstep.tag.next_le ih

end Runs

open scoped Regex

-- The tag of the head is written again behind a nested test.
example : Clause.resolve 4
    ⟨[.tag (.named "q"), .tests [
      .property ⟨⟨["ask"]⟩, none, some .gt, .nested ⟨⟨["bid"]⟩, none, none, .none⟩⟩,
      .property ⟨⟨["size"]⟩, some (.named "q"), none, .none⟩]]⟩
    ⟨[(.generated 0, ⟨7, .root⟩)], 0⟩ =
      (.error (.duplicateTag (.named "q")),
        ⟨[(.generated 0, ⟨7, .root⟩), (.named "q", ⟨4, .root⟩), (.generated 1, ⟨4, ⟨["bid"]⟩⟩),
          (.generated 2, ⟨4, ⟨["ask"]⟩⟩)], 3⟩) := rfl

end Antecedent
