import Mathlib
import Converge.Proofs.Resource.PaymentsPool
import Converge.Proofs.Value.Numbers

/-!
# The bounds of a pool's query

A query is compared with the stored one as a value, and a value keeps the numbers of its document
up to the rounding of integers beyond those of 64 bits with a sign. So a query is left as it is
exactly where it says the same as the stored one, in every number that it compares with.
-/

namespace Converge.Resource.PaymentsPool

variable {prior desired : PaymentsPool}

theorem query_mem_changedFields_iff :
    "query" ∈ changedFields prior desired ↔
      ¬ prior.effectiveQuery.semanticallyEqual desired.effectiveQuery = true := by
  simp [changedFields]

/-- **Bounds are kept.** The document of a value that was read has the content of the document
that it was read from, in which an integer beyond those of 64 bits with a sign is the nearest
binary floating-point number and every other number is what it was. Two documents are read as
values that mean the same exactly when these contents are one; and for a pool, the query is
planned and set anew exactly when they are not. -/
theorem bounds_kept :
    (∀ document : Json, document.isFinite = true →
      (Value.decode document).encode.content Json.Number.worth =
        document.content Json.Number.kept) ∧
    (∀ number : Json.Number,
      (∀ value, number = .natural value → value.toNat < Binary64.signUnit) →
        number.kept = number.worth) ∧
    (∀ value : UInt64, Binary64.signUnit ≤ value.toNat → ∃ float : Binary64,
      float.Nearest value.toNat ∧ (Json.Number.natural value).kept = float.worth) ∧
    (∀ document other : Json, document.isFinite = true → other.isFinite = true →
      ((Value.decode document).semanticallyEqual (.decode other) = true ↔
        document.content Json.Number.kept = other.content Json.Number.kept)) ∧
    ∀ (id : String) (prior desired : PaymentsPool) (document other : Json),
      document.isFinite = true → other.isFinite = true →
      prior.query = some (.decode document) → desired.query = some (.decode other) →
      (queryChange id prior desired = [] ↔
        document.content Json.Number.kept = other.content Json.Number.kept) ∧
      ("query" ∈ changedFields prior desired ↔
        document.content Json.Number.kept ≠ other.content Json.Number.kept) := by
  refine ⟨Value.content_encode_decode, fun _ => Json.Number.kept_eq_worth, ?_, ?_, ?_⟩
  · intro value large
    exact ⟨.ofNat value.toNat, Binary64.nearest_ofNat large value.toNat_lt,
      Json.Number.kept_natural large⟩
  · intro document other finite otherFinite
    exact Value.semanticallyEqual_decode_iff finite otherFinite
  · intro id prior desired document other finite otherFinite stored wanted
    have storedQuery : prior.effectiveQuery = .decode document := by
      rw [effectiveQuery, stored, Option.getD_some]
    have wantedQuery : desired.effectiveQuery = .decode other := by
      rw [effectiveQuery, wanted, Option.getD_some]
    rw [queryChange_eq_nil_iff, query_mem_changedFields_iff, storedQuery, wantedQuery,
      Value.semanticallyEqual_decode_iff finite otherFinite]
    exact ⟨.rfl, .rfl⟩

/-- The document of a query for balances above a bound. -/
def above (bound : Json.Number) : Json :=
  .object [("$gt", .object [("balance", .number bound)])]

theorem content_above (worth : Json.Number → ℚ) (bound : Json.Number) :
    (above bound).content worth =
      .object [("$gt", .object [("balance", .number (worth bound))])] := by
  simp [above, Json.content, Json.contentFields]

/-- The two least bounds that are rounded come to mean the same. -/
theorem bounds_rounded :
    let document := above (.natural 9223372036854775809)
    let other := above (.natural 9223372036854775810)
    document.isFinite = true ∧ other.isFinite = true ∧
      (Value.decode document).encode.content Json.Number.worth ≠
        document.content Json.Number.worth ∧
      document.content Json.Number.worth ≠ other.content Json.Number.worth ∧
      (Value.decode document).semanticallyEqual (.decode other) = true := by
  intro document other
  have written : (Value.decode document).encode = above (.real ⟨0x43E0000000000000⟩) := by
    decide +kernel
  have rounded : (⟨0x43E0000000000000⟩ : Binary64).worth = (9223372036854775808 : Int) :=
    (Binary64.worth_eq_iff (by decide)).mpr ⟨by decide, by decide⟩
  refine ⟨by decide, by decide, ?_, ?_, by decide +kernel⟩
  · rw [written, content_above, content_above]
    simp [Json.Number.worth, rounded]
  · rw [content_above, content_above]
    simp [Json.Number.worth]

/-- A bound that is spelled as another number, one that is another number, and one that is
rounded. -/
theorem bounds_kept_above :
    let spelled := above (.real ⟨0x4059000000000000⟩)
    let document := above (.natural 100)
    let pool := fun bound : Json =>
      (⟨some "pool-1", "main", [], some (.decode bound)⟩ : PaymentsPool)
    (Value.decode spelled).encode.content Json.Number.worth =
        spelled.content Json.Number.kept ∧
      (Json.Number.natural 100).kept = (Json.Number.natural 100).worth ∧
      (∃ float : Binary64, float.Nearest (0xFFFFFFFFFFFFFFFF : UInt64).toNat ∧
        (Json.Number.natural 0xFFFFFFFFFFFFFFFF).kept = float.worth) ∧
      (Value.decode spelled).semanticallyEqual (.decode document) = true ∧
      "query" ∈ changedFields (pool spelled) (pool (above (.natural 101))) := by
  intro spelled document pool
  obtain ⟨documents, others, rounded, values, pools⟩ := bounds_kept
  have hundred : (⟨0x4059000000000000⟩ : Binary64).worth = (100 : Int) :=
    (Binary64.worth_eq_iff (by decide)).mpr ⟨by decide, by decide⟩
  have small : ∀ value, Json.Number.natural 100 = .natural value →
      value.toNat < Binary64.signUnit := by
    rintro _ ⟨⟩
    decide
  have spelledKept : (Json.Number.real ⟨0x4059000000000000⟩).kept = 100 := hundred
  have kept : (Json.Number.natural 100).kept = 100 := by
    rw [others _ small, Json.Number.worth]
    rfl
  refine ⟨documents spelled (by decide), others _ small, rounded _ (by decide), ?_, ?_⟩
  · refine (values spelled document (by decide) (by decide)).mpr ?_
    rw [content_above, content_above, kept, spelledKept]
  · refine (pools "pool-1" (pool spelled) _ spelled _ (by decide) (by decide) rfl rfl).2.mpr ?_
    rw [content_above, content_above, spelledKept, Json.Number.kept]
    simp [Binary64.signUnit]

end Converge.Resource.PaymentsPool
