import BebaSacco.System
import BebaSacco.Lib.Bfs

/-! # Guarantor rings

`detectGuarantorRing` looks for a way back to a member among those it guarantees, and accepts one from
the depth 2 on. It keeps each member at the least depth, so a member that is guaranteed directly counts
as near, whatever longer paths lead to it as well.

Results:
 1. `detect_some`: the search ends.
 2. `detect_iff`: it reports the rings whose last member is not guaranteed directly.
 3. `ring_detection_iff`: when it reports a ring exactly if there is one.
 4. `ring_missed`: a ring of three whose last member is also guaranteed directly.
-/

namespace BebaSacco

/-! ## 1. The graph -/

/-- The borrowers of the loans that a member is an ACCEPTED guarantor of. -/
def Db.guarantees (db : Db) (memberId : Nat) : List Nat :=
  (db.loanGuarantors.filter fun g => g.memberId == memberId && g.status == .accepted).filterMap
    fun g => db.loans[g.loanId]?.map (·.memberId)

/-- The search through the members, each of which is queued once. -/
def detectGuarantorRing (db : Db) (startMemberId : Nat) : Option Bool :=
  Bfs.search db.guarantees startMemberId 2 5 (db.loans.length + 2)

/-- A simple cycle of guarantees through the member, of three to six members. -/
def Db.HasRing (db : Db) (memberId : Nat) : Prop :=
  ∃ rest, Bfs.Cycle db.guarantees memberId rest ∧ 3 ≤ rest.length + 1 ∧ rest.length + 1 ≤ 6

/-- Such a cycle whose last member, the one that guarantees `memberId`, is not guaranteed by it
directly. -/
def Db.HasFarRing (db : Db) (memberId : Nat) : Prop :=
  ∃ rest, Bfs.Cycle db.guarantees memberId rest ∧ 3 ≤ rest.length + 1 ∧ rest.length + 1 ≤ 6 ∧
    (memberId :: rest).getLast (List.cons_ne_nil memberId rest) ∉ db.guarantees memberId

namespace RingLemmas

variable {db : Db} {memberId borrowerId : Nat}

theorem borrower_mem (h : borrowerId ∈ db.guarantees memberId) :
    borrowerId ∈ db.loans.map (·.memberId) := by
  obtain ⟨g, _, h⟩ := List.mem_filterMap.mp h
  obtain ⟨loan, hloan, rfl⟩ := Option.map_eq_some_iff.mp h
  exact List.mem_map_of_mem (List.mem_of_getElem? hloan)

/-- No member is queued more often than it borrows, so the search ends. -/
theorem detect_some (db : Db) (memberId : Nat) : ∃ b, detectGuarantorRing db memberId = some b := by
  refine Bfs.loop_some (db.loans.map (·.memberId)) (fun _ _ => borrower_mem) _
    List.nodup_nil (List.nil_subset _) ?_
  rw [List.length_map, List.length_singleton, List.length_nil]
  omega

/-- The search reports a ring exactly if the last member of one is not guaranteed directly. -/
theorem detect_iff (db : Db) (memberId : Nat) :
    detectGuarantorRing db memberId = some true ↔ db.HasFarRing memberId := by
  obtain ⟨b, hb⟩ := detect_some db memberId
  have hsearch := (Bfs.search_iff hb).trans (Bfs.cycle_iff 5)
  rw [hb, Option.some_inj, hsearch]
  refine exists_congr fun rest => and_congr_right fun _ => ?_
  rw [Nat.succ_le_succ_iff, Nat.succ_le_succ_iff]

end RingLemmas

open RingLemmas

/-! ## 2. The report -/

/-- The service reports a ring exactly when there is one, if one of the rings, where there are any, ends
with a member that is not guaranteed directly, and otherwise not. -/
theorem ring_detection_iff (db : Db) (memberId : Nat) :
    (detectGuarantorRing db memberId = some true ↔ db.HasRing memberId) ↔
      (db.HasRing memberId → db.HasFarRing memberId) := by
  have hring : db.HasFarRing memberId → db.HasRing memberId := by
    rintro ⟨rest, hcycle, hlo, hhi, _⟩
    exact ⟨rest, hcycle, hlo, hhi⟩
  rw [detect_iff]
  exact ⟨fun h => h.mpr, fun h => ⟨hring, h⟩⟩

def exRingEdge (memberId loanId : Nat) : LoanGuarantor :=
  ⟨loanId, memberId, .accepted, 1000000, 0, 0, some 0, none, some 0, none⟩

/-- Member 0 guarantees 1 and 2, member 1 guarantees 2, and member 2 guarantees 0. -/
def exRing : Db :=
  { exSacco with
    loans := [exLoan, { exLoan with memberId := 1 }, { exLoan with memberId := 2 }]
    loanGuarantors := [exRingEdge 0 1, exRingEdge 0 2, exRingEdge 1 2, exRingEdge 2 0] }

/-- The ring of the three members is not reported, since member 0 guarantees member 2 as well. -/
theorem ring_missed : exRing.HasRing 0 ∧ detectGuarantorRing exRing 0 = some false := by
  refine ⟨⟨[1, 2], ⟨by decide, ?_, by decide⟩, by decide, by decide⟩, by decide⟩
  exact List.isChain_cons_cons.mpr ⟨by decide, List.isChain_cons_cons.mpr
    ⟨by decide, List.isChain_singleton _⟩⟩

end BebaSacco
