import EspCoordinator.BindTableTool.Cleanup

-- --test-bind and --purge-phantom-blind
namespace EspCoordinator.BindTableTool

open Bytes
open Client (Triple)
open Restore (Layout)

variable {L : Layout} {net : Network L} {tables : Tables} {nwk : UInt16}

section Table

variable (t : Table) {entry : Entry} {gone : List Entry} (capacity : UInt8)

namespace Table

theorem length_without_le (gone : List Entry) :
    (t.without gone).entries.length ≤ t.entries.length :=
  List.length_filter_le _ _

end Table

end Table

section Probe

variable {entryAt : UInt64 → Entry} {all rest : List UInt64} {dst : UInt64} {t t' t'' : Table}
  {leftovers : List (List UInt8)}

-- In the course of the probe the destinations in `rest` are still to come.
structure Probing (net : Network L) (capacity : UInt8) (entryAt : UInt64 → Entry)
    (all rest : List UInt64) (t t' : Table) (leftovers : List (List UInt8)) : Prop where
  accounted : net.Answering → ∀ entry ∈ t'.entries, entry ∈ t.entries ∨
    ∃ dst, entry = entryAt dst ∧ toLE 8 dst.toNat ∈ leftovers
  benign : net.Benign → t.entries.length < capacity.toNat → leftovers = [] ∧
    ∃ done, all = done ++ rest ∧ t' = t.without (done.map entryAt)

theorem Probing.room {capacity : UInt8}
    (h : Probing net capacity entryAt all (dst :: rest) t t' leftovers) (hbenign : net.Benign)
    (hroom : t.entries.length < capacity.toNat) : t'.entries.length < capacity.toNat := by
  obtain ⟨_, done, _, rfl⟩ := h.benign hbenign hroom
  exact (t.length_without_le _).trans_lt hroom

theorem Probing.failed {capacity : UInt8} {r : Option Answer}
    (h : Probing net capacity entryAt all (dst :: rest) t t' leftovers)
    (hbind : Settled net (fun t => t.bind capacity (entryAt dst)) t' t'' r)
    (hr : succeeded r = false) : Probing net capacity entryAt all rest t t'' leftovers where
  accounted := fun hanswering => by
    rw [hbind.not_bound hanswering hr]
    exact h.accounted hanswering
  benign := fun hbenign hroom => by
    rw [(hbind.bind_benign hbenign).mpr (Table.bind_room _ (h.room hbenign hroom))] at hr
    cases hr

end Probe

section Run

variable {src : UInt64} {srcEp : UInt8} {cluster : UInt16} {dstEp : UInt8} {t : Table}
  {all rest : List UInt64} {dst : UInt64}

end Run

section Mode

-- What the exit code says
structure Accounted (net : Network L) (nwk : UInt16) (probed : List Entry) (before after : Tables)
    (result : Except Exit Nat) : Prop where
  restored : net.Answering → exitCode result = some 0 →
    ∀ entry ∈ (after nwk).entries, entry ∈ (before nwk).entries
  benign : net.Benign → (before nwk).entries.length < (net.node nwk).capacity.toNat →
    exitCode result = some 0 ∧ after nwk = (before nwk).without probed

theorem GaveUp.accounted {probed : List Entry} {e : Exit} (h : GaveUp net e) (after : Tables) :
    Accounted net nwk probed tables after (.error e) :=
  ⟨fun _ hzero => absurd hzero h.failed, fun hbenign => absurd hbenign h.reason⟩

variable {src : UInt64} {srcEp : UInt8} {cluster : UInt16} {dstEp : UInt8}

-- --test-bind, with the arguments that it looks at
def Args.probe (nwk : UInt16) (srcIeee : Option UInt64) (srcEp : UInt8) (cluster : UInt16)
    (dstEp : UInt8) : Args :=
  { Args.default nwk with
    testBind := true, cluster, srcEp, dstEp
    srcIeee := srcIeee.map fun ieee => toLE 8 ieee.toNat }

end Mode

section Purge

variable {asked rest : List Entry} {entry : Entry} {t t' : Table} {gone : List Entry}
  {r : Option Answer}

theorem Purge.record_errors (purge : Purge) (combo : Combo) (r : Option Answer) :
    (purge.record combo r).errors = [] ↔ purge.errors = [] ∧ ¬Failed r := by
  cases r with
  | none => simp [record, failed_none]
  | some answer =>
      have hfailed : Failed (some answer) ↔ answer.status ≠ 0x00 ∧ answer.status ≠ 0x88 := by
        simp [Failed]
      rw [hfailed]
      unfold record
      simp only [Option.map_some]
      split
      · next h => simp_all
      · next h => simp_all
      · next h88 h0 => simp_all

-- In the course of the purge `rest` is still to be asked for.
structure Purging (net : Network L) (asked rest : List Entry) (errors : List Combo)
    (gone : List Entry) : Prop where
  subset : gone ⊆ asked
  complete : errors = [] → ∀ entry ∈ asked, entry ∈ gone ∨ entry ∈ rest
  benign : net.Benign → errors = []

theorem Purging.next (purge : Purge) (combo : Combo)
    (h : Purging net asked (entry :: rest) purge.errors gone) (hasked : entry ∈ asked)
    (hsettled : Settled net (fun t => t.unbind entry) (t.without gone) t' r) :
    ∃ gone', t' = t.without gone' ∧ Purging net asked rest (purge.record combo r).errors gone' := by
  have hbenign : net.Benign → (purge.record combo r).errors = [] := fun hnet =>
    (purge.record_errors combo r).mpr ⟨h.benign hnet, hsettled.unbind_answered hnet⟩
  have hunbound : t' = (t.without gone).without [entry] → ∃ gone', t' = t.without gone' ∧
      Purging net asked rest (purge.record combo r).errors gone' := by
    refine fun hsame => ⟨gone ++ [entry], hsame.trans (t.without_without gone [entry]), ?_, ?_,
      hbenign⟩
    · exact List.append_subset.mpr ⟨h.subset, by simpa using hasked⟩
    · intro hnone
      obtain ⟨hbefore, -⟩ := (purge.record_errors combo r).mp hnone
      exact gone_or_rest (h.complete hbefore)
  by_cases hfailed : Failed r
  · rcases hsettled.unbind_or with hsame | hsame
    · refine ⟨gone, hsame, h.subset, fun hnone => ?_, hbenign⟩
      exact absurd hfailed ((purge.record_errors combo r).mp hnone).2
    · exact hunbound hsame
  · exact hunbound (hsettled.unbound hfailed)

variable {src : UInt64} {dstEp : UInt8} {dst : UInt64}

-- --purge-phantom-blind, with the arguments that it looks at
def Args.purge (nwk : UInt16) (srcIeee : Option UInt64) (dstEp : UInt8) (purgeList : List Combo) :
    Args :=
  { Args.default nwk with
    purgePhantomBlind := true, purgeList, dstEp
    srcIeee := srcIeee.map fun ieee => toLE 8 ieee.toNat }

end Purge

end EspCoordinator.BindTableTool
