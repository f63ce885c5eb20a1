import EspCoordinator.BindTableTool.Network.Kept
import EspCoordinator.BindTableTool.Network.Prompt

-- What the modes of the tool are to change, and that they end
namespace EspCoordinator.BindTableTool

open Bytes
open Client (Triple)
open Restore (Layout)

variable {L : Layout}

def wordOf (bytes : List UInt8) : UInt64 := Packed.u64.read bytes

theorem toLE_wordOf {bytes : List UInt8} (h : bytes.length = 8) :
    toLE 8 (wordOf bytes).toNat = bytes :=
  (Packed.u64.write_read bytes h.ge).trans (List.take_of_length_le h.le)

theorem length_ieee (ieee : Backup.IeeeAddr) : ieee.toList.length = 8 := Vector.length_toList

theorem toLE_phantom (ieee : Backup.IeeeAddr) :
    toLE 8 (wordOf ieee.toList.reverse).toNat = ieee.toList.reverse :=
  toLE_wordOf (by rw [List.length_reverse, length_ieee])

-- An entry for the coordinator's address, its bytes reversed
def Entry.Phantom (ieee : Backup.IeeeAddr) (entry : Entry) : Prop :=
  ieee.toList.reverse ≠ ieee.toList ∧
    ∃ dst dstEp, entry.dst = .device dst dstEp ∧ toLE 8 dst.toNat = ieee.toList.reverse

-- The address that the binds are from
def sourceOf (net : Network L) (nwk : UInt16) (srcIeee : Option UInt64) : UInt64 :=
  srcIeee.getD (net.node nwk).ieee

-- The destinations of the probe
def candidates (ieee : Backup.IeeeAddr) : List UInt64 :=
  [wordOf ieee.toList, wordOf NEUTRAL_IEEE_LE, wordOf ieee.toList.reverse]

theorem candidates_bytes (ieee : Backup.IeeeAddr) :
    [ieee.toList, NEUTRAL_IEEE_LE, ieee.toList.reverse] =
      (candidates ieee).map fun dst => toLE 8 dst.toNat := by
  simp only [candidates, List.map_cons, List.map_nil, toLE_wordOf (length_ieee ieee),
    toLE_phantom, toLE_wordOf (show NEUTRAL_IEEE_LE.length = 8 from rfl)]

-- The entry that a combination stands for
def comboEntry (src dst : UInt64) (dstEp : UInt8) (combo : Combo) : Entry :=
  unicast src combo.1 combo.2 dst dstEp

-- The entries that the modes of a command line bind
inductive Binds (ieee : Backup.IeeeAddr) (src : UInt64) (args : Args) : Entry → Prop
  | probe (hmode : args.testBind = true) {dst : UInt64} (hdst : dst ∈ candidates ieee) :
      Binds ieee src args (unicast src args.srcEp args.cluster dst args.dstEp)
  | verify (hmode : args.purgePhantomBlind = true) (hnwk : args.nwk ≠ 0x0000) {combo : Combo}
      (hcombo : combo ∈ args.purgeList.head?) :
      Binds ieee src args (comboEntry src (wordOf NEUTRAL_IEEE_LE) args.dstEp combo)

-- and those that they unbind
inductive Unbinds (ieee : Backup.IeeeAddr) (src : UInt64) (args : Args) : Entry → Prop
  | bound {entry : Entry} (h : Binds ieee src args entry) : Unbinds ieee src args entry
  | phantom (hmode : args.unbindPhantoms = true) {entry : Entry} (h : entry.Phantom ieee) :
      Unbinds ieee src args entry
  | purge (hmode : args.purgePhantomBlind = true) (hnwk : args.nwk ≠ 0x0000) {combo : Combo}
      (hcombo : combo ∈ args.purgeList) :
      Unbinds ieee src args (comboEntry src (wordOf ieee.toList.reverse) args.dstEp combo)

variable {net : Network L} {args : Args} {srcIeee : Option UInt64}

theorem phantom_unicast {ieee : Backup.IeeeAddr} {rec : Rec}
    (h : isPhantom ieee.toList rec = true) (src : UInt64) (srcEp : UInt8) (cluster : UInt16)
    (dstEp : UInt8) :
    (unicast src srcEp cluster (wordOf ieee.toList.reverse) dstEp).Phantom ieee := by
  refine ⟨fun hsame => ?_, _, _, rfl, toLE_phantom ieee⟩
  have hdst := dst_of_isPhantom h
  rw [hsame] at hdst
  simp only [isPhantom, classify, hdst, reduceCtorEq, or_false, if_true, decide_eq_true_eq] at h
  split at h <;> cases h

-- The tool keeps to the terms of any network.
theorem permits_terms (net : Network L) (fuel : Nat)
    (hsrc : args.srcIeee = srcIeee.map fun ieee => toLE 8 ieee.toNat) :
    let src := sourceOf net args.nwk srcIeee
    Permits (terms net args.nwk (Binds net.ieee src args) (Unbinds net.ieee src args)) fuel args
      (fun ieeeTrue => ieeeTrue = net.ieee.toList) (fun source => source = toLE 8 src.toNat) where
  version := .version
  localIeee := .localIeee
  ieeeAddr := .ieeeAddr
  list := .list
  identified {version r _ _} hversion hr _ _ := by
    rw [(hversion version rfl).version rfl, (hr r rfl).localIeee rfl, trueIeee_version]
    exact List.take_of_length_le (length_ieee net.ieee).le
  given source hgiven := by
    rw [hsrc] at hgiven
    obtain ⟨ieee, rfl, rfl⟩ := Option.map_eq_some_iff.mp hgiven
    rfl
  resolved hnone {r _} hr hstatus _ := by
    rw [hsrc, Option.map_eq_none_iff] at hnone
    rw [(hr r rfl).ieeeAddr rfl hstatus, hnone]
    exact List.take_left' (length_toLE 8 _)
  phantom hmode ieeeTrue hmine rec hformed hphantom dstEp tsn := by
    subst hmine
    rw [← toLE_wordOf hformed.src, ← toLE_phantom]
    exact .unbind (.phantom hmode (phantom_unicast hphantom ..)) tsn
  probe hmode ieeeTrue hmine source hsource dst hdst cmdId hcmd tsn := by
    subst hmine hsource
    rw [candidates_bytes] at hdst
    obtain ⟨word, hword, rfl⟩ := List.mem_map.mp hdst
    simp only [List.mem_cons, List.not_mem_nil, or_false] at hcmd
    rcases hcmd with rfl | rfl
    · exact .bind (.probe hmode hword) tsn
    · exact .unbind (.bound (.probe hmode hword)) tsn
  purge hmode hnwk ieeeTrue hmine source hsource combo hcombo tsn := by
    subst hmine hsource
    rw [← toLE_phantom]
    exact .unbind (.purge hmode hnwk hcombo) tsn
  verify hmode hnwk source hsource combo hcombo cmdId hcmd tsn := by
    subst hsource
    rw [← toLE_wordOf (show NEUTRAL_IEEE_LE.length = 8 from rfl)]
    simp only [List.mem_cons, List.not_mem_nil, or_false] at hcmd
    rcases hcmd with rfl | rfl
    · exact .bind (.verify hmode hnwk hcombo) tsn
    · exact .unbind (.bound (.verify hmode hnwk hcombo)) tsn
  fails _ hexit _ := hexit
  ends := .inl nofun

-- Whatever becomes of the requests, `keeps` holds of the table at the end if
-- the changes that the command line asks for keep it.
theorem main_kept (net : Network L) (args : Args) (srcIeee : Option UInt64)
    (hsrc : args.srcIeee = srcIeee.map fun ieee => toLE 8 ieee.toNat) (tables : Tables) (fuel : Nat)
    {keeps : Table → Prop}
    (hclosed :
      let src := sourceOf net args.nwk srcIeee
      Closed net args.nwk (Binds net.ieee src args) (Unbinds net.ieee src args) keeps)
    (hkeeps : keeps (tables args.nwk)) :
    let final := (main fuel args).run (serve net) (State.start tables)
    (∃ t, final.1.tables = Function.update tables args.nwk t ∧ keeps t) ∧
      (exitCode final.2 = some 0 → args.unbindPhantoms = false → args.purgePhantomBlind = true →
        args.nwk ≠ 0x0000) := by
  intro final
  have hrun := kept_run hclosed hkeeps (permits_terms net fuel hsrc).asks_main
  refine Triple.result (P := fun (s : State) result =>
    (∃ t, s.tables = Function.update tables args.nwk t ∧ keeps t) ∧
      (exitCode result = some 0 → args.unbindPhantoms = false → args.purgePhantomBlind = true →
        args.nwk ≠ 0x0000)) (hrun.weaken (fun _ h => h) ?_ ?_) rfl
  · exact fun code s h => ⟨h.1.table, fun _ => h.2⟩
  · refine fun e s h => ⟨h.1.table, fun hzero => ?_⟩
    cases e with
    | exit code =>
        obtain rfl := Option.some.inj hzero
        exact absurd rfl h.2
    | raised => cases hzero
    | running => cases hzero

section Ends

-- What a network answers in whose responses nothing is mixed up
def pageTerms (nwk : UInt16) : Terms where
  allowed _ := True
  legit req r := ∀ start tsn, req = listRequest nwk start tsn → ∀ answer, r = some answer →
    answer.status = 0 → ∀ parsed, parseRecords answer.body = some parsed → parsed.start = start
  fails e := e ≠ .running

theorem permits_pageTerms (fuel : Nat) (args : Args) :
    Permits (pageTerms args.nwk) (fuel + 256) args (fun _ => True) fun _ => True where
  version _ := trivial
  localIeee _ := trivial
  ieeeAddr _ := trivial
  list _ _ := trivial
  identified _ _ _ _ := trivial
  given _ _ := trivial
  resolved _ _ _ _ _ _ := trivial
  phantom _ _ _ _ _ _ _ _ := trivial
  probe _ _ _ _ _ _ _ _ _ _ := trivial
  purge _ _ _ _ _ _ _ _ _ := trivial
  verify _ _ _ _ _ _ _ _ _ := trivial
  fails _ _ hrunning := hrunning
  ends := .inr ⟨Nat.le_add_left 256 fuel, fun hlegit hstatus hparse =>
    hlegit _ _ rfl _ rfl hstatus _ hparse⟩

theorem exitCode_error_ne_none {e : Exit} (h : e ≠ .running) :
    exitCode (.error e) ≠ none := by
  cases e with
  | exit code => exact Option.some_ne_none _
  | raised => exact Option.some_ne_none _
  | running => exact absurd rfl h

-- With a device that numbers its pages as it is asked to, the tool comes to an end.
theorem main_ends (hprompt : net.Prompt) (hnumbered : (net.node args.nwk).Numbered) (fuel : Nat)
    (s : State) : exitCode ((main (fuel + 256) args).run (serve net) s).2 ≠ none := by
  let inv : State → Prop := fun _ => True
  have hserve (s : State) (req : Request) (_ : inv s) (_ : (pageTerms args.nwk).allowed req) :
      inv (serve net s req).1 ∧ (pageTerms args.nwk).legit req (serve net s req).2 := by
    refine ⟨trivial, ?_⟩
    rintro start tsn rfl answer hanswer hstatus parsed hparse
    rcases (serve_list hprompt args.nwk start tsn s).2 with ⟨hfailed, -⟩ | hlisted
    · rw [hanswer] at hfailed
      simp [succeeded, hstatus] at hfailed
    · obtain ⟨page, seed, hpage, -, hlisting, hrecs⟩ := hlisted
      rw [hanswer] at hpage
      obtain rfl := Option.some.inj hpage
      rw [hrecs] at hparse
      obtain rfl := Option.some.inj hparse
      exact hnumbered _ _ _ hlisting
  have hrun := (permits_pageTerms fuel args).asks_main.triple hserve
  refine Triple.result (P := fun (_ : State) result => exitCode result ≠ none)
    (hrun.weaken (fun _ h => h) (fun _ _ _ => Option.some_ne_none _)
      fun e s h => exitCode_error_ne_none h.2) trivial

end Ends

end EspCoordinator.BindTableTool
