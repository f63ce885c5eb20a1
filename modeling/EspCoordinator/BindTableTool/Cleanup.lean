import EspCoordinator.BindTableTool.Modes
import EspCoordinator.Immediate.Theorems

-- --unbind-phantoms
namespace EspCoordinator.BindTableTool

open Bytes
open Client (Triple)
open RequestProcess.ListResponse (BindingRecord)
open Restore (Layout)

variable {L : Layout} {net : Network L} {tables : Tables}

-- What the tool may stop with
structure GaveUp (net : Network L) (e : Exit) : Prop where
  failed : exitCode (.error e) ≠ some 0
  reason : ¬net.Benign

theorem GaveUp.exit {code : Nat} (hcode : code ≠ 0) (hnot : ¬net.Benign) :
    GaveUp net (.exit code) :=
  ⟨fun h => hcode (Option.some.inj h), hnot⟩

theorem triple_identity (hprompt : net.Prompt) :
    Triple (serve net) (fun s => s.tables = tables) identity
      (fun ieeeTrue s => s.tables = tables ∧ ieeeTrue = net.ieee.toList)
      (fun e _ => GaveUp net e) := by
  refine (triple_getModuleVersion hprompt tables 0x01).bind fun r => .extract fun hr => ?_
  rcases hr with ⟨rfl, hnot⟩ | rfl
  · exact .stop fun s hs => .exit (by decide) hnot
  · refine (triple_getLocalIeeeAddr hprompt tables 0x05).bind fun r => .extract fun hr => ?_
    rcases hr with ⟨rfl, hnot⟩ | rfl
    · exact .stop fun s hs => .exit (by decide) hnot
    · have hlen := length_ieee net.ieee
      have hlong : ¬((ieeeAnswer net).status ≠ 0 ∨ (ieeeAnswer net).body.length < 9) := by
        simp [ieeeAnswer, hlen]
      have hreported : ((ieeeAnswer net).body.drop 1).take 8 = net.ieee.toList :=
        List.take_of_length_le hlen.le
      simp only [if_neg hlong, hreported, trueIeee_version]
      exact .done fun s hs => ⟨hs, rfl⟩

section Dump

variable {nwk : UInt16}

theorem triple_unreadable (p : List Rec → Prop) (soft : Bool) {code : Nat} (hcode : code ≠ 0)
    (hnot : ¬net.Benign) :
    Triple (serve net) (fun s => s.tables = tables) (unreadable soft code)
      (fun result s => s.tables = tables ∧ (soft = true ∨ p result.2))
      (fun e _ => GaveUp net e) := by
  unfold unreadable
  cases soft with
  | true => exact .done fun s hs => ⟨hs, .inl rfl⟩
  | false => exact .stop fun s hs => .exit hcode hnot

-- Of a truthful device the entries from `start` on are still to come.
theorem triple_dumpLoop (hprompt : net.Prompt) (soft : Bool) (fuel : Nat) (tsn start : UInt8)
    (allRecs : List Rec)
    (hrecs : (net.node nwk).Truthful → ReadTo (tables nwk) start.toNat allRecs)
    (hfuel : (net.node nwk).Numbered → 256 ≤ fuel + start.toNat) :
    Triple (serve net) (fun s => s.tables = tables) (dumpLoop nwk soft fuel tsn start allRecs)
      (fun result s => s.tables = tables ∧ (soft = true ∨
        ((net.node nwk).Truthful → result.2 = (tables nwk).entries.map Entry.decoded)))
      (fun e _ => GaveUp net e) := by
  induction fuel generalizing tsn start allRecs with
  | zero =>
      refine .stop fun s hs => ⟨nofun, fun hbenign => ?_⟩
      have hfuel := hfuel (hbenign.numbered nwk)
      have hlt := start.toNat_lt
      omega
  | succ fuel ih =>
      refine (triple_list hprompt nwk start tsn tables).bind fun r => .extract fun hr => ?_
      let all : List Rec → Prop := fun recs =>
        (net.node nwk).Truthful → recs = (tables nwk).entries.map Entry.decoded
      rcases hr with ⟨hfailed, hnot⟩ | ⟨answer, seed, rfl, hstatus, hlisting, hparse⟩
      · cases r with
        | none => exact triple_unreadable all soft Nat.one_ne_zero hnot
        | some answer =>
            have hstatus : answer.status ≠ 0 := by simpa [succeeded] using hfailed
            simp only [if_pos hstatus]
            exact triple_unreadable all soft (Nat.succ_ne_zero 1) hnot
      · have hpage (htruth : (net.node nwk).Truthful) := htruth.page seed _ _ hlisting
        have hnumber (hnumbered : (net.node nwk).Numbered) := hnumbered seed _ _ hlisting
        generalize (net.node nwk).listing seed (tables nwk) start = resp at hparse hpage hnumber
        have hcount := toNat_pageSize resp
        have hmore (htruth : (net.node nwk).Truthful) := (hrecs htruth).next (hpage htruth)
        have hstatus' : ¬answer.status ≠ 0 := not_not_intro hstatus
        simp only [if_neg hstatus', hparse, hcount]
        split
        · next hend =>
            refine .done fun s hs => ⟨hs, .inr fun htruth => ?_⟩
            rw [hnumber htruth.numbered, (hpage htruth).entries] at hend
            have hread := hmore htruth
            rw [(hpage htruth).ends (hrecs htruth).le_length hend] at hread
            exact hread.complete
        · next hgoes =>
            obtain ⟨hempty, hbefore⟩ := not_or.mp hgoes
            have hentries := resp.bindingTableEntries.toNat_lt
            have hpos : pageSize resp ≠ 0 := fun hzero => hempty (by rw [hzero]; rfl)
            have hnext (hnumbered : (net.node nwk).Numbered) :
                (UInt8.ofNat (resp.startIndex.toNat + pageSize resp)).toNat =
                  start.toNat + pageSize resp := by
              rw [hnumber hnumbered] at hbefore ⊢
              rw [UInt8.toNat_ofNat']
              omega
            apply ih
            · intro htruth
              rw [hnext htruth.numbered]
              exact hmore htruth
            · intro hnumbered
              have hfuel := hfuel hnumbered
              rw [hnext hnumbered]
              omega

theorem triple_dumpTable (hprompt : net.Prompt) (fuel : Nat) (nwk : UInt16) (soft : Bool) :
    Triple (serve net) (fun s => s.tables = tables) (dumpTable (fuel + 256) nwk soft)
      (fun result s => s.tables = tables ∧ (soft = true ∨
        ((net.node nwk).Truthful → result.2 = (tables nwk).entries.map Entry.decoded)))
      (fun e _ => GaveUp net e) :=
  triple_dumpLoop hprompt soft (fuel + 256) 0x40 0 [] (fun _ => ⟨Nat.zero_le _, rfl⟩)
    fun _ => Nat.le_add_right_of_le (Nat.le_add_left 256 fuel)

end Dump

theorem isPhantom_decoded (ieee : Backup.IeeeAddr) (entry : Entry) :
    isPhantom ieee.toList entry.decoded = true ↔ entry.Phantom ieee := by
  obtain ⟨src, srcEp, cluster, dst⟩ := entry
  cases dst with
  | group address =>
      simp [isPhantom, classify, Entry.decoded, Entry.record, BindingRecord.decoded, Entry.Phantom]
  | device dst dstEp =>
      simp only [isPhantom, classify, Entry.decoded, Entry.record, BindingRecord.decoded,
        Entry.Phantom, Destination.device.injEq, if_true, decide_eq_true_eq]
      constructor
      · intro h
        split at h
        · cases h
        · split at h
          · cases h
          · split at h
            · next hother hphantom =>
                have hdst := Option.some.inj hphantom
                exact ⟨fun hsame => hother (congrArg some (hdst.trans hsame)), dst, dstEp,
                  ⟨rfl, rfl⟩, hdst⟩
            · cases h
      · rintro ⟨hne, _, _, ⟨rfl, rfl⟩, hdst⟩
        simp [hdst, hne]

section Loop

variable {nwk : UInt16} {t : Table}

theorem Table.without_nil (t : Table) : t.without [] = t := by
  apply Table.ext
  simp [Table.without]

theorem Table.without_without (t : Table) (first second : List Entry) :
    (t.without first).without second = t.without (first ++ second) := by
  apply Table.ext
  simp only [Table.without, List.filter_filter, List.mem_append, not_or, Bool.decide_and]
  exact List.filter_congr fun entry _ => Bool.and_comm _ _

theorem Table.mem_without (t : Table) (gone : List Entry) (entry : Entry) :
    entry ∈ (t.without gone).entries ↔ entry ∈ t.entries ∧ entry ∉ gone := by
  simp [Table.without]

-- What was next to be removed is now among what is gone.
theorem gone_or_rest {gone rest asked : List Entry} {entry : Entry}
    (h : ∀ other ∈ asked, other ∈ gone ∨ other ∈ entry :: rest) :
    ∀ other ∈ asked, other ∈ gone ++ [entry] ∨ other ∈ rest := by
  intro other hother
  rcases h other hother with hgone | hmem
  · exact .inl (List.mem_append_left _ hgone)
  · rcases List.mem_cons.mp hmem with rfl | hmem
    · exact .inl (List.mem_append_right _ (List.mem_singleton.mpr rfl))
    · exact .inr hmem

-- In the course of the loop `gone` has been removed, and no more than has been
-- asked for.
structure Unbinding (net : Network L) (phantoms rest : List Entry) (failed : Nat)
    (gone : List Entry) : Prop where
  asked : ∀ entry ∈ gone, entry ∈ phantoms ∧ entry ∉ rest
  complete : failed = 0 → ∀ entry ∈ phantoms, entry ∈ gone ∨ entry ∈ rest
  benign : net.Benign → failed = 0

theorem Unbinding.next {phantoms rest gone : List Entry} {entry : Entry} {failed : Nat}
    (h : Unbinding net phantoms (entry :: rest) failed gone) (hphantom : entry ∈ phantoms)
    (hrest : entry ∉ rest) {t' : Table} {r : Option Answer} (hmem : entry ∈ t.entries)
    (hsettled : Settled net (fun t => t.unbind entry) (t.without gone) t' r) :
    ∃ gone', t' = t.without gone' ∧
      Unbinding net phantoms rest (if succeeded r then failed else failed + 1) gone' := by
  have hbenign : net.Benign → succeeded r = true := fun hbenign =>
    hsettled.unbind_benign hbenign ((t.mem_without gone entry).mpr
      ⟨hmem, fun hgone => (h.asked entry hgone).2 List.mem_cons_self⟩)
  have hasked : ∀ other ∈ gone, other ∈ phantoms ∧ other ∉ rest := fun other hother =>
    ⟨(h.asked other hother).1, fun hmem => (h.asked other hother).2 (List.mem_cons_of_mem _ hmem)⟩
  have hunbound : t' = (t.without gone).without [entry] → ∃ gone', t' = t.without gone' ∧
      Unbinding net phantoms rest (if succeeded r then failed else failed + 1) gone' := by
    refine fun hsame => ⟨gone ++ [entry], hsame.trans (t.without_without gone [entry]), ?_, ?_, ?_⟩
    · intro other hother
      rcases List.mem_append.mp hother with hother | hother
      · exact hasked other hother
      · rw [List.mem_singleton.mp hother]
        exact ⟨hphantom, hrest⟩
    · intro hzero
      have hfailed : failed = 0 := by
        split at hzero
        · exact hzero
        · omega
      exact gone_or_rest (h.complete hfailed)
    · intro hnet
      rw [if_pos (hbenign hnet), h.benign hnet]
  cases hr : succeeded r with
  | true =>
      rw [hr] at hunbound
      exact hunbound (hsettled.unbound (not_failed_of_succeeded hr))
  | false =>
      rcases hsettled.unbind_or with hsame | hsame
      · refine ⟨gone, hsame, hasked, ?_, fun hnet => ?_⟩
        · simp
        · rw [hbenign hnet] at hr
          cases hr
      · rw [hr] at hunbound
        exact hunbound hsame

theorem triple_unbindPhantom (hprompt : net.Prompt) {ieee : Backup.IeeeAddr}
    {phantoms rest : List Entry} {entry : Entry}
    (hphantom : entry.Phantom ieee) (hmem : entry ∈ (tables nwk).entries)
    (hphantoms : entry ∈ phantoms) (hrest : entry ∉ rest) (state : UInt8 × Nat)
    {onStop : Exit → State → Prop} :
    Triple (serve net)
      (fun s => ∃ gone, s.tables = Function.update tables nwk ((tables nwk).without gone) ∧
        Unbinding net phantoms (entry :: rest) state.2 gone)
      (unbindPhantom nwk state entry.decoded)
      (fun state s => ∃ gone, s.tables = Function.update tables nwk ((tables nwk).without gone) ∧
        Unbinding net phantoms rest state.2 gone) onStop := by
  obtain ⟨src, srcEp, cluster, dst⟩ := entry
  obtain ⟨-, dst, dstEp, rfl, -⟩ := hphantom
  refine .exists fun gone => .extract fun h => ?_
  refine (triple_unbind hprompt state.1).bind fun r => .done ?_
  rintro s ⟨t', hs, hsettled⟩
  obtain ⟨gone', rfl, hnext⟩ := h.next hphantoms hrest hmem hsettled
  exact ⟨gone', hs, hnext⟩

end Loop

-- What --unbind-phantoms makes of the tables, and its exit code
structure Cleaned (net : Network L) (nwk : UInt16) (before after : Tables)
    (result : Except Exit Nat) : Prop where
  spared : ∃ gone, (∀ entry ∈ gone, entry.Phantom net.ieee) ∧
    after = Function.update before nwk ((before nwk).without gone)
  ended : net.Prompt → (net.node nwk).Numbered → exitCode result ≠ none
  clean : net.Prompt → (net.node nwk).Truthful → exitCode result = some 0 →
    ∀ entry ∈ (after nwk).entries, ¬entry.Phantom net.ieee
  benign : net.Benign → (net.node nwk).Truthful → exitCode result = some 0

section Mode

variable {nwk : UInt16}

-- What the exit code says of a truthful device
structure Reported (net : Network L) (nwk : UInt16) (after : Tables)
    (result : Except Exit Nat) : Prop where
  clean : exitCode result = some 0 → ∀ entry ∈ (after nwk).entries, ¬entry.Phantom net.ieee
  benign : net.Benign → exitCode result = some 0

theorem GaveUp.reported {e : Exit} (h : GaveUp net e) (after : Tables) :
    Reported net nwk after (.error e) :=
  ⟨fun hzero => absurd hzero h.failed, fun hbenign => absurd hbenign h.reason⟩

theorem Table.update_without_nil (tables : UInt16 → Table) (nwk : UInt16) :
    Function.update tables nwk ((tables nwk).without []) = tables := by
  rw [Table.without_nil, Function.update_eq_self]

-- The entries of the table that the tool has found to be phantoms
def phantoms (net : Network L) (t : Table) : List Entry :=
  t.entries.filter fun entry => isPhantom net.ieee.toList entry.decoded

theorem mem_phantoms (t : Table) (entry : Entry) :
    entry ∈ phantoms net t ↔ entry ∈ t.entries ∧ entry.Phantom net.ieee := by
  rw [phantoms, List.mem_filter, isPhantom_decoded]

theorem triple_unbindPhantoms (hprompt : net.Prompt) {onStop : Exit → State → Prop} :
    Triple (serve net) (fun s => s.tables = tables)
      (((phantoms net (tables nwk)).map Entry.decoded).foldlM (unbindPhantom nwk) (0x80, 0))
      (fun state s => ∃ gone,
        s.tables = Function.update tables nwk ((tables nwk).without gone) ∧
          Unbinding net (phantoms net (tables nwk)) [] state.2 gone) onStop := by
  let es := phantoms net (tables nwk)
  have hnodup : es.Nodup := (tables nwk).nodup.filter _
  let inv : List Entry → UInt8 × Nat → State → Prop := fun rest state s =>
    (∃ gone, s.tables = Function.update tables nwk ((tables nwk).without gone) ∧
      Unbinding net es rest state.2 gone) ∧ rest <:+ es
  have hloop : Triple (serve net) (inv es (0x80, 0))
      (es.foldlM (fun state entry => unbindPhantom nwk state entry.decoded) (0x80, 0)) (inv [])
      onStop := by
    refine .foldlM (fun entry rest state => .extract fun hsuffix => ?_) es (0x80, 0)
    have hmem : entry ∈ es := hsuffix.subset List.mem_cons_self
    have hrest : entry ∉ rest := (List.nodup_cons.mp (hnodup.sublist hsuffix.sublist)).1
    obtain ⟨hentry, hphantom⟩ := (mem_phantoms _ _).mp hmem
    exact (triple_unbindPhantom hprompt hphantom hentry hmem hrest state).weaken (fun _ h => h)
      (fun _ _ h => ⟨h, (List.suffix_cons entry rest).trans hsuffix⟩) fun _ _ h => h
  rw [List.foldlM_map]
  refine hloop.weaken (fun s hs => ⟨⟨[], ?_, ?_⟩, List.suffix_refl es⟩) (fun _ _ h => h.1)
    fun _ _ h => h
  · rw [hs, Table.update_without_nil]
  · exact ⟨nofun, fun _ entry hentry => .inr hentry, fun _ => rfl⟩

theorem filter_decoded_eq_nil (ieee : Backup.IeeeAddr) (t : Table) :
    (t.entries.map Entry.decoded).filter (isPhantom ieee.toList) = [] ↔
      ∀ entry ∈ t.entries, ¬entry.Phantom ieee := by
  rw [List.filter_eq_nil_iff, List.forall_mem_map]
  exact forall₂_congr fun entry _ => not_congr (isPhantom_decoded ieee entry)

theorem Unbinding.clean {failed : Nat} {gone : List Entry}
    (h : Unbinding net (phantoms net (tables nwk)) [] failed gone) (hfailed : failed = 0)
    (entry : Entry) (hmem : entry ∈ ((tables nwk).without gone).entries) :
    ¬entry.Phantom net.ieee := by
  intro hphantom
  obtain ⟨hentry, hgone⟩ := (Table.mem_without _ _ _).mp hmem
  rcases h.complete hfailed entry ((mem_phantoms _ _).mpr ⟨hentry, hphantom⟩) with hmem | hmem
  · exact hgone hmem
  · cases hmem

theorem triple_cleanup (hprompt : net.Prompt) (htruth : (net.node nwk).Truthful) (fuel : Nat) :
    Triple (serve net) (fun s => s.tables = tables)
      (cleanup (fuel + 256) nwk net.ieee.toList
        ((phantoms net (tables nwk)).map Entry.decoded))
      (fun code s => Reported net nwk s.tables (.ok code))
      (fun e s => Reported net nwk s.tables (.error e)) := by
  refine (triple_unbindPhantoms hprompt).bind fun state => .exists fun gone => .extract fun h => ?_
  refine ((triple_dumpTable hprompt fuel nwk false).weaken (fun _ h => h) (fun _ _ h => h)
    (fun e s hgave => hgave.reported s.tables)).bind fun result => .extract fun hread =>
      .done fun s hs => ?_
  obtain ⟨entries, recs⟩ := result
  have hrecs := hread.resolve_left (by decide) htruth
  rw [Function.update_self] at hrecs
  subst hrecs
  have hafter : s.tables nwk = (tables nwk).without gone := by
    rw [hs, Function.update_self]
  have hleft := filter_decoded_eq_nil net.ieee ((tables nwk).without gone)
  refine ⟨fun hzero => ?_, fun hbenign => ?_⟩
  · rw [hafter]
    refine hleft.mp ?_
    by_contra hnot
    simp [exitCode, hnot] at hzero
  · have hfailed := h.benign hbenign
    exact congrArg some (if_pos ⟨hleft.mpr (h.clean hfailed), hfailed⟩)

-- --unbind-phantoms, and nothing else
def Args.cleanup (nwk : UInt16) : Args := { Args.default nwk with unbindPhantoms := true }

theorem triple_main_unbind (hprompt : net.Prompt) (htruth : (net.node nwk).Truthful) (fuel : Nat) :
    Triple (serve net) (fun s => s.tables = tables)
      (main (fuel + 256) (.cleanup nwk))
      (fun code s => Reported net nwk s.tables (.ok code))
      (fun e s => Reported net nwk s.tables (.error e)) := by
  refine ((triple_identity hprompt).weaken (fun _ h => h) (fun _ _ h => h) fun _ _ h =>
    h.reported _).bind fun ieeeTrue => .extract ?_
  rintro rfl
  refine ((triple_dumpTable hprompt fuel nwk false).weaken (fun _ h => h) (fun _ _ h => h)
    fun _ _ h => h.reported _).bind fun result => .extract fun hread => ?_
  obtain ⟨entries, recs⟩ := result
  obtain rfl := hread.resolve_left (by decide) htruth
  have hfound : ((tables nwk).entries.map Entry.decoded).filter (isPhantom net.ieee.toList) =
      (phantoms net (tables nwk)).map Entry.decoded := List.filter_map
  dsimp only
  by_cases hnone : ((tables nwk).entries.map Entry.decoded).filter (isPhantom net.ieee.toList) = []
  · rw [if_neg fun h => h.2 hnone]
    have hclean := (filter_decoded_eq_nil net.ieee (tables nwk)).mp hnone
    exact .done fun s hs => ⟨fun _ => hs ▸ hclean, fun _ => rfl⟩
  · rw [if_pos ⟨rfl, hnone⟩, hfound]
    exact triple_cleanup hprompt htruth fuel

-- A table out of which nothing but phantoms is missing
theorem closed_spared (before : Table) (src : UInt64) :
    let args := Args.cleanup nwk
    Closed net nwk (Binds net.ieee src args) (Unbinds net.ieee src args) fun t =>
      ∃ gone, (∀ entry ∈ gone, entry.Phantom net.ieee) ∧ t = before.without gone where
  bind t entry _ hbinds := by
    cases hbinds with
    | probe hmode _ => cases hmode
    | verify hmode _ _ => cases hmode
  unbind t entry ht hunbinds := by
    obtain ⟨gone, hgone, rfl⟩ := ht
    cases hunbinds with
    | bound h =>
        cases h with
        | probe hmode _ => cases hmode
        | verify hmode _ _ => cases hmode
    | phantom _ hphantom =>
        refine ⟨gone ++ [entry], fun other hother => ?_, before.without_without gone [entry]⟩
        rcases List.mem_append.mp hother with hold | hnew
        · exact hgone other hold
        · exact List.mem_singleton.mp hnew ▸ hphantom
    | purge hmode _ _ => cases hmode

-- Whatever becomes of the requests on their way, the tool removes nothing but
-- phantoms. When nothing comes too late, it ends, and then its exit code can
-- be trusted as far as the device can.
theorem phantoms_cleaned (net : Network L) (fuel : Nat) (nwk : UInt16) (tables : Tables) :
    let final := (main (fuel + 256) (.cleanup nwk)).run (serve net) (State.start tables)
    Cleaned net nwk tables final.1.tables final.2 := by
  intro final
  have hreported (hprompt : net.Prompt) (htruth : (net.node nwk).Truthful) :
      Reported net nwk final.1.tables final.2 :=
    Triple.result (P := fun (s : State) result => Reported net nwk s.tables result)
      (triple_main_unbind hprompt htruth fuel) rfl
  obtain ⟨⟨t, htables, gone, hgone, rfl⟩, -⟩ := main_kept net (.cleanup nwk) none rfl tables
    (fuel + 256) (closed_spared (tables nwk) _) ⟨[], nofun, (Table.without_nil _).symm⟩
  exact ⟨⟨gone, hgone, htables⟩, fun hprompt hnumbered => main_ends hprompt hnumbered fuel _,
    fun hprompt htruth => (hreported hprompt htruth).clean,
    fun hbenign htruth => (hreported hbenign.answering.prompt htruth).benign hbenign⟩

-- A network in which nothing goes wrong
def calm : Network Restore.smallLayout where
  world :=
    { Immediate.blankWorld with
      stack := { Immediate.blankStack with longAddress := #v[0x34, 0x12, 0, 0, 0, 0x4b, 0x12, 0] } }
  ieee := #v[0x34, 0x12, 0, 0, 0, 0x4b, 0x12, 0]
  known := rfl
  node := fun _ => orderly 8
  fate := fun _ =>
    { overdue := [], arrives := true, course := .carriedOut, stale := [], answered := true }
  outdata := fun _ => 0

theorem benign_calm : calm.Benign where
  answering := ⟨fun _ => ⟨rfl, rfl⟩, fun _ => rfl, fun _ => nofun⟩
  arrives _ := rfl
  carriedOut _ := rfl
  listed _ _ _ _ := rfl
  numbered _ := (truthful_orderly 8).numbered

-- Every table has an entry for the reversed address, and one for a group.
def crowded : Tables := fun _ =>
  { entries :=
      [unicast 0x1122334455667788 1 0xfcc0 (wordOf calm.ieee.toList.reverse) 1,
        { src := 0x1122334455667788, srcEp := 1, cluster := 0x0006, dst := .group 0x0001 }]
    nodup := by decide
    small := by decide }

theorem phantoms_cleaned_calm :
    let final := (main 256 (.cleanup 0x4711)).run (serve calm) (State.start crowded)
    exitCode final.2 = some 0 ∧
      ∀ entry ∈ (final.1.tables 0x4711).entries, ¬entry.Phantom calm.ieee :=
  have hcleaned := phantoms_cleaned calm 0 0x4711 crowded
  have hexit := hcleaned.benign benign_calm (truthful_orderly 8)
  ⟨hexit, hcleaned.clean benign_calm.answering.prompt (truthful_orderly 8) hexit⟩

end Mode

end EspCoordinator.BindTableTool
