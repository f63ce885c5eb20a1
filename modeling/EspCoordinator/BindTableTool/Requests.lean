import EspCoordinator.BindTableTool.Main

-- What the tool sends, as far as it depends on what it is answered
namespace EspCoordinator.BindTableTool

open Bytes
open Client (Contract)

-- What parse_records makes of the bytes of an entry
structure Rec.Formed (rec : Rec) : Prop where
  src : rec.src.length = 8
  cluster : rec.cluster < 65536

theorem parseWord_lt {body : List UInt8} {p word : Nat} (h : parseWord body p = some word) :
    word < 65536 := by
  obtain ⟨lo, -, h⟩ := Option.bind_eq_some_iff.mp h
  obtain ⟨hi, -, h⟩ := Option.bind_eq_some_iff.mp h
  cases h
  have hlo := lo.toNat_lt
  have hhi := hi.toNat_lt
  have hshift : hi.toNat <<< 8 < 2 ^ 16 := by
    rw [Nat.shiftLeft_eq]
    omega
  exact Nat.or_lt_two_pow (show lo.toNat < 2 ^ 16 by omega) hshift

theorem formed_parseRecord {body : List UInt8} {p next : Nat} {rec : Rec}
    (hfits : p + 12 ≤ body.length) (h : parseRecord body p = some (rec, next)) : rec.Formed := by
  obtain ⟨srcEp, -, h⟩ := Option.bind_eq_some_iff.mp h
  obtain ⟨cluster, hcluster, h⟩ := Option.bind_eq_some_iff.mp h
  obtain ⟨mode, -, h⟩ := Option.bind_eq_some_iff.mp h
  have hsrc : ((body.drop p).take 8).length = 8 := by
    rw [List.length_take, List.length_drop]
    omega
  split at h
  · obtain ⟨dstShort, -, h⟩ := Option.bind_eq_some_iff.mp h
    cases h
    exact ⟨hsrc, parseWord_lt hcluster⟩
  · split at h
    · obtain ⟨dstEp, -, h⟩ := Option.bind_eq_some_iff.mp h
      cases h
      exact ⟨hsrc, parseWord_lt hcluster⟩
    · cases h
      exact ⟨hsrc, parseWord_lt hcluster⟩

theorem formed_parseLoop {body : List UInt8} {count p : Nat} {recs : List Rec}
    (h : parseLoop body count p = some recs) : ∀ rec ∈ recs, rec.Formed := by
  induction count generalizing p recs with
  | zero =>
      cases h
      exact nofun
  | succ count ih =>
      rw [parseLoop] at h
      split at h
      · cases h
        exact nofun
      · next hfits =>
          obtain ⟨⟨first, next⟩, hfirst, h⟩ := Option.bind_eq_some_iff.mp h
          obtain ⟨rest, hrest, h⟩ := Option.bind_eq_some_iff.mp h
          cases h
          intro rec hrec
          rcases List.mem_cons.mp hrec with rfl | hrec
          · exact formed_parseRecord (Nat.le_of_not_lt hfits) hfirst
          · exact ih hrest rec hrec

theorem formed_parseRecords {body : List UInt8} {parsed : Parsed}
    (h : parseRecords body = some parsed) : ∀ rec ∈ parsed.recs, rec.Formed := by
  obtain ⟨entries, -, h⟩ := Option.bind_eq_some_iff.mp h
  obtain ⟨start, -, h⟩ := Option.bind_eq_some_iff.mp h
  obtain ⟨count, -, h⟩ := Option.bind_eq_some_iff.mp h
  obtain ⟨recs, hrecs, h⟩ := Option.bind_eq_some_iff.mp h
  cases h
  exact formed_parseLoop hrecs

theorem dst_of_isPhantom {ieeeTrue : List UInt8} {rec : Rec} (h : isPhantom ieeeTrue rec = true) :
    rec.dst = some ieeeTrue.reverse := by
  rw [isPhantom, decide_eq_true_eq, classify] at h
  split at h
  · cases h
  · split at h
    · cases h
    · split at h
      · assumption
      · cases h

abbrev Terms := Contract Request (Option Answer) Exit

def listRequest (nwk : UInt16) (start tsn : UInt8) : Request :=
  { cmdId := 0x020F, payload := toLE 2 nwk.toNat ++ [start], tsn }

-- Every page starts where it has been asked to.
def Terms.Numbered (k : Terms) (nwk : UInt16) : Prop := ∀ {start tsn answer parsed},
  k.legit (listRequest nwk start tsn) (some answer) → answer.status = 0 →
    parseRecords answer.body = some parsed → parsed.start = start

-- What has to be allowed for a run of main. `mine` is what the tool may take for
-- the coordinator's address, and `source` for that of the device.
structure Permits (k : Terms) (fuel : Nat) (args : Args) (mine source : List UInt8 → Prop) :
    Prop where
  version : ∀ tsn, k.allowed { cmdId := 0x0001, payload := [], tsn }
  localIeee : ∀ tsn, k.allowed { cmdId := 0x000B, payload := [0x00], tsn }
  ieeeAddr : ∀ tsn, k.allowed
    { cmdId := 0x0202, payload := toLE 2 args.nwk.toNat ++ toLE 2 args.nwk.toNat ++ [0x00, 0x00]
      tsn }
  list : ∀ start tsn, k.allowed (listRequest args.nwk start tsn)
  -- the addresses, out of the answers
  identified : ∀ {version r : Answer} {tsn tsn' : UInt8},
    k.legit { cmdId := 0x0001, payload := [], tsn } (some version) →
      k.legit { cmdId := 0x000B, payload := [0x00], tsn := tsn' } (some r) →
        r.status = 0 → 9 ≤ r.body.length →
          mine (trueIeee (firmware version) ((r.body.drop 1).take 8))
  given : ∀ srcIeee, args.srcIeee = some srcIeee → source srcIeee
  resolved : args.srcIeee = none → ∀ {r : Answer} {tsn : UInt8},
    k.legit
        { cmdId := 0x0202
          payload := toLE 2 args.nwk.toNat ++ toLE 2 args.nwk.toNat ++ [0x00, 0x00], tsn }
        (some r) →
      r.status = 0 → 8 ≤ r.body.length → source (r.body.take 8)
  -- the changes, each in its mode
  phantom : args.unbindPhantoms = true → ∀ ieeeTrue, mine ieeeTrue → ∀ rec : Rec, rec.Formed →
    isPhantom ieeeTrue rec = true → ∀ dstEp tsn, k.allowed
      { cmdId := 0x0209
        payload := bindPayload args.nwk rec.src rec.srcEp (UInt16.ofNat rec.cluster)
          ieeeTrue.reverse dstEp
        tsn }
  probe : args.testBind = true → ∀ ieeeTrue, mine ieeeTrue → ∀ srcIeee, source srcIeee →
    ∀ dst ∈ [ieeeTrue, NEUTRAL_IEEE_LE, ieeeTrue.reverse], ∀ cmdId ∈ [0x0208, 0x0209], ∀ tsn,
      k.allowed
        { cmdId, payload := bindPayload args.nwk srcIeee args.srcEp args.cluster dst args.dstEp
          tsn }
  purge : args.purgePhantomBlind = true → args.nwk ≠ 0x0000 → ∀ ieeeTrue, mine ieeeTrue →
    ∀ srcIeee, source srcIeee → ∀ combo ∈ args.purgeList, ∀ tsn, k.allowed
      { cmdId := 0x0209
        payload := bindPayload args.nwk srcIeee combo.1 combo.2 ieeeTrue.reverse args.dstEp, tsn }
  verify : args.purgePhantomBlind = true → args.nwk ≠ 0x0000 → ∀ srcIeee, source srcIeee →
    ∀ combo ∈ args.purgeList.head?, ∀ cmdId ∈ [0x0208, 0x0209], ∀ tsn, k.allowed
      { cmdId, payload := bindPayload args.nwk srcIeee combo.1 combo.2 NEUTRAL_IEEE_LE args.dstEp
        tsn }
  fails : ∀ e, e ≠ .exit 0 → e ≠ .running → k.fails e
  ends : k.fails .running ∨ 256 ≤ fuel ∧ k.Numbered args.nwk

section Asks

variable {k : Terms} {fuel : Nat} {args : Args} {mine source : List UInt8 → Prop}

theorem asks_txnRetry {cmdId : UInt16} {payload : List UInt8}
    (hallowed : ∀ tsn, k.allowed { cmdId, payload, tsn }) (tsnBase : UInt8) :
    (txnRetry cmdId payload tsnBase).Asks k fun r =>
      ∀ answer, r = some answer → ∃ tsn, k.legit { cmdId, payload, tsn } (some answer) := by
  suffices h : ∀ tries tsn, (attempts cmdId payload tries tsn).Asks k _ from h 3 tsnBase
  intro tries
  induction tries with
  | zero => exact fun _ answer h => by cases h
  | succ tries ih =>
      refine fun tsn => ⟨hallowed tsn, fun r hr => ?_⟩
      cases r with
      | none => exact ih (tsn + 1)
      | some answer =>
          rintro _ ⟨⟩
          exact ⟨tsn, hr⟩

theorem Permits.asks_unreadable (h : Permits k fuel args mine source) (soft : Bool) {code : Nat}
    (hcode : code ≠ 0) :
    (unreadable soft code).Asks k fun dumped => ∀ rec ∈ dumped.2, rec.Formed := by
  unfold unreadable
  cases soft with
  | true => exact nofun
  | false => exact h.fails _ (fun heq => hcode (Exit.exit.inj heq)) nofun

-- With every page the loop gets further, or it need not end.
theorem Permits.asks_dumpLoop (h : Permits k fuel args mine source) (soft : Bool) (left : Nat)
    (tsn start : UInt8) (allRecs : List Rec) (hall : ∀ rec ∈ allRecs, rec.Formed)
    (hends : k.fails .running ∨ 256 ≤ left + start.toNat ∧ k.Numbered args.nwk) :
    (dumpLoop args.nwk soft left tsn start allRecs).Asks k
      fun dumped => ∀ rec ∈ dumped.2, rec.Formed := by
  induction left generalizing tsn start allRecs with
  | zero =>
      have hlt := start.toNat_lt
      exact hends.resolve_right fun hends => by omega
  | succ left ih =>
      rw [dumpLoop]
      refine (asks_txnRetry (h.list start) tsn).bind fun r hr => ?_
      cases r with
      | none => exact h.asks_unreadable soft (by decide)
      | some answer =>
          dsimp only
          split
          · exact h.asks_unreadable soft (by decide)
          · next hstatus =>
              cases hparse : parseRecords answer.body with
              | none => exact h.fails _ nofun nofun
              | some parsed =>
                  have hmore : ∀ rec ∈ allRecs ++ parsed.recs, rec.Formed := by
                    intro rec hrec
                    rcases List.mem_append.mp hrec with hold | hnew
                    · exact hall rec hold
                    · exact formed_parseRecords hparse rec hnew
                  dsimp only
                  split
                  · exact hmore
                  · next hgoes =>
                      refine ih _ _ _ hmore (hends.imp_right fun hends => ⟨?_, hends.2⟩)
                      obtain ⟨tsn, hr⟩ := hr answer rfl
                      have hstart := hends.2 hr (not_not.mp hstatus) hparse
                      obtain ⟨hcount, hbefore⟩ := not_or.mp hgoes
                      have hentries := parsed.entries.toNat_lt
                      have hpos : parsed.count.toNat ≠ 0 := fun hzero =>
                        hcount (UInt8.toNat_inj.mp hzero)
                      rw [UInt8.toNat_ofNat', hstart]
                      rw [hstart] at hbefore
                      omega

theorem Permits.asks_dumpTable (h : Permits k fuel args mine source) (soft : Bool) :
    (dumpTable fuel args.nwk soft).Asks k fun dumped => ∀ rec ∈ dumped.2, rec.Formed :=
  h.asks_dumpLoop soft fuel 0x40 0 [] nofun h.ends

theorem Permits.asks_identity (h : Permits k fuel args mine source) : identity.Asks k mine := by
  have hstop : k.fails (.exit 1) := h.fails _ (by decide) nofun
  refine (asks_txnRetry h.version 0x01).bind fun version hversion => ?_
  cases version with
  | none => exact hstop
  | some version =>
      refine (asks_txnRetry h.localIeee 0x05).bind fun r hr => ?_
      cases r with
      | none => exact hstop
      | some r =>
          dsimp only
          split
          · exact hstop
          · next hread =>
              obtain ⟨hstatus, hlen⟩ := not_or.mp hread
              obtain ⟨tsn, hversion⟩ := hversion version rfl
              obtain ⟨tsn', hr⟩ := hr r rfl
              exact h.identified hversion hr (not_not.mp hstatus) (Nat.le_of_not_lt hlen)

theorem Permits.asks_cleanup (h : Permits k fuel args mine source)
    (hmode : args.unbindPhantoms = true)
    {ieeeTrue : List UInt8} (hmine : mine ieeeTrue) {phantoms : List Rec}
    (hformed : ∀ rec ∈ phantoms, rec.Formed ∧ isPhantom ieeeTrue rec = true) :
    (cleanup fuel args.nwk ieeeTrue phantoms).Asks k fun _ => True := by
  have hone (rec : Rec) (hrec : rec ∈ phantoms) (state : UInt8 × Nat) :
      (unbindPhantom args.nwk state rec).Asks k fun _ => True := by
    obtain ⟨hformed, hphantom⟩ := hformed rec hrec
    have hcluster : (UInt16.ofNat rec.cluster).toNat = rec.cluster :=
      UInt16.toNat_ofNat_of_lt' hformed.cluster
    have hallowed := h.phantom hmode ieeeTrue hmine rec hformed hphantom (rec.dstEp.getD 0)
    rw [bindPayload, hcluster] at hallowed
    simp only [unbindPhantom, dst_of_isPhantom hphantom]
    exact (asks_txnRetry hallowed _).bind fun _ _ => trivial
  have hall : (phantoms.foldlM (unbindPhantom args.nwk) (0x80, 0)).Asks k fun _ => True :=
    Client.Asks.foldlM (fun rec hrec state _ => hone rec hrec state) trivial
  exact hall.bind fun _ _ => (h.asks_dumpTable false).bind fun _ _ => trivial

theorem Permits.asks_sourceIeee (h : Permits k fuel args mine source) :
    (sourceIeee args).Asks k source := by
  rw [sourceIeee]
  cases hgiven : args.srcIeee with
  | some srcIeee => exact h.given srcIeee hgiven
  | none =>
      have hresolve : (resolveIeee args.nwk).Asks k fun resolved =>
          ∀ srcIeee, resolved = some srcIeee → source srcIeee := by
        refine (asks_txnRetry h.ieeeAddr 0x30).bind fun r hr => ?_
        cases r with
        | none => exact nofun
        | some r =>
            dsimp only
            split
            · exact nofun
            · next hread =>
                obtain ⟨hstatus, hlen⟩ := not_or.mp hread
                obtain ⟨tsn, hr⟩ := hr r rfl
                rintro srcIeee ⟨⟩
                exact h.resolved hgiven hr (not_not.mp hstatus) (Nat.le_of_not_lt hlen)
      refine hresolve.bind fun resolved hresolved => ?_
      cases resolved with
      | none => exact h.fails _ (by decide) nofun
      | some srcIeee => exact hresolved srcIeee rfl

theorem Permits.asks_visible (h : Permits k fuel args mine source) {target : Target}
    (hnwk : target.nwk = args.nwk) (dst : List UInt8) (midVisible : Option Bool) :
    (visible fuel target args.srcEp args.cluster dst midVisible).Asks k fun _ => True := by
  rw [visible, hnwk]
  split
  · exact (h.asks_dumpTable true).bind fun _ _ => trivial
  · trivial

theorem Permits.asks_finalDump (h : Permits k fuel args mine source) :
    (finalDump fuel args.nwk).Asks k fun _ => True := by
  rw [finalDump]
  split
  · exact (h.asks_dumpTable true).bind fun _ _ => trivial
  · trivial

theorem Permits.asks_testBind (h : Permits k fuel args mine source) (hmode : args.testBind = true)
    {ieeeTrue srcIeee : List UInt8} (hmine : mine ieeeTrue) (hsource : source srcIeee) :
    (testBind fuel args { nwk := args.nwk, srcIeee, dstEp := args.dstEp } ieeeTrue).Asks k
      fun _ => True := by
  let target : Target := { nwk := args.nwk, srcIeee, dstEp := args.dstEp }
  have hone (dst : List UInt8) (hdst : dst ∈ [ieeeTrue, NEUTRAL_IEEE_LE, ieeeTrue.reverse])
      (probe : Probe) :
      (probeCandidate fuel target args.srcEp args.cluster probe dst).Asks k fun _ => True := by
    have hallowed := h.probe hmode ieeeTrue hmine srcIeee hsource dst hdst
    rw [probeCandidate]
    refine (asks_txnRetry (hallowed 0x0208 (by simp)) _).bind fun r _ => ?_
    split
    · refine (h.asks_visible rfl dst _).bind fun midVisible _ => ?_
      refine (asks_txnRetry (hallowed 0x0209 (by simp)) _).bind fun ru _ => ?_
      split <;> trivial
    · trivial
  have hprobe : (runBindProbe fuel target args.srcEp args.cluster ieeeTrue
      ieeeTrue.reverse).Asks k fun _ => True :=
    Client.Asks.foldlM (fun dst hdst probe _ => hone dst hdst probe) trivial
  exact hprobe.bind fun probe _ => (h.asks_finalDump).bind fun _ _ => trivial

theorem Permits.asks_verifyBind (h : Permits k fuel args mine source)
    (hmode : args.purgePhantomBlind = true) (hnwk : args.nwk ≠ 0x0000) {srcIeee : List UInt8}
    (hsource : source srcIeee) (tsn : UInt8) :
    (verifyBind { nwk := args.nwk, srcIeee, dstEp := args.dstEp } args.purgeList tsn).Asks k
      fun _ => True := by
  have hallowed := h.verify hmode hnwk srcIeee hsource
  unfold verifyBind
  split
  · exact h.fails _ nofun nofun
  · next vep vcluster rest hlist =>
      rw [hlist] at hallowed
      have hverify := hallowed (vep, vcluster) rfl
      refine (asks_txnRetry (hverify 0x0208 (by simp)) tsn).bind fun r _ => ?_
      split
      · exact (asks_txnRetry (hverify 0x0209 (by simp)) _).bind fun _ _ => trivial
      · trivial

theorem Permits.asks_runPhantomPurge (h : Permits k fuel args mine source)
    (hmode : args.purgePhantomBlind = true) (hnwk : args.nwk ≠ 0x0000)
    {ieeeTrue srcIeee : List UInt8} (hmine : mine ieeeTrue) (hsource : source srcIeee) :
    (runPhantomPurge { nwk := args.nwk, srcIeee, dstEp := args.dstEp } args.purgeList
      ieeeTrue.reverse).Asks k fun _ => True := by
  have hone (combo : Combo) (hcombo : combo ∈ args.purgeList) (purge : Purge) :
      (purgeCombo { nwk := args.nwk, srcIeee, dstEp := args.dstEp } ieeeTrue.reverse purge
        combo).Asks k fun _ => True :=
    (asks_txnRetry (h.purge hmode hnwk ieeeTrue hmine srcIeee hsource combo hcombo) _).bind
      fun _ _ => trivial
  have hall : (args.purgeList.foldlM (purgeCombo
      { nwk := args.nwk, srcIeee, dstEp := args.dstEp } ieeeTrue.reverse)
        Purge.start).Asks k fun _ => True :=
    Client.Asks.foldlM (fun combo hcombo purge _ => hone combo hcombo purge) trivial
  exact hall.bind fun purge _ => (h.asks_verifyBind hmode hnwk hsource purge.tsn).bind
    fun _ _ => trivial

theorem Permits.asks_purgePhantomBlind (h : Permits k fuel args mine source)
    (hmode : args.purgePhantomBlind = true) {ieeeTrue srcIeee : List UInt8} (hmine : mine ieeeTrue)
    (hsource : source srcIeee) :
    (purgePhantomBlind args { nwk := args.nwk, srcIeee, dstEp := args.dstEp } ieeeTrue).Asks k
      fun _ => args.nwk ≠ 0x0000 := by
  rw [purgePhantomBlind]
  split
  · exact h.fails _ (by decide) nofun
  · next hnwk =>
      split
      · exact h.fails _ (by decide) nofun
      · exact (h.asks_runPhantomPurge hmode hnwk hmine hsource).bind fun _ _ => hnwk

-- When it is the coordinator itself that is to be purged, main has no result.
theorem Permits.asks_main (h : Permits k fuel args mine source) :
    (main fuel args).Asks k fun _ =>
      args.unbindPhantoms = false → args.purgePhantomBlind = true → args.nwk ≠ 0x0000 := by
  refine h.asks_identity.bind fun ieeeTrue hmine => ?_
  refine (h.asks_dumpTable false).bind fun dumped hformed => ?_
  dsimp only
  split
  · next hunbind =>
      have hphantoms : ∀ rec ∈ dumped.2.filter (isPhantom ieeeTrue),
          rec.Formed ∧ isPhantom ieeeTrue rec = true := fun rec hrec =>
        ⟨hformed rec (List.mem_of_mem_filter hrec), List.of_mem_filter hrec⟩
      refine (h.asks_cleanup hunbind.1 hmine hphantoms).mono fun _ _ hnot => ?_
      rw [hunbind.1] at hnot
      cases hnot
  · rw [probes]
    split
    · refine h.asks_sourceIeee.bind fun srcIeee hsource => ?_
      let post : Nat → Prop := fun _ =>
        args.unbindPhantoms = false → args.purgePhantomBlind = true → args.nwk ≠ 0x0000
      have hpurge (probed : Nat) : (if args.purgePhantomBlind = true then do
          let purged ← purgePhantomBlind args
            { nwk := args.nwk, srcIeee, dstEp := args.dstEp } ieeeTrue
          pure (max probed purged)
          else do
            let purged ← pure 0
            pure (max probed purged)).Asks k post := by
        split
        · next hmode =>
            exact (h.asks_purgePhantomBlind hmode hmine hsource).bind fun _ hnwk _ _ => hnwk
        · next hmode => exact fun _ hnot => absurd hnot hmode
      dsimp only
      split
      · next hmode =>
          exact (h.asks_testBind hmode hmine hsource).bind fun probed _ => hpurge probed
      · exact hpurge 0
    · next hmode =>
        intro _ hpurge
        exact absurd (.inr hpurge) hmode

end Asks

end EspCoordinator.BindTableTool
