import EspCoordinator.Lib.Bytes
import EspCoordinator.Reply
import EspCoordinator.Requests

-- cmd_handle<NWK_FORMATION>
namespace EspCoordinator.NwkFormation

open Bytes
open Requests (Frame GENERIC_INVALID_PARAMETER)

def STATUS_CATEGORY_NWK : UInt8 := 3
def GENERIC_BUSY : UInt8 := 4

-- What the getters of the stack return.
structure Settings where
  channelMask : UInt32
  bdbPrimaryChannelSet : UInt32
  bdbSecondaryChannelSet : UInt32
  extendedPanId : List UInt8
deriving DecidableEq, Repr

structure Network where
  shortAddress : UInt16
  panId : UInt16
  currentChannel : UInt8
deriving DecidableEq, Repr

-- The calls into the stack.
structure Zboss (σ : Type) where
  setChannelMask : UInt32 → σ → σ
  setBdbPrimaryChannelSet : UInt32 → σ → σ
  setBdbSecondaryChannelSet : UInt32 → σ → σ
  setExtendedPanId : List UInt8 → σ → σ
  bdbStartTopLevelCommissioning : σ → Bool × σ
  settings : σ → Settings
  network : σ → Network
  -- what the stack keeps of a mask
  kept : UInt32 → UInt32

-- A setter changes what it is called after and nothing else.
structure Zboss.Lawful {σ : Type} (z : Zboss σ) : Prop where
  channelMask : ∀ mask s, z.settings (z.setChannelMask mask s) =
    { z.settings s with channelMask := z.kept mask }
  primary : ∀ mask s, z.settings (z.setBdbPrimaryChannelSet mask s) =
    { z.settings s with bdbPrimaryChannelSet := z.kept mask }
  secondary : ∀ mask s, z.settings (z.setBdbSecondaryChannelSet mask s) =
    { z.settings s with bdbSecondaryChannelSet := z.kept mask }

structure State (σ : Type) where
  -- m_channels_mask and s_init_flag
  channelsMask : UInt32
  initFlag : Bool
  -- m_cmd
  cmd : Option Cmd
  zboss : σ

variable {σ : Type}

def setChannelMask (z : Zboss σ) (mask : UInt32) (s : State σ) : State σ :=
  let zboss := z.setChannelMask mask s.zboss
  let zboss := z.setBdbPrimaryChannelSet mask zboss
  { s with channelsMask := mask, zboss := z.setBdbSecondaryChannelSet mask zboss }

def startZigbeeStack (s : State σ) : State σ × Bool :=
  if s.initFlag then (s, false) else ({ s with initFlag := true }, true)

-- The loop over the channel entries. `none` is where it returns early.
def readChannels (z : Zboss σ) : Nat → List UInt8 → State σ → State σ × Option (List UInt8)
  | 0, indata, s => (s, some indata)
  | len + 1, page :: m0 :: m1 :: m2 :: m3 :: indata, s =>
      if page ≠ 0 then (s, none)
      else readChannels z len indata
        (setChannelMask z (UInt32.ofNat (ofLE [m0, m1, m2, m3])) s)
  | _ + 1, _, s => (s, none)

-- duration, distribFlag, distribNwk and extendedPanID, of which only the last
-- one is used.
def readExtendedPanId : List UInt8 → Option (List UInt8)
  | _ :: _ :: _ :: _ :: indata => if indata.length < 8 then none else some (indata.take 8)
  | _ => none

-- cmdlen has 16 bits.
def indata (cmddata : List UInt8) : List UInt8 := cmddata.take (cmddata.length % 2 ^ 16)

def startDelayed (z : Zboss σ) (s : State σ) (cmddata : List UInt8) : State σ × UInt8 :=
  match indata cmddata with
  | [] => (s, GENERIC_INVALID_PARAMETER)
  | len :: rest =>
      match readChannels z len.toNat rest s with
      | (s, none) => (s, GENERIC_INVALID_PARAMETER)
      | (s, some rest) =>
          match readExtendedPanId rest with
          | none => (s, GENERIC_INVALID_PARAMETER)
          | some extendedPanId =>
              let s := { s with zboss := z.setExtendedPanId extendedPanId s.zboss }
              let (s, started) := startZigbeeStack s
              if started then (s, 0)
              else
                let (ok, zboss) := z.bdbStartTopLevelCommissioning s.zboss
                ({ s with zboss }, if ok then 0 else GENERIC_ERROR)

def finishDelayed (z : Zboss σ) (s : State σ) (status : UInt8) : List UInt8 :=
  let network := if status = 0 then z.network s.zboss else ⟨0, 0, 0⟩
  [STATUS_CATEGORY_NWK, status] ++ toLE 2 network.shortAddress.toNat ++
    toLE 2 network.panId.toNat ++ [0, network.currentChannel]

-- delayed_cmd_process::response
def response (z : Zboss σ) (s : State σ) (status : UInt8) : State σ × List Frame :=
  match s.cmd with
  | some savedCmd =>
      ({ s with cmd := none }, [{ cmd := savedCmd.reply, data := finishDelayed z s status }])
  | none => (s, [])

-- delayed_cmd_process::process
def process (z : Zboss σ) (s : State σ) (cmd : Cmd) (buffer : List UInt8) :
    State σ × List Frame :=
  match s.cmd with
  | some _ => (s, [{ cmd := cmd.reply, data := [STATUS_CATEGORY_GENERIC, GENERIC_BUSY] }])
  | none =>
      let (s, res) := startDelayed z { s with cmd := some cmd } buffer
      if res ≠ 0 then response z s res else (s, [])

-- The masks of the entries in front of the first one that is cut off or has
-- another page.
def leadingMasks : Nat → List UInt8 → List UInt32
  | len + 1, page :: m0 :: m1 :: m2 :: m3 :: indata =>
      if page ≠ 0 then []
      else UInt32.ofNat (ofLE [m0, m1, m2, m3]) :: leadingMasks len indata
  | _, _ => []

def masks (cmddata : List UInt8) : List UInt32 :=
  match indata cmddata with
  | [] => []
  | len :: rest => leadingMasks len.toNat rest

-- All announced entries are there, and the rest of the arguments.
def Complete (cmddata : List UInt8) : Prop :=
  ∃ len rest, indata cmddata = len :: rest ∧ (leadingMasks len.toNat rest).length = len.toNat ∧
    5 * len.toNat + 12 ≤ rest.length

-- The channel mask wherever it is kept, and the extended PAN ID.
structure Observed where
  channelsMask : UInt32
  settings : Settings
deriving DecidableEq, Repr

def State.observed (z : Zboss σ) (s : State σ) : Observed :=
  { channelsMask := s.channelsMask, settings := z.settings s.zboss }

def Observed.withMask (z : Zboss σ) (observed : Observed) (mask : UInt32) : Observed :=
  { channelsMask := mask
    settings :=
      { observed.settings with
        channelMask := z.kept mask
        bdbPrimaryChannelSet := z.kept mask
        bdbSecondaryChannelSet := z.kept mask } }

variable {z : Zboss σ} {s : State σ} {len : Nat} {rest : List UInt8}

theorem observed_setChannelMask (hz : z.Lawful) (mask : UInt32) (s : State σ) :
    (setChannelMask z mask s).observed z = (s.observed z).withMask z mask := by
  simp only [State.observed, setChannelMask, hz.secondary, hz.primary, hz.channelMask,
    Observed.withMask]

theorem withMask_withMask (observed : Observed) (first second : UInt32) :
    (observed.withMask z first).withMask z second = observed.withMask z second := rfl

-- The loop has called the setters for each entry that it got past, and comes to
-- its end when no entry is bad.
theorem readChannels_eq (len : Nat) (rest : List UInt8) (s : State σ) :
    readChannels z len rest s =
      ((leadingMasks len rest).foldl (fun s mask => setChannelMask z mask s) s,
        if (leadingMasks len rest).length = len then some (rest.drop (5 * len)) else none) := by
  induction len, rest, s using readChannels.induct z with
  | case1 rest s => simp [readChannels, leadingMasks]
  | case2 len page m0 m1 m2 m3 rest s hpage =>
      rw [readChannels, leadingMasks, if_pos hpage, if_pos hpage]
      rfl
  | case3 len page m0 m1 m2 m3 rest s hpage ih =>
      rw [readChannels, leadingMasks, if_neg hpage, if_neg hpage, ih, List.length_cons,
        Nat.mul_succ]
      simp only [Nat.succ_eq_add_one, Nat.add_right_cancel_iff]
      rfl
  | case4 len rest s hshort =>
      rw [readChannels, leadingMasks]
      · rfl
      · exact fun _ page m0 m1 m2 m3 indata _ => hshort page m0 m1 m2 m3 indata
      · exact hshort

theorem observed_foldl (hz : z.Lawful) (masks : List UInt32) (s : State σ) :
    (masks.foldl (fun s mask => setChannelMask z mask s) s).observed z =
      masks.foldl (Observed.withMask z) (s.observed z) :=
  (List.foldl_hom (State.observed z) fun s mask => (observed_setChannelMask hz mask s).symm).symm

-- Only the last of them can be seen.
theorem foldl_withMask (masks : List UInt32) (observed : Observed) :
    masks.foldl (Observed.withMask z) observed =
      match masks.getLast? with
      | none => observed
      | some mask => observed.withMask z mask := by
  induction masks using List.reverseRecOn with
  | nil => rfl
  | append_singleton masks mask ih =>
      rw [List.foldl_append, ih, List.getLast?_concat]
      cases masks.getLast? with
      | none => rfl
      | some first => exact withMask_withMask observed first mask

theorem readExtendedPanId_isSome (rest : List UInt8) :
    (readExtendedPanId rest).isSome ↔ 12 ≤ rest.length := by
  match rest with
  | [] => simp [readExtendedPanId]
  | [_] => simp [readExtendedPanId]
  | [_, _] => simp [readExtendedPanId]
  | [_, _, _] => simp [readExtendedPanId]
  | _ :: _ :: _ :: _ :: indata =>
      rw [readExtendedPanId]
      split
      · next hshort => simpa using hshort
      · next hlong => simpa using hlong

theorem length_leadingMasks (len : Nat) (rest : List UInt8) :
    5 * (leadingMasks len rest).length ≤ rest.length := by
  induction len, rest using leadingMasks.induct with
  | case1 len page m0 m1 m2 m3 rest hpage =>
      rw [leadingMasks, if_pos hpage]
      exact Nat.zero_le _
  | case2 len page m0 m1 m2 m3 rest hpage ih =>
      rw [leadingMasks, if_neg hpage]
      simp only [List.length_cons]
      omega
  | case3 len rest hshort =>
      rw [leadingMasks]
      · exact Nat.zero_le _
      · exact hshort

-- How the arguments are read, and that they are read to the end.
theorem startDelayed_complete {cmddata : List UInt8} (h : Complete cmddata) :
    (startDelayed z s cmddata).2 ≠ GENERIC_INVALID_PARAMETER := by
  obtain ⟨len, rest, hdata, hmasks, hlong⟩ := h
  have htail : (readExtendedPanId (rest.drop (5 * len.toNat))).isSome := by
    rw [readExtendedPanId_isSome, List.length_drop]
    omega
  obtain ⟨extendedPanId, hext⟩ := Option.isSome_iff_exists.mp htail
  have hok : (0 : UInt8) ≠ GENERIC_INVALID_PARAMETER := by decide
  have hfailed : GENERIC_ERROR ≠ GENERIC_INVALID_PARAMETER := by decide
  simp only [startDelayed, hdata, readChannels_eq, if_pos hmasks, hext]
  split
  · exact hok
  · split
    · exact hok
    · exact hfailed

-- The rejection comes after the loop, or the loop has come to a bad entry.
theorem startDelayed_incomplete {cmddata : List UInt8} (hz : z.Lawful) (h : ¬Complete cmddata) :
    (startDelayed z s cmddata).2 = GENERIC_INVALID_PARAMETER ∧
      (startDelayed z s cmddata).1.observed z =
        (masks cmddata).foldl (Observed.withMask z) (s.observed z) := by
  cases hdata : indata cmddata with
  | nil =>
      simp only [startDelayed, masks, hdata, true_and]
      rfl
  | cons len rest =>
      have hobserved := observed_foldl hz (leadingMasks len.toNat rest) s
      by_cases hmasks : (leadingMasks len.toNat rest).length = len.toNat
      · have hshort : readExtendedPanId (rest.drop (5 * len.toNat)) = none := by
          rw [← Option.not_isSome_iff_eq_none, readExtendedPanId_isSome, List.length_drop]
          have hlen := length_leadingMasks len.toNat rest
          exact fun hlong => h ⟨len, rest, hdata, hmasks, by omega⟩
        simp only [startDelayed, masks, hdata, readChannels_eq, if_pos hmasks, hshort, true_and]
        exact hobserved
      · simp only [startDelayed, masks, hdata, readChannels_eq, if_neg hmasks, true_and]
        exact hobserved

theorem observed_response (status : UInt8) : (response z s status).1.observed z = s.observed z := by
  unfold response
  split <;> rfl

-- The answer of a request that is not rejected for being busy changes no more.
theorem observed_process (hfree : s.cmd = none) (cmd : Cmd) (buffer : List UInt8) :
    (process z s cmd buffer).1.observed z =
      (startDelayed z { s with cmd := some cmd } buffer).1.observed z := by
  simp only [process, hfree]
  split
  · exact observed_response _
  · rfl

theorem withMask_eq_iff (observed : Observed) (mask : UInt32) :
    observed.withMask z mask = observed ↔
      observed.channelsMask = mask ∧ observed.settings.channelMask = z.kept mask ∧
        observed.settings.bdbPrimaryChannelSet = z.kept mask ∧
        observed.settings.bdbSecondaryChannelSet = z.kept mask := by
  obtain ⟨channelsMask, ⟨channelMask, primary, secondary, extendedPanId⟩⟩ := observed
  simp only [Observed.withMask, Observed.mk.injEq, Settings.mk.injEq, and_true]
  constructor
  · rintro ⟨rfl, rfl, rfl, rfl⟩
    exact ⟨rfl, rfl, rfl, rfl⟩
  · rintro ⟨rfl, rfl, rfl, rfl⟩
    exact ⟨rfl, rfl, rfl, rfl⟩

-- A rejected request changes nothing exactly when no entry in front of the
-- bad one changes anything: there is none, or the last one has the mask that
-- is in use already.
theorem rejected_unchanged_iff (hz : z.Lawful) (s : State σ) (cmd : Cmd) (buffer : List UInt8)
    (hfree : s.cmd = none) :
    ((startDelayed z { s with cmd := some cmd } buffer).2 = GENERIC_INVALID_PARAMETER →
        (process z s cmd buffer).1.observed z = s.observed z) ↔
      Complete buffer ∨ ∀ mask, (masks buffer).getLast? = some mask →
        s.channelsMask = mask ∧ (z.settings s.zboss).channelMask = z.kept mask ∧
          (z.settings s.zboss).bdbPrimaryChannelSet = z.kept mask ∧
          (z.settings s.zboss).bdbSecondaryChannelSet = z.kept mask := by
  rw [observed_process hfree]
  by_cases hcomplete : Complete buffer
  · exact iff_of_true (fun h => absurd h (startDelayed_complete hcomplete)) (.inl hcomplete)
  · obtain ⟨hstatus, hobserved⟩ := startDelayed_incomplete (s := { s with cmd := some cmd }) hz
      hcomplete
    rw [hobserved, foldl_withMask]
    simp only [hstatus, true_imp_iff, hcomplete, false_or]
    cases (masks buffer).getLast? with
    | none => exact iff_of_true rfl fun mask hmask => nomatch hmask
    | some last =>
        simp only [Option.some.injEq, forall_eq']
        exact withMask_eq_iff _ last

-- A stack that keeps every mask as it is.
def plain : Zboss Settings where
  setChannelMask mask s := { s with channelMask := mask }
  setBdbPrimaryChannelSet mask s := { s with bdbPrimaryChannelSet := mask }
  setBdbSecondaryChannelSet mask s := { s with bdbSecondaryChannelSet := mask }
  setExtendedPanId extendedPanId s := { s with extendedPanId }
  bdbStartTopLevelCommissioning s := (true, s)
  settings := id
  network _ := ⟨0, 0x1a62, 15⟩
  kept := id

theorem lawful_plain : plain.Lawful :=
  { channelMask := fun _ _ => rfl, primary := fun _ _ => rfl, secondary := fun _ _ => rfl }

def allChannels : State Settings :=
  { channelsMask := 0x07fff800, initFlag := true, cmd := none,
    zboss := ⟨0x07fff800, 0x07fff800, 0x07fff800, [0, 0, 0, 0, 0, 0, 0, 0]⟩ }

-- The first entry has another page.
theorem rejected_unchanged_iff_page :
    (process plain allChannels ⟨0, .request, 0x0401, 7⟩ [1, 1, 0, 0x80, 0, 0]).1.observed plain =
      allChannels.observed plain :=
  (rejected_unchanged_iff lawful_plain allChannels ⟨0, .request, 0x0401, 7⟩ [1, 1, 0, 0x80, 0, 0]
    rfl).mpr (.inr fun _ hmask => nomatch hmask) (by decide)

-- The second entry has another page, and the mask of the first one stays.
theorem not_rejected_unchanged :
    ¬∀ (s : State Settings) cmd buffer, s.cmd = none →
      (startDelayed plain { s with cmd := some cmd } buffer).2 = GENERIC_INVALID_PARAMETER →
        (process plain s cmd buffer).1.observed plain = s.observed plain := by
  intro h
  exact absurd (h allChannels ⟨0, .request, 0x0401, 7⟩ [2, 0, 0, 0x80, 0, 0, 1, 0, 0x80, 0, 0] rfl
    (by decide)) (by decide)

end EspCoordinator.NwkFormation
