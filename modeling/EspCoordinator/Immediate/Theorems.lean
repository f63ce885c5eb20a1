import EspCoordinator.Backup.Snapshot.Theorems
import EspCoordinator.Immediate
import EspCoordinator.Restore.Upload

namespace EspCoordinator.Immediate

open Bytes
open Memory (Store Covered)
open Restore (Layout)

variable {L : Layout}

theorem front_within (body : Body) :
    ∀ store ∈ [{ offset := 0, bytes := [STATUS_CATEGORY_GENERIC] },
        { offset := 1, bytes := [GENERIC_OK] }] ++
        (body.status.toList.map fun status => { offset := 1, bytes := [status] : Store UInt8 }),
      store.offset + store.bytes.length ≤ STATUS_SIZE := by
  cases body.status with
  | none => simp [STATUS_SIZE]
  | some status => simp [STATUS_SIZE]

-- A FullRes is determined just when its `res` has been written in full.
theorem determined_fullRes (body : Body) (size : Nat) :
    (body.fullRes size).reply.Determined ↔ ∀ index < size, Covered body.res index := by
  constructor
  · intro hdetermined index hindex
    have hcovered := hdetermined (STATUS_SIZE + index) (Nat.add_lt_add_left hindex STATUS_SIZE)
    rw [Body.fullRes, Memory.covered_append, Memory.covered_shift] at hcovered
    refine hcovered.resolve_left (Memory.not_covered_of_within fun store hmem => ?_)
    exact (front_within body store hmem).trans (Nat.le_add_right _ _)
  · intro hres index hindex
    rw [Body.fullRes, Memory.covered_append, Memory.covered_append]
    by_cases hfront : index < STATUS_SIZE
    · refine .inl (.inl ?_)
      simp only [STATUS_SIZE] at hfront
      simp [Covered, Store.Covers]
      omega
    · obtain ⟨inner, rfl⟩ := Nat.exists_eq_add_of_le (Nat.le_of_not_lt hfront)
      exact .inr ((Memory.covered_shift _ _).mpr (hres inner (Nat.add_lt_add_iff_left.mp hindex)))

-- The handler writes all that it says it has, whatever the request.
def Complete (handler : Handler L) : Prop :=
  ∀ world inbuffer, (handler world inbuffer).reply.Determined

theorem complete_statusRes {size : Nat} {processStatusRes : Stack → List (Store UInt8)}
    (h : ∀ stack, ∀ index < size, Covered (processStatusRes stack) index) :
    Complete (generalStatusRes size processStatusRes : Handler L) :=
  fun world _ => (determined_fullRes _ size).mpr (h world.stack)

theorem determined_fullRes_zero (body : Body) : (body.fullRes 0).reply.Determined :=
  (determined_fullRes body 0).mpr fun index hindex => absurd hindex (Nat.not_lt_zero index)

theorem complete_statusArg (argSize : Nat)
    (processStatusArg : Stack → List UInt8 → Option UInt8 × List Call) :
    Complete (generalStatusArg argSize processStatusArg : Handler L) := by
  intro world inbuffer
  unfold generalStatusArg
  split
  · exact determined_fullRes_zero _
  · exact determined_fullRes_zero _

theorem determined_respondStatus (category status : UInt8) :
    (respondStatus category status).Determined := by
  intro index hindex
  simp only [respondStatus, STATUS_SIZE] at hindex
  simp [respondStatus, Covered, Store.Covers]
  omega

-- It is a general_status_arg in all but name.
theorem complete_afSetSimpleDesc : Complete (afSetSimpleDesc : Handler L) :=
  complete_statusArg SIMPLE_DESC_HDR_SIZE fun _ _ => (none, [])

theorem complete_zdoMgmtLeaveReq : Complete (zdoMgmtLeaveReq : Handler L) := by
  intro world inbuffer
  unfold zdoMgmtLeaveReq
  dsimp only
  split_ifs
  · exact determined_respondStatus _ _
  · exact determined_respondStatus _ _
  · exact determined_respondStatus _ _

-- What the host gets of a network backup is said by the answer.
theorem determined_answer (answer : Backup.Snapshot.Answer) : (answer.reply L).Determined := by
  rw [Reply.determined_iff]
  intro outdata other
  cases answer with
  | refused => rw [Backup.Snapshot.frame_refused, Backup.Snapshot.frame_refused]
  | unread left => rw [Backup.Snapshot.frame_unread, Backup.Snapshot.frame_unread]
  | served chunk => rw [Backup.Snapshot.frame_served, Backup.Snapshot.frame_served]

-- The requests that are answered with bytes of the buffer: no argument where
-- there is something to return, and an address that is refused or not known.
def Leaks (world : World L) (id : CommandId) (inbuffer : List UInt8) : Prop :=
  match id with
  | .getLocalIeeeAddr =>
      inbuffer = [] ∨ byte inbuffer 0 ≠ 0 ∨
        world.stack.longAddress.toList.any (· ≠ 0) = false ∧ world.stack.mac = none
  | .setTxPower => inbuffer = []
  | _ => False

section Argument

variable {argSize size : Nat} {processStatusArgRes : Stack → List UInt8 → Body} {world : World L}
  {inbuffer : List UInt8}

theorem not_determined_short (hsize : 0 < size) (hshort : inbuffer.length < argSize) :
    ¬(generalStatusArgRes argSize size processStatusArgRes world inbuffer).reply.Determined := by
  rw [generalStatusArgRes, if_pos hshort, determined_fullRes]
  intro hres
  simpa [Body.short, Covered] using hres 0 hsize

theorem determined_statusArgRes (hlen : argSize ≤ inbuffer.length) :
    (generalStatusArgRes argSize size processStatusArgRes world inbuffer).reply.Determined ↔
      ∀ index < size, Covered (processStatusArgRes world.stack inbuffer).res index := by
  rw [generalStatusArgRes, if_neg (Nat.not_lt.mpr hlen), determined_fullRes]

end Argument

theorem determined_setTxPower (world : World L) (inbuffer : List UInt8) :
    (setTxPower world inbuffer).reply.Determined ↔ ¬Leaks world .setTxPower inbuffer := by
  cases inbuffer with
  | nil => exact iff_of_false (not_determined_short (by decide) (by decide)) fun h => h rfl
  | cons power rest =>
      refine iff_of_true ((determined_statusArgRes (by simp)).mpr ?_) (List.cons_ne_nil _ _)
      intro index hindex
      exact (Memory.covered_single [byte (power :: rest) 0]).mpr
        ⟨Nat.zero_le index, by simpa using hindex⟩

-- The whole of `res`, as it is written when there is an address.
theorem covered_addr (mac : UInt8) (ieee : List UInt8) (hlen : ieee.length = 8) :
    ∀ index < 9, Covered [{ offset := 0, bytes := [mac] }, { offset := 1, bytes := ieee }] index := by
  intro index hindex
  have hparts := (Memory.covered_consecutive [[mac], ieee] 0).mpr
    ⟨Nat.zero_le index, by simpa [hlen] using hindex⟩
  exact hparts

theorem determined_getLocalIeeeAddr (world : World L) (inbuffer : List UInt8) :
    (getLocalIeeeAddr world inbuffer).reply.Determined ↔
      ¬Leaks world .getLocalIeeeAddr inbuffer := by
  cases inbuffer with
  | nil => exact iff_of_false (not_determined_short (by decide) (by decide)) fun h => h (.inl rfl)
  | cons mac rest =>
      rw [getLocalIeeeAddr, determined_statusArgRes (by simp), Leaks]
      by_cases hmac : byte (mac :: rest) 0 ≠ 0
      · rw [if_pos hmac]
        exact iff_of_false (fun hres => by simpa [Covered] using hres 0 (by decide))
          fun h => h (.inr (.inl hmac))
      · rw [if_neg hmac]
        cases haddr : world.stack.longAddress.toList.any (· ≠ 0) with
        | true =>
            rw [if_pos rfl]
            exact iff_of_true (covered_addr _ _ (by simp)) (by simp [hmac])
        | false =>
            rw [if_neg (by decide)]
            cases hread : world.stack.mac with
            | none =>
                refine iff_of_false (fun hres => ?_) fun h => h (.inr (.inr ⟨rfl, rfl⟩))
                simpa [Covered, Store.Covers] using hres 1 (by decide)
            | some eui => exact iff_of_true (covered_addr _ _ (by simp)) (by simp [hmac])

-- Every other handler writes its response in full.
theorem complete_of_ne {id : CommandId} {handler : Handler L}
    (h : processImmediate id = some handler) (haddr : id ≠ .getLocalIeeeAddr)
    (hpower : id ≠ .setTxPower) : Complete handler := by
  cases id with
  | getLocalIeeeAddr => exact absurd rfl haddr
  | setTxPower => exact absurd rfl hpower
  | getZigbeeRole | getRxOnWhenIdle | getJoined | getCoordinatorVersion | getPanId
  | getShortAddress | getExtendedPanId =>
      cases h
      refine complete_statusRes fun stack index hindex => ?_
      rw [Memory.covered_single]
      simpa using hindex
  | getModuleVersion | getZigbeeChannelMask | getZigbeeChannel =>
      cases h
      refine complete_statusRes fun stack index hindex => ?_
      rw [Memory.covered_consecutive]
      simpa using hindex
  | getNwkKeys =>
      cases h
      refine complete_statusRes fun stack index hindex => ?_
      exact ⟨_, List.mem_cons_self, Nat.zero_le index, by simpa using hindex⟩
  | setZigbeeRole | setZigbeeChannelMask | setPanId | setLocalIeeeAddr | setRxOnWhenIdle
  | setNwkKey | setTcPolicy | setExtendedPanId | setMaxChildren | nwkPermitJoining
  | zdoSetNodeDescManufCode =>
      cases h
      exact complete_statusArg _ _
  | afSetSimpleDesc =>
      cases h
      exact complete_afSetSimpleDesc
  | zdoMgmtLeaveReq =>
      cases h
      exact complete_zdoMgmtLeaveReq
  | getNetworkBackup =>
      cases h
      exact fun _ _ => determined_answer _
  | getStructuredBackup =>
      cases h
      exact fun world _ => determined_structuredBackup world.stack
  | restoreNetwork | restoreStructuredBackup | getTxPower | getAuthenticated | zdoDevAnnceInd
  | zdoDevAuthorizedInd | zdoDevUpdateInd | apsdeDataInd | nwkDiscovery | nwkGetIeeeByShort
  | nwkGetShortByIeee | nwkGetNeighborByIeee | nwkRejoinedInd | nwkRejoinFailedInd | nwkLeaveInd =>
      cases h
      exact fun _ _ => determined_respondStatus _ _
  | ncpReset | zdoNwkAddrReq | zdoIeeeAddrReq | zdoPowerDescReq | zdoNodeDescReq
  | zdoSimpleDescReq | zdoActiveEpReq | zdoMatchDescReq | zdoBindReq | zdoUnbindReq
  | zdoPermitJoiningReq | zdoMgmtBindReq | zdoMgmtLqiReq | zdoMgmtNwkUpdateReq | apsdeDataReq
  | nwkFormation | nwkStartWithoutFormation => cases h

theorem not_leaks {world : World L} {id : CommandId} {inbuffer : List UInt8}
    (haddr : id ≠ .getLocalIeeeAddr) (hpower : id ≠ .setTxPower) : ¬Leaks world id inbuffer := by
  unfold Leaks
  split
  · exact absurd rfl haddr
  · exact absurd rfl hpower
  · exact not_false

theorem process_eq_some {world : World L} {cmd : Cmd} {inbuffer : List UInt8} {id : CommandId}
    {handled : Handled} (hid : CommandId.find cmd.commandId = some id)
    (h : process world cmd inbuffer = some handled) :
    ∃ handler : Handler L, processImmediate id = some handler ∧
      handled.reply = (handler world inbuffer).reply.respond cmd := by
  rw [process, hid, Option.bind_some, Option.map_eq_some_iff] at h
  obtain ⟨handler, himmediate, rfl⟩ := h
  exact ⟨handler, himmediate, rfl⟩

-- The response is the same whatever the buffer held before, unless the request
-- is one of those that leak.
theorem frame_independent_iff (world : World L) (cmd : Cmd) (inbuffer : List UInt8)
    (id : CommandId) (handled : Handled) (hid : CommandId.find cmd.commandId = some id)
    (hprocess : process world cmd inbuffer = some handled) :
    (∀ outdata other : Memory UInt8,
      handled.reply.frame outdata = handled.reply.frame other) ↔ ¬Leaks world id inbuffer := by
  obtain ⟨handler, himmediate, hreply⟩ := process_eq_some hid hprocess
  rw [hreply, Reply.frame_eq_iff]
  by_cases haddr : id = .getLocalIeeeAddr
  · subst haddr
    cases himmediate
    exact determined_getLocalIeeeAddr world inbuffer
  · by_cases hpower : id = .setTxPower
    · subst hpower
      cases himmediate
      exact determined_setTxPower world inbuffer
    · exact iff_of_true (complete_of_ne himmediate haddr hpower world inbuffer)
        (not_leaks haddr hpower)

-- A coordinator before it has a network.
def blankStack : Stack :=
  { version := 0x03090300
    protocolVersion := 0x0100
    networkRole := 0
    channelMask := 0x07FFF800
    currentChannel := 0
    panId := 0xFFFF
    joined := false
    joinedByte := 0
    longAddress := .replicate 8 0
    mac := some (.replicate 8 0x40)
    extendedPanId := .replicate 8 0
    rxOnWhenIdle := 1
    coordinatorVersion := 22
    shortAddress := 0xFFFF
    updateId := 0
    primaryNetworkKey := none
    frameCounter := 0
    neighbors := []
    setTxPower := fun power => power ≤ 20
    bufGetOut := true }

def blankWorld : World Restore.smallLayout :=
  { stack := blankStack
    snapshot := none
    reads :=
      { malloc := true, snapshotNvs := .done, snapshotZb := .done, chunkNvs := .done,
        chunkZb := .done }
    restore := Restore.smallBoot
    restoreOutcomes := Restore.allDone true
    structured := { tlv := none, zb := none, reboots := 0 }
    structuredOutcomes := .done }

def requestOf (id : CommandId) : Cmd :=
  { version := 0, type := .request, commandId := id.value, tsn := 7 }

theorem frame_independent_iff_txPower :
    (∀ outdata other : Memory UInt8,
      ((setTxPower blankWorld [20]).reply.respond (requestOf .setTxPower)).frame outdata =
        ((setTxPower blankWorld [20]).reply.respond (requestOf .setTxPower)).frame other) ↔
      ¬Leaks blankWorld .setTxPower [20] :=
  frame_independent_iff blankWorld (requestOf .setTxPower) [20] .setTxPower _ rfl rfl

-- GET_LOCAL_IEEE_ADDR without its argument: eleven bytes behind the header are
-- sent, and two of them have been written.
theorem not_frame_independent :
    ¬∀ (L : Layout) (world : World L) (cmd : Cmd) (inbuffer : List UInt8) (handled : Handled),
      process world cmd inbuffer = some handled →
      ∀ outdata other : Memory UInt8, handled.reply.frame outdata = handled.reply.frame other := by
  intro hall
  have hsame := hall _ blankWorld (requestOf .getLocalIeeeAddr) [] _ rfl
  have hdetermined := (Reply.frame_eq_iff _ _).mp hsame
  exact (determined_getLocalIeeeAddr blankWorld []).mp hdetermined (.inl rfl)

end EspCoordinator.Immediate
