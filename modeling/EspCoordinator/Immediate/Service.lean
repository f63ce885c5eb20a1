import EspCoordinator.Session

-- The immediate handlers behind on_rx_data
namespace EspCoordinator.Immediate

open Restore (Layout)
open Backup (Neighbor MAX_DEVICES)
open Backup.Snapshot (partitionRead readChunk)

variable {L : Layout}

theorem length_partitionRead {bytes chunk : List UInt8} {offset size : Nat}
    {outcome : Backup.Snapshot.Reading}
    (h : partitionRead bytes offset size outcome = .ok chunk) : chunk.length ≤ size := by
  cases outcome with
  | done =>
      cases h
      exact (List.length_take_le _ _)
  | failed left => cases h

theorem length_readChunk {r : Backup.Snapshot.Request L} {offset len : Nat} {chunk : List UInt8}
    (h : readChunk r offset len = .ok chunk) : chunk.length ≤ len := by
  rw [readChunk] at h
  by_cases hnvs : offset < L.nvsSize
  · rw [if_pos hnvs] at h
    have hread : (if offset + len > L.nvsSize then L.nvsSize - offset else len) ≤ len := by
      split <;> omega
    generalize (if offset + len > L.nvsSize then L.nvsSize - offset else len) = readLen at h hread
    cases hfirst : partitionRead r.nvs.bytes offset readLen r.outcomes.chunkNvs with
    | error left => simp [hfirst] at h
    | ok first =>
        have hlen := length_partitionRead hfirst
        simp only [hfirst] at h
        by_cases hmore : readLen < len
        · rw [if_pos hmore] at h
          cases hsecond : partitionRead r.zb.bytes 0 (len - readLen) r.outcomes.chunkZb with
          | error left => simp [hsecond] at h
          | ok second =>
              have hrest := length_partitionRead hsecond
              simp only [hsecond, Except.ok.injEq] at h
              rw [← h, List.length_append]
              omega
        · rw [if_neg hmore] at h
          cases h
          omega
  · rw [if_neg hnvs] at h
    exact length_partitionRead h

theorem chunkLen_le_128 (offset : Nat) : Backup.Snapshot.chunkLen L offset ≤ 128 := by
  unfold Backup.Snapshot.chunkLen
  split_ifs <;> omega

theorem outlen_served {chunk : List UInt8} (h : chunk.length ≤ 128) :
    ((Backup.Snapshot.Answer.served chunk).reply L).outlen ≤ 138 := by
  simp only [Backup.Snapshot.Answer.reply]
  omega

theorem outlen_serve (s : Backup.Snapshot.State) (r : Backup.Snapshot.Request L) (offset : Nat)
    {len : Nat} (hlen : len ≤ 128) :
    ((Backup.Snapshot.serve s r offset len).2.reply L).outlen ≤ 138 := by
  unfold Backup.Snapshot.serve
  by_cases hpos : len > 0
  · rw [if_pos hpos]
    split
    · split
      · refine outlen_served ?_
        rw [List.length_take]
        omega
      · split
        · exact Nat.le_of_ble_eq_true rfl
        · rename_i hread
          exact outlen_served ((length_readChunk hread).trans hlen)
    · split
      · exact Nat.le_of_ble_eq_true rfl
      · rename_i hread
        exact outlen_served ((length_readChunk hread).trans hlen)
  · rw [if_neg hpos]
    exact outlen_served (Nat.zero_le _)

theorem outlen_getNetworkBackup (world : World L) (inbuffer : List UInt8) :
    (getNetworkBackup world inbuffer).reply.outlen ≤ 138 := by
  have hrefused : ((Backup.Snapshot.Answer.refused).reply L).outlen ≤ 138 :=
    Nat.le_of_ble_eq_true rfl
  simp only [getNetworkBackup, Backup.Snapshot.processImmediate]
  split_ifs
  · exact hrefused
  · exact hrefused
  · exact outlen_serve _ _ _ (chunkLen_le_128 _)
  · exact outlen_serve _ _ _ (chunkLen_le_128 _)

theorem pos_emit (tag : UInt8) (value : List UInt8) (c : Cursor UInt8) :
    (emit tag value c).pos = c.pos + 3 + value.length := by
  simp only [emit, Cursor.put, List.length_cons, List.length_nil, Bytes.length_toLE]

theorem pos_emitDevices (neighbors : List Neighbor) (devCount : Nat) (c : Cursor UInt8)
    (hcount : devCount ≤ MAX_DEVICES) :
    (emitDevices neighbors devCount c).2.pos ≤ c.pos + 16 * (MAX_DEVICES - devCount) := by
  induction neighbors generalizing devCount c with
  | nil => exact Nat.le_add_right _ _
  | cons nbr iter ih =>
      rw [emitDevices]
      split
      · rename_i hmore
        have hrest := ih (devCount + 1) (c.put (Backup.deviceRecord nbr)) hmore
        have hput : (c.put (Backup.deviceRecord nbr)).pos = c.pos + 16 := by
          rw [Cursor.put, Backup.length_deviceRecord]
        omega
      · exact Nat.le_add_right _ _

theorem pos_emitNetwork (stack : Stack) (c : Cursor UInt8) :
    (emitNetwork stack c).pos ≤ c.pos + 64 := by
  unfold emitNetwork
  cases stack.primaryNetworkKey with
  | none =>
      simp only [pos_emit, Bytes.length_toLE, Vector.length_toList, List.length_singleton]
      omega
  | some nwkKey =>
      simp only [pos_emit, Bytes.length_toLE, Vector.length_toList, List.length_singleton]
      omega

theorem outlen_structuredBackup (stack : Stack) : (structuredBackup stack).outlen ≤ 2034 := by
  have htlvs := pos_emitNetwork stack (emitHeader.skip 2)
  have hstart : (emitHeader.skip 2).pos = 10 := rfl
  have htable := pos_emitDevices stack.neighbors 0
    (((emitNetwork stack (emitHeader.skip 2)).put [Backup.TAG_DEVICE_TABLE]).skip 2) (Nat.zero_le _)
  have hopen : (((emitNetwork stack (emitHeader.skip 2)).put [Backup.TAG_DEVICE_TABLE]).skip 2).pos =
      (emitNetwork stack (emitHeader.skip 2)).pos + 3 := rfl
  have hmax : MAX_DEVICES = 64 := rfl
  change (emitDevices stack.neighbors 0 _).2.pos ≤ 2034
  omega

theorem outlen_statusRes (size : Nat) (processStatusRes : Stack → List (Memory.Store UInt8))
    (world : World L) (inbuffer : List UInt8) :
    (generalStatusRes size processStatusRes world inbuffer).reply.outlen = STATUS_SIZE + size := rfl

theorem outlen_statusArg (argSize : Nat)
    (processStatusArg : Stack → List UInt8 → Option UInt8 × List Call) (world : World L)
    (inbuffer : List UInt8) :
    (generalStatusArg argSize processStatusArg world inbuffer).reply.outlen = STATUS_SIZE := by
  unfold generalStatusArg
  split <;> rfl

theorem outlen_statusArgRes (argSize size : Nat) (processStatusArgRes : Stack → List UInt8 → Body)
    (world : World L) (inbuffer : List UInt8) :
    (generalStatusArgRes argSize size processStatusArgRes world inbuffer).reply.outlen =
      STATUS_SIZE + size := by
  unfold generalStatusArgRes
  split <;> rfl

-- Every immediate response fits a frame.
theorem outlen_le {id : CommandId} {handler : Handler L} (h : processImmediate id = some handler)
    (world : World L) (inbuffer : List UInt8) : (handler world inbuffer).reply.outlen ≤ 2034 := by
  cases id with
  | getZigbeeRole | getRxOnWhenIdle | getJoined | getCoordinatorVersion | getPanId
  | getShortAddress | getExtendedPanId | getModuleVersion | getZigbeeChannelMask
  | getZigbeeChannel | getNwkKeys =>
      cases h
      exact (outlen_statusRes _ _ world inbuffer).le.trans (by decide)
  | setZigbeeRole | setZigbeeChannelMask | setPanId | setLocalIeeeAddr | setRxOnWhenIdle
  | setNwkKey | setTcPolicy | setExtendedPanId | setMaxChildren | nwkPermitJoining
  | zdoSetNodeDescManufCode =>
      cases h
      exact (outlen_statusArg _ _ world inbuffer).le.trans (by decide)
  | getLocalIeeeAddr | setTxPower =>
      cases h
      exact (outlen_statusArgRes _ _ _ world inbuffer).le.trans (by decide)
  | afSetSimpleDesc =>
      cases h
      unfold afSetSimpleDesc
      split <;> exact Nat.le_of_ble_eq_true rfl
  | zdoMgmtLeaveReq =>
      cases h
      unfold zdoMgmtLeaveReq
      split
      · exact Nat.le_of_ble_eq_true rfl
      · dsimp only
        split <;> exact Nat.le_of_ble_eq_true rfl
  | getNetworkBackup =>
      cases h
      exact (outlen_getNetworkBackup world inbuffer).trans (by decide)
  | getStructuredBackup =>
      cases h
      exact outlen_structuredBackup world.stack
  | restoreNetwork | restoreStructuredBackup | getTxPower | getAuthenticated | zdoDevAnnceInd
  | zdoDevAuthorizedInd | zdoDevUpdateInd | apsdeDataInd | nwkDiscovery | nwkGetIeeeByShort
  | nwkGetShortByIeee | nwkGetNeighborByIeee | nwkRejoinedInd | nwkRejoinFailedInd | nwkLeaveInd =>
      cases h
      exact Nat.le_of_ble_eq_true rfl
  | ncpReset | zdoNwkAddrReq | zdoIeeeAddrReq | zdoPowerDescReq | zdoNodeDescReq
  | zdoSimpleDescReq | zdoActiveEpReq | zdoMatchDescReq | zdoBindReq | zdoUnbindReq
  | zdoPermitJoiningReq | zdoMgmtBindReq | zdoMgmtLqiReq | zdoMgmtNwkUpdateReq | apsdeDataReq
  | nwkFormation | nwkStartWithoutFormation => cases h

-- The immediate handlers as they stand behind on_rx_data. What a handler makes
-- of the world is up to `evolve`, and `later` are the other handlers.
def service (evolve : CommandId → World L → List UInt8 → World L) (outdata : Memory UInt8)
    (later : ZbNcp.Handlers (World L)) : ZbNcp.Service (World L) where
  handlers id world cmd buf :=
    match processImmediate id with
    | some handler =>
        (evolve id world buf, [((handler world buf).reply.respond cmd).frame outdata])
    | none => later id world cmd buf
  atOnce id := (processImmediate (L := L) id).isSome
  processImmediate id world buf :=
    match processImmediate id with
    | some handler =>
        (evolve id world buf, (handler world buf).reply.frame (outdata.above CMD_SIZE))
    | none => (world, [])
  process_eq id world cmd buf honce := by
    obtain ⟨handler, hhandler⟩ := Option.isSome_iff_exists.mp honce
    simp only [hhandler, Reply.frame_respond]
  fits id world buf honce := by
    obtain ⟨handler, hhandler⟩ := Option.isSome_iff_exists.mp honce
    simp only [hhandler, Reply.frame, Memory.length_read]
    exact outlen_le hhandler world buf

end EspCoordinator.Immediate
