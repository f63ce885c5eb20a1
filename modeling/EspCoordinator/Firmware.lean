import EspCoordinator.Device
import EspCoordinator.Immediate.Service
import EspCoordinator.Immediate.Theorems
import EspCoordinator.RequestProcess.AddrResponse
import EspCoordinator.RequestProcess.ListResponse
import EspCoordinator.RequestProcess.Outgoing

-- The device with the commands that the firmware has
namespace EspCoordinator.Firmware

open Bytes RequestProcess
open Device (Zdo ZdoCommand)
open Packed (Block)
open Requests (STATUS_CATEGORY_ZDO)
open RequestProcess.ListResponse (baseFormatResponse replyOf)
open RequestProcess.Outgoing (Member Sizes grammar)
open Restore (Layout)

-- The structures of ZBOSS hold what the host sends.
def sizes : Sizes where
  nwkAddrReq := 12
  ieeeAddrReq := 6
  powerDescReq := 2
  nodeDescReq := 2
  mgmtNwkUpdateReq := 10

-- zb_zdo_bind_resp_t
structure BindResp where
  tsn : UInt8
  status : UInt8
deriving DecidableEq, Repr

-- request_cmd_process::format_response
def BindResp.format (resp : BindResp) : Reply :=
  replyOf (baseFormatResponse [resp.tsn, resp.status])

-- zb_zdo_node_desc_resp_t and zb_zdo_power_desc_resp_t
structure DescResp (size : Nat) where
  tsn : UInt8
  status : UInt8
  nwkAddr : UInt16
  desc : Block size

-- cmd_handle<ZDO_NODE_DESC_REQ>::format_response, and that of
-- ZDO_POWER_DESC_REQ
def DescResp.format {size : Nat} (resp : DescResp size) : Reply :=
  let out := (Cursor.start.put [STATUS_CATEGORY_ZDO]).put [resp.status]
  replyOf ((out.put resp.desc.val).put (toLE 2 resp.nwkAddr.toNat))

-- sizeof(zb_af_node_desc_t)
def NODE_DESC_SIZE : Nat := 13

-- sizeof(zb_af_node_power_desc_t)
def POWER_DESC_SIZE : Nat := 2

-- What req_cb is handed, with what stands behind it
def Resp : Zdo → Type
  | .nwkAddrReq => AddrResponse.Resp × AddrResponse.Ext
  | .ieeeAddrReq => AddrResponse.Resp × AddrResponse.Ext
  | .powerDescReq => DescResp POWER_DESC_SIZE
  | .nodeDescReq => DescResp NODE_DESC_SIZE
  | .simpleDescReq => SimpleDesc.Resp
  | .activeEpReq => ListResponse.EpResp
  | .matchDescReq => ListResponse.EpResp
  | .bindReq => BindResp
  | .unbindReq => BindResp
  | .permitJoiningReq => PermitJoiningResp
  | .mgmtBindReq => ListResponse.BindResp
  | .mgmtLqiReq => ListResponse.LqiResp
  | .mgmtNwkUpdateReq => ListResponse.NwkUpdateResp

-- A member with a handle_response of its own. `outdata` is what that finds in
-- its buffer on the stack.
def responding (outdata : Memory UInt8) (m : Member) {Resp : Type}
    (getStatus getTsn : Resp → UInt8) (handleResponse : Cmd → m.Arg → Resp → Reply) :
    Command m.Arg Resp where
  checkArgSize := m.checkArgSize
  arg := m.cast
  getStatus
  getTsn
  responseBodyIsSynthetic _ _ := none
  handleResponse req resp := ((handleResponse req.cmd req.arg resp).frame outdata).drop CMD_SIZE
  isSimpleDesc := false

-- One that has format_response only
def formatting (outdata : Memory UInt8) (m : Member) {Resp : Type}
    (getStatus getTsn : Resp → UInt8) (formatResponse : Resp → Reply) : Command m.Arg Resp :=
  responding outdata m getStatus getTsn fun cmd _ resp =>
    ListResponse.handleResponse cmd (formatResponse resp)

-- request_type is the last byte but one of both address requests.
def cmdHandle (outdata : Memory UInt8) : (id : Zdo) → Command (grammar sizes id).Arg (Resp id)
  | .nwkAddrReq =>
      responding outdata _ (fun resp => resp.1.status) (fun resp => resp.1.tsn)
        fun cmd arg (resp, ext) =>
          AddrResponse.handleResponse .nwk cmd (arg.val.getD 10 0) resp ext
  | .ieeeAddrReq =>
      responding outdata _ (fun resp => resp.1.status) (fun resp => resp.1.tsn)
        fun cmd arg (resp, ext) =>
          AddrResponse.handleResponse .ieee cmd (arg.val.getD 4 0) resp ext
  | .powerDescReq => formatting outdata _ DescResp.status DescResp.tsn DescResp.format
  | .nodeDescReq => formatting outdata _ DescResp.status DescResp.tsn DescResp.format
  | .simpleDescReq => SimpleDesc.simpleDesc
  | .activeEpReq =>
      formatting outdata _ ListResponse.EpResp.status ListResponse.EpResp.tsn ListResponse.activeEp
  | .matchDescReq =>
      formatting outdata _ ListResponse.EpResp.status ListResponse.EpResp.tsn ListResponse.matchDesc
  | .bindReq => formatting outdata _ BindResp.status BindResp.tsn BindResp.format
  | .unbindReq => formatting outdata _ BindResp.status BindResp.tsn BindResp.format
  | .permitJoiningReq => permitJoining
  | .mgmtBindReq =>
      formatting outdata _ ListResponse.BindResp.status ListResponse.BindResp.tsn
        ListResponse.mgmtBind
  | .mgmtLqiReq =>
      formatting outdata _ ListResponse.LqiResp.status ListResponse.LqiResp.tsn ListResponse.mgmtLqi
  | .mgmtNwkUpdateReq =>
      formatting outdata _ ListResponse.NwkUpdateResp.status ListResponse.NwkUpdateResp.tsn
        ListResponse.mgmtNwkUpdate

-- `behind` is what lies in memory behind a frame.
def zdoCommand (outdata : Memory UInt8) (behind : List UInt8 → List UInt8) (id : Zdo) :
    ZdoCommand where
  Arg := (grammar sizes id).Arg
  Resp := Resp id
  zero := (grammar sizes id).cast []
  command := (grammar sizes id).toMember.command behind (cmdHandle outdata id)

section Device

variable {L : Layout} (outdata : Memory UInt8) (behind : List UInt8 → List UInt8)
  (evolve : CommandId → Immediate.World L → List UInt8 → Immediate.World L) (hz : Nat)

-- Its stack keeps every setting as it is.
def device : Device.Firmware where
  World := Immediate.World L
  service := Immediate.service evolve outdata fun _ world _ _ => (world, [])
  zdo := zdoCommand outdata behind
  hz
  Zboss := NwkFormation.Settings
  stack := Commissioning.Stack.plain

-- A command takes what the host writes, whatever comes behind it.
theorem checkArgSize_device (id : Zdo) (buffer : List UInt8) :
    ((device outdata behind evolve hz).zdo id).command.checkArgSize buffer = true ↔
      ∃ host extra, buffer = (grammar sizes id).wire host ++ extra :=
  (grammar sizes id).check_iff buffer

-- ZBOSS is asked for what the host means.
theorem formatRequest_device (id : Zdo) (host : (grammar sizes id).Host) (extra : List UInt8) :
    (grammar sizes id).formatRequest (((device outdata behind evolve hz).zdo id).command.arg
      ((grammar sizes id).wire host ++ extra)) = (grammar sizes id).meant host := by
  have hformat := (grammar sizes id).format_eq host
    (extra ++ behind ((grammar sizes id).wire host ++ extra))
  rw [← List.append_assoc] at hformat
  exact hformat

-- The broadcast of a request to join: ZBOSS hands the duration back as its
-- status.
example : (Device.run (device (Memory.fill 0) (fun _ => []) (fun _ world _ => world) 1000)
    Immediate.blankWorld NwkFormation.allChannels.zboss false false
    [.onRxData [0, 0, 0x0B, 0x02, 7, 0xFC, 0xFF, 0xFE, 0] true,
      .task ⟨.zdo .permitJoiningReq, Label.handOver true⟩,
      .task ⟨.zdo .permitJoiningReq, Label.doRequest 0 3⟩,
      .task ⟨.zdo .permitJoiningReq, Label.publish 0⟩,
      .task ⟨.zdo .permitJoiningReq, Label.reqCb (PermitJoiningResp.mk 3 0xFE)⟩]).sent =
    [[0, 1, 0x0B, 0x02, 7, STATUS_CATEGORY_ZDO, 0x00]] := by decide +kernel

end Device

end EspCoordinator.Firmware
