import EspCoordinator.Reply
import EspCoordinator.Requests

namespace EspCoordinator.RequestProcess.AddrResponse

open Requests Bytes
open Memory (Store)

-- zb_zdo_ieee_addr_resp_t and zb_zdo_nwk_addr_resp_head_t
structure Resp where
  tsn : UInt8
  status : UInt8
  ieeeAddr : UInt64
  nwkAddr : UInt16
deriving DecidableEq, Repr

def Resp.fields (resp : Resp) : List UInt8 :=
  resp.status :: toLE 8 resp.ieeeAddr.toNat ++ toLE 2 resp.nwkAddr.toNat

-- What follows in the response to a request of type 1: the number of
-- associated devices, and the rest if there are any.
structure Ext where
  startIndex : UInt8
  nwks : List UInt16
  fits : nwks.length < 256

-- sizeof(Resp)
def RESP_SIZE : Nat := 12
def ADDITIONAL_BUFFER_SIZE : Nat := 2 + 16 * 2
def OUTDATA_SIZE : Nat := RESP_SIZE + ADDITIONAL_BUFFER_SIZE + CMD_SIZE

-- request_cmd_process::format_response
def formatResponse (resp : Resp) : List (Store UInt8) :=
  [{ offset := CMD_SIZE, bytes := resp.tsn :: resp.fields },
    { offset := CMD_SIZE, bytes := [STATUS_CATEGORY_ZDO] }]

def copyNwks (dst : Nat) : List UInt16 → List (Store UInt8)
  | [] => []
  | addr :: rest => { offset := dst, bytes := toLE 2 addr.toNat } :: copyNwks (dst + 2) rest

-- What is written from `dst` on, and by how much outlen grows.
def appendExt (dst : Nat) (ext : Ext) : List (Store UInt8) × Nat :=
  let num := min ext.nwks.length 16
  let count : Store UInt8 := { offset := dst, bytes := [UInt8.ofNat num] }
  if num = 0 then ([count], 1)
  else
    ([count, { offset := dst + 1, bytes := [ext.startIndex] }] ++
      copyNwks (dst + 2) (ext.nwks.take num), 2 + 2 * num)

inductive AddrReq where
  | ieee
  | nwk
deriving DecidableEq, Repr

-- `dst` counts from behind cmd_t, and so does not `outlen`.
def respond (cmd : Cmd) (requestType : UInt8) (resp : Resp) (ext : Ext) : Reply :=
  let stores := Reply.header cmd ++ formatResponse resp
  let outlen := CMD_SIZE + RESP_SIZE
  if requestType = 0x01 then
    let (more, length) := appendExt (CMD_SIZE + outlen) ext
    { stores := stores ++ more, outlen := outlen + length }
  else { stores, outlen }

-- cmd_handle<ZDO_IEEE_ADDR_REQ>::handle_response and its twin
def handleResponse : AddrReq → Cmd → UInt8 → Resp → Ext → Reply
  | .ieee => respond
  | .nwk => respond

-- The grammar of the response.
def Ext.documented (ext : Ext) : List UInt8 :=
  let num := min ext.nwks.length 16
  UInt8.ofNat num :: if num = 0 then [] else ext.startIndex :: words (ext.nwks.take num)

def documented (cmd : Cmd) (resp : Resp) (ext : Ext) : List UInt8 :=
  cmd.reply.bytes ++ STATUS_CATEGORY_ZDO :: resp.fields ++ ext.documented

-- The frame that a request of type 1 is answered with, for one content that
-- the buffer may have had before.
structure LaidOut (req : AddrReq) (cmd : Cmd) (resp : Resp) (ext : Ext)
    (outdata : Memory UInt8) : Prop where
  frame : (handleResponse req cmd 0x01 resp ext).frame outdata = documented cmd resp ext
  within : (handleResponse req cmd 0x01 resp ext).Within OUTDATA_SIZE

theorem copyNwks_eq (dst : Nat) (nwks : List UInt16) :
    copyNwks dst nwks = Memory.consecutive dst (nwks.map fun addr => toLE 2 addr.toNat) := by
  induction nwks generalizing dst with
  | nil => rfl
  | cons addr rest ih => rw [copyNwks, ih, List.map_cons, Memory.consecutive, length_toLE]

def Ext.parts (ext : Ext) : List (List UInt8) :=
  let num := min ext.nwks.length 16
  [UInt8.ofNat num] :: if num = 0 then [] else
    [ext.startIndex] :: (ext.nwks.take num).map fun addr => toLE 2 addr.toNat

theorem Ext.flatten_parts (ext : Ext) : ext.parts.flatten = ext.documented := by
  simp only [parts, documented, words, List.flatMap_def]
  split <;> rfl

-- The documented bytes are written, all of them, but from `dst` on.
theorem appendExt_eq (dst : Nat) (ext : Ext) :
    appendExt dst ext = (Memory.consecutive dst ext.parts, ext.documented.length) := by
  simp only [appendExt, Ext.parts, Ext.documented]
  by_cases hnone : min ext.nwks.length 16 = 0
  · simp only [if_pos hnone]
    rfl
  · simp only [if_neg hnone, copyNwks_eq, List.length_cons, length_words, List.length_take]
    refine Prod.ext rfl ?_
    dsimp only
    omega

theorem stores_handleResponse (req : AddrReq) (cmd : Cmd) (resp : Resp) (ext : Ext) :
    (handleResponse req cmd 0x01 resp ext).stores =
      Reply.header cmd ++ formatResponse resp ++ Memory.consecutive 22 ext.parts := by
  cases req <;>
    simp only [handleResponse, respond, if_true, CMD_SIZE, RESP_SIZE, Nat.reduceAdd, appendExt_eq]

theorem outlen_handleResponse (req : AddrReq) (cmd : Cmd) (resp : Resp) (ext : Ext) :
    (handleResponse req cmd 0x01 resp ext).outlen = 17 + ext.documented.length := by
  cases req <;>
    simp only [handleResponse, respond, if_true, CMD_SIZE, RESP_SIZE, Nat.reduceAdd, appendExt_eq]

-- The documented length, which does not tell the frames apart.
theorem Ext.length_documented (ext : Ext) :
    ext.documented.length =
      if ext.nwks.length = 0 then 1 else 2 + 2 * min ext.nwks.length 16 := by
  simp only [documented]
  split_ifs <;> simp only [List.length_cons, List.length_nil, length_words, List.length_take] <;>
    omega

theorem Ext.documented_ne_nil (ext : Ext) : ext.documented ≠ [] := List.cons_ne_nil _ _

theorem base_eq (cmd : Cmd) (resp : Resp) (outdata : Memory UInt8) :
    outdata.storeAll (Reply.header cmd ++ formatResponse resp) =
      outdata.write 0 (cmd.reply.bytes ++ STATUS_CATEGORY_ZDO :: resp.fields) := by
  rw [Memory.storeAll_append, Reply.storeAll_header, ← Memory.write_write]
  exact Memory.write_head _ CMD_SIZE resp.tsn STATUS_CATEGORY_ZDO resp.fields

-- What is sent: there are five bytes between the two parts, and the last five
-- bytes of the second part do not go out.
theorem frame_handleResponse (req : AddrReq) (cmd : Cmd) (resp : Resp) (ext : Ext)
    (outdata : Memory UInt8) :
    (handleResponse req cmd 0x01 resp ext).frame outdata =
      cmd.reply.bytes ++ STATUS_CATEGORY_ZDO :: resp.fields ++
        (outdata.read 17 5 ++ ext.documented).take ext.documented.length := by
  let base := cmd.reply.bytes ++ STATUS_CATEGORY_ZDO :: resp.fields
  have hbase : base.length = 17 := rfl
  have hafter : outdata.storeAll (handleResponse req cmd 0x01 resp ext).stores =
      (outdata.write 0 base).write 22 ext.documented := by
    rw [stores_handleResponse, Memory.storeAll_append, base_eq, Memory.storeAll_consecutive,
      Ext.flatten_parts]
  have hfront : ((outdata.write 0 base).write 22 ext.documented).read 0 17 = base := by
    rw [Memory.read_write_outside (.inl (show 0 + 17 ≤ 22 by decide)), ← hbase, Memory.read_write]
  have hrest : ((outdata.write 0 base).write 22 ext.documented).read 17
      (5 + ext.documented.length) = outdata.read 17 5 ++ ext.documented := by
    rw [Memory.read_add, Memory.read_write_outside (.inl (show 17 + 5 ≤ 22 by decide)),
      Memory.read_write_outside (.inr (by rw [hbase]))]
    exact congrArg _ (Memory.read_write _ _ _)
  rw [Reply.frame, hafter, outlen_handleResponse, Memory.read_add, hfront, Nat.zero_add, ← hrest,
    Memory.take_read _ _ (Nat.le_add_left _ _)]

theorem within_handleResponse (req : AddrReq) (cmd : Cmd) (resp : Resp) (ext : Ext) :
    (handleResponse req cmd 0x01 resp ext).Within OUTDATA_SIZE ↔ ext.nwks.length ≤ 13 := by
  have hbase : ∀ store ∈ Reply.header cmd ++ formatResponse resp,
      store.offset + store.bytes.length ≤ OUTDATA_SIZE := by
    simp [Reply.header, formatResponse, Resp.fields, OUTDATA_SIZE, CMD_SIZE, RESP_SIZE,
      ADDITIONAL_BUFFER_SIZE]
  have hext := Memory.consecutive_within ext.parts 22 OUTDATA_SIZE (List.cons_ne_nil _ _)
  rw [Ext.flatten_parts, Ext.length_documented] at hext
  rw [Reply.Within, stores_handleResponse, List.forall_mem_append, and_iff_right hbase, hext,
    OUTDATA_SIZE, CMD_SIZE, RESP_SIZE, ADDITIONAL_BUFFER_SIZE]
  split <;> omega

theorem laidOut_iff {req : AddrReq} {cmd : Cmd} {resp : Resp} {ext : Ext}
    {outdata : Memory UInt8} :
    LaidOut req cmd resp ext outdata ↔
      ext.nwks.length ≤ 13 ∧
        (outdata.read 17 5 ++ ext.documented).take ext.documented.length = ext.documented := by
  have hframe : (handleResponse req cmd 0x01 resp ext).frame outdata = documented cmd resp ext ↔
      (outdata.read 17 5 ++ ext.documented).take ext.documented.length = ext.documented := by
    rw [frame_handleResponse, documented, List.append_cancel_left_eq]
  rw [← within_handleResponse req cmd resp ext, ← hframe]
  exact ⟨fun h => ⟨h.within, h.frame⟩, fun h => ⟨h.2, h.1⟩⟩

-- For a given content of the five bytes that are never written the frame may
-- come out right by chance; no response comes out right for every content.
theorem laid_out_iff (req : AddrReq) (cmd : Cmd) (resp : Resp) (ext : Ext) :
    (∀ outdata, LaidOut req cmd resp ext outdata ↔
      ext.nwks.length ≤ 13 ∧
        (outdata.read 17 5 ++ ext.documented).take ext.documented.length = ext.documented) ∧
    ¬∀ outdata, LaidOut req cmd resp ext outdata := by
  refine ⟨fun _ => laidOut_iff, fun hall => ?_⟩
  obtain ⟨byte, rest, hext⟩ := List.exists_cons_of_ne_nil (Ext.documented_ne_nil ext)
  obtain ⟨other, hne⟩ := exists_ne byte
  have hbytes := (laidOut_iff.mp (hall (Memory.fill other))).2
  rw [hext, Memory.read_succ, List.cons_append, List.length_cons, List.take_succ_cons] at hbytes
  exact hne (List.cons.inj hbytes).1

-- No associated device, and a buffer that held 0xaa.
theorem not_laid_out :
    ¬∀ req cmd resp ext outdata, LaidOut req cmd resp ext outdata := by
  intro h
  have hbytes := (laidOut_iff.mp (h .ieee ⟨0, .request, 0x0202, 7⟩ ⟨7, 0, 1, 2⟩ ⟨0, [], by decide⟩
    (Memory.fill 0xaa))).2
  exact absurd hbytes (by decide)

-- A request of another type gets the two addresses and nothing else.
theorem frame_single (req : AddrReq) (cmd : Cmd) (resp : Resp) (ext : Ext)
    (outdata : Memory UInt8) {requestType : UInt8} (hsingle : requestType ≠ 0x01) :
    (handleResponse req cmd requestType resp ext).frame outdata =
      cmd.reply.bytes ++ STATUS_CATEGORY_ZDO :: resp.fields := by
  have hreply : handleResponse req cmd requestType resp ext =
      { stores := Reply.header cmd ++ formatResponse resp, outlen := 17 } := by
    cases req <;> simp only [handleResponse, respond, if_neg hsingle, CMD_SIZE, RESP_SIZE]
  rw [hreply, Reply.frame, base_eq]
  exact Memory.read_write _ _ _

end EspCoordinator.RequestProcess.AddrResponse
