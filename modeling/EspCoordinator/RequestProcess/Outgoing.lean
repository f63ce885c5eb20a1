import EspCoordinator.Device
import EspCoordinator.Lib.Packed
import EspCoordinator.RequestProcess.SimpleDesc

-- What the members of request_cmd_process put into the buffer that ZBOSS is
-- called with
namespace EspCoordinator.RequestProcess.Outgoing

open Resolver Requests Bytes
open Packed (Block pair iso u8 u16 u64 block)
open Device (Zdo)

structure Member where
  Arg : Type
  Req : Type
  checkArgSize : List UInt8 → Bool
  -- The cast in process. It reads what lies in memory from the buffer on.
  cast : List UInt8 → Arg
  formatRequest : Arg → Req

-- The requests of a member, as the host means them and as it writes them.
structure Grammar extends Member where
  Host : Type
  wire : Host → List UInt8
  meant : Host → toMember.Req
  check_iff : ∀ buffer, toMember.checkArgSize buffer = true ↔
    ∃ host extra, buffer = wire host ++ extra
  format_eq : ∀ host behind,
    toMember.formatRequest (toMember.cast (wire host ++ behind)) = meant host

-- request_cmd_process::check_arg_size
def Member.packed {α β : Type} (p : Packed α) (formatRequest : α → β) : Member where
  Arg := α
  Req := β
  checkArgSize buffer := p.size ≤ buffer.length
  cast := p.read
  formatRequest

-- `arg` is the structure that the request of the host is cast to.
def Grammar.packed {α β Host : Type} (p : Packed α) (formatRequest : α → β) (arg : Host ≃ α)
    (wire : Host → List UInt8) (meant : Host → β) (wire_eq : ∀ host, wire host = p.write (arg host))
    (meant_eq : ∀ host, formatRequest (arg host) = meant host) : Grammar where
  toMember := Member.packed p formatRequest
  Host := Host
  wire := wire
  meant := meant
  check_iff buffer := by
    simp only [Member.packed, decide_eq_true_eq]
    constructor
    · intro hlen
      obtain ⟨value, hbuffer⟩ := p.exists_write hlen
      refine ⟨arg.symm value, buffer.drop p.size, ?_⟩
      rw [wire_eq, arg.apply_symm_apply]
      exact hbuffer
    · rintro ⟨host, extra, rfl⟩
      rw [wire_eq]
      exact p.le_length_append (arg host) extra
  format_eq host behind := by
    rw [wire_eq, ← meant_eq]
    exact congrArg formatRequest (p.read_write (arg host) behind)

-- sizeof of the structures of ZBOSS that are Arg and Req in one
structure Sizes where
  nwkAddrReq : Nat
  ieeeAddrReq : Nat
  powerDescReq : Nat
  nodeDescReq : Nat
  mgmtNwkUpdateReq : Nat

-- request_cmd_process::format_request. ZBOSS gets the bytes of the host.
def raw (size : Nat) : Grammar :=
  .packed (block size) id (.refl _) Subtype.val id (fun _ => rfl) fun _ => rfl

-- ZDO_ACTIVE_EP_REQ: nwk
def activeEpGrammar : Grammar :=
  .packed u16 id (.refl _) (fun nwk => toLE 2 nwk.toNat) id (fun _ => rfl) fun _ => rfl

def simpleDescArg : Packed SimpleDesc.Arg :=
  iso (pair u16 u8)
    { toFun := fun (nwkAddr, endpoint) => { nwkAddr, endpoint }
      invFun := fun arg => (arg.nwkAddr, arg.endpoint)
      left_inv := fun _ => rfl
      right_inv := fun _ => rfl }

-- nwk and endpoint
def simpleDescGrammar : Grammar :=
  .packed simpleDescArg id (.refl _) (fun host => toLE 2 host.nwkAddr.toNat ++ [host.endpoint]) id
    (fun host => congrArg (toLE 2 host.nwkAddr.toNat ++ ·) (Packed.write_u8 _).symm) fun _ => rfl

def permitJoiningArg : Packed PermitJoiningArg :=
  iso (pair u16 (pair u8 u8))
    { toFun := fun (destAddr, permitDuration, tcSignificance) =>
        { destAddr, permitDuration, tcSignificance }
      invFun := fun arg => (arg.destAddr, arg.permitDuration, arg.tcSignificance)
      left_inv := fun _ => rfl
      right_inv := fun _ => rfl }

-- nwk, duration and tcSignificance
def permitJoiningGrammar : Grammar :=
  .packed permitJoiningArg id (.refl _)
    (fun host => toLE 2 host.destAddr.toNat ++ [host.permitDuration, host.tcSignificance]) id
    (fun host => by
      have hwrite : permitJoiningArg.write host = toLE 2 host.destAddr.toNat ++
          (u8.write host.permitDuration ++ u8.write host.tcSignificance) := rfl
      rw [Equiv.refl_apply, hwrite, Packed.write_u8, Packed.write_u8]
      rfl)
    fun _ => rfl

-- S_ZDO_BIND_REQ_arg_t
structure BindArg where
  target : UInt16
  srcIeee : UInt64
  srcEP : UInt8
  clusterID : UInt16
  addrMode : UInt8
  dstIeee : UInt64
  dstEP : UInt8
deriving DecidableEq, Repr

def bindArg : Packed BindArg :=
  iso (pair u16 (pair u64 (pair u8 (pair u16 (pair u8 (pair u64 u8))))))
    { toFun := fun (target, srcIeee, srcEP, clusterID, addrMode, dstIeee, dstEP) =>
        { target, srcIeee, srcEP, clusterID, addrMode, dstIeee, dstEP }
      invFun := fun arg => (arg.target, arg.srcIeee, arg.srcEP, arg.clusterID, arg.addrMode,
        arg.dstIeee, arg.dstEP)
      left_inv := fun _ => rfl
      right_inv := fun _ => rfl }

-- zb_zdo_bind_req_param_t
structure BindReqParam where
  srcAddress : UInt64
  srcEndp : UInt8
  clusterId : UInt16
  dstAddrMode : UInt8
  dstAddress : UInt64
  dstEndp : UInt8
  reqDstAddr : UInt16
deriving DecidableEq, Repr

-- cmd_handle<ZDO_BIND_REQ>::format_request, and that of ZDO_UNBIND_REQ
def formatBind (arg : BindArg) : BindReqParam :=
  { srcAddress := arg.srcIeee
    srcEndp := arg.srcEP
    clusterId := arg.clusterID
    dstAddrMode := arg.addrMode
    dstAddress := arg.dstIeee
    dstEndp := arg.dstEP
    reqDstAddr := arg.target }

-- A ZDO_BIND_REQ or a ZDO_UNBIND_REQ as the host means it: the device that is
-- asked, and the two ends of the binding
structure BindHost where
  target : UInt16
  source : UInt64 × UInt8
  cluster : UInt16
  addrMode : UInt8
  destination : UInt64 × UInt8
deriving DecidableEq, Repr

namespace BindHost

def wire (host : BindHost) : List UInt8 :=
  toLE 2 host.target.toNat ++ toLE 8 host.source.1.toNat ++ [host.source.2] ++
    toLE 2 host.cluster.toNat ++ [host.addrMode] ++ toLE 8 host.destination.1.toNat ++
    [host.destination.2]

def meant (host : BindHost) : BindReqParam :=
  { srcAddress := host.source.1
    srcEndp := host.source.2
    clusterId := host.cluster
    dstAddrMode := host.addrMode
    dstAddress := host.destination.1
    dstEndp := host.destination.2
    reqDstAddr := host.target }

def arg : BindHost ≃ BindArg where
  toFun host :=
    { target := host.target, srcIeee := host.source.1, srcEP := host.source.2
      clusterID := host.cluster, addrMode := host.addrMode, dstIeee := host.destination.1
      dstEP := host.destination.2 }
  invFun arg :=
    { target := arg.target, source := (arg.srcIeee, arg.srcEP), cluster := arg.clusterID
      addrMode := arg.addrMode, destination := (arg.dstIeee, arg.dstEP) }
  left_inv _ := rfl
  right_inv _ := rfl

theorem wire_eq (host : BindHost) : host.wire = bindArg.write (arg host) := by
  have hwrite : bindArg.write (arg host) =
      toLE 2 host.target.toNat ++ (toLE 8 host.source.1.toNat ++ (u8.write host.source.2 ++
        (toLE 2 host.cluster.toNat ++ (u8.write host.addrMode ++
          (toLE 8 host.destination.1.toNat ++ u8.write host.destination.2))))) := rfl
  rw [hwrite, Packed.write_u8, Packed.write_u8, Packed.write_u8, wire]
  simp only [List.append_assoc]

end BindHost

def bindGrammar : Grammar :=
  .packed bindArg formatBind BindHost.arg BindHost.wire BindHost.meant BindHost.wire_eq
    fun _ => rfl

-- S_ZDO_MGMT_LQI_REQ_arg_t and ZDO_MGMT_BIND_REQ_args_t
structure IndexArg where
  nwk : UInt16
  startIndex : UInt8
deriving DecidableEq, Repr

def indexArg : Packed IndexArg :=
  iso (pair u16 u8)
    { toFun := fun (nwk, startIndex) => { nwk, startIndex }
      invFun := fun arg => (arg.nwk, arg.startIndex)
      left_inv := fun _ => rfl
      right_inv := fun _ => rfl }

-- zb_zdo_mgmt_lqi_param_t and zb_zdo_mgmt_bind_param_t
structure IndexParam where
  dstAddr : UInt16
  startIndex : UInt8
deriving DecidableEq, Repr

def formatIndex (arg : IndexArg) : IndexParam :=
  { dstAddr := arg.nwk, startIndex := arg.startIndex }

-- A ZDO_MGMT_LQI_REQ or a ZDO_MGMT_BIND_REQ as the host means it: the table of
-- a device, from an entry on
structure IndexHost where
  device : UInt16
  start : UInt8
deriving DecidableEq, Repr

namespace IndexHost

def wire (host : IndexHost) : List UInt8 := toLE 2 host.device.toNat ++ [host.start]

def meant (host : IndexHost) : IndexParam := { dstAddr := host.device, startIndex := host.start }

def arg : IndexHost ≃ IndexArg where
  toFun host := { nwk := host.device, startIndex := host.start }
  invFun arg := { device := arg.nwk, start := arg.startIndex }
  left_inv _ := rfl
  right_inv _ := rfl

theorem wire_eq (host : IndexHost) : host.wire = indexArg.write (arg host) :=
  congrArg (toLE 2 host.device.toNat ++ ·) (Packed.write_u8 _).symm

end IndexHost

def indexGrammar : Grammar :=
  .packed indexArg formatIndex IndexHost.arg IndexHost.wire IndexHost.meant IndexHost.wire_eq
    fun _ => rfl

def MAX_CLUSTERS : Nat := 64

-- The fields of ZDO_MATCH_DESC_REQ_arg_t in front of the clusters
structure MatchDescHead where
  nwk : UInt16
  profileID : UInt16
  inputClusterCount : UInt8
  outputClusterCount : UInt8
deriving DecidableEq, Repr

def MatchDescHead.clusters (head : MatchDescHead) : Nat :=
  head.inputClusterCount.toNat + head.outputClusterCount.toNat

def matchDescHead : Packed MatchDescHead :=
  iso (pair u16 (pair u16 (pair u8 u8)))
    { toFun := fun (nwk, profileID, inputClusterCount, outputClusterCount) =>
        { nwk, profileID, inputClusterCount, outputClusterCount }
      invFun := fun head => (head.nwk, head.profileID, head.inputClusterCount,
        head.outputClusterCount)
      left_inv := fun _ => rfl
      right_inv := fun _ => rfl }

-- ZDO_MATCH_DESC_REQ_arg_t
abbrev MatchDescArg := MatchDescHead × Block (2 * MAX_CLUSTERS)

def matchDescArg : Packed MatchDescArg := pair matchDescHead (block (2 * MAX_CLUSTERS))

-- zb_zdo_match_desc_param_t
structure MatchDescParam where
  nwkAddr : UInt16
  addrOfInterest : UInt16
  profileId : UInt16
  numInClusters : UInt8
  numOutClusters : UInt8
  clusterList : List UInt8
deriving DecidableEq, Repr

-- A frame that is shorter than the structure is cast to it as well.
def matchDesc : Member where
  Arg := MatchDescArg
  Req := MatchDescParam
  checkArgSize buffer :=
    if buffer.length < 6 then false
    else
      let arg := matchDescHead.read buffer
      if arg.clusters > MAX_CLUSTERS then false
      else buffer.length ≥ 6 + arg.clusters * 2
  cast := matchDescArg.read
  formatRequest := fun (arg, clusters) =>
    { nwkAddr := arg.nwk
      addrOfInterest := arg.nwk
      profileId := arg.profileID
      numInClusters := arg.inputClusterCount
      numOutClusters := arg.outputClusterCount
      clusterList := clusters.val.take (arg.clusters * 2) }

-- A ZDO_MATCH_DESC_REQ as the host means it
structure MatchDescHost where
  nwk : UInt16
  profileID : UInt16
  inputClusters : List UInt16
  outputClusters : List UInt16
  fits : inputClusters.length + outputClusters.length ≤ MAX_CLUSTERS

namespace MatchDescHost

def head (host : MatchDescHost) : MatchDescHead :=
  { nwk := host.nwk
    profileID := host.profileID
    inputClusterCount := UInt8.ofNat host.inputClusters.length
    outputClusterCount := UInt8.ofNat host.outputClusters.length }

def wire (host : MatchDescHost) : List UInt8 :=
  matchDescHead.write host.head ++ words host.inputClusters ++ words host.outputClusters

def meant (host : MatchDescHost) : MatchDescParam :=
  { nwkAddr := host.nwk
    addrOfInterest := host.nwk
    profileId := host.profileID
    numInClusters := UInt8.ofNat host.inputClusters.length
    numOutClusters := UInt8.ofNat host.outputClusters.length
    clusterList := words (host.inputClusters ++ host.outputClusters) }

variable (host : MatchDescHost)

theorem clusters_head :
    host.head.clusters = host.inputClusters.length + host.outputClusters.length := by
  have hfits := host.fits
  simp only [MAX_CLUSTERS] at hfits
  simp only [head, MatchDescHead.clusters, UInt8.toNat_ofNat']
  omega

theorem wire_eq : host.wire =
    matchDescHead.write host.head ++ words (host.inputClusters ++ host.outputClusters) := by
  rw [wire, words_append, List.append_assoc]

theorem length_lists : (words (host.inputClusters ++ host.outputClusters)).length =
    2 * host.head.clusters := by
  rw [length_words, List.length_append, clusters_head]

theorem checkArgSize_wire (extra : List UInt8) :
    matchDesc.checkArgSize (host.wire ++ extra) = true := by
  have hfits := host.fits
  rw [← clusters_head] at hfits
  have hlen : (host.wire ++ extra).length = 6 + 2 * host.head.clusters + extra.length := by
    rw [wire_eq, List.length_append, List.length_append, length_lists, matchDescHead.length_write]
    rfl
  have hread : matchDescHead.read (host.wire ++ extra) = host.head := by
    rw [wire_eq, List.append_assoc, matchDescHead.read_write]
  simp only [matchDesc, hread]
  rw [if_neg (by omega), if_neg (by omega), decide_eq_true_eq]
  omega

-- The lists that the counts of a frame announce are there.
theorem exists_of_checkArgSize {buffer : List UInt8}
    (hcheck : matchDesc.checkArgSize buffer = true) :
    ∃ (host : MatchDescHost) (extra : List UInt8), buffer = host.wire ++ extra := by
  simp only [matchDesc] at hcheck
  split_ifs at hcheck with hshort hmany
  rw [decide_eq_true_eq] at hcheck
  have hlong : matchDescHead.size ≤ buffer.length := Nat.le_of_not_lt hshort
  obtain ⟨arg, hbuffer⟩ := matchDescHead.exists_write hlong
  have hread : matchDescHead.read buffer = arg := by
    rw [hbuffer, matchDescHead.read_write]
  rw [hread] at hmany hcheck
  have hsize : matchDescHead.size = 6 := rfl
  rw [hsize] at hbuffer
  have hlists : ((buffer.drop 6).take (2 * arg.clusters)).length = 2 * arg.clusters := by
    rw [List.length_take, List.length_drop]
    omega
  obtain ⟨values, hvalues, hwords⟩ := exists_words hlists
  have hclusters : arg.clusters = arg.inputClusterCount.toNat + arg.outputClusterCount.toNat := rfl
  have hin : (values.take arg.inputClusterCount.toNat).length = arg.inputClusterCount.toNat := by
    rw [List.length_take]
    omega
  have hout : (values.drop arg.inputClusterCount.toNat).length =
      arg.outputClusterCount.toNat := by
    rw [List.length_drop]
    omega
  let host : MatchDescHost :=
    { nwk := arg.nwk
      profileID := arg.profileID
      inputClusters := values.take arg.inputClusterCount.toNat
      outputClusters := values.drop arg.inputClusterCount.toNat
      fits := by
        rw [hin, hout]
        omega }
  have hhead : host.head = arg := by
    simp only [head, host, hin, hout, UInt8.ofNat_toNat]
  refine ⟨host, (buffer.drop 6).drop (2 * arg.clusters), ?_⟩
  calc buffer = matchDescHead.write arg ++ buffer.drop 6 := hbuffer
    _ = matchDescHead.write arg ++ (words values ++ (buffer.drop 6).drop (2 * arg.clusters)) := by
        rw [← hwords, List.take_append_drop]
    _ = host.wire ++ (buffer.drop 6).drop (2 * arg.clusters) := by
        rw [wire_eq, hhead, List.take_append_drop, List.append_assoc]

theorem formatRequest_wire (behind : List UInt8) :
    matchDesc.formatRequest (matchDesc.cast (host.wire ++ behind)) = host.meant := by
  have hfits := host.fits
  rw [← clusters_head] at hfits
  have hhead : matchDescHead.read (host.wire ++ behind) = host.head := by
    rw [wire_eq, List.append_assoc, matchDescHead.read_write]
  have hrest : (host.wire ++ behind).drop matchDescHead.size =
      words (host.inputClusters ++ host.outputClusters) ++ behind := by
    rw [wire_eq, List.append_assoc, List.drop_left' (matchDescHead.length_write _)]
  have hlist : ((block (2 * MAX_CLUSTERS)).read (words (host.inputClusters ++
      host.outputClusters) ++ behind)).val.take (host.head.clusters * 2) =
        words (host.inputClusters ++ host.outputClusters) := by
    simp only [block, List.append_assoc]
    rw [List.take_take, Nat.min_eq_left (by omega), Nat.mul_comm, List.take_left' host.length_lists]
  simp only [matchDesc, matchDescArg, pair, hhead, hrest, hlist]
  rfl

end MatchDescHost

def matchDescGrammar : Grammar where
  toMember := matchDesc
  Host := MatchDescHost
  wire := MatchDescHost.wire
  meant := MatchDescHost.meant
  check_iff buffer := by
    refine ⟨MatchDescHost.exists_of_checkArgSize, ?_⟩
    rintro ⟨host, extra, rfl⟩
    exact host.checkArgSize_wire extra
  format_eq := MatchDescHost.formatRequest_wire

-- The cmd_handle of each command
def grammar (sizes : Sizes) : Zdo → Grammar
  | .nwkAddrReq => raw sizes.nwkAddrReq
  | .ieeeAddrReq => raw sizes.ieeeAddrReq
  | .powerDescReq => raw sizes.powerDescReq
  | .nodeDescReq => raw sizes.nodeDescReq
  | .simpleDescReq => simpleDescGrammar
  | .activeEpReq => activeEpGrammar
  | .matchDescReq => matchDescGrammar
  | .bindReq => bindGrammar
  | .unbindReq => bindGrammar
  | .permitJoiningReq => permitJoiningGrammar
  | .mgmtBindReq => indexGrammar
  | .mgmtLqiReq => indexGrammar
  | .mgmtNwkUpdateReq => raw sizes.mgmtNwkUpdateReq

section Run

variable {Resp : Type} (m : Member)

-- `behind` is what lies in memory behind a frame.
def Member.command (behind : List UInt8 → List UInt8) (c : Command m.Arg Resp) :
    Command m.Arg Resp :=
  { c with
      checkArgSize := m.checkArgSize
      arg := fun buffer => m.cast (buffer ++ behind buffer) }

-- The calls of start_request: the request that each was made for, and what the
-- buffer held. They are not in the code.
structure Traced (m : Member) where
  state : State m.Arg
  calls : List (Nat × m.Req)

def started (s : State m.Arg) : Label Resp → List (Nat × m.Req)
  | .doRequest idx _ => [(s.table.owner idx, m.formatRequest (s.table.slot idx).arg)]
  | _ => []

-- A label that is not enabled is no step.
def step (c : Command m.Arg Resp) (t : Traced m) (label : Label Resp) : Traced m :=
  match RequestProcess.step c t.state label with
  | some next => { state := next, calls := t.calls ++ started m t.state label }
  | none => t

def run (behind : List UInt8 → List UInt8) (c : Command m.Arg Resp) (zero : m.Arg)
    (labels : List (Label Resp)) : Traced m :=
  labels.foldl (step m (m.command behind c)) { state := init zero, calls := [] }

end Run

end EspCoordinator.RequestProcess.Outgoing
