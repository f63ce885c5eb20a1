import EspCoordinator.BindTableTool
import EspCoordinator.Lib.Client

-- The rest of bind_table_tool.py
namespace EspCoordinator.BindTableTool

open Bytes

-- What txn is called with, and what it returns
structure Request where
  cmdId : UInt16
  payload : List UInt8
  tsn : UInt8
deriving DecidableEq, Repr

structure Answer where
  category : UInt8
  status : UInt8
  body : List UInt8
deriving DecidableEq, Repr

-- What txn makes of the payload of a frame
def readAnswer (cmdId : UInt16) (pl : List UInt8) : Option Answer :=
  if pl.length < 7 ∨ parseWord pl 2 ≠ some cmdId.toNat then none
  else some { category := pl.getD 5 0, status := pl.getD 6 0, body := pl.drop 7 }

inductive Exit where
  -- sys.exit
  | exit (code : Nat)
  -- an exception
  | raised
  -- The loop of dump_table is still running.
  | running
deriving DecidableEq, Repr

abbrev Tool (α : Type) := Client Request (Option Answer) Exit α

def txn (cmdId : UInt16) (payload : List UInt8) (tsn : UInt8) : Tool (Option Answer) :=
  .ask { cmdId, payload, tsn } .done

-- The attempts that are left
def attempts (cmdId : UInt16) (payload : List UInt8) : Nat → UInt8 → Tool (Option Answer)
  | 0, _ => .done none
  | tries + 1, tsn => do
      match ← txn cmdId payload tsn with
      | some r => .done (some r)
      | none => attempts cmdId payload tries (tsn + 1)

def txnRetry (cmdId : UInt16) (payload : List UInt8) (tsnBase : UInt8) : Tool (Option Answer) :=
  attempts cmdId payload 3 tsnBase

-- `none` among the answers stands for no answer, and so does a status other
-- than zero.
def succeeded (r : Option Answer) : Bool :=
  match r with
  | some answer => answer.status == 0
  | none => false

-- With `soft` an unreachable device is no reason to exit.
def unreadable (soft : Bool) (code : Nat) : Tool (Option UInt8 × List Rec) :=
  if soft then .done (none, []) else .stop (.exit code)

def dumpLoop (nwk : UInt16) (soft : Bool) : Nat → UInt8 → UInt8 → List Rec →
    Tool (Option UInt8 × List Rec)
  | 0, _, _, _ => .stop .running
  | fuel + 1, tsn, start, allRecs => do
      match ← txnRetry 0x020F (toLE 2 nwk.toNat ++ [start]) tsn with
      | none => unreadable soft 1
      | some answer =>
          if answer.status ≠ 0 then unreadable soft 2
          else
            match parseRecords answer.body with
            | none => .stop .raised
            | some parsed =>
                let next := parsed.start.toNat + parsed.count.toNat
                if parsed.count = 0 ∨ next ≥ parsed.entries.toNat then
                  .done (some parsed.entries, allRecs ++ parsed.recs)
                else dumpLoop nwk soft fuel (tsn + 4) (UInt8.ofNat next) (allRecs ++ parsed.recs)

def dumpTable (fuel : Nat) (nwk : UInt16) (soft : Bool) : Tool (Option UInt8 × List Rec) :=
  dumpLoop nwk soft fuel 0x40 0 []

inductive Class where
  | groupOrOtherMode
  | coordinator
  | phantom
  | otherDevice
deriving DecidableEq, Repr

def classify (rec : Rec) (ieeeTrue ieeePhantom : List UInt8) : Class :=
  if rec.mode ≠ 0x03 ∨ rec.dst = none then .groupOrOtherMode
  else if rec.dst = some ieeeTrue then .coordinator
  else if rec.dst = some ieeePhantom then .phantom
  else .otherDevice

def resolveIeee (nwk : UInt16) : Tool (Option (List UInt8)) := do
  match ← txnRetry 0x0202 (toLE 2 nwk.toNat ++ toLE 2 nwk.toNat ++ [0x00, 0x00]) 0x30 with
  | none => .done none
  | some r =>
      if r.status ≠ 0 ∨ r.body.length < 8 then .done none else .done (some (r.body.take 8))

def bindPayload (nwk : UInt16) (srcIeee : List UInt8) (srcEp : UInt8) (cluster : UInt16)
    (dstIeee : List UInt8) (dstEp : UInt8) : List UInt8 :=
  toLE 2 nwk.toNat ++ srcIeee ++ [srcEp] ++ toLE 2 cluster.toNat ++ [0x03] ++ dstIeee ++ [dstEp]

-- bytes.fromhex("02deadbeef001234")
def NEUTRAL_IEEE_LE : List UInt8 := [0x02, 0xde, 0xad, 0xbe, 0xef, 0x00, 0x12, 0x34].reverse

-- What the two probes work on
structure Target where
  nwk : UInt16
  srcIeee : List UInt8
  dstEp : UInt8
deriving DecidableEq, Repr

def Target.payload (target : Target) (srcEp : UInt8) (cluster : UInt16) (dst : List UInt8) :
    List UInt8 :=
  bindPayload target.nwk target.srcIeee srcEp cluster dst target.dstEp

structure Probe where
  tsn : UInt8
  results : List (List UInt8 × Option Answer)
  leftovers : List (List UInt8)
  midVisible : Option Bool
deriving DecidableEq, Repr

def Probe.start : Probe := { tsn := 0x60, results := [], leftovers := [], midVisible := none }

-- Is the fresh entry in the table?
def visible (fuel : Nat) (target : Target) (srcEp : UInt8) (cluster : UInt16) (dst : List UInt8)
    (midVisible : Option Bool) : Tool (Option Bool) := do
  if midVisible = none ∧ target.nwk ≠ 0x0000 then
    let (_, recs) ← dumpTable fuel target.nwk true
    return some (recs.any fun rec =>
      rec.srcEp = srcEp ∧ rec.cluster = cluster.toNat ∧ rec.dst = some dst)
  else return midVisible

def probeCandidate (fuel : Nat) (target : Target) (srcEp : UInt8) (cluster : UInt16) (probe : Probe)
    (dst : List UInt8) : Tool Probe := do
  let pl := target.payload srcEp cluster dst
  let r ← txnRetry 0x0208 pl probe.tsn
  let probe := { probe with tsn := probe.tsn + 4, results := probe.results ++ [(dst, r)] }
  if succeeded r then
    let midVisible ← visible fuel target srcEp cluster dst probe.midVisible
    let ru ← txnRetry 0x0209 pl probe.tsn
    let probe := { probe with tsn := probe.tsn + 4, midVisible }
    if succeeded ru then return probe
    else return { probe with leftovers := probe.leftovers ++ [dst] }
  else return probe

def runBindProbe (fuel : Nat) (target : Target) (srcEp : UInt8) (cluster : UInt16)
    (ieeeTrue ieeePhantom : List UInt8) : Tool Probe :=
  [ieeeTrue, NEUTRAL_IEEE_LE, ieeePhantom].foldlM (probeCandidate fuel target srcEp cluster)
    Probe.start

abbrev Combo := UInt8 × UInt16

structure Purge where
  tsn : UInt8
  removed : List Combo
  absent : List Combo
  errors : List Combo
deriving DecidableEq, Repr

def Purge.start : Purge := { tsn := 0xA0, removed := [], absent := [], errors := [] }

def Purge.record (purge : Purge) (combo : Combo) (r : Option Answer) : Purge :=
  match r.map Answer.status with
  | some 0x00 => { purge with removed := purge.removed ++ [combo] }
  | some 0x88 => { purge with absent := purge.absent ++ [combo] }
  | _ => { purge with errors := purge.errors ++ [combo] }

def purgeCombo (target : Target) (ieeePhantom : List UInt8) (purge : Purge) (combo : Combo) :
    Tool Purge := do
  let (ep, cluster) := combo
  let r ← txnRetry 0x0209 (target.payload ep cluster ieeePhantom) purge.tsn
  return { purge with tsn := purge.tsn + 4 }.record combo r

-- Can the table take a new entry now?
def verifyBind (target : Target) (combos : List Combo) (tsn : UInt8) : Tool Bool :=
  match combos with
  | [] => .stop .raised
  | (vep, vcluster) :: _ => do
      let pl := target.payload vep vcluster NEUTRAL_IEEE_LE
      let r ← txnRetry 0x0208 pl tsn
      if succeeded r then
        let _ ← txnRetry 0x0209 pl (tsn + 4)
        return true
      else return false

def runPhantomPurge (target : Target) (combos : List Combo) (ieeePhantom : List UInt8) :
    Tool (Purge × Bool) := do
  let purge ← combos.foldlM (purgeCombo target ieeePhantom) Purge.start
  let verifyOk ← verifyBind target combos purge.tsn
  return (purge, verifyOk)

-- The command line, with its numbers read
structure Args where
  nwk : UInt16
  unbindPhantoms : Bool
  testBind : Bool
  purgePhantomBlind : Bool
  purgeList : List Combo
  cluster : UInt16
  srcEp : UInt8
  dstEp : UInt8
  srcIeee : Option (List UInt8)
deriving DecidableEq, Repr

-- What the arguments are by default
def Args.default (nwk : UInt16) : Args where
  nwk
  unbindPhantoms := false
  testBind := false
  purgePhantomBlind := false
  purgeList := [(1, 0xfcc0), (4, 0xfcc0), (1, 0x0006), (4, 0x0006), (1, 0x0b04), (1, 0x0702)]
  cluster := 0xfcc0
  srcEp := 1
  dstEp := 1
  srcIeee := none

-- The version that GET_MODULE_VERSION reports
def firmware (r : Answer) : List Nat :=
  let verRaw := if r.status = 0 ∧ r.body.length ≥ 4 then ofLE (r.body.take 4) else 0
  [verRaw >>> 24 &&& 0xFF, verRaw >>> 16 &&& 0xFF, verRaw &&& 0xFFFF]

-- Tuples are compared in lexicographic order.
def predates (fw other : List Nat) : Bool := List.lex fw other fun a b => a < b

-- Firmware before 1.5.73 reports the address reversed.
def trueIeee (fw : List Nat) (reported : List UInt8) : List UInt8 :=
  if predates fw [1, 5, 73] then reported.reverse else reported

-- The coordinator's IEEE address
def identity : Tool (List UInt8) := do
  match ← txnRetry 0x0001 [] 0x01 with
  | none => .stop (.exit 1)
  | some version =>
      match ← txnRetry 0x000B [0x00] 0x05 with
      | none => .stop (.exit 1)
      | some r =>
          if r.status ≠ 0 ∨ r.body.length < 9 then .stop (.exit 1)
          else .done (trueIeee (firmware version) ((r.body.drop 1).take 8))

def isPhantom (ieeeTrue : List UInt8) (rec : Rec) : Bool :=
  classify rec ieeeTrue ieeeTrue.reverse = .phantom

-- The number of failures so far goes along with the tsn.
def unbindPhantom (nwk : UInt16) (state : UInt8 × Nat) (rec : Rec) : Tool (UInt8 × Nat) := do
  let (tsn, failed) := state
  match rec.dst with
  | none => .stop .raised
  | some dst =>
      let payload := toLE 2 nwk.toNat ++ rec.src ++ [rec.srcEp] ++ toLE 2 rec.cluster ++ [0x03] ++
        dst ++ [rec.dstEp.getD 0]
      let r ← txnRetry 0x0209 payload tsn
      return (tsn + 4, if succeeded r then failed else failed + 1)

-- The exit code of --unbind-phantoms
def cleanup (fuel : Nat) (nwk : UInt16) (ieeeTrue : List UInt8) (phantoms : List Rec) : Tool Nat := do
  let (_, failed) ← phantoms.foldlM (unbindPhantom nwk) (0x80, 0)
  let (_, recs) ← dumpTable fuel nwk false
  let left := recs.filter (isPhantom ieeeTrue)
  return if left = [] ∧ failed = 0 then 0 else 2

def sourceIeee (args : Args) : Tool (List UInt8) := do
  match args.srcIeee with
  | some srcIeee => return srcIeee
  | none =>
      match ← resolveIeee args.nwk with
      | some srcIeee => return srcIeee
      | none => .stop (.exit 1)

-- After a bind to itself the coordinator is not asked again.
def finalDump (fuel : Nat) (nwk : UInt16) : Tool Unit := do
  if nwk ≠ 0x0000 then
    let _ ← dumpTable fuel nwk true
    return ()
  else return ()

def testBind (fuel : Nat) (args : Args) (target : Target) (ieeeTrue : List UInt8) : Tool Nat := do
  let probe ← runBindProbe fuel target args.srcEp args.cluster ieeeTrue ieeeTrue.reverse
  finalDump fuel args.nwk
  return if probe.leftovers = [] then 0 else 2

def purgePhantomBlind (args : Args) (target : Target) (ieeeTrue : List UInt8) : Tool Nat := do
  if args.nwk = 0x0000 then .stop (.exit 1)
  else if args.purgeList = [] then .stop (.exit 1)
  else
    let (purge, verifyOk) ← runPhantomPurge target args.purgeList ieeeTrue.reverse
    return if purge.errors ≠ [] ∨ !verifyOk then 2 else 0

-- The modes that do not trust Mgmt_Bind
def probes (fuel : Nat) (args : Args) (ieeeTrue : List UInt8) : Tool Nat := do
  if args.testBind ∨ args.purgePhantomBlind then
    let srcIeee ← sourceIeee args
    let target : Target := { nwk := args.nwk, srcIeee, dstEp := args.dstEp }
    let probed ← if args.testBind then testBind fuel args target ieeeTrue else pure 0
    let purged ← if args.purgePhantomBlind then purgePhantomBlind args target ieeeTrue else pure 0
    return max probed purged
  else return 0

-- main, with the exit code it ends with
def main (fuel : Nat) (args : Args) : Tool Nat := do
  let ieeeTrue ← identity
  let (_, recs) ← dumpTable fuel args.nwk false
  let phantoms := recs.filter (isPhantom ieeeTrue)
  if args.unbindPhantoms ∧ phantoms ≠ [] then cleanup fuel args.nwk ieeeTrue phantoms
  else probes fuel args ieeeTrue

-- The exit code of the process, if it ends
def exitCode : Except Exit Nat → Option Nat
  | .ok code => some code
  | .error (.exit code) => some code
  | .error .raised => some 1
  | .error .running => none

end EspCoordinator.BindTableTool
