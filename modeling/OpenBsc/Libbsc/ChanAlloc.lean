import Mathlib.Data.List.FinRange
import OpenBsc.Lib.Octets

/-!
# `Libbsc.ChanAlloc` — allocation of logical channels (`chan_alloc.c`)

A BTS has transceivers of eight timeslots, and a timeslot is divided into logical channels by its combination. A
timeslot without a combination gets one when a channel is needed that no other timeslot has.
-/

namespace OpenBsc.Libbsc

/-! ## Data -/

/-- `enum gsm_phys_chan_config`: the combination of a timeslot. -/
inductive PhysChanConfig where
  | none | ccch | ccchSdcch4 | tchF | tchH | sdcch8Sacch8c | pdch | tchFPdch | unknown
  deriving DecidableEq

/-- `enum gsm_chan_t`. -/
inductive GsmChan where
  | none | sdcch | tchF | tchH | unknown
  deriving DecidableEq

/-- `enum gsm_lchan_state`. -/
inductive LchanState where
  | none | actReq | active | relReq | relErr | inactive
  deriving DecidableEq

/-- `enum gsm_bts_type`. -/
inductive BtsType where
  | unknown | bs11 | nanobts | rbs2000 | nokiaSite | hslFemto | sysmobts
  deriving DecidableEq

/-- `struct gsm_lchan`, as far as the allocator reads and writes it. -/
structure GsmLchan where
  type : GsmChan := .none
  state : LchanState := .none
  sapis : List Octet := List.replicate 8 0
  mrConf : List Octet := List.replicate 2 0

/-- `NM_OPSTATE_*`. -/
inductive NmOpstate where
  | enabled | disabled | other
  deriving DecidableEq

/-- `NM_AVSTATE_*`, and 0xff before one is reported. -/
inductive NmAvstate where
  | ok | notReported | other
  deriving DecidableEq

/-- `struct gsm_nm_state`. -/
structure NmState where
  operational : NmOpstate
  availability : NmAvstate

/-- `struct gsm_bts_trx_ts`. -/
structure GsmBtsTrxTs where
  pchan : PhysChanConfig := .none
  flags : BitVec 32 := 0
  nmState : NmState
  lchan : Vector GsmLchan 8

/-- `struct gsm_bts_trx`. -/
structure GsmBtsTrx where
  nmState : NmState
  bbTransc : NmState
  ts : Vector GsmBtsTrxTs 8

/-- `struct gsm_bts`. The transceivers are listed in the order of their allocation, so `c0` is the first. -/
structure GsmBts where
  type : BtsType
  chanAllocReverse : Bool := false
  trxList : List GsmBtsTrx

/-- A pointer to a channel: the transceiver, the timeslot and the sub-slot. -/
structure LchanRef where
  trx : Nat
  ts : Fin 8
  ss : Fin 8
  deriving DecidableEq

/-- What the allocator tells others: the attributes of a timeslot (OML), and that there is no channel. -/
inductive ChanAllocOut where
  | setChannelAttr (trx : Nat) (ts : Fin 8) (pchan : PhysChanConfig)
  | allocFail (type : GsmChan)

/-! ## What can be used -/

/-- `nm_is_running`. -/
def nmIsRunning (s : NmState) : Bool :=
  s.operational == .enabled && (s.availability == .ok || s.availability == .notReported)

/-- `is_ipaccess_bts`. -/
def isIpaccessBts (bts : GsmBts) : Bool := bts.type == .nanobts

/-- `ts_is_usable`. -/
def tsIsUsable (bts : GsmBts) (ts : GsmBtsTrxTs) : Bool := !isIpaccessBts bts || nmIsRunning ts.nmState

/-- `trx_is_usable`. -/
def trxIsUsable (bts : GsmBts) (trx : GsmBtsTrx) : Bool :=
  !isIpaccessBts bts || nmIsRunning trx.nmState && nmIsRunning trx.bbTransc

/-- `subslots_per_pchan`. -/
def subslotsPerPchan : PhysChanConfig → Nat
  | .none => 0
  | .ccch => 0
  | .ccchSdcch4 => 4
  | .tchF => 1
  | .tchH => 2
  | .sdcch8Sacch8c => 8
  | .tchFPdch => 1
  | .pdch | .unknown => 0

/-- `TS_F_PDCH_MODE` is set. -/
def GsmBtsTrxTs.pdchMode (ts : GsmBtsTrxTs) : Bool := ts.flags &&& 0x1000 != 0

/-- The channel is not allocated, and nothing of an earlier use is pending. -/
def GsmLchan.isFree (lc : GsmLchan) : Bool := lc.type == .none && lc.state == .none

/-! ## Search -/

/-- Whether `_lc_find_trx` looks into the timeslot: an ip.access dynamic TCH/F + PDCH combination is only considered
    if the PDCH is currently inactive. -/
def considers (ts : GsmBtsTrxTs) (pchan : PhysChanConfig) : Bool :=
  if ts.pchan = .tchFPdch ∧ pchan = .tchF then !ts.pdchMode else ts.pchan == pchan

/-- `_lc_find_trx`: the first free sub-slot of the first timeslot that has one. -/
def lcFindTrx (bts : GsmBts) (trx : GsmBtsTrx) (pchan : PhysChanConfig) : Option (Fin 8 × Fin 8) :=
  if !trxIsUsable bts trx then none
  else
    (List.finRange 8).findSome? fun j =>
      if !tsIsUsable bts (trx.ts.get j) || !considers (trx.ts.get j) pchan then none
      else ((List.finRange 8).find? fun ss =>
        decide (ss.val < subslotsPerPchan pchan) && ((trx.ts.get j).lchan.get ss).isFree).map fun ss => (j, ss)

/-- The timeslots `ts_alloc` tries on a transceiver; none where it gives up. The constraints are pure policy. -/
def tsRange (isC0 : Bool) (pchan : PhysChanConfig) : Option (Nat × Nat) :=
  if isC0 then
    match pchan with
    | .ccch | .ccchSdcch4 => some (0, 0)
    | .tchF | .tchH => some (1, 7)
    | _ => none
  else
    match pchan with
    -- the case of SDCCH/8 sets 1 to 1, and falls through
    | .sdcch8Sacch8c | .tchF | .tchH => some (1, 7)
    | _ => none

/-- The first timeslot of a transceiver in a range that has no combination. -/
def findUnassigned (bts : GsmBts) (trx : GsmBtsTrx) (range : Nat × Nat) : Option (Fin 8) :=
  (List.finRange 8).find? fun j =>
    decide (range.1 ≤ j.val ∧ j.val ≤ range.2) && tsIsUsable bts (trx.ts.get j) && (trx.ts.get j).pchan == .none

/-- The loop of `ts_alloc`: the transceiver and the timeslot. -/
def tsAllocLoop (bts : GsmBts) (pchan : PhysChanConfig) : List (GsmBtsTrx × Nat) → Option (Nat × Fin 8)
  | [] => none
  | (trx, i) :: rest =>
    if !trxIsUsable bts trx then tsAllocLoop bts pchan rest
    else
      match tsRange (i == 0) pchan with
      | none => none
      | some range =>
        match findUnassigned bts trx range with
        | some j => some (i, j)
        | none => tsAllocLoop bts pchan rest

/-- The channel `ss` of a timeslot is changed by `f`. -/
def GsmBtsTrxTs.modifyLchan (ts : GsmBtsTrxTs) (ss : Fin 8) (f : GsmLchan → GsmLchan) : GsmBtsTrxTs :=
  { ts with lchan := ts.lchan.set ss.val (f (ts.lchan.get ss)) ss.isLt }

namespace GsmBts

/-- The timeslot `j` of the transceiver `i` is changed by `f`. -/
def modifyTs (bts : GsmBts) (i : Nat) (j : Fin 8) (f : GsmBtsTrxTs → GsmBtsTrxTs) : GsmBts :=
  { bts with trxList := bts.trxList.modify i fun trx => { trx with ts := trx.ts.set j.val (f (trx.ts.get j)) j.isLt } }

/-- A channel is changed by `f`. -/
def modifyLchan (bts : GsmBts) (ref : LchanRef) (f : GsmLchan → GsmLchan) : GsmBts :=
  bts.modifyTs ref.trx ref.ts fun ts => ts.modifyLchan ref.ss f

/-- The transceivers in the order in which `_lc_find_bts` looks at them. -/
def searchOrder (bts : GsmBts) : List (GsmBtsTrx × Nat) :=
  if bts.chanAllocReverse then bts.trxList.zipIdx.reverse else bts.trxList.zipIdx

end GsmBts

/-- A search: the BTS, what was found, the type it is for, and what was told others. -/
structure Search where
  bts : GsmBts
  lchan : Option LchanRef := none
  type : GsmChan
  outs : List ChanAllocOut := []

/-- `_lc_find_bts`. -/
def lcFindBts (bts : GsmBts) (pchan : PhysChanConfig) : GsmBts × Option LchanRef × List ChanAllocOut :=
  match bts.searchOrder.findSome? fun e =>
    (lcFindTrx bts e.1 pchan).map fun found => LchanRef.mk e.2 found.1 found.2 with
  | some ref => (bts, some ref, [])
  | none =>
    -- we cannot allocate more of these
    if pchan = .ccchSdcch4 then (bts, none, [])
    else
      match tsAllocLoop bts pchan bts.trxList.zipIdx with
      | none => (bts, none, [])
      | some (i, j) =>
        (bts.modifyTs i j fun ts => { ts with pchan := pchan }, some ⟨i, j, 0⟩, [.setChannelAttr i j pchan])

/-- The search goes on for another combination, if nothing was found yet. -/
def Search.orFind (s : Search) (pchan : PhysChanConfig) (type : GsmChan) : Search :=
  match s.lchan with
  | some _ => s
  | none =>
    let (bts, lchan, outs) := lcFindBts s.bts pchan
    ⟨bts, lchan, type, s.outs ++ outs⟩

/-! ## Allocation -/

/-- The search of `lchan_alloc`. -/
def lchanSearch (bts : GsmBts) (type : GsmChan) (allowBigger : Bool) : Search :=
  let start : Search := { bts := bts, type := type }
  match type with
  | .sdcch =>
    let first := if bts.chanAllocReverse then PhysChanConfig.sdcch8Sacch8c else .ccchSdcch4
    let second := if bts.chanAllocReverse then PhysChanConfig.ccchSdcch4 else .sdcch8Sacch8c
    let small := (start.orFind first .sdcch).orFind second .sdcch
    -- allow to assign bigger channels
    if allowBigger then (small.orFind .tchH .tchH).orFind .tchF .tchF else small
  | .tchF => start.orFind .tchF .tchF
  | .tchH => (start.orFind .tchH .tchH).orFind .tchF .tchF
  | _ => start

/-- What `lchan_alloc` makes of the channel it found. -/
def GsmLchan.allocate (type : GsmChan) (lc : GsmLchan) : GsmLchan :=
  { lc with type := type, sapis := List.replicate 8 0, mrConf := List.replicate 2 0 }

/-- `lchan_alloc`. -/
def lchanAlloc (bts : GsmBts) (type : GsmChan) (allowBigger : Bool) : Search :=
  let s := lchanSearch bts type allowBigger
  match s.lchan with
  | some ref => { s with bts := s.bts.modifyLchan ref (GsmLchan.allocate s.type) }
  | none => { s with outs := s.outs ++ [.allocFail s.type] }

end OpenBsc.Libbsc
