import OpenBsc.Lib.Octets

/-!
# `Libcommon.OmlObjects` — the managed object that an OML message is about (`gsm_data_shared.c`)

A message names an object by its class and by three octets, which stand for the BTS, the transceiver and the timeslot.
There is one OML link for each BTS, and a class goes by the octets that number its objects in the BTS: its other octets
are not looked at (`numbering`).
-/

namespace OpenBsc.Libcommon

/-! ## Data -/

/-- `enum abis_nm_obj_class`, as far as the tables have it. -/
inductive ObjClass where
  | siteManager | bts | radioCarrier | channel | basebTransc | bs11Rack | bs11 | bs11Envabtse
  | gprsNse | gprsCell | gprsNsvc
  | other (o : Octet)
  deriving DecidableEq

/-- `struct abis_om_obj_inst`. -/
structure AbisOmObjInst where
  btsNr : Octet := 0
  trxNr : Octet := 0
  tsNr : Octet := 0

/-- `struct gsm_abis_mo`. The class is zero, that of the site manager, where `gsm_mo_init` was not called. -/
structure GsmAbisMo where
  objClass : ObjClass := .siteManager
  objInst : AbisOmObjInst := {}

/-- `gsm_mo_init`. -/
def gsmMoInit (objClass : ObjClass) (p1 p2 p3 : Octet) : GsmAbisMo := ⟨objClass, ⟨p1, p2, p3⟩⟩

/-- The managed objects of `struct gsm_bts_trx`. -/
structure OmlTrx where
  nr : Octet
  mo : GsmAbisMo
  bbTransc : GsmAbisMo
  bbsig : GsmAbisMo := {}
  pa : GsmAbisMo := {}
  ts : Vector GsmAbisMo 8

/-- The managed objects of `struct gsm_bts`. -/
structure OmlBts where
  nr : Octet
  numTrx : Nat
  trxList : List OmlTrx
  mo : GsmAbisMo
  siteMgr : GsmAbisMo
  nsvc : Vector GsmAbisMo 2
  nse : GsmAbisMo
  cell : GsmAbisMo
  cclk : GsmAbisMo := {}
  rack : GsmAbisMo := {}
  envabtse : Vector GsmAbisMo 4 := .replicate 4 {}

/-- What `gsm_bts_trx_alloc` makes of the memory of a transceiver. -/
def omlTrxInit (btsNr nr : Octet) : OmlTrx where
  nr := nr
  mo := gsmMoInit .radioCarrier btsNr nr 0xff
  bbTransc := gsmMoInit .basebTransc btsNr nr 0xff
  ts := .ofFn fun k => gsmMoInit .channel btsNr nr (UInt8.ofNat k.val)

/-- `gsm_bts_trx_alloc`: the number has eight bits, the count has not. -/
def gsmBtsTrxAlloc (bts : OmlBts) : OmlBts :=
  { bts with
    numTrx := bts.numTrx + 1
    trxList := bts.trxList ++ [omlTrxInit bts.nr (UInt8.ofNat bts.numTrx)] }

/-- `gsm_bts_alloc`. The BTS has no number yet. -/
def gsmBtsAlloc : OmlBts :=
  gsmBtsTrxAlloc
    { nr := 0
      numTrx := 0
      trxList := []
      mo := gsmMoInit .bts 0 0xff 0xff
      siteMgr := gsmMoInit .siteManager 0xff 0xff 0xff
      nsvc := .ofFn fun i => gsmMoInit .gprsNsvc 0 (UInt8.ofNat i.val) 0xff
      nse := gsmMoInit .gprsNse 0 0xff 0xff
      cell := gsmMoInit .gprsCell 0 0xff 0xff }

/-- A BTS as it can be: it is allocated, registered under a number, and gets transceivers. -/
inductive Configured : OmlBts → Prop where
  | alloc : Configured gsmBtsAlloc
  | register {bts : OmlBts} (h : Configured bts) (nr : Octet) : Configured { bts with nr := nr }
  | trxAlloc {bts : OmlBts} (h : Configured bts) : Configured (gsmBtsTrxAlloc bts)

/-! ## Lookup -/

/-- The place of a `struct gsm_abis_mo` in the memory of a BTS; a transceiver by its place in the list. -/
inductive MoRef where
  | bts | siteMgr | nse | cell | cclk | rack
  | carrier (i : Nat) | bbTransc (i : Nat) | bbsig (i : Nat) | pa (i : Nat)
  | ts (i : Nat) (j : Fin 8)
  | envabtse (k : Fin 4)
  | nsvc (k : Fin 2)

/-- The place of a structure that has a managed object. -/
inductive ObjRef where
  | bts | siteMgr | nse | cell
  | trx (i : Nat) | bbTransc (i : Nat)
  | ts (i : Nat) (j : Fin 8)
  | nsvc (k : Fin 2)

/-- What a lookup returns. It is `wild` where it comes from a pointer to a transceiver that does not exist. -/
inductive Ptr (α : Type) where
  | null
  | at (a : α)
  | wild

/-- The structure that a field is in, or the field of a structure. -/
def Ptr.map {α β : Type} (f : α → β) : Ptr α → Ptr β
  | .null => .null
  | .at a => .at (f a)
  | .wild => .wild

/-- `gsm_bts_trx_num`: the first transceiver of the list that has the number. -/
def gsmBtsTrxNum (bts : OmlBts) (num : Nat) : Option Nat :=
  if bts.numTrx ≤ num then none else bts.trxList.findIdx? fun trx => trx.nr.toNat == num

/-- A field of a transceiver: the address is computed without a check. -/
def trxField {α : Type} (field : Nat → α) : Option Nat → Ptr α
  | some i => .at (field i)
  | none => .wild

/-- An element of an array, after a check of the number. -/
def arrayField {α : Type} {n : Nat} (field : Fin n → α) (k : Octet) : Ptr α :=
  if h : k.toNat < n then .at (field ⟨k.toNat, h⟩) else .null

/-- The inner switch of `gsm_objclass2mo` for the class `NM_OC_BS11`, where the first octet of the instance says what
    kind of object it is. It compares the timeslot octet, and uses the transceiver octet. -/
def bs11Object (bts : OmlBts) (inst : AbisOmObjInst) : Ptr MoRef :=
  if inst.btsNr = 0x04 then .at .cclk
  else if inst.btsNr = 0x02 then
    if bts.numTrx < inst.tsNr.toNat then .null else trxField .bbsig (gsmBtsTrxNum bts inst.trxNr.toNat)
  else if inst.btsNr = 0x09 then
    if bts.numTrx < inst.tsNr.toNat then .null else trxField .pa (gsmBtsTrxNum bts inst.trxNr.toNat)
  else .null

/-- `gsm_objclass2mo`. -/
def gsmObjclass2mo (bts : OmlBts) (objClass : ObjClass) (inst : AbisOmObjInst) : Ptr MoRef :=
  match objClass with
  | .bts => .at .bts
  | .radioCarrier =>
    if bts.numTrx ≤ inst.trxNr.toNat then .null else trxField .carrier (gsmBtsTrxNum bts inst.trxNr.toNat)
  | .basebTransc =>
    if bts.numTrx ≤ inst.trxNr.toNat then .null else trxField .bbTransc (gsmBtsTrxNum bts inst.trxNr.toNat)
  | .channel =>
    if bts.numTrx ≤ inst.trxNr.toNat then .null
    else
      match gsmBtsTrxNum bts inst.trxNr.toNat with
      | some i => arrayField (.ts i) inst.tsNr
      | none => if 8 ≤ inst.tsNr.toNat then .null else .wild
  | .siteManager => .at .siteMgr
  | .bs11 =>
    match bs11Object bts inst with
    | .null => .null
    -- there is no break behind the inner switch, and the rack is next
    | _ => .at .rack
  | .bs11Rack => .at .rack
  | .bs11Envabtse => arrayField .envabtse inst.trxNr
  | .gprsNse => .at .nse
  | .gprsCell => .at .cell
  | .gprsNsvc => arrayField .nsvc inst.trxNr
  | .other _ => .null

/-- `gsm_objclass2nmstate`: the state record is in the managed object. -/
def gsmObjclass2nmstate (bts : OmlBts) (objClass : ObjClass) (inst : AbisOmObjInst) : Ptr MoRef :=
  match gsmObjclass2mo bts objClass inst with
  | .null => .null
  | mo => mo

/-- `gsm_objclass2obj`. -/
def gsmObjclass2obj (bts : OmlBts) (objClass : ObjClass) (inst : AbisOmObjInst) : Ptr ObjRef :=
  match objClass with
  | .bts => .at .bts
  | .radioCarrier =>
    if bts.numTrx ≤ inst.trxNr.toNat then .null
    else
      match gsmBtsTrxNum bts inst.trxNr.toNat with
      | some i => .at (.trx i)
      | none => .null
  | .basebTransc =>
    if bts.numTrx ≤ inst.trxNr.toNat then .null else trxField .bbTransc (gsmBtsTrxNum bts inst.trxNr.toNat)
  | .channel =>
    if bts.numTrx ≤ inst.trxNr.toNat then .null
    else
      match gsmBtsTrxNum bts inst.trxNr.toNat with
      | some i => arrayField (.ts i) inst.tsNr
      | none => if 8 ≤ inst.tsNr.toNat then .null else .wild
  | .siteManager => .at .siteMgr
  | .gprsNse => .at .nse
  | .gprsCell => .at .cell
  | .gprsNsvc => arrayField .nsvc inst.trxNr
  | .bs11 | .bs11Rack | .bs11Envabtse | .other _ => .null

/-- The managed object at a place of the BTS, if the transceiver exists. -/
def OmlBts.mo? (bts : OmlBts) : MoRef → Option GsmAbisMo
  | .bts => some bts.mo
  | .siteMgr => some bts.siteMgr
  | .nse => some bts.nse
  | .cell => some bts.cell
  | .cclk => some bts.cclk
  | .rack => some bts.rack
  | .carrier i => bts.trxList[i]?.map OmlTrx.mo
  | .bbTransc i => bts.trxList[i]?.map OmlTrx.bbTransc
  | .bbsig i => bts.trxList[i]?.map OmlTrx.bbsig
  | .pa i => bts.trxList[i]?.map OmlTrx.pa
  | .ts i j => bts.trxList[i]?.map fun trx => trx.ts.get j
  | .envabtse k => some (bts.envabtse.get k)
  | .nsvc k => some (bts.nsvc.get k)

/-- The managed object of a structure. -/
def ObjRef.mo : ObjRef → MoRef
  | .bts => .bts
  | .siteMgr => .siteMgr
  | .nse => .nse
  | .cell => .cell
  | .trx i => .carrier i
  | .bbTransc i => .bbTransc i
  | .ts i j => .ts i j
  | .nsvc k => .nsvc k

/-! ## What a BTS has -/

/-- What holds of a BTS however it is configured: the transceivers are numbered by their places in the list, with eight
    bits, and every object was given its class and instance when the BTS had no number yet, or by its transceiver. -/
structure Consistent (bts : OmlBts) : Prop where
  numTrx_eq : bts.numTrx = bts.trxList.length
  trx : ∀ i trx, bts.trxList[i]? = some trx → ∃ btsNr, trx = omlTrxInit btsNr (UInt8.ofNat i)
  mo_eq : bts.mo = gsmMoInit .bts 0 0xff 0xff
  siteMgr_eq : bts.siteMgr = gsmMoInit .siteManager 0xff 0xff 0xff
  nsvc_eq : ∀ i, bts.nsvc.get i = gsmMoInit .gprsNsvc 0 (UInt8.ofNat i.val) 0xff
  nse_eq : bts.nse = gsmMoInit .gprsNse 0 0xff 0xff
  cell_eq : bts.cell = gsmMoInit .gprsCell 0 0xff 0xff

/-- Another transceiver gets the next place. -/
theorem Consistent.trxAlloc {bts : OmlBts} (h : Consistent bts) : Consistent (gsmBtsTrxAlloc bts) where
  numTrx_eq := by
    show bts.numTrx + 1 = (bts.trxList ++ [_]).length
    rw [List.length_append, h.numTrx_eq]
    rfl
  trx := by
    intro i trx hi
    have hi : (bts.trxList ++ [omlTrxInit bts.nr (UInt8.ofNat bts.numTrx)])[i]? = some trx := hi
    rw [List.getElem?_append] at hi
    split_ifs at hi with hlt
    · exact h.trx i trx hi
    · rw [List.getElem?_singleton] at hi
      split_ifs at hi with hzero
      cases hi
      refine ⟨bts.nr, ?_⟩
      rw [h.numTrx_eq, show bts.trxList.length = i by omega]
  mo_eq := h.mo_eq
  siteMgr_eq := h.siteMgr_eq
  nsvc_eq := h.nsvc_eq
  nse_eq := h.nse_eq
  cell_eq := h.cell_eq

theorem Configured.consistent {bts : OmlBts} (h : Configured bts) : Consistent bts := by
  induction h with
  | alloc =>
    refine Consistent.trxAlloc ⟨rfl, fun i trx hi => ?_, rfl, rfl, fun i => ?_, rfl, rfl⟩
    · cases hi
    · exact Vector.getElem_ofFn i.isLt
  | register _ nr ih =>
    exact ⟨ih.numTrx_eq, ih.trx, ih.mo_eq, ih.siteMgr_eq, ih.nsvc_eq, ih.nse_eq, ih.cell_eq⟩
  | trxAlloc _ ih => exact ih.trxAlloc

/-- The transceiver that an octet numbers is at that place. -/
theorem gsmBtsTrxNum_eq {bts : OmlBts} (h : Consistent bts) (k : Octet) (hk : k.toNat < bts.numTrx) :
    gsmBtsTrxNum bts k.toNat = some k.toNat := by
  have hnr : ∀ i (hi : i < bts.trxList.length), bts.trxList[i].nr = UInt8.ofNat i := by
    intro i hi
    obtain ⟨btsNr, htrx⟩ := h.trx i _ (List.getElem?_eq_getElem hi)
    rw [htrx]
    rfl
  have hk256 : k.toNat < 256 := k.toNat_lt
  unfold gsmBtsTrxNum
  rw [if_neg (by omega), List.findIdx?_eq_some_iff_getElem]
  refine ⟨by rw [← h.numTrx_eq]; exact hk, ?_, fun j hj => ?_⟩
  · rw [hnr, beq_iff_eq, toNat_octetOf hk256]
  · rw [hnr, beq_iff_eq, toNat_octetOf (by omega)]
    omega

/-! ## Addresses -/

/-- The octets that number the objects of a class in a BTS. -/
def numbering : ObjClass → AbisOmObjInst → List Octet
  | .radioCarrier, inst | .basebTransc, inst | .bs11Envabtse, inst | .gprsNsvc, inst => [inst.trxNr]
  | .channel, inst => [inst.trxNr, inst.tsNr]
  | _, _ => []

/-- The classes whose objects get class and instance from `gsm_mo_init`. -/
def Initialised : ObjClass → Prop
  | .bs11 | .bs11Rack | .bs11Envabtse | .other _ => False
  | _ => True

/-- The classes that both tables have. -/
def InBoth : ObjClass → Prop
  | .bs11 | .bs11Rack | .bs11Envabtse => False
  | _ => True

/-- What the lookup of a class and an instance comes to, where `octets` are the octets of an instance that tell the
    objects of a class apart: it returns nothing, or an object that is there, of that class and with these octets, which
    no other address of a class but `NM_OC_BS11` shares; and it agrees with the lookup of the structure. -/
structure ObjectAddressed (octets : ObjClass → AbisOmObjInst → List Octet) (bts : OmlBts) (objClass : ObjClass)
    (inst : AbisOmObjInst) : Prop where
  named : ∀ ref, gsmObjclass2mo bts objClass inst = .at ref → ∃ mo, bts.mo? ref = some mo ∧
    (Initialised objClass → mo.objClass = objClass ∧ octets objClass mo.objInst = octets objClass inst)
  trxExists : gsmObjclass2mo bts objClass inst ≠ .wild
  alone : ∀ objClass' inst' ref, objClass' ≠ .bs11 → gsmObjclass2nmstate bts objClass inst = .at ref →
    gsmObjclass2nmstate bts objClass' inst' = .at ref →
    objClass' = objClass ∧ octets objClass' inst' = octets objClass inst
  agrees : InBoth objClass → gsmObjclass2mo bts objClass inst = (gsmObjclass2obj bts objClass inst).map ObjRef.mo

/-- The class and the numbering octets that a place stands for. -/
def MoRef.address : MoRef → ObjClass × List Octet
  | .bts => (.bts, [])
  | .siteMgr => (.siteManager, [])
  | .nse => (.gprsNse, [])
  | .cell => (.gprsCell, [])
  | .rack => (.bs11Rack, [])
  | .cclk | .bbsig _ | .pa _ => (.bs11, [])
  | .carrier i => (.radioCarrier, [UInt8.ofNat i])
  | .bbTransc i => (.basebTransc, [UInt8.ofNat i])
  | .ts i j => (.channel, [UInt8.ofNat i, UInt8.ofNat j.val])
  | .envabtse k => (.bs11Envabtse, [UInt8.ofNat k.val])
  | .nsvc k => (.gprsNsvc, [UInt8.ofNat k.val])

section

variable {bts : OmlBts} {objClass : ObjClass} {inst : AbisOmObjInst} {ref : MoRef}

theorem gsmObjclass2nmstate_eq : gsmObjclass2nmstate bts objClass inst = gsmObjclass2mo bts objClass inst := by
  unfold gsmObjclass2nmstate
  cases gsmObjclass2mo bts objClass inst <;> rfl

theorem of_arrayField {α : Type} {n : Nat} {field : Fin n → α} {k : Octet} {a : α} (h : arrayField field k = .at a) :
    ∃ hk : k.toNat < n, a = field ⟨k.toNat, hk⟩ := by
  unfold arrayField at h
  split_ifs at h with hk
  exact ⟨hk, (Ptr.at.inj h).symm⟩

/-- The classes of a transceiver: nothing is found beyond the count, and otherwise the transceiver is there. -/
theorem trx_cases (h : Consistent bts) (k : Octet) :
    bts.numTrx ≤ k.toNat ∨
      ¬ bts.numTrx ≤ k.toNat ∧ gsmBtsTrxNum bts k.toNat = some k.toNat ∧ k.toNat < bts.trxList.length := by
  by_cases hk : bts.numTrx ≤ k.toNat
  · exact .inl hk
  · have hlt : k.toNat < bts.numTrx := by omega
    exact .inr ⟨hk, gsmBtsTrxNum_eq h k hlt, h.numTrx_eq ▸ hlt⟩

/-- What can be found: a place for the class and the numbering octets, in a transceiver that exists. -/
theorem gsmObjclass2mo_at (h : Consistent bts) (hclass : objClass ≠ .bs11)
    (hfound : gsmObjclass2mo bts objClass inst = .at ref) :
    ref.address = (objClass, numbering objClass inst) ∧ (bts.mo? ref).isSome := by
  cases objClass with
  | siteManager | bts | bs11Rack | gprsNse | gprsCell =>
    cases hfound
    exact ⟨rfl, rfl⟩
  | bs11 => exact absurd rfl hclass
  | other o => cases hfound
  | bs11Envabtse | gprsNsvc =>
    obtain ⟨hk, rfl⟩ := of_arrayField hfound
    exact ⟨by simp [MoRef.address, numbering], rfl⟩
  | radioCarrier | basebTransc =>
    unfold gsmObjclass2mo at hfound
    rcases trx_cases h inst.trxNr with hk | ⟨hk, hnum, hlt⟩
    · simp only [if_pos hk] at hfound
      cases hfound
    · simp only [if_neg hk, hnum, trxField] at hfound
      cases hfound
      exact ⟨by simp [MoRef.address, numbering], by simp [OmlBts.mo?, hlt]⟩
  | channel =>
    unfold gsmObjclass2mo at hfound
    rcases trx_cases h inst.trxNr with hk | ⟨hk, hnum, hlt⟩
    · simp only [if_pos hk] at hfound
      cases hfound
    · simp only [if_neg hk, hnum] at hfound
      obtain ⟨hts, rfl⟩ := of_arrayField hfound
      exact ⟨by simp [MoRef.address, numbering], by simp [OmlBts.mo?, hlt]⟩

/-- An object of a class that `gsm_mo_init` is called for has the class and the numbering octets of its place. -/
theorem mo_named (h : Consistent bts) {mo : GsmAbisMo} (hmo : bts.mo? ref = some mo)
    (hinit : Initialised ref.address.1) :
    mo.objClass = ref.address.1 ∧ numbering ref.address.1 mo.objInst = ref.address.2 := by
  have htrx : ∀ (i : Nat) (field : OmlTrx → GsmAbisMo), bts.trxList[i]?.map field = some mo →
      ∃ btsNr, mo = field (omlTrxInit btsNr (UInt8.ofNat i)) := by
    intro i field hfield
    obtain ⟨trx, htrx, rfl⟩ := Option.map_eq_some_iff.mp hfield
    obtain ⟨btsNr, rfl⟩ := h.trx i trx htrx
    exact ⟨btsNr, rfl⟩
  cases ref with
  | bts =>
    cases hmo
    rw [h.mo_eq]
    exact ⟨rfl, rfl⟩
  | siteMgr =>
    cases hmo
    rw [h.siteMgr_eq]
    exact ⟨rfl, rfl⟩
  | nse =>
    cases hmo
    rw [h.nse_eq]
    exact ⟨rfl, rfl⟩
  | cell =>
    cases hmo
    rw [h.cell_eq]
    exact ⟨rfl, rfl⟩
  | nsvc k =>
    cases hmo
    rw [h.nsvc_eq k]
    exact ⟨rfl, rfl⟩
  | carrier i =>
    obtain ⟨btsNr, rfl⟩ := htrx i OmlTrx.mo hmo
    exact ⟨rfl, rfl⟩
  | bbTransc i =>
    obtain ⟨btsNr, rfl⟩ := htrx i OmlTrx.bbTransc hmo
    exact ⟨rfl, rfl⟩
  | ts i j =>
    obtain ⟨btsNr, rfl⟩ := htrx i (fun trx => trx.ts.get j) hmo
    rw [show (omlTrxInit btsNr (UInt8.ofNat i)).ts.get j =
      gsmMoInit .channel btsNr (UInt8.ofNat i) (UInt8.ofNat j.val) from Vector.getElem_ofFn j.isLt]
    exact ⟨rfl, rfl⟩
  | cclk | rack | bbsig | pa | envabtse => exact hinit.elim

theorem arrayField_ne_wild {α : Type} {n : Nat} (field : Fin n → α) (k : Octet) : arrayField field k ≠ .wild := by
  unfold arrayField
  split_ifs
  · intro h
    cases h
  · intro h
    cases h

/-- No address is taken from a transceiver that does not exist. -/
theorem gsmObjclass2mo_ne_wild (h : Consistent bts) : gsmObjclass2mo bts objClass inst ≠ .wild := by
  cases objClass with
  | bs11Envabtse | gprsNsvc => exact arrayField_ne_wild _ _
  | radioCarrier | basebTransc =>
    unfold gsmObjclass2mo
    rcases trx_cases h inst.trxNr with hk | ⟨hk, hnum, -⟩
    · simp [if_pos hk]
    · simp [if_neg hk, hnum, trxField]
  | channel =>
    unfold gsmObjclass2mo
    rcases trx_cases h inst.trxNr with hk | ⟨hk, hnum, -⟩
    · simp [if_pos hk]
    · simp only [if_neg hk, hnum]
      exact arrayField_ne_wild _ _
  | bs11 =>
    unfold gsmObjclass2mo
    cases bs11Object bts inst with
    | null =>
      intro hwild
      cases hwild
    | «at» a =>
      intro hwild
      cases hwild
    | wild =>
      intro hwild
      cases hwild
  | siteManager | bts | bs11Rack | gprsNse | gprsCell | other =>
    intro hwild
    cases hwild

theorem map_arrayField {α β : Type} {n : Nat} (f : α → β) (field : Fin n → α) (k : Octet) :
    (arrayField field k).map f = arrayField (fun i => f (field i)) k := by
  unfold arrayField
  split_ifs
  · rfl
  · rfl

/-- The two tables go together. -/
theorem gsmObjclass2mo_eq_obj (h : Consistent bts) (hboth : InBoth objClass) :
    gsmObjclass2mo bts objClass inst = (gsmObjclass2obj bts objClass inst).map ObjRef.mo := by
  unfold gsmObjclass2mo gsmObjclass2obj
  cases objClass with
  | radioCarrier | basebTransc =>
    rcases trx_cases h inst.trxNr with hk | ⟨hk, hnum, -⟩
    · simp only [if_pos hk]
      rfl
    · simp only [if_neg hk, hnum]
      rfl
  | channel =>
    rcases trx_cases h inst.trxNr with hk | ⟨hk, hnum, -⟩
    · simp only [if_pos hk]
      rfl
    · simp only [if_neg hk, hnum]
      exact (map_arrayField ObjRef.mo (ObjRef.ts inst.trxNr.toNat) inst.tsNr).symm
  | gprsNsvc => exact (map_arrayField ObjRef.mo ObjRef.nsvc inst.trxNr).symm
  | bs11 | bs11Rack | bs11Envabtse => exact hboth.elim
  | siteManager | bts | gprsNse | gprsCell | other => rfl

end

/-- Every class but `NM_OC_BS11`, by the octets that number its objects. -/
theorem objectAddressed {bts : OmlBts} (h : Configured bts) (objClass : ObjClass) (hclass : objClass ≠ .bs11)
    (inst : AbisOmObjInst) : ObjectAddressed numbering bts objClass inst where
  named := by
    intro ref hfound
    obtain ⟨haddress, hmo⟩ := gsmObjclass2mo_at h.consistent hclass hfound
    obtain ⟨mo, hmo⟩ := Option.isSome_iff_exists.mp hmo
    refine ⟨mo, hmo, fun hinit => ?_⟩
    have hnamed := mo_named h.consistent hmo (by rw [haddress]; exact hinit)
    rw [haddress] at hnamed
    exact hnamed
  trxExists := gsmObjclass2mo_ne_wild h.consistent
  alone := by
    intro objClass' inst' ref hclass' hfound hfound'
    rw [gsmObjclass2nmstate_eq] at hfound hfound'
    have haddress := (gsmObjclass2mo_at h.consistent hclass hfound).1
    rw [(gsmObjclass2mo_at h.consistent hclass' hfound').1] at haddress
    exact ⟨congrArg Prod.fst haddress, congrArg Prod.snd haddress⟩
  agrees := gsmObjclass2mo_eq_obj h.consistent

/-- The second timeslot of the first transceiver. -/
theorem objectAddressed_channel : ObjectAddressed numbering gsmBtsAlloc .channel ⟨0, 0, 1⟩ :=
  objectAddressed .alloc .channel (by decide) ⟨0, 0, 1⟩

/-- The octet of the BTS does not tell objects apart: the BTS has one record, whatever number a message gives it. -/
theorem not_objectAddressed_instance :
    ¬ ObjectAddressed (fun _ inst => [inst.btsNr, inst.trxNr, inst.tsNr]) gsmBtsAlloc .bts ⟨1, 0xff, 0xff⟩ := by
  intro h
  obtain ⟨mo, hmo, hnamed⟩ := h.named .bts rfl
  cases hmo
  exact absurd (hnamed trivial).2 (by decide)

end OpenBsc.Libcommon
