import OpenBsc.Lib.Transition
import OpenBsc.Ns.Protocol

/-!
# `Ns.Runs` — runs of an instance, and what an event does to one NS-VC

An event works on one NS-VC at most: it changes it by an action, or creates it and changes it at once, or leaves the
table alone (`NsOp`). `nsStep_does` says that the instance does what `nsOp` reads off the event, so whatever holds
of a single NS-VC with its past under every action holds of the whole table in every run (`reachableBy_each`).
-/

namespace OpenBsc.Ns

open Transition GprsNsInst Pool

variable {β : Type}

/-! ## Runs -/

/-- What can happen to an instance: a datagram arrives, a timer expires, the user or the operator wants something. -/
inductive NsEvent (β : Type) where
  | rcvmsg (ll : GprsNsLl) (saddr : SockaddrIn) (pdu : NsPdu β)
  | timer (i : Nat)
  | block (i : Nat) (cause : NsCause)
  | unblock (i : Nat)
  | reset (i : Nat) (cause : NsCause)
  | connect (dest : SockaddrIn) (nsei nsvci : BitVec 16)
  | sendmsg (nsei bvci : BitVec 16) (sdu : β)
  | remoteIsSgsn (i : Nat)
  | nseNsvc (nsei nsvci : BitVec 16)
  | nseRemoteip (nsei : BitVec 16) (addr : BitVec 32)
  | nseRemoteport (nsei port : BitVec 16)
  | nseFrDlci (nsei dlci : BitVec 16)
  | nseEncaps (nsei : BitVec 16) (udp : Bool)
  | nseRemoterole (nsei : BitVec 16) (sgsn : Bool)
  | noNse (nsei : BitVec 16)
  | aliveRetries (value : Nat)

/-- An instance after an event, if the process lives. -/
def nsStep (nsi : GprsNsInst β) (ev : NsEvent β) : Option (GprsNsInst β) :=
  match ev with
  | .rcvmsg ll saddr pdu => nsi.gprsNsRcvmsg ll saddr pdu
  | .timer i => some (nsi.handle i fun nsvc =>
    if nsvc.timer then gprsNsTimerCb nsi.aliveRetries i nsvc else (nsvc, []))
  | .block i cause => some (nsi.handle i fun nsvc => gprsNsTxBlock i nsvc cause)
  | .unblock i => some (nsi.handle i fun nsvc => (nsvc, gprsNsTx i nsvc .unblock))
  | .reset i cause => some (nsi.handle i fun nsvc => gprsNsvcReset i nsvc cause)
  | .connect dest nsei nsvci => some (nsi.nsipConnect dest nsei nsvci)
  | .sendmsg nsei bvci sdu => some (nsi.gprsNsSendmsg nsei bvci sdu)
  | .remoteIsSgsn i => some (nsi.handle i fun nsvc => ({ nsvc with remoteEndIsSgsn := true }, []))
  | .nseNsvc nsei nsvci => some (nsi.cfgNseNsvc nsei nsvci)
  | .nseRemoteip nsei addr => some (nsi.cfgNseRemoteip nsei addr)
  | .nseRemoteport nsei port => some (nsi.cfgNseRemoteport nsei port)
  | .nseFrDlci nsei dlci => some (nsi.cfgNseFrDlci nsei dlci)
  | .nseEncaps nsei udp => some (nsi.cfgNseEncaps nsei udp)
  | .nseRemoterole nsei sgsn => some (nsi.cfgNseRemoterole nsei sgsn)
  | .noNse nsei => some (nsi.cfgNoNse nsei)
  | .aliveRetries value => some { nsi with aliveRetries := value }

/-- An instance with any events in any order. -/
def nsSystem (β : Type) : System (GprsNsInst β) (NsEvent β) where
  init nsi := nsi = GprsNsInst.instantiate
  step nsi ev nsi' := nsStep nsi ev = some nsi'

/-! ## Actions -/

/-- What happens to one NS-VC. A PDU may come from a new address of it. -/
inductive NsvcAct (β : Type) where
  | rx (moved : Option SockaddrIn) (pdu : NsPdu β)
  | timer (retries : Nat)
  | block (cause : NsCause)
  | unblock
  | reset (cause : NsCause)
  | connect (dest : SockaddrIn) (nsei nsvci : BitVec 16)
  | send (bvci : BitVec 16) (sdu : β)
  | number (nsvci : BitVec 16)
  | remoteip (addr : BitVec 32)
  | remoteport (ll : GprsNsLl) (port : BitVec 16)
  | encaps (udp : Bool)
  | role (sgsn : Bool)
  | notPersistent

/-- The NS-VC `id` after an action, and what comes out. -/
def NsvcAct.run (act : NsvcAct β) (id : Nat) (nsvc : GprsNsvc) : GprsNsvc × List (NsOut β) :=
  match act with
  | .rx moved pdu => nsRx id { nsvc with btsAddr := moved.getD nsvc.btsAddr } pdu
  | .timer retries => if nsvc.timer then gprsNsTimerCb retries id nsvc else (nsvc, [])
  | .block cause => gprsNsTxBlock id nsvc cause
  | .unblock => (nsvc, gprsNsTx id nsvc .unblock)
  | .reset cause => gprsNsvcReset id nsvc cause
  | .connect dest nsei nsvci =>
    gprsNsvcReset id { nsvc with
      btsAddr := dest
      nsei := nsei
      nsvci := nsvci
      remoteEndIsSgsn := true } .omIntervention
  | .send bvci sdu =>
    (nsvc, if nsvc.state = { alive := true } then gprsNsTx id nsvc (.unitdata bvci sdu) else [])
  | .number nsvci => ({ nsvc with nsvci := nsvci, persistent := true }, [])
  | .remoteip addr => ({ nsvc with btsAddr := { nsvc.btsAddr with sinAddr := addr } }, [])
  | .remoteport ll port =>
    (if nsvc.ll ≠ ll then nsvc else { nsvc with btsAddr := { nsvc.btsAddr with sinPort := port } }, [])
  | .encaps udp => ({ nsvc with ll := if udp then .udp else .frGre }, [])
  | .role sgsn => ({ nsvc with remoteEndIsSgsn := sgsn }, [])
  | .notPersistent => ({ nsvc with persistent := false }, [])

/-- What an event does to the table: nothing, an action on one NS-VC, or on one that is created. -/
inductive NsOp (β : Type) where
  | idle (outs : List (NsOut β))
  | on (i : Nat) (act : NsvcAct β)
  | new (base : GprsNsvc) (act : NsvcAct β)

/-- The table after an operation. -/
def NsOp.apply (op : NsOp β) (nsvcs : Pool GprsNsvc) : Pool GprsNsvc :=
  match op with
  | .idle _ => nsvcs
  | .on i act => nsvcs.modify i fun nsvc => (act.run i nsvc).1
  | .new base act => nsvcs.alloc (act.run nsvcs.next base).1

/-- What comes out of an operation. -/
def NsOp.outs (op : NsOp β) (nsvcs : Pool GprsNsvc) : List (NsOut β) :=
  match op with
  | .idle outs => outs
  | .on i act =>
    match nsvcs.get? i with
    | none => []
    | some nsvc => (act.run i nsvc).2
  | .new base act => (act.run nsvcs.next base).2

/-- The action is for the NS-VC that was found, if there is one. -/
def NsOp.onFound (found : Option (Nat × GprsNsvc)) (act : NsvcAct β) : NsOp β :=
  match found with
  | none => .idle []
  | some (i, _) => .on i act

/-- The action is for the NS-VC that was found, or for a new one. -/
def NsOp.onFoundOr (found : Option (Nat × GprsNsvc)) (base : GprsNsvc) (act : NsvcAct β) : NsOp β :=
  match found with
  | none => .new base act
  | some (i, _) => .on i act

namespace GprsNsInst

/-- The NS-VC that answers a PDU from an unknown address. -/
def dummyFor (nsi : GprsNsInst β) (ll : GprsNsLl) (saddr : SockaddrIn) : GprsNsvc :=
  { nsi.unknownNsvc with
    nsvci := 0xfffe
    nsei := 0xfffe
    btsAddr := saddr
    state := { alive := true }
    ll := ll }

/-- What a PDU does to the table. -/
def rcvOp (nsi : GprsNsInst β) (ll : GprsNsLl) (saddr : SockaddrIn) (pdu : NsPdu β) : NsOp β :=
  match nsi.nsvcByRemAddr saddr with
  | some (i, _) => .on i (.rx none pdu)
  | none =>
    match pdu with
    | .reset (some ⟨some _, some _, some nsei⟩) =>
      .onFoundOr (nsi.nsvcByNsei nsei) { newNsvc 0xffff with ll := ll } (.rx (some saddr) pdu)
    | .reset _ | .status _ => .idle []
    | _ => .idle (gprsNsTxStatus none (nsi.dummyFor ll saddr) .pduIncompPstate 0 pdu)

/-- What an event does to the table. -/
def nsOp (nsi : GprsNsInst β) (ev : NsEvent β) : NsOp β :=
  match ev with
  | .rcvmsg ll saddr pdu => nsi.rcvOp ll saddr pdu
  | .timer i => .on i (.timer nsi.aliveRetries)
  | .block i cause => .on i (.block cause)
  | .unblock i => .on i .unblock
  | .reset i cause => .on i (.reset cause)
  | .connect dest nsei nsvci =>
    .onFoundOr (nsi.nsvcByRemAddr dest) (newNsvc nsvci) (.connect dest nsei nsvci)
  | .sendmsg nsei bvci sdu => .onFound (nsi.nsvcByNsei nsei) (.send bvci sdu)
  | .remoteIsSgsn i => .on i (.role true)
  | .nseNsvc nsei nsvci =>
    .onFoundOr (nsi.nsvcByNsei nsei) { newNsvc nsvci with nsei := nsei } (.number nsvci)
  | .nseRemoteip nsei addr => .onFound (nsi.nsvcByNsei nsei) (.remoteip addr)
  | .nseRemoteport nsei port => .onFound (nsi.nsvcByNsei nsei) (.remoteport .udp port)
  | .nseFrDlci nsei dlci => .onFound (nsi.nsvcByNsei nsei) (.remoteport .frGre dlci)
  | .nseEncaps nsei udp => .onFound (nsi.nsvcByNsei nsei) (.encaps udp)
  | .nseRemoterole nsei sgsn => .onFound (nsi.nsvcByNsei nsei) (.role sgsn)
  | .noNse nsei => .onFound (nsi.nsvcByNsei nsei) .notPersistent
  | .aliveRetries _ => .idle []

end GprsNsInst

/-! ## Refinement -/

/-- `nsi'` is `nsi` after the operation, as far as its table and what came out are concerned. -/
def NsOp.Does (op : NsOp β) (nsi nsi' : GprsNsInst β) : Prop :=
  nsi'.nsvcs = op.apply nsi.nsvcs ∧ nsi'.outbox = nsi.outbox ++ op.outs nsi.nsvcs

variable {nsi : GprsNsInst β} {i : Nat} {f : GprsNsvc → GprsNsvc × List (NsOut β)}

theorem handle_of_none (hget : nsi.nsvcs.get? i = none) : nsi.handle i f = nsi := by
  simp [handle, hget]

theorem handle_of_some {nsvc : GprsNsvc} (hget : nsi.nsvcs.get? i = some nsvc)
    (f : GprsNsvc → GprsNsvc × List (NsOut β)) :
    nsi.handle i f = { nsi with nsvcs := nsi.nsvcs.modify i fun _ => (f nsvc).1 }.put (f nsvc).2 := by
  simp [handle, hget]

variable {act : NsvcAct β}

theorem does_modify_handle {g : GprsNsvc → GprsNsvc} (hf : ∀ nsvc, f (g nsvc) = act.run i nsvc) :
    (NsOp.on i act).Does nsi ({ nsi with nsvcs := nsi.nsvcs.modify i g }.handle i f) := by
  cases hget : nsi.nsvcs.get? i with
  | none =>
    have hnone : (nsi.nsvcs.modify i g).get? i = none := by rw [modify_of_get?_none hget, hget]
    rw [handle_of_none hnone]
    constructor
    · simp [NsOp.apply, modify_of_get?_none hget]
    · simp [NsOp.outs, hget]
  | some nsvc =>
    rw [handle_of_some (get?_modify_self hget)]
    constructor
    · show (nsi.nsvcs.modify i g).modify i (fun _ => (f (g nsvc)).1) = nsi.nsvcs.modify i fun nsvc => (act.run i nsvc).1
      rw [modify_modify]
      exact modify_congr hget (congrArg Prod.fst (hf nsvc))
    · simp [put, NsOp.outs, hget, hf]

/-- A handler is an action when it does the same to every NS-VC. -/
theorem does_handle (hf : ∀ nsvc, f nsvc = act.run i nsvc) : (NsOp.on i act).Does nsi (nsi.handle i f) := by
  cases hget : nsi.nsvcs.get? i with
  | none =>
    rw [handle_of_none hget]
    constructor
    · simp [NsOp.apply, modify_of_get?_none hget]
    · simp [NsOp.outs, hget]
  | some nsvc =>
    rw [handle_of_some hget]
    constructor
    · show nsi.nsvcs.modify i (fun _ => (f nsvc).1) = nsi.nsvcs.modify i fun nsvc => (act.run i nsvc).1
      exact modify_congr hget (congrArg Prod.fst (hf nsvc))
    · simp [put, NsOp.outs, hget, hf]

variable {base : GprsNsvc}

theorem does_create_handle {made : GprsNsvc} (hf : f made = act.run nsi.nsvcs.next base) :
    (NsOp.new base act).Does nsi ((nsi.nsvcCreate made).handle nsi.nsvcs.next f) := by
  have hnew : (nsi.nsvcCreate made).nsvcs.get? nsi.nsvcs.next = some made := by
    simp [nsvcCreate, get?_alloc]
  rw [handle_of_some hnew]
  constructor
  · simp [put, nsvcCreate, NsOp.apply, modify_alloc, hf]
  · simp [put, nsvcCreate, NsOp.outs, hf]

/-- A command of the operator is an action on the NS-VC it names. -/
theorem does_configure {nsei : BitVec 16} {f : GprsNsvc → GprsNsvc} (hf : ∀ i nsvc, act.run i nsvc = (f nsvc, [])) :
    (NsOp.onFound (nsi.nsvcByNsei nsei) act).Does nsi (nsi.configure nsei f) := by
  unfold configure
  cases hfound : nsi.nsvcByNsei nsei with
  | none => exact ⟨rfl, by simp [NsOp.onFound, NsOp.outs]⟩
  | some found =>
    obtain ⟨i, nsvc⟩ := found
    constructor
    · simp [NsOp.onFound, NsOp.apply, hf]
    · simp [NsOp.onFound, NsOp.outs, hf, (of_findLast? hfound).1]

variable {nsi' : GprsNsInst β} {outs : List (NsOut β)}

theorem does_idle (hnsvcs : nsi'.nsvcs = nsi.nsvcs) (houts : nsi'.outbox = nsi.outbox ++ outs) :
    (NsOp.idle outs).Does nsi nsi' := ⟨hnsvcs, houts⟩

/-- A reset from an unknown address moves the NS-VC with that NSEI to it, or creates one there. -/
theorem does_reset (nsi : GprsNsInst β) (ll : GprsNsLl) (saddr : SockaddrIn) (nsei : BitVec 16) (pdu : NsPdu β) :
    (NsOp.onFoundOr (nsi.nsvcByNsei nsei) { newNsvc 0xffff with ll := ll } (.rx (some saddr) pdu)).Does nsi
      ((nsi.nsvcForReset ll saddr nsei).1.handle (nsi.nsvcForReset ll saddr nsei).2 fun nsvc =>
        nsRx (nsi.nsvcForReset ll saddr nsei).2 nsvc pdu) := by
  unfold nsvcForReset
  cases nsi.nsvcByNsei nsei with
  | none => exact does_create_handle rfl
  | some found => exact does_modify_handle fun nsvc => rfl

/-- `gprs_ns_rcvmsg`: the NS-VC of the address, the one the reset is for, or none. -/
theorem does_rcvmsg {ll : GprsNsLl} {saddr : SockaddrIn} {pdu : NsPdu β}
    (h : nsi.gprsNsRcvmsg ll saddr pdu = some nsi') : (nsi.rcvOp ll saddr pdu).Does nsi nsi' := by
  unfold gprsNsRcvmsg at h
  unfold rcvOp
  cases hfound : nsi.nsvcByRemAddr saddr with
  | some found =>
    simp only [hfound] at h ⊢
    cases h
    exact does_handle fun nsvc => rfl
  | none =>
    simp only [hfound] at h ⊢
    cases pdu with
    | status ies =>
      cases h
      exact does_idle rfl (by simp)
    | reset ies =>
      match ies, h with
      | none, h =>
        cases h
        exact does_idle rfl (by simp)
      | some ⟨some _, some _, some nsei⟩, h =>
        cases h
        exact does_reset nsi ll saddr nsei _
      | some ⟨none, _, _⟩, h => cases h
      | some ⟨some _, none, _⟩, h => cases h
      | some ⟨some _, some _, none⟩, h => cases h
    | _ =>
      cases h
      exact does_idle rfl rfl

theorem does_connect (nsi : GprsNsInst β) (dest : SockaddrIn) (nsei nsvci : BitVec 16) :
    (nsi.nsOp (.connect dest nsei nsvci)).Does nsi (nsi.nsipConnect dest nsei nsvci) := by
  simp only [nsOp, nsipConnect]
  cases nsi.nsvcByRemAddr dest with
  | none =>
    apply does_create_handle
    rfl
  | some found =>
    apply does_handle
    exact fun nsvc => rfl

theorem does_sendmsg (nsi : GprsNsInst β) (nsei bvci : BitVec 16) (sdu : β) :
    (nsi.nsOp (.sendmsg nsei bvci sdu)).Does nsi (nsi.gprsNsSendmsg nsei bvci sdu) := by
  simp only [nsOp, gprsNsSendmsg]
  cases hfound : nsi.nsvcByNsei nsei with
  | none => exact does_idle rfl (List.append_nil _).symm
  | some found =>
    obtain ⟨i, nsvc⟩ := found
    have hget := (Pool.of_findLast? hfound).1
    have hsame : nsi.nsvcs.modify i (fun nsvc => nsvc) = nsi.nsvcs := by simp [Pool.modify]
    rcases hstate : nsvc.state with ⟨blocked, alive⟩
    cases alive <;> cases blocked <;>
      simp [NsOp.Does, NsOp.onFound, NsOp.apply, NsOp.outs, NsvcAct.run, hget, hsame, hstate, put]

theorem does_nseNsvc (nsi : GprsNsInst β) (nsei nsvci : BitVec 16) :
    (nsi.nsOp (.nseNsvc nsei nsvci)).Does nsi (nsi.cfgNseNsvc nsei nsvci) := by
  simp only [nsOp, cfgNseNsvc]
  cases hfound : nsi.nsvcByNsei nsei with
  | none => simp [NsOp.Does, NsOp.onFoundOr, NsOp.apply, NsOp.outs, NsvcAct.run, nsvcCreate, newNsvc]
  | some found =>
    obtain ⟨i, nsvc⟩ := found
    have hget := (of_findLast? hfound).1
    simp [NsOp.Does, NsOp.onFoundOr, NsOp.apply, NsOp.outs, NsvcAct.run, hget]

/-- **What an event does.** The instance does to its table, and puts out, what is read off the event. -/
theorem nsStep_does {ev : NsEvent β} (h : nsStep nsi ev = some nsi') : (nsi.nsOp ev).Does nsi nsi' := by
  cases ev with
  | rcvmsg ll saddr pdu => exact does_rcvmsg h
  | timer | block | unblock | reset =>
    cases h
    exact does_handle fun nsvc => rfl
  | connect dest nsei nsvci =>
    cases h
    exact does_connect nsi dest nsei nsvci
  | sendmsg nsei bvci sdu =>
    cases h
    exact does_sendmsg nsi nsei bvci sdu
  | remoteIsSgsn i =>
    cases h
    exact does_handle fun nsvc => rfl
  | nseNsvc nsei nsvci =>
    cases h
    exact does_nseNsvc nsi nsei nsvci
  | nseRemoteip | nseRemoteport | nseFrDlci | nseEncaps | nseRemoterole | noNse =>
    cases h
    exact does_configure fun i nsvc => rfl
  | aliveRetries value =>
    cases h
    exact does_idle rfl (by simp)

/-! ## Histories -/

/-- What there was of the reset procedure on an NS-VC: whether it is complete, and whether a reset that was sent
    waits for its acknowledgement. -/
structure NsvcPast where
  resetDone : Bool := false
  pending : Bool := false

/-- What is remembered after an action. A reset is sent by `gprs_nsvc_reset`, and when a dead NS-VC hears from the
    other end. -/
def NsvcPast.after (past : NsvcPast) (act : NsvcAct β) (nsvc : GprsNsvc) : NsvcPast :=
  match act with
  | .reset _ | .connect .. => { resetDone := false, pending := true }
  | .rx _ .alive =>
    if nsvc.state = { blocked := true, alive := false } then { resetDone := false, pending := true } else past
  | .rx _ (.reset (some ⟨some _, some _, some _⟩)) => { past with resetDone := true }
  | .rx _ .resetAck => { resetDone := true, pending := false }
  | _ => past

/-- A reset is complete, or it changes neither the NS-VC nor what is remembered of it. -/
theorem rxReset_cases (id : Nat) (nsvc : GprsNsvc) (past : NsvcPast) (moved : Option SockaddrIn) (ies : Option NsIes) :
    (∃ cause nsvci nsei, ies = some ⟨some cause, some nsvci, some nsei⟩) ∨
      (@gprsNsRxReset β id nsvc ies).1 = nsvc ∧ past.after (@NsvcAct.rx β moved (.reset ies)) nsvc = past := by
  rcases ies with _ | ⟨_ | cause, _ | nsvci, _ | nsei⟩
  all_goals first | exact .inr ⟨rfl, rfl⟩ | exact .inl ⟨_, _, _, rfl⟩

theorem rxBlock_nsvc (id : Nat) (nsvc : GprsNsvc) (ies : Option NsIes) :
    (@gprsNsRxBlock β id nsvc ies).1 = { nsvc with state := { nsvc.state with blocked := true } } := by
  unfold gprsNsRxBlock
  split <;> rfl

/-- What is remembered of every NS-VC after an operation. -/
def NsOp.remember (op : NsOp β) (nsvcs : Pool GprsNsvc) (past : Nat → NsvcPast) : Nat → NsvcPast :=
  match op with
  | .idle _ => past
  | .on i act =>
    match nsvcs.get? i with
    | none => past
    | some nsvc => Function.update past i ((past i).after act nsvc)
  | .new base act => Function.update past nsvcs.next (NsvcPast.after {} act base)

theorem remember_of_ne {j : Nat} {nsvcs : Pool GprsNsvc} {past : Nat → NsvcPast} (h : i ≠ j) :
    (NsOp.on j act).remember nsvcs past i = past i := by
  simp only [NsOp.remember]
  cases nsvcs.get? j with
  | none => rfl
  | some nsvc => exact Function.update_of_ne h _ _

/-- An instance with what is remembered of its NS-VCs. -/
structure NsTrace (β : Type) where
  nsi : GprsNsInst β := GprsNsInst.instantiate
  past : Nat → NsvcPast := fun _ => {}

def traceStep (t : NsTrace β) (ev : NsEvent β) : Option (NsTrace β) :=
  (nsStep t.nsi ev).map fun nsi => ⟨nsi, (t.nsi.nsOp ev).remember t.nsi.nsvcs t.past⟩

/-- The runs of an instance with their history. -/
def nsTraceSystem (β : Type) : System (NsTrace β) (NsEvent β) where
  init t := t = {}
  step t ev t' := traceStep t ev = some t'

/-! ## One for all -/

/-- A condition on an action, the NS-VC it is for and what is remembered of that, met by an event. -/
def Meets (G : NsvcAct β → GprsNsvc → NsvcPast → Prop) (t : NsTrace β) (ev : NsEvent β) : Prop :=
  match t.nsi.nsOp ev with
  | .idle _ => True
  | .on i act =>
    match t.nsi.nsvcs.get? i with
    | none => True
    | some nsvc => G act nsvc (t.past i)
  | .new base act => G act base {}

instance {G : NsvcAct β → GprsNsvc → NsvcPast → Prop} [∀ act nsvc past, Decidable (G act nsvc past)]
    (t : NsTrace β) (ev : NsEvent β) : Decidable (Meets G t ev) := by
  unfold Meets
  split
  · exact instDecidableTrue
  · split
    · exact instDecidableTrue
    · infer_instance
  · infer_instance

variable {found : Option (Nat × GprsNsvc)} {a : NsvcAct β}

theorem onFound_ne_new : NsOp.onFound found a ≠ .new base act := by
  cases found <;> simp [NsOp.onFound]

theorem outs_of_onFound_idle (h : NsOp.onFound found act = .idle outs) : outs = [] := by
  cases found with
  | none => exact (NsOp.idle.inj h).symm
  | some found => cases h

theorem onFoundOr_ne_idle : NsOp.onFoundOr found base act ≠ .idle outs := by
  cases found <;> simp [NsOp.onFoundOr]

theorem of_onFound_on (h : NsOp.onFound found a = .on i act) : a = act ∧ ∃ nsvc, found = some (i, nsvc) := by
  cases found with
  | none => cases h
  | some found =>
    cases h
    exact ⟨rfl, found.2, rfl⟩

theorem of_onFoundOr_on (h : NsOp.onFoundOr found base a = .on i act) : a = act ∧ ∃ nsvc, found = some (i, nsvc) := by
  cases found with
  | none => cases h
  | some found =>
    cases h
    exact ⟨rfl, found.2, rfl⟩

theorem of_onFoundOr_new {b : GprsNsvc} (h : NsOp.onFoundOr found b a = .new base act) :
    found = none ∧ b = base ∧ a = act := by
  cases found with
  | none => exact ⟨rfl, NsOp.new.inj h⟩
  | some found => cases h

/-- An NS-VC is created blocked, dead and without a timer. -/
theorem fresh_of_new {ev : NsEvent β} (h : nsi.nsOp ev = .new base act) :
    base.state = { blocked := true } ∧ base.timer = false := by
  cases ev with
  | rcvmsg ll saddr pdu =>
    simp only [nsOp, rcvOp] at h
    split at h
    · cases h
    · split at h
      · rw [← (of_onFoundOr_new h).2.1]
        exact ⟨rfl, rfl⟩
      all_goals cases h
  | connect | nseNsvc =>
    rw [← (of_onFoundOr_new h).2.1]
    exact ⟨rfl, rfl⟩
  | sendmsg => exact absurd h onFound_ne_new
  | nseRemoteip | nseRemoteport | nseFrDlci | nseEncaps | nseRemoterole | noNse => exact absurd h onFound_ne_new
  | _ => cases h

/-- What comes out besides the work on an NS-VC is the answer to an unknown address. -/
theorem outs_of_idle {ev : NsEvent β} (h : nsi.nsOp ev = .idle outs) :
    outs = [] ∨ ∃ ll saddr pdu, outs = gprsNsTxStatus none (nsi.dummyFor ll saddr) .pduIncompPstate 0 pdu := by
  cases ev with
  | rcvmsg ll saddr pdu =>
    simp only [nsOp, rcvOp] at h
    split at h
    · cases h
    · split at h
      · exact absurd h onFoundOr_ne_idle
      · exact .inl (NsOp.idle.inj h).symm
      · exact .inl (NsOp.idle.inj h).symm
      · exact .inr ⟨ll, saddr, pdu, (NsOp.idle.inj h).symm⟩
  | connect | nseNsvc => exact absurd h onFoundOr_ne_idle
  | sendmsg => exact .inl (outs_of_onFound_idle h)
  | nseRemoteip | nseRemoteport | nseFrDlci | nseEncaps | nseRemoterole | noNse => exact .inl (outs_of_onFound_idle h)
  | aliveRetries value => exact .inl (NsOp.idle.inj h).symm
  | _ => cases h

/-- **One for all.** What holds of a fresh NS-VC, and is kept by every action that meets a condition, holds of every
    NS-VC in every run whose events meet it. -/
theorem reachableBy_each {G : NsvcAct β → GprsNsvc → NsvcPast → Prop} {I : GprsNsvc → NsvcPast → Prop}
    (hfresh : ∀ nsvc, nsvc.state = { blocked := true } → nsvc.timer = false → I nsvc {})
    (hact : ∀ id act nsvc past, I nsvc past → G act nsvc past → I (act.run id nsvc).1 (past.after act nsvc))
    {t : NsTrace β} (h : ReachableBy (nsTraceSystem β) (Meets G) t) :
    ∀ i nsvc, t.nsi.nsvcs.get? i = some nsvc → I nsvc (t.past i) := by
  refine h.invariant (I := fun t => ∀ i nsvc, t.nsi.nsvcs.get? i = some nsvc → I nsvc (t.past i)) ?_ ?_
  · rintro t rfl i nsvc hget
    cases hget
  · intro t ev t' ih hG hstep
    obtain ⟨nsi', hnsi, rfl⟩ := Option.map_eq_some_iff.mp hstep
    intro i nsvc hget
    show I nsvc ((t.nsi.nsOp ev).remember t.nsi.nsvcs t.past i)
    replace hget : ((t.nsi.nsOp ev).apply t.nsi.nsvcs).get? i = some nsvc := by
      rw [← (nsStep_does hnsi).1]
      exact hget
    unfold Meets at hG
    cases hop : t.nsi.nsOp ev with
    | idle outs =>
      rw [hop] at hget
      exact ih i nsvc hget
    | on j act =>
      simp only [hop, NsOp.apply] at hget hG ⊢
      by_cases hij : i = j
      · subst hij
        rw [get?_modify, if_pos rfl] at hget
        obtain ⟨old, hold, rfl⟩ := Option.map_eq_some_iff.mp hget
        simp only [NsOp.remember, hold, Function.update_self] at hG ⊢
        exact hact i act old (t.past i) (ih i old hold) hG
      · rw [get?_modify_ne hij] at hget
        rw [remember_of_ne hij]
        exact ih i nsvc hget
    | new base act =>
      simp only [hop, NsOp.apply, NsOp.remember] at hget hG ⊢
      rw [get?_alloc] at hget
      by_cases hi : i = t.nsi.nsvcs.next
      · subst hi
        rw [if_pos rfl] at hget
        cases hget
        rw [Function.update_self]
        obtain ⟨hstate, htimer⟩ := fresh_of_new hop
        exact hact _ act base {} (hfresh base hstate htimer) hG
      · rw [if_neg hi] at hget
        rw [Function.update_of_ne hi]
        exact ih i nsvc hget

end OpenBsc.Ns
